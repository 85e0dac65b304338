import Clackd.Hal.Via.Transport
import Clackd.Foundation.Run

/-!
# Pairing responses with requests

The device answers every request once and in order, and the kernel queues its
answers in that order, each after a delay of its own.  A `Link` is that
environment: the requests written so far, the instant the answer to each one is
(or will be) in the read queue, and how many answers have been read.  A round
trip reads *the next* answer; nothing says it is the answer to its own request.

`PairedLink` is the same environment with a read that waits for the answer to
the last request, which is what a round trip means to do.

## Main results

* `logged_iff`: in every history of a link, the round trips whose own answer
  came in time took their own answer exactly if none of them came after one
  whose own answer was late.
* `op_simulates`: with nothing left over in the queue, an operation gives on a
  link the result it gives on a paired one.
* `roundtrips_paired_iff`: both, for every sequence of operations.
-/

namespace Clackd.Hal.Via

open Clackd.Foundation Clackd.Hal

/-! ## The link -/

/-- What became of one round trip. -/
structure Exchange where
  /-- The number of its request. -/
  own : Nat
  /-- Whether the answer to its request was there before its deadline. -/
  inTime : Bool
  /-- The number of the answer it read, if it read one. -/
  taken : Option Nat
  deriving DecidableEq, Repr

/-- A device that answers each request once, behind a FIFO read queue. -/
structure Link where
  /-- The answer to the last of the requests seen so far. -/
  device : List (List UInt8) → Frame
  /-- How long the answer to the `n`-th request takes at least. -/
  delay : Nat → Nat
  clock : Nat
  requests : List (List UInt8)
  /-- When the answer to each request is in the read queue. -/
  arrivals : List Nat
  /-- How many answers have been read. -/
  consumed : Nat
  log : List Exchange

namespace Link

/-- A link nothing was sent over yet. -/
def open_ (device : List (List UInt8) → Frame) (delay : Nat → Nat) (now : Nat) : Link where
  device := device
  delay := delay
  clock := now
  requests := []
  arrivals := []
  consumed := 0
  log := []

/-- When an answer is in the queue; never, if its request was not written. -/
def arrival (k : Link) (n : Nat) : Option Nat := k.arrivals[n]?

/-- The `n`-th answer. -/
def answer (k : Link) (n : Nat) : Frame := k.device (k.requests.take (n + 1))

/-- The answer to a request written now: after its own delay, and not before
the answer ahead of it. -/
def due (k : Link) : Nat :=
  max (k.clock + k.delay k.requests.length) (k.arrivals.getLast?.getD 0)

/-- Write a request. -/
def write (buf : List UInt8) (k : Link) : Polled Nat × Link :=
  (.ready (.ok buf.length),
    { k with requests := k.requests ++ [buf], arrivals := k.arrivals ++ [k.due] })

/-- Whether answer `n` is in the queue before the deadline. -/
def before (k : Link) (n deadline : Nat) : Bool := (k.arrival n).any (· < deadline)

/-- The round trip that ends now, having read that answer or none. -/
def exchange (k : Link) (deadline : Nat) (taken : Option Nat) : Exchange :=
  ⟨k.requests.length - 1, k.before (k.requests.length - 1) deadline, taken⟩

/-- The link after answer `n` was read. -/
def took (n deadline : Nat) (k : Link) : Link :=
  { k with
    clock := max k.clock ((k.arrival n).getD 0)
    consumed := n + 1
    log := k.log ++ [k.exchange deadline (some n)] }

/-- The link after a read that waited until the deadline. -/
def expired (deadline : Nat) (k : Link) : Link :=
  { k with
    clock := max k.clock deadline
    log := k.log ++ [k.exchange deadline none] }

/-- Read answer `n`, or wait until the deadline. -/
def readAt (n deadline : Nat) (k : Link) : Polled (List UInt8) × Link :=
  if k.before n deadline then (.ready (.ok (k.answer n).toList), k.took n deadline)
  else (.elapsed, k.expired deadline)

theorem readAt_ready {n deadline : Nat} {k : Link} (h : k.before n deadline = true) :
    readAt n deadline k = (.ready (.ok (k.answer n).toList), k.took n deadline) :=
  if_pos h

theorem readAt_elapsed {n deadline : Nat} {k : Link} (h : ¬ k.before n deadline = true) :
    readAt n deadline k = (.elapsed, k.expired deadline) :=
  if_neg h

instance : HidrawNode Link where
  now := clock
  write _ buf := write buf
  read deadline k := readAt k.consumed deadline k

end Link

/-- A link whose reads wait for the answer to the last request. -/
structure PairedLink where
  link : Link

instance : HidrawNode PairedLink where
  now p := p.link.clock
  write _ buf p := ((p.link.write buf).1, ⟨(p.link.write buf).2⟩)
  read deadline p :=
    ((p.link.readAt (p.link.requests.length - 1) deadline).1,
      ⟨(p.link.readAt (p.link.requests.length - 1) deadline).2⟩)

/-! ## The log of a link -/

/-- How many answers a log has taken. -/
def takenCount (log : List Exchange) : Nat := log.countP fun x => x.taken.isSome

/-- A log a FIFO link can have.  An answer that is in time is preceded in the
queue by answers that are in time, so a round trip takes whatever is first in
the queue if its own answer came in time; and if its own answer is first, it
takes it only then. -/
inductive Logged : List Exchange → Prop
  | nil : Logged []
  | snoc {log : List Exchange} {x : Exchange} (h : Logged log) (own : x.own = log.length)
      (inTime : x.inTime = true → x.taken = some (takenCount log))
      (late : x.inTime = false → takenCount log = log.length → x.taken = none) :
      Logged (log ++ [x])

theorem takenCount_snoc (log : List Exchange) (x : Exchange) :
    takenCount (log ++ [x]) = takenCount log + if x.taken.isSome then 1 else 0 := by
  rw [takenCount, takenCount, List.countP_append, List.countP_singleton]

theorem takenCount_le (log : List Exchange) : takenCount log ≤ log.length :=
  List.countP_le_length

/-- Nothing is left over after a log exactly if every own answer in it came in
time. -/
theorem Logged.takenCount_eq_iff {log : List Exchange} (h : Logged log) :
    takenCount log = log.length ↔ ∀ x ∈ log, x.inTime = true := by
  induction h with
  | nil => exact ⟨fun _ x hx => absurd hx List.not_mem_nil, fun _ => rfl⟩
  | @snoc log x h own inTime late ih =>
      have hle := takenCount_le log
      rw [takenCount_snoc, List.length_append, List.length_singleton]
      simp only [List.mem_append, List.mem_singleton]
      cases hx : x.inTime with
      | true =>
          rw [inTime hx, Option.isSome_some, if_pos rfl, Nat.add_right_cancel_iff, ih]
          constructor
          · rintro hall y (hy | rfl)
            · exact hall y hy
            · exact hx
          · exact fun hall y hy => hall y (.inl hy)
      | false =>
          constructor
          · intro hcount
            exfalso
            by_cases htaken : x.taken.isSome = true
            · have hnone := late hx (by rw [if_pos htaken] at hcount; omega)
              rw [hnone] at htaken
              cases htaken
            · rw [if_neg htaken] at hcount
              omega
          · intro hall
            have hcon := hall x (.inr rfl)
            rw [hx] at hcon
            cases hcon

/-- A round trip of a log whose own answer came in time took it exactly if the
own answer of every earlier round trip came in time. -/
theorem Logged.taken_own_iff {log : List Exchange} (h : Logged log) :
    ∀ pre x post, log = pre ++ x :: post → x.inTime = true →
      (x.taken = some x.own ↔ ∀ y ∈ pre, y.inTime = true) := by
  induction h with
  | nil =>
      intro pre x post hsplit
      exact absurd hsplit.symm (List.append_ne_nil_of_right_ne_nil pre (List.cons_ne_nil x post))
  | @snoc log x h own inTime late ih =>
      intro pre y post hsplit hy
      rcases List.eq_nil_or_concat post with rfl | ⟨post, last, rfl⟩
      · obtain ⟨rfl, hlast⟩ := List.append_inj' hsplit rfl
        injection hlast with hlast
        subst hlast
        rw [inTime hy, own, Option.some.injEq]
        exact h.takenCount_eq_iff
      · rw [List.concat_eq_append, ← List.cons_append, ← List.append_assoc] at hsplit
        obtain ⟨hlog, -⟩ := List.append_inj' hsplit rfl
        exact ih pre y post hlog hy

/-! ## Round trips over a link -/

namespace Link

/-- What holds of a link between two round trips. -/
structure Settled (k : Link) : Prop where
  arrivals_length : k.arrivals.length = k.requests.length
  fifo : k.arrivals.Pairwise (· ≤ ·)
  log_length : k.log.length = k.requests.length
  consumed_eq : k.consumed = takenCount k.log
  logged : Logged k.log

theorem settled_open (device : List (List UInt8) → Frame) (delay : Nat → Nat) (now : Nat) :
    Settled (open_ device delay now) where
  arrivals_length := rfl
  fifo := List.Pairwise.nil
  log_length := rfl
  consumed_eq := rfl
  logged := Logged.nil

/-- The queue stays FIFO when a request is written. -/
theorem fifo_write {k : Link} (h : Settled k) :
    (k.arrivals ++ [k.due]).Pairwise (· ≤ ·) := by
  rw [List.pairwise_append]
  refine ⟨h.fifo, List.pairwise_singleton _ _, ?_⟩
  intro a ha b hb
  rw [List.mem_singleton] at hb
  subst hb
  -- The last arrival bounds the others, and the new one.
  rcases List.eq_nil_or_concat k.arrivals with hnil | ⟨init, last, hlast⟩
  · rw [hnil] at ha
    exact absurd ha List.not_mem_nil
  · rw [List.concat_eq_append] at hlast
    have hle : a ≤ last := by
      have hfifo := h.fifo
      rw [hlast, List.pairwise_append] at hfifo
      rw [hlast, List.mem_append, List.mem_singleton] at ha
      rcases ha with ha | rfl
      · exact hfifo.2.2 a ha last (List.mem_singleton_self last)
      · exact Nat.le_refl a
    have hdue : last ≤ k.due := by
      rw [due, hlast, List.getLast?_concat, Option.getD_some]
      exact Nat.le_max_right _ _
    exact hle.trans hdue

/-- An answer ahead in the queue is there whenever a later one is. -/
theorem before_of_le {k : Link} (hfifo : k.arrivals.Pairwise (· ≤ ·)) {m n deadline : Nat}
    (hmn : m ≤ n) (h : k.before n deadline = true) : k.before m deadline = true := by
  unfold before arrival at h ⊢
  obtain ⟨b, hb, hlt⟩ := (Option.any_eq_true _ _).1 h
  obtain ⟨hn, rfl⟩ := List.getElem?_eq_some_iff.1 hb
  have hm : m < k.arrivals.length := Nat.lt_of_le_of_lt hmn hn
  rw [List.getElem?_eq_getElem hm, Option.any_some]
  rw [decide_eq_true_eq] at hlt ⊢
  rcases Nat.eq_or_lt_of_le hmn with rfl | hlt'
  · exact hlt
  · exact Nat.lt_of_le_of_lt (List.pairwise_iff_getElem.1 hfifo m n hm hn hlt') hlt

/-- A request and the read after it, on a link between two round trips. -/
theorem settled_exchange {k : Link} (h : Settled k) (buf : List UInt8) (deadline : Nat) :
    Settled (readAt k.consumed deadline (k.write buf).2).2 ∧
      ∃ x, (readAt k.consumed deadline (k.write buf).2).2.log = k.log ++ [x] := by
  have hfifo := fifo_write h
  have hle : k.consumed ≤ k.requests.length := by
    rw [h.consumed_eq, ← h.log_length]
    exact takenCount_le k.log
  have hown : (k.write buf).2.requests.length - 1 = k.requests.length := by
    change (k.requests ++ [buf]).length - 1 = k.requests.length
    rw [List.length_append, List.length_singleton, Nat.add_sub_cancel]
  have hlen : (k.arrivals ++ [k.due]).length = (k.requests ++ [buf]).length := by
    rw [List.length_append, List.length_append, h.arrivals_length]
    rfl
  have hlog : ∀ x : Exchange, (k.log ++ [x]).length = (k.requests ++ [buf]).length := by
    intro x
    rw [List.length_append, List.length_append, h.log_length]
    rfl
  by_cases hbefore : (k.write buf).2.before k.consumed deadline = true
  · rw [readAt_ready hbefore]
    refine ⟨⟨hlen, hfifo, hlog _, ?_, Logged.snoc h.logged ?_ ?_ ?_⟩, _, rfl⟩
    · change k.consumed + 1 = takenCount (k.log ++ [_])
      rw [takenCount_snoc, exchange, Option.isSome_some, if_pos rfl, h.consumed_eq]
    · exact hown.trans h.log_length.symm
    · exact fun _ => congrArg some h.consumed_eq
    · intro hlate hcount
      exfalso
      have hfirst : k.consumed = k.requests.length :=
        h.consumed_eq.trans (hcount.trans h.log_length)
      change (k.write buf).2.before ((k.write buf).2.requests.length - 1) deadline = false
        at hlate
      rw [hown, ← hfirst, hbefore] at hlate
      cases hlate
  · rw [readAt_elapsed hbefore]
    refine ⟨⟨hlen, hfifo, hlog _, ?_, Logged.snoc h.logged ?_ ?_ ?_⟩, _, rfl⟩
    · change k.consumed = takenCount (k.log ++ [_])
      rw [takenCount_snoc, exchange, Option.isSome_none, if_neg Bool.false_ne_true,
        h.consumed_eq]
      rfl
    · exact hown.trans h.log_length.symm
    · intro hintime
      change (k.write buf).2.before ((k.write buf).2.requests.length - 1) deadline = true
        at hintime
      rw [hown] at hintime
      -- The own answer is behind the first one in the queue.
      exact absurd (before_of_le hfifo hle hintime) hbefore
    · exact fun _ _ => rfl

end Link

/-- A round trip over a link is a write and a read of the next answer. -/
theorem exec_roundtrip_link (t : ViaTransport Link) (request : Frame) (name : String) :
    ∃ k, k = (t.node.write (VIA_HIDRAW_REPORT_ID :: request.toList)).2 ∧
      exec (ViaTransport.roundtrip request name) t =
        (if k.before t.node.consumed (t.node.clock + t.timeout) then
            .ok (k.answer t.node.consumed)
          else .error (.timeout t.device_id name),
        { t with node := (k.readAt t.node.consumed (t.node.clock + t.timeout)).2 }) := by
  refine ⟨_, rfl, ?_⟩
  have hw : HidrawNode.write (HidrawNode.now t.node + t.timeout)
      (VIA_HIDRAW_REPORT_ID :: request.toList) t.node =
        t.node.write (VIA_HIDRAW_REPORT_ID :: request.toList) := rfl
  by_cases hbefore : (t.node.write (VIA_HIDRAW_REPORT_ID :: request.toList)).2.before
      t.node.consumed (t.node.clock + t.timeout) = true
  · rw [if_pos hbefore, Link.readAt_ready hbefore]
    exact exec_roundtrip_of_ready hw (Link.readAt_ready hbefore)
  · rw [if_neg hbefore, Link.readAt_elapsed hbefore]
    exact exec_roundtrip_of_elapsed hw (Link.readAt_elapsed hbefore)

/-- The same transport on a paired link. -/
def ViaTransport.paired (t : ViaTransport Link) : ViaTransport PairedLink where
  node := ⟨t.node⟩
  device_id := t.device_id
  timeout := t.timeout
  macro_buffer_size := t.macro_buffer_size

/-- A round trip over a paired link reads the answer to its own request. -/
theorem exec_roundtrip_paired (t : ViaTransport Link) (request : Frame) (name : String) :
    ∃ k, k = (t.node.write (VIA_HIDRAW_REPORT_ID :: request.toList)).2 ∧
      exec (ViaTransport.roundtrip request name) t.paired =
        (if k.before t.node.requests.length (t.node.clock + t.timeout) then
            .ok (k.answer t.node.requests.length)
          else .error (.timeout t.device_id name),
        ViaTransport.paired { t with
          node := (k.readAt t.node.requests.length (t.node.clock + t.timeout)).2 }) := by
  refine ⟨_, rfl, ?_⟩
  have hw : HidrawNode.write (HidrawNode.now t.paired.node + t.paired.timeout)
      (VIA_HIDRAW_REPORT_ID :: request.toList) t.paired.node =
        ((t.node.write (VIA_HIDRAW_REPORT_ID :: request.toList)).1,
          PairedLink.mk (t.node.write (VIA_HIDRAW_REPORT_ID :: request.toList)).2) := rfl
  have hown : (t.node.write (VIA_HIDRAW_REPORT_ID :: request.toList)).2.requests.length - 1 =
      t.node.requests.length := by
    change (t.node.requests ++ [_]).length - 1 = t.node.requests.length
    rw [List.length_append, List.length_singleton, Nat.add_sub_cancel]
  have hread : HidrawNode.read (HidrawNode.now t.paired.node + t.paired.timeout)
      (PairedLink.mk (t.node.write (VIA_HIDRAW_REPORT_ID :: request.toList)).2) =
        (((t.node.write (VIA_HIDRAW_REPORT_ID :: request.toList)).2.readAt
            t.node.requests.length (t.node.clock + t.timeout)).1,
          PairedLink.mk ((t.node.write (VIA_HIDRAW_REPORT_ID :: request.toList)).2.readAt
            t.node.requests.length (t.node.clock + t.timeout)).2) := by
    rw [← hown]
    rfl
  by_cases hbefore : (t.node.write (VIA_HIDRAW_REPORT_ID :: request.toList)).2.before
      t.node.requests.length (t.node.clock + t.timeout) = true
  · rw [if_pos hbefore, Link.readAt_ready hbefore]
    rw [Link.readAt_ready hbefore] at hread
    exact exec_roundtrip_of_ready hw hread
  · rw [if_neg hbefore, Link.readAt_elapsed hbefore]
    rw [Link.readAt_elapsed hbefore] at hread
    exact exec_roundtrip_of_elapsed hw hread

/-! ## Operations over a link -/

/-- Every operation leaves the link between two round trips and only adds to
its log. -/
theorem call_settled (op : ViaOp) :
    Keeps (fun t t' : ViaTransport Link => t.node.Settled →
      t'.node.Settled ∧ ∃ xs, t'.node.log = t.node.log ++ xs) op.call := by
  refine ViaOp.call_keeps ?_ ?_ ?_ ?_ op
  · exact fun t h => ⟨h, [], (List.append_nil _).symm⟩
  · intro a b c hab hbc ha
    obtain ⟨hb, xs, hxs⟩ := hab ha
    obtain ⟨hc, ys, hys⟩ := hbc hb
    exact ⟨hc, xs ++ ys, by rw [hys, hxs, List.append_assoc]⟩
  · intro request name t ht
    obtain ⟨k, hk, hexec⟩ := exec_roundtrip_link t request name
    subst hk
    rw [hexec]
    obtain ⟨hsettled, x, hlog⟩ := Link.settled_exchange ht
      (VIA_HIDRAW_REPORT_ID :: request.toList) (t.node.clock + t.timeout)
    exact ⟨hsettled, [x], hlog⟩
  · exact fun t size h => ⟨h, [], (List.append_nil _).symm⟩

/-- Nothing is left over in the read queue. -/
def Link.Drained (k : Link) : Prop := k.consumed = k.requests.length

/-- With nothing left over, an operation gives on a link the result it gives on
a paired one. -/
theorem op_simulates (op : ViaOp) :
    Simulates (fun (t : ViaTransport Link) p => t.node.Drained ∧ p = t.paired)
      op.call op.call := by
  refine ViaOp.call_simulates ?_ ?_ ?_ op
  · rintro request name t p ⟨hdrained, rfl⟩
    obtain ⟨k, hk, hexec⟩ := exec_roundtrip_link t request name
    obtain ⟨k', hk', hexec'⟩ := exec_roundtrip_paired t request name
    have hdrained' : t.node.consumed = t.node.requests.length := hdrained
    obtain rfl : k = k' := hk.trans hk'.symm
    rw [hexec, hexec', ← hdrained']
    refine ⟨rfl, ?_⟩
    intro frame hok
    by_cases hbefore : k.before t.node.consumed (t.node.clock + t.timeout) = true
    · refine ⟨?_, rfl⟩
      change (k.readAt t.node.consumed (t.node.clock + t.timeout)).2.consumed =
        (k.readAt t.node.consumed (t.node.clock + t.timeout)).2.requests.length
      rw [Link.readAt_ready hbefore]
      change t.node.consumed + 1 = k.requests.length
      rw [hdrained', hk]
      change _ = (t.node.requests ++ [_]).length
      rw [List.length_append, List.length_singleton]
    · rw [if_neg hbefore] at hok
      cases hok
  · rintro t p ⟨-, rfl⟩
    rfl
  · rintro t p size ⟨hdrained, rfl⟩
    exact ⟨hdrained, rfl⟩

/-! ## Sequences of operations -/

/-- Let time pass before the next operation. -/
def ViaTransport.idle (t : ViaTransport Link) (gap : Nat) : ViaTransport Link :=
  { t with node := { t.node with clock := t.node.clock + gap } }

/-- The next operation, after a pause. -/
def ViaTransport.step (t : ViaTransport Link) (l : Nat × ViaOp) :
    Option (ViaTransport Link) :=
  some (exec l.2.call (t.idle l.1)).2

/-- The round trips of the next operation. -/
def ViaTransport.exchanges (t : ViaTransport Link) (l : Nat × ViaOp) : List Exchange :=
  (exec l.2.call (t.idle l.1)).2.node.log.drop t.node.log.length

/-- The transport as it is opened. -/
def ViaTransport.attach (link : Link) (device_id : String) (timeout : Nat) :
    ViaTransport Link where
  node := link
  device_id := device_id
  timeout := timeout
  macro_buffer_size := none

/-- Requests are paired with their own responses: a round trip whose own answer
comes in time reads that answer, and an operation all of whose own answers come
in time has the result computed from them. -/
def PairsOwn (t : ViaTransport Link) (l : Nat × ViaOp) : Prop :=
  (∀ x ∈ t.exchanges l, x.inTime = true → x.taken = some x.own) ∧
    (t.exchanges l ≠ [] → (∀ x ∈ t.exchanges l, x.inTime = true) →
      (exec l.2.call (t.idle l.1)).1 = (exec l.2.call (t.idle l.1).paired).1)

/-- A round trip of the operation whose own answer comes in time comes after
none whose own answer was late. -/
def NoneLateBefore (t : ViaTransport Link) (l : Nat × ViaOp) : Prop :=
  ∀ pre x post, t.exchanges l = pre ++ x :: post → x.inTime = true →
    ∀ y ∈ t.node.log ++ pre, y.inTime = true

theorem step_settled (t : ViaTransport Link) (l : Nat × ViaOp) (t' : ViaTransport Link)
    (h : t.node.Settled) (hstep : t.step l = some t') :
    t'.node.Settled ∧ t'.node.log = t.node.log ++ t.exchanges l := by
  unfold ViaTransport.step at hstep
  injection hstep with hstep
  have hidle : (t.idle l.1).node.Settled :=
    ⟨h.arrivals_length, h.fifo, h.log_length, h.consumed_eq, h.logged⟩
  obtain ⟨hsettled, xs, hlog⟩ := call_settled l.2 (t.idle l.1) hidle
  subst hstep
  refine ⟨hsettled, ?_⟩
  rw [ViaTransport.exchanges, hlog]
  change _ = t.node.log ++ (t.node.log ++ xs).drop t.node.log.length
  rw [List.drop_left]
  rfl

/-- One operation pairs its round trips with their own answers exactly if none
that is in time comes after a late one. -/
theorem pairsOwn_iff (t : ViaTransport Link) (l : Nat × ViaOp) (t' : ViaTransport Link)
    (h : t.node.Settled) (hstep : t.step l = some t') :
    PairsOwn t l ↔ NoneLateBefore t l := by
  obtain ⟨hsettled, hlog⟩ := step_settled t l t' h hstep
  have htaken : ∀ pre x post, t.exchanges l = pre ++ x :: post → x.inTime = true →
      (x.taken = some x.own ↔ ∀ y ∈ t.node.log ++ pre, y.inTime = true) := by
    intro pre x post hsplit hx
    refine hsettled.logged.taken_own_iff (t.node.log ++ pre) x post ?_ hx
    rw [hlog, hsplit, List.append_assoc]
  constructor
  · rintro ⟨hown, -⟩ pre x post hsplit hx
    refine (htaken pre x post hsplit hx).1 (hown x ?_ hx)
    rw [hsplit]
    exact List.mem_append_right pre List.mem_cons_self
  · intro hlate
    refine ⟨?_, ?_⟩
    · intro x hx hintime
      obtain ⟨pre, post, hsplit⟩ := List.append_of_mem hx
      exact (htaken pre x post hsplit hintime).2 (hlate pre x post hsplit hintime)
    · intro hne hall
      -- The first round trip is in time, so nothing was left over before it.
      obtain ⟨x, xs, hcons⟩ := List.exists_cons_of_ne_nil hne
      have hbefore := hlate [] x xs hcons (hall x (by rw [hcons]; exact List.mem_cons_self))
      rw [List.append_nil] at hbefore
      have hdrained : (t.idle l.1).node.Drained := by
        change t.node.consumed = t.node.requests.length
        rw [h.consumed_eq, ← h.log_length]
        exact h.logged.takenCount_eq_iff.2 hbefore
      exact (op_simulates l.2 (t.idle l.1) _ ⟨hdrained, rfl⟩).1

/-- Over any device that answers in order, any delays and any sequence of
operations with any pauses: every request is paired with its own response
exactly if no answer that is in time belongs to a request sent after one whose
answer was late. -/
theorem roundtrips_paired_iff (device : List (List UInt8) → Frame) (delay : Nat → Nat)
    (now : Nat) (device_id : String) (timeout : Nat) (ops : List (Nat × ViaOp)) :
    EveryStep ViaTransport.step PairsOwn
        (ViaTransport.attach (Link.open_ device delay now) device_id timeout) ops ↔
      EveryStep ViaTransport.step NoneLateBefore
        (ViaTransport.attach (Link.open_ device delay now) device_id timeout) ops :=
  everyStep_congr (fun t l t' h hstep => (step_settled t l t' h hstep).1) pairsOwn_iff
    (Link.settled_open device delay now) ops

/-- A board that echoes what it is sent, so that every keycode reads as zero. -/
def echoBoard (requests : List (List UInt8)) : Frame :=
  frameOf (requests.getLast?.getD []).tail

/-- The first answer is late by half a second, the others come at once. -/
def slowStart (n : Nat) : Nat := if n = 0 then 1500 else 1

/-- A read that times out, and one of another key a little later: the second
takes the first one's answer. -/
theorem late_answer_desyncs :
    ¬ EveryStep ViaTransport.step PairsOwn
      (ViaTransport.attach (Link.open_ echoBoard slowStart 0) "hidraw0" DEFAULT_TIMEOUT)
      [(0, .get_keycode 0 0 0), (600, .get_keycode 0 0 1)] := by
  intro h
  have hsecond := ((h _ rfl).2 _ rfl).1.2
  revert hsecond
  decide

end Clackd.Hal.Via
