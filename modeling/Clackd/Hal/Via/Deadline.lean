import Clackd.Hal.Via.Mock
import Clackd.Foundation.Run

/-!
# The flush deadline of the coalescer

The loop of `run_coalescer` keeps the pair `(buffer, deadline)`.  A `SetKeycode`
arms the deadline, an automatic flush that fails re-arms it, and a flush that
succeeds leaves nothing to arm it for.  The explicit `Flush` disarms it in
either case, so what a refused drain leaves in the buffer waits for the next
client.

`Watched` runs the actor next to a record of what its deadline is measured
against: since when each buffered write is pending, and when a drain last
failed.  The record is computed from the wake-ups and never read by the actor.

## Main results

* `flush_accepted_iff`: a drain succeeds exactly if the transport accepts the
  buffered writes one after the other.
* `armed_step`: one wake-up keeps a buffered write covered by a deadline exactly
  if it is not an explicit flush the transport refuses.
* `deadline_armed_iff`: so a run keeps them covered throughout exactly if it
  serves no such flush.
-/

namespace Clackd.Hal.Via

open Clackd.Foundation Clackd.Hal

variable {T : Type} [CoalescerTransport T]

/-! ## When a drain succeeds -/

/-- The transport accepts these writes, in this order. -/
def AcceptsAll : List (Slot × UInt16) → T → Prop
  | [], _ => True
  | (slot, keycode) :: writes, t =>
      (exec (CoalescerTransport.set_keycode slot.1 slot.2.1 slot.2.2 keycode) t).1 = .ok () ∧
        AcceptsAll writes
          (exec (CoalescerTransport.set_keycode slot.1 slot.2.1 slot.2.2 keycode) t).2

/-- The buffered writes, listed along the given keys. -/
def WriteBuffer.along (b : WriteBuffer) (keys : List Slot) : List (Slot × UInt16) :=
  keys.filterMap fun k => b[k]?.map fun kc => (k, kc)

theorem WriteBuffer.along_erase (b : WriteBuffer) {key : Slot} {keys : List Slot}
    (h : key ∉ keys) : WriteBuffer.along (b.erase key) keys = WriteBuffer.along b keys := by
  refine List.filterMap_congr ?_
  intro k hk
  have hne : key ≠ k := by
    rintro rfl
    exact h hk
  rw [lookup_erase_ne b hne]

theorem flush_entries_accepted_iff (keys : List Slot) (t : T) (b : WriteBuffer) :
    keys.Nodup →
      ((exec (flush_entries keys) (t, b)).1 = .ok () ↔
        AcceptsAll (WriteBuffer.along b keys) t) := by
  induction keys, t, b using flush_entries_induct with
  | nil t b => exact fun _ => ⟨fun _ => trivial, fun _ => rfl⟩
  | skip key keys t b h ih =>
      intro hnodup
      rw [exec_flush_entries_skip h, ih (List.nodup_cons.1 hnodup).2]
      rw [WriteBuffer.along, WriteBuffer.along, List.filterMap_cons, h]
      rfl
  | written key keys t b kc t' h hset ih =>
      intro hnodup
      obtain ⟨hnot, hrest⟩ := List.nodup_cons.1 hnodup
      have halong : WriteBuffer.along b (key :: keys) = (key, kc) :: WriteBuffer.along b keys := by
        rw [WriteBuffer.along, List.filterMap_cons, h]
        rfl
      rw [exec_flush_entries_ok h hset, ih hrest, WriteBuffer.along_erase b hnot, halong,
        AcceptsAll, hset]
      exact (and_iff_right rfl).symm
  | refused key keys t b kc e t' h hset =>
      intro _
      have halong : WriteBuffer.along b (key :: keys) = (key, kc) :: WriteBuffer.along b keys := by
        rw [WriteBuffer.along, List.filterMap_cons, h]
        rfl
      rw [exec_flush_entries_error h hset, halong, AcceptsAll, hset]
      constructor
      · intro hcon
        cases hcon
      · rintro ⟨hcon, -⟩
        cases hcon

/-- A drain succeeds exactly if the transport accepts every buffered write. -/
theorem flush_accepted_iff (order : HashOrder) (t : T) (b : WriteBuffer) :
    (exec (flush_buffer order) (t, b)).1 = .ok () ↔
      AcceptsAll (b.along (order.slots b.keys)) t := by
  have hnodup : (order.slots b.keys).Nodup :=
    (order.slots_perm b.keys).nodup_iff.2 b.nodup_keys
  rw [exec_flush_buffer]
  split
  · rename_i hempty
    have hnone : WriteBuffer.along b (order.slots b.keys) = [] := by
      refine List.filterMap_eq_nil_iff.2 ?_
      intro k _
      rw [(isEmpty_iff_lookup b).1 hempty k]
      rfl
    rw [hnone]
    exact ⟨fun _ => trivial, fun _ => rfl⟩
  · exact flush_entries_accepted_iff _ t b hnodup

/-! ## The actor and its record -/

/-- The actor with what its deadline is measured against. -/
structure Watched (T : Type) where
  actor : Coalescer T
  /-- When the oldest write still pending at a slot was accepted. -/
  since : Slot → Option Nat
  /-- When a drain last failed, explicit or automatic. -/
  failed : Option Nat

namespace Watched

/-- The record of a fresh actor. -/
def spawn (transport : T) (now : Nat) : Watched T where
  actor := Coalescer.spawn transport now
  since := fun _ => none
  failed := none

/-- A write that stays pending keeps the instant it was first accepted at. -/
def accepted (w : Watched T) (slot : Slot) (start : Nat) : Slot → Option Nat :=
  Function.update w.since slot (some ((w.since slot).getD start))

/-- The record after a drain that ended at `finish` and left the actor in
`c`. -/
def drained (w : Watched T) (order : HashOrder) (finish : Nat) (c : Coalescer T) :
    Watched T where
  actor := c
  since := fun slot => if c.buffer[slot]?.isSome then w.since slot else none
  failed := if (Coalescer.flush order w.actor).1.isOk then w.failed else some finish

/-- The record after a wake-up that left the actor in `c`. -/
def observe (w : Watched T) (c : Coalescer T) : Wakeup → Watched T
  | .recv (.setKeycode layer row col _) _ start _ =>
      { w with actor := c, since := w.accepted (layer, row, col) start }
  | .recv .flush order _ finish => w.drained order finish c
  | .recv _ _ _ _ => { w with actor := c }
  | .autoFlush order _ finish => w.drained order finish c
  | .closed order _ finish => w.drained order finish c

/-- One wake-up of the actor, recorded. -/
def step (args : CoalescerArgs) (w : Watched T) (l : Wakeup) : Option (Watched T) :=
  (Coalescer.step args w.actor l).map fun c => w.observe c l

/-- At the loop head, a non-empty buffer has a deadline, no later than
`flush_interval` after the later of the acceptance of each write still pending
and the last failed drain. -/
def Armed (args : CoalescerArgs) (w : Watched T) : Prop :=
  w.actor.exited = none → w.actor.buffer.isEmpty = false →
    ∃ d, w.actor.deadline = some d ∧ ∀ slot : Slot, w.actor.buffer[slot]?.isSome →
      ∃ t, w.since slot = some t ∧ d ≤ max t (w.failed.getD 0) + args.flush_interval

/-- If the wake-up serves an explicit `Flush`, the transport accepts every
buffered write. -/
def FlushAccepted (w : Watched T) : Wakeup → Prop
  | .recv .flush order _ _ =>
      AcceptsAll (WriteBuffer.along w.actor.buffer (order.slots w.actor.buffer.keys))
        w.actor.transport
  | _ => True

/-- What holds of the record whatever the transport does. -/
structure Recorded (w : Watched T) : Prop where
  since_iff : ∀ slot : Slot, (w.since slot).isSome = (w.actor.buffer[slot]?).isSome
  since_le : ∀ slot t, w.since slot = some t → t ≤ w.actor.clock
  idle : w.actor.exited = none → w.actor.buffer.isEmpty = true → w.actor.deadline = none

omit [CoalescerTransport T] in
theorem recorded_spawn (transport : T) (now : Nat) : Recorded (spawn transport now) where
  since_iff := by
    intro slot
    rfl
  since_le := by
    intro slot t h
    cases h
  idle := fun _ _ => rfl

end Watched

/-! ## What each arm does to the buffer and its deadline -/

namespace Coalescer

variable (args : CoalescerArgs) (order : HashOrder) (c : Coalescer T)

omit [CoalescerTransport T] in
theorem emit_frame : (emit_layout_updated args c).buffer = c.buffer ∧
    (emit_layout_updated args c).deadline = c.deadline ∧
    (emit_layout_updated args c).exited = c.exited := by
  obtain ⟨emitted, h⟩ := emit_layout_updated_eq args c
  rw [h]
  exact ⟨rfl, rfl, rfl⟩

/-- Only `SetKeycode` and `Flush` touch the buffer or the deadline. -/
theorem serve_frame (now : Nat) (op : CoalescerOp)
    (hset : ∀ layer row col kc, op ≠ .setKeycode layer row col kc) (hflush : op ≠ .flush) :
    (serve args order now c op).2.buffer = c.buffer ∧
      (serve args order now c op).2.deadline = c.deadline ∧
      (serve args order now c op).2.exited = c.exited := by
  cases op with
  | setKeycode layer row col kc => exact absurd rfl (hset layer row col kc)
  | flush => exact absurd rfl hflush
  | getKeycode layer row col =>
      change (getKeycode layer row col c).2.buffer = c.buffer ∧
        (getKeycode layer row col c).2.deadline = c.deadline ∧
        (getKeycode layer row col c).2.exited = c.exited
      cases h : c.buffer[(layer, row, col)]? with
      | some kc =>
          rw [getKeycode_pending h]
          exact ⟨rfl, rfl, rfl⟩
      | none =>
          rw [getKeycode_stored h]
          exact ⟨rfl, rfl, rfl⟩
  | setLighting channel value_id data =>
      change (setLighting channel value_id data c).2.buffer = c.buffer ∧
        (setLighting channel value_id data c).2.deadline = c.deadline ∧
        (setLighting channel value_id data c).2.exited = c.exited
      rcases h : onTransport (CoalescerTransport.set_lighting channel value_id data) c
        with ⟨_ | _, c'⟩
      · have hc' : c' = _ := congrArg Prod.snd h.symm
        rw [setLighting_of_error h, hc']
        exact ⟨rfl, rfl, rfl⟩
      · have hc' : c' = _ := congrArg Prod.snd h.symm
        rw [setLighting_of_ok h, hc']
        exact ⟨rfl, rfl, rfl⟩
  | _ => exact ⟨rfl, rfl, rfl⟩

/-- The `Flush` arm leaves what the drain left, and no deadline. -/
theorem commit_frame : (commit args order c).2.buffer = (flush order c).2.buffer ∧
    (commit args order c).2.deadline = none ∧
    (commit args order c).2.exited = c.exited := by
  rcases h : flush order c with ⟨_ | _, c'⟩
  · have hexited : c'.exited = c.exited := congrArg (fun p => p.2.exited) h.symm
    rw [commit_of_error h]
    exact ⟨rfl, rfl, hexited⟩
  · have hexited : c'.exited = c.exited := congrArg (fun p => p.2.exited) h.symm
    obtain ⟨hbuffer, -, hexited'⟩ := emit_frame args c'
    rw [commit_of_ok h]
    exact ⟨hbuffer, rfl, hexited'.trans hexited⟩

/-- The deadline branch leaves what the drain left, and a deadline exactly if
the drain failed. -/
theorem autoFlush_frame (finish : Nat) :
    (autoFlush args order finish c).buffer = (flush order c).2.buffer ∧
      (autoFlush args order finish c).deadline =
        if (flush order c).1.isOk then none else some (finish + args.flush_interval) := by
  rcases h : flush order c with ⟨_ | _, c'⟩
  · rw [autoFlush_of_error h]
    exact ⟨rfl, rfl⟩
  · rw [autoFlush_of_ok h]
    exact ⟨(emit_frame args c').1, rfl⟩

/-- The final flush is a drain: an empty buffer needs none. -/
theorem shutdown_buffer :
    (shutdown args order c).buffer = (flush order c).2.buffer := by
  have hsave : ∀ c' : Coalescer T, (finalSave order c').2.buffer = c'.buffer := by
    intro c'
    unfold finalSave
    split <;> rfl
  change (finalSave order (finalFlush args order c).2).2.buffer = _
  rw [hsave]
  by_cases hb : c.buffer.isEmpty = true
  · rw [finalFlush_of_empty hb]
    change c.buffer = (exec (flush_buffer order) (c.transport, c.buffer)).2.2
    rw [exec_flush_buffer, if_pos hb]
  · rcases h : flush order c with ⟨_ | _, c'⟩
    · rw [finalFlush_of_error hb h]
    · rw [finalFlush_of_ok hb h]
      exact (emit_frame args c').1

/-- A drain only removes entries. -/
theorem flush_pending_sub {slot : Slot} (h : (flush order c).2.buffer[slot]?.isSome) :
    c.buffer[slot]?.isSome := by
  rcases flush_sub order c.transport c.buffer slot with hsub | hsub
  · rw [← hsub]
    exact h
  · change (exec (flush_buffer order) (c.transport, c.buffer)).2.2[slot]?.isSome at h
    rw [hsub] at h
    cases h

theorem flush_isEmpty : (flush order c).2.buffer.isEmpty = (flush order c).1.isOk := by
  cases h : (flush order c).1 with
  | ok _ => exact flush_ok_empty order c.transport c.buffer h
  | error e => exact flush_error_pending order c.transport c.buffer e h

theorem flush_isOk_iff : (flush order c).1.isOk = true ↔
    AcceptsAll (c.buffer.along (order.slots c.buffer.keys)) c.transport := by
  rw [← flush_accepted_iff]
  change (exec (flush_buffer order) (c.transport, c.buffer)).1.isOk = true ↔ _
  cases (exec (flush_buffer order) (c.transport, c.buffer)).1 with
  | ok _ => exact ⟨fun _ => rfl, fun _ => rfl⟩
  | error e =>
      constructor
      · intro h
        cases h
      · intro h
        cases h

end Coalescer

namespace Watched

/-! ## One wake-up -/

/-- A wake-up as the record sees it: a write is buffered, the buffer is
drained at one of the three places, or neither happens. -/
inductive Turn (args : CoalescerArgs) (w w' : Watched T) : Wakeup → Prop
  | accept {layer row col : UInt8} {kc : UInt16} {order : HashOrder} {start : Nat}
      (hstart : w.actor.clock ≤ start) (hfinish : start ≤ w'.actor.clock)
      (hbuffer : w'.actor.buffer = w.actor.buffer.insert (layer, row, col) kc)
      (hdeadline : w'.actor.deadline =
        if w.actor.deadline.isNone then some (start + args.flush_interval)
        else w.actor.deadline)
      (hsince : w'.since = w.accepted (layer, row, col) start)
      (hfailed : w'.failed = w.failed) (hexited : w'.actor.exited = none) :
      Turn args w w' (.recv (.setKeycode layer row col kc) order start w'.actor.clock)
  | commit {order : HashOrder} {start : Nat}
      (hbuffer : w'.actor.buffer = (Coalescer.flush order w.actor).2.buffer)
      (hdeadline : w'.actor.deadline = none) (hexited : w'.actor.exited = none)
      (hrecord : w' = w.drained order w'.actor.clock w'.actor) :
      Turn args w w' (.recv .flush order start w'.actor.clock)
  | autoFlush {order : HashOrder} {start : Nat}
      (hbuffer : w'.actor.buffer = (Coalescer.flush order w.actor).2.buffer)
      (hdeadline : w'.actor.deadline =
        if (Coalescer.flush order w.actor).1.isOk then none
        else some (w'.actor.clock + args.flush_interval))
      (hrecord : w' = w.drained order w'.actor.clock w'.actor) :
      Turn args w w' (.autoFlush order start w'.actor.clock)
  | closed {order : HashOrder} {start : Nat}
      (hbuffer : w'.actor.buffer = (Coalescer.flush order w.actor).2.buffer)
      (hexited : w'.actor.exited ≠ none)
      (hrecord : w' = w.drained order w'.actor.clock w'.actor) :
      Turn args w w' (.closed order start w'.actor.clock)
  | other {op : CoalescerOp} {order : HashOrder} {start finish : Nat} (hop : op ≠ .flush)
      (hbuffer : w'.actor.buffer = w.actor.buffer)
      (hdeadline : w'.actor.deadline = w.actor.deadline) (hsince : w'.since = w.since)
      (hfailed : w'.failed = w.failed) (hexited : w'.actor.exited = none) :
      Turn args w w' (.recv op order start finish)

/-- Serving anything but a write or a flush leaves the record as it is. -/
theorem observe_other (w : Watched T) (c : Coalescer T) {op : CoalescerOp}
    {order : HashOrder} {start finish : Nat}
    (hset : ∀ layer row col kc, op ≠ .setKeycode layer row col kc) (hflush : op ≠ .flush) :
    w.observe c (.recv op order start finish) = { w with actor := c } := by
  cases op with
  | setKeycode layer row col kc => exact absurd rfl (hset layer row col kc)
  | flush => exact absurd rfl hflush
  | _ => rfl

/-- What one wake-up can do. -/
theorem step_turn {args : CoalescerArgs} {w w' : Watched T} {l : Wakeup}
    (h : step args w l = some w') :
    w.actor.exited = none ∧ w.actor.clock ≤ w'.actor.clock ∧ Turn args w w' l := by
  unfold step at h
  obtain ⟨c, hc, rfl⟩ := Option.map_eq_some_iff.1 h
  cases l with
  | recv op order start finish =>
      simp only [Coalescer.step, Option.ite_none_right_eq_some, Option.some.injEq,
        Option.isNone_iff_eq_none] at hc
      obtain ⟨⟨hexited, hstart, hfinish⟩, rfl⟩ := hc
      by_cases hflush : op = .flush
      · subst hflush
        obtain ⟨hbuffer, hdeadline, hexited'⟩ := Coalescer.commit_frame args order w.actor
        exact ⟨hexited, hstart.trans hfinish,
          .commit hbuffer hdeadline (hexited'.trans hexited) rfl⟩
      · by_cases hset : ∃ layer row col kc, op = .setKeycode layer row col kc
        · obtain ⟨layer, row, col, kc, rfl⟩ := hset
          exact ⟨hexited, hstart.trans hfinish,
            .accept hstart hfinish rfl rfl rfl rfl hexited⟩
        · have hset' : ∀ layer row col kc, op ≠ .setKeycode layer row col kc := by
            intro layer row col kc heq
            exact hset ⟨layer, row, col, kc, heq⟩
          obtain ⟨hbuffer, hdeadline, hexited'⟩ :=
            Coalescer.serve_frame args order w.actor start op hset' hflush
          rw [observe_other w _ hset' hflush]
          exact ⟨hexited, hstart.trans hfinish,
            .other hflush hbuffer hdeadline rfl rfl (hexited'.trans hexited)⟩
  | autoFlush order start finish =>
      simp only [Coalescer.step, Option.ite_none_right_eq_some, Option.some.injEq,
        Option.isNone_iff_eq_none] at hc
      obtain ⟨⟨hexited, hstart, hfinish, -⟩, rfl⟩ := hc
      obtain ⟨hbuffer, hdeadline⟩ := Coalescer.autoFlush_frame args order w.actor finish
      exact ⟨hexited, hstart.trans hfinish, .autoFlush hbuffer hdeadline rfl⟩
  | closed order start finish =>
      simp only [Coalescer.step, Option.ite_none_right_eq_some, Option.some.injEq,
        Option.isNone_iff_eq_none] at hc
      obtain ⟨⟨hexited, hstart, hfinish⟩, rfl⟩ := hc
      exact ⟨hexited, hstart.trans hfinish,
        .closed (Coalescer.shutdown_buffer args order w.actor) (Option.some_ne_none _) rfl⟩

/-- After a drain the record covers what is left, and nothing else. -/
theorem drained_since_iff {w : Watched T} (hw : Recorded w) {order : HashOrder} {finish : Nat}
    {c : Coalescer T} (hbuffer : c.buffer = (Coalescer.flush order w.actor).2.buffer)
    (slot : Slot) :
    ((w.drained order finish c).since slot).isSome = (c.buffer[slot]?).isSome := by
  change (if c.buffer[slot]?.isSome then w.since slot else none).isSome = _
  by_cases h : c.buffer[slot]?.isSome
  · rw [if_pos h, hw.since_iff, h, Coalescer.flush_pending_sub order w.actor (hbuffer ▸ h)]
  · rw [if_neg h]
    exact (Bool.eq_false_iff.2 h).symm

theorem drained_since_some {w : Watched T} {order : HashOrder} {finish : Nat}
    {c : Coalescer T} {slot : Slot} {t : Nat}
    (h : (w.drained order finish c).since slot = some t) : w.since slot = some t := by
  change (if c.buffer[slot]?.isSome then w.since slot else none) = some t at h
  split at h
  · exact h
  · cases h

theorem insert_isEmpty (b : WriteBuffer) (slot : Slot) (kc : UInt16) :
    (b.insert slot kc).isEmpty = false := by
  by_contra hcon
  have hnone := (isEmpty_iff_lookup _).1 (Bool.not_eq_false _ ▸ hcon) slot
  rw [lookup_insert_self] at hnone
  cases hnone

/-- A drain keeps the record true, given that an empty buffer has no deadline. -/
theorem Recorded.drained {w w' : Watched T} (hw : Recorded w)
    (hclock : w.actor.clock ≤ w'.actor.clock) {order : HashOrder}
    (hbuffer : w'.actor.buffer = (Coalescer.flush order w.actor).2.buffer)
    (hrecord : w' = w.drained order w'.actor.clock w'.actor)
    (hidle : w'.actor.exited = none → w'.actor.buffer.isEmpty = true →
      w'.actor.deadline = none) : Recorded w' := by
  constructor
  · intro slot
    rw [hrecord]
    exact drained_since_iff hw hbuffer slot
  · intro slot t ht
    rw [hrecord] at ht
    exact (hw.since_le slot t (drained_since_some ht)).trans hclock
  · exact hidle

/-- The record stays true to the actor. -/
theorem recorded_step {args : CoalescerArgs} (w : Watched T) (l : Wakeup) (w' : Watched T)
    (hw : Recorded w) (h : step args w l = some w') : Recorded w' := by
  obtain ⟨hexited, hclock, hturn⟩ := step_turn h
  have hle : ∀ slot t, w.since slot = some t → t ≤ w'.actor.clock := by
    intro slot t ht
    exact (hw.since_le slot t ht).trans hclock
  cases hturn with
  | @accept layer row col kc order start hstart hfinish hbuffer hdeadline hsince hfailed _ =>
      constructor
      · intro slot
        rw [hsince, hbuffer]
        by_cases hslot : slot = (layer, row, col)
        · subst hslot
          rw [accepted, Function.update_self, lookup_insert_self]
          rfl
        · rw [accepted, Function.update_of_ne hslot, lookup_insert_ne _ _ (Ne.symm hslot)]
          exact hw.since_iff slot
      · intro slot t ht
        rw [hsince] at ht
        by_cases hslot : slot = (layer, row, col)
        · subst hslot
          rw [accepted, Function.update_self] at ht
          injection ht with ht
          cases hold : w.since (layer, row, col) with
          | none =>
              rw [hold, Option.getD_none] at ht
              exact ht ▸ hfinish
          | some t₀ =>
              rw [hold, Option.getD_some] at ht
              exact ht ▸ hle _ t₀ hold
        · rw [accepted, Function.update_of_ne hslot] at ht
          exact hle slot t ht
      · intro _ hempty
        rw [hbuffer, insert_isEmpty] at hempty
        cases hempty
  | commit hbuffer hdeadline _ hrecord =>
      exact hw.drained hclock hbuffer hrecord fun _ _ => hdeadline
  | @autoFlush order start hbuffer hdeadline hrecord =>
      refine hw.drained hclock hbuffer hrecord fun _ hempty => ?_
      rw [hbuffer, Coalescer.flush_isEmpty] at hempty
      rw [hdeadline, if_pos hempty]
  | closed hbuffer hexited' hrecord =>
      exact hw.drained hclock hbuffer hrecord fun hcon => absurd hcon hexited'
  | other _ hbuffer hdeadline hsince _ _ =>
      constructor
      · intro slot
        rw [hsince, hbuffer]
        exact hw.since_iff slot
      · intro slot t ht
        rw [hsince] at ht
        exact hle slot t ht
      · intro _ hempty
        rw [hbuffer] at hempty
        rw [hdeadline]
        exact hw.idle hexited hempty

section Accept

variable {args : CoalescerArgs} {w w' : Watched T} {slot₀ : Slot} {kc : UInt16} {start : Nat}

omit [CoalescerTransport T] in
/-- The first write of an empty buffer arms a deadline of its own. -/
theorem armed_first (hw : Recorded w) (hempty : w.actor.buffer.isEmpty = true)
    (hbuffer : w'.actor.buffer = w.actor.buffer.insert slot₀ kc)
    (hdeadline : w'.actor.deadline = some (start + args.flush_interval))
    (hsince : w'.since = w.accepted slot₀ start) : Armed args w' := by
  intro _ _
  refine ⟨_, hdeadline, ?_⟩
  intro slot hslot
  have heq : slot = slot₀ := by
    by_contra hne
    rw [hbuffer, lookup_insert_ne _ _ (Ne.symm hne), (isEmpty_iff_lookup _).1 hempty slot] at hslot
    cases hslot
  subst heq
  have hnone : w.since slot = none := by
    rw [← Option.isNone_iff_eq_none, ← Option.not_isSome, hw.since_iff,
      (isEmpty_iff_lookup _).1 hempty]
    rfl
  refine ⟨start, ?_, by omega⟩
  rw [hsince, accepted, Function.update_self, hnone, Option.getD_none]

omit [CoalescerTransport T] in
/-- Another write leaves the deadline where it is: it is early enough for the write
it has been set for, and that write came no later. -/
theorem armed_another (hw : Recorded w) (hexited : w.actor.exited = none)
    (harmed : Armed args w) (hnonempty : w.actor.buffer.isEmpty = false)
    (hstart : w.actor.clock ≤ start)
    (hbuffer : w'.actor.buffer = w.actor.buffer.insert slot₀ kc)
    (hdeadline : w'.actor.deadline = w.actor.deadline)
    (hsince : w'.since = w.accepted slot₀ start) (hfailed : w'.failed = w.failed) :
    Armed args w' := by
  intro _ _
  obtain ⟨d, hd, hbound⟩ := harmed hexited hnonempty
  refine ⟨d, hdeadline.trans hd, ?_⟩
  intro slot hslot
  rw [hsince, hfailed]
  by_cases heq : slot = slot₀
  · subst heq
    rw [accepted, Function.update_self]
    refine ⟨_, rfl, ?_⟩
    cases hold : w.since slot with
    | some t =>
        have hpending : (w.actor.buffer[slot]?).isSome := by
          rw [← hw.since_iff, hold]
          rfl
        obtain ⟨t', ht', hle⟩ := hbound slot hpending
        rw [hold] at ht'
        obtain rfl := Option.some.inj ht'
        exact hle
    | none =>
        obtain ⟨k, hk⟩ : ∃ k : Slot, (w.actor.buffer[k]?).isSome := by
          by_contra hcon
          push Not at hcon
          have hempty := (isEmpty_iff_lookup w.actor.buffer).2 (by
            intro k
            exact Option.not_isSome_iff_eq_none.1 (hcon k))
          rw [hnonempty] at hempty
          cases hempty
        obtain ⟨t, ht, hle⟩ := hbound k hk
        have hearlier := hw.since_le k t ht
        rw [Option.getD_none]
        omega
  · rw [accepted, Function.update_of_ne heq]
    refine hbound slot ?_
    rw [hbuffer, lookup_insert_ne _ _ (Ne.symm heq)] at hslot
    exact hslot

end Accept

/-- One wake-up keeps every buffered write covered by a deadline exactly if it
is not an explicit flush that the transport refuses. -/
theorem armed_step {args : CoalescerArgs} (w : Watched T) (l : Wakeup) (w' : Watched T)
    (hw : Recorded w) (harmed : Armed args w) (h : step args w l = some w') :
    Armed args w' ↔ FlushAccepted w l := by
  have hw' := recorded_step w l w' hw h
  obtain ⟨hexited, hclock, hturn⟩ := step_turn h
  cases hturn with
  | @accept layer row col kc order start hstart hfinish hbuffer hdeadline hsince hfailed _ =>
      refine iff_of_true ?_ trivial
      cases hempty : w.actor.buffer.isEmpty with
      | true =>
          rw [hw.idle hexited hempty, Option.isNone_none, if_pos rfl] at hdeadline
          exact armed_first hw hempty hbuffer hdeadline hsince
      | false =>
          obtain ⟨d, hd, -⟩ := harmed hexited hempty
          rw [hd, Option.isNone_some, if_neg Bool.false_ne_true, ← hd] at hdeadline
          exact armed_another hw hexited harmed hempty hstart hbuffer hdeadline hsince hfailed
  | @commit order start hbuffer hdeadline hexited' hrecord =>
      change _ ↔ AcceptsAll (WriteBuffer.along w.actor.buffer
        (order.slots w.actor.buffer.keys)) w.actor.transport
      rw [← Coalescer.flush_isOk_iff, ← Coalescer.flush_isEmpty, ← hbuffer]
      constructor
      · intro harmed'
        by_contra hne
        obtain ⟨d, hd, -⟩ := harmed' hexited' (Bool.eq_false_iff.2 hne)
        rw [hdeadline] at hd
        cases hd
      · intro hempty _ hne
        rw [hempty] at hne
        cases hne
  | @autoFlush order start hbuffer hdeadline hrecord =>
      refine ⟨fun _ => trivial, fun _ _ hnonempty => ?_⟩
      have hok : (Coalescer.flush order w.actor).1.isOk = false := by
        rw [← Coalescer.flush_isEmpty, ← hbuffer]
        exact hnonempty
      have hfailed : w'.failed = some w'.actor.clock := by
        rw [hrecord]
        change (if (Coalescer.flush order w.actor).1.isOk then w.failed
          else some w'.actor.clock) = some w'.actor.clock
        rw [hok, if_neg Bool.false_ne_true]
      rw [hok, if_neg Bool.false_ne_true] at hdeadline
      refine ⟨_, hdeadline, ?_⟩
      intro slot hslot
      rw [← hw'.since_iff] at hslot
      obtain ⟨t, ht⟩ := Option.isSome_iff_exists.1 hslot
      refine ⟨t, ht, ?_⟩
      rw [hfailed, Option.getD_some]
      omega
  | closed _ hexited' _ =>
      exact ⟨fun _ => trivial, fun _ hcon => absurd hcon hexited'⟩
  | @other op order start finish hop hbuffer hdeadline hsince hfailed _ =>
      have haccepted : FlushAccepted w (.recv op order start finish) := by
        cases op with
        | flush => exact absurd rfl hop
        | _ => trivial
      refine ⟨fun _ => haccepted, fun _ _ hnonempty => ?_⟩
      rw [hbuffer] at hnonempty
      rw [hdeadline, hbuffer, hsince, hfailed]
      exact harmed hexited hnonempty

/-! ## The whole run -/

/-- Over any run of the actor, on any transport and with the buffer walked in
any order: every buffered write has its deadline at every loop head exactly if
no explicit `Flush` of the run is refused one of the buffered writes. -/
theorem deadline_armed_iff (args : CoalescerArgs) (transport : T) (now : Nat)
    (ls : List Wakeup) :
    Always (step args) (Armed args) (spawn transport now) ls ↔
      EveryStep (step args) FlushAccepted (spawn transport now) ls := by
  refine always_iff_everyStep (fun w l w' hw h => recorded_step w l w' hw h)
    (fun w l w' hw harmed h => armed_step w l w' hw harmed h) ls
    (recorded_spawn transport now) ?_
  intro _ hnonempty
  cases hnonempty

/-- One edit, then an explicit flush that the keyboard refuses: the edit stays
in the buffer with no deadline. -/
theorem refused_flush_strands :
    ¬ Always (step ⟨100, "hidraw0", true⟩) (Armed ⟨100, "hidraw0", true⟩)
      (spawn (MockTransport.empty (some (0, 0, 0))) 0)
      [.recv (.setKeycode 0 0 0 4) .sorted 1 1, .recv .flush .sorted 2 3] := by
  intro h
  obtain ⟨w, hrun, hexited, hbuffer, hdeadline⟩ : ∃ w,
      run (step ⟨100, "hidraw0", true⟩) (spawn (MockTransport.empty (some (0, 0, 0))) 0)
        [.recv (.setKeycode 0 0 0 4) .sorted 1 1, .recv .flush .sorted 2 3] = some w ∧
      w.actor.exited = none ∧ w.actor.buffer.isEmpty = false ∧ w.actor.deadline = none :=
    ⟨_, rfl, rfl, rfl, rfl⟩
  obtain ⟨d, hd, -⟩ := h.last hrun hexited hbuffer
  rw [hdeadline] at hd
  cases hd

end Watched

end Clackd.Hal.Via
