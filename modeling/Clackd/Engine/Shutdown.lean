import Clackd.Engine.Boxed
import Clackd.Engine.Entries
import Clackd.Hal.Legacy.Board

/-!
# What a shutdown loses

On `Shutdown` the supervisor drops its handles and returns, and `main` exits.  The
workers and the actors of the drivers are tasks of their own: they notice their
closed channels when they are next polled, which may be never.  So an edit that is
acknowledged is safe only if what writes it has run before the supervisor returns.

Each worker is compared with its own entries of the record.  Its deadline is set if
a set has succeeded since the last commit attempt; its actor holds a keycode if a set
has succeeded since the last commit or flush, and a lighting channel if a lighting
edit has succeeded since the last commit.

## Main results

* `Sys.remembers_step`: a step keeps a worker and its entries in agreement.
* `Sys.shutdown_flushes_iff`: the return of the supervisor leaves nothing unwritten
  exactly if every edit was followed by what writes it before.
-/

namespace Clackd.Engine

open Clackd.Foundation Clackd.Hal Clackd.Hal.Via Clackd.Hal.Legacy

/-! ## What the entries remember -/

/-- Whether the entry empties the actor's buffer, if it went well. -/
def Effect.drains : Effect → Bool
  | .called _ job _ => job.isCommit
  | .woke _ _ => true
  | _ => false

/-- Whether the entry is a lighting edit that succeeded. -/
def Effect.isLightDone : Effect → Bool
  | .called _ (.op (.setLighting _ _ _ _)) ok => ok
  | _ => false

/-- Whether the entry saves the touched channels, if it went well. -/
def Effect.saves : Effect → Bool
  | .called _ job _ => job.isCommit
  | .woke _ .closed => true
  | _ => false

/-- A set has succeeded, and no commit was attempted since. -/
def Uncommitted (log : List Effect) : Prop :=
  Since (fun e => e.isSetDone = true) (fun e => e.isAttempt = true) log

/-- A set has succeeded, and the actor has not drained its buffer since. -/
def Unflushed (log : List Effect) : Prop :=
  Since (fun e => e.isSetDone = true) (fun e => e.drains = true) log

/-- A lighting edit has succeeded, and the actor has not saved its channels since. -/
def Unsaved (log : List Effect) : Prop :=
  Since (fun e => e.isLightDone = true) (fun e => e.saves = true) log

theorem unflushed_snoc (log : List Effect) (e : Effect) :
    Unflushed (log ++ [e]) ↔ e.isSetDone = true ∨ Unflushed log ∧ ¬ e.drains = true :=
  since_snoc log e

theorem unsaved_snoc (log : List Effect) (e : Effect) :
    Unsaved (log ++ [e]) ↔ e.isLightDone = true ∨ Unsaved log ∧ ¬ e.saves = true :=
  since_snoc log e

/-- The start of jobs neither fills nor drains. -/
theorem unflushed_append (log : List Effect) {more : List Effect} {w : WorkerId}
    (h : ∀ e ∈ more, ∃ job, e = .began w job) :
    (Unflushed (log ++ more) ↔ Unflushed log) ∧ (Unsaved (log ++ more) ↔ Unsaved log) := by
  constructor
  · apply since_append_of_irrelevant
    intro e he
    obtain ⟨job, rfl⟩ := h e he
    exact ⟨nofun, nofun⟩
  · apply since_append_of_irrelevant
    intro e he
    obtain ⟨job, rfl⟩ := h e he
    exact ⟨nofun, nofun⟩

/-! ## What a job makes of the held edits -/

section Memory

variable {T I Text : Type} [CoalescerTransport T] [Gmk67Io I] [SerdeJson Text]

namespace BoxedDriver

/-- A commit, if the job is one, succeeds at the actor. -/
def Succeeds (d : BoxedDriver T I Text) (order : HashOrder) (job : Job) : Prop :=
  ∀ actor ∈ d.actor, job.isCommit = true → (Coalescer.commit actor.1 order actor.2).1 = .ok ()

instance (d : BoxedDriver T I Text) (order : HashOrder) (job : Job) :
    Decidable (d.Succeeds order job) :=
  inferInstanceAs (Decidable (∀ actor ∈ d.actor, _ → _))

/-- The actor holds after an entry what the entry says: a keycode if it is a set, or
was held and not drained, and a channel likewise. -/
structure Holds (a a' : Coalescer T) (e : Effect) : Prop where
  buffer : a'.buffer.isEmpty = false ↔
    e.isSetDone = true ∨ a.buffer.isEmpty = false ∧ ¬ e.drains = true
  touched : a'.touched_channels.isEmpty = false ↔
    e.isLightDone = true ∨ a.touched_channels.isEmpty = false ∧ ¬ e.saves = true

variable {a a' : Coalescer T} {e : Effect}

omit [CoalescerTransport T] in
/-- Nothing is held after a commit. -/
theorem Holds.emptied (hbuffer : a'.buffer.isEmpty = true)
    (htouched : a'.touched_channels.isEmpty = true) (hset : e.isSetDone = false)
    (hlight : e.isLightDone = false) (hdrains : e.drains = true) (hsaves : e.saves = true) :
    Holds a a' e := by
  constructor
  · simp [hbuffer, hset, hdrains]
  · simp [htouched, hlight, hsaves]

omit [CoalescerTransport T] in
/-- An entry about something else. -/
theorem Holds.kept (hbuffer : a'.buffer = a.buffer)
    (htouched : a'.touched_channels = a.touched_channels) (hset : e.isSetDone = false)
    (hlight : e.isLightDone = false) (hdrains : e.drains = false) (hsaves : e.saves = false) :
    Holds a a' e := by
  constructor
  · simp [hbuffer, hset, hdrains]
  · simp [htouched, hlight, hsaves]

/-- What the actor holds after a job. -/
theorem holds_perform (w : WorkerId) (turn : Turn) {d : BoxedDriver T I Text}
    {args : CoalescerArgs} (h : d.actor = some (args, a)) (hlive : a.exited = none) {job : Job}
    (hok : d.Succeeds turn.order job) :
    Holds a (a.answer args turn job.relayed).2
      (.called w job (Worker.perform turn d job).ok) := by
  have hcommit : job.isCommit = true → (∀ ok, (Effect.called w job ok).isSetDone = false ∧
      (Effect.called w job ok).isLightDone = false) →
      Holds a (a.answer args turn job.relayed).2
        (.called w job (Worker.perform turn d job).ok) := by
    intro hcommit hnone
    obtain ⟨hbuffer, htouched⟩ := Coalescer.answer_flush (hok (args, a) h hcommit)
    rw [Job.relayed_of_commit hcommit]
    exact .emptied hbuffer htouched (hnone _).1 (hnone _).2 hcommit hcommit
  cases job with
  | debounced => exact hcommit rfl fun _ => ⟨rfl, rfl⟩
  | final => exact hcommit rfl fun _ => ⟨rfl, rfl⟩
  | op op =>
      cases op with
      | commit reply => exact hcommit rfl fun _ => ⟨rfl, rfl⟩
      | setKeycode layer row col keycode reply =>
          obtain ⟨-, hfilled, htouched⟩ :=
            Coalescer.answer_setKeycode args turn layer row col keycode a
          constructor
          · exact iff_of_true hfilled (.inl (set_keycode_ok turn h hlive layer row col keycode reply))
          · show (a.answer args turn (.setKeycode layer row col keycode)).2.touched_channels.isEmpty =
              false ↔ _
            rw [htouched]
            simp [Effect.isLightDone, Effect.saves, Job.isCommit]
      | setLighting channel value_id data reply =>
          obtain ⟨-, hbuffer, htouched⟩ :=
            Coalescer.answer_setLighting args turn channel value_id data a
          constructor
          · show (a.answer args turn (.setLighting channel value_id data)).2.buffer.isEmpty =
              false ↔ _
            rw [hbuffer]
            simp [Effect.isSetDone, Effect.drains, Job.isCommit]
          · show (a.answer args turn (.setLighting channel value_id data)).2.touched_channels.isEmpty =
              false ↔ _
            rw [htouched, set_lighting_ok turn h hlive channel value_id data reply]
            cases (Coalescer.setLighting channel value_id data a).1.isOk with
            | true => simp [Effect.isLightDone]
            | false => simp [Effect.isLightDone, Effect.saves, Job.isCommit]
      | _ =>
          refine .kept (Coalescer.answer_other args turn a ?_ ?_ ?_).1
            (Coalescer.answer_other args turn a ?_ ?_ ?_).2 rfl rfl rfl rfl
          all_goals simp [Job.relayed, WorkerOp.relayed]

/-- A wake-up of the actor goes well: the automatic flush writes the buffer, or the
end of the actor writes all. -/
def WakesWell (d : BoxedDriver T I Text) (order : HashOrder) (wakeup : Background) : Prop :=
  ∀ actor ∈ d.actor,
    (wakeup = .timer → (Coalescer.flush order actor.2).1 = .ok ()) ∧
      (wakeup = .closed → (Coalescer.finalFlush actor.1 order actor.2).1 = .ok () ∧
        (Coalescer.finalSave order (Coalescer.finalFlush actor.1 order actor.2).2).1 = .ok ())

instance (d : BoxedDriver T I Text) (order : HashOrder) (wakeup : Background) :
    Decidable (d.WakesWell order wakeup) :=
  inferInstanceAs (Decidable (∀ actor ∈ d.actor, _ ∧ _))

/-- What the actor holds after a wake-up. -/
theorem holds_wake (w : WorkerId) {turn : Turn} {dropped : Bool} {wakeup : Background}
    {d d' : BoxedDriver T I Text} (hwake : BackgroundTasks.wake turn dropped wakeup d = some d')
    (hok : d.WakesWell turn.order wakeup) : ∃ args a a', d.actor = some (args, a) ∧
      d'.actor = some (args, a') ∧ (dropped = false → a'.exited = none) ∧
        Holds a a' (.woke w wakeup) := by
  obtain ⟨-, args, a, a', hbefore, hafter, ⟨rfl, hexited, rfl⟩ | ⟨rfl, hdropped, rfl⟩⟩ :=
    wake_cases hwake
  · have hempty := Coalescer.autoFlush_empty args turn.now ((hok (args, a) hbefore).1 rfl)
    refine ⟨args, a, _, hbefore, hafter, ?_, ?_⟩
    · intro _
      exact (Coalescer.autoFlush_exited args turn.order turn.now a).trans hexited
    constructor
    · show (a.autoFlush args turn.order turn.now).buffer.isEmpty = false ↔ _
      rw [hempty.1]
      simp [Effect.isSetDone, Effect.drains]
    · show (a.autoFlush args turn.order turn.now).touched_channels.isEmpty = false ↔ _
      rw [hempty.2]
      simp [Effect.isLightDone, Effect.saves]
  · obtain ⟨hflush, hsave⟩ := (hok (args, a) hbefore).2 rfl
    obtain ⟨hbuffer, htouched⟩ := Coalescer.shutdown_empty hflush hsave
    refine ⟨args, a, _, hbefore, hafter, ?_, .emptied hbuffer htouched rfl rfl rfl rfl⟩
    intro hcon
    rw [hdropped] at hcon
    cases hcon

end BoxedDriver

/-! ## A worker and its entries -/

/-- The call that a worker is in. -/
def WorkerPhase.job : WorkerPhase → Option Job
  | .running job => some job
  | _ => none

namespace Worker

/-- The deadline and the actor of a worker agree with its entries. -/
structure Remembers (x : Worker (BoxedDriver T I Text)) (own : List Effect) : Prop where
  deadline : x.commit_deadline.isSome = true ↔ x.phase ≠ .gone ∧
    KeyboardDriver.emits_layout_event_per_set x.driver = false ∧ Uncommitted own
  live : x.phase ≠ .gone → ∀ args a, x.driver.actor = some (args, a) → a.exited = none
  buffer : ∀ args a, x.driver.actor = some (args, a) → (a.buffer.isEmpty = false ↔ Unflushed own)
  touched : ∀ args a, x.driver.actor = some (args, a) →
    (a.touched_channels.isEmpty = false ↔ Unsaved own)

theorem remembers_spawn {d : BoxedDriver T I Text} (hclean : d.Clean) (id : String) :
    (spawn id d).Remembers [] := by
  constructor
  · constructor
    · intro hcon
      cases hcon
    · rintro ⟨-, -, hcon⟩
      exact absurd hcon not_since_nil
  · exact fun _ args a hactor => (hclean args a hactor).1
  · intro args a hactor
    rw [(hclean args a hactor).2.1]
    exact iff_of_false nofun not_since_nil
  · intro args a hactor
    rw [(hclean args a hactor).2.2]
    exact iff_of_false nofun not_since_nil

variable {x : Worker (BoxedDriver T I Text)} {own : List Effect}

theorem Remembers.queued (h : x.Remembers own) (rx : List WorkerOp) :
    { x with rx := rx }.Remembers own := ⟨h.deadline, h.live, h.buffer, h.touched⟩

/-- A wake-up of the actor. -/
theorem Remembers.woke (h : x.Remembers own) {w : WorkerId} {turn : Turn} {wakeup : Background}
    {d' : BoxedDriver T I Text}
    (hwake : BackgroundTasks.wake turn (x.phase = .gone) wakeup x.driver = some d')
    (hok : x.driver.WakesWell turn.order wakeup) :
    { x with driver := d' }.Remembers (own ++ [Effect.woke w wakeup]) := by
  obtain ⟨hemits, -⟩ := BoxedDriver.wake_cases hwake
  obtain ⟨args, a, a', hbefore, hafter, hlive, hholds⟩ := BoxedDriver.holds_wake w hwake hok
  constructor
  · have hirrelevant : Uncommitted (own ++ [Effect.woke w wakeup]) ↔ Uncommitted own :=
      since_append_of_irrelevant (by simp [Effect.isSetDone, Effect.isAttempt])
    show x.commit_deadline.isSome = true ↔ x.phase ≠ .gone ∧
      KeyboardDriver.emits_layout_event_per_set d' = false ∧ _
    rw [hemits, hirrelevant]
    exact h.deadline
  · intro hphase args' a'' hactor
    cases hafter.symm.trans hactor
    exact hlive (by simpa using hphase)
  · intro args' a'' hactor
    cases hafter.symm.trans hactor
    rw [unflushed_snoc, ← h.buffer args a hbefore]
    exact hholds.buffer
  · intro args' a'' hactor
    cases hafter.symm.trans hactor
    rw [unsaved_snoc, ← h.touched args a hbefore]
    exact hholds.touched

/-- The deadline after a move that leaves the driver in its mode. -/
theorem Remembers.deadline_move (h : x.Remembers own) {w : WorkerId} {senders : Bool} {now : Nat}
    {m : WorkerMove} {r : Worker (BoxedDriver T I Text) × List Effect}
    (hmove : x.move w senders now m = some r)
    (hemits : KeyboardDriver.emits_layout_event_per_set r.1.driver =
      KeyboardDriver.emits_layout_event_per_set x.driver) :
    r.1.commit_deadline.isSome = true ↔ r.1.phase ≠ .gone ∧
      KeyboardDriver.emits_layout_event_per_set r.1.driver = false ∧
        Uncommitted (own ++ ofWorker w r.2) := by
  have hbefore := h.deadline
  have hstill : ∀ es log, Bystanders es →
      (Uncommitted (log ++ ofWorker w es) ↔ Uncommitted log) := by
    intro es log hes
    refine since_append_of_irrelevant fun e he => ?_
    obtain ⟨hset, hattempt⟩ := hes.ofWorker w e he
    rw [hset, hattempt]
    exact ⟨Bool.false_ne_true, Bool.false_ne_true⟩
  cases Worker.debouncing hmove with
  | kept bystanders deadline live committing =>
      rw [deadline, hemits, hstill _ _ bystanders, hbefore]
      simp [live.1, live.2]
  | set e more effects done holder bystanders deadline live committing =>
      have hown : ofWorker w r.2 = e :: ofWorker w more := by
        rw [effects]
        exact List.filter_cons_of_pos (by simpa using holder)
      have hset : Uncommitted (own ++ e :: ofWorker w more) := by
        rw [← List.singleton_append, ← List.append_assoc, hstill _ _ bystanders]
        exact (since_snoc own e).2 (.inl done)
      rw [hemits] at deadline
      rw [hemits, hown, deadline]
      cases hflag : KeyboardDriver.emits_layout_event_per_set x.driver with
      | true =>
          rw [hflag] at hbefore
          rw [if_pos rfl, hbefore]
          simp
      | false => simp [live.2, hset]
  | attempt job effects commit due deadline live running =>
      have hown : ofWorker w r.2 = [.began w job] := by
        rw [effects]
        simp [ofWorker, Effect.worker]
      rw [deadline, hown]
      refine iff_of_false Bool.false_ne_true ?_
      rintro ⟨-, -, hcon⟩
      rcases (since_snoc own _).1 hcon with hdone | ⟨-, hundone⟩
      · cases hdone
      · exact hundone commit
  | left bystanders live deadline gone settled =>
      rw [deadline, gone]
      simp

/-- A move of the worker. -/
theorem Remembers.moved (h : x.Remembers own) {w : WorkerId} {senders : Bool} {now : Nat}
    {m : WorkerMove} {r : Worker (BoxedDriver T I Text) × List Effect}
    (hmove : x.move w senders now m = some r)
    (hok : ∀ order job, m = .finish order → x.phase = .running job →
      x.driver.Succeeds order job) : r.1.Remembers (own ++ ofWorker w r.2) := by
  obtain ⟨-, ⟨hdriver, hstarts⟩ | ⟨order, job, rfl, hphase, hdriver, hown⟩⟩ := move_driver hmove
  · have hlive : x.phase ≠ .gone := by
      cases Worker.debouncing hmove with
      | kept bystanders deadline live committing => exact live.1
      | set e more effects done holder bystanders deadline live committing => exact live.1
      | attempt job effects commit due deadline live running => exact live
      | left bystanders live deadline gone settled => exact live
    obtain ⟨hunflushed, hunsaved⟩ := unflushed_append own hstarts
    constructor
    · exact h.deadline_move hmove (by rw [hdriver])
    · rw [hdriver]
      exact fun _ => h.live hlive
    · rw [hdriver, hunflushed]
      exact h.buffer
    · rw [hdriver, hunsaved]
      exact h.touched
  · have hlive := h.live (by rw [hphase]; nofun)
    have hactor := BoxedDriver.perform_actor ⟨now, order⟩ job hlive
    have hafter : ∀ args a', r.1.driver.actor = some (args, a') →
        ∃ a, x.driver.actor = some (args, a) ∧ a'.exited = none ∧
          BoxedDriver.Holds a a' (.called w job (perform ⟨now, order⟩ x.driver job).ok) := by
      intro args a' ha'
      rw [hdriver, hactor] at ha'
      obtain ⟨⟨args', a⟩, ha, heq⟩ := Option.map_eq_some_iff.1 ha'
      cases heq
      exact ⟨a, ha, (Coalescer.answer_exited _ _ _ a).trans (hlive _ a ha),
        BoxedDriver.holds_perform w ⟨now, order⟩ ha (hlive _ a ha) (hok order job rfl hphase)⟩
    constructor
    · exact h.deadline_move hmove (by rw [hdriver]; exact BoxedDriver.perform_emits _ job hlive)
    · intro _ args a' ha'
      obtain ⟨a, -, hexited, -⟩ := hafter args a' ha'
      exact hexited
    · intro args a' ha'
      obtain ⟨a, ha, -, hholds⟩ := hafter args a' ha'
      rw [hown, unflushed_snoc, ← h.buffer args a ha]
      exact hholds.buffer
    · intro args a' ha'
      obtain ⟨a, ha, -, hholds⟩ := hafter args a' ha'
      rw [hown, unsaved_snoc, ← h.touched args a ha]
      exact hholds.touched

/-- The call that the worker is in succeeds, if it is a commit. -/
def FinishesWell (x : Worker (BoxedDriver T I Text)) (order : HashOrder) : Prop :=
  ∀ job ∈ x.phase.job, x.driver.Succeeds order job

instance (x : Worker (BoxedDriver T I Text)) (order : HashOrder) :
    Decidable (x.FinishesWell order) :=
  inferInstanceAs (Decidable (∀ job ∈ x.phase.job, x.driver.Succeeds order job))

/-- Each edit of the worker was followed by what writes it: on a buffered driver a
set by a commit attempt, at an actor a set by a commit or a flush of its own, and a
lighting edit by a commit or the end of the actor. -/
structure Followed (x : Worker (BoxedDriver T I Text)) (own : List Effect) : Prop where
  committed : x.phase ≠ .gone → KeyboardDriver.emits_layout_event_per_set x.driver = false →
    ¬ Uncommitted own
  flushed : x.driver.actor.isSome = true → ¬ Unflushed own
  saved : x.driver.actor.isSome = true → ¬ Unsaved own

/-- Nothing of the worker waits to be written. -/
def Settled (x : Worker (BoxedDriver T I Text)) : Prop :=
  x.commit_deadline = none ∧ ∀ actor ∈ x.driver.actor,
    actor.2.buffer.isEmpty = true ∧ actor.2.touched_channels.isEmpty = true

omit [CoalescerTransport T] [Gmk67Io I] [SerdeJson Text] in
instance (x : Worker (BoxedDriver T I Text)) : Decidable x.Settled :=
  inferInstanceAs (Decidable (_ ∧ ∀ actor ∈ x.driver.actor, _))

/-- A worker is settled exactly if its edits were followed. -/
theorem Remembers.settled_iff (h : x.Remembers own) : x.Settled ↔ x.Followed own := by
  constructor
  · rintro ⟨hdeadline, hactor⟩
    constructor
    · intro hphase hflag hcon
      have hsome := h.deadline.2 ⟨hphase, hflag, hcon⟩
      rw [hdeadline] at hsome
      cases hsome
    · intro hsome hcon
      obtain ⟨⟨args, a⟩, ha⟩ := Option.isSome_iff_exists.1 hsome
      have hheld := (h.buffer args a ha).2 hcon
      rw [(hactor (args, a) ha).1] at hheld
      cases hheld
    · intro hsome hcon
      obtain ⟨⟨args, a⟩, ha⟩ := Option.isSome_iff_exists.1 hsome
      have hheld := (h.touched args a ha).2 hcon
      rw [(hactor (args, a) ha).2] at hheld
      cases hheld
  · intro hfollowed
    constructor
    · by_contra hsome
      obtain ⟨hphase, hflag, hcon⟩ := h.deadline.1 (Option.isSome_iff_ne_none.2 hsome)
      exact hfollowed.committed hphase hflag hcon
    · rintro ⟨args, a⟩ ha
      have hsome : x.driver.actor.isSome = true := Option.isSome_of_mem ha
      constructor
      · by_contra hheld
        exact hfollowed.flushed hsome ((h.buffer args a ha).1 (by simpa using hheld))
      · by_contra hheld
        exact hfollowed.saved hsome ((h.touched args a ha).1 (by simpa using hheld))

end Worker

/-! ## The system -/

namespace Sys

/-- Every worker agrees with its entries, and there are entries of no others. -/
structure Remembers (s : Sys (BoxedDriver T I Text)) : Prop where
  absent : ∀ w, s.sup.workers[w]? = none → ofWorker w s.sup.log = []
  present : ∀ (w : WorkerId) (x : Worker (BoxedDriver T I Text)),
    s.sup.workers[w]? = some x → x.Remembers (ofWorker w s.sup.log)

/-- The commits of the workers and what the actors write by themselves succeed. -/
def CallsSucceed {W : Type} (s : Sys (BoxedDriver T I Text)) : Label W → Prop
  | .worker w (.finish order) => ∀ x ∈ s.sup.workers[w]?, x.FinishesWell order
  | .background w order wakeup => ∀ x ∈ s.sup.workers[w]?, x.driver.WakesWell order wakeup
  | _ => True

instance {W : Type} (s : Sys (BoxedDriver T I Text)) : (l : Label W) → Decidable (s.CallsSucceed l)
  | .worker w (.finish order) =>
      inferInstanceAs (Decidable (∀ x ∈ s.sup.workers[w]?, x.FinishesWell order))
  | .background w order wakeup =>
      inferInstanceAs (Decidable (∀ x ∈ s.sup.workers[w]?, x.driver.WakesWell order wakeup))
  | .worker _ .recv => isTrue trivial
  | .worker _ .debounce => isTrue trivial
  | .worker _ .report => isTrue trivial
  | .worker _ .exit => isTrue trivial
  | .worker _ .panic => isTrue trivial
  | .tick _ => isTrue trivial
  | .enqueue _ => isTrue trivial
  | .supervise _ _ => isTrue trivial
  | .superviseReturn => isTrue trivial
  | .task _ _ => isTrue trivial

/-- Every worker is settled. -/
def Flushed (s : Sys (BoxedDriver T I Text)) : Prop := ∀ x ∈ s.sup.workers, x.Settled

instance (s : Sys (BoxedDriver T I Text)) : Decidable s.Flushed :=
  inferInstanceAs (Decidable (∀ x ∈ s.sup.workers, x.Settled))

/-- The edits of every worker were followed by what writes them. -/
def Followed (s : Sys (BoxedDriver T I Text)) : Prop :=
  ∀ (w : WorkerId) (x : Worker (BoxedDriver T I Text)), s.sup.workers[w]? = some x →
    x.Followed (ofWorker w s.sup.log)

variable {interval : Option Nat} {devices : List DeviceConfig} {s s' : Sys (BoxedDriver T I Text)}
  {l : Label (DeviceNode T I Text)}

/-- A step in which the commits succeed keeps the workers and their entries in
agreement. -/
theorem remembers_step (h : s.Remembers) (hok : s.CallsSucceed l)
    (hstep : s.step (build_driver_table interval devices) l = some s') : s'.Remembers := by
  constructor
  · intro w hnone
    cases at_step hstep w with
    | absent before after log => rw [log, h.absent w before]
    | spawned id driver before after opened log =>
        rw [after] at hnone
        cases hnone
    | kept x rx before after log =>
        rw [after] at hnone
        cases hnone
    | moved x m r label before move after log =>
        rw [after] at hnone
        cases hnone
    | woke x driver order wakeup label before wake after log =>
        rw [after] at hnone
        cases hnone
  · intro w x hx
    cases at_step hstep w with
    | absent before after log =>
        rw [after] at hx
        cases hx
    | spawned id driver before after opened log =>
        rw [after] at hx
        cases hx
        rw [log, h.absent w before]
        exact Worker.remembers_spawn (clean_opened opened) id
    | kept y rx before after log =>
        rw [after] at hx
        cases hx
        rw [log]
        exact (h.present w y before).queued rx
    | moved y m r label before move after log =>
        rw [after] at hx
        cases hx
        rw [log]
        refine (h.present w y before).moved move ?_
        rintro order job rfl hphase
        subst label
        have hwell : y.FinishesWell order := hok y before
        exact hwell job (by rw [hphase]; rfl)
    | woke y driver order wakeup label before wake after log =>
        rw [after] at hx
        cases hx
        rw [log]
        subst label
        exact (h.present w y before).woke wake (hok y before)

theorem remembers_start : (start : Sys (BoxedDriver T I Text)).Remembers := by
  constructor
  · intro w _
    rfl
  · intro w x hx
    have hnone : (start : Sys (BoxedDriver T I Text)).sup.workers[w]? = none := List.getElem?_nil
    rw [hnone] at hx
    cases hx

theorem Remembers.flushed_iff (h : s.Remembers) : s.Flushed ↔ s.Followed := by
  constructor
  · intro hflushed w x hx
    exact (h.present w x hx).settled_iff.1 (hflushed x (List.mem_of_getElem? hx))
  · intro hfollowed x hx
    obtain ⟨w, hw⟩ := List.mem_iff_getElem?.1 hx
    exact (h.present w x hw).settled_iff.2 (hfollowed w x hw)

/-- When the supervisor returns, nothing waits to be written exactly if before that
every edit was followed by what writes it. -/
theorem shutdown_flushes_iff {labels : List (Label (DeviceNode T I Text))}
    (hsucceed : EveryStep (step (build_driver_table interval devices)) CallsSucceed start labels)
    (hrun : run (step (build_driver_table interval devices)) start labels = some s)
    (hreturn : s.step (build_driver_table interval devices) .superviseReturn = some s') :
    s'.Flushed ↔ s.Followed := by
  have h : s.Remembers := run_preserves_of_everyStep
    (fun s l s' h hok hstep => remembers_step h hok hstep) remembers_start hsucceed hrun
  rw [← h.flushed_iff]
  rw [step, superviseReturn] at hreturn
  split at hreturn
  · cases hreturn
    exact Iff.rfl
  · cases hreturn

/-! ## Two shutdowns -/

/-- A VIA keyboard. -/
def viaNode : DeviceNode MockTransport Board ShadowFile where
  now := 0
  open_transport := .ok (MockTransport.empty none, "hidraw7")
  vendor := .error .disconnected
  disk := ⟨fun _ => none, fun _ => none, 0, fun _ => [], []⟩
  data_path := none

/-- The keyboard is attached, and one keycode edited. -/
def editedRun : List (Label (DeviceNode MockTransport Board ShadowFile)) :=
  [.enqueue (.deviceConnected "dev1" 0x05AC 0x024F "/dev/hidraw7"),
    .supervise HashOrder.sorted viaNode,
    .enqueue (.setKeycode "dev1" 0 0 0 4 1), .supervise HashOrder.sorted viaNode,
    .worker 0 .recv, .worker 0 (.finish HashOrder.sorted)]

/-- The daemon is told to stop right after the edit. -/
def lostEdit : List (Label (DeviceNode MockTransport Board ShadowFile)) :=
  editedRun ++ [.enqueue .shutdown, .supervise HashOrder.sorted viaNode]

/-- The client has the edit committed first. -/
def savedEdit : List (Label (DeviceNode MockTransport Board ShadowFile)) :=
  editedRun ++ [.enqueue (.commitToNvram "dev1" 2), .supervise HashOrder.sorted viaNode,
    .worker 0 .recv, .worker 0 (.finish HashOrder.sorted),
    .enqueue .shutdown, .supervise HashOrder.sorted viaNode]

/-- The daemon with a flush interval of a second. -/
def coalescingTable : DriverTable (DeviceNode MockTransport Board ShadowFile)
    (BoxedDriver MockTransport Board ShadowFile) := build_driver_table (some 1000) []

theorem shutdown_of (labels : List (Label (DeviceNode MockTransport Board ShadowFile)))
    {P : Sys (BoxedDriver MockTransport Board ShadowFile) → Bool}
    (h : (decide (EveryStep (step coalescingTable) CallsSucceed start labels) &&
      (run (step coalescingTable) start labels).any fun s =>
        (s.step coalescingTable .superviseReturn).any P) = true) :
    EveryStep (step coalescingTable) CallsSucceed start labels ∧
      ∃ s s', run (step coalescingTable) start labels = some s ∧
        s.step coalescingTable .superviseReturn = some s' ∧ P s' = true := by
  obtain ⟨hsucceed, h⟩ := Bool.and_eq_true_iff.1 h
  obtain ⟨s, hrun, h⟩ := (Option.any_eq_true _ _).1 h
  obtain ⟨s', hreturn, hP⟩ := (Option.any_eq_true _ _).1 h
  exact ⟨of_decide_eq_true hsucceed, s, s', hrun, hreturn, hP⟩

/-- A committed edit is settled at the return, and the condition says so. -/
theorem shutdown_flushes_iff_saved : ∃ s, run (step coalescingTable) start savedEdit = some s ∧
    s.Followed := by
  obtain ⟨hsucceed, s, s', hrun, hreturn, hP⟩ := shutdown_of savedEdit
    (P := fun s' => decide s'.Flushed) (by decide +kernel)
  exact ⟨s, hrun, (shutdown_flushes_iff hsucceed hrun hreturn).1 (of_decide_eq_true hP)⟩

/-- The edit is acknowledged, every call succeeds, and it is lost. -/
theorem acknowledged_edit_lost : ¬ ∀ s s',
    EveryStep (step coalescingTable) CallsSucceed start lostEdit →
      run (step coalescingTable) start lostEdit = some s →
        s.step coalescingTable .superviseReturn = some s' → s'.Flushed := by
  intro hclaim
  obtain ⟨hsucceed, s, s', hrun, hreturn, hP⟩ := shutdown_of lostEdit
    (P := fun s' => !decide s'.Flushed) (by decide +kernel)
  have hflushed := hclaim s s' hsucceed hrun hreturn
  rw [decide_eq_true hflushed] at hP
  cases hP

end Sys

end Memory

end Clackd.Engine
