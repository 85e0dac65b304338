import Clackd.Engine.Wear
import Clackd.Foundation.Pending
import Clackd.Hal.Legacy.Gmk67

/-!
# The debounced commit

The worker of a buffered driver commits by itself once keycode edits have settled
for `LEGACY_COMMIT_DEBOUNCE`.  Its deadline is armed by a set that succeeded,
moved by the next one, and disarmed when any commit starts: an explicit one, the
debounced one itself, or the final one on a closed channel.

A run is compared with its record, the effects of its moves with the time of
each.  The deadline is what is pending in the record: 500 ms after the last
successful set, unless a commit was attempted since.

## Main results

* `debouncing`: what one move can do to the deadline.
* `debounce_law`: at every loop head the deadline is what the record says,
  automatic commits come no earlier and not without a set, and a worker that
  leaves on a closed channel leaves no set without a commit attempt.
-/

namespace Clackd.Engine

open Clackd.Foundation Clackd.Hal Clackd.Hal.Via

/-! ## The record -/

/-- The worker the entry is about. -/
def Effect.worker : Effect → Option WorkerId
  | .began w _ => some w
  | .called w _ _ => some w
  | .woke w _ => some w
  | _ => none

/-- Whether the entry is a `SetKeycode` that succeeded. -/
def Effect.isSetDone : Effect → Bool
  | .called _ (.op (.setKeycode _ _ _ _ _)) ok => ok
  | _ => false

/-- Whether the entry is the start of a commit. -/
def Effect.isAttempt : Effect → Bool
  | .began _ job => job.isCommit
  | _ => false

/-- Whether the entry is the start of a commit nobody asked for. -/
def Effect.isAutomatic : Effect → Bool
  | .began _ .debounced => true
  | _ => false

theorem Effect.isAttempt_of_isAutomatic {e : Effect} (h : e.isAutomatic = true) :
    e.isAttempt = true := by
  unfold isAutomatic at h
  split at h
  · rfl
  · cases h

theorem Effect.not_isAttempt_of_isSetDone {e : Effect} (h : e.isSetDone = true) :
    e.isAttempt = false := by
  unfold isSetDone at h
  split at h
  · rfl
  · cases h

theorem Effect.not_isSetDone_of_isAttempt {e : Effect} (h : e.isAttempt = true) :
    e.isSetDone = false := by
  unfold isAttempt at h
  split at h
  · rfl
  · cases h

/-- An effect with the time it happened. -/
structure Stamped where
  time : Nat
  effect : Effect

namespace Stamped

/-- The deadline that the entry sets. -/
def arms (e : Stamped) : Option Nat :=
  if e.effect.isSetDone then some (e.time + LEGACY_COMMIT_DEBOUNCE) else none

/-- Whether the entry clears the deadline. -/
def disarms (e : Stamped) : Bool := e.effect.isAttempt

theorem isSome_arms (e : Stamped) : e.arms.isSome = e.effect.isSetDone := by
  unfold arms
  split
  · simp [*]
  · simp [*]

theorem arms_eq_some {e : Stamped} {d : Nat} (h : e.arms = some d) :
    e.effect.isSetDone = true ∧ d = e.time + LEGACY_COMMIT_DEBOUNCE := by
  unfold arms at h
  split at h
  · rename_i hdone
    cases h
    exact ⟨hdone, rfl⟩
  · cases h

theorem not_isSetDone_of_arms {e : Stamped} (h : e.arms = none) : e.effect.isSetDone = false := by
  rw [← isSome_arms, h]
  rfl

end Stamped

/-- Entries that neither arm nor disarm the deadline. -/
def Bystanders (es : List Effect) : Prop :=
  ∀ e ∈ es, e.isSetDone = false ∧ e.isAttempt = false

/-- Bystanders on record, each with its time, change nothing. -/
theorem Bystanders.stamped {es : List Effect} (h : Bystanders es) (now : Nat) :
    ∀ e ∈ es.map (Stamped.mk now), e.arms = none ∧ e.disarms = false := by
  intro e he
  obtain ⟨effect, heffect, rfl⟩ := List.mem_map.1 he
  obtain ⟨hset, hattempt⟩ := h effect heffect
  exact ⟨by rw [Stamped.arms, hset]; rfl, hattempt⟩

/-! ## One move of a worker -/

namespace Worker

variable {D : Type} [KeyboardDriver D]

/-- A move of a worker, with what it emits; `senders` says whether anybody can
still send on its channel. -/
def move (w : WorkerId) (senders : Bool) (now : Nat) (x : Worker D) :
    WorkerMove → Option (Worker D × List Effect)
  | .recv => x.recv w senders
  | .debounce => x.debounce w senders now
  | .finish order => x.finish w ⟨now, order⟩
  | .report => x.reportDone.map fun x => (x, [])
  | .exit => x.exitTask.map fun x => (x, [])
  | .panic => x.panicked.map fun x => (x, [])

/-- What a move of a worker that emits `es` does to its deadline. -/
inductive Debouncing (w : WorkerId) (now : Nat) (x x' : Worker D) (move : WorkerMove)
    (es : List Effect) : Prop
  /-- Nothing. -/
  | kept (bystanders : Bystanders es) (deadline : x'.commit_deadline = x.commit_deadline)
      (live : x.phase ≠ .gone ∧ x'.phase ≠ .gone)
      (committing : ∀ job, x'.phase = .running job → job.isCommit = false)
  /-- A set has succeeded. -/
  | set (e : Effect) (more : List Effect) (effects : es = e :: more)
      (done : e.isSetDone = true) (own : e.worker = some w) (bystanders : Bystanders more)
      (deadline : x'.commit_deadline =
        if KeyboardDriver.emits_layout_event_per_set x'.driver then x.commit_deadline
        else some (now + LEGACY_COMMIT_DEBOUNCE))
      (live : x.phase ≠ .gone ∧ x'.phase ≠ .gone)
      (committing : ∀ job, x'.phase ≠ .running job)
  /-- A commit starts. -/
  | attempt (job : Job) (effects : es = [.began w job]) (commit : job.isCommit = true)
      (due : job = .debounced → x.commit_deadline.any (· ≤ now))
      (deadline : x'.commit_deadline = none) (live : x.phase ≠ .gone)
      (running : x'.phase = .running job)
  /-- The worker leaves. -/
  | left (bystanders : Bystanders es) (live : x.phase ≠ .gone)
      (deadline : x'.commit_deadline = none) (gone : x'.phase = .gone)
      (settled : x.commit_deadline = none ∨ x.phase = .running .final ∨
        move = .exit ∨ move = .panic)

/-- The start of a job. -/
theorem debouncing_start {w : WorkerId} {now : Nat} {x y : Worker D} {move : WorkerMove} {job : Job}
    (hphase : x.phase = .idle) (hdeadline : y.commit_deadline = x.commit_deadline)
    (hdue : job = .debounced → x.commit_deadline.any (· ≤ now)) :
    Debouncing w now x (start w job y).1 move (start w job y).2 := by
  have hlive : x.phase ≠ .gone := by simp [hphase]
  by_cases hcommit : job.isCommit = true
  · exact .attempt job rfl hcommit hdue (if_pos hcommit) hlive rfl
  · refine .kept ?_ ((if_neg hcommit).trans hdeadline) ⟨hlive, nofun⟩ ?_
    · intro e he
      rw [List.mem_singleton.1 he]
      exact ⟨rfl, by simpa [Effect.isAttempt] using hcommit⟩
    · intro job' hjob'
      cases hjob'
      simpa using hcommit

/-- The end of an operation: the deadline moves if it is a set that succeeded. -/
theorem debouncing_finishOp {w : WorkerId} (turn : Turn) {x : Worker D} {move : WorkerMove}
    {op : WorkerOp} (hphase : x.phase = .running (.op op)) :
    Debouncing w turn.now x (finishOp w turn op x).1 move (finishOp w turn op x).2 := by
  have hafter := finishOp_phase w turn op x
  have hnext : ∀ job, (finishOp w turn op x).1.phase ≠ .running job := by
    intro job
    rw [hafter]
    split <;> simp
  have hlive : x.phase ≠ .gone ∧ (finishOp w turn op x).1.phase ≠ .gone := by
    constructor
    · simp [hphase]
    · rw [hafter]
      split <;> simp
  have hkept : ∀ effects, (finishOp w turn op x).2 = effects → Bystanders effects →
      (finishOp w turn op x).1.commit_deadline = x.commit_deadline →
      Debouncing w turn.now x (finishOp w turn op x).1 move (finishOp w turn op x).2 := by
    intro effects heffects hbystanders hdeadline
    rw [heffects]
    exact .kept hbystanders hdeadline hlive fun job hjob => absurd hjob (hnext job)
  cases op with
  | setKeycode layer row col keycode reply =>
      cases hok : (call turn x.driver (.setKeycode layer row col keycode reply)).ok with
      | true =>
          refine .set (.called w (.op (.setKeycode layer row col keycode reply)) true)
            (finishOp w turn (.setKeycode layer row col keycode reply) x).2.tail ?_ rfl rfl ?_ ?_
            hlive hnext
          · rw [finishOp, hok]
            rfl
          · simp only [finishOp, aftermath, hok, if_true, List.tail_cons]
            split <;> simp [Bystanders, announce, Effect.isSetDone, Effect.isAttempt]
          · simp only [finishOp, aftermath, hok, if_true]
            split <;> rfl
      | false =>
          refine hkept _ rfl ?_ ?_
          · simp [Bystanders, finishOp, aftermath, hok, Effect.isSetDone, Effect.isAttempt]
          · simp [finishOp, aftermath, hok, after]
  | commit reply =>
      refine hkept _ rfl ?_ rfl
      simp only [finishOp, aftermath]
      split <;> simp [Bystanders, announce, Effect.isSetDone, Effect.isAttempt]
  | _ =>
      refine hkept _ rfl ?_ rfl
      simp [Bystanders, finishOp, aftermath, Effect.isSetDone, Effect.isAttempt]

/-- What a move of a worker can do to its deadline. -/
theorem debouncing {w : WorkerId} {senders : Bool} {now : Nat} {x : Worker D} {m : WorkerMove}
    {r : Worker D × List Effect} (h : x.move w senders now m = some r) :
    Debouncing w now x r.1 m r.2 := by
  have hnone : Bystanders [] := by
    intro e he
    cases he
  cases m with
  | recv =>
      obtain ⟨hidle, ⟨op, rest, -, rfl⟩ | ⟨-, -, -, rfl⟩ | ⟨-, -, hdeadline, rfl⟩⟩ := recv_cases h
      · exact debouncing_start hidle rfl (by simp)
      · exact debouncing_start hidle rfl (by simp)
      · exact .left hnone (by simp [hidle]) rfl rfl (.inl hdeadline)
  | debounce =>
      obtain ⟨hidle, hdue, rfl⟩ := debounce_cases h
      exact debouncing_start hidle rfl fun _ => hdue
  | finish order =>
      obtain ⟨op, hphase, rfl⟩ | ⟨hphase, rfl⟩ | ⟨hphase, rfl⟩ := finish_cases h
      · exact debouncing_finishOp ⟨now, order⟩ hphase
      · refine .kept ?_ rfl ⟨by simp [hphase], ?_⟩ ?_
        · simp only [finishDebounced]
          split <;> simp [Bystanders, announce, Effect.isSetDone, Effect.isAttempt]
        · simp only [finishDebounced, after]
          split <;> simp
        · simp only [finishDebounced, after]
          split <;> simp
      · refine .left ?_ (by simp [hphase]) rfl rfl (.inr (.inl hphase))
        simp [Bystanders, finishFinal, Effect.isSetDone, Effect.isAttempt]
  | report =>
      obtain ⟨x', hx', rfl⟩ := Option.map_eq_some_iff.1 h
      obtain ⟨hphase, rfl⟩ := reportDone_cases hx'
      exact .kept hnone rfl ⟨by simp [hphase], by simp⟩ (by simp)
  | exit =>
      obtain ⟨x', hx', rfl⟩ := Option.map_eq_some_iff.1 h
      obtain ⟨hphase, rfl⟩ := exitTask_cases hx'
      exact .left hnone (by simp [hphase]) rfl rfl (.inr (.inr (.inl rfl)))
  | panic =>
      obtain ⟨x', hx', rfl⟩ := Option.map_eq_some_iff.1 h
      obtain ⟨⟨job, hphase⟩, rfl⟩ := panicked_cases hx'
      exact .left hnone (by simp [hphase]) rfl rfl (.inr (.inr (.inr rfl)))

end Worker

/-! ## One move around a worker -/

namespace Bench

section Debounce

variable {D : Type} [KeyboardDriver D] [BackgroundTasks D]

omit [KeyboardDriver D] [BackgroundTasks D] in
/-- What a move adds to the record. -/
def stamp (s s' : Bench D) : List Stamped :=
  (s'.log.drop s.log.length).map (Stamped.mk s.now)

omit [KeyboardDriver D] [BackgroundTasks D] in
theorem stamp_eq {s s' : Bench D} {es : List Effect} (h : s'.log = s.log ++ es) :
    s.stamp s' = es.map (Stamped.mk s.now) := by
  rw [stamp, h, List.drop_left]

omit [KeyboardDriver D] [BackgroundTasks D] in
theorem stamp_setWorker (s : Bench D) (r : Worker D × List Effect) :
    s.stamp (s.setWorker r) = r.2.map (Stamped.mk s.now) := stamp_eq rfl

/-- The record of a run. -/
def record (s : Bench D) (moves : List BenchMove) : List Stamped := chronicle step stamp s moves

/-- The driver is a buffered one, whatever is done with it. -/
def StaysBuffered (s : Bench D) : Prop :=
  ∀ moves s', run step s moves = some s' →
    KeyboardDriver.emits_layout_event_per_set s'.worker.driver = false

theorem StaysBuffered.step {s s' : Bench D} {move : BenchMove} (h : s.StaysBuffered)
    (hstep : s.step move = some s') : s'.StaysBuffered :=
  fun moves s'' hrun => h (move :: moves) s'' (run_cons_some.2 ⟨s', hstep, hrun⟩)

omit [BackgroundTasks D] in
theorem workerStep_eq (s : Bench D) (m : WorkerMove) :
    s.workerStep m = (s.worker.move 0 s.senders s.now m).map fun r => s.setWorker r := by
  cases m with
  | report =>
      rw [workerStep, Worker.move, Option.map_map]
      rfl
  | exit =>
      rw [workerStep, Worker.move, Option.map_map]
      rfl
  | panic =>
      rw [workerStep, Worker.move, Option.map_map]
      rfl
  | _ => rfl

/-- What a move leaves of the worker: all but its queue and its driver, or what a
move of the worker makes of it. -/
theorem step_worker {s s' : Bench D} {move : BenchMove} (hstep : s.step move = some s') :
    (∃ es, s'.log = s.log ++ es ∧ Bystanders es ∧
        s'.worker.commit_deadline = s.worker.commit_deadline ∧
        s'.worker.phase = s.worker.phase) ∨
      ∃ m r, move = .worker m ∧ s.worker.move 0 s.senders s.now m = some r ∧
        s' = s.setWorker r := by
  have hnone : Bystanders [] := by
    intro e he
    cases he
  cases move with
  | tick ms =>
      cases hstep
      exact .inl ⟨[], (List.append_nil _).symm, hnone, rfl, rfl⟩
  | request op =>
      rw [step] at hstep
      split at hstep
      · cases hstep
        exact .inl ⟨[], (List.append_nil _).symm, hnone, rfl, rfl⟩
      · cases hstep
  | close =>
      cases hstep
      exact .inl ⟨[], (List.append_nil _).symm, hnone, rfl, rfl⟩
  | background order wakeup =>
      obtain ⟨d, -, rfl⟩ := Option.map_eq_some_iff.1 hstep
      refine .inl ⟨[.woke 0 wakeup], rfl, ?_, rfl, rfl⟩
      simp [Bystanders, Effect.isSetDone, Effect.isAttempt]
  | worker m =>
      have hmoved : s.workerStep m = some s' := hstep
      rw [workerStep_eq] at hmoved
      obtain ⟨r, hr, rfl⟩ := Option.map_eq_some_iff.1 hmoved
      exact .inr ⟨m, r, rfl, hr, rfl⟩

/-! ## The record and the deadline -/

/-- The deadline agrees with the record, no commit runs with a deadline set, and
every commit nobody asked for was due. -/
structure Debounces (record : List Stamped) (s : Bench D) : Prop where
  buffered : s.StaysBuffered
  deadline : s.worker.phase ≠ .gone →
    s.worker.commit_deadline = pending Stamped.arms Stamped.disarms record
  committing : ∀ job, s.worker.phase = .running job → job.isCommit = true →
    s.worker.commit_deadline = none
  automatic : AtEach (fun before e => e.effect.isAutomatic = true →
    ∃ d, pending Stamped.arms Stamped.disarms before = some d ∧ d ≤ e.time) record

theorem debounces_start {device_id : String} {driver : D} {now : Nat}
    (h : (start device_id driver now).StaysBuffered) :
    Debounces [] (start device_id driver now) where
  buffered := h
  deadline _ := rfl
  committing := nofun
  automatic := atEach_nil

omit [KeyboardDriver D] [BackgroundTasks D] in
/-- Bystanders keep the past of automatic commits. -/
theorem automatic_append {record more : List Stamped} {P : List Stamped → Stamped → Prop}
    (h : AtEach (fun before e => e.effect.isAutomatic = true → P before e) record)
    (hmore : ∀ e ∈ more, e.disarms = false) :
    AtEach (fun before e => e.effect.isAutomatic = true → P before e) (record ++ more) := by
  refine atEach_append_of_irrelevant (fun e he before hcon => ?_) h
  have hattempt : e.disarms = true := Effect.isAttempt_of_isAutomatic hcon
  rw [hmore e he] at hattempt
  cases hattempt

/-- Entries that neither arm nor disarm, and a worker whose deadline stays. -/
theorem Debounces.kept {record : List Stamped} {s s' : Bench D} {es : List Effect}
    (h : s.Debounces record) (hbuffered : s'.StaysBuffered) (hlog : s'.log = s.log ++ es)
    (hbystanders : Bystanders es)
    (hdeadline : s'.worker.commit_deadline = s.worker.commit_deadline)
    (hlive : s'.worker.phase ≠ .gone → s.worker.phase ≠ .gone)
    (hcommitting : ∀ job, s'.worker.phase = .running job → job.isCommit = true →
      s.worker.phase = .running job) : s'.Debounces (record ++ s.stamp s') := by
  have hirrelevant := hbystanders.stamped s.now
  rw [stamp_eq hlog]
  constructor
  · exact hbuffered
  · intro hlive'
    rw [hdeadline, pending_append_of_irrelevant hirrelevant]
    exact h.deadline (hlive hlive')
  · intro job hjob hcommit
    rw [hdeadline]
    exact h.committing job (hcommitting job hjob hcommit) hcommit
  · exact automatic_append h.automatic fun e he => (hirrelevant e he).2

/-- Every move keeps the deadline and the record in agreement. -/
theorem debounces_step {record : List Stamped} {s s' : Bench D} {move : BenchMove}
    (h : s.Debounces record) (hstep : s.step move = some s') :
    s'.Debounces (record ++ s.stamp s') := by
  have hbuffered := h.buffered.step hstep
  obtain ⟨es, hlog, hbystanders, hdeadline, hphase⟩ | ⟨m, ⟨x', es⟩, -, hmove, rfl⟩ :=
    step_worker hstep
  · refine h.kept hbuffered hlog hbystanders hdeadline ?_ ?_
    · rw [hphase]
      exact id
    · rw [hphase]
      exact fun job hjob _ => hjob
  have hflag : KeyboardDriver.emits_layout_event_per_set x'.driver = false := hbuffered [] _ rfl
  cases Worker.debouncing hmove with
  | kept bystanders deadline live committing =>
      refine h.kept hbuffered rfl bystanders deadline (fun _ => live.1) ?_
      intro job hjob hcommit
      rw [committing job hjob] at hcommit
      cases hcommit
  | set e more effects done own bystanders deadline live committing =>
      subst effects
      have hirrelevant := bystanders.stamped s.now
      rw [hflag] at deadline
      rw [stamp_setWorker, List.map_cons,
        ← List.singleton_append, ← List.append_assoc]
      constructor
      · exact hbuffered
      · intro _
        have harms : Stamped.arms ⟨s.now, e⟩ = some (s.now + LEGACY_COMMIT_DEBOUNCE) := if_pos done
        rw [pending_append_of_irrelevant hirrelevant, pending_snoc, pendingAfter, harms,
          Option.some_or]
        exact deadline
      · exact fun job hjob => absurd hjob (committing job)
      · refine automatic_append (automatic_append h.automatic ?_) fun e he => (hirrelevant e he).2
        intro x hx
        rw [List.mem_singleton.1 hx]
        exact Effect.not_isAttempt_of_isSetDone done
  | attempt job effects commit due deadline live running =>
      subst effects
      have hdisarms : Stamped.disarms ⟨s.now, .began 0 job⟩ = true := commit
      rw [stamp_setWorker, List.map_singleton]
      constructor
      · exact hbuffered
      · intro _
        rw [pending_snoc, pendingAfter, hdisarms]
        exact deadline
      · intro _ _ _
        exact deadline
      · refine (atEach_snoc record _).2 ⟨h.automatic, fun hauto => ?_⟩
        have hjob : job = .debounced := by
          cases job with
          | debounced => rfl
          | op op => cases hauto
          | final => cases hauto
        have hdue := due hjob
        rw [h.deadline live] at hdue
        obtain ⟨d, hd, hle⟩ := (Option.any_eq_true _ _).1 hdue
        exact ⟨d, hd, of_decide_eq_true hle⟩
  | left bystanders live deadline gone settled =>
      rw [stamp_setWorker]
      constructor
      · exact hbuffered
      · exact fun hcon => absurd gone hcon
      · intro _ _ _
        exact deadline
      · exact automatic_append h.automatic fun e he => (bystanders.stamped s.now e he).2

omit [KeyboardDriver D] [BackgroundTasks D] in
/-- Something is pending exactly if a set has succeeded since the last attempt. -/
theorem pending_isSome_iff_since (record : List Stamped) :
    (pending Stamped.arms Stamped.disarms record).isSome = true ↔
      Since (fun e => e.effect.isSetDone = true) (fun e => e.effect.isAttempt = true) record := by
  rw [pending_isSome_iff]
  simp only [Stamped.isSome_arms]
  rfl

omit [KeyboardDriver D] [BackgroundTasks D] in
/-- What is pending is the deadline of the last set that succeeded. -/
theorem pending_set {record : List Stamped} {d : Nat}
    (h : pending Stamped.arms Stamped.disarms record = some d) :
    ∃ before set after, record = before ++ set :: after ∧ set.effect.isSetDone = true ∧
      (∀ e ∈ after, e.effect.isSetDone = false ∧ e.effect.isAttempt = false) ∧
      d = set.time + LEGACY_COMMIT_DEBOUNCE := by
  obtain ⟨before, set, after, hrecord, harms, hafter⟩ := (pending_eq_some_iff record d).1 h
  obtain ⟨hdone, hd⟩ := Stamped.arms_eq_some harms
  exact ⟨before, set, after, hrecord, hdone,
    fun e he => ⟨Stamped.not_isSetDone_of_arms (hafter e he).1, (hafter e he).2⟩, hd⟩

/-! ## The law -/

/-- The debounce law, in a state with the record of the run that led to it. -/
structure DebounceLaw (record : List Stamped) (s : Bench D) : Prop where
  /-- At the loop head a commit is pending exactly if a set has succeeded since the
  last commit attempt. -/
  pending : s.worker.phase = .idle → (s.worker.commit_deadline.isSome = true ↔
    Since (fun e => e.effect.isSetDone = true) (fun e => e.effect.isAttempt = true) record)
  /-- Its deadline counts from the end of the last set that succeeded. -/
  deadline : s.worker.phase = .idle → ∀ d, s.worker.commit_deadline = some d →
    ∃ before set after, record = before ++ set :: after ∧ set.effect.isSetDone = true ∧
      (∀ e ∈ after, e.effect.isSetDone = false) ∧ d = set.time + LEGACY_COMMIT_DEBOUNCE
  /-- An automatic commit starts no earlier than that after the last set that
  succeeded, and there is one since the previous attempt. -/
  automatic : ∀ before commit after, record = before ++ commit :: after →
    commit.effect.isAutomatic = true → ∃ earlier set later, before = earlier ++ set :: later ∧
      set.effect.isSetDone = true ∧
      (∀ e ∈ later, e.effect.isSetDone = false ∧ e.effect.isAttempt = false) ∧
      set.time + LEGACY_COMMIT_DEBOUNCE ≤ commit.time
  /-- After any attempt, an explicit one included, the next automatic commit is for
  a set that has succeeded in between. -/
  coalesced : ∀ before attempt between commit after,
    record = before ++ attempt :: between ++ commit :: after →
      attempt.effect.isAttempt = true → commit.effect.isAutomatic = true →
        ∃ e ∈ between, e.effect.isSetDone = true
  /-- A worker at its loop head whose channel is closed and drained leaves: at once,
  or after a commit attempt. -/
  closed : s.senders = false → s.worker.phase = .idle → s.worker.rx = [] →
    ∃ s', s.step (.worker .recv) = some s' ∧ (s'.worker.phase = .gone ∨
      s'.worker.phase = .running .final ∧
        ∀ order, ∃ s'', s'.step (.worker (.finish order)) = some s'' ∧ s''.worker.phase = .gone)
  /-- A worker that leaves, other than after a fatal result or by a panic, leaves no
  set that was not followed by a commit attempt. -/
  left : ∀ move s', s.step move = some s' → s.worker.phase ≠ .gone → s'.worker.phase = .gone →
    move ≠ .worker .exit → move ≠ .worker .panic →
      ¬ Since (fun e => e.effect.isSetDone = true) (fun e => e.effect.isAttempt = true)
        (record ++ s.stamp s')

omit [KeyboardDriver D] [BackgroundTasks D] in
/-- If every automatic commit has a set since the attempt before it, there is a set
between any attempt and a later automatic commit. -/
theorem set_between {before between earlier later : List Stamped} {attempt set : Stamped}
    (h : before ++ attempt :: between = earlier ++ set :: later)
    (hattempt : attempt.effect.isAttempt = true) (hset : set.effect.isSetDone = true)
    (hlater : ∀ e ∈ later, e.effect.isAttempt = false) : set ∈ between := by
  rcases List.append_eq_append_iff.1 h with ⟨more, -, hbetween⟩ | ⟨more, -, hlast⟩
  · cases more with
    | nil =>
        obtain rfl : attempt = set := (List.cons.inj hbetween).1
        rw [Effect.not_isSetDone_of_isAttempt hattempt] at hset
        cases hset
    | cons e more =>
        rw [(List.cons.inj hbetween).2]
        simp
  · cases more with
    | nil =>
        obtain rfl : set = attempt := (List.cons.inj hlast).1
        rw [Effect.not_isSetDone_of_isAttempt hattempt] at hset
        cases hset
    | cons e more =>
        have hcon := hlater attempt (by rw [(List.cons.inj hlast).2]; simp)
        rw [hattempt] at hcon
        cases hcon

/-- A worker whose channel is closed and drained leaves. -/
theorem closed_leaves {s : Bench D} (hclosed : s.senders = false) (hidle : s.worker.phase = .idle)
    (hdrained : s.worker.rx = []) :
    ∃ s', s.step (.worker .recv) = some s' ∧ (s'.worker.phase = .gone ∨
      s'.worker.phase = .running .final ∧
        ∀ order, ∃ s'', s'.step (.worker (.finish order)) = some s'' ∧
          s''.worker.phase = .gone) := by
  cases hdeadline : s.worker.commit_deadline with
  | none =>
      refine ⟨s.setWorker (s.worker.leave, []), ?_, .inl rfl⟩
      simp [step, workerStep, Worker.recv, hclosed, hidle, hdrained, hdeadline]
  | some d =>
      refine ⟨s.setWorker (Worker.start 0 .final s.worker), ?_, .inr ⟨rfl, ?_⟩⟩
      · simp [step, workerStep, Worker.recv, hclosed, hidle, hdrained, hdeadline]
      · intro order
        exact ⟨_, rfl, rfl⟩

theorem Debounces.law {record : List Stamped} {s : Bench D} (h : s.Debounces record) :
    s.DebounceLaw record where
  pending := by
    intro hidle
    rw [h.deadline (by simp [hidle]), pending_isSome_iff_since]
  deadline := by
    intro hidle d hd
    rw [h.deadline (by simp [hidle])] at hd
    obtain ⟨before, set, after, hrecord, hdone, hafter, rfl⟩ := pending_set hd
    exact ⟨before, set, after, hrecord, hdone, fun e he => (hafter e he).1, rfl⟩
  automatic := by
    intro before commit after hrecord hauto
    obtain ⟨d, hd, hle⟩ := h.automatic before commit after hrecord hauto
    obtain ⟨earlier, set, later, hbefore, hdone, hlater, rfl⟩ := pending_set hd
    exact ⟨earlier, set, later, hbefore, hdone, hlater, hle⟩
  coalesced := by
    intro before attempt between commit after hrecord hattempt hauto
    obtain ⟨d, hd, -⟩ := h.automatic (before ++ attempt :: between) commit after hrecord hauto
    obtain ⟨earlier, set, later, hbefore, hdone, hlater, -⟩ := pending_set hd
    exact ⟨set, set_between hbefore hattempt hdone fun e he => (hlater e he).2, hdone⟩
  closed := closed_leaves
  left := by
    intro move s' hstep hlive hgone hexit hpanic
    obtain ⟨es, -, -, -, hphase⟩ | ⟨m, ⟨x', es⟩, rfl, hmove, rfl⟩ := step_worker hstep
    · rw [hphase] at hgone
      exact absurd hgone hlive
    cases Worker.debouncing hmove with
    | kept bystanders deadline live => exact absurd hgone live.2
    | set e more effects done own bystanders deadline live => exact absurd hgone live.2
    | attempt job effects commit due deadline live running =>
        rw [show x'.phase = .gone from hgone] at running
        cases running
    | left bystanders live deadline gone settled =>
        have hdeadline : s.worker.commit_deadline = none := by
          rcases settled with hnone | hfinal | rfl | rfl
          · exact hnone
          · exact h.committing .final hfinal rfl
          · exact absurd rfl hexit
          · exact absurd rfl hpanic
        rw [← pending_isSome_iff_since, stamp_setWorker,
          pending_append_of_irrelevant (bystanders.stamped s.now), ← h.deadline hlive, hdeadline]
        decide

/-- The debounce law holds along every run of a worker on a buffered driver. -/
theorem debounce_law (device_id : String) (driver : D) (now : Nat)
    (hbuffered : (start device_id driver now).StaysBuffered) {moves : List BenchMove}
    {s : Bench D} (hrun : run step (start device_id driver now) moves = some s) :
    s.DebounceLaw ((start device_id driver now).record moves) := by
  have h : s.Debounces ([] ++ (start device_id driver now).record moves) :=
    run_chronicle (fun record s move s' hs hstep => debounces_step hs hstep)
      (debounces_start hbuffered) hrun
  exact h.law

end Debounce

/-! ## The buffered drivers -/

/-- A coalescing driver is a buffered one. -/
theorem Coalescing.staysBuffered {T : Type} [CoalescerTransport T] {args : CoalescerArgs}
    {s : Bench (ViaDriver (Metered T))} (h : s.Coalescing args) : s.StaysBuffered := by
  intro moves s' hrun
  have h' : s'.Coalescing args :=
    run_preserves (fun _ _ _ hs hstep => coalescing_step hs hstep) h hrun
  obtain ⟨actor, hinner, -⟩ := h'.actor
  simp only [KeyboardDriver.emits_layout_event_per_set, hinner]

/-- A keyboard with a flush interval of a second. -/
def coalescingKeyboard : Bench (ViaDriver (Metered MockTransport)) :=
  start "hidraw0"
    (ViaDriver.with_coalescing ⟨MockTransport.empty none, []⟩ (1, 1) ⟨1000, "hidraw0", false⟩ 0) 0

/-- A keycode edit on it, left alone for half a second. -/
theorem debounce_law_settling : ∃ s, run step coalescingKeyboard settlingEdit = some s ∧
    s.worker.phase = .running .debounced ∧
      s.DebounceLaw (coalescingKeyboard.record settlingEdit) := by
  have hcoalescing : coalescingKeyboard.Coalescing ⟨1000, "hidraw0", false⟩ :=
    ⟨⟨_, rfl, fun _ => rfl⟩, nofun⟩
  obtain ⟨s, hrun, hphase⟩ : ∃ s, run step coalescingKeyboard settlingEdit = some s ∧
      s.worker.phase = .running .debounced := ⟨_, rfl, rfl⟩
  exact ⟨s, hrun, hphase, debounce_law "hidraw0" _ 0 hcoalescing.staysBuffered hrun⟩

end Bench

end Clackd.Engine
