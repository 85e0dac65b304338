import Clackd.Engine.Deeds
import Clackd.Engine.Mock
import Clackd.Foundation.Serial
import Clackd.Foundation.Spacing

/-!
# The schedule of reconnect attempts

A reconnect task waits, tries to open its device, doubles the wait up to a bound, and
gives up after eight attempts.  Its attempts are read off a run: when the task was
started, when it tried, and what came of it.

## Main results

* `onSchedule_step`: every step keeps the tasks in agreement with their attempts.
* `reconnect_schedule`: when a task tries, and why it stops.
-/

namespace Clackd.Engine

open Clackd.Foundation Clackd.Hal

/-- The wait before an attempt, by the number of attempts before it. -/
def backoffAt (n : Nat) : Nat := min (RECONNECT_INITIAL_BACKOFF_MS * 2 ^ n) RECONNECT_MAX_BACKOFF_MS

/-- Doubling the wait of one attempt gives that of the next. -/
theorem backoffAt_succ (n : Nat) :
    backoffAt (n + 1) = min (backoffAt n * 2) RECONNECT_MAX_BACKOFF_MS := by
  rw [backoffAt, backoffAt, Nat.pow_succ]
  generalize 2 ^ n = p
  simp only [RECONNECT_INITIAL_BACKOFF_MS, RECONNECT_MAX_BACKOFF_MS]
  omega

/-! ## Attempts -/

/-- What came of an attempt. -/
inductive TrialResult where
  /-- There is no driver for the device. -/
  | unknown
  | failed (err : DaemonError)
  | opened
  deriving DecidableEq

/-- Whether the task tries again. -/
def TrialResult.again : TrialResult → Bool
  | .failed err => is_transient_attach_error err
  | _ => false

/-- What is seen of the reconnect tasks. -/
inductive Trial where
  | started (k : TaskId) (now : Nat)
  | tried (k : TaskId) (now : Nat) (result : TrialResult)
  | cancelled (k : TaskId)
  deriving DecidableEq

/-- When a task was started. -/
def Trial.start (k : TaskId) : Trial → Option Nat
  | .started k' now => if k' = k then some now else none
  | _ => none

/-- When a task tried, and what came of it. -/
def Trial.attempt (k : TaskId) : Trial → Option (Nat × TrialResult)
  | .tried k' now result => if k' = k then some (now, result) else none
  | _ => none

namespace Supervisor

variable {W D : Type} [KeyboardDriver D]

/-- What comes of an attempt. -/
def trial (table : DriverTable W D) (turn : Turn) (world : W) (t : ReconnectTask) : TrialResult :=
  match table.factory t.ctx.vendor_id t.ctx.product_id with
  | none => .unknown
  | some factory =>
      match openDevice turn world factory t.ctx.hidraw_path with
      | .ok _ => .opened
      | .error err => .failed err

/-- A reconnect task as a turn starts it. -/
def startedTask (ctx : ReconnectCtx) (now : Nat) : ReconnectTask where
  ctx := ctx
  backoff := RECONNECT_INITIAL_BACKOFF_MS
  attempts := 0
  phase := .sleeping (now + RECONNECT_INITIAL_BACKOFF_MS)

/-- A turn starts one task or none. -/
theorem handle_command_tasks (table : DriverTable W D) (turn : Turn) (world : W)
    (envelope : Envelope) (e : Supervisor D) :
    (e.handle_command table turn world envelope).tasks = e.tasks ∨ ∃ ctx,
      (e.handle_command table turn world envelope).tasks = e.tasks ++ [startedTask ctx turn.now] := by
  have hhandled := handle_command_cases table turn world envelope e
  obtain ⟨sender, cmd⟩ := envelope
  cases hhandled with
  | retried id vendor_id product_id path t hcmd =>
      cases hcmd
      show (e.device_connected table turn world id vendor_id product_id path).tasks = _ ∨ ∃ ctx,
        (e.device_connected table turn world id vendor_id product_id path).tasks = _
      unfold device_connected
      dsimp only
      split
      · exact .inl rfl
      · unfold connect
        split
        · exact .inl rfl
        · split
          · exact .inl rfl
          · split
            · exact .inr ⟨_, rfl⟩
            · exact .inl rfl
  | lost id handle t hcmd =>
      cases hcmd
      show (e.device_error turn id (.driver .disconnected)).tasks = _ ∨ ∃ ctx,
        (e.device_error turn id (.driver .disconnected)).tasks = _
      unfold device_error
      split
      · exact .inr ⟨_, rfl⟩
      · exact .inl rfl
  | quiet effects hregistry htasks => exact .inl htasks
  | cancelled id hcmd hregistry htasks => exact .inl htasks
  | connected id vendor_id product_id path handle hcmd habsent htx hregistry htasks =>
      exact .inl htasks
  | disconnected id handle hcmd hpresent hregistry htasks => exact .inl htasks
  | failed id err handle hcmd herr hpresent hregistry htasks => exact .inl htasks
  | reattached id handle token k hcmd hcurrent hregistry htasks => exact .inl htasks
  | evicted id op handle hcmd hpresent hadmitted hclosed hregistry htasks => exact .inl htasks

end Supervisor

/-! ## A task and its attempts -/

/-- A task, when it was started, what it tried, and whether it was cancelled. -/
structure Tried (born : Nat) (cancelled : Prop) (tries : List (Nat × TrialResult))
    (t : ReconnectTask) : Prop where
  count : tries.length = t.attempts
  bounded : tries.length ≤ RECONNECT_MAX_ATTEMPTS
  spaced : Spaced backoffAt born (tries.map Prod.fst)
  /-- It tried again after failures only. -/
  again : ∀ r ∈ tries.dropLast, r.2.again = true
  sleeping : ∀ wake_at, t.phase = .sleeping wake_at →
    t.backoff = backoffAt tries.length ∧ tries.length < RECONNECT_MAX_ATTEMPTS ∧
      (∀ r ∈ tries, r.2.again = true) ∧
        wake_at = latest born (tries.map Prod.fst) + backoffAt tries.length
  sending : ∀ handle, t.phase = .sending handle → ∃ now, tries.getLast? = some (now, .opened)
  returned : t.phase = .returned → cancelled ∨
    (tries.length = RECONNECT_MAX_ATTEMPTS ∧ ∀ r ∈ tries, r.2.again = true) ∨
      ∃ r, tries.getLast? = some r ∧ r.2.again = false

theorem tried_started (ctx : ReconnectCtx) (now : Nat) (cancelled : Prop) :
    Tried now cancelled [] (Supervisor.startedTask ctx now) where
  count := rfl
  bounded := Nat.zero_le _
  spaced := spaced_nil
  again := fun _ h => absurd h List.not_mem_nil
  sleeping := by
    intro wake_at hphase
    cases hphase
    exact ⟨rfl, by decide, fun _ h => absurd h List.not_mem_nil, rfl⟩
  sending := fun _ hphase => by cases hphase
  returned := fun hphase => by cases hphase

variable {born : Nat} {cancelled : Prop} {tries : List (Nat × TrialResult)} {t : ReconnectTask}

theorem Tried.mono {cancelled' : Prop} (h : Tried born cancelled tries t)
    (hmono : cancelled → cancelled') : Tried born cancelled' tries t :=
  ⟨h.count, h.bounded, h.spaced, h.again, h.sleeping, h.sending,
    fun hphase => (h.returned hphase).imp hmono id⟩

/-- A task that is cancelled returns. -/
theorem Tried.abandon (h : Tried born cancelled tries t) (hcancelled : cancelled) :
    Tried born cancelled tries t.abandon where
  count := h.count
  bounded := h.bounded
  spaced := h.spaced
  again := h.again
  sleeping := fun _ hphase => by cases hphase
  sending := fun _ hphase => by cases hphase
  returned := fun _ => .inl hcancelled

/-- A task that has sent its handle returns. -/
theorem Tried.sent (h : Tried born cancelled tries t) {handle : DeviceHandle}
    (hphase : t.phase = .sending handle) : Tried born cancelled tries t.abandon where
  count := h.count
  bounded := h.bounded
  spaced := h.spaced
  again := h.again
  sleeping := fun _ hphase => by cases hphase
  sending := fun _ hphase => by cases hphase
  returned := by
    intro _
    obtain ⟨now, hlast⟩ := h.sending handle hphase
    exact .inr (.inr ⟨(now, .opened), hlast, rfl⟩)

/-- After an attempt that failed, the task sleeps on or gives up. -/
theorem retry_cases (now : Nat) (t : ReconnectTask) :
    (RECONNECT_MAX_ATTEMPTS ≤ t.attempts ∧ (t.retry now).phase = .returned) ∨
      (t.attempts < RECONNECT_MAX_ATTEMPTS ∧ (t.retry now).phase =
        .sleeping (now + min (t.backoff * 2) RECONNECT_MAX_BACKOFF_MS)) := by
  rw [ReconnectTask.retry]
  dsimp only
  split
  · rename_i hmany
    exact .inl ⟨hmany, rfl⟩
  · rename_i hfew
    exact .inr ⟨Nat.lt_of_not_le hfew, rfl⟩

/-- One more attempt: the task was asleep, and woke up in time. -/
theorem Tried.attempt (h : Tried born cancelled tries t) {wake_at now : Nat}
    (hphase : t.phase = .sleeping wake_at) (hwoke : wake_at ≤ now) {result : TrialResult}
    {t' : ReconnectTask} (hattempts : t'.attempts = t.attempts + 1)
    (hcases : (result.again = true ∧ t' = (Supervisor.nextAttempt t).retry now) ∨
      (result.again = false ∧ t'.phase = .returned) ∨
        (result = .opened ∧ ∃ handle, t'.phase = .sending handle)) :
    Tried born cancelled (tries ++ [(now, result)]) t' := by
  obtain ⟨hbackoff, hfew, hall, hwake⟩ := h.sleeping wake_at hphase
  have hlength : (tries ++ [(now, result)]).length = tries.length + 1 := by
    rw [List.length_append, List.length_singleton]
  have hcount := h.count
  refine ⟨by omega, by omega, ?_, ?_, ?_, ?_, ?_⟩
  · rw [List.map_append]
    refine h.spaced.snoc ?_
    rw [List.length_map, ← hwake]
    exact hwoke
  · rw [List.dropLast_concat]
    exact hall
  · intro wake_at' hphase'
    rcases hcases with ⟨hagain, rfl⟩ | ⟨-, hreturned⟩ | ⟨-, handle, hsending⟩
    · rw [hlength, List.map_append]
      rcases retry_cases now (Supervisor.nextAttempt t) with ⟨-, hreturned⟩ | ⟨hmore, hsleeping⟩
      · rw [hreturned] at hphase'
        cases hphase'
      · rw [hsleeping] at hphase'
        cases hphase'
        have hmore' : t.attempts + 1 < RECONNECT_MAX_ATTEMPTS := hmore
        have hdouble : min ((Supervisor.nextAttempt t).backoff * 2) RECONNECT_MAX_BACKOFF_MS =
            backoffAt (tries.length + 1) := by
          rw [backoffAt_succ, ← hbackoff]
          rfl
        refine ⟨hdouble, by omega, ?_, ?_⟩
        · intro r hr
          rcases List.mem_append.1 hr with hold | hnew
          · exact hall r hold
          · rw [List.mem_singleton.1 hnew]
            exact hagain
        · rw [hdouble, List.map_singleton, latest_snoc]
    · rw [hreturned] at hphase'
      cases hphase'
    · rw [hsending] at hphase'
      cases hphase'
  · intro handle hphase'
    rcases hcases with ⟨-, rfl⟩ | ⟨-, hreturned⟩ | ⟨hopened, -⟩
    · exact absurd hphase' (Supervisor.retry_not_sending _ _ _)
    · rw [hreturned] at hphase'
      cases hphase'
    · exact ⟨now, by rw [List.getLast?_concat, hopened]⟩
  · intro hphase'
    right
    rcases hcases with ⟨hagain, rfl⟩ | ⟨hfinal, -⟩ | ⟨-, handle, hsending⟩
    · left
      rcases retry_cases now (Supervisor.nextAttempt t) with ⟨hmany, -⟩ | ⟨-, hsleeping⟩
      · have hmany' : RECONNECT_MAX_ATTEMPTS ≤ t.attempts + 1 := hmany
        refine ⟨by omega, ?_⟩
        intro r hr
        rcases List.mem_append.1 hr with hold | hnew
        · exact hall r hold
        · rw [List.mem_singleton.1 hnew]
          exact hagain
      · rw [hsleeping] at hphase'
        cases hphase'
    · right
      exact ⟨(now, result), List.getLast?_concat, hfinal⟩
    · rw [hsending] at hphase'
      cases hphase'

namespace Sys

variable {W D : Type} [KeyboardDriver D] [BackgroundTasks D]

/-- What is seen of the reconnect task that moves. -/
def trialOf (table : DriverTable W D) (s : Sys D) : Label W → Option Trial
  | .task k .cancel => some (.cancelled k)
  | .task k (.attempt order world) => s.sup.tasks[k]?.map fun t =>
      .tried k s.now (Supervisor.trial table ⟨s.now, order⟩ world t)
  | _ => none

/-- What is seen of the reconnect tasks in a step. -/
def trials (table : DriverTable W D) (s : Sys D) (l : Label W) (s' : Sys D) : List Trial :=
  (s.trialOf table l).toList ++
    if s'.sup.tasks.length = s.sup.tasks.length then [] else [.started s.sup.tasks.length s.now]

/-- The tasks agree with what was seen of them. -/
structure OnSchedule (history : List Trial) (s : Sys D) : Prop where
  tasks : ∀ (k : TaskId) (t : ReconnectTask), s.sup.tasks[k]? = some t →
    ∃ born, history.filterMap (Trial.start k) = [born] ∧
      Tried born (.cancelled k ∈ history) (history.filterMap (Trial.attempt k)) t
  absent : ∀ k, s.sup.tasks.length ≤ k →
    history.filterMap (Trial.start k) = [] ∧ history.filterMap (Trial.attempt k) = []

omit [KeyboardDriver D] [BackgroundTasks D] in
theorem onSchedule_start : (start : Sys D).OnSchedule [] where
  tasks := fun _ _ h => by cases h
  absent := fun _ _ => ⟨rfl, rfl⟩

omit [KeyboardDriver D] [BackgroundTasks D] in
/-- A turn that starts a task. -/
theorem OnSchedule.started {history : List Trial} {s s' : Sys D} (h : s.OnSchedule history)
    {ctx : ReconnectCtx}
    (htasks : s'.sup.tasks = s.sup.tasks ++ [Supervisor.startedTask ctx s.now]) :
    s'.OnSchedule (history ++ [.started s.sup.tasks.length s.now]) := by
  have hother : ∀ k, k ≠ s.sup.tasks.length →
      (history ++ [Trial.started s.sup.tasks.length s.now]).filterMap (Trial.start k) =
        history.filterMap (Trial.start k) := by
    intro k hk
    simp [Trial.start, Ne.symm hk]
  have hattempts : ∀ k,
      (history ++ [Trial.started s.sup.tasks.length s.now]).filterMap (Trial.attempt k) =
        history.filterMap (Trial.attempt k) := by
    intro k
    simp [Trial.attempt]
  refine ⟨?_, ?_⟩
  · intro k t ht
    rw [htasks] at ht
    rw [hattempts]
    by_cases hk : k < s.sup.tasks.length
    · rw [List.getElem?_append_left hk] at ht
      obtain ⟨born, hborn, htried⟩ := h.tasks k t ht
      refine ⟨born, ?_, htried.mono (List.mem_append_left _)⟩
      rw [hother k (Nat.ne_of_lt hk)]
      exact hborn
    · rw [List.getElem?_append_right (Nat.le_of_not_lt hk)] at ht
      obtain rfl := List.mem_singleton.1 (List.mem_of_getElem? ht)
      have hlast : k = s.sup.tasks.length := by
        have hlt := (List.getElem?_eq_some_iff.1 ht).1
        rw [List.length_singleton] at hlt
        exact Nat.le_antisymm (Nat.le_of_sub_eq_zero (Nat.lt_one_iff.1 hlt)) (Nat.le_of_not_lt hk)
      obtain ⟨hnone, hnothing⟩ := h.absent k (Nat.le_of_eq hlast.symm)
      refine ⟨s.now, ?_, ?_⟩
      · rw [List.filterMap_append, hnone, hlast]
        simp [Trial.start]
      · rw [hnothing]
        exact tried_started ctx s.now _
  · intro k hk
    rw [htasks, List.length_append, List.length_singleton] at hk
    rw [hattempts, hother k (Nat.ne_of_gt hk)]
    exact h.absent k (Nat.le_of_succ_le hk)

omit [KeyboardDriver D] [BackgroundTasks D] in
/-- A task that moves on. -/
theorem OnSchedule.moved {history more : List Trial} {s s' : Sys D} (h : s.OnSchedule history)
    {k : TaskId} {t t' : ReconnectTask} (ht : s.sup.tasks[k]? = some t)
    (htasks : s'.sup.tasks = s.sup.tasks.set k t')
    (hstarts : ∀ j, more.filterMap (Trial.start j) = [])
    (hothers : ∀ j, j ≠ k → more.filterMap (Trial.attempt j) = [])
    (htried : ∀ born, Tried born (.cancelled k ∈ history) (history.filterMap (Trial.attempt k)) t →
      Tried born (.cancelled k ∈ history ++ more)
        (history.filterMap (Trial.attempt k) ++ more.filterMap (Trial.attempt k)) t') :
    s'.OnSchedule (history ++ more) := by
  refine ⟨?_, ?_⟩
  · intro j u hu
    rw [htasks, List.getElem?_set] at hu
    rw [List.filterMap_append, List.filterMap_append, hstarts, List.append_nil]
    split at hu
    · rename_i hkj
      subst hkj
      split at hu
      · cases hu
        obtain ⟨born, hborn, hold⟩ := h.tasks k t ht
        exact ⟨born, hborn, htried born hold⟩
      · cases hu
    · rename_i hkj
      obtain ⟨born, hborn, hold⟩ := h.tasks j u hu
      rw [hothers j (Ne.symm hkj), List.append_nil]
      exact ⟨born, hborn, hold.mono (List.mem_append_left _)⟩
  · intro j hj
    rw [htasks, List.length_set] at hj
    obtain ⟨hnone, hnothing⟩ := h.absent j hj
    have hjk : j ≠ k := by
      intro hjk
      subst hjk
      rw [List.getElem?_eq_none hj] at ht
      cases ht
    rw [List.filterMap_append, List.filterMap_append, hnone, hnothing, hstarts, hothers j hjk]
    exact ⟨rfl, rfl⟩

omit [BackgroundTasks D] in
/-- What a turn of the loop makes of the task, by what comes of the attempt. -/
theorem attempt_task (table : DriverTable W D) (turn : Turn) (world : W) (k : TaskId)
    (t : ReconnectTask) (e : Supervisor D) :
    ∃ t', (e.attempt table turn world k t).tasks = e.tasks.set k t' ∧
      t'.attempts = t.attempts + 1 ∧
        ((Supervisor.trial table turn world t).again = true ∧
            t' = (Supervisor.nextAttempt t).retry turn.now ∨
          (Supervisor.trial table turn world t).again = false ∧ t'.phase = .returned ∨
            Supervisor.trial table turn world t = .opened ∧ ∃ handle, t'.phase = .sending handle) := by
  cases hfactory : table.factory t.ctx.vendor_id t.ctx.product_id with
  | none =>
      rw [Supervisor.attempt_unknown hfactory, Supervisor.trial, hfactory]
      exact ⟨_, rfl, rfl, .inr (.inl ⟨rfl, rfl⟩)⟩
  | some factory =>
      cases hopen : Supervisor.openDevice turn world factory t.ctx.hidraw_path with
      | ok r =>
          have htrial : Supervisor.trial table turn world t = .opened := by
            simp only [Supervisor.trial, hfactory, hopen]
          rw [Supervisor.attempt_opened hfactory hopen, htrial]
          refine ⟨_, rfl, ?_, ?_⟩
          · split <;> rfl
          · split
            · exact .inr (.inl ⟨rfl, rfl⟩)
            · exact .inr (.inr ⟨rfl, _, rfl⟩)
      | error err =>
          have htrial : Supervisor.trial table turn world t = .failed err := by
            simp only [Supervisor.trial, hfactory, hopen]
          rw [Supervisor.attempt_failed hfactory hopen, htrial]
          refine ⟨_, rfl, ?_, ?_⟩
          · split <;> rfl
          · split
            · rename_i hagain
              exact .inl ⟨hagain, rfl⟩
            · rename_i hfinal
              exact .inr (.inl ⟨Bool.not_eq_true _ ▸ hfinal, rfl⟩)

omit [KeyboardDriver D] [BackgroundTasks D] in
theorem OnSchedule.of_same {history : List Trial} {s s' : Sys D} (h : s.OnSchedule history)
    (htasks : s'.sup.tasks = s.sup.tasks) : s'.OnSchedule history := by
  refine ⟨?_, ?_⟩
  · intro k t ht
    exact h.tasks k t (htasks ▸ ht)
  · intro k hk
    exact h.absent k (htasks ▸ hk)

omit [BackgroundTasks D] in
/-- Nothing is seen of the tasks in a step that leaves them alone. -/
theorem trials_of_same {table : DriverTable W D} {s s' : Sys D} {l : Label W}
    (hnone : s.trialOf table l = none) (htasks : s'.sup.tasks = s.sup.tasks) :
    trials table s l s' = [] := by
  rw [trials, hnone, if_pos (by rw [htasks])]
  rfl

/-- A move of a task, with what is seen of it. -/
theorem onSchedule_task {table : DriverTable W D} {history : List Trial} {s s' : Sys D}
    {k : TaskId} {move : TaskMove W} (h : s.OnSchedule history)
    (hstep : s.step table (.task k move) = some s') :
    s'.OnSchedule (history ++ trials table s (.task k move) s') := by
  obtain ⟨t, ht, hmove⟩ := Option.bind_eq_some_iff.1 hstep
  -- What is seen of a task that moves on is one trial or none.
  have hseen : ∀ {t' : ReconnectTask} (trial : Option Trial),
      s.trialOf table (.task k move) = trial → s'.sup.tasks = s.sup.tasks.set k t' →
        trials table s (.task k move) s' = trial.toList := by
    intro t' trial htrial htasks
    rw [trials, htrial, if_pos (by rw [htasks, List.length_set]), List.append_nil]
  cases move with
  | cancel =>
      rw [taskStep] at hmove
      split at hmove
      · split at hmove
        · cases hmove
          rw [hseen (some (.cancelled k)) rfl rfl]
          refine h.moved ht rfl (fun _ => rfl) (fun _ _ => rfl) ?_
          intro born htried
          have hmember : Trial.cancelled k ∈ history ++ [Trial.cancelled k] :=
            List.mem_append_right _ List.mem_cons_self
          have hnone : [Trial.cancelled k].filterMap (Trial.attempt k) = [] := rfl
          rw [Option.toList_some, hnone, List.append_nil]
          exact (htried.mono (List.mem_append_left _)).abandon hmember
        · cases hmove
      · cases hmove
  | attempt order world =>
      rw [taskStep] at hmove
      split at hmove
      · rename_i wake_at hphase
        split at hmove
        · rename_i hwoke
          cases hmove
          obtain ⟨t', htasks, hattempts, hcases⟩ :=
            attempt_task table ⟨s.now, order⟩ world k t s.sup
          have htrial : s.trialOf table (.task k (.attempt order world)) =
              some (.tried k s.now (Supervisor.trial table ⟨s.now, order⟩ world t)) := by
            rw [trialOf, ht]
            rfl
          rw [hseen _ htrial htasks]
          refine h.moved ht htasks (fun _ => rfl) ?_ ?_
          · intro j hj
            simp [Trial.attempt, Ne.symm hj]
          · intro born htried
            have hsame := (htried.attempt hphase hwoke hattempts hcases).mono
              (List.mem_append_left [Trial.tried k s.now
                (Supervisor.trial table ⟨s.now, order⟩ world t)])
            simpa [Trial.attempt] using hsame
        · cases hmove
      · cases hmove
  | send =>
      rw [taskStep] at hmove
      split at hmove
      · rename_i handle hphase
        obtain ⟨hsup, -⟩ := sendOrDrop_cases hmove
        have htasks : s'.sup.tasks = s.sup.tasks.set k t.abandon := by
          rw [hsup]
          rfl
        rw [hseen none rfl htasks]
        refine h.moved ht htasks (fun _ => rfl) (fun _ _ => rfl) ?_
        intro born htried
        have hsame := htried.sent hphase
        simpa using hsame
      · cases hmove

/-- Every step keeps the tasks in agreement with their attempts. -/
theorem onSchedule_step {table : DriverTable W D} {history : List Trial} {s s' : Sys D}
    {l : Label W} (h : s.OnSchedule history) (hstep : s.step table l = some s') :
    s'.OnSchedule (history ++ trials table s l s') := by
  have hsame : s.trialOf table l = none → s'.sup.tasks = s.sup.tasks →
      s'.OnSchedule (history ++ trials table s l s') := by
    intro hnone htasks
    rw [trials_of_same hnone htasks, List.append_nil]
    exact h.of_same htasks
  cases l with
  | task k move => exact onSchedule_task h hstep
  | tick ms =>
      cases hstep
      exact hsame rfl rfl
  | enqueue cmd =>
      obtain ⟨hsup, -⟩ := enqueue_queue hstep
      exact hsame rfl (by rw [hsup])
  | superviseReturn => exact hsame rfl (superviseReturn_cases hstep).tasks
  | background w order wakeup =>
      obtain ⟨x, -, hwake⟩ := Option.bind_eq_some_iff.1 hstep
      obtain ⟨driver, -, rfl⟩ := Option.map_eq_some_iff.1 hwake
      exact hsame rfl rfl
  | worker w move =>
      obtain ⟨x, -, hmove⟩ := Option.bind_eq_some_iff.1 hstep
      refine hsame rfl ?_
      cases move with
      | report =>
          obtain ⟨x', -, hsend⟩ := Option.bind_eq_some_iff.1 hmove
          obtain ⟨hsup, -⟩ := sendOrDrop_cases hsend
          rw [hsup]
          rfl
      | recv =>
          obtain ⟨r, -, rfl⟩ := Option.map_eq_some_iff.1 hmove
          rfl
      | debounce =>
          obtain ⟨r, -, rfl⟩ := Option.map_eq_some_iff.1 hmove
          rfl
      | finish order =>
          obtain ⟨r, -, rfl⟩ := Option.map_eq_some_iff.1 hmove
          rfl
      | exit =>
          obtain ⟨x', -, rfl⟩ := Option.map_eq_some_iff.1 hmove
          rfl
      | panic =>
          obtain ⟨x', -, rfl⟩ := Option.map_eq_some_iff.1 hmove
          rfl
  | supervise order world =>
      have hstep' : s.supervise table order world = some s' := hstep
      rw [supervise] at hstep'
      split at hstep'
      · rename_i envelope rest _ _
        dsimp only at hstep'
        split at hstep'
        · cases hstep'
          exact hsame rfl rfl
        · cases hstep'
          rcases Supervisor.handle_command_tasks table ⟨s.now, order⟩ world envelope
            (s.sup.emit [.handled envelope]) with hkept | ⟨ctx, hstarted⟩
          · exact hsame rfl hkept
          · have hlonger : (Supervisor.handle_command table ⟨s.now, order⟩ world envelope
                (s.sup.emit [.handled envelope])).tasks.length ≠ s.sup.tasks.length := by
              rw [hstarted, List.length_append, List.length_singleton]
              exact Nat.succ_ne_self _
            rw [trials, if_neg hlonger]
            exact h.started hstarted
      · cases hstep'

/-- **Reconnect attempts keep to a schedule.**  In every run a reconnect task is started
once, at some instant.  Its attempts, at most eight, come no earlier than the doubling
waits allow, each after the one before.  It tries again after transient failures only; as
long as it sleeps they were all transient and its next attempt is due exactly one wait
after the last; and it stops only when it was cancelled, after the eighth transient
failure, or when the last attempt opened the device or failed for good. -/
theorem reconnect_schedule (table : DriverTable W D) {ls : List (Label W)} {s : Sys D}
    (hrun : run (step table) start ls = some s) {k : TaskId} {t : ReconnectTask}
    (ht : s.sup.tasks[k]? = some t) :
    let seen := observed (step table) (trials table) start ls
    let tries := seen.filterMap (Trial.attempt k)
    ∃ born, seen.filterMap (Trial.start k) = [born] ∧ Tried born (.cancelled k ∈ seen) tries t ∧
      ∀ n now result, tries[n]? = some (now, result) →
        born + ((List.range (n + 1)).map backoffAt).sum ≤ now := by
  have hstep : ∀ (history : List Trial) (s : Sys D) (l : Label W) (s' : Sys D),
      s.OnSchedule history → s.step table l = some s' →
        s'.OnSchedule (history ++ trials table s l s') :=
    fun _ _ _ _ h hstep => onSchedule_step h hstep
  have hschedule : s.OnSchedule (observed (step table) (trials table) start ls) :=
    run_observed hstep onSchedule_start hrun
  obtain ⟨born, hborn, htried⟩ := hschedule.tasks k t ht
  refine ⟨born, hborn, htried, ?_⟩
  intro n now result hn
  refine htried.spaced.elapsed ?_
  rw [List.getElem?_map, hn]
  rfl

/-- A device that may not be opened yet, and the first two attempts. -/
def deniedRun : List (Label (Except DaemonError MockDriver)) :=
  [.enqueue (.deviceConnected "dev1" 0x05AC 0x024F "/dev/hidraw7"), .tick 30,
    .supervise HashOrder.sorted (.error (.driver (.permissionDenied "/dev/hidraw7"))), .tick 100,
    .task 0 (.attempt HashOrder.sorted (.error (.driver (.permissionDenied "/dev/hidraw7")))),
    .tick 250, .task 0 (.attempt HashOrder.sorted (.error (.driver .disconnected)))]

/-- The second attempt comes after both waits. -/
theorem reconnect_schedule_denied : ∃ (s : Sys MockDriver) (t : ReconnectTask) (born : Nat),
    run (step mockTable) start deniedRun = some s ∧ s.sup.tasks[0]? = some t ∧
      t.phase = .sleeping 780 ∧ born + 300 ≤ 380 ∧
        780 = latest born [130, 380] + backoffAt 2 := by
  have hrun : (run (step mockTable) start deniedRun).bind (fun s => s.sup.tasks[0]?) =
      some ⟨⟨"dev1", 0x05AC, 0x024F, "/dev/hidraw7", 0⟩, 400, 2, .sleeping 780⟩ := by
    decide +kernel
  have hseen : (observed (step mockTable) (trials mockTable) start deniedRun).filterMap
      (Trial.attempt 0) = [(130, .failed (.driver (.permissionDenied "/dev/hidraw7"))),
        (380, .failed (.driver .disconnected))] := by
    decide +kernel
  obtain ⟨s, hs, ht⟩ := Option.bind_eq_some_iff.1 hrun
  obtain ⟨born, -, htried, helapsed⟩ := reconnect_schedule mockTable hs ht
  rw [hseen] at htried helapsed
  exact ⟨s, _, born, hs, ht, rfl, helapsed 1 380 _ rfl, (htried.sleeping 780 rfl).2.2.2⟩

end Sys

end Clackd.Engine
