import Clackd.Engine.Answers

/-!
# The engine comes to rest

Whatever the engine does by itself is paid for by the commands it was sent.  A request
can at worst retire its worker, whose report starts a reconnect task, which tries the
device eight times and hands in a new worker; after that nothing is left of it.  The
weights below add that up for everything a state still holds, and every move of the
engine's own lowers their sum.

Where none of the moves that need nothing but being scheduled is possible, the engine
channel is empty and no worker has a request: a full channel, a worker awaiting room for
its report and a supervisor that has returned never wait for each other.

## Main results

* `step_spends`: every move of the engine's own lowers the work that is left.
* `rested`: a state without a due move has no outstanding request.
* `engine_comes_to_rest`: over every run.
-/

namespace Clackd.Engine

open Clackd.Foundation Clackd.Hal
open Std (ExtTreeMap)

/-! ## What is left to do -/

/-- The work of an idle worker: to leave. -/
def IDLE_WORK : Nat := 1

/-- The work of a reconnect task: its attempts, the worker it may spawn, and the message
it hands it in with. -/
def taskWork (t : ReconnectTask) : Nat :=
  match t.phase with
  | .sleeping _ => RECONNECT_MAX_ATTEMPTS - t.attempts + IDLE_WORK + 3
  | .sending _ => 2
  | .returned => 0

/-- The work of a task that was just started. -/
def FRESH_TASK_WORK : Nat := RECONNECT_MAX_ATTEMPTS + IDLE_WORK + 3

/-- The work of a worker that reports its failure: the report, the turn on it, the
reconnect task, and the return. -/
def REPORT_WORK : Nat := FRESH_TASK_WORK + 3

/-- The work of a pending debounced commit, which may fail. -/
def DEADLINE_WORK : Nat := REPORT_WORK + 2

/-- The work of an operation in hand, which may fail and may arm the deadline. -/
def CALL_WORK : Nat := REPORT_WORK + DEADLINE_WORK + 1

def WorkerPhase.work : WorkerPhase → Nat
  | .idle => IDLE_WORK
  | .running (.op _) => CALL_WORK
  | .running .debounced => REPORT_WORK + 1
  | .running .final => 1
  | .reporting => REPORT_WORK
  | .reported => 1
  | .gone => 0

def deadlineWork : Option Nat → Nat
  | some _ => DEADLINE_WORK
  | none => 0

theorem deadlineWork_le (deadline : Option Nat) : deadlineWork deadline ≤ DEADLINE_WORK := by
  cases deadline with
  | none => exact Nat.zero_le _
  | some due => exact Nat.le_refl _

def Worker.work {D : Type} (x : Worker D) : Nat :=
  x.phase.work + deadlineWork x.commit_deadline + x.rx.length * CALL_WORK

/-- The work a command on the engine channel stands for. -/
def EngineCommand.work : EngineCommand → Nat
  | .deviceConnected _ _ _ _ => FRESH_TASK_WORK + 1
  | .deviceError _ _ => FRESH_TASK_WORK + 1
  | .deviceDisconnected _ => 1
  | .deviceReattached _ _ _ => 1
  | .shutdown => 1
  | _ => CALL_WORK + 1

def SupervisorStatus.work : SupervisorStatus → Nat
  | .running => 2
  | .stopping => 1
  | .returned => 0

namespace Supervisor

variable {W D : Type}

/-- The work of the workers and the reconnect tasks. -/
def work (e : Supervisor D) : Nat :=
  (e.workers.map Worker.work).sum + (e.tasks.map taskWork).sum

theorem work_spawn {e e' : Supervisor D} {id : String} {driver : D}
    (hworkers : e'.workers = e.workers ++ [Worker.spawn id driver]) (htasks : e'.tasks = e.tasks) :
    e'.work = e.work + IDLE_WORK := by
  have hspawn : (Worker.spawn id driver).work = IDLE_WORK := rfl
  rw [work, work, hworkers, htasks, sum_map_snoc, hspawn]
  omega

theorem work_start (turn : Turn) (ctx : ReconnectCtx) (e : Supervisor D) :
    (e.start_reconnect_backoff turn ctx).work = e.work + FRESH_TASK_WORK := by
  show (e.workers.map Worker.work).sum + ((e.tasks ++ [_]).map taskWork).sum = _
  rw [sum_map_snoc, work]
  show _ + (_ + FRESH_TASK_WORK) = _
  omega

theorem work_push {e : Supervisor D} {w : WorkerId} (hopen : e.closed w = false) (op : WorkerOp) :
    (e.push w op).work = e.work + CALL_WORK := by
  obtain ⟨x, hx⟩ : ∃ x, e.workers[w]? = some x := by
    unfold closed at hopen
    split at hopen
    · rename_i x hx
      exact ⟨x, hx⟩
    · cases hopen
  have hset := sum_map_set Worker.work hx { x with rx := x.rx ++ [op] }
  have hqueued : ({ x with rx := x.rx ++ [op] } : Worker D).work = x.work + CALL_WORK := by
    simp only [Worker.work, List.length_append, List.length_singleton]
    rw [Nat.add_mul, Nat.one_mul]
    omega
  have htasks : (e.push w op).tasks = e.tasks := rfl
  rw [work, work, Sys.push_workers hx, htasks]
  omega

theorem work_setTask {e : Supervisor D} {k : TaskId} {t : ReconnectTask}
    (ht : e.tasks[k]? = some t) (t' : ReconnectTask) :
    (e.setTask k t').work + taskWork t = e.work + taskWork t' := by
  have hset := sum_map_set taskWork ht t'
  show (e.workers.map Worker.work).sum + ((e.tasks.set k t').map taskWork).sum + _ = _
  rw [work]
  omega

theorem work_dispatch (device_id : String) (check : DeviceTopology → Option DaemonError)
    (op : WorkerOp) (e : Supervisor D) :
    (e.dispatch device_id check op).work ≤ e.work + CALL_WORK := by
  unfold dispatch
  split
  · exact Nat.le_add_right _ _
  · rename_i handle _
    split
    · exact Nat.le_add_right _ _
    · by_cases hclosed : e.closed handle.tx = true
      · rw [try_send, if_pos hclosed]
        exact Nat.le_add_right _ _
      · by_cases hroom : e.queued handle.tx < WORKER_CHANNEL_CAPACITY
        · rw [try_send, if_neg hclosed, if_pos hroom]
          exact Nat.le_of_eq (work_push (Bool.not_eq_true _ ▸ hclosed) op)
        · rw [try_send, if_neg hclosed, if_neg hroom]
          exact Nat.le_add_right _ _

variable [KeyboardDriver D]

theorem work_device_connected (table : DriverTable W D) (turn : Turn) (world : W) (id : String)
    (vendor_id product_id : UInt16) (path : String) (e : Supervisor D) :
    (e.device_connected table turn world id vendor_id product_id path).work ≤
      e.work + FRESH_TASK_WORK := by
  have hcancelled : (e.cancel id).work = e.work := rfl
  unfold device_connected
  by_cases hmem : (e.cancel id).registry.devices.contains id = true
  · rw [if_pos hmem]
    exact Nat.le_add_right _ _
  · rw [if_neg hmem]
    unfold connect
    split
    · exact Nat.le_add_right _ _
    · split
      · rename_i topology driver _
        have hspawned : ((e.cancel id).spawnWorker id driver).work = e.work + IDLE_WORK :=
          work_spawn (e := e) rfl rfl
        show ((e.cancel id).spawnWorker id driver).work ≤ _
        rw [hspawned]
        exact Nat.add_le_add_left (by decide) _
      · split
        · rw [work_start, hcancelled]
        · exact Nat.le_add_right _ _

/-- A turn leaves less than the command stood for. -/
theorem work_handle_command (table : DriverTable W D) (turn : Turn) (world : W)
    (envelope : Envelope) (e : Supervisor D) :
    (e.handle_command table turn world envelope).work + 1 ≤ e.work + envelope.cmd.work := by
  obtain ⟨sender, cmd⟩ := envelope
  have hpays : 1 ≤ CALL_WORK + 1 := by decide
  cases cmd with
  | deviceConnected id vendor_id product_id path =>
      have hconnected := work_device_connected table turn world id vendor_id product_id path e
      show (e.device_connected table turn world id vendor_id product_id path).work + 1 ≤
        e.work + (FRESH_TASK_WORK + 1)
      omega
  | deviceDisconnected id =>
      show (e.device_disconnected id).work + 1 ≤ e.work + 1
      unfold device_disconnected
      dsimp only
      split <;> exact Nat.le_refl _
  | deviceError id err =>
      show (e.device_error turn id err).work + 1 ≤ e.work + (FRESH_TASK_WORK + 1)
      unfold device_error
      split
      · rename_i handle _
        by_cases herr : err = .driver .disconnected
        · rw [if_pos herr, work_start]
          exact Nat.le_refl _
        · rw [if_neg herr]
          exact Nat.add_le_add_left (by decide) e.work
      · exact Nat.add_le_add_left (by decide) e.work
  | deviceReattached id handle token =>
      show (e.device_reattached sender id handle token).work + 1 ≤ e.work + 1
      unfold device_reattached
      split
      · split <;> exact Nat.le_refl _
      · exact Nat.le_refl _
  | listDevices reply => exact Nat.add_le_add_left hpays e.work
  | getDeviceInfo id reply => exact Nat.add_le_add_left hpays e.work
  | getDeviceIdentity id reply => exact Nat.add_le_add_left hpays e.work
  | shutdown => exact Nat.le_refl _
  | getKeycode id layer row col reply => exact Nat.succ_le_succ (work_dispatch id _ _ e)
  | setKeycode id layer row col keycode reply => exact Nat.succ_le_succ (work_dispatch id _ _ e)
  | commitToNvram id reply => exact Nat.succ_le_succ (work_dispatch id _ _ e)
  | getMacro id offset length reply => exact Nat.succ_le_succ (work_dispatch id _ _ e)
  | setMacro id offset data reply => exact Nat.succ_le_succ (work_dispatch id _ _ e)
  | getLighting id channel value_id reply => exact Nat.succ_le_succ (work_dispatch id _ _ e)
  | setLighting id channel value_id data reply => exact Nat.succ_le_succ (work_dispatch id _ _ e)

omit [KeyboardDriver D] in
theorem taskWork_retry (now : Nat) (t : ReconnectTask) :
    taskWork (({ t with attempts := t.attempts + 1 } : ReconnectTask).retry now) + 1 ≤
      RECONNECT_MAX_ATTEMPTS - t.attempts + IDLE_WORK + 3 := by
  by_cases hlast : t.attempts + 1 ≥ RECONNECT_MAX_ATTEMPTS
  · have hphase : (({ t with attempts := t.attempts + 1 } : ReconnectTask).retry now).phase =
        .returned := if_pos hlast
    rw [taskWork, hphase]
    show 0 + 1 ≤ _
    omega
  · have hphase : (({ t with attempts := t.attempts + 1 } : ReconnectTask).retry now).phase =
        .sleeping (now + min (t.backoff * 2) RECONNECT_MAX_BACKOFF_MS) := if_neg hlast
    rw [taskWork, hphase]
    show RECONNECT_MAX_ATTEMPTS - (t.attempts + 1) + IDLE_WORK + 3 + 1 ≤ _
    omega

/-- A task that opened its device keeps its message at most. -/
theorem work_reattach {k : TaskId} {t : ReconnectTask} {e : Supervisor D}
    (ht : e.tasks[k]? = some t) (u : ReconnectTask) (topology : DeviceTopology) (driver : D) :
    (e.reattach k u topology driver).work + taskWork t ≤ e.work + IDLE_WORK + 2 := by
  have hspawned : (e.spawnWorker u.ctx.device_id driver).work = e.work + IDLE_WORK :=
    work_spawn rfl rfl
  have hset := work_setTask (e := e.spawnWorker u.ctx.device_id driver) ht
  by_cases hcancelled : e.cancelled k u = true
  · have hone := hset u.abandon
    have hzero : taskWork u.abandon = 0 := rfl
    rw [reattach, if_pos hcancelled]
    omega
  · have hone := hset { u with phase := .sending (e.handleOf topology driver u.ctx.vendor_id
      u.ctx.product_id u.ctx.hidraw_path) }
    have htwo : taskWork { u with phase := .sending (e.handleOf topology driver u.ctx.vendor_id
      u.ctx.product_id u.ctx.hidraw_path) } = 2 := rfl
    rw [reattach, if_neg hcancelled]
    omega

/-- An attempt leaves less than the task stood for. -/
theorem work_attempt (table : DriverTable W D) (turn : Turn) (world : W) {k : TaskId}
    {t : ReconnectTask} {e : Supervisor D} (ht : e.tasks[k]? = some t) {wake_at : Nat}
    (hphase : t.phase = .sleeping wake_at) :
    (e.attempt table turn world k t).work + 1 ≤ e.work := by
  have hwork : taskWork t = RECONNECT_MAX_ATTEMPTS - t.attempts + IDLE_WORK + 3 := by
    rw [taskWork, hphase]
  have hset := work_setTask ht
  have habandon : (e.setTask k
      ({ t with attempts := t.attempts + 1 } : ReconnectTask).abandon).work + 1 ≤ e.work := by
    have hone := hset ({ t with attempts := t.attempts + 1 } : ReconnectTask).abandon
    have hzero : taskWork ({ t with attempts := t.attempts + 1 } : ReconnectTask).abandon = 0 := rfl
    omega
  unfold attempt
  dsimp only
  split
  · exact habandon
  · split
    · rename_i topology driver _
      have hone := work_reattach ht { t with attempts := t.attempts + 1 } topology driver
      omega
    · split
      · have hone := hset (({ t with attempts := t.attempts + 1 } : ReconnectTask).retry turn.now)
        have hless := taskWork_retry turn.now t
        omega
      · exact habandon

end Supervisor

/-! ## Moves of a worker -/

namespace Worker

variable {D : Type}

theorem work_of_phase {x : Worker D} {phase : WorkerPhase} (h : x.phase = phase) :
    x.work = phase.work + deadlineWork x.commit_deadline + x.rx.length * CALL_WORK := by
  rw [work, h]

theorem recv_spends {w : WorkerId} {senders : Bool} {x : Worker D} {r : Worker D × List Effect}
    (h : recv w senders x = some r) : r.1.work + 1 ≤ x.work := by
  have hone : IDLE_WORK = 1 := rfl
  obtain ⟨hidle, ⟨op, rest, hrx, rfl⟩ | ⟨-, -, hdeadline, rfl⟩ | ⟨-, -, -, rfl⟩⟩ := recv_cases h
  · have hdisarmed : deadlineWork (if (Job.op op).isCommit then none else x.commit_deadline) ≤
        deadlineWork x.commit_deadline := by
      split
      · exact Nat.zero_le _
      · exact Nat.le_refl _
    rw [work_of_phase hidle, hrx, List.length_cons, Nat.add_mul, Nat.one_mul]
    show CALL_WORK + deadlineWork (if (Job.op op).isCommit then none else x.commit_deadline) +
      rest.length * CALL_WORK + 1 ≤ IDLE_WORK + _ + _
    omega
  · obtain ⟨due, hdue⟩ := Option.isSome_iff_exists.1 hdeadline
    rw [work_of_phase hidle, hdue]
    show 1 + 0 + x.rx.length * CALL_WORK + 1 ≤ IDLE_WORK + DEADLINE_WORK + _
    have hmore : 1 ≤ DEADLINE_WORK := by decide
    omega
  · rw [work_of_phase hidle]
    show 0 + 0 + 0 * CALL_WORK + 1 ≤ IDLE_WORK + _ + _
    omega

theorem debounce_spends {w : WorkerId} {senders : Bool} {now : Nat} {x : Worker D}
    {r : Worker D × List Effect} (h : debounce w senders now x = some r) :
    r.1.work + 1 ≤ x.work := by
  obtain ⟨hidle, hdue, rfl⟩ := debounce_cases h
  have hone : IDLE_WORK = 1 := rfl
  have hmore : DEADLINE_WORK = REPORT_WORK + 2 := rfl
  rw [work_of_phase hidle]
  cases hx : x.commit_deadline with
  | none =>
      rw [hx] at hdue
      cases hdue
  | some due =>
      show REPORT_WORK + 1 + 0 + x.rx.length * CALL_WORK + 1 ≤ IDLE_WORK + DEADLINE_WORK + _
      omega

/-- Where a call leads, no more is left than with a report. -/
theorem after_work (fatal : Bool) :
    (if fatal then WorkerPhase.reporting else WorkerPhase.idle).work ≤ REPORT_WORK := by
  cases fatal <;> decide

variable [KeyboardDriver D]

theorem finish_spends {w : WorkerId} {turn : Turn} {x : Worker D} {r : Worker D × List Effect}
    (h : finish w turn x = some r) : r.1.work + 1 ≤ x.work := by
  obtain ⟨op, hphase, rfl⟩ | ⟨hphase, rfl⟩ | ⟨hphase, rfl⟩ := finish_cases h
  · obtain ⟨deadline, hmoved, -⟩ := aftermath_cases turn op (call turn x.driver op).ok
      (after (call turn x.driver op) x)
    have hafter := after_work (call turn x.driver op).fatal
    have hdeadline := deadlineWork_le deadline
    have hcall : CALL_WORK = REPORT_WORK + DEADLINE_WORK + 1 := rfl
    rw [work_of_phase hphase]
    show (aftermath turn op _ _).1.work + 1 ≤ CALL_WORK + _ + _
    rw [hmoved]
    show (if (call turn x.driver op).fatal then WorkerPhase.reporting else .idle).work +
      deadlineWork deadline + x.rx.length * CALL_WORK + 1 ≤ _
    omega
  · have hafter := after_work (commit turn x.driver).fatal
    rw [work_of_phase hphase]
    show (if (commit turn x.driver).fatal then WorkerPhase.reporting else .idle).work +
      deadlineWork x.commit_deadline + x.rx.length * CALL_WORK + 1 ≤ REPORT_WORK + 1 + _ + _
    omega
  · rw [work_of_phase hphase]
    show 0 + 0 + 0 * CALL_WORK + 1 ≤ 1 + _ + _
    omega

end Worker

/-! ## Moves of the system -/

/-- Whether a move is the engine's own: not the clock, a command from outside, or a task
of a driver. -/
def Label.isOwn {W : Type} : Label W → Bool
  | .tick _ => false
  | .enqueue _ => false
  | .background _ _ _ => false
  | _ => true

/-- The work a move brings in. -/
def Label.pays {W : Type} : Label W → Nat
  | .enqueue cmd => cmd.work
  | _ => 0

/-- Whether a move needs nothing but being scheduled: it waits for no clock, and no
driver has to fail for it. -/
def Label.isDue {W : Type} : Label W → Bool
  | .supervise _ _ => true
  | .superviseReturn => true
  | .worker _ .recv => true
  | .worker _ (.finish _) => true
  | .worker _ .report => true
  | .worker _ .exit => true
  | .task _ .send => true
  | _ => false

/-- What is due is a move of the engine's own. -/
theorem Label.own_of_due {W : Type} {l : Label W} (h : l.isDue = true) : l.isOwn = true := by
  cases l with
  | enqueue cmd => cases h
  | tick ms => cases h
  | background w order wakeup => cases h
  | _ => rfl

namespace Sys

variable {W D : Type}

/-- The work that is left in a state. -/
def work (s : Sys D) : Nat :=
  s.sup.work + (s.queue.map fun envelope => envelope.cmd.work).sum + s.status.work

theorem work_setWorker {s : Sys D} {w : WorkerId} {x : Worker D} {r : Worker D × List Effect}
    (hx : s.sup.workers[w]? = some x) :
    (s.setWorker w r).work + x.work = s.work + r.1.work := by
  have hset := sum_map_set Worker.work hx r.1
  show (((s.sup.workers.set w r.1).map Worker.work).sum + (s.sup.tasks.map taskWork).sum) + _ + _ +
    _ = _
  rw [work, Supervisor.work]
  show _ + _ + (s.queue.map _).sum + s.status.work + _ = _
  omega

theorem sendOrDrop_work {s s' : Sys D} {envelope : Envelope}
    (h : s.sendOrDrop envelope = some s') : s'.work ≤ s.work + envelope.cmd.work := by
  obtain ⟨hsup, hstatus, -, hqueue | hqueue⟩ := sendOrDrop_cases h
  · rw [work, work, hsup, hstatus, hqueue]
    omega
  · rw [work, work, hsup, hstatus, hqueue, sum_map_snoc]
    omega

theorem work_setTask {s : Sys D} {k : TaskId} {t : ReconnectTask}
    (ht : s.sup.tasks[k]? = some t) (t' : ReconnectTask) :
    ({ s with sup := s.sup.setTask k t' } : Sys D).work + taskWork t = s.work + taskWork t' := by
  have hset := Supervisor.work_setTask ht t'
  show (s.sup.setTask k t').work + (s.queue.map _).sum + s.status.work + _ = _
  rw [work]
  omega

variable [KeyboardDriver D]

theorem workerStep_spends {s s' : Sys D} {w : WorkerId} {x : Worker D} {move : WorkerMove}
    (hx : s.sup.workers[w]? = some x) (h : s.workerStep w x move = some s') :
    s'.work + 1 ≤ s.work := by
  have hmoved : ∀ {r : Worker D × List Effect}, r.1.work + 1 ≤ x.work →
      (s.setWorker w r).work + 1 ≤ s.work := by
    intro r hless
    have hset := work_setWorker (r := r) hx
    omega
  have hleave : x.leave.work = 0 := rfl
  cases move with
  | recv =>
      obtain ⟨r, hr, rfl⟩ := Option.map_eq_some_iff.1 h
      exact hmoved (Worker.recv_spends hr)
  | debounce =>
      obtain ⟨r, hr, rfl⟩ := Option.map_eq_some_iff.1 h
      exact hmoved (Worker.debounce_spends hr)
  | finish order =>
      obtain ⟨r, hr, rfl⟩ := Option.map_eq_some_iff.1 h
      exact hmoved (Worker.finish_spends hr)
  | report =>
      obtain ⟨x', hx', hsend⟩ := Option.bind_eq_some_iff.1 h
      obtain ⟨hphase, rfl⟩ := Worker.reportDone_cases hx'
      have hset := work_setWorker (r := ({ x with phase := .reported }, [])) hx
      have hsent := sendOrDrop_work hsend
      have hbefore := Worker.work_of_phase hphase
      have hafter : ({ x with phase := .reported } : Worker D).work =
          1 + deadlineWork x.commit_deadline + x.rx.length * CALL_WORK := rfl
      have hreport : WorkerPhase.reporting.work = FRESH_TASK_WORK + 3 := rfl
      change _ ≤ _ + (FRESH_TASK_WORK + 1) at hsent
      dsimp only at hset
      omega
  | exit =>
      obtain ⟨x', hx', rfl⟩ := Option.map_eq_some_iff.1 h
      obtain ⟨hphase, rfl⟩ := Worker.exitTask_cases hx'
      refine hmoved ?_
      rw [Worker.work_of_phase hphase]
      show 0 + 1 ≤ 1 + _ + _
      omega
  | panic =>
      obtain ⟨x', hx', rfl⟩ := Option.map_eq_some_iff.1 h
      obtain ⟨⟨job, hphase⟩, rfl⟩ := Worker.panicked_cases hx'
      refine hmoved ?_
      rw [Worker.work_of_phase hphase]
      have hjob : 1 ≤ (WorkerPhase.running job).work := by
        cases job with
        | op op => exact Nat.le_add_left 1 _
        | debounced => exact Nat.le_add_left 1 _
        | final => exact Nat.le_refl 1
      show 0 + 1 ≤ _
      omega

theorem taskStep_spends {table : DriverTable W D} {s s' : Sys D} {k : TaskId} {t : ReconnectTask}
    {move : TaskMove W} (ht : s.sup.tasks[k]? = some t) (h : s.taskStep table k t move = some s') :
    s'.work + 1 ≤ s.work := by
  have habandon : ∀ m : Sys D, m = { s with sup := s.sup.setTask k t.abandon } →
      m.work + taskWork t = s.work := by
    intro m hm
    rw [hm, work_setTask ht]
    rfl
  cases move with
  | cancel =>
      rw [taskStep] at h
      split at h
      · rename_i wake_at hphase
        split at h
        · cases h
          have hset := habandon _ rfl
          have hwork : taskWork t = RECONNECT_MAX_ATTEMPTS - t.attempts + IDLE_WORK + 3 := by
            rw [taskWork, hphase]
          omega
        · cases h
      · cases h
  | attempt order world =>
      rw [taskStep] at h
      split at h
      · rename_i wake_at hphase
        split at h
        · cases h
          have hone := Supervisor.work_attempt table ⟨s.now, order⟩ world ht hphase
          show (s.sup.attempt table ⟨s.now, order⟩ world k t).work + (s.queue.map _).sum +
            s.status.work + 1 ≤ _
          rw [work]
          omega
        · cases h
      · cases h
  | send =>
      rw [taskStep] at h
      split at h
      · rename_i handle hphase
        have hset := habandon _ rfl
        have hsent := sendOrDrop_work h
        have hwork : taskWork t = 2 := by rw [taskWork, hphase]
        change _ ≤ _ + 1 at hsent
        omega
      · cases h

variable [BackgroundTasks D]

/-- Every move of the engine's own lowers the work that is left, and a command brings no
more than it stands for. -/
theorem step_spends {table : DriverTable W D} {s s' : Sys D} {l : Label W}
    (hstep : s.step table l = some s') :
    s'.work + (if l.isOwn = true then 1 else 0) ≤ s.work + l.pays := by
  cases l with
  | tick ms =>
      cases hstep
      exact Nat.le_refl _
  | enqueue cmd =>
      rw [step, enqueue] at hstep
      split at hstep
      · cases hstep
      · rename_i origin _
        split at hstep
        · rw [send] at hstep
          split at hstep
          · cases hstep
            show s.sup.work + ((s.queue ++ [_]).map _).sum + s.status.work + 0 ≤ _
            rw [sum_map_snoc, work]
            show _ + (_ + cmd.work) + _ + 0 ≤ _ + cmd.work
            omega
          · cases hstep
        · cases hstep
  | supervise order world =>
      show s'.work + 1 ≤ s.work + 0
      obtain ⟨envelope, rest, hturned | hstops⟩ := supervise_cases (s := s) hstep
      · have hsup : s'.sup = (s.sup.emit [.handled envelope]).handle_command table ⟨s.now, order⟩
            world envelope := by
          rw [step, supervise, hturned.running, hturned.queue] at hstep
          dsimp only at hstep
          split at hstep
          · cases hstep
            cases hturned.status'
          · cases hstep
            rfl
        have hone := Supervisor.work_handle_command table ⟨s.now, order⟩ world envelope
          (s.sup.emit [.handled envelope])
        have hemit : (s.sup.emit [.handled envelope]).work = s.sup.work := rfl
        rw [work, work, hsup, hturned.queue, hturned.queue', hturned.running, hturned.status',
          List.map_cons, List.sum_cons]
        omega
      · have hwork : s'.sup.work = s.sup.work := by
          rw [step, supervise, hstops.running, hstops.queue] at hstep
          dsimp only at hstep
          rw [if_pos hstops.cmd] at hstep
          cases hstep
          rfl
        have hstopping : SupervisorStatus.running.work = SupervisorStatus.stopping.work + 1 := rfl
        rw [work, work, hwork, hstops.queue, hstops.queue', hstops.running, hstops.status',
          List.map_cons, List.sum_cons]
        omega
  | superviseReturn =>
      rw [step, superviseReturn] at hstep
      split at hstep
      · rename_i hstopping
        cases hstep
        show s.sup.work + 0 + 0 + 1 ≤ _
        rw [work, hstopping]
        show _ ≤ _ + _ + 1 + 0
        omega
      · cases hstep
  | worker w move =>
      obtain ⟨x, hx, hmove⟩ := Option.bind_eq_some_iff.1 hstep
      exact workerStep_spends hx hmove
  | background w order wakeup =>
      obtain ⟨x, hx, hwake⟩ := Option.bind_eq_some_iff.1 hstep
      obtain ⟨driver, hdriver, rfl⟩ := Option.map_eq_some_iff.1 hwake
      have hset := work_setWorker (r := ({ x with driver := driver }, [.woke w wakeup])) hx
      have hsame : ({ x with driver := driver } : Worker D).work = x.work := rfl
      dsimp only at hset
      show _ + 0 ≤ _ + 0
      omega
  | task k move =>
      obtain ⟨t, ht, hmove⟩ := Option.bind_eq_some_iff.1 hstep
      exact taskStep_spends ht hmove

/-! ## Rest -/

/-- What is dropped is empty: a supervisor that has returned has no queue, a worker that
is gone has none either. -/
structure Tidy (s : Sys D) : Prop where
  closed : s.status = .returned → s.queue = []
  gone : ∀ (w : WorkerId) (x : Worker D), s.sup.workers[w]? = some x → x.phase = .gone → x.rx = []

omit [KeyboardDriver D] [BackgroundTasks D] in
theorem tidy_start : (start : Sys D).Tidy where
  closed := fun _ => rfl
  gone := by
    intro w x hx
    cases hx

omit [KeyboardDriver D] [BackgroundTasks D] in
theorem sendOrDrop_returned {s s' : Sys D} {envelope : Envelope} (hreturned : s.status = .returned)
    (h : s.sendOrDrop envelope = some s') : s' = s := by
  rw [sendOrDrop, if_pos hreturned] at h
  cases h
  rfl

/-- Nothing is sent to a supervisor that has returned. -/
theorem queue_of_returned {table : DriverTable W D} {s s' : Sys D} {l : Label W}
    (hstep : s.step table l = some s') (hreturned : s.status = .returned) :
    s'.queue = s.queue := by
  cases l with
  | tick ms =>
      cases hstep
      rfl
  | enqueue cmd =>
      rw [step, enqueue] at hstep
      split at hstep
      · cases hstep
      · split at hstep
        · rw [send] at hstep
          split at hstep
          · rename_i hopen
            exact absurd hreturned hopen.1
          · cases hstep
        · cases hstep
  | supervise order world =>
      rw [step, supervise, hreturned] at hstep
      cases hstep
  | superviseReturn =>
      rw [step, superviseReturn, hreturned, if_neg (by decide)] at hstep
      cases hstep
  | worker w move =>
      obtain ⟨x, -, hmove⟩ := Option.bind_eq_some_iff.1 hstep
      cases move with
      | report =>
          obtain ⟨x', -, hsend⟩ := Option.bind_eq_some_iff.1 hmove
          rw [sendOrDrop_returned (s := s.setWorker w (x', [])) hreturned hsend]
          rfl
      | recv =>
          obtain ⟨r, -, rfl⟩ := Option.map_eq_some_iff.1 hmove
          rfl
      | debounce =>
          obtain ⟨r, -, rfl⟩ := Option.map_eq_some_iff.1 hmove
          rfl
      | finish order =>
          obtain ⟨r, -, rfl⟩ := Option.map_eq_some_iff.1 hmove
          rfl
      | exit =>
          obtain ⟨x', -, rfl⟩ := Option.map_eq_some_iff.1 hmove
          rfl
      | panic =>
          obtain ⟨x', -, rfl⟩ := Option.map_eq_some_iff.1 hmove
          rfl
  | background w order wakeup =>
      obtain ⟨x, -, hwake⟩ := Option.bind_eq_some_iff.1 hstep
      obtain ⟨driver, -, rfl⟩ := Option.map_eq_some_iff.1 hwake
      rfl
  | task k move =>
      obtain ⟨t, -, hmove⟩ := Option.bind_eq_some_iff.1 hstep
      cases move with
      | cancel =>
          rw [taskStep] at hmove
          split at hmove
          · split at hmove
            · cases hmove
              rfl
            · cases hmove
          · cases hmove
      | attempt order world =>
          rw [taskStep] at hmove
          split at hmove
          · split at hmove
            · cases hmove
              rfl
            · cases hmove
          · cases hmove
      | send =>
          rw [taskStep] at hmove
          split at hmove
          · rw [sendOrDrop_returned (s := { s with sup := s.sup.setTask k t.abandon }) hreturned
              hmove]
          · cases hmove

theorem tidy_step {table : DriverTable W D} {s s' : Sys D} {l : Label W} (h : s.Tidy)
    (hstep : s.step table l = some s') : s'.Tidy := by
  constructor
  · intro hreturned
    cases step_cases hstep with
    | turned envelope rest hturned =>
        rw [hturned.status'] at hreturned
        cases hreturned
    | stopped envelope rest hstops =>
        rw [hstops.status'] at hreturned
        cases hreturned
    | returned hreturns => exact hreturns.queue'
    | aside haside =>
        have hbefore : s.status = .returned := haside.status ▸ hreturned
        rw [queue_of_returned hstep hbefore]
        exact h.closed hbefore
  · intro w x' hx' hgone
    -- A worker that was gone has got nothing since.
    have hkept : ∀ x : Worker D, s.sup.workers[w]? = some x → x.phase = .gone → x'.rx = [] := by
      intro x hx hphase
      rcases rx_step hstep hx hx' with hsub | ⟨-, hlive⟩
      · rw [h.gone w x hx hphase] at hsub
        exact List.sublist_nil.1 hsub
      · exact absurd hphase hlive
    cases at_step hstep w with
    | absent before after log =>
        rw [hx'] at after
        cases after
    | spawned id driver before after opened log =>
        rw [hx'] at after
        cases after
        rfl
    | kept x rx before after log =>
        rw [hx'] at after
        cases after
        exact hkept x before hgone
    | woke x driver order wakeup label before wake after log =>
        rw [hx'] at after
        cases after
        exact hkept x before hgone
    | moved x m r label before move after log =>
        rw [hx'] at after
        cases after
        cases m with
        | recv =>
            obtain ⟨-, ⟨op, rest, -, rfl⟩ | ⟨hrx, -, -, rfl⟩ | ⟨-, -, -, rfl⟩⟩ :=
              Worker.recv_cases move
            · cases hgone
            · exact hrx
            · rfl
        | debounce =>
            obtain ⟨-, -, rfl⟩ := Worker.debounce_cases move
            cases hgone
        | finish order =>
            obtain ⟨op, -, rfl⟩ | ⟨-, rfl⟩ | ⟨-, rfl⟩ := Worker.finish_cases move
            · rw [Worker.finishOp_phase] at hgone
              split at hgone <;> cases hgone
            · simp only [Worker.finishDebounced, Worker.after] at hgone
              split at hgone <;> cases hgone
            · rfl
        | report =>
            obtain ⟨y, hy, rfl⟩ := Option.map_eq_some_iff.1 move
            obtain ⟨-, rfl⟩ := Worker.reportDone_cases hy
            cases hgone
        | exit =>
            obtain ⟨y, hy, rfl⟩ := Option.map_eq_some_iff.1 move
            obtain ⟨-, rfl⟩ := Worker.exitTask_cases hy
            rfl
        | panic =>
            obtain ⟨y, hy, rfl⟩ := Option.map_eq_some_iff.1 move
            obtain ⟨-, rfl⟩ := Worker.panicked_cases hy
            rfl

/-- Where the supervisor has nothing due, its queue is empty. -/
theorem rested_queue [Nonempty W] {table : DriverTable W D} {s : Sys D} (h : s.Tidy)
    (hrest : Settled (step table) Label.isDue s) : s.queue = [] := by
  cases hstatus : s.status with
  | running =>
      cases hqueue : s.queue with
      | nil => rfl
      | cons envelope rest =>
          obtain ⟨world⟩ := ‹Nonempty W›
          have hnone := hrest (.supervise .sorted world) rfl
          rw [step, supervise, hstatus, hqueue] at hnone
          dsimp only at hnone
          split at hnone <;> cases hnone
  | stopping =>
      have hnone := hrest .superviseReturn rfl
      rw [step, superviseReturn, if_pos hstatus] at hnone
      cases hnone
  | returned => exact h.closed hstatus

/-- Where a worker has nothing due, it has no request. -/
theorem rested_worker {table : DriverTable W D} {s : Sys D} (h : s.Tidy) (hqueue : s.queue = [])
    (hrest : Settled (step table) Label.isDue s) {w : WorkerId} {x : Worker D}
    (hx : s.sup.workers[w]? = some x) (reply : ReplyId) : x.owed reply = 0 := by
  have hmove : ∀ move, (Label.worker w move : Label W).isDue = true →
      s.workerStep w x move = none := by
    intro move hdue
    have hnone := hrest (.worker w move) hdue
    rw [step, hx] at hnone
    exact hnone
  cases hphase : x.phase with
  | idle =>
      cases hrx : x.rx with
      | nil => simp [Worker.owed, hphase, hrx, WorkerPhase.serves]
      | cons op rest =>
          have hnone := hmove .recv rfl
          rw [workerStep, Worker.recv, if_pos hphase, hrx] at hnone
          cases hnone
  | running job =>
      have hnone := hmove (.finish .sorted) rfl
      rw [workerStep, Worker.finish, hphase] at hnone
      cases job with
      | op op => cases hnone
      | debounced => cases hnone
      | final => cases hnone
  | reporting =>
      have hnone := hmove .report rfl
      rw [workerStep, Worker.reportDone, if_pos hphase] at hnone
      change (s.setWorker w _).sendOrDrop _ = none at hnone
      rw [sendOrDrop] at hnone
      split at hnone
      · cases hnone
      · rename_i hopen
        have hroom : s.queue.length < ENGINE_CHANNEL_CAPACITY := by
          rw [hqueue]
          decide
        rw [send, if_pos ⟨hopen, hroom⟩] at hnone
        cases hnone
  | reported =>
      have hnone := hmove .exit rfl
      rw [workerStep, Worker.exitTask, if_pos hphase] at hnone
      cases hnone
  | gone => simp [Worker.owed, hphase, h.gone w x hx hphase, WorkerPhase.serves]

theorem rested [Nonempty W] {table : DriverTable W D} {s : Sys D} (h : s.Tidy)
    (hrest : Settled (step table) Label.isDue s) (reply : ReplyId) : s.outstanding reply = 0 := by
  have hqueue := rested_queue h hrest
  have hworkers : (s.sup.workers.map (Worker.owed reply)).sum = 0 := by
    rw [List.sum_eq_zero_iff]
    intro n hn
    obtain ⟨x, hx, rfl⟩ := List.mem_map.1 hn
    obtain ⟨w, hlt, hget⟩ := List.getElem_of_mem hx
    exact rested_worker h hqueue hrest (List.getElem?_eq_some_iff.2 ⟨hlt, hget⟩) reply
  rw [outstanding, hworkers, waits, hqueue]
  rfl

/-- Own moves bring in no work. -/
theorem pays_of_own {l : Label W} (h : l.isOwn = true) : l.pays = 0 := by
  cases l with
  | enqueue cmd => cases h
  | _ => rfl

/-- **The engine comes to rest.**  In every run, the moves of the engine's own are paid
for by the commands it was sent, so from every state it reaches it can only make so many.
Some schedule of them leads to a state where none is left, and some schedule of moves that
only wait to be scheduled, so that no worker panics and no clock runs, to one where none of
these is left.  Where none is due, every request that came in has been answered, or was
dropped with its receiver. -/
theorem engine_comes_to_rest [Nonempty W] (table : DriverTable W D) {ls : List (Label W)}
    {s : Sys D} (hrun : run (step table) start ls = some s) :
    ls.countP Label.isOwn + s.work ≤ SupervisorStatus.running.work + (ls.map Label.pays).sum ∧
      (∃ ms s', (∀ l ∈ ms, Label.isOwn l = true) ∧ run (step table) s ms = some s' ∧
        Settled (step table) Label.isOwn s') ∧
      (∃ ms s', (∀ l ∈ ms, Label.isDue l = true) ∧ run (step table) s ms = some s' ∧
        Settled (step table) Label.isDue s') ∧
      (Settled (step table) Label.isDue s → ∀ reply,
        s.answered reply + dropped table reply start ls = issued reply ls) := by
  refine ⟨?_, ?_, ?_, ?_⟩
  · have hpaid := own_moves_paid work Label.isOwn Label.pays (fun _ _ _ => step_spends) hrun
    have hstart : (start : Sys D).work = SupervisorStatus.running.work := rfl
    omega
  · exact exists_settled work Label.isOwn Label.pays (fun _ _ _ => step_spends)
      (fun _ => pays_of_own) s
  · exact exists_settled_of_imp work Label.isOwn Label.pays (fun _ _ _ => step_spends)
      (fun _ => pays_of_own) (fun _ => Label.own_of_due) s
  · intro hrest reply
    have htidy : s.Tidy := run_preserves (fun _ _ _ => tidy_step) tidy_start hrun
    have hbalance := balanced hrun reply
    rw [rested htidy hrest reply, Nat.zero_add] at hbalance
    exact hbalance

/-- A keyboard has been lost, and a request for it is on its way. -/
def lostRun : List (Label (Except DaemonError MockDriver)) :=
  [.enqueue (.deviceConnected "dev1" 0x05AC 0x024F "/dev/hidraw7"),
    .supervise HashOrder.sorted (.ok (mockDriver [.error .disconnected])),
    .enqueue (.getKeycode "dev1" 0 1 1 1), .supervise HashOrder.sorted (.ok (mockDriver []))]

/-- Moves that are due bring the engine to rest, and there the request has been answered, or
dropped with its receiver. -/
theorem engine_comes_to_rest_lost : ∃ ms s', (∀ l ∈ ms, Label.isDue l = true) ∧
    run (step mockTable) start (lostRun ++ ms) = some s' ∧
      s'.answered 1 + dropped mockTable 1 start (lostRun ++ ms) = 1 := by
  have hrun : (run (step mockTable) start lostRun).map (fun s => s.outstanding 1) = some 1 := by
    decide +kernel
  obtain ⟨s, hs, -⟩ := Option.map_eq_some_iff.1 hrun
  have hworld : Nonempty (Except DaemonError MockDriver) := ⟨.ok (mockDriver [])⟩
  obtain ⟨-, -, ⟨ms, s', hdue, hms, hsettled⟩, -⟩ := engine_comes_to_rest mockTable hs
  have hwhole := run_append_some.2 ⟨s, hs, hms⟩
  have hbalance := (engine_comes_to_rest mockTable hwhole).2.2.2 hsettled 1
  -- No due move issues a request.
  have hnone : issued 1 ms = 0 := by
    rw [issued, List.sum_eq_zero_iff]
    intro n hn
    obtain ⟨l, hl, rfl⟩ := List.mem_map.1 hn
    have hmoves := hdue l hl
    cases l with
    | enqueue cmd => cases hmoves
    | _ => rfl
  have hissued : issued 1 (lostRun ++ ms) = issued 1 lostRun + issued 1 ms := by
    rw [issued, issued, issued, List.map_append, List.sum_append]
  have hone : issued 1 lostRun = 1 := rfl
  exact ⟨ms, s', hdue, hwhole, by omega⟩

end Sys

end Clackd.Engine
