import Clackd.Engine.Handled

/-!
# The reconnect task

`reconnect_task` sleeps, tries to open and attach its device, and on success
checks its cancel channel once before it hands the new worker to the supervisor.
It is cut at its awaits.  Between the check and the arrival of the message
anything may happen, the cancellation of the task included.

## Main results

* `attempt_attempted`: an attempt touches nothing but its own task and, if the
  device opens, the list of workers.
-/

namespace Clackd.Engine

open Clackd.Foundation Clackd.Hal

/-- Return from the task. -/
def ReconnectTask.abandon (t : ReconnectTask) : ReconnectTask := { t with phase := .returned }

/-- The end of a turn of the loop and the head of the next: double the delay and
sleep, unless all attempts are used up. -/
def ReconnectTask.retry (now : Nat) (t : ReconnectTask) : ReconnectTask :=
  let backoff := min (t.backoff * 2) RECONNECT_MAX_BACKOFF_MS
  { t with
    backoff := backoff
    phase := if t.attempts ≥ RECONNECT_MAX_ATTEMPTS then .returned else .sleeping (now + backoff) }

namespace Supervisor

variable {W D : Type}

/-- Whether a task's cancel channel is fired or its sender dropped. -/
def cancelled (e : Supervisor D) (k : TaskId) (t : ReconnectTask) : Bool :=
  match e.registry.reconnecting[t.ctx.device_id]? with
  | some (k', _) => k' ≠ k
  | none => true

/-- Replace a task. -/
def setTask (k : TaskId) (t : ReconnectTask) (e : Supervisor D) : Supervisor D :=
  { e with tasks := e.tasks.set k t }

/-- What a task does with an opened device: its worker is spawned, and the handle
goes to the supervisor unless the task is cancelled by then. -/
def reattach [KeyboardDriver D] (k : TaskId) (t : ReconnectTask) (topology : DeviceTopology)
    (driver : D) (e : Supervisor D) : Supervisor D :=
  let handle := e.handleOf topology driver t.ctx.vendor_id t.ctx.product_id t.ctx.hidraw_path
  (e.spawnWorker t.ctx.device_id driver).setTask k
    (if e.cancelled k t then t.abandon else { t with phase := .sending handle })

/-- One turn of the loop, after the sleep. -/
def attempt [KeyboardDriver D] (table : DriverTable W D) (turn : Turn) (world : W) (k : TaskId)
    (t : ReconnectTask) (e : Supervisor D) : Supervisor D :=
  let t := { t with attempts := t.attempts + 1 }
  match table.factory t.ctx.vendor_id t.ctx.product_id with
  | none => e.setTask k t.abandon
  | some factory =>
      match openDevice turn world factory t.ctx.hidraw_path with
      | .ok (topology, driver) => e.reattach k t topology driver
      | .error err =>
          e.setTask k (if is_transient_attach_error err then t.retry turn.now else t.abandon)

/-! ## What an attempt changes -/

/-- A task before and after a move: it keeps its context. -/
structure TaskMoved (k : TaskId) (t : ReconnectTask) (e e' : Supervisor D) : Prop where
  registry : e'.registry = e.registry
  log : e'.log = e.log
  tasks : ∃ t', t'.ctx = t.ctx ∧ e'.tasks = e.tasks.set k t'

theorem setTask_moved {k : TaskId} {t t' : ReconnectTask} (e : Supervisor D)
    (h : t'.ctx = t.ctx) : TaskMoved k t e (e.setTask k t') :=
  ⟨rfl, rfl, t', h, rfl⟩

variable [KeyboardDriver D]

/-- An attempt moves its own task, and at most spawns the worker of a device that
was just opened. -/
theorem attempt_attempted (table : DriverTable W D) (turn : Turn) (world : W) (k : TaskId)
    (t : ReconnectTask) (e : Supervisor D) :
    TaskMoved k t e (e.attempt table turn world k t) ∧
      Grows (Opens table) e (e.attempt table turn world k t) := by
  unfold attempt
  dsimp only
  split
  · exact ⟨setTask_moved e rfl, Grows.of_eq rfl⟩
  · rename_i factory hfactory
    split
    · rename_i topology driver hopen
      refine ⟨⟨rfl, rfl, _, ?_, rfl⟩, ?_⟩
      · split <;> rfl
      · exact (grows_spawnWorker ⟨turn, world, _, _, _, factory, topology, hfactory, hopen⟩
          t.ctx.device_id e).trans_eq rfl
    · refine ⟨setTask_moved e ?_, Grows.of_eq rfl⟩
      split <;> rfl

end Supervisor

end Clackd.Engine
