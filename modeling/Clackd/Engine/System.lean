import Clackd.Engine.Reconnect
import Clackd.Foundation.Run

/-!
# The engine as a system of tasks

The supervisor, the device workers, the reconnect tasks and the tasks spawned by
drivers, with the two kinds of bounded channels between them.  A label names the
party that moves and what its environment gives it: the clock, the order of hash
tables, what opening a device node yields.  A schedule is a list of labels, so a
statement about all schedules is one about all interleavings.

The supervisor awaits driver calls while it attaches a device; its turn is taken
as a whole at the moment it takes the command, and the tasks it spawns may wait
as long as they like before they move.

## Main results

* `step_cases`: what a step does to the registry, the record, the tasks and the
  engine channel.
-/

namespace Clackd.Engine

open Clackd.Foundation Clackd.Hal
open Std (ExtTreeMap)

/-- Whether `run_supervisor` is in its loop, has left it, or has returned. -/
inductive SupervisorStatus where
  | running
  | stopping
  | returned
  deriving DecidableEq, Repr

/-- The engine. -/
structure Sys (D : Type) where
  now : Nat
  /-- The engine channel. -/
  queue : List Envelope
  status : SupervisorStatus
  sup : Supervisor D
  next_reply : ReplyId

/-- Who sends a command from outside the engine; worker and task messages are
not sent from outside. -/
def EngineCommand.sender : EngineCommand → Option Origin
  | .deviceConnected _ _ _ _ => some .udev
  | .deviceDisconnected _ => some .udev
  | .deviceError _ _ => none
  | .deviceReattached _ _ _ => none
  | .shutdown => some .main
  | _ => some .client

/-- The reply channel of a request. -/
def EngineCommand.replyTo : EngineCommand → Option ReplyId
  | .getKeycode _ _ _ _ reply => some reply
  | .setKeycode _ _ _ _ _ reply => some reply
  | .commitToNvram _ reply => some reply
  | .getMacro _ _ _ reply => some reply
  | .setMacro _ _ _ reply => some reply
  | .getLighting _ _ _ reply => some reply
  | .setLighting _ _ _ _ reply => some reply
  | .listDevices reply => some reply
  | .getDeviceInfo _ reply => some reply
  | .getDeviceIdentity _ reply => some reply
  | _ => none

/-- The worker whose sender a message carries. -/
def EngineCommand.carries : EngineCommand → Option WorkerId
  | .deviceReattached _ handle _ => some handle.tx
  | _ => none

/-- The worker whose sender a task holds. -/
def ReconnectTask.holds (t : ReconnectTask) : Option WorkerId :=
  match t.phase with
  | .sending handle => some handle.tx
  | _ => none

/-- Moves of a worker. -/
inductive WorkerMove where
  | recv
  | debounce
  | finish (order : HashOrder)
  | report
  | exit
  | panic

/-- Moves of a reconnect task. -/
inductive TaskMove (W : Type) where
  | cancel
  | attempt (order : HashOrder) (world : W)
  | send

/-- One step of the system. -/
inductive Label (W : Type) where
  | tick (ms : Nat)
  | enqueue (cmd : EngineCommand)
  | supervise (order : HashOrder) (world : W)
  | superviseReturn
  | worker (w : WorkerId) (move : WorkerMove)
  | background (w : WorkerId) (order : HashOrder) (wakeup : Background)
  | task (k : TaskId) (move : TaskMove W)

/-- Whether the step is the supervisor's. -/
def Label.bySupervisor {W : Type} : Label W → Bool
  | .supervise _ _ => true
  | .superviseReturn => true
  | _ => false

namespace Sys

variable {W D : Type}

/-- The engine as `main` starts it. -/
def start : Sys D where
  now := 0
  queue := []
  status := .running
  sup := Supervisor.new
  next_reply := 0

/-- Whether anybody can still send on a worker's channel: its handle is
registered, on its way to the supervisor, or with a task about to send it. -/
def senderAlive (s : Sys D) (w : WorkerId) : Bool :=
  s.sup.registry.devices.toList.any (fun e => e.2.tx = w) ||
    s.queue.any (fun envelope => envelope.cmd.carries = some w) ||
    s.sup.tasks.any (fun t => t.holds = some w)

/-- Put a message on the engine channel, if it is open and has room. -/
def send (envelope : Envelope) (s : Sys D) : Option (Sys D) :=
  if s.status ≠ .returned ∧ s.queue.length < ENGINE_CHANNEL_CAPACITY then
    some { s with queue := s.queue ++ [envelope] }
  else
    none

/-- Send from inside the engine, ignoring a closed channel. -/
def sendOrDrop (envelope : Envelope) (s : Sys D) : Option (Sys D) :=
  if s.status = .returned then some s else s.send envelope

/-- A command from outside, on a reply channel of its own. -/
def enqueue (cmd : EngineCommand) (s : Sys D) : Option (Sys D) :=
  match cmd.sender with
  | none => none
  | some origin =>
      if cmd.replyTo.all (· = s.next_reply) then
        ({ s with next_reply := s.next_reply + 1 } : Sys D).send ⟨origin, cmd⟩
      else
        none

/-- A worker after a move, with what the move emitted. -/
def setWorker (w : WorkerId) (r : Worker D × List Effect) (s : Sys D) : Sys D :=
  { s with sup := { s.sup with
      workers := s.sup.workers.set w r.1
      log := s.sup.log ++ r.2 } }

section Steps

variable [KeyboardDriver D]

/-- One turn of `run_supervisor`. -/
def supervise (table : DriverTable W D) (order : HashOrder) (world : W) (s : Sys D) :
    Option (Sys D) :=
  match s.status, s.queue with
  | .running, envelope :: rest =>
      let sup := s.sup.emit [.handled envelope]
      if envelope.cmd = .shutdown then
        some { s with
          queue := rest
          status := .stopping
          sup := { sup with registry := { sup.registry with devices := ∅ } } }
      else
        some { s with
          queue := rest
          sup := sup.handle_command table ⟨s.now, order⟩ world envelope }
  | _, _ => none

omit [KeyboardDriver D] in
/-- `run_supervisor` returns: the registry and the receiver are dropped. -/
def superviseReturn (s : Sys D) : Option (Sys D) :=
  if s.status = .stopping then
    some { s with
      queue := []
      status := .returned
      sup := { s.sup with registry := { s.sup.registry with devices := ∅, reconnecting := ∅ } } }
  else
    none

/-- A move of a worker. -/
def workerStep (w : WorkerId) (x : Worker D) (s : Sys D) : WorkerMove → Option (Sys D)
  | .recv => (x.recv w (s.senderAlive w)).map fun r => s.setWorker w r
  | .debounce => (x.debounce w (s.senderAlive w) s.now).map fun r => s.setWorker w r
  | .finish order => (x.finish w ⟨s.now, order⟩).map fun r => s.setWorker w r
  | .report => x.reportDone.bind fun x =>
      (s.setWorker w (x, [])).sendOrDrop
        ⟨.worker w, .deviceError x.device_id (.driver .disconnected)⟩
  | .exit => x.exitTask.map fun x => s.setWorker w (x, [])
  | .panic => x.panicked.map fun x => s.setWorker w (x, [])

/-- A move of a reconnect task. -/
def taskStep (table : DriverTable W D) (k : TaskId) (t : ReconnectTask) (s : Sys D) :
    TaskMove W → Option (Sys D)
  | .cancel =>
      match t.phase with
      | .sleeping _ =>
          if s.sup.cancelled k t then some { s with sup := s.sup.setTask k t.abandon } else none
      | _ => none
  | .attempt order world =>
      match t.phase with
      | .sleeping wake_at =>
          if wake_at ≤ s.now then
            some { s with sup := s.sup.attempt table ⟨s.now, order⟩ world k t }
          else
            none
      | _ => none
  | .send =>
      match t.phase with
      | .sending handle =>
          ({ s with sup := s.sup.setTask k t.abandon } : Sys D).sendOrDrop
            ⟨.task k, .deviceReattached t.ctx.device_id handle t.ctx.token⟩
      | _ => none

variable [BackgroundTasks D]

/-- One step, or `none` if that party cannot move so. -/
def step (table : DriverTable W D) (s : Sys D) : Label W → Option (Sys D)
  | .tick ms => some { s with now := s.now + ms }
  | .enqueue cmd => s.enqueue cmd
  | .supervise order world => s.supervise table order world
  | .superviseReturn => s.superviseReturn
  | .worker w move => s.sup.workers[w]?.bind fun x => s.workerStep w x move
  | .background w order wakeup => s.sup.workers[w]?.bind fun x =>
      (BackgroundTasks.wake ⟨s.now, order⟩ (x.phase = .gone) wakeup x.driver).map fun driver =>
        s.setWorker w ({ x with driver := driver }, [.woke w wakeup])
  | .task k move => s.sup.tasks[k]?.bind fun t => s.taskStep table k t move

end Steps

/-! ## What a step does outside the workers -/

/-- A message that some party of `s` may send. -/
inductive Sent (s : Sys D) (envelope : Envelope) : Prop
  | outside (h : envelope.cmd.sender = some envelope.origin)
  | worker (w : WorkerId) (x : Worker D) (hx : s.sup.workers[w]? = some x)
      (h : envelope = ⟨.worker w, .deviceError x.device_id (.driver .disconnected)⟩)
  | task (k : TaskId) (t : ReconnectTask) (handle : DeviceHandle) (ht : s.sup.tasks[k]? = some t)
      (h : envelope = ⟨.task k, .deviceReattached t.ctx.device_id handle t.ctx.token⟩)

/-- A step of another party than the supervisor. -/
structure Aside (s s' : Sys D) : Prop where
  registry : s'.sup.registry = s.sup.registry
  status : s'.status = s.status
  log : ∃ effects, s'.sup.log = s.sup.log ++ effects ∧ ∀ e ∈ effects, e.isQuiet = true
  tasks : s'.sup.tasks.length = s.sup.tasks.length
  ctx : ∀ (k : TaskId) (t' : ReconnectTask), s'.sup.tasks[k]? = some t' →
    ∃ t, s.sup.tasks[k]? = some t ∧ t'.ctx = t.ctx
  queue : s'.queue = s.queue ∨ ∃ envelope, s'.queue = s.queue ++ [envelope] ∧ Sent s envelope

/-- A turn of the supervisor: the first command is taken off the queue, recorded
and handled. -/
structure Turned (s s' : Sys D) (envelope : Envelope) (rest : List Envelope) : Prop where
  running : s.status = .running
  queue : s.queue = envelope :: rest
  queue' : s'.queue = rest
  status' : s'.status = .running
  handled : (s.sup.emit [.handled envelope]).Handled envelope.cmd envelope.origin s'.sup

/-- The turn on `Shutdown`: the supervisor leaves its loop. -/
structure Stops (s s' : Sys D) (envelope : Envelope) (rest : List Envelope) : Prop where
  running : s.status = .running
  queue : s.queue = envelope :: rest
  cmd : envelope.cmd = .shutdown
  queue' : s'.queue = rest
  status' : s'.status = .stopping
  registry : s'.sup.registry = { s.sup.registry with devices := ∅ }
  tasks : s'.sup.tasks = s.sup.tasks
  log : s'.sup.log = s.sup.log ++ [.handled envelope]

/-- The supervisor returns. -/
structure Returns (s s' : Sys D) : Prop where
  stopping : s.status = .stopping
  queue' : s'.queue = []
  status' : s'.status = .returned
  registry : s'.sup.registry = { s.sup.registry with devices := ∅, reconnecting := ∅ }
  tasks : s'.sup.tasks = s.sup.tasks
  log : s'.sup.log = s.sup.log

/-- The cases of a step. -/
inductive Stepped (s s' : Sys D) : Prop
  | turned (envelope : Envelope) (rest : List Envelope) (h : Turned s s' envelope rest)
  | stopped (envelope : Envelope) (rest : List Envelope) (h : Stops s s' envelope rest)
  | returned (h : Returns s s')
  | aside (h : Aside s s')

/-- A step that changes neither tasks nor the queue, and records quiet
effects. -/
theorem Aside.of_quiet {s s' : Sys D} (hregistry : s'.sup.registry = s.sup.registry)
    (hstatus : s'.status = s.status) (htasks : s'.sup.tasks = s.sup.tasks)
    (hqueue : s'.queue = s.queue) {effects : List Effect}
    (hlog : s'.sup.log = s.sup.log ++ effects) (hquiet : ∀ e ∈ effects, e.isQuiet = true) :
    Aside s s' where
  registry := hregistry
  status := hstatus
  log := ⟨effects, hlog, hquiet⟩
  tasks := by rw [htasks]
  ctx := fun k t' ht => ⟨t', by rw [← htasks]; exact ht, rfl⟩
  queue := .inl hqueue

/-- A step that puts a message on the queue after a move of its own. -/
theorem Aside.of_send {s m s' : Sys D} {envelope : Envelope} (h : Aside s m)
    (hqueue : m.queue = s.queue) (hsent : Sent s envelope)
    (hsend : m.send envelope = some s') : Aside s s' := by
  rw [send] at hsend
  split at hsend
  · cases hsend
    exact ⟨h.registry, h.status, h.log, h.tasks, h.ctx,
      .inr ⟨envelope, by rw [← hqueue], hsent⟩⟩
  · cases hsend

theorem Aside.of_sendOrDrop {s m s' : Sys D} {envelope : Envelope} (h : Aside s m)
    (hqueue : m.queue = s.queue) (hsent : Sent s envelope)
    (hsend : m.sendOrDrop envelope = some s') : Aside s s' := by
  rw [sendOrDrop] at hsend
  split at hsend
  · cases hsend
    exact h
  · exact Aside.of_send h hqueue hsent hsend

theorem setWorker_aside (w : WorkerId) (r : Worker D × List Effect) (s : Sys D)
    (hquiet : ∀ e ∈ r.2, e.isQuiet = true) : Aside s (s.setWorker w r) :=
  Aside.of_quiet rfl rfl rfl rfl rfl hquiet

/-- A move of one task that keeps its context. -/
theorem Aside.of_taskMoved {s : Sys D} {k : TaskId} {t : ReconnectTask} {sup : Supervisor D}
    (ht : s.sup.tasks[k]? = some t) (h : Supervisor.TaskMoved k t s.sup sup) :
    Aside s { s with sup := sup } := by
  obtain ⟨t', hctx, htasks⟩ := h.tasks
  refine ⟨h.registry, rfl, ⟨[], ?_, fun _ h => absurd h List.not_mem_nil⟩, ?_, ?_, .inl rfl⟩
  · rw [List.append_nil]
    exact h.log
  · change sup.tasks.length = _
    rw [htasks, List.length_set]
  · intro j u hu
    change sup.tasks[j]? = some u at hu
    rw [htasks, List.getElem?_set] at hu
    by_cases hj : k = j
    · subst hj
      rw [if_pos rfl] at hu
      split at hu
      · cases hu
        exact ⟨t, ht, hctx⟩
      · cases hu
    · rw [if_neg hj] at hu
      exact ⟨u, hu, rfl⟩

section Cases

variable [KeyboardDriver D]

theorem workerStep_aside {s s' : Sys D} {w : WorkerId} {x : Worker D}
    (hx : s.sup.workers[w]? = some x) {move : WorkerMove}
    (h : s.workerStep w x move = some s') : Aside s s' := by
  cases move with
  | recv =>
      obtain ⟨r, hr, rfl⟩ := Option.map_eq_some_iff.1 h
      exact setWorker_aside w r s (Worker.recv_moves hr).quiet
  | debounce =>
      obtain ⟨r, hr, rfl⟩ := Option.map_eq_some_iff.1 h
      exact setWorker_aside w r s (Worker.debounce_moves hr).quiet
  | finish order =>
      obtain ⟨r, hr, rfl⟩ := Option.map_eq_some_iff.1 h
      exact setWorker_aside w r s (Worker.finish_moves hr).quiet
  | report =>
      obtain ⟨x', hx', hsend⟩ := Option.bind_eq_some_iff.1 h
      obtain ⟨-, rfl⟩ := Worker.reportDone_cases hx'
      exact Aside.of_sendOrDrop (setWorker_aside w _ s fun _ h => absurd h List.not_mem_nil) rfl
        (.worker w x hx rfl) hsend
  | exit =>
      obtain ⟨x', -, rfl⟩ := Option.map_eq_some_iff.1 h
      exact setWorker_aside w (x', []) s fun _ h => absurd h List.not_mem_nil
  | panic =>
      obtain ⟨x', -, rfl⟩ := Option.map_eq_some_iff.1 h
      exact setWorker_aside w (x', []) s fun _ h => absurd h List.not_mem_nil

theorem taskStep_aside {table : DriverTable W D} {s s' : Sys D} {k : TaskId}
    {t : ReconnectTask} (ht : s.sup.tasks[k]? = some t) {move : TaskMove W}
    (h : s.taskStep table k t move = some s') : Aside s s' := by
  have habandon : Aside s { s with sup := s.sup.setTask k t.abandon } :=
    Aside.of_taskMoved ht (Supervisor.setTask_moved s.sup rfl)
  cases move with
  | cancel =>
      rw [taskStep] at h
      split at h
      · split at h
        · cases h
          exact habandon
        · cases h
      · cases h
  | attempt order world =>
      rw [taskStep] at h
      split at h
      · split at h
        · cases h
          exact Aside.of_taskMoved ht
            (Supervisor.attempt_attempted table ⟨s.now, order⟩ world k t s.sup).1
        · cases h
      · cases h
  | send =>
      rw [taskStep] at h
      split at h
      · rename_i handle _
        exact Aside.of_sendOrDrop habandon rfl (.task k t handle ht rfl) h
      · cases h

theorem supervise_cases {table : DriverTable W D} {order : HashOrder} {world : W}
    {s s' : Sys D} (h : s.supervise table order world = some s') :
    ∃ envelope rest, Turned s s' envelope rest ∨ Stops s s' envelope rest := by
  rw [supervise] at h
  split at h
  · rename_i envelope rest hrunning hqueue
    refine ⟨envelope, rest, ?_⟩
    dsimp only at h
    split at h
    · rename_i hcmd
      cases h
      exact .inr ⟨hrunning, hqueue, hcmd, rfl, rfl, rfl, rfl, rfl⟩
    · cases h
      exact .inl ⟨hrunning, hqueue, rfl, hrunning,
        Supervisor.handle_command_cases table ⟨s.now, order⟩ world envelope _⟩
  · cases h

omit [KeyboardDriver D] in
theorem superviseReturn_cases {s s' : Sys D} (h : s.superviseReturn = some s') :
    Returns s s' := by
  rw [superviseReturn] at h
  split at h
  · rename_i hstopping
    cases h
    exact ⟨hstopping, rfl, rfl, rfl, rfl, rfl⟩
  · cases h

/-- A turn on a command that is not `Shutdown`. -/
theorem supervise_turned {table : DriverTable W D} {order : HashOrder} {world : W}
    {s s' : Sys D} {envelope : Envelope} {rest : List Envelope}
    (h : s.supervise table order world = some s') (hqueue : s.queue = envelope :: rest)
    (hcmd : envelope.cmd ≠ .shutdown) : Turned s s' envelope rest := by
  obtain ⟨other, rest', hcases⟩ := supervise_cases h
  rcases hcases with hturn | hstop
  · have heq := hturn.queue
    rw [hqueue] at heq
    cases heq
    exact hturn
  · have heq := hstop.queue
    rw [hqueue] at heq
    cases heq
    exact absurd hstop.cmd hcmd

variable [BackgroundTasks D]

/-- A step that is not the supervisor's. -/
theorem step_aside {table : DriverTable W D} {s s' : Sys D} {l : Label W}
    (hl : l.bySupervisor = false) (h : s.step table l = some s') : Aside s s' := by
  cases l with
  | supervise order world => cases hl
  | superviseReturn => cases hl
  | tick ms =>
      cases h
      exact Aside.of_quiet rfl rfl rfl rfl (List.append_nil _).symm
        fun _ h => absurd h List.not_mem_nil
  | enqueue cmd =>
      rw [step, enqueue] at h
      split at h
      · cases h
      · rename_i origin horigin
        split at h
        · have hnumbered : Aside s { s with next_reply := s.next_reply + 1 } :=
            Aside.of_quiet rfl rfl rfl rfl (List.append_nil _).symm
              fun _ h => absurd h List.not_mem_nil
          exact hnumbered.of_send rfl (.outside horigin) h
        · cases h
  | worker w move =>
      obtain ⟨x, hx, hmove⟩ := Option.bind_eq_some_iff.1 h
      exact workerStep_aside hx hmove
  | background w order wakeup =>
      obtain ⟨x, -, hwake⟩ := Option.bind_eq_some_iff.1 h
      obtain ⟨driver, -, rfl⟩ := Option.map_eq_some_iff.1 hwake
      refine setWorker_aside w _ s ?_
      intro e he
      rw [List.mem_singleton.1 he]
      rfl
  | task k move =>
      obtain ⟨t, ht, hmove⟩ := Option.bind_eq_some_iff.1 h
      exact taskStep_aside ht hmove

/-- What a step does to the registry, the record, the tasks and the engine
channel. -/
theorem step_cases {table : DriverTable W D} {s s' : Sys D} {l : Label W}
    (h : s.step table l = some s') : Stepped s s' := by
  cases l with
  | supervise order world =>
      obtain ⟨envelope, rest, hcases⟩ := supervise_cases h
      rcases hcases with hturn | hstop
      · exact .turned envelope rest hturn
      · exact .stopped envelope rest hstop
  | superviseReturn => exact .returned (superviseReturn_cases h)
  | tick ms => exact .aside (step_aside rfl h)
  | enqueue cmd => exact .aside (step_aside rfl h)
  | worker w move => exact .aside (step_aside rfl h)
  | background w order wakeup => exact .aside (step_aside rfl h)
  | task k move => exact .aside (step_aside rfl h)

end Cases

end Sys

end Clackd.Engine
