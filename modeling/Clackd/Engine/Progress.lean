import Clackd.Engine.Dispatch
import Clackd.Engine.Membership

/-!
# Requests in the record, and how they move

The record of a run says which worker was registered for a device when a request
for it was dequeued, in which order, and what each worker has started on.  Below is
what a step of the system can do to the queues, the workers and the handles.

## Main results

* `Worker.finish_progress`, `Worker.recv_progress`: a move of a worker takes the next
  operation, or executes and refuses nothing.
* `Sys.step_progressed`: a step is one of the seven cases of `Progressed`.
-/

namespace Clackd.Engine

open Clackd.Foundation Clackd.Hal
open Std (ExtTreeMap)

/-! ## What the record says -/

/-- The operations a worker has started on, in order. -/
def executed (w : WorkerId) (log : List Effect) : List WorkerOp := log.filterMap (Effect.starts w)

/-- The registered workers after an entry. -/
def reassign (registered : String → Option WorkerId) : Effect → String → Option WorkerId
  | .attached id w => Function.update registered id (some w)
  | .detached id _ => Function.update registered id none
  | _ => registered

/-- The request that is dequeued, with the worker registered for its device. -/
def assignment (registered : String → Option WorkerId) : Effect → Option (WorkerId × WorkerOp)
  | .handled envelope => envelope.cmd.forwarded.bind fun request =>
      (registered request.1).map fun w => (w, request.2)
  | _ => none

/-- All requests that are dequeued, each with the worker registered then. -/
def assigned (registered : String → Option WorkerId) : List Effect → List (WorkerId × WorkerOp)
  | [] => []
  | x :: log => (assignment registered x).toList ++ assigned (reassign registered x) log

/-- The requests dequeued for the devices that a worker was registered for then, in
order. -/
def assignedTo (w : WorkerId) (log : List Effect) : List WorkerOp :=
  (assigned (fun _ => none) log).filterMap fun a => if a.1 = w then some a.2 else none

/-- The registered workers after a run. -/
def registeredAfter (log : List Effect) : String → Option WorkerId :=
  log.foldl reassign fun _ => none

/-- The workers of the handles in a table. -/
def txs (devices : ExtTreeMap String DeviceHandle) (id : String) : Option WorkerId :=
  devices[id]?.map DeviceHandle.tx

theorem txs_insert (devices : ExtTreeMap String DeviceHandle) (id : String)
    (handle : DeviceHandle) :
    txs (devices.insert id handle) = Function.update (txs devices) id (some handle.tx) := by
  funext id'
  by_cases h : id = id'
  · subst h
    simp [txs]
  · rw [Function.update_of_ne (Ne.symm h), txs, lookup_insert_ne _ _ h]
    rfl

theorem txs_erase (devices : ExtTreeMap String DeviceHandle) (id : String) :
    txs (devices.erase id) = Function.update (txs devices) id none := by
  funext id'
  by_cases h : id = id'
  · subst h
    simp [txs]
  · rw [Function.update_of_ne (Ne.symm h), txs, lookup_erase_ne _ h]
    rfl

theorem executed_append (w : WorkerId) (log more : List Effect) :
    executed w (log ++ more) = executed w log ++ executed w more := List.filterMap_append

theorem assigned_append (registered : String → Option WorkerId) (log more : List Effect) :
    assigned registered (log ++ more) =
      assigned registered log ++ assigned (log.foldl reassign registered) more := by
  induction log generalizing registered with
  | nil => rfl
  | cons x log ih =>
      rw [List.cons_append, assigned, assigned, ih, List.append_assoc]
      rfl

theorem assignedTo_append (w : WorkerId) (log more : List Effect) :
    assignedTo w (log ++ more) = assignedTo w log ++
      (assigned (registeredAfter log) more).filterMap
        fun a => if a.1 = w then some a.2 else none := by
  rw [assignedTo, assigned_append, List.filterMap_append]
  rfl

theorem registeredAfter_append (log more : List Effect) :
    registeredAfter (log ++ more) = more.foldl reassign (registeredAfter log) := List.foldl_append

/-- Quiet entries change nothing about who is registered. -/
theorem registered_of_quiet {registered : String → Option WorkerId} {more : List Effect}
    (h : ∀ x ∈ more, x.isQuiet = true) : more.foldl reassign registered = registered := by
  induction more generalizing registered with
  | nil => rfl
  | cons x more ih =>
      have hx : reassign registered x = registered := by
        have hquiet := h x List.mem_cons_self
        cases x with
        | attached id w => cases hquiet
        | detached id w => cases hquiet
        | _ => rfl
      rw [List.foldl_cons, hx]
      exact ih fun y hy => h y (List.mem_cons_of_mem x hy)

theorem executed_of_not_began {w : WorkerId} {more : List Effect}
    (h : ∀ x ∈ more, x.isBegan = false) : executed w more = [] := by
  rw [executed, List.filterMap_eq_nil_iff]
  intro x hx
  exact starts_of_not_began (h x hx) w

/-! ## Moves of a worker -/

/-- An entry that neither executes nor refuses a request. -/
structure Effect.Inert (x : Effect) : Prop where
  quiet : x.isQuiet = true
  starts : ∀ w, x.starts w = none
  executes : ∀ reply, x.executes reply = false
  refuses : ∀ reply, x.refuses reply = false

namespace Worker

variable {D : Type}

/-- A worker takes the next operation, or does something else. -/
inductive Progress (w : WorkerId) (x : Worker D) (r : Worker D × List Effect) : Prop
  | took (op : WorkerOp) (rest : List WorkerOp) (hrx : x.rx = op :: rest) (hrx' : r.1.rx = rest)
      (hlog : r.2 = [.began w (.op op)])
  | other (hrx : r.1.rx = x.rx ∨ r.1.rx = []) (hinert : ∀ y ∈ r.2, y.Inert)

theorem recv_progress {w : WorkerId} {senders : Bool} {x : Worker D} {r : Worker D × List Effect}
    (h : recv w senders x = some r) : Progress w x r := by
  obtain ⟨-, ⟨op, rest, hrx, rfl⟩ | ⟨-, -, -, rfl⟩ | ⟨-, -, -, rfl⟩⟩ := recv_cases h
  · exact .took op rest hrx rfl rfl
  · refine .other (.inl rfl) ?_
    intro y hy
    obtain rfl := List.mem_singleton.1 hy
    exact ⟨rfl, fun _ => rfl, fun _ => rfl, fun _ => rfl⟩
  · exact .other (.inr rfl) (by simp)

theorem debounce_progress {w : WorkerId} {senders : Bool} {now : Nat} {x : Worker D}
    {r : Worker D × List Effect} (h : debounce w senders now x = some r) : Progress w x r := by
  obtain ⟨-, -, rfl⟩ := debounce_cases h
  refine .other (.inl rfl) ?_
  intro y hy
  obtain rfl := List.mem_singleton.1 hy
  exact ⟨rfl, fun _ => rfl, fun _ => rfl, fun _ => rfl⟩

theorem announce_inert (x : Worker D) : (announce x).Inert :=
  ⟨rfl, fun _ => rfl, fun _ => rfl, fun _ => rfl⟩

theorem called_inert (w : WorkerId) (job : Job) (ok : Bool) : (Effect.called w job ok).Inert :=
  ⟨rfl, fun _ => rfl, fun _ => rfl, fun _ => rfl⟩

/-- The error of a driver is none of the engine's. -/
theorem mapError_driver {α : Type} {r : Except DriverError α} {err : DaemonError}
    (h : r.mapError DaemonError.driver = .error err) : err.isEngines = false := by
  cases r with
  | ok a => cases h
  | error e =>
      cases h
      rfl

variable [KeyboardDriver D]

theorem call_not_refusal (turn : Turn) (driver : D) (op : WorkerOp) :
    (call turn driver op).reply.isRefusal = false := by
  have hwrap : ∀ {α : Type} (wrap : Except DaemonError α → Reply) (r : Except DriverError α × D),
      (∀ a, (wrap (.ok a)).isRefusal = false) →
      (∀ err, (wrap (.error err)).isRefusal = err.isEngines) →
      (outcome wrap r).reply.isRefusal = false := by
    intro α wrap r hok herror
    show (wrap (r.1.mapError DaemonError.driver)).isRefusal = false
    cases hr : r.1.mapError DaemonError.driver with
    | ok a => exact hok a
    | error err => rw [herror, mapError_driver hr]
  cases op <;> exact hwrap _ _ (fun _ => rfl) (fun _ => rfl)

theorem finish_progress {w : WorkerId} {turn : Turn} {x : Worker D} {r : Worker D × List Effect}
    (h : finish w turn x = some r) : Progress w x r := by
  obtain ⟨op, -, rfl⟩ | ⟨-, rfl⟩ | ⟨-, rfl⟩ := finish_cases h
  · obtain ⟨deadline, hmoved, hannounced⟩ := aftermath_cases turn op (call turn x.driver op).ok
      (after (call turn x.driver op) x)
    refine .other (.inl (congrArg Worker.rx hmoved :)) ?_
    intro y hy
    rcases List.mem_cons.1 hy with rfl | hy
    · exact called_inert w _ _
    rcases List.mem_cons.1 hy with rfl | hy
    · refine ⟨rfl, fun _ => rfl, fun _ => rfl, ?_⟩
      intro reply
      simp [Effect.refuses, call_not_refusal]
    rw [hannounced y hy]
    exact announce_inert _
  · refine .other (.inl rfl) ?_
    intro y hy
    rcases List.mem_cons.1 hy with rfl | hy
    · exact called_inert w _ _
    · split at hy
      · rw [List.mem_singleton.1 hy]
        exact announce_inert x
      · cases hy
  · refine .other (.inr rfl) ?_
    intro y hy
    obtain rfl := List.mem_singleton.1 hy
    exact called_inert w _ _

omit [KeyboardDriver D] in
/-- A move executes nothing for other workers. -/
theorem Progress.executed_other {w v : WorkerId} {x : Worker D} {r : Worker D × List Effect}
    (h : Progress w x r) (hv : v ≠ w) : executed v r.2 = [] := by
  rw [executed, List.filterMap_eq_nil_iff]
  intro y hy
  cases h with
  | took op rest hrx hrx' hr =>
      rw [hr] at hy
      rw [List.mem_singleton.1 hy]
      exact if_neg (Ne.symm hv)
  | other hrx hinert => exact (hinert y hy).starts v

omit [KeyboardDriver D] in
/-- What a move executes and leaves queued is what was queued, or a first part of
it. -/
theorem Progress.executed_self {w : WorkerId} {x : Worker D} {r : Worker D × List Effect}
    (h : Progress w x r) : executed w r.2 ++ r.1.rx = x.rx ∨ executed w r.2 ++ r.1.rx = [] := by
  cases h with
  | took op rest hrx hrx' hr =>
      left
      simp [hr, hrx, hrx', executed, Effect.starts]
  | other hrx hinert =>
      have hnone : executed w r.2 = [] := by
        rw [executed, List.filterMap_eq_nil_iff]
        exact fun y hy => (hinert y hy).starts w
      rw [hnone]
      exact hrx

/-- The driver after a move is as before, or as a call leaves it. -/
def Driven (x x' : Worker D) : Prop :=
  x'.driver = x.driver ∨ ∃ turn op, x'.driver = (call turn x.driver op).driver

theorem finish_driven {w : WorkerId} {turn : Turn} {x : Worker D} {r : Worker D × List Effect}
    (h : finish w turn x = some r) : Driven x r.1 := by
  obtain ⟨op, -, rfl⟩ | ⟨-, rfl⟩ | ⟨-, rfl⟩ := finish_cases h
  · exact .inr ⟨turn, op, aftermath_driver turn _ _ _⟩
  · exact .inr ⟨turn, .commit 0, rfl⟩
  · exact .inr ⟨turn, .commit 0, rfl⟩

end Worker

/-! ## Steps -/

namespace Sys

variable {W D : Type}

/-- The handle of a worker, wherever it is. -/
def Handed (s : Sys D) (handle : DeviceHandle) : Prop :=
  (∃ id : String, s.sup.registry.devices[id]? = some handle) ∨
    (∃ envelope ∈ s.queue, ∃ id token, envelope.cmd = .deviceReattached id handle token) ∨
      ∃ t ∈ s.sup.tasks, t.phase = .sending handle

variable [KeyboardDriver D]

/-- The cases of a step, as far as requests and handles go. -/
inductive Progressed [BackgroundTasks D] (s s' : Sys D) : Prop
  | turned (envelope : Envelope) (rest : List Envelope) (h : Turned s s' envelope rest)
      (hsupplied : Supervisor.Supplied envelope.cmd (s.sup.emit [.handled envelope]) s'.sup)
      (hreply : s'.next_reply = s.next_reply)
  | stopped (envelope : Envelope) (rest : List Envelope) (h : Stops s s' envelope rest)
      (hworkers : s'.sup.workers = s.sup.workers) (hreply : s'.next_reply = s.next_reply)
  | returned (h : Returns s s') (hworkers : s'.sup.workers = s.sup.workers)
      (hreply : s'.next_reply = s.next_reply)
  /-- A command comes from outside. -/
  | entered (envelope : Envelope) (hsup : s'.sup = s.sup) (hstatus : s'.status = s.status)
      (hqueue : s'.queue = s.queue ++ [envelope]) (hreply : s'.next_reply = s.next_reply + 1)
      (hfresh : envelope.cmd.replyTo.all (· = s.next_reply) = true)
      (hplain : envelope.cmd.carries = none)
  /-- A worker moves, or a task of its driver. -/
  | worker (w : WorkerId) (x : Worker D) (r : Worker D × List Effect)
      (hx : s.sup.workers[w]? = some x) (hprogress : x.Progress w r)
      (hdriven : x.Driven r.1 ∨ ∃ turn wakeup dropped,
        BackgroundTasks.wake turn dropped wakeup x.driver = some r.1.driver)
      (hsup : s'.sup = (s.setWorker w r).sup) (hstatus : s'.status = s.status)
      (hreply : s'.next_reply = s.next_reply)
      (hqueue : s'.queue = s.queue ∨ ∃ envelope, s'.queue = s.queue ++ [envelope] ∧
        envelope.cmd.replyTo = none ∧ envelope.cmd.carries = none)
  /-- Time passes, or a reconnect task moves without opening a device. -/
  | idled (hworkers : s'.sup.workers = s.sup.workers)
      (hregistry : s'.sup.registry = s.sup.registry) (hlog : s'.sup.log = s.sup.log)
      (hstatus : s'.status = s.status) (hreply : s'.next_reply = s.next_reply)
      (hqueue : s'.queue = s.queue ∨ ∃ envelope, s'.queue = s.queue ++ [envelope] ∧
        envelope.cmd.replyTo = none)
      (hhanded : ∀ handle, s'.Handed handle → s.Handed handle)
  /-- A reconnect task opens a device. -/
  | opened (id : String) (driver : D) (topology : DeviceTopology) (handle : DeviceHandle)
      (hprobe : ∃ turn fresh, Supervisor.probe turn fresh = .ok (topology, driver))
      (hworkers : s'.sup.workers = s.sup.workers ++ [Worker.spawn id driver])
      (hregistry : s'.sup.registry = s.sup.registry) (hlog : s'.sup.log = s.sup.log)
      (hstatus : s'.status = s.status) (hreply : s'.next_reply = s.next_reply)
      (hqueue : s'.queue = s.queue) (htx : handle.tx = s.sup.workers.length)
      (htopology : handle.topology = topology)
      (hhanded : ∀ other, s'.Handed other → s.Handed other ∨ other = handle)

section Cases

variable [BackgroundTasks D]

omit [KeyboardDriver D] [BackgroundTasks D] in
/-- A message that is sent, or dropped. -/
theorem sendOrDrop_cases {s s' : Sys D} {envelope : Envelope}
    (h : s.sendOrDrop envelope = some s') :
    s'.sup = s.sup ∧ s'.status = s.status ∧ s'.next_reply = s.next_reply ∧
      (s'.queue = s.queue ∨ s'.queue = s.queue ++ [envelope]) := by
  unfold sendOrDrop send at h
  split at h
  · cases h
    exact ⟨rfl, rfl, rfl, .inl rfl⟩
  · split at h
    · cases h
      exact ⟨rfl, rfl, rfl, .inr rfl⟩
    · cases h

theorem workerStep_progressed {s s' : Sys D} {w : WorkerId} {x : Worker D}
    (hx : s.sup.workers[w]? = some x) {move : WorkerMove}
    (h : s.workerStep w x move = some s') : Progressed s s' := by
  -- A move that only changes where the worker is in its loop.
  have hquiet : ∀ x' : Worker D, x'.driver = x.driver → (x'.rx = x.rx ∨ x'.rx = []) →
      x.Progress w (x', []) ∧ x.Driven x' := by
    intro x' hdriver hrx
    exact ⟨.other hrx (by simp), .inl hdriver⟩
  cases move with
  | recv =>
      obtain ⟨r, hr, rfl⟩ := Option.map_eq_some_iff.1 h
      have hdriver : r.1.driver = x.driver := by
        obtain ⟨-, ⟨op, rest, -, rfl⟩ | ⟨-, -, -, rfl⟩ | ⟨-, -, -, rfl⟩⟩ := Worker.recv_cases hr
        · rfl
        · rfl
        · rfl
      exact .worker w x r hx (Worker.recv_progress hr) (.inl (.inl hdriver)) rfl rfl rfl (.inl rfl)
  | debounce =>
      obtain ⟨r, hr, rfl⟩ := Option.map_eq_some_iff.1 h
      have hdriver : r.1.driver = x.driver := by
        obtain ⟨-, -, rfl⟩ := Worker.debounce_cases hr
        rfl
      exact .worker w x r hx (Worker.debounce_progress hr) (.inl (.inl hdriver)) rfl rfl rfl
        (.inl rfl)
  | finish order =>
      obtain ⟨r, hr, rfl⟩ := Option.map_eq_some_iff.1 h
      exact .worker w x r hx (Worker.finish_progress hr) (.inl (Worker.finish_driven hr)) rfl rfl
        rfl (.inl rfl)
  | report =>
      obtain ⟨x', hx', hsend⟩ := Option.bind_eq_some_iff.1 h
      obtain ⟨hsup, hstatus, hreply, hqueue⟩ := sendOrDrop_cases hsend
      obtain ⟨-, rfl⟩ := Worker.reportDone_cases hx'
      obtain ⟨hprogress, hdriven⟩ := hquiet { x with phase := .reported } rfl (.inl rfl)
      refine .worker w x _ hx hprogress (.inl hdriven) hsup hstatus hreply ?_
      rcases hqueue with hqueue | hqueue
      · exact .inl hqueue
      · exact .inr ⟨_, hqueue, rfl, rfl⟩
  | exit =>
      obtain ⟨x', hx', rfl⟩ := Option.map_eq_some_iff.1 h
      obtain ⟨-, rfl⟩ := Worker.exitTask_cases hx'
      obtain ⟨hprogress, hdriven⟩ := hquiet x.leave rfl (.inr rfl)
      exact .worker w x _ hx hprogress (.inl hdriven) rfl rfl rfl (.inl rfl)
  | panic =>
      obtain ⟨x', hx', rfl⟩ := Option.map_eq_some_iff.1 h
      obtain ⟨-, rfl⟩ := Worker.panicked_cases hx'
      obtain ⟨hprogress, hdriven⟩ := hquiet x.leave rfl (.inr rfl)
      exact .worker w x _ hx hprogress (.inl hdriven) rfl rfl rfl (.inl rfl)

omit [KeyboardDriver D] [BackgroundTasks D] in
/-- Where one task is replaced, a handle that is new is the one that it sends. -/
theorem handed_of_setTask {s s' : Sys D} {k : TaskId} {t : ReconnectTask} {handle : DeviceHandle}
    (h : s'.Handed handle) (hregistry : s'.sup.registry = s.sup.registry)
    (hqueue : s'.queue = s.queue) (htasks : s'.sup.tasks = s.sup.tasks.set k t) :
    s.Handed handle ∨ t.phase = .sending handle := by
  rcases h with hdevice | hmessage | ⟨u, hu, hsending⟩
  · rw [hregistry] at hdevice
    exact .inl (.inl hdevice)
  · rw [hqueue] at hmessage
    exact .inl (.inr (.inl hmessage))
  · rw [htasks] at hu
    rcases List.mem_or_eq_of_mem_set hu with hold | rfl
    · exact .inl (.inr (.inr ⟨u, hold, hsending⟩))
    · exact .inr hsending

omit [KeyboardDriver D] [BackgroundTasks D] in
/-- A task that sends its handle hands on nothing new. -/
theorem handed_of_sent {s s' : Sys D} {k : TaskId} {t : ReconnectTask} {handle other : DeviceHandle}
    (ht : s.sup.tasks[k]? = some t) (hphase : t.phase = .sending handle)
    (hsend : ({ s with sup := s.sup.setTask k t.abandon } : Sys D).sendOrDrop
      ⟨.task k, .deviceReattached t.ctx.device_id handle t.ctx.token⟩ = some s')
    (h : s'.Handed other) : s.Handed other := by
  obtain ⟨hsup, -, -, hqueue⟩ := sendOrDrop_cases hsend
  rcases h with hdevice | ⟨envelope, hmessage, id, token, hcmd⟩ | ⟨u, hu, hsending⟩
  · rw [hsup] at hdevice
    exact .inl hdevice
  · rcases hqueue with hqueue | hqueue
    · rw [hqueue] at hmessage
      exact .inr (.inl ⟨envelope, hmessage, id, token, hcmd⟩)
    · rw [hqueue] at hmessage
      rcases List.mem_append.1 hmessage with hmessage | hnew
      · exact .inr (.inl ⟨envelope, hmessage, id, token, hcmd⟩)
      · rw [List.mem_singleton.1 hnew] at hcmd
        cases hcmd
        exact .inr (.inr ⟨t, List.mem_of_getElem? ht, hphase⟩)
  · rw [hsup] at hu
    rcases List.mem_or_eq_of_mem_set hu with hu | rfl
    · exact .inr (.inr ⟨u, hu, hsending⟩)
    · cases hsending

theorem taskStep_progressed {table : DriverTable W D} {s s' : Sys D} {k : TaskId}
    {t : ReconnectTask} (ht : s.sup.tasks[k]? = some t) {move : TaskMove W}
    (h : s.taskStep table k t move = some s') : Progressed s s' := by
  have hset : ∀ u : ReconnectTask, (∀ handle, u.phase ≠ .sending handle) →
      Progressed s { s with sup := s.sup.setTask k u } := by
    intro u hphase
    refine .idled rfl rfl rfl rfl rfl (.inl rfl) ?_
    intro handle hhanded
    exact (handed_of_setTask (s := s) hhanded rfl rfl rfl).resolve_right (hphase handle)
  cases move with
  | cancel =>
      rw [taskStep] at h
      split at h
      · split at h
        · cases h
          exact hset _ fun _ hcon => by cases hcon
        · cases h
      · cases h
  | attempt order world =>
      rw [taskStep] at h
      split at h
      · split at h
        · cases h
          unfold Supervisor.attempt
          dsimp only
          split
          · exact hset _ fun _ hcon => by cases hcon
          · split
            · rename_i topology driver hopen
              refine .opened t.ctx.device_id driver topology (s.sup.handleOf topology driver
                t.ctx.vendor_id t.ctx.product_id t.ctx.hidraw_path) ?_ rfl rfl rfl rfl rfl rfl rfl
                rfl ?_
              · unfold Supervisor.openDevice at hopen
                split at hopen
                · exact ⟨_, _, hopen⟩
                · cases hopen
              · intro other hhanded
                obtain hold | hsending := handed_of_setTask (s := s) hhanded rfl rfl rfl
                · exact .inl hold
                · split at hsending
                  · cases hsending
                  · cases hsending
                    exact .inr rfl
            · refine hset _ ?_
              intro handle hcon
              split at hcon
              · simp only [ReconnectTask.retry] at hcon
                split at hcon <;> cases hcon
              · cases hcon
        · cases h
      · cases h
  | send =>
      rw [taskStep] at h
      split at h
      · rename_i handle hphase
        obtain ⟨hsup, hstatus, hreply, hqueue⟩ := sendOrDrop_cases h
        refine .idled (by rw [hsup]; rfl) (by rw [hsup]; rfl) (by rw [hsup]; rfl) hstatus hreply
          ?_ ?_
        · rcases hqueue with hqueue | hqueue
          · exact .inl hqueue
          · exact .inr ⟨_, hqueue, rfl⟩
        · exact fun _ hhanded => handed_of_sent ht hphase h hhanded
      · cases h

theorem step_progressed {table : DriverTable W D} {s s' : Sys D} {l : Label W}
    (h : s.step table l = some s') : Progressed s s' := by
  cases l with
  | tick ms =>
      cases h
      exact .idled rfl rfl rfl rfl rfl (.inl rfl) fun _ hhanded => hhanded
  | enqueue cmd =>
      rw [step, enqueue] at h
      split at h
      · cases h
      · rename_i origin horigin
        split at h
        · rename_i hfresh
          unfold send at h
          split at h
          · cases h
            refine .entered ⟨origin, cmd⟩ rfl rfl rfl rfl hfresh ?_
            cases cmd with
            | deviceReattached id handle token => cases horigin
            | _ => rfl
          · cases h
        · cases h
  | supervise order world =>
      have hturn := supervise_cases (s := s) h
      rw [step, supervise] at h
      obtain ⟨envelope, rest, hturned | hstops⟩ := hturn
      · refine .turned envelope rest hturned ?_ ?_
        · rw [hturned.running, hturned.queue] at h
          dsimp only at h
          split at h
          · cases h
            cases hturned.status'
          · cases h
            exact Supervisor.handle_command_supplied table _ world envelope _
        · rw [hturned.running, hturned.queue] at h
          dsimp only at h
          split at h <;> cases h <;> rfl
      · rw [hstops.running, hstops.queue] at h
        dsimp only at h
        rw [if_pos hstops.cmd] at h
        cases h
        exact .stopped envelope rest hstops rfl rfl
  | superviseReturn =>
      have hreturns := superviseReturn_cases (s := s) h
      rw [step, superviseReturn] at h
      split at h
      · cases h
        exact .returned hreturns rfl rfl
      · cases h
  | worker w move =>
      obtain ⟨x, hx, hmove⟩ := Option.bind_eq_some_iff.1 h
      exact workerStep_progressed hx hmove
  | background w order wakeup =>
      obtain ⟨x, hx, hwake⟩ := Option.bind_eq_some_iff.1 h
      obtain ⟨driver, hdriver, rfl⟩ := Option.map_eq_some_iff.1 hwake
      refine .worker w x _ hx (.other (.inl rfl) ?_) (.inr ⟨_, wakeup, _, hdriver⟩) rfl rfl rfl
        (.inl rfl)
      intro y hy
      obtain rfl := List.mem_singleton.1 hy
      exact ⟨rfl, fun _ => rfl, fun _ => rfl, fun _ => rfl⟩
  | task k move =>
      obtain ⟨t, ht, hmove⟩ := Option.bind_eq_some_iff.1 h
      exact taskStep_progressed ht hmove

end Cases

end Sys

end Clackd.Engine
