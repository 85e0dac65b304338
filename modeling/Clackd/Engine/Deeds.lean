import Clackd.Engine.Answers

/-!
# What a step does to the drivers

A step opens a device, or a worker's driver finishes a job, or a task of a driver wakes
up, or the drivers are left alone.  These are the deeds of a run.  Only the end of a job
answers a request from a driver; all other answers are the supervisor's own.

## Main results

* `happened_step`: the deeds of a step, and the answers it sends.
* `serves_step`: a worker keeps its device.
-/

namespace Clackd.Engine

open Clackd.Foundation Clackd.Hal
open Std (ExtTreeMap)

/-! ## Deeds -/

/-- One entry of the history of a run. -/
inductive Deed (D : Type) where
  /-- A device was opened, and its worker spawned. -/
  | opened (device_id : String) (driver : D)
  /-- A worker's driver did a job. -/
  | did (w : WorkerId) (turn : Turn) (job : Job)
  /-- A task of a worker's driver woke up. -/
  | woke (w : WorkerId) (turn : Turn) (dropped : Bool) (wakeup : Background)

/-- The deed that the end of a worker's driver call is. -/
def WorkerPhase.deed {D : Type} (w : WorkerId) (turn : Turn) : WorkerPhase → Option (Deed D)
  | .running job => some (.did w turn job)
  | _ => none

namespace Deed

variable {D : Type} [KeyboardDriver D]

/-- What a worker answers on the reply channel of its job. -/
def answer (devices : List (String × D)) : Deed D → Option (ReplyId × Reply)
  | .did w turn (.op op) =>
      devices[w]?.map fun device => (op.reply, (Worker.call turn device.2 op).reply)
  | _ => none

variable [BackgroundTasks D]

/-- The drivers after a deed, device by device in the order they were opened. -/
def act (devices : List (String × D)) : Deed D → List (String × D)
  | .opened device_id driver => devices ++ [(device_id, driver)]
  | .did w turn job =>
      devices.modify w fun device => (device.1, (Worker.perform turn device.2 job).driver)
  | .woke w turn dropped wakeup =>
      devices.modify w fun device =>
        (device.1, (BackgroundTasks.wake turn dropped wakeup device.2).getD device.2)

end Deed

/-- A reply that the supervisor sends itself: an error of the engine's, or what it has in
its registry. -/
def Reply.isSupervisors : Reply → Bool
  | .devices _ => true
  | .info _ => true
  | .identity _ => true
  | r => r.isRefusal

namespace Sys

variable {W D : Type}

/-- The devices that were ever opened, with their drivers. -/
def devices (s : Sys D) : List (String × D) :=
  s.sup.workers.map fun x => (x.device_id, x.driver)

/-- The deed of a worker, or of a task of its driver. -/
def deedOf (s : Sys D) : Label W → Option (Deed D)
  | .worker w (.finish order) =>
      s.sup.workers[w]?.bind fun x => x.phase.deed w ⟨s.now, order⟩
  | .background w order wakeup =>
      s.sup.workers[w]?.map fun x => .woke w ⟨s.now, order⟩ (x.phase = .gone) wakeup
  | _ => none

/-- The deeds of a step. -/
def deeds (s : Sys D) (l : Label W) (s' : Sys D) : List (Deed D) :=
  (s.deedOf l).toList ++
    (s'.sup.workers.drop s.sup.workers.length).map fun x => .opened x.device_id x.driver

end Sys

/-! ## Answers of the supervisor -/

namespace Supervisor

variable {W D : Type}

/-- A turn sends no answers but the supervisor's own. -/
def Own (e e' : Supervisor D) : Prop :=
  ∀ reply r, .replied reply r ∈ e'.log → .replied reply r ∈ e.log ∨ r.isSupervisors = true

theorem own_of_eq {e e' : Supervisor D} (hlog : e'.log = e.log) : Own e e' := by
  intro reply r hr
  rw [hlog] at hr
  exact .inl hr

theorem refusal_isSupervisors {err : DaemonError} (herr : err.isEngines = true) (op : WorkerOp) :
    (op.refusal err).isSupervisors = true := by
  cases op <;> exact herr

/-- A request that is not forwarded is answered by the supervisor or by nobody. -/
theorem Disposed.own {cmd : EngineCommand} {e e' : Supervisor D} (h : Disposed cmd e e')
    (hplain : cmd.forwarded = none) : Own e e' := by
  intro reply r hr
  cases h with
  | answered reply' r' before hcmd hworkers hlog hbefore =>
      rw [hlog] at hr
      rcases List.mem_append.1 hr with hold | hnew
      · exact .inl hold
      rcases List.mem_append.1 hnew with hother | hthis
      · cases hbefore _ hother
      · cases List.mem_singleton.1 hthis
        right
        cases cmd with
        | listDevices reply =>
            cases r with
            | devices ids => rfl
            | _ => cases hcmd
        | getDeviceInfo id reply =>
            cases r with
            | info result => rfl
            | _ => cases hcmd
        | getDeviceIdentity id reply =>
            cases r with
            | identity result => rfl
            | _ => cases hcmd
        | deviceConnected id v p path => cases hcmd
        | deviceDisconnected id => cases hcmd
        | deviceError id err => cases hcmd
        | deviceReattached id handle token => cases hcmd
        | shutdown => cases hcmd
        | _ => cases hplain
  | pushed id op handle hcmd hpresent hopen hroom heq =>
      rw [hplain] at hcmd
      cases hcmd
  | silent effects hcmd hworkers hlog hsilent =>
      rw [hlog] at hr
      rcases List.mem_append.1 hr with hold | hnew
      · exact .inl hold
      · cases hsilent _ hnew

theorem reply_with_error_own {err : DaemonError} (herr : err.isEngines = true) (op : WorkerOp)
    (e : Supervisor D) : Own e (e.reply_with_error op err) := by
  intro reply r hr
  rcases List.mem_append.1 hr with hold | hnew
  · exact .inl hold
  · cases List.mem_singleton.1 hnew
    exact .inr (refusal_isSupervisors herr op)

/-- A dispatcher that does not forward its operation refuses it. -/
theorem dispatch_own {device_id : String} {check : DeviceTopology → Option DaemonError}
    (hcheck : ∀ t err, check t = some err → err.isEngines = true) (op : WorkerOp)
    (e : Supervisor D) : Own e (e.dispatch device_id check op) := by
  unfold dispatch
  split
  · exact reply_with_error_own rfl op e
  · rename_i handle _
    split
    · rename_i err herr
      exact reply_with_error_own (hcheck _ err herr) op e
    · by_cases hclosed : e.closed handle.tx = true
      · rw [try_send, if_pos hclosed]
        intro reply r hr
        rcases reply_with_error_own rfl op (e.detach device_id handle) reply r hr with hold | hown
        · rcases List.mem_append.1 hold with hbefore | hdetached
          · exact .inl hbefore
          · cases List.mem_singleton.1 hdetached
        · exact .inr hown
      · by_cases hroom : e.queued handle.tx < WORKER_CHANNEL_CAPACITY
        · rw [try_send, if_neg hclosed, if_pos hroom]
          exact own_of_eq rfl
        · rw [try_send, if_neg hclosed, if_neg hroom]
          exact reply_with_error_own rfl op e

theorem bounded_isEngines (device_id : String) (layer row col : UInt8) (t : DeviceTopology)
    (err : DaemonError) (h : bounded device_id layer row col t = some err) :
    err.isEngines = true := by
  rw [bounded] at h
  split at h
  · cases h
  · cases h
    rfl

theorem unchecked_isEngines (t : DeviceTopology) (err : DaemonError) (h : unchecked t = some err) :
    err.isEngines = true := by
  cases h

theorem handle_command_own [KeyboardDriver D] (table : DriverTable W D) (turn : Turn) (world : W)
    (envelope : Envelope) (e : Supervisor D) : Own e (e.handle_command table turn world envelope) := by
  have hdisposed := handle_command_disposed table turn world envelope e
  obtain ⟨sender, cmd⟩ := envelope
  cases cmd with
  | getKeycode id layer row col reply =>
      exact dispatch_own (bounded_isEngines id layer row col) _ e
  | setKeycode id layer row col keycode reply =>
      exact dispatch_own (bounded_isEngines id layer row col) _ e
  | commitToNvram id reply => exact dispatch_own unchecked_isEngines _ e
  | getMacro id offset length reply => exact dispatch_own unchecked_isEngines _ e
  | setMacro id offset data reply => exact dispatch_own unchecked_isEngines _ e
  | getLighting id channel value_id reply => exact dispatch_own unchecked_isEngines _ e
  | setLighting id channel value_id data reply => exact dispatch_own unchecked_isEngines _ e
  | _ => exact hdisposed.own rfl

end Supervisor

section Attempt

variable {W D : Type} [KeyboardDriver D]

/-- An attempt spawns a worker, or leaves the workers alone. -/
theorem Supervisor.attempt_workers (table : DriverTable W D) (turn : Turn) (world : W) (k : TaskId)
    (t : ReconnectTask) (e : Supervisor D) :
    (e.attempt table turn world k t).workers = e.workers ∨ ∃ driver,
      (e.attempt table turn world k t).workers = e.workers ++ [Worker.spawn t.ctx.device_id driver] := by
  cases hfactory : table.factory t.ctx.vendor_id t.ctx.product_id with
  | none => exact .inl (by rw [attempt_unknown hfactory]; rfl)
  | some factory =>
      cases hopen : openDevice turn world factory t.ctx.hidraw_path with
      | ok r => exact .inr ⟨r.2, by rw [attempt_opened hfactory hopen]; rfl⟩
      | error err => exact .inl (by rw [attempt_failed hfactory hopen]; rfl)

end Attempt

namespace Worker

variable {D : Type} [KeyboardDriver D]

/-- The end of a driver call, as the deed of its worker. -/
theorem finish_deed {w : WorkerId} {turn : Turn} {x : Worker D} {r : Worker D × List Effect}
    (h : finish w turn x = some r) :
    ∃ job, x.phase = .running job ∧ r.1.device_id = x.device_id ∧
      r.1.driver = (perform turn x.driver job).driver ∧
        ∀ reply a, .replied reply a ∈ r.2 ↔
          ∃ op, job = .op op ∧ reply = op.reply ∧ a = (call turn x.driver op).reply := by
  obtain ⟨op, hphase, rfl⟩ | ⟨hphase, rfl⟩ | ⟨hphase, rfl⟩ := finish_cases h
  · obtain ⟨deadline, hmoved, hannounced⟩ := aftermath_cases turn op (call turn x.driver op).ok
      (after (call turn x.driver op) x)
    refine ⟨.op op, hphase, (congrArg Worker.device_id hmoved :),
      aftermath_driver turn _ _ _, ?_⟩
    intro reply a
    constructor
    · intro ha
      rcases List.mem_cons.1 ha with hcalled | ha
      · cases hcalled
      rcases List.mem_cons.1 ha with hreplied | ha
      · cases hreplied
        exact ⟨op, rfl, rfl, rfl⟩
      · cases hannounced _ ha
    · rintro ⟨op', hop, rfl, rfl⟩
      cases hop
      exact List.mem_cons_of_mem _ List.mem_cons_self
  · refine ⟨.debounced, hphase, rfl, rfl, ?_⟩
    intro reply a
    constructor
    · intro ha
      rcases List.mem_cons.1 ha with hcalled | ha
      · cases hcalled
      · split at ha
        · cases List.mem_singleton.1 ha
        · cases ha
    · rintro ⟨op, hop, -⟩
      cases hop
  · refine ⟨.final, hphase, rfl, rfl, ?_⟩
    intro reply a
    constructor
    · intro ha
      cases List.mem_singleton.1 ha
    · rintro ⟨op, hop, -⟩
      cases hop

end Worker

namespace Sys

variable {W D : Type}

/-! ## What a step adds to the history -/

/-- A worker that moved keeps its place, and its device. -/
theorem devices_set {s : Sys D} {w : WorkerId} {x : Worker D} (x' : Worker D)
    (hx : s.sup.workers[w]? = some x)
    (hid : x'.device_id = x.device_id) (f : D → D) (hdriver : x'.driver = f x.driver)
    (effects : List Effect) :
    (s.setWorker w (x', effects)).devices =
      s.devices.modify w fun device => (device.1, f device.2) := by
  apply List.ext_getElem?
  intro v
  show ((s.sup.workers.set w x').map _)[v]? = ((s.sup.workers.map _).modify w _)[v]?
  rw [List.getElem?_modify, List.getElem?_map, List.getElem?_map, List.getElem?_set]
  by_cases hv : w = v
  · subst hv
    obtain ⟨hlt, -⟩ := List.getElem?_eq_some_iff.1 hx
    rw [if_pos rfl, if_pos hlt, hx, Option.map_some, hid, hdriver]
    simp
  · simp [hv]

/-- A worker that moved without its driver. -/
theorem devices_set_same {s : Sys D} {w : WorkerId} {x : Worker D} (x' : Worker D)
    (hx : s.sup.workers[w]? = some x) (hid : x'.device_id = x.device_id)
    (hdriver : x'.driver = x.driver) (effects : List Effect) :
    (s.setWorker w (x', effects)).devices = s.devices := by
  rw [devices_set x' hx hid id hdriver effects]
  exact List.modify_id _ _

/-- The history of a step that spawns nothing. -/
theorem deeds_of_kept {s s' : Sys D} {l : Label W}
    (hworkers : s'.sup.workers.length = s.sup.workers.length) :
    s.deeds l s' = (s.deedOf l).toList := by
  rw [deeds, List.drop_of_length_le (by omega), List.map_nil, List.append_nil]

/-- The history of a step that spawns a worker. -/
theorem deeds_of_spawned {s s' : Sys D} {l : Label W} {id : String} {driver : D}
    (hworkers : s'.sup.workers = s.sup.workers ++ [Worker.spawn id driver])
    (hnone : s.deedOf l = none) : s.deeds l s' = [.opened id driver] := by
  rw [deeds, hworkers, List.drop_left' rfl, hnone]
  rfl

theorem devices_of_spawned {s s' : Sys D} {id : String} {driver : D}
    (hworkers : s'.sup.workers = s.sup.workers ++ [Worker.spawn id driver]) :
    s'.devices = s.devices ++ [(id, driver)] := by
  rw [devices, hworkers, List.map_append]
  rfl

variable [KeyboardDriver D] [BackgroundTasks D]

/-- What a step adds to the history, and what is answered by then. -/
inductive Happened (s s' : Sys D) : List (Deed D) → Prop
  | nothing (hdevices : s'.devices = s.devices) (hown : s.sup.Own s'.sup) : Happened s s' []
  | opened (id : String) (driver : D) (hdevices : s'.devices = s.devices ++ [(id, driver)])
      (hown : s.sup.Own s'.sup) : Happened s s' [.opened id driver]
  | did (w : WorkerId) (turn : Turn) (job : Job) (x : Worker D)
      (hx : s.sup.workers[w]? = some x) (hjob : x.phase = .running job)
      (hdevices : s'.devices = Deed.act s.devices (.did w turn job))
      (hreplies : ∀ reply a, .replied reply a ∈ s'.sup.log ↔ .replied reply a ∈ s.sup.log ∨
        ∃ op, job = .op op ∧ reply = op.reply ∧ a = (Worker.call turn x.driver op).reply) :
      Happened s s' [.did w turn job]
  | woke (w : WorkerId) (turn : Turn) (dropped : Bool) (wakeup : Background)
      (hdevices : s'.devices = Deed.act s.devices (.woke w turn dropped wakeup))
      (hown : s.sup.Own s'.sup) : Happened s s' [.woke w turn dropped wakeup]

omit [KeyboardDriver D] [BackgroundTasks D] in
/-- A message that is sent, or dropped, is no deed. -/
theorem devices_sendOrDrop {s s' : Sys D} {envelope : Envelope}
    (hsend : s.sendOrDrop envelope = some s') : s'.devices = s.devices ∧ s.sup.Own s'.sup ∧
      s'.sup.workers = s.sup.workers := by
  obtain ⟨hsup, -⟩ := sendOrDrop_cases hsend
  refine ⟨by rw [devices, hsup]; rfl, Supervisor.own_of_eq (by rw [hsup]), by rw [hsup]⟩

theorem happened_nothing {s s' : Sys D} {l : Label W}
    (hworkers : s'.sup.workers.length = s.sup.workers.length) (hnone : s.deedOf l = none)
    (hdevices : s'.devices = s.devices) (hown : s.sup.Own s'.sup) :
    Happened s s' (s.deeds l s') := by
  rw [deeds_of_kept hworkers, hnone]
  exact .nothing hdevices hown

theorem happened_opened {s s' : Sys D} {l : Label W} {id : String} {driver : D}
    (hworkers : s'.sup.workers = s.sup.workers ++ [Worker.spawn id driver])
    (hnone : s.deedOf l = none) (hown : s.sup.Own s'.sup) : Happened s s' (s.deeds l s') := by
  rw [deeds_of_spawned hworkers hnone]
  exact .opened id driver (devices_of_spawned hworkers) hown

omit [BackgroundTasks D] in
/-- A turn touches no driver; it may open one. -/
theorem devices_handled (table : DriverTable W D) (turn : Turn) (world : W) (envelope : Envelope)
    (e : Supervisor D) :
    let e' := e.handle_command table turn world envelope
    (e'.workers.map (fun x => (x.device_id, x.driver)) =
        e.workers.map (fun x => (x.device_id, x.driver)) ∧
      e'.workers.length = e.workers.length) ∨
      ∃ id driver, e'.workers = e.workers ++ [Worker.spawn id driver] := by
  cases Supervisor.handle_command_disposed table turn world envelope e with
  | answered reply r before hcmd hworkers hlog hbefore => exact .inl (by rw [hworkers]; simp)
  | pushed id op handle hcmd hpresent hopen hroom heq =>
      left
      rw [heq]
      refine ⟨?_, List.length_modify _ _ _⟩
      apply List.ext_getElem?
      intro v
      show ((e.workers.modify handle.tx _).map _)[v]? = _
      rw [List.getElem?_map, List.getElem?_map, List.getElem?_modify]
      cases e.workers[v]? with
      | none => rfl
      | some x =>
          by_cases hv : handle.tx = v
          · simp [hv]
          · simp [hv]
  | silent effects hcmd hworkers hlog hsilent =>
      rcases hworkers with hsame | hspawned
      · exact .inl (by rw [hsame]; simp)
      · exact .inr hspawned

theorem happened_supervise {table : DriverTable W D} {order : HashOrder} {world : W}
    {s s' : Sys D} (hstep : s.supervise table order world = some s') :
    Happened s s' (s.deeds (.supervise order world : Label W) s') := by
  rw [supervise] at hstep
  split at hstep
  · rename_i envelope rest _ _
    -- The record of the command itself answers nothing.
    have hhandled : s.sup.Own (s.sup.emit [.handled envelope]) := by
      intro reply r hr
      rcases List.mem_append.1 hr with hold | hnew
      · exact .inl hold
      · cases List.mem_singleton.1 hnew
    dsimp only at hstep
    split at hstep
    · cases hstep
      exact happened_nothing rfl rfl rfl hhandled
    · cases hstep
      have hown := Supervisor.handle_command_own table ⟨s.now, order⟩ world envelope
        (s.sup.emit [.handled envelope])
      have hboth : s.sup.Own (Supervisor.handle_command table ⟨s.now, order⟩ world envelope
          (s.sup.emit [.handled envelope])) := by
        intro reply r hr
        rcases hown reply r hr with hold | hnew
        · exact hhandled reply r hold
        · exact .inr hnew
      rcases devices_handled table ⟨s.now, order⟩ world envelope (s.sup.emit [.handled envelope])
        with ⟨hsame, hlength⟩ | ⟨id, driver, hspawned⟩
      · exact happened_nothing hlength rfl hsame hboth
      · exact happened_opened hspawned rfl hboth
  · cases hstep

theorem happened_worker {s s' : Sys D} {w : WorkerId} {x : Worker D} {move : WorkerMove}
    (hx : s.sup.workers[w]? = some x) (hstep : s.workerStep w x move = some s') :
    Happened s s' (s.deeds (.worker w move : Label W) s') := by
  -- A move that leaves the driver alone and answers nothing.
  have hplain : ∀ (l : Label W) (r : Worker D × List Effect), s.deedOf l = none →
      r.1.device_id = x.device_id → r.1.driver = x.driver → (∀ y ∈ r.2, y.isAnswer = false) →
      Happened s (s.setWorker w r) (s.deeds l (s.setWorker w r)) := by
    intro l r hnone hid hdriver hsilent
    refine happened_nothing List.length_set hnone (devices_set_same _ hx hid hdriver r.2) ?_
    intro reply a ha
    rcases List.mem_append.1 ha with hold | hnew
    · exact .inl hold
    · cases hsilent _ hnew
  cases move with
  | recv =>
      obtain ⟨r, hr, rfl⟩ := Option.map_eq_some_iff.1 hstep
      obtain ⟨-, ⟨op, rest, hrx, rfl⟩ | ⟨-, -, -, rfl⟩ | ⟨-, -, -, rfl⟩⟩ := Worker.recv_cases hr
      · exact hplain _ _ rfl rfl rfl (by simp [Worker.start, Effect.isAnswer])
      · exact hplain _ _ rfl rfl rfl (by simp [Worker.start, Effect.isAnswer])
      · exact hplain _ _ rfl rfl rfl (by simp)
  | debounce =>
      obtain ⟨r, hr, rfl⟩ := Option.map_eq_some_iff.1 hstep
      obtain ⟨-, -, rfl⟩ := Worker.debounce_cases hr
      exact hplain _ _ rfl rfl rfl (by simp [Worker.start, Effect.isAnswer])
  | finish order =>
      obtain ⟨r, hr, rfl⟩ := Option.map_eq_some_iff.1 hstep
      obtain ⟨job, hjob, hid, hdriver, hreplies⟩ := Worker.finish_deed hr
      have hdeed : s.deedOf (.worker w (.finish order) : Label W) =
          some (.did w ⟨s.now, order⟩ job) := by
        rw [deedOf, hx, Option.bind_some, hjob]
        rfl
      rw [deeds_of_kept List.length_set, hdeed]
      refine .did w ⟨s.now, order⟩ job x hx hjob ?_ ?_
      · exact devices_set _ hx hid (fun d => (Worker.perform ⟨s.now, order⟩ d job).driver) hdriver r.2
      · intro reply a
        show _ ∈ s.sup.log ++ r.2 ↔ _
        rw [List.mem_append, hreplies]
  | report =>
      obtain ⟨x', hx', hsend⟩ := Option.bind_eq_some_iff.1 hstep
      obtain ⟨-, rfl⟩ := Worker.reportDone_cases hx'
      obtain ⟨hsame, hkept, hworkers⟩ := devices_sendOrDrop hsend
      have hlength : s'.sup.workers.length = s.sup.workers.length := by
        rw [hworkers]
        exact List.length_set
      refine happened_nothing hlength rfl
        (hsame.trans (devices_set_same { x with phase := .reported } hx rfl rfl [])) ?_
      intro reply a ha
      rcases hkept reply a ha with hold | hnew
      · rcases List.mem_append.1 hold with hbefore | hnone
        · exact .inl hbefore
        · cases hnone
      · exact .inr hnew
  | exit =>
      obtain ⟨x', hx', rfl⟩ := Option.map_eq_some_iff.1 hstep
      obtain ⟨-, rfl⟩ := Worker.exitTask_cases hx'
      exact hplain _ _ rfl rfl rfl (by simp)
  | panic =>
      obtain ⟨x', hx', rfl⟩ := Option.map_eq_some_iff.1 hstep
      obtain ⟨-, rfl⟩ := Worker.panicked_cases hx'
      exact hplain _ _ rfl rfl rfl (by simp)

theorem happened_task {table : DriverTable W D} {s s' : Sys D} {k : TaskId} {t : ReconnectTask}
    {move : TaskMove W} (hstep : s.taskStep table k t move = some s') :
    Happened s s' (s.deeds (.task k move : Label W) s') := by
  cases move with
  | cancel =>
      rw [taskStep] at hstep
      split at hstep
      · split at hstep
        · cases hstep
          exact happened_nothing rfl rfl rfl (Supervisor.own_of_eq rfl)
        · cases hstep
      · cases hstep
  | attempt order world =>
      rw [taskStep] at hstep
      split at hstep
      · split at hstep
        · cases hstep
          have hlog := (Supervisor.attempt_attempted table ⟨s.now, order⟩ world k t s.sup).1.log
          have hown : s.sup.Own (s.sup.attempt table ⟨s.now, order⟩ world k t) :=
            Supervisor.own_of_eq hlog
          rcases Supervisor.attempt_workers table ⟨s.now, order⟩ world k t s.sup with
            hsame | ⟨driver, hspawned⟩
          · refine happened_nothing (congrArg List.length hsame) rfl ?_ hown
            show List.map _ (s.sup.attempt table ⟨s.now, order⟩ world k t).workers = _
            rw [hsame]
            rfl
          · exact happened_opened hspawned rfl hown
        · cases hstep
      · cases hstep
  | send =>
      rw [taskStep] at hstep
      split at hstep
      · obtain ⟨hsame, hown, hworkers⟩ := devices_sendOrDrop hstep
        exact happened_nothing (congrArg List.length hworkers) rfl hsame hown
      · cases hstep

omit [KeyboardDriver D] [BackgroundTasks D] in
/-- A command that comes in is on the queue as it is. -/
theorem enqueue_queue {s s' : Sys D} {cmd : EngineCommand} (hstep : s.enqueue cmd = some s') :
    s'.sup = s.sup ∧ ∃ envelope : Envelope, envelope.cmd = cmd ∧
      s'.queue = s.queue ++ [envelope] := by
  rw [enqueue] at hstep
  split at hstep
  · cases hstep
  · split at hstep
    · rw [send] at hstep
      split at hstep
      · cases hstep
        exact ⟨rfl, _, rfl, rfl⟩
      · cases hstep
    · cases hstep

/-- The deeds of a step. -/
theorem happened_step {table : DriverTable W D} {s s' : Sys D} {l : Label W}
    (hstep : s.step table l = some s') : Happened s s' (s.deeds l s') := by
  cases l with
  | tick ms =>
      cases hstep
      exact happened_nothing rfl rfl rfl (Supervisor.own_of_eq rfl)
  | enqueue cmd =>
      obtain ⟨hsup, -⟩ := enqueue_queue hstep
      refine happened_nothing (by rw [hsup]) rfl ?_ (Supervisor.own_of_eq (by rw [hsup]))
      rw [devices, hsup]
      rfl
  | supervise order world => exact happened_supervise hstep
  | superviseReturn =>
      rw [step, superviseReturn] at hstep
      split at hstep
      · cases hstep
        exact happened_nothing rfl rfl rfl (Supervisor.own_of_eq rfl)
      · cases hstep
  | worker w move =>
      obtain ⟨x, hx, hmove⟩ := Option.bind_eq_some_iff.1 hstep
      exact happened_worker hx hmove
  | background w order wakeup =>
      obtain ⟨x, hx, hwake⟩ := Option.bind_eq_some_iff.1 hstep
      obtain ⟨driver, hdriver, rfl⟩ := Option.map_eq_some_iff.1 hwake
      have hdeed : s.deedOf (.background w order wakeup : Label W) =
          some (.woke w ⟨s.now, order⟩ (x.phase = .gone) wakeup) := by
        rw [deedOf, hx]
        rfl
      rw [deeds_of_kept List.length_set, hdeed]
      refine .woke _ _ _ _ ?_ ?_
      · refine devices_set { x with driver := driver } hx rfl
          (fun d => (BackgroundTasks.wake ⟨s.now, order⟩ (x.phase = .gone) wakeup d).getD d) ?_
          [.woke w wakeup]
        rw [hdriver]
        rfl
      · intro reply a ha
        rcases List.mem_append.1 ha with hold | hnew
        · exact .inl hold
        · cases List.mem_singleton.1 hnew
  | task k move =>
      obtain ⟨t, ht, hmove⟩ := Option.bind_eq_some_iff.1 hstep
      exact happened_task hmove

omit [BackgroundTasks D] [KeyboardDriver D] in
theorem serves_devices {s : Sys D} {w : WorkerId} {id : String} :
    s.sup.Serves w id ↔ s.devices[w]?.map Prod.fst = some id := by
  rw [Supervisor.serves_iff, Supervisor.served, devices, List.getElem?_map, Option.map_map]
  rfl

/-- A worker keeps its device. -/
theorem serves_step {table : DriverTable W D} {s s' : Sys D} {l : Label W}
    (hstep : s.step table l = some s') {w : WorkerId} {id : String} (h : s.sup.Serves w id) :
    s'.sup.Serves w id := by
  rw [serves_devices] at h ⊢
  generalize hdeeds : s.deeds l s' = deeds
  have hhappened := happened_step hstep
  rw [hdeeds] at hhappened
  -- A driver that changes keeps its place and its name.
  have hmodify : ∀ (v : WorkerId) (f : D → D),
      ((s.devices.modify v fun device => (device.1, f device.2))[w]?).map Prod.fst =
        s.devices[w]?.map Prod.fst := by
    intro v f
    rw [List.getElem?_modify]
    cases s.devices[w]? with
    | none => rfl
    | some device =>
        by_cases hv : v = w
        · simp [hv]
        · simp [hv]
  cases hhappened with
  | nothing hdevices hown =>
      rw [hdevices]
      exact h
  | opened id driver hdevices hown =>
      obtain ⟨device, hdevice, hid⟩ := Option.map_eq_some_iff.1 h
      rw [hdevices, List.getElem?_append_left (List.getElem?_eq_some_iff.1 hdevice).1, hdevice]
      exact congrArg some hid
  | did v turn job x hx hjob hdevices hreplies =>
      rw [hdevices]
      exact (hmodify v fun driver => (Worker.perform turn driver job).driver).trans h
  | woke v turn dropped wakeup hdevices hown =>
      rw [hdevices]
      exact (hmodify v fun driver =>
        (BackgroundTasks.wake turn dropped wakeup driver).getD driver).trans h

end Sys

end Clackd.Engine
