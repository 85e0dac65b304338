import Clackd.Engine.Registry

/-!
# What one turn of the supervisor can do

Nine things: leave the registry alone, cancel a reconnect task, attach a device,
start a reconnect task for one that failed to attach, and the five ways a handle
is replaced or dropped.  Every invariant of the registry is proved by cases on
`Handled`, without unfolding a handler.

## Main results

* `handle_command_cases`: a turn is one of the nine cases of `Handled`.
* `handle_command_grows`: a turn only queues operations for the workers there
  are, and spawns new ones.
-/

namespace Clackd.Engine

open Clackd.Foundation Clackd.Hal
open Std (ExtTreeMap)

/-- Whether the operation passes the check of its dispatcher. -/
def WorkerOp.admitted (t : DeviceTopology) : WorkerOp → Bool
  | .getKeycode layer row col _ => t.contains layer row col
  | .setKeycode layer row col _ _ => t.contains layer row col
  | _ => true

/-- The device a command plugs in or unplugs. -/
def EngineCommand.plugged : EngineCommand → Option String
  | .deviceConnected device_id _ _ _ => some device_id
  | .deviceDisconnected device_id => some device_id
  | _ => none

namespace Supervisor

variable {W D : Type}

/-- Handling the command would forward an operation to a registered worker
whose channel is closed. -/
def MeetsClosed (cmd : EngineCommand) (device_id : String) (e : Supervisor D) : Prop :=
  ∃ op handle, cmd.forwarded = some (device_id, op) ∧
    e.registry.devices[device_id]? = some handle ∧
    op.admitted handle.topology = true ∧ e.closed handle.tx = true

/-- A reconnect task as it is started. -/
structure Fresh (device_id : String) (token : UInt64) (t : ReconnectTask) : Prop where
  device_id : t.ctx.device_id = device_id
  token : t.ctx.token = token
  sleeping : ∃ wake_at, t.phase = .sleeping wake_at

/-- The cases of a turn. -/
inductive Handled (cmd : EngineCommand) (sender : Origin) (e e' : Supervisor D) : Prop
  /-- Nothing happens to the registry. -/
  | quiet (effects : List Effect) (hregistry : e'.registry = e.registry)
      (htasks : e'.tasks = e.tasks) (hlog : e'.log = e.log ++ effects)
      (hreplies : ∀ x ∈ effects, ∃ reply r, x = .replied reply r)
      (hplug : cmd.plugged = none)
      (hopen : ∀ id, ¬ e.MeetsClosed cmd id)
      (herror : ∀ id err, cmd = .deviceError id err → e.registry.devices[id]? = none)
      (hreattached : ∀ id handle token, cmd = .deviceReattached id handle token →
        ∀ k, e.registry.reconnecting[id]? ≠ some (k, token))
  /-- A plug event that only cancels the reconnect task. -/
  | cancelled (id : String) (hcmd : cmd.plugged = some id)
      (hregistry : e'.registry = ⟨e.registry.devices, e.registry.reconnecting.erase id,
        e.registry.next_reconnect_token⟩)
      (htasks : e'.tasks = e.tasks) (hlog : e'.log = e.log)
      (habsent : cmd = .deviceDisconnected id → e.registry.devices[id]? = none)
  /-- A device is attached. -/
  | connected (id : String) (vendor_id product_id : UInt16) (path : String)
      (handle : DeviceHandle) (hcmd : cmd = .deviceConnected id vendor_id product_id path)
      (habsent : e.registry.devices[id]? = none) (htx : handle.tx = e.workers.length)
      (hregistry : e'.registry = ⟨e.registry.devices.insert id handle,
        e.registry.reconnecting.erase id, e.registry.next_reconnect_token⟩)
      (htasks : e'.tasks = e.tasks)
      (hlog : e'.log = e.log ++ [.attached id handle.tx, .lifecycle (.deviceAdded id)])
  /-- A device fails to attach and is left to a reconnect task. -/
  | retried (id : String) (vendor_id product_id : UInt16) (path : String)
      (t : ReconnectTask) (hcmd : cmd = .deviceConnected id vendor_id product_id path)
      (habsent : e.registry.devices[id]? = none)
      (ht : Fresh id e.registry.next_reconnect_token t)
      (hregistry : e'.registry = ⟨e.registry.devices,
        (e.registry.reconnecting.erase id).insert id
          (e.tasks.length, e.registry.next_reconnect_token),
        e.registry.next_reconnect_token + 1⟩)
      (htasks : e'.tasks = e.tasks ++ [t])
      (hlog : e'.log = e.log ++ [.started id e.tasks.length])
  /-- A registered device is unplugged. -/
  | disconnected (id : String) (handle : DeviceHandle) (hcmd : cmd = .deviceDisconnected id)
      (hpresent : e.registry.devices[id]? = some handle)
      (hregistry : e'.registry = ⟨e.registry.devices.erase id,
        e.registry.reconnecting.erase id, e.registry.next_reconnect_token⟩)
      (htasks : e'.tasks = e.tasks)
      (hlog : e'.log = e.log ++ [.detached id handle.tx, .lifecycle (.deviceRemoved id)])
  /-- A registered device is reported lost and left to a reconnect task. -/
  | lost (id : String) (handle : DeviceHandle) (t : ReconnectTask)
      (hcmd : cmd = .deviceError id (.driver .disconnected))
      (hpresent : e.registry.devices[id]? = some handle)
      (ht : Fresh id e.registry.next_reconnect_token t)
      (hregistry : e'.registry = ⟨e.registry.devices.erase id,
        e.registry.reconnecting.insert id (e.tasks.length, e.registry.next_reconnect_token),
        e.registry.next_reconnect_token + 1⟩)
      (htasks : e'.tasks = e.tasks ++ [t])
      (hlog : e'.log = e.log ++ [.detached id handle.tx, .lifecycle (.deviceRemoved id),
        .started id e.tasks.length])
  /-- A registered device is reported with another error. -/
  | failed (id : String) (err : DaemonError) (handle : DeviceHandle)
      (hcmd : cmd = .deviceError id err) (herr : err ≠ .driver .disconnected)
      (hpresent : e.registry.devices[id]? = some handle)
      (hregistry : e'.registry = ⟨e.registry.devices.erase id, e.registry.reconnecting,
        e.registry.next_reconnect_token⟩)
      (htasks : e'.tasks = e.tasks)
      (hlog : e'.log = e.log ++ [.detached id handle.tx, .lifecycle (.deviceRemoved id)])
  /-- A reattached handle is accepted. -/
  | reattached (id : String) (handle : DeviceHandle) (token : UInt64) (k : TaskId)
      (hcmd : cmd = .deviceReattached id handle token)
      (hcurrent : e.registry.reconnecting[id]? = some (k, token))
      (hregistry : e'.registry = ⟨e.registry.devices.insert id handle,
        e.registry.reconnecting.erase id, e.registry.next_reconnect_token⟩)
      (htasks : e'.tasks = e.tasks)
      (hlog : e'.log = e.log ++ [.accepted id sender, .attached id handle.tx,
        .lifecycle (.deviceAdded id)])
  /-- A handle is evicted because its channel is closed. -/
  | evicted (id : String) (op : WorkerOp) (handle : DeviceHandle)
      (hcmd : cmd.forwarded = some (id, op))
      (hpresent : e.registry.devices[id]? = some handle)
      (hadmitted : op.admitted handle.topology = true) (hclosed : e.closed handle.tx = true)
      (hregistry : e'.registry = ⟨e.registry.devices.erase id, e.registry.reconnecting,
        e.registry.next_reconnect_token⟩)
      (htasks : e'.tasks = e.tasks)
      (hlog : e'.log = e.log ++ [.detached id handle.tx,
        .replied op.reply (op.refusal (.deviceNotFound id))])

/-! ## The handlers, case by case -/

theorem bounded_eq_none {device_id : String} {layer row col : UInt8} {t : DeviceTopology} :
    bounded device_id layer row col t = none ↔ t.contains layer row col = true := by
  rw [bounded]
  split
  · rename_i h
    exact ⟨fun _ => h, fun _ => rfl⟩
  · rename_i h
    exact ⟨fun hcon => (nomatch hcon), fun hcon => absurd hcon h⟩

/-- A command that is forwarded is no plug event, report or reattach. -/
theorem forwarded_plain {cmd : EngineCommand} {r : String × WorkerOp}
    (h : cmd.forwarded = some r) :
    cmd.plugged = none ∧ (∀ id err, cmd ≠ .deviceError id err) ∧
      ∀ id handle token, cmd ≠ .deviceReattached id handle token := by
  cases cmd with
  | deviceConnected id v p path => cases h
  | deviceDisconnected id => cases h
  | deviceError id err => cases h
  | deviceReattached id handle token => cases h
  | _ => exact ⟨rfl, fun _ _ => nofun, fun _ _ _ => nofun⟩

/-- A turn that only answers. -/
theorem handled_of_emit {cmd : EngineCommand} {sender : Origin} {e : Supervisor D}
    (reply : ReplyId) (r : Reply)
    (hplug : cmd.plugged = none) (hopen : ∀ id, ¬ e.MeetsClosed cmd id)
    (herror : ∀ id err, cmd ≠ .deviceError id err)
    (hreattached : ∀ id handle token, cmd ≠ .deviceReattached id handle token) :
    Handled cmd sender e (e.emit [.replied reply r]) := by
  refine .quiet [.replied reply r] rfl rfl rfl ?_ hplug hopen
    (fun id err h => absurd h (herror id err))
    (fun id handle token h => absurd h (hreattached id handle token))
  intro x hx
  exact ⟨reply, r, List.mem_singleton.1 hx⟩

theorem dispatch_cases {cmd : EngineCommand} {sender : Origin} {device_id : String}
    {check : DeviceTopology → Option DaemonError} {op : WorkerOp} (e : Supervisor D)
    (hcmd : cmd.forwarded = some (device_id, op))
    (hcheck : ∀ t, check t = none ↔ op.admitted t = true) :
    Handled cmd sender e (e.dispatch device_id check op) := by
  obtain ⟨hplug, herror, hreattached⟩ := forwarded_plain hcmd
  -- What keeps the turn from meeting a closed channel.
  have hopen : (∀ handle, e.registry.devices[device_id]? = some handle →
      op.admitted handle.topology = true → e.closed handle.tx = false) →
      ∀ id, ¬ e.MeetsClosed cmd id := by
    rintro hsafe id ⟨op', handle, hforwarded, hpresent, hadmitted, hclosed⟩
    rw [hcmd] at hforwarded
    cases hforwarded
    rw [hsafe handle hpresent hadmitted] at hclosed
    cases hclosed
  unfold dispatch
  split
  · rename_i habsent
    refine handled_of_emit _ _ hplug (hopen ?_) herror hreattached
    intro handle hpresent
    rw [habsent] at hpresent
    cases hpresent
  · rename_i handle hpresent
    split
    · rename_i err herr
      refine handled_of_emit _ _ hplug (hopen ?_) herror hreattached
      intro handle' hpresent' hadmitted
      rw [hpresent] at hpresent'
      cases hpresent'
      rw [(hcheck handle.topology).2 hadmitted] at herr
      cases herr
    · rename_i hnone
      have hadmitted := (hcheck handle.topology).1 hnone
      by_cases hclosed : e.closed handle.tx = true
      · rw [try_send, if_pos hclosed]
        refine .evicted device_id op handle hcmd hpresent hadmitted hclosed rfl rfl ?_
        exact List.append_assoc _ _ _
      · have hsafe : ∀ id, ¬ e.MeetsClosed cmd id := by
          refine hopen ?_
          intro handle' hpresent' _
          rw [hpresent] at hpresent'
          cases hpresent'
          rw [Bool.not_eq_true] at hclosed
          exact hclosed
        by_cases hroom : e.queued handle.tx < WORKER_CHANNEL_CAPACITY
        · rw [try_send, if_neg hclosed, if_pos hroom]
          exact .quiet [] rfl rfl (List.append_nil _).symm
            (fun _ h => absurd h List.not_mem_nil) hplug hsafe
            (fun id err h => absurd h (herror id err))
            (fun id handle token h => absurd h (hreattached id handle token))
        · rw [try_send, if_neg hclosed, if_neg hroom]
          exact handled_of_emit _ _ hplug hsafe herror hreattached

section Cases

variable [KeyboardDriver D]

theorem device_connected_cases (table : DriverTable W D) (turn : Turn) (world : W) (id : String)
    (vendor_id product_id : UInt16) (path : String) (sender : Origin) (e : Supervisor D) :
    Handled (.deviceConnected id vendor_id product_id path) sender e
      (e.device_connected table turn world id vendor_id product_id path) := by
  -- Where nothing is attached or started, the turn has only cancelled.
  have hcancelled : Handled (.deviceConnected id vendor_id product_id path) sender e
      (e.cancel id) := .cancelled id rfl rfl rfl rfl nofun
  unfold device_connected
  by_cases hmem : (e.cancel id).registry.devices.contains id = true
  · rw [if_pos hmem]
    exact hcancelled
  · have habsent : e.registry.devices[id]? = none := by
      rw [Bool.not_eq_true] at hmem
      exact ExtTreeMap.getElem?_eq_none_of_contains_eq_false hmem
    rw [if_neg hmem]
    unfold connect
    split
    · exact hcancelled
    · split
      · exact .connected id vendor_id product_id path _ rfl habsent rfl rfl rfl rfl
      · split
        · exact .retried id vendor_id product_id path _ rfl habsent ⟨rfl, rfl, _, rfl⟩ rfl rfl rfl
        · exact hcancelled

omit [KeyboardDriver D] in
theorem device_disconnected_cases (id : String) (sender : Origin) (e : Supervisor D) :
    Handled (.deviceDisconnected id) sender e (e.device_disconnected id) := by
  unfold device_disconnected
  dsimp only
  split
  · rename_i handle hpresent
    exact .disconnected id handle rfl hpresent rfl rfl (List.append_assoc _ _ _)
  · rename_i habsent
    exact .cancelled id rfl rfl rfl rfl fun _ => habsent

omit [KeyboardDriver D] in
theorem device_error_cases (turn : Turn) (id : String) (err : DaemonError) (sender : Origin)
    (e : Supervisor D) :
    Handled (.deviceError id err) sender e (e.device_error turn id err) := by
  unfold device_error
  split
  · rename_i handle hpresent
    by_cases herr : err = .driver .disconnected
    · rw [if_pos herr]
      subst herr
      refine .lost id handle _ rfl hpresent ⟨rfl, rfl, _, rfl⟩ rfl rfl ?_
      exact (List.append_assoc _ _ _).trans (List.append_assoc _ _ _)
    · rw [if_neg herr]
      exact .failed id err handle rfl herr hpresent rfl rfl (List.append_assoc _ _ _)
  · rename_i habsent
    refine .quiet [] rfl rfl (List.append_nil _).symm (fun _ h => absurd h List.not_mem_nil) rfl
      ?_ ?_ nofun
    · rintro id' ⟨op, handle, hforwarded, -⟩
      cases hforwarded
    · intro id' err' h
      cases h
      exact habsent

omit [KeyboardDriver D] in
theorem device_reattached_cases (sender : Origin) (id : String) (handle : DeviceHandle)
    (token : UInt64) (e : Supervisor D) :
    Handled (.deviceReattached id handle token) sender e
      (e.device_reattached sender id handle token) := by
  -- A message whose token is not the current one changes nothing.
  have hignored : (∀ k, e.registry.reconnecting[id]? ≠ some (k, token)) →
      Handled (.deviceReattached id handle token) sender e e := by
    intro hstale
    refine .quiet [] rfl rfl (List.append_nil _).symm (fun _ h => absurd h List.not_mem_nil) rfl
      ?_ nofun ?_
    · rintro id' ⟨op, handle', hforwarded, -⟩
      cases hforwarded
    · intro id' handle' token' h
      cases h
      exact hstale
  unfold device_reattached
  split
  · rename_i k current_token hcurrent
    by_cases htoken : current_token = token
    · rw [if_pos htoken]
      subst htoken
      exact .reattached id handle current_token k rfl hcurrent rfl rfl (List.append_assoc _ _ _)
    · rw [if_neg htoken]
      refine hignored ?_
      intro k' hcon
      rw [hcurrent] at hcon
      injection hcon with hcon
      exact htoken (congrArg Prod.snd hcon)
  · rename_i hnone
    refine hignored ?_
    intro k' hcon
    rw [hnone] at hcon
    cases hcon

/-- A turn is one of the nine cases. -/
theorem handle_command_cases (table : DriverTable W D) (turn : Turn) (world : W)
    (envelope : Envelope) (e : Supervisor D) :
    Handled envelope.cmd envelope.origin e (e.handle_command table turn world envelope) := by
  obtain ⟨sender, cmd⟩ := envelope
  -- The commands that are answered on the spot.
  have hanswer : ∀ (cmd : EngineCommand) (reply : ReplyId) (r : Reply),
      cmd.forwarded = none → cmd.plugged = none → (∀ id err, cmd ≠ .deviceError id err) →
      (∀ id handle token, cmd ≠ .deviceReattached id handle token) →
      Handled cmd sender e (e.emit [.replied reply r]) := by
    intro cmd reply r hforwarded hplug herror hreattached
    refine handled_of_emit reply r hplug ?_ herror hreattached
    rintro id ⟨op, handle, hcon, -⟩
    rw [hforwarded] at hcon
    cases hcon
  cases cmd with
  | getKeycode id layer row col reply => exact dispatch_cases e rfl fun _ => bounded_eq_none
  | setKeycode id layer row col keycode reply =>
      exact dispatch_cases e rfl fun _ => bounded_eq_none
  | deviceConnected id vendor_id product_id path =>
      exact device_connected_cases table turn world id vendor_id product_id path sender e
  | deviceDisconnected id => exact device_disconnected_cases id sender e
  | deviceError id err => exact device_error_cases turn id err sender e
  | deviceReattached id handle token => exact device_reattached_cases sender id handle token e
  | listDevices reply =>
      exact hanswer _ reply _ rfl rfl (fun _ _ => nofun) (fun _ _ _ => nofun)
  | getDeviceInfo id reply =>
      exact hanswer _ reply _ rfl rfl (fun _ _ => nofun) (fun _ _ _ => nofun)
  | getDeviceIdentity id reply =>
      exact hanswer _ reply _ rfl rfl (fun _ _ => nofun) (fun _ _ _ => nofun)
  | commitToNvram id reply => exact dispatch_cases e rfl fun _ => ⟨fun _ => rfl, fun _ => rfl⟩
  | getMacro id offset length reply =>
      exact dispatch_cases e rfl fun _ => ⟨fun _ => rfl, fun _ => rfl⟩
  | setMacro id offset data reply =>
      exact dispatch_cases e rfl fun _ => ⟨fun _ => rfl, fun _ => rfl⟩
  | getLighting id channel value_id reply =>
      exact dispatch_cases e rfl fun _ => ⟨fun _ => rfl, fun _ => rfl⟩
  | setLighting id channel value_id data reply =>
      exact dispatch_cases e rfl fun _ => ⟨fun _ => rfl, fun _ => rfl⟩
  | shutdown =>
      refine .quiet [] rfl rfl (List.append_nil _).symm (fun _ h => absurd h List.not_mem_nil)
        rfl ?_ nofun nofun
      rintro id ⟨op, handle, hcon, -⟩
      cases hcon

end Cases

/-! ## What a turn does to the workers -/

/-- A driver that opening some node gives. -/
def Opens [KeyboardDriver D] (table : DriverTable W D) (driver : D) : Prop :=
  ∃ (turn : Turn) (world : W) (vendor_id product_id : UInt16) (path : String)
    (factory : DriverFactory W D) (topology : DeviceTopology),
    table.factory vendor_id product_id = some factory ∧
      openDevice turn world factory path = .ok (topology, driver)

/-- The workers there are get at most new operations, and the new ones are just
spawned. -/
structure Grows (opened : D → Prop) (e e' : Supervisor D) : Prop where
  kept : ∀ (w : WorkerId) (x : Worker D), e.workers[w]? = some x →
    ∃ rx, e'.workers[w]? = some { x with rx := rx }
  fresh : ∀ (w : WorkerId) (x : Worker D), e.workers[w]? = none → e'.workers[w]? = some x →
    ∃ id driver, x = Worker.spawn id driver ∧ opened driver

section Grows

variable {opened : D → Prop}

theorem Grows.of_eq {e e' : Supervisor D} (h : e'.workers = e.workers) : Grows opened e e' where
  kept := fun w x hx => ⟨x.rx, by rw [h]; exact hx⟩
  fresh := by
    intro w x hnone hx
    rw [h, hnone] at hx
    cases hx

theorem Grows.trans_eq {e e' e'' : Supervisor D} (h : Grows opened e e')
    (heq : e''.workers = e'.workers) : Grows opened e e'' := by
  refine ⟨?_, ?_⟩
  · rw [heq]
    exact h.kept
  · rw [heq]
    exact h.fresh

theorem grows_push (w : WorkerId) (op : WorkerOp) (e : Supervisor D) :
    Grows opened e (e.push w op) where
  kept := by
    intro v x hx
    change ∃ rx, (e.workers.modify w _)[v]? = _
    rw [List.getElem?_modify, hx]
    refine ⟨if w = v then x.rx ++ [op] else x.rx, congrArg some ?_⟩
    dsimp only
    split <;> rfl
  fresh := by
    intro v x hnone hx
    change (e.workers.modify w _)[v]? = _ at hx
    rw [List.getElem?_modify, hnone] at hx
    cases hx

theorem grows_spawnWorker {driver : D} (hopened : opened driver) (id : String)
    (e : Supervisor D) : Grows opened e (e.spawnWorker id driver) where
  kept := by
    intro v x hx
    have hlt : v < e.workers.length := (List.getElem?_eq_some_iff.1 hx).1
    refine ⟨x.rx, ?_⟩
    change (e.workers ++ [_])[v]? = _
    rw [List.getElem?_append_left hlt, hx]
  fresh := by
    intro v x hnone hx
    have hle : e.workers.length ≤ v := List.getElem?_eq_none_iff.1 hnone
    change (e.workers ++ [_])[v]? = _ at hx
    rw [List.getElem?_append_right hle] at hx
    obtain ⟨hlt, heq⟩ := List.getElem?_eq_some_iff.1 hx
    exact ⟨id, driver, by rw [← heq, List.getElem_singleton], hopened⟩

theorem grows_dispatch (device_id : String) (check : DeviceTopology → Option DaemonError)
    (op : WorkerOp) (e : Supervisor D) : Grows opened e (e.dispatch device_id check op) := by
  unfold dispatch
  split
  · exact Grows.of_eq rfl
  · rename_i handle _
    split
    · exact Grows.of_eq rfl
    · unfold try_send
      by_cases hclosed : e.closed handle.tx = true
      · rw [if_pos hclosed]
        exact Grows.of_eq rfl
      · rw [if_neg hclosed]
        by_cases hroom : e.queued handle.tx < WORKER_CHANNEL_CAPACITY
        · rw [if_pos hroom]
          exact grows_push handle.tx op e
        · rw [if_neg hroom]
          exact Grows.of_eq rfl

variable [KeyboardDriver D]

theorem grows_device_connected (table : DriverTable W D) (turn : Turn) (world : W) (id : String)
    (vendor_id product_id : UInt16) (path : String) (e : Supervisor D) :
    Grows (Opens table) e
      (e.device_connected table turn world id vendor_id product_id path) := by
  unfold device_connected
  dsimp only
  split
  · exact Grows.of_eq rfl
  · unfold connect
    split
    · exact Grows.of_eq rfl
    · rename_i factory hfactory
      split
      · rename_i topology driver hopen
        have hspawn : Grows (Opens table) (e.cancel id) ((e.cancel id).spawnWorker id driver) :=
          grows_spawnWorker ⟨turn, world, vendor_id, product_id, path, factory, topology,
            hfactory, hopen⟩ id (e.cancel id)
        exact ⟨hspawn.kept, hspawn.fresh⟩
      · split
        · exact Grows.of_eq rfl
        · exact Grows.of_eq rfl

/-- A turn only queues operations for the workers there are, and the ones it
spawns own a driver that was just opened. -/
theorem handle_command_grows (table : DriverTable W D) (turn : Turn) (world : W)
    (envelope : Envelope) (e : Supervisor D) :
    Grows (Opens table) e (e.handle_command table turn world envelope) := by
  obtain ⟨sender, cmd⟩ := envelope
  cases cmd with
  | deviceConnected id vendor_id product_id path =>
      exact grows_device_connected table turn world id vendor_id product_id path e
  | deviceDisconnected id =>
      change Grows _ e (e.device_disconnected id)
      unfold device_disconnected
      dsimp only
      split <;> exact Grows.of_eq rfl
  | deviceError id err =>
      change Grows _ e (e.device_error turn id err)
      unfold device_error
      split
      · dsimp only
        split <;> exact Grows.of_eq rfl
      · exact Grows.of_eq rfl
  | deviceReattached id handle token =>
      change Grows _ e (e.device_reattached sender id handle token)
      unfold device_reattached
      split
      · split <;> exact Grows.of_eq rfl
      · exact Grows.of_eq rfl
  | listDevices reply => exact Grows.of_eq rfl
  | getDeviceInfo id reply => exact Grows.of_eq rfl
  | getDeviceIdentity id reply => exact Grows.of_eq rfl
  | shutdown => exact Grows.of_eq rfl
  | getKeycode id layer row col reply =>
      exact grows_dispatch id (bounded id layer row col) _ e
  | setKeycode id layer row col keycode reply =>
      exact grows_dispatch id (bounded id layer row col) _ e
  | commitToNvram id reply => exact grows_dispatch id unchecked (.commit reply) e
  | getMacro id offset length reply =>
      exact grows_dispatch id unchecked (.getMacro offset length reply) e
  | setMacro id offset data reply =>
      exact grows_dispatch id unchecked (.setMacro offset data reply) e
  | getLighting id channel value_id reply =>
      exact grows_dispatch id unchecked (.getLighting channel value_id reply) e
  | setLighting id channel value_id data reply =>
      exact grows_dispatch id unchecked (.setLighting channel value_id data reply) e

end Grows

end Supervisor

end Clackd.Engine
