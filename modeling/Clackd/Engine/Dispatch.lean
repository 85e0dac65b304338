import Clackd.Engine.System

/-!
# What a turn hands on

A turn of the supervisor hands on a request, or answers it with an error of its
own, or does something else.  Here is what that means for the channels of the
workers: at most one operation is queued, on the channel of the handle that is
registered, and only if it passes the check against the topology of that handle.

## Main results

* `handle_command_supplied`: a turn is one of the three cases of `Supplied`.
-/

namespace Clackd.Engine

open Clackd.Foundation Clackd.Hal
open Std (ExtTreeMap)

/-- An error that is not the driver's. -/
def DaemonError.isEngines : DaemonError → Bool
  | .driver _ => false
  | .deviceNotFound _ => true
  | .dbusRouting _ => true

/-- A reply that carries `DeviceNotFound` or `DbusRouting`. -/
def Reply.isRefusal : Reply → Bool
  | .keycode (.error err) => err.isEngines
  | .done (.error err) => err.isEngines
  | .bytes (.error err) => err.isEngines
  | .info (.error err) => err.isEngines
  | .identity (.error err) => err.isEngines
  | _ => false

/-- The request on this reply channel is answered with an error of the engine. -/
def Effect.refuses (reply : ReplyId) : Effect → Bool
  | .replied reply' r => reply' == reply && r.isRefusal
  | _ => false

/-- The operation that a worker starts on. -/
def Effect.starts (w : WorkerId) : Effect → Option WorkerOp
  | .began w' (.op op) => if w' = w then some op else none
  | _ => none

/-- A worker starts on the operation of this reply channel. -/
def Effect.executes (reply : ReplyId) : Effect → Bool
  | .began _ (.op op) => op.reply == reply
  | _ => false

/-- Whether a worker starts on a job. -/
def Effect.isBegan : Effect → Bool
  | .began _ _ => true
  | _ => false

theorem starts_of_not_began {x : Effect} (h : x.isBegan = false) (w : WorkerId) :
    x.starts w = none := by
  cases x with
  | began w' job => cases h
  | _ => rfl

theorem executes_of_not_began {x : Effect} (h : x.isBegan = false) (reply : ReplyId) :
    x.executes reply = false := by
  cases x with
  | began w' job => cases h
  | _ => rfl

/-- A forwarded operation has the reply channel of its request. -/
theorem forwarded_reply {cmd : EngineCommand} {id : String} {op : WorkerOp}
    (h : cmd.forwarded = some (id, op)) : cmd.replyTo = some op.reply := by
  cases cmd with
  | deviceConnected id v p path => cases h
  | deviceDisconnected id => cases h
  | deviceError id err => cases h
  | deviceReattached id handle token => cases h
  | listDevices reply => cases h
  | getDeviceInfo id reply => cases h
  | getDeviceIdentity id reply => cases h
  | shutdown => cases h
  | _ =>
      cases h
      rfl

namespace Supervisor

variable {W D : Type} [KeyboardDriver D]

/-- The ways a turn treats the workers and the handles. -/
inductive Supplied (cmd : EngineCommand) (e e' : Supervisor D) : Prop
  /-- No worker is touched; a handle that is new came with the command. -/
  | kept (effects : List Effect) (hworkers : e'.workers = e.workers)
      (hlog : e'.log = e.log ++ effects) (hquiet : ∀ x ∈ effects, x.isBegan = false)
      (hrefused : ∀ reply, effects.countP (Effect.refuses reply) ≤
        if cmd.replyTo = some reply then 1 else 0)
      (hdevices : ∀ (id : String) (handle : DeviceHandle),
        e'.registry.devices[id]? = some handle → e.registry.devices[id]? = some handle ∨
          ∃ token, cmd = .deviceReattached id handle token)
  /-- The operation of the request is queued. -/
  | pushed (id : String) (op : WorkerOp) (handle : DeviceHandle)
      (hcmd : cmd.forwarded = some (id, op))
      (hpresent : e.registry.devices[id]? = some handle)
      (hadmitted : op.admitted handle.topology = true) (hopen : e.closed handle.tx = false)
      (heq : e' = e.push handle.tx op)
  /-- A worker is spawned and its handle registered. -/
  | spawned (id : String) (driver : D) (topology : DeviceTopology) (handle : DeviceHandle)
      (hcmd : cmd.replyTo = none)
      (hprobe : ∃ turn fresh, probe turn fresh = .ok (topology, driver))
      (hworkers : e'.workers = e.workers ++ [Worker.spawn id driver])
      (hdevices : e'.registry.devices = e.registry.devices.insert id handle)
      (htx : handle.tx = e.workers.length) (htopology : handle.topology = topology)
      (hlog : e'.log = e.log ++ [.attached id handle.tx, .lifecycle (.deviceAdded id)])

/-- A turn without answers that registers nothing. -/
theorem supplied_of_plain {cmd : EngineCommand} {e e' : Supervisor D} (effects : List Effect)
    (hworkers : e'.workers = e.workers) (hlog : e'.log = e.log ++ effects)
    (hquiet : ∀ x ∈ effects, x.isBegan = false)
    (hunanswered : ∀ x ∈ effects, ∀ reply, x.refuses reply = false)
    (hdevices : ∀ (id : String) (handle : DeviceHandle),
      e'.registry.devices[id]? = some handle → e.registry.devices[id]? = some handle) :
    Supplied cmd e e' := by
  refine .kept effects hworkers hlog hquiet ?_ fun id handle h => .inl (hdevices id handle h)
  intro reply
  rw [List.countP_eq_zero.2]
  · exact Nat.zero_le _
  · intro x hx
    simp [hunanswered x hx reply]

omit [KeyboardDriver D] in
/-- An entry that is gone takes no other with it. -/
theorem devices_of_erase {e : Supervisor D} {id id' : String} {handle : DeviceHandle}
    (h : (e.registry.devices.erase id)[id']? = some handle) :
    e.registry.devices[id']? = some handle := by
  rw [lookup_erase] at h
  split at h
  · cases h
  · exact h

/-- One answer on the reply channel of the request. -/
theorem countP_refuses_answer {cmd : EngineCommand} {reply : ReplyId}
    (hcmd : cmd.replyTo = some reply) (r : Reply) (other : ReplyId) :
    [Effect.replied reply r].countP (Effect.refuses other) ≤
      if cmd.replyTo = some other then 1 else 0 := by
  rw [hcmd]
  by_cases h : reply = other
  · subst h
    simp only [if_true]
    exact List.countP_le_length
  · simp [Effect.refuses, h]

theorem supplied_of_answer {cmd : EngineCommand} {e : Supervisor D} {reply : ReplyId}
    (hcmd : cmd.replyTo = some reply) (r : Reply) :
    Supplied cmd e (e.emit [.replied reply r]) := by
  refine .kept [.replied reply r] rfl rfl ?_ (countP_refuses_answer hcmd r)
    fun id handle h => .inl h
  intro x hx
  rw [List.mem_singleton.1 hx]
  rfl

theorem dispatch_supplied {cmd : EngineCommand} {device_id : String}
    {check : DeviceTopology → Option DaemonError} {op : WorkerOp} (e : Supervisor D)
    (hcmd : cmd.forwarded = some (device_id, op))
    (hcheck : ∀ t, check t = none ↔ op.admitted t = true) :
    Supplied cmd e (e.dispatch device_id check op) := by
  have hreply := forwarded_reply hcmd
  unfold dispatch
  split
  · exact supplied_of_answer hreply _
  · rename_i handle hpresent
    split
    · exact supplied_of_answer hreply _
    · rename_i hnone
      have hadmitted := (hcheck handle.topology).1 hnone
      by_cases hclosed : e.closed handle.tx = true
      · rw [try_send, if_pos hclosed]
        -- The eviction: the handle goes, and the request is answered.
        refine .kept [.detached device_id handle.tx, .replied op.reply
          (op.refusal (.deviceNotFound device_id))] rfl (List.append_assoc _ _ _) ?_ ?_ ?_
        · intro x hx
          rcases List.mem_cons.1 hx with rfl | hx
          · rfl
          · rw [List.mem_singleton.1 hx]
            rfl
        · intro other
          rw [List.countP_cons_of_neg (by simp [Effect.refuses])]
          exact countP_refuses_answer hreply _ other
        · intro id handle' h
          exact .inl (devices_of_erase h)
      · by_cases hroom : e.queued handle.tx < WORKER_CHANNEL_CAPACITY
        · rw [try_send, if_neg hclosed, if_pos hroom]
          exact .pushed device_id op handle hcmd hpresent hadmitted
            (Bool.not_eq_true _ ▸ hclosed) rfl
        · rw [try_send, if_neg hclosed, if_neg hroom]
          exact supplied_of_answer hreply _

theorem device_connected_supplied (table : DriverTable W D) (turn : Turn) (world : W) (id : String)
    (vendor_id product_id : UInt16) (path : String) (e : Supervisor D) :
    Supplied (.deviceConnected id vendor_id product_id path) e
      (e.device_connected table turn world id vendor_id product_id path) := by
  -- Where nothing is attached or started, the turn has only cancelled.
  have hcancelled : Supplied (.deviceConnected id vendor_id product_id path) e (e.cancel id) :=
    supplied_of_plain [] rfl (List.append_nil _).symm (by simp) (by simp) fun _ _ h => h
  unfold device_connected
  by_cases hmem : (e.cancel id).registry.devices.contains id = true
  · rw [if_pos hmem]
    exact hcancelled
  · rw [if_neg hmem]
    unfold connect
    split
    · exact hcancelled
    · split
      · rename_i factory _ topology driver hopen
        refine .spawned id driver topology _ rfl ?_ rfl rfl rfl rfl rfl
        unfold openDevice at hopen
        split at hopen
        · exact ⟨turn, _, hopen⟩
        · cases hopen
      · split
        · exact supplied_of_plain [.started id e.tasks.length] rfl rfl
            (by simp [Effect.isBegan]) (by simp [Effect.refuses]) fun _ _ h => h
        · exact hcancelled

theorem device_disconnected_supplied (id : String) (e : Supervisor D) :
    Supplied (.deviceDisconnected id) e (e.device_disconnected id) := by
  unfold device_disconnected
  dsimp only
  split
  · rename_i handle hpresent
    exact supplied_of_plain [.detached id handle.tx, .lifecycle (.deviceRemoved id)] rfl
      (List.append_assoc _ _ _) (by simp [Effect.isBegan]) (by simp [Effect.refuses])
      fun _ _ h => devices_of_erase h
  · exact supplied_of_plain [] rfl (List.append_nil _).symm (by simp) (by simp) fun _ _ h => h

theorem device_error_supplied (turn : Turn) (id : String) (err : DaemonError)
    (e : Supervisor D) : Supplied (.deviceError id err) e (e.device_error turn id err) := by
  unfold device_error
  split
  · rename_i handle hpresent
    by_cases herr : err = .driver .disconnected
    · rw [if_pos herr]
      refine supplied_of_plain [.detached id handle.tx, .lifecycle (.deviceRemoved id),
        .started id e.tasks.length] rfl ?_ (by simp [Effect.isBegan]) (by simp [Effect.refuses])
        fun _ _ h => devices_of_erase h
      exact (List.append_assoc _ _ _).trans (List.append_assoc _ _ _)
    · rw [if_neg herr]
      exact supplied_of_plain [.detached id handle.tx, .lifecycle (.deviceRemoved id)] rfl
        (List.append_assoc _ _ _) (by simp [Effect.isBegan]) (by simp [Effect.refuses])
        fun _ _ h => devices_of_erase h
  · exact supplied_of_plain [] rfl (List.append_nil _).symm (by simp) (by simp) fun _ _ h => h

theorem device_reattached_supplied (sender : Origin) (id : String) (handle : DeviceHandle)
    (token : UInt64) (e : Supervisor D) :
    Supplied (.deviceReattached id handle token) e
      (e.device_reattached sender id handle token) := by
  have hignored : Supplied (.deviceReattached id handle token) e e :=
    supplied_of_plain [] rfl (List.append_nil _).symm (by simp) (by simp) fun _ _ h => h
  unfold device_reattached
  split
  · split
    · refine .kept [.accepted id sender, .attached id handle.tx, .lifecycle (.deviceAdded id)] rfl
        (List.append_assoc _ _ _) (by simp [Effect.isBegan]) (by simp [Effect.refuses]) ?_
      intro id' handle' h
      change (e.registry.devices.insert id handle)[id']? = some handle' at h
      rw [lookup_insert] at h
      split at h
      · rename_i hid
        cases h
        exact .inr ⟨token, by rw [hid]⟩
      · exact .inl h
    · exact hignored
  · exact hignored

/-- A turn is one of the three cases. -/
theorem handle_command_supplied (table : DriverTable W D) (turn : Turn) (world : W)
    (envelope : Envelope) (e : Supervisor D) :
    Supplied envelope.cmd e (e.handle_command table turn world envelope) := by
  obtain ⟨sender, cmd⟩ := envelope
  cases cmd with
  | getKeycode id layer row col reply => exact dispatch_supplied e rfl fun _ => bounded_eq_none
  | setKeycode id layer row col keycode reply =>
      exact dispatch_supplied e rfl fun _ => bounded_eq_none
  | deviceConnected id vendor_id product_id path =>
      exact device_connected_supplied table turn world id vendor_id product_id path e
  | deviceDisconnected id => exact device_disconnected_supplied id e
  | deviceError id err => exact device_error_supplied turn id err e
  | deviceReattached id handle token => exact device_reattached_supplied sender id handle token e
  | listDevices reply => exact supplied_of_answer rfl _
  | getDeviceInfo id reply => exact supplied_of_answer rfl _
  | getDeviceIdentity id reply => exact supplied_of_answer rfl _
  | commitToNvram id reply => exact dispatch_supplied e rfl fun _ => ⟨fun _ => rfl, fun _ => rfl⟩
  | getMacro id offset length reply =>
      exact dispatch_supplied e rfl fun _ => ⟨fun _ => rfl, fun _ => rfl⟩
  | setMacro id offset data reply =>
      exact dispatch_supplied e rfl fun _ => ⟨fun _ => rfl, fun _ => rfl⟩
  | getLighting id channel value_id reply =>
      exact dispatch_supplied e rfl fun _ => ⟨fun _ => rfl, fun _ => rfl⟩
  | setLighting id channel value_id data reply =>
      exact dispatch_supplied e rfl fun _ => ⟨fun _ => rfl, fun _ => rfl⟩
  | shutdown =>
      exact supplied_of_plain [] rfl (List.append_nil _).symm (by simp) (by simp) fun _ _ h => h

end Supervisor

end Clackd.Engine
