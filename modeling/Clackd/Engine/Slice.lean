import Clackd.Engine.System
import Clackd.Foundation.Rank

/-!
# The part of one device

What the engine holds for one device: its entries of the two tables, its workers
and its reconnect tasks.  Taken alone it is a supervisor again, in which workers,
tasks and tokens are numbered as if the other devices had never been there.

## Main results

* `Supervisor.Rooted`: handles, tokens and tasks belong to the device they are
  filed under.
* `names_worker`, `names_task`: the new numbers of what there is do not depend on
  what comes later.
-/

namespace Clackd.Engine

open Clackd.Foundation Clackd.Hal
open Std (ExtTreeMap)

/-! ## New numbers -/

/-- New numbers for workers and tasks. -/
structure Names where
  worker : WorkerId → WorkerId
  task : TaskId → TaskId

namespace Names

variable (n : Names)

/-- A token is the number of a task. -/
def token (token : UInt64) : UInt64 := UInt64.ofNat (n.task token.toNat)

def handle (handle : DeviceHandle) : DeviceHandle := { handle with tx := n.worker handle.tx }

def origin : Origin → Origin
  | .worker w => .worker (n.worker w)
  | .task k => .task (n.task k)
  | origin => origin

def command : EngineCommand → EngineCommand
  | .deviceReattached device_id handle token =>
      .deviceReattached device_id (n.handle handle) (n.token token)
  | cmd => cmd

def envelope (envelope : Envelope) : Envelope :=
  ⟨n.origin envelope.origin, n.command envelope.cmd⟩

def phase : TaskPhase → TaskPhase
  | .sending handle => .sending (n.handle handle)
  | phase => phase

def reconnect (t : ReconnectTask) : ReconnectTask :=
  { t with
    ctx := { t.ctx with token := n.token t.ctx.token }
    phase := n.phase t.phase }

def effect : Effect → Effect
  | .handled envelope => .handled (n.envelope envelope)
  | .attached device_id w => .attached device_id (n.worker w)
  | .detached device_id w => .detached device_id (n.worker w)
  | .started device_id k => .started device_id (n.task k)
  | .accepted device_id sender => .accepted device_id (n.origin sender)
  | .began w job => .began (n.worker w) job
  | .called w job ok => .called (n.worker w) job ok
  | .woke w wakeup => .woke (n.worker w) wakeup
  | .lifecycle event => .lifecycle event
  | .replied reply r => .replied reply r

end Names

/-- The device a command is about. -/
def EngineCommand.device : EngineCommand → Option String
  | .getKeycode device_id _ _ _ _ => some device_id
  | .setKeycode device_id _ _ _ _ _ => some device_id
  | .deviceConnected device_id _ _ _ => some device_id
  | .deviceDisconnected device_id => some device_id
  | .deviceError device_id _ => some device_id
  | .deviceReattached device_id _ _ => some device_id
  | .getDeviceInfo device_id _ => some device_id
  | .getDeviceIdentity device_id _ => some device_id
  | .commitToNvram device_id _ => some device_id
  | .getMacro device_id _ _ _ => some device_id
  | .setMacro device_id _ _ _ => some device_id
  | .getLighting device_id _ _ _ => some device_id
  | .setLighting device_id _ _ _ _ => some device_id
  | .listDevices _ => none
  | .shutdown => none

/-- The device a reconnect task is for. -/
def ReconnectTask.device_id (t : ReconnectTask) : String := t.ctx.device_id

namespace Supervisor

variable {D : Type} (b : String)

/-- The numbers of the workers and tasks of a device among themselves. -/
def names (e : Supervisor D) : Names where
  worker := rank (e.workers.map Worker.device_id) b
  task := rank (e.tasks.map ReconnectTask.device_id) b

/-- The part of one device, with a record of its own. -/
def only (log : List Effect) (e : Supervisor D) : Supervisor D where
  registry := {
    devices := entry b (e.registry.devices[b]?.map (e.names b).handle)
    reconnecting := entry b (e.registry.reconnecting[b]?.map fun r =>
      ((e.names b).task r.1, (e.names b).token r.2))
    next_reconnect_token := UInt64.ofNat (slice ReconnectTask.device_id b e.tasks).length }
  workers := slice Worker.device_id b e.workers
  tasks := (slice ReconnectTask.device_id b e.tasks).map (e.names b).reconnect
  log := log

variable {b}

/-- The worker is there, and its device is this one. -/
def Serves (e : Supervisor D) (w : WorkerId) (id : String) : Prop :=
  ∃ x, e.workers[w]? = some x ∧ x.device_id = id

/-- The task is there, and its device is this one. -/
def Tries (e : Supervisor D) (k : TaskId) (id : String) : Prop :=
  ∃ t, e.tasks[k]? = some t ∧ t.ctx.device_id = id

/-- Handles, tokens and tasks belong to the device they are filed under. -/
structure Rooted (e : Supervisor D) : Prop where
  bound : e.tasks.length < 2 ^ 64
  next : e.registry.next_reconnect_token = UInt64.ofNat e.tasks.length
  token : ∀ (k : TaskId) (t : ReconnectTask), e.tasks[k]? = some t →
    t.ctx.token = UInt64.ofNat k
  sending : ∀ (k : TaskId) (t : ReconnectTask) (handle : DeviceHandle), e.tasks[k]? = some t →
    t.phase = .sending handle → e.Serves handle.tx t.ctx.device_id
  device : ∀ (id : String) (handle : DeviceHandle),
    e.registry.devices[id]? = some handle → e.Serves handle.tx id
  reconnecting : ∀ (id : String) (k : TaskId) (token : UInt64),
    e.registry.reconnecting[id]? = some (k, token) → e.Tries k id ∧ token = UInt64.ofNat k

/-! ## Numbers that stay -/

/-- The workers and tasks there were are still there, under their devices. -/
structure Extends (e e' : Supervisor D) : Prop where
  workers : ∃ more, e'.workers.map Worker.device_id = e.workers.map Worker.device_id ++ more
  tasks : ∃ more,
    e'.tasks.map ReconnectTask.device_id = e.tasks.map ReconnectTask.device_id ++ more

theorem Extends.of_eq {e e' : Supervisor D} (hworkers : e'.workers = e.workers)
    (htasks : e'.tasks = e.tasks) : Extends e e' :=
  ⟨⟨[], by simp [hworkers]⟩, ⟨[], by simp [htasks]⟩⟩

theorem Extends.trans {e e' e'' : Supervisor D} (h : Extends e e') (h' : Extends e' e'') :
    Extends e e'' := by
  obtain ⟨⟨workers, hworkers⟩, ⟨tasks, htasks⟩⟩ := h
  obtain ⟨⟨workers', hworkers'⟩, ⟨tasks', htasks'⟩⟩ := h'
  exact ⟨⟨workers ++ workers', by rw [hworkers', hworkers, List.append_assoc]⟩,
    ⟨tasks ++ tasks', by rw [htasks', htasks, List.append_assoc]⟩⟩

theorem Serves.key {e : Supervisor D} {w : WorkerId} {id : String} (h : e.Serves w id) :
    (e.workers.map Worker.device_id)[w]? = some id := by
  obtain ⟨x, hx, rfl⟩ := h
  simp [hx]

theorem Tries.key {e : Supervisor D} {k : TaskId} {id : String} (h : e.Tries k id) :
    (e.tasks.map ReconnectTask.device_id)[k]? = some id := by
  obtain ⟨t, ht, rfl⟩ := h
  simp [ht, ReconnectTask.device_id]

theorem Serves.lt {e : Supervisor D} {w : WorkerId} {id : String} (h : e.Serves w id) :
    w < e.workers.length := by
  obtain ⟨x, hx, -⟩ := h
  exact (List.getElem?_eq_some_iff.1 hx).1

theorem Tries.lt {e : Supervisor D} {k : TaskId} {id : String} (h : e.Tries k id) :
    k < e.tasks.length := by
  obtain ⟨t, ht, -⟩ := h
  exact (List.getElem?_eq_some_iff.1 ht).1

theorem Serves.mono {e e' : Supervisor D} {w : WorkerId} {id : String} (h : e.Serves w id)
    (hext : Extends e e') : e'.Serves w id := by
  obtain ⟨more, hmore⟩ := hext.workers
  have hkey : (e'.workers.map Worker.device_id)[w]? = some id := by
    rw [hmore, List.getElem?_append_left (by simpa using h.lt)]
    exact h.key
  rw [List.getElem?_map, Option.map_eq_some_iff] at hkey
  exact hkey

theorem Tries.mono {e e' : Supervisor D} {k : TaskId} {id : String} (h : e.Tries k id)
    (hext : Extends e e') : e'.Tries k id := by
  obtain ⟨more, hmore⟩ := hext.tasks
  have hkey : (e'.tasks.map ReconnectTask.device_id)[k]? = some id := by
    rw [hmore, List.getElem?_append_left (by simpa using h.lt)]
    exact h.key
  rw [List.getElem?_map, Option.map_eq_some_iff] at hkey
  exact hkey

theorem names_worker {e e' : Supervisor D} (hext : Extends e e') {w : WorkerId}
    (h : w ≤ e.workers.length) : (e'.names b).worker w = (e.names b).worker w := by
  obtain ⟨more, hmore⟩ := hext.workers
  show rank _ b w = rank _ b w
  rw [hmore, rank_append more (by simpa using h)]

theorem names_task {e e' : Supervisor D} (hext : Extends e e') {k : TaskId}
    (h : k ≤ e.tasks.length) : (e'.names b).task k = (e.names b).task k := by
  obtain ⟨more, hmore⟩ := hext.tasks
  show rank _ b k = rank _ b k
  rw [hmore, rank_append more (by simpa using h)]

theorem names_handle {e e' : Supervisor D} (hext : Extends e e') {handle : DeviceHandle}
    {id : String} (h : e.Serves handle.tx id) :
    (e'.names b).handle handle = (e.names b).handle handle := by
  rw [Names.handle, names_worker hext (Nat.le_of_lt h.lt)]
  rfl

/-- The number in a token of a task. -/
theorem token_toNat {e : Supervisor D} (hr : e.Rooted) {k : TaskId} (h : k ≤ e.tasks.length) :
    (UInt64.ofNat k).toNat = k :=
  UInt64.toNat_ofNat_of_lt' (Nat.lt_of_le_of_lt h hr.bound)

theorem names_token {e : Supervisor D} (hr : e.Rooted) {k : TaskId} (h : k ≤ e.tasks.length) :
    (e.names b).token (UInt64.ofNat k) = UInt64.ofNat ((e.names b).task k) := by
  rw [Names.token, token_toNat hr h]

theorem names_token_mono {e e' : Supervisor D} (hr : e.Rooted) (hext : Extends e e') {k : TaskId}
    (h : k ≤ e.tasks.length) :
    (e'.names b).token (UInt64.ofNat k) = (e.names b).token (UInt64.ofNat k) := by
  rw [names_token hr h, Names.token, token_toNat hr h, names_task hext h]

theorem names_reconnect {e e' : Supervisor D} (hr : e.Rooted) (hext : Extends e e') {k : TaskId}
    {t : ReconnectTask} (ht : e.tasks[k]? = some t) :
    (e'.names b).reconnect t = (e.names b).reconnect t := by
  have hlt : k < e.tasks.length := (List.getElem?_eq_some_iff.1 ht).1
  have htoken : (e'.names b).token t.ctx.token = (e.names b).token t.ctx.token := by
    rw [hr.token k t ht, names_token_mono hr hext (Nat.le_of_lt hlt)]
  have hphase : (e'.names b).phase t.phase = (e.names b).phase t.phase := by
    cases hp : t.phase with
    | sending handle =>
        exact congrArg TaskPhase.sending (names_handle hext (hr.sending k t handle ht hp))
    | _ => rfl
  rw [Names.reconnect, htoken, hphase]
  rfl

/-- Different workers of the device have different numbers. -/
theorem names_worker_injective {e : Supervisor D} {v w : WorkerId} (hv : e.Serves v b)
    (hw : e.Serves w b) (h : (e.names b).worker v = (e.names b).worker w) : v = w :=
  rank_injective hv.key hw.key h

theorem names_task_injective {e : Supervisor D} {j k : TaskId} (hj : e.Tries j b)
    (hk : e.Tries k b) (h : (e.names b).task j = (e.names b).task k) : j = k :=
  rank_injective hj.key hk.key h

/-! ## Turns that another device sees nothing of -/

/-- A change that leaves the part of the device as it is. -/
structure Unseen (b : String) (e e' : Supervisor D) : Prop where
  ext : Extends e e'
  workers : slice Worker.device_id b e'.workers = slice Worker.device_id b e.workers
  tasks : slice ReconnectTask.device_id b e'.tasks = slice ReconnectTask.device_id b e.tasks
  device : e'.registry.devices[b]? = e.registry.devices[b]?
  reconnecting : e'.registry.reconnecting[b]? = e.registry.reconnecting[b]?

theorem Unseen.refl (e : Supervisor D) : Unseen b e e := ⟨Extends.of_eq rfl rfl, rfl, rfl, rfl, rfl⟩

theorem Unseen.trans {e e' e'' : Supervisor D} (h : Unseen b e e') (h' : Unseen b e' e'') :
    Unseen b e e'' :=
  ⟨h.ext.trans h'.ext, h'.workers.trans h.workers, h'.tasks.trans h.tasks,
    h'.device.trans h.device, h'.reconnecting.trans h.reconnecting⟩

section Maps

variable {e e' : Supervisor D} (hr : e.Rooted) (hext : Extends e e')
include hr hext

theorem map_names_device :
    e.registry.devices[b]?.map (e'.names b).handle =
      e.registry.devices[b]?.map (e.names b).handle := by
  apply Option.map_congr
  intro handle hhandle
  exact names_handle hext (hr.device b handle hhandle)

theorem map_names_reconnecting :
    (e.registry.reconnecting[b]?.map fun r => ((e'.names b).task r.1, (e'.names b).token r.2)) =
      e.registry.reconnecting[b]?.map fun r => ((e.names b).task r.1, (e.names b).token r.2) := by
  apply Option.map_congr
  intro r hentry
  obtain ⟨htries, htoken⟩ := hr.reconnecting b r.1 r.2 hentry
  have hle := Nat.le_of_lt htries.lt
  rw [htoken, names_token_mono hr hext hle, names_task hext hle]

theorem map_names_tasks :
    (slice ReconnectTask.device_id b e.tasks).map (e'.names b).reconnect =
      (slice ReconnectTask.device_id b e.tasks).map (e.names b).reconnect := by
  apply List.map_congr_left
  intro t ht
  obtain ⟨k, hk⟩ := List.getElem?_of_mem (List.mem_filter.1 ht).1
  exact names_reconnect hr hext hk

end Maps

/-- The part of the device in a state that keeps everything the part is made of. -/
theorem only_of_unseen {e e' : Supervisor D} (hr : e.Rooted) (h : Unseen b e e')
    (log : List Effect) : e'.only b log = e.only b log := by
  simp only [only, h.device, h.reconnecting, h.tasks, h.workers, map_names_device hr h.ext,
    map_names_reconnecting hr h.ext, map_names_tasks hr h.ext]

end Supervisor

end Clackd.Engine
