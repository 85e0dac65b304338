import Clackd.Engine.Worker

/-!
# The registry and the supervisor's handlers

`handle_command` is one turn of the supervisor's loop: it takes one command and
changes the registry, spawns workers and reconnect tasks, forwards operations
to worker channels and answers requests.  The opened device nodes are behind
`DriverFactory`, whose result depends on a world the run supplies.

Cancelling a reconnect task is dropping its entry of `registry.reconnecting`:
the entry holds the only sender of the cancel channel.

What a turn can do, case by case, is proved in `Clackd.Engine.Handled`.
-/

namespace Clackd.Engine

open Clackd.Foundation Clackd.Hal
open Std (ExtTreeMap)

/-- Initial backoff delay for device reconnection, in milliseconds. -/
def RECONNECT_INITIAL_BACKOFF_MS : Nat := 100

/-- Maximum backoff delay between reconnection attempts. -/
def RECONNECT_MAX_BACKOFF_MS : Nat := 5000

/-- Maximum number of reconnection attempts before giving up. -/
def RECONNECT_MAX_ATTEMPTS : Nat := 8

/-- Opens a device node. -/
abbrev DriverFactory (W D : Type) : Type := W → String → Except DaemonError D

/-- Driver selection. -/
structure DriverTable (W D : Type) where
  by_vid_pid : UInt16 × UInt16 → Option (DriverFactory W D)
  via_fallback : Option (DriverFactory W D)

/-- The factory for a device: its own, or the fallback. -/
def DriverTable.factory {W D : Type} (table : DriverTable W D) (vendor_id product_id : UInt16) :
    Option (DriverFactory W D) :=
  (table.by_vid_pid (vendor_id, product_id)).or table.via_fallback

/-- The set of currently attached devices, and the reconnect tasks in charge of
the lost ones. -/
structure DeviceRegistry where
  devices : ExtTreeMap String DeviceHandle
  reconnecting : ExtTreeMap String (TaskId × UInt64)
  next_reconnect_token : UInt64

/-- The context needed by the reconnection loop. -/
structure ReconnectCtx where
  device_id : String
  vendor_id : UInt16
  product_id : UInt16
  hidraw_path : String
  token : UInt64
  deriving DecidableEq, Repr

/-- Where a reconnect task is in its loop. -/
inductive TaskPhase where
  | sleeping (wake_at : Nat)
  /-- Awaiting a free slot of the engine channel for its `DeviceReattached`. -/
  | sending (handle : DeviceHandle)
  | returned
  deriving DecidableEq, Repr

/-- A reconnect task. -/
structure ReconnectTask where
  ctx : ReconnectCtx
  backoff : Nat
  attempts : Nat
  phase : TaskPhase
  deriving DecidableEq, Repr

/-- The supervisor's registry, all the tasks it ever spawned, and the record of
the run. -/
structure Supervisor (D : Type) where
  registry : DeviceRegistry
  workers : List (Worker D)
  tasks : List ReconnectTask
  log : List Effect

/-- Why `try_send` failed. -/
inductive TrySendError where
  | full (op : WorkerOp)
  | closed (op : WorkerOp)

namespace Supervisor

variable {W D : Type}

/-- The state `run_supervisor` starts in. -/
def new : Supervisor D where
  registry := ⟨∅, ∅, 0⟩
  workers := []
  tasks := []
  log := []

/-- Record effects. -/
def emit (effects : List Effect) (e : Supervisor D) : Supervisor D := { e with log := e.log ++ effects }

/-- Whether a worker's receiver is dropped. -/
def closed (e : Supervisor D) (w : WorkerId) : Bool :=
  match e.workers[w]? with
  | some x => x.phase = .gone
  | none => true

/-- Queue an operation on a worker's channel. -/
def push (w : WorkerId) (op : WorkerOp) (e : Supervisor D) : Supervisor D :=
  { e with workers := e.workers.modify w fun x => { x with rx := x.rx ++ [op] } }

/-- The number of operations queued on a worker's channel. -/
def queued (e : Supervisor D) (w : WorkerId) : Nat :=
  match e.workers[w]? with
  | some x => x.rx.length
  | none => 0

/-- `mpsc::Sender::try_send`: a closed channel is reported before a full one. -/
def try_send (w : WorkerId) (op : WorkerOp) (e : Supervisor D) : Except TrySendError (Supervisor D) :=
  if e.closed w then .error (.closed op)
  else if e.queued w < WORKER_CHANNEL_CAPACITY then .ok (e.push w op)
  else .error (.full op)

/-! ## Dispatch to workers -/

/-- Send an error on the reply channel of an operation. -/
def reply_with_error (op : WorkerOp) (err : DaemonError) (e : Supervisor D) : Supervisor D :=
  e.emit [.replied op.reply (op.refusal err)]

/-- Take a handle out of the registry. -/
def detach (device_id : String) (handle : DeviceHandle) (e : Supervisor D) : Supervisor D :=
  { e with
    registry := { e.registry with devices := e.registry.devices.erase device_id }
    log := e.log ++ [.detached device_id handle.tx] }

/-- Translates a `try_send` failure back to the caller.  A closed channel
evicts the handle. -/
def surface_worker_send_failure (err : TrySendError) (device_id : String)
    (handle : DeviceHandle) (e : Supervisor D) : Supervisor D :=
  match err with
  | .full op => e.reply_with_error op (.dbusRouting s!"device `{device_id}` is busy")
  | .closed op => (e.detach device_id handle).reply_with_error op (.deviceNotFound device_id)

def out_of_bounds (device_id : String) (layer row col : UInt8) : DaemonError :=
  .dbusRouting
    s!"(layer={layer}, row={row}, col={col}) out of bounds for device `{device_id}`"

/-- What the dispatchers have in common: the device must be registered, the
operation must pass its check, and its worker must take it. -/
def dispatch (device_id : String) (check : DeviceTopology → Option DaemonError) (op : WorkerOp)
    (e : Supervisor D) : Supervisor D :=
  match e.registry.devices[device_id]? with
  | none => e.reply_with_error op (.deviceNotFound device_id)
  | some handle =>
      match check handle.topology with
      | some err => e.reply_with_error op err
      | none =>
          match e.try_send handle.tx op with
          | .ok e' => e'
          | .error err => e.surface_worker_send_failure err device_id handle

/-- The check of keycode requests. -/
def bounded (device_id : String) (layer row col : UInt8) (t : DeviceTopology) :
    Option DaemonError :=
  if t.contains layer row col then none else some (out_of_bounds device_id layer row col)

/-- The check of all other requests. -/
def unchecked (_ : DeviceTopology) : Option DaemonError := none

def dispatch_get (device_id : String) (layer row col : UInt8) (reply : ReplyId) :
    Supervisor D → Supervisor D :=
  dispatch device_id (bounded device_id layer row col) (.getKeycode layer row col reply)

def dispatch_set (device_id : String) (layer row col : UInt8) (keycode : UInt16)
    (reply : ReplyId) : Supervisor D → Supervisor D :=
  dispatch device_id (bounded device_id layer row col) (.setKeycode layer row col keycode reply)

def dispatch_commit (device_id : String) (reply : ReplyId) : Supervisor D → Supervisor D :=
  dispatch device_id unchecked (.commit reply)

def dispatch_macro_get (device_id : String) (offset : UInt16) (length : UInt8)
    (reply : ReplyId) : Supervisor D → Supervisor D :=
  dispatch device_id unchecked (.getMacro offset length reply)

def dispatch_macro_set (device_id : String) (offset : UInt16) (data : List UInt8)
    (reply : ReplyId) : Supervisor D → Supervisor D :=
  dispatch device_id unchecked (.setMacro offset data reply)

def dispatch_lighting_get (device_id : String) (channel value_id : UInt8) (reply : ReplyId) :
    Supervisor D → Supervisor D :=
  dispatch device_id unchecked (.getLighting channel value_id reply)

def dispatch_lighting_set (device_id : String) (channel value_id : UInt8) (data : List UInt8)
    (reply : ReplyId) : Supervisor D → Supervisor D :=
  dispatch device_id unchecked (.setLighting channel value_id data reply)

/-! ## Attaching and reconnecting -/

/-- The topology queries of `attach_device`. -/
def probe [KeyboardDriver D] (turn : Turn) (driver : D) :
    Except DaemonError (DeviceTopology × D) :=
  match exec (KeyboardDriver.get_matrix_dimensions turn) driver with
  | (.error err, _) => .error (.driver err)
  | (.ok (rows, cols), driver) =>
      match exec (KeyboardDriver.get_layer_count turn) driver with
      | (.error err, _) => .error (.driver err)
      | (.ok layer_count, driver) => .ok (⟨⟨rows, cols⟩, layer_count⟩, driver)

/-- Open a device node and query its topology. -/
def openDevice [KeyboardDriver D] (turn : Turn) (world : W) (factory : DriverFactory W D)
    (hidraw_path : String) : Except DaemonError (DeviceTopology × D) :=
  match factory world hidraw_path with
  | .ok driver => probe turn driver
  | .error err => .error err

/-- Spawn the worker of an opened device. -/
def spawnWorker (device_id : String) (driver : D) (e : Supervisor D) : Supervisor D :=
  { e with workers := e.workers ++ [Worker.spawn device_id driver] }

/-- The handle of the worker that is spawned next. -/
def handleOf [KeyboardDriver D] (e : Supervisor D) (topology : DeviceTopology) (driver : D)
    (vendor_id product_id : UInt16) (hidraw_path : String) : DeviceHandle where
  topology := topology
  model := KeyboardDriver.model_name driver
  tx := e.workers.length
  vendor_id := vendor_id
  product_id := product_id
  hidraw_path := hidraw_path

/-- `registry.devices.insert`, with the `DeviceAdded` event that follows it. -/
def attach (device_id : String) (handle : DeviceHandle) (e : Supervisor D) : Supervisor D :=
  { e with
    registry := { e.registry with devices := e.registry.devices.insert device_id handle }
    log := e.log ++ [.attached device_id handle.tx, .lifecycle (.deviceAdded device_id)] }

/-- `registry.reconnecting.remove`, which cancels the task. -/
def cancel (device_id : String) (e : Supervisor D) : Supervisor D :=
  { e with
    registry := { e.registry with reconnecting := e.registry.reconnecting.erase device_id } }

/-- Registers a cancellation handle and spawns the reconnect task. -/
def start_reconnect_backoff (turn : Turn) (ctx : ReconnectCtx) (e : Supervisor D) : Supervisor D :=
  let token := e.registry.next_reconnect_token
  { e with
    registry := { e.registry with
      next_reconnect_token := token + 1
      reconnecting := e.registry.reconnecting.insert ctx.device_id (e.tasks.length, token) }
    tasks := e.tasks ++ [{
      ctx := { ctx with token := token }
      backoff := RECONNECT_INITIAL_BACKOFF_MS
      attempts := 0
      phase := .sleeping (turn.now + RECONNECT_INITIAL_BACKOFF_MS) }]
    log := e.log ++ [.started ctx.device_id e.tasks.length] }

/-! ## The arms of `handle_command` -/

section Arms

variable [KeyboardDriver D]

/-- `DeviceConnected`, once it is known not to be a duplicate. -/
def connect (table : DriverTable W D) (turn : Turn) (world : W) (device_id : String)
    (vendor_id product_id : UInt16) (hidraw_path : String) (e : Supervisor D) : Supervisor D :=
  match table.factory vendor_id product_id with
  | none => e
  | some factory =>
      match openDevice turn world factory hidraw_path with
      | .ok (topology, driver) =>
          (e.spawnWorker device_id driver).attach device_id
            (e.handleOf topology driver vendor_id product_id hidraw_path)
      | .error err =>
          if is_transient_attach_error err then
            e.start_reconnect_backoff turn
              ⟨device_id, vendor_id, product_id, hidraw_path, 0⟩
          else
            e

def device_connected (table : DriverTable W D) (turn : Turn) (world : W) (device_id : String)
    (vendor_id product_id : UInt16) (hidraw_path : String) (e : Supervisor D) : Supervisor D :=
  let e := e.cancel device_id
  if e.registry.devices.contains device_id then e
  else e.connect table turn world device_id vendor_id product_id hidraw_path

omit [KeyboardDriver D] in
def device_disconnected (device_id : String) (e : Supervisor D) : Supervisor D :=
  let e := e.cancel device_id
  match e.registry.devices[device_id]? with
  | some handle =>
      (e.detach device_id handle).emit [.lifecycle (.deviceRemoved device_id)]
  | none => e

omit [KeyboardDriver D] in
def device_error (turn : Turn) (device_id : String) (error : DaemonError) (e : Supervisor D) :
    Supervisor D :=
  match e.registry.devices[device_id]? with
  | some handle =>
      let e := (e.detach device_id handle).emit [.lifecycle (.deviceRemoved device_id)]
      if error = .driver .disconnected then
        e.start_reconnect_backoff turn
          ⟨device_id, handle.vendor_id, handle.product_id, handle.hidraw_path, 0⟩
      else
        e
  | none => e

omit [KeyboardDriver D] in
def device_reattached (sender : Origin) (device_id : String) (handle : DeviceHandle)
    (token : UInt64) (e : Supervisor D) : Supervisor D :=
  match e.registry.reconnecting[device_id]? with
  | some (_, current_token) =>
      if current_token = token then
        ((e.cancel device_id).emit [.accepted device_id sender]).attach device_id handle
      else
        e
  | none => e

omit [KeyboardDriver D] in
/-- The table lists its keys in order. -/
def list_devices (reply : ReplyId) (e : Supervisor D) : Supervisor D :=
  e.emit [.replied reply (.devices e.registry.devices.keys)]

omit [KeyboardDriver D] in
def get_device_info (device_id : String) (reply : ReplyId) (e : Supervisor D) : Supervisor D :=
  e.emit [.replied reply (.info (match e.registry.devices[device_id]? with
    | some handle => .ok (handle.model, handle.topology.matrix.rows,
        handle.topology.matrix.cols, handle.topology.layer_count)
    | none => .error (.deviceNotFound device_id)))]

omit [KeyboardDriver D] in
/-- The product name is not captured at discovery. -/
def get_device_identity (device_id : String) (reply : ReplyId) (e : Supervisor D) : Supervisor D :=
  e.emit [.replied reply (.identity (match e.registry.devices[device_id]? with
    | some handle => .ok (handle.vendor_id, handle.product_id, "")
    | none => .error (.deviceNotFound device_id)))]

/-- Single-iteration dispatch of one command.  `shutdown` does not reach it. -/
def handle_command (table : DriverTable W D) (turn : Turn) (world : W) (envelope : Envelope)
    (e : Supervisor D) : Supervisor D :=
  match envelope.cmd with
  | .getKeycode device_id layer row col reply => e.dispatch_get device_id layer row col reply
  | .setKeycode device_id layer row col keycode reply =>
      e.dispatch_set device_id layer row col keycode reply
  | .getMacro device_id offset length reply =>
      e.dispatch_macro_get device_id offset length reply
  | .setMacro device_id offset data reply => e.dispatch_macro_set device_id offset data reply
  | .getLighting device_id channel value_id reply =>
      e.dispatch_lighting_get device_id channel value_id reply
  | .setLighting device_id channel value_id data reply =>
      e.dispatch_lighting_set device_id channel value_id data reply
  | .deviceConnected device_id vendor_id product_id hidraw_path =>
      e.device_connected table turn world device_id vendor_id product_id hidraw_path
  | .deviceDisconnected device_id => e.device_disconnected device_id
  | .deviceError device_id error => e.device_error turn device_id error
  | .deviceReattached device_id handle token =>
      e.device_reattached envelope.origin device_id handle token
  | .listDevices reply => e.list_devices reply
  | .getDeviceInfo device_id reply => e.get_device_info device_id reply
  | .getDeviceIdentity device_id reply => e.get_device_identity device_id reply
  | .commitToNvram device_id reply => e.dispatch_commit device_id reply
  | .shutdown => e

end Arms

end Supervisor

end Clackd.Engine
