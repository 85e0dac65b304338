import Clackd.Foundation.Table
import Clackd.Hal.Driver

/-!
# Messages of the engine

Everything that travels between the supervisor, the device workers and the
reconnect tasks: commands on the engine channel, operations on a worker
channel, and the errors and replies that go back.

A `oneshot` reply channel is its number (`ReplyId`), a worker's command channel
is the number of the worker that reads it, and the cancel channel of a
reconnect task is the number of the task.  Numbers are given out in order and
never reused, so they name one channel for the whole run.

`Effect` is the record an observer keeps of a run.  No function of the engine
reads it.
-/

namespace Clackd.Engine

open Clackd.Foundation Clackd.Hal
open Std (ExtTreeMap)

/-- Default capacity of the engine command channel. -/
def ENGINE_CHANNEL_CAPACITY : Nat := 32

/-- Capacity of a single per-device worker command channel. -/
def WORKER_CHANNEL_CAPACITY : Nat := 16

/-! ## Topology -/

/-- Physical key-matrix dimensions reported by the device firmware. -/
structure KeyMatrix where
  rows : UInt8
  cols : UInt8
  deriving DecidableEq, Repr

/-- Whether `(row, col)` lies inside this matrix. -/
def KeyMatrix.contains (m : KeyMatrix) (row col : UInt8) : Bool :=
  row < m.rows && col < m.cols

/-- Stable, session-long metadata for a connected keyboard. -/
structure DeviceTopology where
  matrix : KeyMatrix
  layer_count : UInt8
  deriving DecidableEq, Repr

/-- Whether `(layer, row, col)` is addressable on this device. -/
def DeviceTopology.contains (t : DeviceTopology) (layer row col : UInt8) : Bool :=
  layer < t.layer_count && t.matrix.contains row col

/-! ## Errors and replies -/

/-- Errors observed at and above the engine boundary, as far as the engine
constructs them. -/
inductive DaemonError where
  | driver (error : DriverError)
  | deviceNotFound (device_id : String)
  | dbusRouting (detail : String)
  deriving DecidableEq, Repr

/-- The identity of a reply channel. -/
abbrev ReplyId : Type := Nat

/-- The identity of a worker and of the channel it reads. -/
abbrev WorkerId : Type := Nat

/-- The identity of a reconnect task and of its cancel channel. -/
abbrev TaskId : Type := Nat

/-- What is sent on a reply channel. -/
inductive Reply where
  | keycode (result : Except DaemonError UInt16)
  | done (result : Except DaemonError Unit)
  | bytes (result : Except DaemonError (List UInt8))
  | devices (ids : List String)
  | info (result : Except DaemonError (String × UInt8 × UInt8 × UInt8))
  | identity (result : Except DaemonError (UInt16 × UInt16 × String))

/-- Whether a driver result should retire the worker. -/
def is_fatal_driver_error {α : Type} (result : Except DaemonError α) : Bool :=
  match result with
  | .error (.driver .disconnected) => true
  | .error (.driver (.permissionDenied _)) => true
  | _ => false

/-- Whether an attach-time failure is worth a backoff retry. -/
def is_transient_attach_error (e : DaemonError) : Bool :=
  match e with
  | .driver .disconnected => true
  | .driver (.permissionDenied _) => true
  | _ => false

/-! ## Operations and commands -/

/-- Per-device dispatch payload. -/
inductive WorkerOp where
  | getKeycode (layer row col : UInt8) (reply : ReplyId)
  | setKeycode (layer row col : UInt8) (keycode : UInt16) (reply : ReplyId)
  | commit (reply : ReplyId)
  | getMacro (offset : UInt16) (length : UInt8) (reply : ReplyId)
  | setMacro (offset : UInt16) (data : List UInt8) (reply : ReplyId)
  | getLighting (channel value_id : UInt8) (reply : ReplyId)
  | setLighting (channel value_id : UInt8) (data : List UInt8) (reply : ReplyId)
  deriving DecidableEq, Repr

/-- The reply channel of an operation. -/
def WorkerOp.reply : WorkerOp → ReplyId
  | .getKeycode _ _ _ reply => reply
  | .setKeycode _ _ _ _ reply => reply
  | .commit reply => reply
  | .getMacro _ _ reply => reply
  | .setMacro _ _ reply => reply
  | .getLighting _ _ reply => reply
  | .setLighting _ _ _ reply => reply

/-- An error, as what is sent on the reply channel of an operation. -/
def WorkerOp.refusal (err : DaemonError) : WorkerOp → Reply
  | .getKeycode _ _ _ _ => .keycode (.error err)
  | .setKeycode _ _ _ _ _ => .done (.error err)
  | .commit _ => .done (.error err)
  | .getMacro _ _ _ => .bytes (.error err)
  | .setMacro _ _ _ => .done (.error err)
  | .getLighting _ _ _ => .bytes (.error err)
  | .setLighting _ _ _ _ => .done (.error err)

/-- Supervisor-side handle to a per-device worker task. -/
structure DeviceHandle where
  topology : DeviceTopology
  model : String
  /-- The worker whose channel this sends on. -/
  tx : WorkerId
  vendor_id : UInt16
  product_id : UInt16
  hidraw_path : String
  deriving DecidableEq, Repr

/-- The complete set of operations the engine accepts. -/
inductive EngineCommand where
  | getKeycode (device_id : String) (layer row col : UInt8) (reply : ReplyId)
  | setKeycode (device_id : String) (layer row col : UInt8) (keycode : UInt16) (reply : ReplyId)
  | deviceConnected (device_id : String) (vendor_id product_id : UInt16) (hidraw_path : String)
  | deviceDisconnected (device_id : String)
  | deviceError (device_id : String) (error : DaemonError)
  | deviceReattached (device_id : String) (handle : DeviceHandle) (token : UInt64)
  | listDevices (reply : ReplyId)
  | getDeviceInfo (device_id : String) (reply : ReplyId)
  | getDeviceIdentity (device_id : String) (reply : ReplyId)
  | commitToNvram (device_id : String) (reply : ReplyId)
  | getMacro (device_id : String) (offset : UInt16) (length : UInt8) (reply : ReplyId)
  | setMacro (device_id : String) (offset : UInt16) (data : List UInt8) (reply : ReplyId)
  | getLighting (device_id : String) (channel value_id : UInt8) (reply : ReplyId)
  | setLighting (device_id : String) (channel value_id : UInt8) (data : List UInt8)
      (reply : ReplyId)
  | shutdown
  deriving DecidableEq, Repr

/-- The operation a command is forwarded as, with its device. -/
def EngineCommand.forwarded : EngineCommand → Option (String × WorkerOp)
  | .getKeycode device_id layer row col reply =>
      some (device_id, .getKeycode layer row col reply)
  | .setKeycode device_id layer row col keycode reply =>
      some (device_id, .setKeycode layer row col keycode reply)
  | .commitToNvram device_id reply => some (device_id, .commit reply)
  | .getMacro device_id offset length reply => some (device_id, .getMacro offset length reply)
  | .setMacro device_id offset data reply => some (device_id, .setMacro offset data reply)
  | .getLighting device_id channel value_id reply =>
      some (device_id, .getLighting channel value_id reply)
  | .setLighting device_id channel value_id data reply =>
      some (device_id, .setLighting channel value_id data reply)
  | _ => none

/-- Who sent a command. -/
inductive Origin where
  | client
  | udev
  | main
  | worker (w : WorkerId)
  | task (k : TaskId)
  deriving DecidableEq, Repr

/-- A command on the engine channel. -/
structure Envelope where
  origin : Origin
  cmd : EngineCommand
  deriving DecidableEq, Repr

/-! ## What an observer sees -/

/-- What a worker has its driver do: an operation, the debounced commit, or the
final commit once its channel is closed. -/
inductive Job where
  | op (op : WorkerOp)
  | debounced
  | final
  deriving DecidableEq, Repr

/-- Whether the job is a commit. -/
def Job.isCommit : Job → Bool
  | .op (.commit _) => true
  | .op _ => false
  | .debounced => true
  | .final => true

/-- One entry of the record of a run. -/
inductive Effect where
  /-- The supervisor takes a command off its queue. -/
  | handled (envelope : Envelope)
  /-- A handle enters `registry.devices`. -/
  | attached (device_id : String) (w : WorkerId)
  /-- A handle leaves `registry.devices`. -/
  | detached (device_id : String) (w : WorkerId)
  /-- A reconnect task is started. -/
  | started (device_id : String) (k : TaskId)
  /-- A reattached handle is accepted. -/
  | accepted (device_id : String) (sender : Origin)
  | lifecycle (event : LifecycleEvent)
  | replied (reply : ReplyId) (r : Reply)
  /-- A worker starts a job, its driver has done it, and whether it succeeded. -/
  | began (w : WorkerId) (job : Job)
  | called (w : WorkerId) (job : Job) (ok : Bool)
  /-- A task spawned by a worker's driver woke up. -/
  | woke (w : WorkerId) (wakeup : Background)

/-- Whether an entry leaves the registry and its event stream as they are. -/
def Effect.isQuiet : Effect → Bool
  | .lifecycle (.layoutUpdated _) => true
  | .replied _ _ => true
  | .began _ _ => true
  | .called _ _ _ => true
  | .woke _ _ => true
  | _ => false

end Clackd.Engine
