import Clackd.Engine.Settling

/-!
# The D-Bus interface

Each method of `ClackdInterface` builds one command with a reply channel of its own,
sends it on the bounded engine channel and awaits the reply.  A call in progress is cut
at these two awaits.  `DaemonError` becomes an error of `zbus::fdo` on the way out.

The interface is the only client of the engine: the steps of the engine that bring in a
client's command are the `submit` steps here, and no others.
-/

namespace Clackd.Ipc

open Clackd.Foundation Clackd.Hal Clackd.Engine

/-! ## Texts of errors -/

/-- What the standard library renders: the text of an `io::Error` made from an `errno`,
and a path as `{:?}` prints it. -/
structure Rendering where
  os_error : Nat → String
  debug_path : String → String

def ioText (render : Rendering) : IoError → String
  | .os errno => render.os_error errno
  | .other message => message

/-- `DriverError::to_string`. -/
def driverText (render : Rendering) : DriverError → String
  | .io error => s!"hidraw I/O error: {ioText render error}"
  | .timeout device op => s!"device `{device}` timed out during `{op}`"
  | .permissionDenied path => s!"permission denied for hidraw node {render.debug_path path}"
  | .protocolViolation reason => s!"hidraw protocol violation: {reason}"
  | .disconnected => "device disconnected"
  | .unsupported op => s!"operation not supported by this device: {op}"
  | .vendorCompile vendor detail => s!"vendor `{vendor}` blob compile failed: {detail}"

/-- `DaemonError::to_string`. -/
def daemonText (render : Rendering) : DaemonError → String
  | .driver error => s!"driver error: {driverText render error}"
  | .deviceNotFound device_id => s!"no device registered with id `{device_id}`"
  | .dbusRouting detail => s!"dbus routing error: {detail}"

/-- `zbus::fdo::Error`, as far as the interface constructs it. -/
inductive FdoError where
  | unknownObject (detail : String)
  | accessDenied (detail : String)
  | notSupported (detail : String)
  | failed (detail : String)
  deriving DecidableEq, Repr

/-- `From<DaemonError>`, the final conversion at the D-Bus boundary. -/
def FdoError.fromDaemon (render : Rendering) (e : DaemonError) : FdoError :=
  match e with
  | .deviceNotFound device_id => .unknownObject device_id
  | .driver (.permissionDenied _) => .accessDenied (daemonText render e)
  | .driver (.unsupported _) => .notSupported (daemonText render e)
  | _ => .failed (daemonText render e)

/-! ## Methods -/

/-- A method call of the interface. -/
inductive Method where
  | get_keycode (device_id : String) (layer row col : UInt8)
  | set_keycode (device_id : String) (layer row col : UInt8) (keycode : UInt16)
  | list_devices
  | get_device_info (device_id : String)
  | get_device_identity (device_id : String)
  | commit (device_id : String)
  | get_macro (device_id : String) (offset : UInt16) (length : UInt8)
  | set_macro (device_id : String) (offset : UInt16) (data : List UInt8)
  | get_lighting (device_id : String) (channel value_id : UInt8)
  | set_lighting (device_id : String) (channel value_id : UInt8) (data : List UInt8)
  deriving DecidableEq, Repr

/-- The command a method sends. -/
def Method.command (reply : ReplyId) : Method → EngineCommand
  | .get_keycode device_id layer row col => .getKeycode device_id layer row col reply
  | .set_keycode device_id layer row col keycode =>
      .setKeycode device_id layer row col keycode reply
  | .list_devices => .listDevices reply
  | .get_device_info device_id => .getDeviceInfo device_id reply
  | .get_device_identity device_id => .getDeviceIdentity device_id reply
  | .commit device_id => .commitToNvram device_id reply
  | Method.get_macro device_id offset length => .getMacro device_id offset length reply
  | Method.set_macro device_id offset data => .setMacro device_id offset data reply
  | .get_lighting device_id channel value_id => .getLighting device_id channel value_id reply
  | .set_lighting device_id channel value_id data =>
      .setLighting device_id channel value_id data reply

/-- What a method returns when all goes well. -/
inductive Answer where
  | keycode (keycode : UInt16)
  | done
  | bytes (data : List UInt8)
  | devices (ids : List String)
  | info (model : String) (rows cols layer_count : UInt8)
  | identity (vendor_id product_id : UInt16) (product_name : String)
  deriving DecidableEq, Repr

/-- What comes over a reply channel. -/
def received : Reply → Except DaemonError Answer
  | .keycode result => result.map .keycode
  | .done result => result.map fun _ => .done
  | .bytes result => result.map .bytes
  | .devices ids => .ok (.devices ids)
  | .info result => result.map fun r => .info r.1 r.2.1 r.2.2.1 r.2.2.2
  | .identity result => result.map fun r => .identity r.1 r.2.1 r.2.2

/-- The type of the reply channel a method opens. -/
def Method.kind : Method → ReplyKind
  | .get_keycode _ _ _ _ => .keycode
  | .set_keycode _ _ _ _ _ => .done
  | .list_devices => .devices
  | .get_device_info _ => .info
  | .get_device_identity _ => .identity
  | .commit _ => .done
  | Method.get_macro _ _ _ => .bytes
  | Method.set_macro _ _ _ => .done
  | .get_lighting _ _ _ => .bytes
  | .set_lighting _ _ _ _ => .done

def ENGINE_CLOSED : FdoError := .failed "engine command channel closed"

def REPLY_DROPPED : FdoError := .failed "engine reply channel dropped"

/-- Where a call is. -/
inductive CallPhase where
  /-- Awaiting a free slot of the engine channel. -/
  | sending
  /-- Awaiting what comes over its reply channel. -/
  | awaiting (reply : ReplyId)
  /-- Returned, after a reply channel was opened or without one. -/
  | returned (reply : Option ReplyId) (result : Except FdoError Answer)
  deriving DecidableEq

structure Call where
  method : Method
  phase : CallPhase
  deriving DecidableEq

/-- The reply channel of a call. -/
def Call.channel (c : Call) : Option ReplyId :=
  match c.phase with
  | .sending => none
  | .awaiting reply => some reply
  | .returned reply _ => reply

/-! ## The interface and the engine -/

/-- The engine, and all the calls the interface has received. -/
structure Bus (D : Type) where
  engine : Sys D
  calls : List Call

/-- One step: a call comes in, a call sends its command, a call takes its reply, or the
engine moves. -/
inductive BusLabel (W : Type) where
  | call (method : Method)
  | submit (i : Nat)
  | receive (i : Nat)
  | engine (l : Label W)

/-- What was sent on a reply channel. -/
def replyOn (reply : ReplyId) : Effect → Option Reply
  | .replied reply' r => if reply' = reply then some r else none
  | _ => none

/-- Whether a step of the engine brings in a client's command. -/
def isClients {W : Type} : Label W → Bool
  | .enqueue cmd => cmd.sender = some .client
  | _ => false

namespace Bus

variable {W D : Type}

def start : Bus D := ⟨Sys.start, []⟩

/-- A call moves on. -/
def setCall (i : Nat) (c : Call) (phase : CallPhase) (b : Bus D) : Bus D :=
  { b with calls := b.calls.set i { c with phase := phase } }

variable [KeyboardDriver D] [BackgroundTasks D]

/-- `engine_tx.send(..).await`: the command is on the engine channel, or the channel is
closed. -/
def submit (table : DriverTable W D) (i : Nat) (c : Call) (b : Bus D) : Option (Bus D) :=
  match c.phase with
  | .sending =>
      if b.engine.status = .returned then
        some (b.setCall i c (.returned none (.error ENGINE_CLOSED)))
      else
        (b.engine.step table (.enqueue (c.method.command b.engine.next_reply))).map fun engine =>
          ({ b with engine := engine } : Bus D).setCall i c (.awaiting b.engine.next_reply)
  | _ => none

omit [KeyboardDriver D] [BackgroundTasks D] in
/-- `reply_rx.await`: the reply, or its sender was dropped, wherever it was. -/
def receive (render : Rendering) (i : Nat) (c : Call) (b : Bus D) : Option (Bus D) :=
  match c.phase with
  | .awaiting reply =>
      match b.engine.sup.log.findSome? (replyOn reply) with
      | some r =>
          if r.kind = c.method.kind then
            some (b.setCall i c (.returned (some reply)
              ((received r).mapError (FdoError.fromDaemon render))))
          else
            none
      | none =>
          if b.engine.outstanding reply = 0 then
            some (b.setCall i c (.returned (some reply) (.error REPLY_DROPPED)))
          else
            none
  | _ => none

/-- One step, or `none` if that party cannot move so. -/
def step (render : Rendering) (table : DriverTable W D) (b : Bus D) :
    BusLabel W → Option (Bus D)
  | .call method => some { b with calls := b.calls ++ [⟨method, .sending⟩] }
  | .submit i => b.calls[i]?.bind fun c => b.submit table i c
  | .receive i => b.calls[i]?.bind fun c => b.receive render i c
  | .engine l =>
      if isClients l then none
      else (b.engine.step table l).map fun engine => { b with engine := engine }

end Bus

end Clackd.Ipc
