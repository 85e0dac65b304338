import Clackd.Hal.Via.Coalescer

/-!
# The direct arm of the VIA driver

In *direct* mode every method of `ViaDriver` is one transport call, and
`commit_to_nvram` saves the touched lighting channels.  In *coalesced* mode
the same method relays one `CoalescerOp` to the actor; `ViaDirect.serve` is
indexed by that operation, so the two arms can be run on one sequence.
-/

namespace Clackd.Hal.Via

open Clackd.Foundation Clackd.Hal

section Direct

variable {T : Type} [CoalescerTransport T]

/-- The state of the direct arm. -/
structure ViaDirect (T : Type) where
  transport : T
  touched_channels : ChannelSet

/-- A transport call of the direct arm. -/
def ViaDirect.onTransport {α : Type} (x : DriverM T α) : DriverM (ViaDirect T) α :=
  zoom ViaDirect.transport (fun d t => { d with transport := t }) x

/-- `set_lighting`, direct arm: the channel is touched only if the set
succeeded. -/
def ViaDirect.set_lighting (channel value_id : UInt8) (data : List UInt8) :
    DriverM (ViaDirect T) Unit := do
  ViaDirect.onTransport (CoalescerTransport.set_lighting channel value_id data)
  modify fun d => { d with touched_channels := d.touched_channels.insert channel }

/-- `commit_to_nvram`, direct arm: keycodes are persistent already, only
lighting needs saving. -/
def ViaDirect.commit_to_nvram (order : HashOrder) : DriverM (ViaDirect T) Unit :=
  zoom (fun d => (d.transport, d.touched_channels))
    (fun _ s => { transport := s.1, touched_channels := s.2 })
    (save_touched_channels order)

/-- The direct arm's answer to the operation that the coalesced arm would have
relayed. -/
def ViaDirect.serve (order : HashOrder) (d : ViaDirect T) :
    CoalescerOp → CoalescerReply × ViaDirect T
  | .getProtocolVersion =>
      (exec (onTransport CoalescerTransport.get_protocol_version) d).map .version id
  | .getKeycode layer row col =>
      (exec (onTransport (CoalescerTransport.get_keycode layer row col)) d).map .keycode id
  | .setKeycode layer row col keycode =>
      (exec (onTransport (CoalescerTransport.set_keycode layer row col keycode)) d).map
        .done id
  | .getLayerCount =>
      (exec (onTransport CoalescerTransport.get_layer_count) d).map .layerCount id
  | .flush => (exec (commit_to_nvram order) d).map .done id
  | .getMacro offset length =>
      (exec (onTransport (CoalescerTransport.get_macro_buffer offset length)) d).map
        .bytes id
  | .setMacro offset data =>
      (exec (onTransport (CoalescerTransport.set_macro_buffer offset data)) d).map .done id
  | .getLighting channel value_id =>
      (exec (onTransport (CoalescerTransport.get_lighting channel value_id)) d).map
        .bytes id
  | .setLighting channel value_id data =>
      (exec (set_lighting channel value_id data) d).map .done id

/-- The replies of an unbuffered driver to a sequence of operations, with the
state it ends in. -/
def ViaDirect.replies (order : HashOrder) :
    ViaDirect T → List CoalescerOp → List CoalescerReply × ViaDirect T
  | d, [] => ([], d)
  | d, op :: ops =>
      ((d.serve order op).1 :: (replies order (d.serve order op).2 ops).1,
        (replies order (d.serve order op).2 ops).2)

end Direct

end Clackd.Hal.Via
