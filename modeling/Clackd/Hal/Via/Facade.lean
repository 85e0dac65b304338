import Clackd.Hal.Via.Driver

/-!
# The VIA driver

`ViaDriver` is the type the engine sees.  In direct mode it owns the transport;
in coalescing mode the actor does, and every method sends it one operation and
awaits the answer.  That exchange is one moment here, the one in which the
actor serves the operation: until then the flush deadline may still expire, and
afterwards nothing happens before the driver has its answer but the passing of
time.
-/

namespace Clackd.Hal.Via

open Clackd.Foundation Clackd.Hal

/-! ## Reading an answer

An answer of another kind than the operation asks for never comes; like an
answer that is dropped, it reads as a lost device. -/

namespace CoalescerReply

def toVersion : CoalescerReply → Except DriverError UInt16
  | .version result => result
  | _ => .error .disconnected

def toKeycode : CoalescerReply → Except DriverError UInt16
  | .keycode result => result
  | _ => .error .disconnected

def toLayerCount : CoalescerReply → Except DriverError UInt8
  | .layerCount result => result
  | _ => .error .disconnected

def toDone : CoalescerReply → Except DriverError Unit
  | .done result => result
  | _ => .error .disconnected

def toBytes : CoalescerReply → Except DriverError (List UInt8)
  | .bytes result => result
  | _ => .error .disconnected

end CoalescerReply

variable {T : Type} [CoalescerTransport T]

/-- One operation at the actor, start to end in one instant. -/
def Coalescer.answer (args : CoalescerArgs) (turn : Turn) (op : CoalescerOp)
    (c : Coalescer T) : CoalescerReply × Coalescer T :=
  let r := serve args turn.order turn.now c op
  (r.1, { r.2 with clock := turn.now, served := r.2.served ++ [(op, r.1)] })

/-- The mode of a driver. -/
inductive ViaInner (T : Type) where
  | direct (inner : ViaDirect T)
  | coalesced (args : CoalescerArgs) (actor : Coalescer T)

/-- Native VIA driver. -/
structure ViaDriver (T : Type) where
  inner : ViaInner T
  matrix : UInt8 × UInt8
  protocol_version : Option UInt16

namespace ViaDriver

/-- A driver without a buffer on an opened transport. -/
def new (transport : T) (matrix : UInt8 × UInt8) : ViaDriver T where
  inner := .direct { transport := transport, touched_channels := ∅ }
  matrix := matrix
  protocol_version := none

/-- A driver whose actor has just been spawned on an opened transport. -/
def with_coalescing (transport : T) (matrix : UInt8 × UInt8) (args : CoalescerArgs)
    (now : Nat) : ViaDriver T where
  inner := .coalesced args (Coalescer.spawn transport now)
  matrix := matrix
  protocol_version := none

/-- The transport call of the direct arm, or `relay`: an actor that has exited
answers nobody. -/
def ask {α : Type} (read : CoalescerReply → Except DriverError α) (turn : Turn)
    (op : CoalescerOp) : DriverM (ViaDriver T) α :=
  primitive fun d =>
    match d.inner with
    | .direct inner =>
        let r := inner.serve turn.order op
        (read r.1, { d with inner := .direct r.2 })
    | .coalesced args actor =>
        if actor.exited.isSome then
          (.error .disconnected, d)
        else
          let r := actor.answer args turn op
          (read r.1, { d with inner := .coalesced args r.2 })

/-- Probes and caches the protocol version on the first call. -/
def ensure_protocol_version (turn : Turn) : DriverM (ViaDriver T) UInt16 := do
  match (← get).protocol_version with
  | some version => pure version
  | none =>
      let version ← ask CoalescerReply.toVersion turn .getProtocolVersion
      modify fun d => { d with protocol_version := some version }
      pure version

instance : KeyboardDriver (ViaDriver T) where
  get_matrix_dimensions turn := do
    let _ ← ensure_protocol_version turn
    return (← get).matrix
  get_layer_count turn := do
    let _ ← ensure_protocol_version turn
    ask CoalescerReply.toLayerCount turn .getLayerCount
  get_keycode turn layer row col :=
    ask CoalescerReply.toKeycode turn (.getKeycode layer row col)
  set_keycode turn layer row col keycode :=
    ask CoalescerReply.toDone turn (.setKeycode layer row col keycode)
  get_macro_buffer turn offset length :=
    ask CoalescerReply.toBytes turn (.getMacro offset length)
  set_macro_buffer turn offset data := ask CoalescerReply.toDone turn (.setMacro offset data)
  get_lighting turn channel value_id :=
    ask CoalescerReply.toBytes turn (.getLighting channel value_id)
  set_lighting turn channel value_id data :=
    ask CoalescerReply.toDone turn (.setLighting channel value_id data)
  commit_to_nvram turn := ask CoalescerReply.toDone turn .flush
  emits_layout_event_per_set d :=
    match d.inner with
    | .direct _ => true
    | .coalesced _ _ => false
  model_name _ := "VIA keyboard"

/-- The actor wakes up when its deadline expires and, once the driver is
dropped, to a closed channel. -/
instance : BackgroundTasks (ViaDriver T) where
  wake turn dropped wakeup d :=
    match d.inner with
    | .direct _ => none
    | .coalesced args actor =>
        let wakes := fun wakeup : Wakeup => (actor.step args wakeup).map fun actor =>
          { d with inner := .coalesced args actor }
        match wakeup with
        | .timer => wakes (.autoFlush turn.order turn.now turn.now)
        | .closed => if dropped then wakes (.closed turn.order turn.now turn.now) else none

end ViaDriver

end Clackd.Hal.Via
