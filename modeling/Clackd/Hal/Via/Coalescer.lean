import Clackd.Foundation.Table
import Clackd.Hal.Driver

/-!
# The write-coalescing actor

`run_coalescer` owns the transport and a buffer of keycode writes.  Its loop
has three wake-ups: an operation received on the command channel, the expiry of
the flush deadline, and the channel being closed.  Each is one label of the
step function `Coalescer.step`; between two labels the actor is at its loop
head.

A flush walks the keys of a `HashMap`.  Every label that flushes carries its
own `HashOrder`, so a statement about all runs is a statement about all orders
at every flush.

The fields `clock`, `served`, `emitted` and `exited` of the state are what an
observer sees of the actor: when it was last at its loop head, the operations
it answered with their replies, the events it sent and, once it has left the
loop, how the two final writes ended.
-/

namespace Clackd.Hal.Via

open Clackd.Foundation Clackd.Hal
open Std (ExtTreeMap ExtTreeSet)

/-- Hardware operations the coalescer can issue. -/
class CoalescerTransport (T : Type) where
  get_protocol_version : DriverM T UInt16
  get_keycode (layer row col : UInt8) : DriverM T UInt16
  set_keycode (layer row col : UInt8) (keycode : UInt16) : DriverM T Unit
  get_layer_count : DriverM T UInt8
  custom_save (channel : UInt8) : DriverM T Unit
  get_macro_buffer (offset : UInt16) (length : UInt8) : DriverM T (List UInt8)
  set_macro_buffer (offset : UInt16) (data : List UInt8) : DriverM T Unit
  get_lighting (channel value_id : UInt8) : DriverM T (List UInt8)
  set_lighting (channel value_id : UInt8) (data : List UInt8) : DriverM T Unit

/-- Commands sent into the coalescer actor. -/
inductive CoalescerOp where
  | getProtocolVersion
  | getKeycode (layer row col : UInt8)
  | setKeycode (layer row col : UInt8) (keycode : UInt16)
  | getLayerCount
  | flush
  | getMacro (offset : UInt16) (length : UInt8)
  | setMacro (offset : UInt16) (data : List UInt8)
  | getLighting (channel value_id : UInt8)
  | setLighting (channel value_id : UInt8) (data : List UInt8)
  deriving DecidableEq, Repr

/-- What is sent on the reply channel of a command. -/
inductive CoalescerReply where
  | version (result : Except DriverError UInt16)
  | keycode (result : Except DriverError UInt16)
  | layerCount (result : Except DriverError UInt8)
  | done (result : Except DriverError Unit)
  | bytes (result : Except DriverError (List UInt8))

/-- Pending writes, `(layer, row, col) -> keycode`. -/
abbrev WriteBuffer : Type := ExtTreeMap Slot UInt16

/-- Lighting channels set since their last save. -/
abbrev ChannelSet : Type := ExtTreeSet UInt8

section Flush

variable {T : Type} [CoalescerTransport T]

/-- The loop of `flush_buffer` over the keys collected up front. -/
def flush_entries : List Slot → DriverM (T × WriteBuffer) Unit
  | [] => pure ()
  | key :: keys => do
      let s ← get
      match s.2[key]? with
      | none => flush_entries keys
      | some keycode => do
          zoom Prod.fst (fun s t => (t, s.2))
            (CoalescerTransport.set_keycode key.1 key.2.1 key.2.2 keycode)
          modify fun s => (s.1, s.2.erase key)
          flush_entries keys

/-- Drains every buffered entry through the transport.  On the first error the
remaining entries stay in the buffer. -/
def flush_buffer (order : HashOrder) : DriverM (T × WriteBuffer) Unit := do
  let s ← get
  if s.2.isEmpty then
    pure ()
  else
    flush_entries (order.slots s.2.keys)

/-- The loop of `save_touched_channels`. -/
def save_channels : List UInt8 → DriverM (T × ChannelSet) Unit
  | [] => pure ()
  | channel :: pending => do
      zoom Prod.fst (fun s t => (t, s.2)) (CoalescerTransport.custom_save channel)
      modify fun s => (s.1, s.2.erase channel)
      save_channels pending

/-- Issues one `id_custom_save` per touched channel, removing each channel on
success.  On the first error the remaining channels stay in the set. -/
def save_touched_channels (order : HashOrder) : DriverM (T × ChannelSet) Unit := do
  let s ← get
  save_channels (order.channels s.2.toList)

end Flush

/-- The arguments `run_coalescer` is started with.  `lifecycle_tx` says whether
a broadcast sender was passed. -/
structure CoalescerArgs where
  flush_interval : Nat
  device_id : String
  lifecycle_tx : Bool

/-- The actor between two wake-ups. -/
structure Coalescer (T : Type) where
  transport : T
  buffer : WriteBuffer
  deadline : Option Nat
  touched_channels : ChannelSet
  clock : Nat
  served : List (CoalescerOp × CoalescerReply)
  emitted : List LifecycleEvent
  exited : Option (Except DriverError Unit × Except DriverError Unit)

/-- Wake-ups of the loop.  `start` and `finish` are the instants its body
starts and ends. -/
inductive Wakeup where
  | recv (op : CoalescerOp) (order : HashOrder) (start finish : Nat)
  | autoFlush (order : HashOrder) (start finish : Nat)
  | closed (order : HashOrder) (start finish : Nat)

namespace Coalescer

variable {T : Type} [CoalescerTransport T]

/-- The actor as it is spawned. -/
def spawn (transport : T) (now : Nat) : Coalescer T where
  transport := transport
  buffer := ∅
  deadline := none
  touched_channels := ∅
  clock := now
  served := []
  emitted := []
  exited := none

/-- `emit_layout_updated`: best effort, and nothing without a sender. -/
def emit_layout_updated (args : CoalescerArgs) (c : Coalescer T) : Coalescer T :=
  if args.lifecycle_tx then
    { c with emitted := c.emitted ++ [.layoutUpdated args.device_id] }
  else
    c

/-- Run a transport method on the actor's transport. -/
def onTransport {α : Type} (x : DriverM T α) (c : Coalescer T) :
    Except DriverError α × Coalescer T :=
  ((exec x c.transport).1, { c with transport := (exec x c.transport).2 })

/-- `flush_buffer` on the actor's transport and buffer. -/
def flush (order : HashOrder) (c : Coalescer T) : Except DriverError Unit × Coalescer T :=
  ((exec (flush_buffer order) (c.transport, c.buffer)).1,
    { c with
      transport := (exec (flush_buffer order) (c.transport, c.buffer)).2.1
      buffer := (exec (flush_buffer order) (c.transport, c.buffer)).2.2 })

/-- `save_touched_channels` on the actor's transport and channel set. -/
def save (order : HashOrder) (c : Coalescer T) : Except DriverError Unit × Coalescer T :=
  ((exec (save_touched_channels order) (c.transport, c.touched_channels)).1,
    { c with
      transport := (exec (save_touched_channels order) (c.transport, c.touched_channels)).2.1
      touched_channels :=
        (exec (save_touched_channels order) (c.transport, c.touched_channels)).2.2 })

/-- The `SetKeycode` arm: insert, and arm the deadline if none is armed. -/
def setKeycode (args : CoalescerArgs) (slot : Slot) (keycode : UInt16) (now : Nat)
    (c : Coalescer T) : Coalescer T :=
  { c with
    buffer := c.buffer.insert slot keycode
    deadline := if c.deadline.isNone then some (now + args.flush_interval) else c.deadline }

/-- The `Flush` arm: drain the buffer, announce it, save the touched lighting
channels only if the keymap drained cleanly, and disarm the deadline. -/
def commit (args : CoalescerArgs) (order : HashOrder) (c : Coalescer T) :
    Except DriverError Unit × Coalescer T :=
  match flush order c with
  | (.ok (), c) =>
      let (result, c) := save order (emit_layout_updated args c)
      (result, { c with deadline := none })
  | (.error e, c) => (.error e, { c with deadline := none })

/-- The `GetKeycode` arm: the buffer first, the transport on a miss. -/
def getKeycode (layer row col : UInt8) (c : Coalescer T) :
    Except DriverError UInt16 × Coalescer T :=
  match c.buffer[(layer, row, col)]? with
  | some kc => (.ok kc, c)
  | none => onTransport (CoalescerTransport.get_keycode layer row col) c

/-- The `SetLighting` arm: a channel is touched only if the set succeeded. -/
def setLighting (channel value_id : UInt8) (data : List UInt8) (c : Coalescer T) :
    Except DriverError Unit × Coalescer T :=
  match onTransport (CoalescerTransport.set_lighting channel value_id data) c with
  | (.ok (), c) => (.ok (), { c with touched_channels := c.touched_channels.insert channel })
  | (.error e, c) => (.error e, c)

/-- The body of the `rx.recv()` branch for one operation. -/
def serve (args : CoalescerArgs) (order : HashOrder) (now : Nat) (c : Coalescer T) :
    CoalescerOp → CoalescerReply × Coalescer T
  | .setKeycode layer row col keycode =>
      (.done (.ok ()), setKeycode args (layer, row, col) keycode now c)
  | .getKeycode layer row col => (getKeycode layer row col c).map .keycode id
  | .getLayerCount =>
      (onTransport CoalescerTransport.get_layer_count c).map .layerCount id
  | .getProtocolVersion =>
      (onTransport CoalescerTransport.get_protocol_version c).map .version id
  | .flush => (commit args order c).map .done id
  | .getMacro offset length =>
      (onTransport (CoalescerTransport.get_macro_buffer offset length) c).map .bytes id
  | .setMacro offset data =>
      (onTransport (CoalescerTransport.set_macro_buffer offset data) c).map .done id
  | .getLighting channel value_id =>
      (onTransport (CoalescerTransport.get_lighting channel value_id) c).map .bytes id
  | .setLighting channel value_id data =>
      (setLighting channel value_id data c).map .done id

/-- The body of the deadline branch.  A failed flush re-arms the deadline. -/
def autoFlush (args : CoalescerArgs) (order : HashOrder) (finish : Nat)
    (c : Coalescer T) : Coalescer T :=
  match flush order c with
  | (.ok (), c) => { emit_layout_updated args c with deadline := none }
  | (.error _, c) => { c with deadline := some (finish + args.flush_interval) }

/-- The final flush, skipped when nothing is buffered. -/
def finalFlush (args : CoalescerArgs) (order : HashOrder) (c : Coalescer T) :
    Except DriverError Unit × Coalescer T :=
  if c.buffer.isEmpty then
    (.ok (), c)
  else
    match flush order c with
    | (.ok (), c) => (.ok (), emit_layout_updated args c)
    | (.error e, c) => (.error e, c)

/-- The final lighting save, skipped when no channel is touched. -/
def finalSave (order : HashOrder) (c : Coalescer T) : Except DriverError Unit × Coalescer T :=
  if c.touched_channels.isEmpty then (.ok (), c) else save order c

/-- The code after the loop. -/
def shutdown (args : CoalescerArgs) (order : HashOrder) (c : Coalescer T) : Coalescer T :=
  let flushed := finalFlush args order c
  let saved := finalSave order flushed.2
  { saved.2 with exited := some (flushed.1, saved.1) }

/-- One turn of the loop, or `none` if that wake-up cannot happen: the actor
has exited, the clock would run backwards, or the deadline is not due. -/
def step (args : CoalescerArgs) (c : Coalescer T) : Wakeup → Option (Coalescer T)
  | .recv op order start finish =>
      if c.exited.isNone ∧ c.clock ≤ start ∧ start ≤ finish then
        let (reply, c') := serve args order start c op
        some { c' with clock := finish, served := c'.served ++ [(op, reply)] }
      else none
  | .autoFlush order start finish =>
      if c.exited.isNone ∧ c.clock ≤ start ∧ start ≤ finish ∧
          c.deadline.any (· ≤ start) then
        some { autoFlush args order finish c with clock := finish }
      else none
  | .closed order start finish =>
      if c.exited.isNone ∧ c.clock ≤ start ∧ start ≤ finish then
        some { shutdown args order c with clock := finish }
      else none

end Coalescer

end Clackd.Hal.Via
