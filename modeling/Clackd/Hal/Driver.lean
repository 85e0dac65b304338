import Clackd.Foundation.Fallible

/-!
# The driver contract

The error type of the hardware layer and the `KeyboardDriver` trait.  A driver
method is a `Fallible` program over the driver's own state: the state it leaves
behind stays, whether it returns `Ok` or `Err`.

Time is a `Nat` of milliseconds.  Methods take the `Turn` they run in: the
instant of the call, because some backends read the clock (`Instant::now()`)
while they work, and an iteration order for the hash tables they walk.

A hash table is walked in an order the program does not determine.  `HashOrder`
is one such order: any function that permutes the keys it is given.
-/

namespace Clackd.Hal

open Clackd.Foundation

/-- `std::io::Error`, as far as the drivers construct one: from an `errno`, or
with a message of their own. -/
inductive IoError where
  | os (errno : Nat)
  | other (message : String)
  deriving DecidableEq, Repr

/-- Errors a driver method returns. -/
inductive DriverError where
  | io (error : IoError)
  | timeout (device op : String)
  | permissionDenied (path : String)
  | protocolViolation (reason : String)
  | disconnected
  | unsupported (op : String)
  | vendorCompile (vendor detail : String)
  deriving DecidableEq, Repr

/-- A driver-layer method on a state `σ`. -/
abbrev DriverM (σ α : Type) : Type := Fallible DriverError σ α

/-- A `(layer, row, col)` keymap position. -/
abbrev Slot : Type := UInt8 × UInt8 × UInt8

/-- Positions in the order of the derived tuple order of the source. -/
instance instOrdSlot : Ord Slot := @lexOrd _ _ _ lexOrd

instance instTransOrdSlot : Std.TransOrd Slot := inferInstance

/-- One iteration order of the hash tables: it permutes what it is given. -/
structure HashOrder where
  slots : List Slot → List Slot
  slots_perm : ∀ keys, (slots keys).Perm keys
  channels : List UInt8 → List UInt8
  channels_perm : ∀ keys, (channels keys).Perm keys

/-- The order that leaves the keys as they are. -/
def HashOrder.sorted : HashOrder where
  slots := id
  slots_perm := fun _ => List.Perm.refl _
  channels := id
  channels_perm := fun _ => List.Perm.refl _

/-- What a call finds when it runs. -/
structure Turn where
  now : Nat
  order : HashOrder

/-- Out-of-band lifecycle events, fanned out on the broadcast channel. -/
inductive LifecycleEvent where
  | deviceAdded (device_id : String)
  | deviceRemoved (device_id : String)
  | layoutUpdated (device_id : String)
  deriving DecidableEq, Repr

/-- The VIA-style driver contract every backend implements. -/
class KeyboardDriver (D : Type) where
  get_matrix_dimensions (turn : Turn) : DriverM D (UInt8 × UInt8)
  get_layer_count (turn : Turn) : DriverM D UInt8
  get_keycode (turn : Turn) (layer row col : UInt8) : DriverM D UInt16
  set_keycode (turn : Turn) (layer row col : UInt8) (keycode : UInt16) : DriverM D Unit
  get_macro_buffer (turn : Turn) (offset : UInt16) (length : UInt8) : DriverM D (List UInt8)
  set_macro_buffer (turn : Turn) (offset : UInt16) (data : List UInt8) : DriverM D Unit
  get_lighting (turn : Turn) (channel value_id : UInt8) : DriverM D (List UInt8)
  set_lighting (turn : Turn) (channel value_id : UInt8) (data : List UInt8) : DriverM D Unit
  commit_to_nvram (turn : Turn) : DriverM D Unit
  emits_layout_event_per_set : D → Bool
  model_name : D → String

/-- A wake-up of a task that a driver has spawned. -/
inductive Background where
  /-- Its timer expired. -/
  | timer
  /-- Its command channel is closed. -/
  | closed
  deriving DecidableEq, Repr

/-- The tasks that drivers of a type have spawned, advanced one wake-up at a
time; `none` if that wake-up cannot happen.  `dropped` says whether the driver
itself is gone. -/
class BackgroundTasks (D : Type) where
  wake (turn : Turn) (dropped : Bool) (wakeup : Background) : D → Option D

end Clackd.Hal
