import Clackd.Hal.Via.Flush

/-!
# The mock transport

The in-memory keyboard the source drives `run_coalescer` with: a keymap table,
a recorder of the calls that reached it, and at most one slot whose writes are
refused.  It is the smallest transport with a keymap behind it
(`MockTransport.keymapStore`), so the results about every `KeymapStore` are not
vacuous, and the one the concrete runs of this layer use.
-/

namespace Clackd.Hal.Via

open Clackd.Foundation Clackd.Hal
open Std (ExtTreeMap)

/-- A call that reached the mock. -/
inductive MockCall where
  | get (layer row col : UInt8)
  | set (layer row col : UInt8) (keycode : UInt16)
  | layerCount
  | setLighting (channel value_id : UInt8)
  | customSave (channel : UInt8)
  deriving DecidableEq, Repr

/-- Simulated firmware storage.  Writes to `fail_on_set` fail. -/
structure MockTransport where
  storage : ExtTreeMap Slot UInt16
  calls : List MockCall
  layer_count : UInt8
  fail_on_set : Option Slot

namespace MockTransport

/-- A mock with an empty table, as the tests start from. -/
def empty (fail_on_set : Option Slot) : MockTransport where
  storage := ∅
  calls := []
  layer_count := 4
  fail_on_set := fail_on_set

/-- Append to the recorder. -/
def record (call : MockCall) (m : MockTransport) : MockTransport :=
  { m with calls := m.calls ++ [call] }

/-- What the table holds at a slot; an absent slot reads as zero. -/
def keycode (m : MockTransport) (slot : Slot) : UInt16 :=
  m.storage[slot]?.getD 0

/-- `set_keycode` of the mock. -/
def set_keycode (slot : Slot) (keycode : UInt16) (m : MockTransport) :
    Except DriverError Unit × MockTransport :=
  if m.fail_on_set = some slot then
    (.error .disconnected, m)
  else
    (.ok (), { m.record (.set slot.1 slot.2.1 slot.2.2 keycode) with
      storage := m.storage.insert slot keycode })

instance : CoalescerTransport MockTransport where
  get_protocol_version := primitive fun m => (.ok 0x000C, m)
  get_keycode layer row col := primitive fun m =>
    (.ok (m.keycode (layer, row, col)), m.record (.get layer row col))
  set_keycode layer row col keycode := primitive (set_keycode (layer, row, col) keycode)
  get_layer_count := primitive fun m => (.ok m.layer_count, m.record .layerCount)
  custom_save channel := primitive fun m => (.ok (), m.record (.customSave channel))
  get_macro_buffer _ length := primitive fun m => (.ok (List.replicate length.toNat 0), m)
  set_macro_buffer _ _ := primitive fun m => (.ok (), m)
  get_lighting _ _ := primitive fun m => (.ok (List.replicate 4 0), m)
  set_lighting channel value_id _ := primitive fun m =>
    (.ok (), m.record (.setLighting channel value_id))

/-- The stored keymap of the mock is the table itself. -/
def keymapStore : KeymapStore MockTransport where
  read := keycode
  get_ok := by
    intro m layer row col kc h
    injection h with h
    exact h.symm
  set_ok := by
    intro m layer row col kc h
    change (set_keycode (layer, row, col) kc m).1 = .ok () at h
    change keycode (set_keycode (layer, row, col) kc m).2 = _
    unfold set_keycode at h ⊢
    by_cases hfail : m.fail_on_set = some (layer, row, col)
    · rw [if_pos hfail] at h
      cases h
    · rw [if_neg hfail]
      funext slot
      by_cases hslot : slot = (layer, row, col)
      · subst hslot
        rw [Function.update_self, keycode, lookup_insert_self, Option.getD_some]
      · rw [Function.update_of_ne hslot, keycode, lookup_insert_ne _ _ (Ne.symm hslot),
          keycode]
  set_error := by
    intro m layer row col kc e h
    change (set_keycode (layer, row, col) kc m).1 = .error e at h
    change keycode (set_keycode (layer, row, col) kc m).2 = _
    unfold set_keycode at h ⊢
    by_cases hfail : m.fail_on_set = some (layer, row, col)
    · rw [if_pos hfail]
    · rw [if_neg hfail] at h
      cases h
  version_keeps := fun _ => rfl
  get_keeps := fun _ _ _ _ => rfl
  layerCount_keeps := fun _ => rfl
  save_keeps := fun _ _ => rfl
  getMacro_keeps := fun _ _ _ => rfl
  setMacro_keeps := fun _ _ _ => rfl
  getLighting_keeps := fun _ _ _ => rfl
  setLighting_keeps := fun _ _ _ _ => rfl

end MockTransport

end Clackd.Hal.Via
