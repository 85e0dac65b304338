import Clackd.Engine.System

/-!
# The driver of the engine's tests

`MockDriver` reports fixed dimensions, answers `get_keycode` from a list and
succeeds at everything else.  `mockTable` opens whatever the run supplies.
-/

namespace Clackd.Engine

open Clackd.Foundation Clackd.Hal

/-- The mock driver. -/
structure MockDriver where
  matrix : UInt8 × UInt8
  layers : UInt8
  get_returns : List (Except DriverError UInt16)

/-- The next of the answers, or `KC_NO` when there are none. -/
def MockDriver.next_return : DriverM MockDriver UInt16 :=
  primitive fun d =>
    match d.get_returns with
    | [] => (.ok 0, d)
    | r :: rest => (r, { d with get_returns := rest })

instance : KeyboardDriver MockDriver where
  get_matrix_dimensions _ := do return (← get).matrix
  get_layer_count _ := do return (← get).layers
  get_keycode _ _ _ _ := MockDriver.next_return
  set_keycode _ _ _ _ _ := pure ()
  get_macro_buffer _ _ length := pure (List.replicate length.toNat 0)
  set_macro_buffer _ _ _ := pure ()
  get_lighting _ _ _ := pure (List.replicate 4 0)
  set_lighting _ _ _ _ := pure ()
  commit_to_nvram _ := pure ()
  emits_layout_event_per_set _ := true
  model_name _ := "VIA keyboard"

/-- The mock driver spawns nothing. -/
instance : BackgroundTasks MockDriver where
  wake _ _ _ _ := none

/-- A table whose only factory gives what the world says. -/
def mockTable : DriverTable (Except DaemonError MockDriver) MockDriver where
  by_vid_pid _ := none
  via_fallback := some fun world _ => world

/-- A one-layer two-by-two board that answers as told. -/
def mockDriver (get_returns : List (Except DriverError UInt16)) : MockDriver :=
  ⟨(2, 2), 1, get_returns⟩

end Clackd.Engine
