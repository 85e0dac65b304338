import Mathlib.Logic.Function.Basic

/-!
# Write-back buffers

A store `base` with a buffer `buf` of pending writes in front of it.  What a
reader is owed is the *overlay*: the pending value where there is one, the
stored value elsewhere.

The whole theory is three equations.  A write into the buffer is a write to the
overlay; carrying one pending entry down to the store (`settle`) does not move
the overlay; and an empty buffer means the store already is the overlay.  The
order in which entries are carried down, and how many of them are carried down
before something fails, therefore never matters to a reader.

## Main results

* `overlay_write`: a buffered write is a write.
* `overlay_settle`: flushing one entry is invisible.
* `overlay_of_empty`: with nothing pending, the store is the overlay.
-/

namespace Clackd.Foundation

universe u v

variable {K : Type u} {V : Type v}

/-- What a reader sees of `base` behind the pending writes `buf`. -/
def overlay (buf : K → Option V) (base : K → V) : K → V :=
  fun k => (buf k).getD (base k)

theorem overlay_pending {buf : K → Option V} {base : K → V} {k : K} {v : V}
    (h : buf k = some v) : overlay buf base k = v := by
  rw [overlay, h, Option.getD_some]

theorem overlay_stored {buf : K → Option V} {base : K → V} {k : K}
    (h : buf k = none) : overlay buf base k = base k := by
  rw [overlay, h, Option.getD_none]

/-- A write accepted into the buffer is a write to what readers see. -/
theorem overlay_write [DecidableEq K] (buf : K → Option V) (base : K → V) (k : K) (v : V) :
    overlay (Function.update buf k (some v)) base =
      Function.update (overlay buf base) k v := by
  funext j
  by_cases h : j = k
  · subst h
    rw [overlay, Function.update_self, Function.update_self, Option.getD_some]
  · rw [overlay, Function.update_of_ne h, Function.update_of_ne h, overlay]

/-- Carrying a pending entry down to the store does not change what readers
see. -/
theorem overlay_settle [DecidableEq K] {buf : K → Option V} {base : K → V} {k : K} {v : V}
    (h : buf k = some v) :
    overlay (Function.update buf k none) (Function.update base k v) =
      overlay buf base := by
  funext j
  by_cases hj : j = k
  · subst hj
    rw [overlay, Function.update_self, Function.update_self, Option.getD_none,
      overlay_pending h]
  · rw [overlay, Function.update_of_ne hj, Function.update_of_ne hj, overlay]

/-- With nothing pending the store is what readers see. -/
theorem overlay_of_empty {buf : K → Option V} (base : K → V)
    (h : ∀ k, buf k = none) : overlay buf base = base := by
  funext k
  exact overlay_stored (h k)

end Clackd.Foundation
