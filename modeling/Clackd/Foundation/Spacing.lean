import Mathlib.Algebra.BigOperators.Group.List.Basic
import Mathlib.Algebra.Ring.Nat

/-!
# Attempts that are spaced out

Something is tried again and again, and after each attempt the next one waits for a gap
that depends on how many there were.  `Spaced` says that of the instants of the attempts.

## Main results

* `Spaced.snoc`: one more attempt that waited long enough.
* `Spaced.elapsed`: how long after the start an attempt comes at the earliest.
-/

namespace Clackd.Foundation

variable {gap : Nat → Nat} {first : Nat} {times : List Nat}

/-- Each instant comes at least its gap after the one before. -/
def Spaced (gap : Nat → Nat) (first : Nat) (times : List Nat) : Prop :=
  ∀ i before after, (first :: times)[i]? = some before → times[i]? = some after →
    before + gap i ≤ after

theorem spaced_nil : Spaced gap first [] := by
  intro i before after _ hafter
  cases hafter

/-- The last of the instants, the first included. -/
def latest (first : Nat) (times : List Nat) : Nat := times.getLastD first

theorem getElem?_latest : (first :: times)[times.length]? = some (latest first times) := by
  induction times generalizing first with
  | nil => rfl
  | cons t times ih =>
      have hrest : (t :: times)[times.length]? = some (latest t times) := ih
      rw [List.length_cons, List.getElem?_cons_succ, hrest, latest, latest, List.getLastD_cons]

@[simp] theorem latest_snoc (t : Nat) : latest first (times ++ [t]) = t := by
  rw [latest, List.getLastD_eq_getLast?, List.getLast?_concat]
  rfl

/-- One more attempt that waited long enough. -/
theorem Spaced.snoc (h : Spaced gap first times) {t : Nat}
    (hwaited : latest first times + gap times.length ≤ t) : Spaced gap first (times ++ [t]) := by
  intro i before after hbefore hafter
  have hle : i ≤ times.length := by
    have hlt := (List.getElem?_eq_some_iff.1 hafter).1
    rw [List.length_append, List.length_singleton] at hlt
    omega
  rw [← List.cons_append, List.getElem?_append_left (by rw [List.length_cons]; omega)] at hbefore
  by_cases hlt : i < times.length
  · rw [List.getElem?_append_left hlt] at hafter
    exact h i before after hbefore hafter
  · obtain rfl : i = times.length := by omega
    rw [getElem?_latest] at hbefore
    cases hbefore
    rw [List.getElem?_append_right (Nat.le_refl _), Nat.sub_self] at hafter
    cases hafter
    exact hwaited

/-- Before an attempt, all gaps up to it have passed. -/
theorem Spaced.elapsed (h : Spaced gap first times) {n t : Nat} (ht : times[n]? = some t) :
    first + ((List.range (n + 1)).map gap).sum ≤ t := by
  induction n generalizing t with
  | zero =>
      have hone := h 0 first t rfl ht
      rw [List.range_succ, List.map_append, List.sum_append]
      simpa using hone
  | succ n ih =>
      have hlt : n < times.length := by
        have hnext := (List.getElem?_eq_some_iff.1 ht).1
        omega
      have hbefore := ih (List.getElem?_eq_getElem hlt)
      have hone := h (n + 1) times[n] t
        (by rw [List.getElem?_cons_succ, List.getElem?_eq_getElem hlt]) ht
      rw [List.range_succ, List.map_append, List.sum_append, List.map_singleton,
        List.sum_singleton]
      omega

end Clackd.Foundation
