import Clackd.Foundation.Fallible
import Mathlib.Data.List.GetD

/-!
# Programs that may panic

An index past the end of a slice is not an error that a program returns: it ends the
task.  `Panicking ε σ α` is the type of fallible programs that may do so, in the
standard transformer stack, and a panic has no result and leaves no state.  Such a
program behaves as a fallible one if it never panics and has the same result and the
same state in the end.

The slice operations are partial: `none` is the panic.

## Main results

* `Behaves.bind`: parts that behave make a whole that behaves.
* `behaves_orPanic`: an operation within its bounds.
-/

namespace Clackd.Foundation

/-- A program that may fail with an `ε` or panic, and works on a state `σ`. -/
abbrev Panicking (ε σ α : Type) : Type := ExceptT ε (StateT σ Option) α

variable {ε σ α β : Type}

/-- Run a program: its result and the state it leaves, or `none` if it panics. -/
def perform (x : Panicking ε σ α) (s : σ) : Option (Except ε α × σ) := (x.run).run s

/-- A partial operation; where it is not defined it panics. -/
def orPanic (a : Option α) : Panicking ε σ α :=
  ExceptT.mk (StateT.mk fun s => a.map fun a => (.ok a, s))

/-- A program without partial operations. -/
def total (x : Fallible ε σ α) : Panicking ε σ α :=
  ExceptT.mk (StateT.mk fun s => some (exec x s))

/-- `xs[start..stop]`. -/
def sliceRange (xs : List α) (start stop : Nat) : Option (List α) :=
  if start ≤ stop ∧ stop ≤ xs.length then some ((xs.drop start).take (stop - start)) else none

/-- `v[i] = a`. -/
def setAt {n : Nat} (v : Vector α n) (i : Nat) (a : α) : Option (Vector α n) :=
  if h : i < n then some (v.set i a h) else none

/-- `v[start..stop].copy_from_slice(data)`, which also wants the lengths to be the
same. -/
def copyFromSlice {n : Nat} (v : Vector α n) (start stop : Nat) (data : List α) :
    Option (Vector α n) :=
  if h : start ≤ stop ∧ stop ≤ n ∧ data.length = stop - start then
    some (Vector.ofFn fun i =>
      if hi : start ≤ i.val ∧ i.val < stop then data.get ⟨i.val - start, by omega⟩ else v.get i)
  else
    none

theorem perform_bind (x : Panicking ε σ α) (f : α → Panicking ε σ β) (s : σ) :
    perform (x >>= f) s = (perform x s).bind fun r =>
      match r with
      | (.ok a, s) => perform (f a) s
      | (.error e, s) => some (.error e, s) := by
  show (StateT.bind x.run _ s : Option _) = _
  show (perform x s).bind _ = _
  congr 1
  funext r
  rcases r with ⟨e | a, s⟩ <;> rfl

/-- A program that never panics and does what a fallible one does. -/
def Behaves (x : Panicking ε σ α) (y : Fallible ε σ α) : Prop :=
  ∀ s, perform x s = some (exec y s)

theorem Behaves.pure (a : α) : Behaves (pure a : Panicking ε σ α) (pure a) := fun _ => rfl

theorem Behaves.throw (e : ε) : Behaves (throw e : Panicking ε σ α) (throw e) := fun _ => rfl

theorem Behaves.get : Behaves (get : Panicking ε σ σ) get := fun _ => rfl

theorem Behaves.modify (f : σ → σ) : Behaves (modify f : Panicking ε σ PUnit) (modify f) :=
  fun _ => rfl

theorem Behaves.total (x : Fallible ε σ α) : Behaves (Foundation.total x) x := fun _ => rfl

theorem Behaves.bind {x : Panicking ε σ α} {y : Fallible ε σ α} {f : α → Panicking ε σ β}
    {g : α → Fallible ε σ β} (hx : Behaves x y) (hf : ∀ a, Behaves (f a) (g a)) :
    Behaves (x >>= f) (y >>= g) := by
  intro s
  rw [perform_bind, hx s, exec_bind]
  rcases exec y s with ⟨e | a, s'⟩
  · rfl
  · exact hf a s'

theorem Behaves.map (f : α → β) {x : Panicking ε σ α} {y : Fallible ε σ α} (h : Behaves x y) :
    Behaves (f <$> x) (f <$> y) := by
  rw [map_eq_pure_bind, map_eq_pure_bind]
  exact h.bind fun a => .pure (f a)

/-- An operation within its bounds, and what follows it. -/
theorem behaves_orPanic {a : Option α} {a' : α} {f : α → Panicking ε σ β} {y : Fallible ε σ β}
    (ha : a = some a') (hf : Behaves (f a') y) : Behaves (orPanic a >>= f) y := by
  intro s
  rw [ha, perform_bind]
  exact hf s

/-- An operation within its bounds, at the end. -/
theorem behaves_last {a : Option α} {a' : α} (ha : a = some a') :
    Behaves (orPanic a : Panicking ε σ α) (pure a') := by
  intro s
  rw [ha]
  rfl

/-! ## Within the bounds -/

theorem sliceRange_eq {xs : List α} {start stop : Nat} (hle : start ≤ stop)
    (hstop : stop ≤ xs.length) :
    sliceRange xs start stop = some ((xs.drop start).take (stop - start)) := if_pos ⟨hle, hstop⟩

/-- A vector that begins with the elements of a list. -/
def filled (n : Nat) (fill : α) (xs : List α) : Vector α n :=
  Vector.ofFn fun i => xs.getD i.val fill

section Filled

variable {n : Nat} {fill : α} {xs ys : List α}

theorem getElem_filled {i : Nat} (hi : i < n) : (filled n fill xs)[i] = xs.getD i fill :=
  Vector.getElem_ofFn hi

theorem filled_nil : filled n fill [] = Vector.replicate n fill := by
  apply Vector.ext
  intro i hi
  rw [getElem_filled, Vector.getElem_replicate, List.getD_nil]

theorem toList_filled (h : xs.length = n) : (filled n fill xs).toList = xs := by
  apply List.ext_getElem
  · simp [h]
  · intro i hi hi'
    rw [Vector.getElem_toList, getElem_filled (by omega), List.getD_eq_getElem _ _ hi']

/-- The next element after those that are there. -/
theorem setAt_filled {i : Nat} (a : α) (hi : i = xs.length) (hlt : i < n) :
    setAt (filled n fill xs) i a = some (filled n fill (xs ++ [a])) := by
  subst hi
  rw [setAt, dif_pos hlt]
  congr 1
  apply Vector.ext
  intro j hj
  rw [Vector.getElem_set, getElem_filled hj, getElem_filled hj]
  by_cases hlast : xs.length = j
  · subst hlast
    simp
  · rw [if_neg hlast]
    by_cases hbefore : j < xs.length
    · rw [List.getD_append _ _ _ _ hbefore]
    · rw [List.getD_eq_default _ _ (by omega), List.getD_eq_default _ _ (by simp; omega)]

/-- A slice after those that are there. -/
theorem copyFromSlice_filled {start stop : Nat} (hstart : start = xs.length)
    (hstop : stop = start + ys.length) (hle : stop ≤ n) :
    copyFromSlice (filled n fill xs) start stop ys = some (filled n fill (xs ++ ys)) := by
  subst hstart hstop
  rw [copyFromSlice, dif_pos ⟨by omega, hle, by omega⟩]
  congr 1
  apply Vector.ext
  intro j hj
  rw [Vector.getElem_ofFn, getElem_filled hj]
  dsimp only
  by_cases hbefore : j < xs.length
  · rw [dif_neg (by omega), List.getD_append _ _ _ _ hbefore]
    exact getElem_filled hj
  · rw [List.getD_append_right _ _ _ _ (by omega)]
    by_cases hin : j < xs.length + ys.length
    · rw [dif_pos ⟨by omega, hin⟩, List.getD_eq_getElem _ _ (by omega)]
      rfl
    · rw [dif_neg (by omega), List.getD_eq_default _ _ (by omega)]
      exact (getElem_filled hj).trans (List.getD_eq_default _ _ (by omega))

end Filled

end Clackd.Foundation
