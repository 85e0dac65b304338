import Clackd.Foundation.Table

/-!
# Slices of a list

Elements of a list that have one key, in order, form its slice at that key.  The
list is numbered by position, and so is the slice: `rank` takes the position of an
element in the list to its position in the slice.

A table with at most one key is an `entry`.

## Main results

* `getElem?_slice`, `slice_set`: the slice at the rank of a position.
* `rank_append`: appending to the list moves no rank.
* `rank_injective`: elements of a slice have different ranks.
-/

namespace Clackd.Foundation

open Std (ExtTreeMap TransOrd LawfulEqOrd)

variable {α κ : Type} [DecidableEq κ]

/-- How many of the first `i` keys are `b`. -/
def rank (keys : List κ) (b : κ) (i : Nat) : Nat := (keys.take i).count b

/-- The elements whose key is `b`. -/
def slice (key : α → κ) (b : κ) (l : List α) : List α := l.filter fun x => key x = b

variable {key : α → κ} {b : κ} {l : List α} {x y : α} {i : Nat}

theorem rank_append {keys : List κ} (more : List κ) (h : i ≤ keys.length) :
    rank (keys ++ more) b i = rank keys b i := by
  rw [rank, List.take_append_of_le_length h, rank]

theorem rank_le {keys : List κ} : rank keys b i ≤ i :=
  Nat.le_trans List.count_le_length (List.length_take_le i keys)

/-- The number after all elements of a list is the length of its slice. -/
theorem rank_length : rank (l.map key) b l.length = (slice key b l).length := by
  rw [rank, List.take_of_length_le (by simp), List.count, List.countP_map, slice,
    ← List.countP_eq_length_filter]
  congr 1

theorem slice_append (l more : List α) : slice key b (l ++ more) = slice key b l ++ slice key b more :=
  List.filter_append ..

@[simp] theorem slice_cons_self (h : key x = b) : slice key b (x :: l) = x :: slice key b l := by
  simp [slice, h]

@[simp] theorem slice_cons_other (h : key x ≠ b) : slice key b (x :: l) = slice key b l := by
  simp [slice, h]

theorem rank_cons_succ (k : κ) (keys : List κ) (b : κ) (i : Nat) :
    rank (k :: keys) b (i + 1) = rank keys b i + if k = b then 1 else 0 := by
  rw [rank, List.take_succ_cons, List.count_cons, rank]
  simp

/-- An element of the slice is found at its rank. -/
theorem getElem?_slice (hi : l[i]? = some x) (hx : key x = b) :
    (slice key b l)[rank (l.map key) b i]? = some x := by
  induction l generalizing i with
  | nil => simp at hi
  | cons y l ih =>
      cases i with
      | zero =>
          obtain rfl : y = x := by simpa using hi
          simp [hx, rank]
      | succ i =>
          rw [List.map_cons, rank_cons_succ]
          by_cases hy : key y = b
          · rw [if_pos hy, slice_cons_self hy]
            exact ih (by simpa using hi)
          · rw [if_neg hy, slice_cons_other hy]
            exact ih (by simpa using hi)

/-- Replacing an element of the slice by another of its key. -/
theorem slice_set (hi : l[i]? = some x) (hx : key x = b) (hy : key y = b) :
    slice key b (l.set i y) = (slice key b l).set (rank (l.map key) b i) y := by
  induction l generalizing i with
  | nil => simp at hi
  | cons z l ih =>
      cases i with
      | zero =>
          obtain rfl : z = x := by simpa using hi
          simp [hx, hy, rank]
      | succ i =>
          rw [List.map_cons, rank_cons_succ, List.set_cons_succ]
          by_cases hz : key z = b
          · rw [if_pos hz, slice_cons_self hz, slice_cons_self hz, List.set_cons_succ]
            rw [ih (by simpa using hi)]
          · rw [if_neg hz, slice_cons_other hz, slice_cons_other hz]
            exact ih (by simpa using hi)

/-- Replacing an element outside of the slice by another one. -/
theorem slice_set_other (hi : l[i]? = some x) (hx : key x ≠ b) (hy : key y ≠ b) :
    slice key b (l.set i y) = slice key b l := by
  induction l generalizing i with
  | nil => rfl
  | cons z l ih =>
      cases i with
      | zero =>
          obtain rfl : z = x := by simpa using hi
          simp [hx, hy]
      | succ i =>
          rw [List.set_cons_succ]
          by_cases hz : key z = b
          · rw [slice_cons_self hz, slice_cons_self hz, ih (by simpa using hi)]
          · rw [slice_cons_other hz, slice_cons_other hz]
            exact ih (by simpa using hi)

omit [DecidableEq κ] in
/-- Replacing an element by one of its key moves no keys. -/
theorem map_set_of_key (hi : l[i]? = some x) (hy : key y = key x) :
    (l.set i y).map key = l.map key := by
  rw [List.map_set, hy]
  apply List.ext_getElem?
  intro j
  rw [List.getElem?_set]
  split
  · rename_i hj
    subst hj
    obtain ⟨hlt, heq⟩ := List.getElem?_eq_some_iff.1 hi
    simp [hlt, heq]
  · rfl

/-- An element of the slice has a lower rank than every later one. -/
theorem rank_lt {keys : List κ} {j : Nat} (hi : keys[i]? = some b) (hij : i < j) :
    rank keys b i < rank keys b j := by
  induction keys generalizing i j with
  | nil => simp at hi
  | cons k keys ih =>
      obtain ⟨j, rfl⟩ : ∃ m, j = m + 1 := ⟨j - 1, by omega⟩
      cases i with
      | zero =>
          obtain rfl : k = b := by simpa using hi
          rw [rank_cons_succ, if_pos rfl, rank]
          simp
      | succ i =>
          rw [rank_cons_succ, rank_cons_succ]
          have hlt := ih (i := i) (j := j) (by simpa using hi) (by omega)
          omega

/-- Different elements of a slice have different ranks. -/
theorem rank_injective {keys : List κ} {j : Nat} (hi : keys[i]? = some b)
    (hj : keys[j]? = some b) (h : rank keys b i = rank keys b j) : i = j := by
  rcases Nat.lt_trichotomy i j with hlt | heq | hlt
  · have := rank_lt hi hlt
    omega
  · exact heq
  · have := rank_lt hj hlt
    omega

/-! ## Tables with one key -/

section Entry

variable {K V : Type} [Ord K] [TransOrd K]

/-- The table with the value at the key, if there is one. -/
def entry (k : K) : Option V → ExtTreeMap K V
  | none => ∅
  | some v => (∅ : ExtTreeMap K V).insert k v

variable [LawfulEqOrd K] [DecidableEq K] (k : K) (v : Option V)

@[simp] theorem lookup_entry : (entry k v)[k]? = v := by
  cases v with
  | none => exact ExtTreeMap.getElem?_empty
  | some v => exact lookup_insert_self _ k v

theorem lookup_entry_ne {a : K} (h : k ≠ a) : (entry k v)[a]? = none := by
  cases v with
  | none => exact ExtTreeMap.getElem?_empty
  | some v => rw [entry, lookup_insert_ne _ v h, ExtTreeMap.getElem?_empty]

@[simp] theorem erase_entry : (entry k v).erase k = entry k none := by
  apply ExtTreeMap.ext_getElem?
  intro a
  rw [lookup_erase]
  split
  · rename_i h
    subst h
    simp
  · rename_i h
    rw [lookup_entry_ne k v h, lookup_entry_ne k none h]

@[simp] theorem insert_entry (u : V) : (entry k v).insert k u = entry k (some u) := by
  apply ExtTreeMap.ext_getElem?
  intro a
  rw [lookup_insert]
  split
  · rename_i h
    subst h
    simp
  · rename_i h
    rw [lookup_entry_ne k v h, lookup_entry_ne k (some u) h]

end Entry

end Clackd.Foundation
