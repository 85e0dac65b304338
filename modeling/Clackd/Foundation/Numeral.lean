import Mathlib

/-!
# Numbers in text

A number is read from its digits from the left, and the reading stops where the number is
out of range.  `numeral` is the reading without a range.  A reader that has one reads the
same numbers, as far as they are in range: what is read never gets smaller.

## Main results

* `bounded_iff`: what a reader with a range reads.
* `numeral_toDigits`, `numeral_zeros`: digits that were written, with zeros in front.
-/

namespace Clackd.Foundation

section Reading

variable (value : Char → Option Nat) (base : Nat)

/-- The number that the digits make of the one that was read before them. -/
def numeral (n : Nat) (s : List Char) : Option Nat :=
  s.foldlM (fun n c => (value c).map fun d => n * base + d) n

/-- Reading with a range: `bound` is the first number that is too large. -/
def bounded (bound n : Nat) (s : List Char) : Option Nat :=
  s.foldlM (fun n c => do
    let d ← value c
    if n * base + d < bound then some (n * base + d) else none) n

variable {value base}

@[simp] theorem numeral_nil (n : Nat) : numeral value base n [] = some n := rfl

theorem numeral_cons (n : Nat) (c : Char) (s : List Char) :
    numeral value base n (c :: s) =
      (value c).bind fun d => numeral value base (n * base + d) s := by
  rw [numeral, List.foldlM_cons]
  cases value c <;> rfl

theorem numeral_append (n : Nat) (s t : List Char) :
    numeral value base n (s ++ t) =
      (numeral value base n s).bind fun m => numeral value base m t :=
  List.foldlM_append

/-- What is read never gets smaller. -/
theorem le_of_numeral (hbase : 0 < base) {n v : Nat} {s : List Char}
    (h : numeral value base n s = some v) : n ≤ v := by
  induction s generalizing n with
  | nil =>
      cases h
      exact Nat.le_refl _
  | cons c s ih =>
      rw [numeral_cons] at h
      obtain ⟨d, -, hrest⟩ := Option.bind_eq_some_iff.1 h
      have hle := ih hrest
      have hmul := Nat.le_mul_of_pos_right n hbase
      omega

/-- Every character of a number is a digit. -/
theorem digits_of_numeral {n v : Nat} {s : List Char} (h : numeral value base n s = some v) :
    ∀ c ∈ s, (value c).isSome = true := by
  induction s generalizing n with
  | nil => exact fun c hc => absurd hc List.not_mem_nil
  | cons c s ih =>
      rw [numeral_cons] at h
      obtain ⟨d, hd, hrest⟩ := Option.bind_eq_some_iff.1 h
      intro c' hc'
      rcases List.mem_cons.1 hc' with rfl | hmem
      · rw [hd]
        rfl
      · exact ih hrest c' hmem

/-- A reader with a range reads the numbers that are in it. -/
theorem bounded_iff (hbase : 0 < base) {bound n v : Nat} (hn : n < bound) (s : List Char) :
    bounded value base bound n s = some v ↔ numeral value base n s = some v ∧ v < bound := by
  induction s generalizing n with
  | nil =>
      constructor
      · intro h
        cases h
        exact ⟨rfl, hn⟩
      · rintro ⟨h, -⟩
        cases h
        rfl
  | cons c s ih =>
      rw [bounded, List.foldlM_cons, numeral_cons]
      cases hd : value c with
      | none => simp
      | some d =>
          show (if n * base + d < bound then some (n * base + d) else none).bind
            (fun m => bounded value base bound m s) = some v ↔ _
          by_cases hlt : n * base + d < bound
          · rw [if_pos hlt]
            exact ih hlt
          · -- Too large now, and so at the end.
            rw [if_neg hlt]
            refine ⟨fun h => (by cases h), ?_⟩
            rintro ⟨hread, hv⟩
            have hle := le_of_numeral hbase hread
            omega

end Reading

/-! ## Writing -/

section Writing

variable {value : Char → Option Nat} {base : Nat}

/-- Digits that were written are read as their number. -/
theorem numeral_toDigits (hbase : 1 < base)
    (hvalue : ∀ d, d < base → value d.digitChar = some d) (n : Nat) :
    numeral value base 0 (Nat.toDigits base n) = some n := by
  have hdigit : ∀ m d, d < base →
      numeral value base m [d.digitChar] = some (m * base + d) := by
    intro m d hd
    rw [numeral_cons, hvalue d hd]
    rfl
  induction n using Nat.strong_induction_on with
  | _ n ih =>
      by_cases hn : n < base
      · rw [Nat.toDigits_of_lt_base hn, hdigit 0 n hn, Nat.zero_mul, Nat.zero_add]
      · have hle : base ≤ n := Nat.le_of_not_lt hn
        have hless : n / base < n := Nat.div_lt_self (by omega) hbase
        rw [Nat.toDigits_of_base_le hbase hle, numeral_append, ih _ hless]
        show numeral value base (n / base) [(n % base).digitChar] = some n
        rw [hdigit _ _ (Nat.mod_lt _ (by omega)), Nat.div_add_mod']

/-- Zeros in front do not count. -/
theorem numeral_zeros (hzero : value '0' = some 0) (k : Nat) (s : List Char) :
    numeral value base 0 (List.replicate k '0' ++ s) = numeral value base 0 s := by
  induction k with
  | zero => rfl
  | succ k ih =>
      rw [List.replicate_succ, List.cons_append, numeral_cons, hzero, Option.bind_some,
        Nat.zero_mul, Nat.zero_add, ih]

/-- `n` in at least `width` digits. -/
def padded (base width n : Nat) : List Char :=
  List.replicate (width - (Nat.toDigits base n).length) '0' ++ Nat.toDigits base n

theorem padded_ne_nil (width n : Nat) : padded base width n ≠ [] :=
  List.append_ne_nil_of_right_ne_nil _ Nat.toDigits_ne_nil

/-- A padded number is read as itself. -/
theorem numeral_padded (hbase : 1 < base) (hvalue : ∀ d, d < base → value d.digitChar = some d)
    (width n : Nat) : numeral value base 0 (padded base width n) = some n := by
  rw [padded, numeral_zeros (hvalue 0 (by omega)), numeral_toDigits hbase hvalue]

/-- The number of digits, where they are enough. -/
theorem length_padded (hbase : 1 < base) {width n : Nat} (hwidth : 0 < width)
    (hn : n < base ^ width) : (padded base width n).length = width := by
  have hle := (Nat.length_toDigits_le_iff hbase hwidth).2 hn
  rw [padded, List.length_append, List.length_replicate]
  omega

end Writing

end Clackd.Foundation
