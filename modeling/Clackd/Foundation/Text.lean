import Mathlib

/-!
# Byte offsets into text

Text that is stored as UTF-8 is cut by byte offsets, but it can only be cut between two
characters.  `splitAtByte` is that cut; it has no result where the offset lies within a
character or past the end.

## Main results

* `splitAtByte_append`: at the end of a part of the text, the cut gives that part.
* `splitAtByte_two`: when the first two bytes can be cut off, and what they are.
-/

namespace Clackd.Foundation

/-- The length of the text in bytes. -/
def utf8Length (text : List Char) : Nat := (text.map Char.utf8Size).sum

@[simp] theorem utf8Length_nil : utf8Length [] = 0 := rfl

@[simp] theorem utf8Length_cons (c : Char) (text : List Char) :
    utf8Length (c :: text) = c.utf8Size + utf8Length text := by
  rw [utf8Length, List.map_cons, List.sum_cons, utf8Length]

@[simp] theorem utf8Length_append (text more : List Char) :
    utf8Length (text ++ more) = utf8Length text + utf8Length more := by
  rw [utf8Length, List.map_append, List.sum_append, utf8Length, utf8Length]

theorem length_le_utf8Length (text : List Char) : text.length ≤ utf8Length text := by
  induction text with
  | nil => exact Nat.le_refl 0
  | cons c text ih =>
      have hpos := c.utf8Size_pos
      rw [List.length_cons, utf8Length_cons]
      omega

theorem utf8Length_of_ascii {text : List Char} (h : ∀ c ∈ text, c.utf8Size = 1) :
    utf8Length text = text.length := by
  induction text with
  | nil => rfl
  | cons c text ih =>
      have hc := h c List.mem_cons_self
      have htext := ih fun d hd => h d (List.mem_cons_of_mem c hd)
      rw [List.length_cons, utf8Length_cons]
      omega

/-- The text before and after the byte offset. -/
def splitAtByte : List Char → Nat → Option (List Char × List Char)
  | text, 0 => some ([], text)
  | [], _ + 1 => none
  | c :: text, n + 1 =>
      if c.utf8Size ≤ n + 1 then
        (splitAtByte text (n + 1 - c.utf8Size)).map fun (before, after) => (c :: before, after)
      else none

/-- The text between two byte offsets. -/
def byteSlice (text : List Char) (start stop : Nat) : Option (List Char) :=
  if start ≤ stop then do
    let (_, rest) ← splitAtByte text start
    let (slice, _) ← splitAtByte rest (stop - start)
    return slice
  else none

@[simp] theorem splitAtByte_zero (text : List Char) : splitAtByte text 0 = some ([], text) := by
  cases text <;> rfl

theorem splitAtByte_cons {c : Char} {text : List Char} {n : Nat} (h : c.utf8Size ≤ n) :
    splitAtByte (c :: text) n =
      (splitAtByte text (n - c.utf8Size)).map fun (before, after) => (c :: before, after) := by
  have hpos := c.utf8Size_pos
  cases n with
  | zero => omega
  | succ n => exact if_pos h

theorem splitAtByte_within {c : Char} {text : List Char} {n : Nat} (hn : 0 < n)
    (h : n < c.utf8Size) : splitAtByte (c :: text) n = none := by
  cases n with
  | zero => omega
  | succ n => exact if_neg (by omega)

/-- At the end of a part of the text, the cut gives that part. -/
theorem splitAtByte_append (text rest : List Char) :
    splitAtByte (text ++ rest) (utf8Length text) = some (text, rest) := by
  induction text with
  | nil => exact splitAtByte_zero rest
  | cons c text ih =>
      have hle : c.utf8Size ≤ utf8Length (c :: text) := by
        rw [utf8Length_cons]
        omega
      rw [List.cons_append, splitAtByte_cons hle, utf8Length_cons, Nat.add_sub_cancel_left, ih]
      rfl

/-- Cutting behind what has been read already. -/
theorem byteSlice_append (done rest : List Char) (n : Nat) :
    byteSlice (done ++ rest) (utf8Length done) (utf8Length done + n) =
      (splitAtByte rest n).map Prod.fst := by
  rw [byteSlice, if_pos (by omega), splitAtByte_append, Nat.add_sub_cancel_left]
  show (splitAtByte rest n).bind (fun (slice, _) => some slice) = _
  cases splitAtByte rest n <;> rfl

/-! ## The first two bytes -/

theorem splitAtByte_two_ascii {a b : Char} {text : List Char} (ha : a.utf8Size = 1)
    (hb : b.utf8Size = 1) : splitAtByte (a :: b :: text) 2 = some ([a, b], text) := by
  rw [splitAtByte_cons (by omega), ha, splitAtByte_cons (by omega), hb, splitAtByte_zero]
  rfl

theorem splitAtByte_two_wide {c : Char} {text : List Char} (hc : c.utf8Size = 2) :
    splitAtByte (c :: text) 2 = some ([c], text) := by
  rw [splitAtByte_cons (by omega), hc, splitAtByte_zero]
  rfl

/-- The text starts with two bytes that do not end between two characters. -/
def CutsCharacter : List Char → Prop
  | [] => False
  | c :: text => 3 ≤ c.utf8Size ∨ c.utf8Size = 1 ∧ ∃ d more, text = d :: more ∧ 2 ≤ d.utf8Size

theorem splitAtByte_two_cuts {text : List Char} (h : CutsCharacter text) :
    splitAtByte text 2 = none := by
  cases text with
  | nil => cases h
  | cons c text =>
      rcases h with hc | ⟨hc, d, more, rfl, hd⟩
      · exact splitAtByte_within (by omega) (by omega)
      · rw [splitAtByte_cons (by omega), hc, splitAtByte_within (by omega) (by omega)]
        rfl

/-- The first two bytes are two characters, are one, or cut a character. -/
theorem two_bytes_cases {text : List Char} (h : 2 ≤ utf8Length text) :
    (∃ a b more, text = a :: b :: more ∧ a.utf8Size = 1 ∧ b.utf8Size = 1) ∨
      (∃ c more, text = c :: more ∧ c.utf8Size = 2) ∨ CutsCharacter text := by
  cases text with
  | nil => exact absurd h (by decide)
  | cons c text =>
      have hpos := c.utf8Size_pos
      by_cases hone : c.utf8Size = 1
      · cases text with
        | nil =>
            rw [utf8Length_cons, hone, utf8Length_nil] at h
            omega
        | cons d text =>
            have hd := d.utf8Size_pos
            by_cases hsecond : d.utf8Size = 1
            · exact .inl ⟨c, d, text, rfl, hone, hsecond⟩
            · exact .inr (.inr (.inr ⟨hone, d, text, rfl, by omega⟩))
      · by_cases htwo : c.utf8Size = 2
        · exact .inr (.inl ⟨c, text, rfl, htwo⟩)
        · exact .inr (.inr (.inl (by omega)))

end Clackd.Foundation
