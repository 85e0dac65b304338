import Clackd.Boot
import Clackd.Foundation.Text

/-!
# Hex on the command line

`clackctl` reads bytes and colours from its arguments.  `parse_hex_bytes` checks that the
text has an even number of bytes and then cuts it into slices of two bytes, which it can
only do between two characters; a slice that cuts a character is a panic, shown as
`none`.  The slices go to `u8::from_str_radix`, and six bytes of a colour to that of
`u32`, which both take a plus sign for the start of a number.

## Main results

* `hex_bytes_from_cases`: where the slices can lead, from any of them on.
* `hexExact_iff`, `colorExact_iff`: each parser reads exactly hex digits on exactly the
  texts on which no slice cuts a character and no sign stands for a digit.
-/

namespace Clackd.Cli

open Clackd.Foundation
open Clackd.Boot (trim to_digit_16)

/-! ## Numbers -/

/-- `from_str_radix(s, 16)` of an unsigned type that has `bound` values: one leading plus
sign is allowed, and no overflow. -/
def from_str_radix_16 (bound : Nat) (s : List Char) : Option Nat :=
  let digits := if s.head? = some '+' then s.tail else s
  if digits.isEmpty then none
  else
    digits.foldlM (fun n c => do
      let d ← to_digit_16 c
      if n * 16 + d < bound then some (n * 16 + d) else none) 0

/-- `u8::from_str_radix(s, 16)`. -/
def u8_from_hex (s : List Char) : Option UInt8 := (from_str_radix_16 256 s).map UInt8.ofNat

/-- `u32::from_str_radix(s, 16)`. -/
def u32_from_hex (s : List Char) : Option UInt32 :=
  (from_str_radix_16 (2 ^ 32) s).map UInt32.ofNat

/-! ## Bytes -/

/-- `s.strip_prefix("0x").or_else(|| s.strip_prefix("0X")).unwrap_or(s)`. -/
def strip_0x (s : List Char) : List Char :=
  match s with
  | '0' :: 'x' :: hex => hex
  | '0' :: 'X' :: hex => hex
  | _ => s

/-- The iterator, from the byte offset `i` on, up to the first error. -/
def hex_bytes_from (s hex : List Char) (i : Nat) : Option (Except String (List UInt8)) :=
  if i < utf8Length hex then do
    let pair ← byteSlice hex i (i + 2)
    match u8_from_hex pair with
    | none =>
        return .error
          ("invalid hex byte at position " ++ toString i ++ " in '" ++ String.ofList s ++ "'")
    | some byte => (hex_bytes_from s hex (i + 2)).map fun rest => rest.map (byte :: ·)
  else
    return .ok []
termination_by utf8Length hex - i

/-- Parses a hex string into bytes. -/
def parse_hex_bytes (arg : String) : Option (Except String (List UInt8)) :=
  let s := trim arg.toList
  let hex := strip_0x s
  if utf8Length hex % 2 ≠ 0 then
    some (.error ("hex data must have even length, got '" ++ String.ofList s ++ "'"))
  else hex_bytes_from s hex 0

/-! ## Colours -/

/-- A colour as `[u8; 3]`. -/
abbrev Rgb : Type := UInt8 × UInt8 × UInt8

def COLORS : List (String × Rgb) :=
  [("red", (0xFF, 0x00, 0x00)),
    ("orange", (0xFF, 0x80, 0x00)),
    ("yellow", (0xFF, 0xFF, 0x00)),
    ("green", (0x00, 0xFF, 0x00)),
    ("cyan", (0x00, 0xFF, 0xFF)),
    ("blue", (0x00, 0x00, 0xFF)),
    ("purple", (0x80, 0x00, 0xFF)),
    ("magenta", (0xFF, 0x00, 0xFF)),
    ("pink", (0xFF, 0x69, 0xB4)),
    ("white", (0xFF, 0xFF, 0xFF))]

/-- `str::eq_ignore_ascii_case`. -/
def eq_ignore_ascii_case (s t : List Char) : Bool := s.map Char.toLower = t.map Char.toLower

/-- `raw.strip_prefix('#').unwrap_or(raw)`. -/
def strip_hash (raw : List Char) : List Char :=
  match raw with
  | '#' :: hex => hex
  | _ => raw

/-- Parses a colour: a name, or hex with or without `#`. -/
def parse_color (s : String) : Except String Rgb :=
  let raw := trim s.toList
  match COLORS.find? (fun (name, _) => eq_ignore_ascii_case name.toList raw) with
  | some (_, rgb) => .ok rgb
  | none =>
      let hex := strip_hash raw
      let unknown : Except String Rgb :=
        .error ("unknown colour '" ++ s ++ "' (use #rrggbb, or one of: " ++
          ", ".intercalate (COLORS.map Prod.fst) ++ ")")
      if utf8Length hex = 6 then
        match u32_from_hex hex with
        | some v => .ok ((v >>> 16).toUInt8, (v >>> 8).toUInt8, v.toUInt8)
        | none => unknown
      else unknown

/-! ## Digits -/

theorem to_digit_16_lt {c : Char} {d : Nat} (h : to_digit_16 c = some d) : d < 16 := by
  rw [to_digit_16] at h
  split at h
  · cases h
    omega
  · split at h
    · cases h
      omega
    · split at h
      · cases h
        omega
      · cases h

/-- Hex digits are ASCII. -/
theorem utf8Size_of_digit {c : Char} {d : Nat} (h : to_digit_16 c = some d) : c.utf8Size = 1 := by
  have hle : c.toNat ≤ 127 := by
    rw [to_digit_16] at h
    split at h
    · omega
    · split at h
      · omega
      · split at h
        · omega
        · cases h
  exact Char.utf8Size_eq_one_iff.mpr (UInt32.le_iff_toNat_le.mpr hle)

/-- Without overflow, the digits are read one after the other. -/
theorem radix_fold (bound : Nat) (s : List Char) (n : Nat) (h : (n + 1) * 16 ^ s.length ≤ bound) :
    s.foldlM (fun n c => do
      let d ← to_digit_16 c
      if n * 16 + d < bound then some (n * 16 + d) else none) n =
      (s.mapM to_digit_16).map fun ds => ds.foldl (fun n d => n * 16 + d) n := by
  induction s generalizing n with
  | nil => rfl
  | cons c s ih =>
      rw [List.foldlM_cons, List.mapM_cons]
      cases hd : to_digit_16 c with
      | none => rfl
      | some d =>
          have hlt := to_digit_16_lt hd
          have hpow : 0 < 16 ^ s.length := Nat.pow_pos (by decide)
          have hle : (n * 16 + d + 1) * 16 ^ s.length ≤ bound := by
            refine Nat.le_trans ?_ h
            rw [List.length_cons, Nat.pow_succ', ← Nat.mul_assoc]
            exact Nat.mul_le_mul_right _ (by omega)
          have hbound : n * 16 + d < bound := by
            have hone := Nat.le_mul_of_pos_right (n * 16 + d + 1) hpow
            omega
          show (if n * 16 + d < bound then some (n * 16 + d) else none).bind _ = _
          rw [if_pos hbound, Option.bind_some, ih _ hle]
          cases s.mapM to_digit_16 <;> rfl

theorem from_str_radix_16_unsigned {bound : Nat} {s : List Char} (hsign : s.head? ≠ some '+')
    (hs : s ≠ []) (h : 16 ^ s.length ≤ bound) :
    from_str_radix_16 bound s =
      (s.mapM to_digit_16).map fun ds => ds.foldl (fun n d => n * 16 + d) 0 := by
  have hempty : s.isEmpty = false := List.isEmpty_eq_false_iff.mpr hs
  rw [from_str_radix_16, if_neg hsign]
  simp only [hempty]
  exact radix_fold bound s 0 (by omega)

theorem from_str_radix_16_signed {bound : Nat} {s : List Char} (hs : s ≠ [])
    (h : 16 ^ s.length ≤ bound) :
    from_str_radix_16 bound ('+' :: s) =
      (s.mapM to_digit_16).map fun ds => ds.foldl (fun n d => n * 16 + d) 0 := by
  have hempty : s.isEmpty = false := List.isEmpty_eq_false_iff.mpr hs
  have hhead : ('+' :: s).head? = some '+' := rfl
  rw [from_str_radix_16, if_pos hhead]
  simp only [List.tail_cons, hempty]
  exact radix_fold bound s 0 (by omega)

/-! ## Pairs -/

/-- The byte that two hex digits spell. -/
def hexPair (a b : Char) : Option UInt8 := do
  let hi ← to_digit_16 a
  let lo ← to_digit_16 b
  return UInt8.ofNat (hi * 16 + lo)

/-- The byte that a slice of two ASCII characters is read as: a sign may stand for the
first digit. -/
def signedPair (a b : Char) : Option UInt8 :=
  if a = '+' then (to_digit_16 b).map UInt8.ofNat else hexPair a b

/-- The text consists of pairs, and these are their bytes. -/
inductive Pairs (pair : Char → Char → Option UInt8) : List Char → List UInt8 → Prop
  | nil : Pairs pair [] []
  | cons {a b : Char} {byte : UInt8} {text : List Char} {bytes : List UInt8} :
      pair a b = some byte → Pairs pair text bytes → Pairs pair (a :: b :: text) (byte :: bytes)

theorem hexPair_ascii {a b : Char} {byte : UInt8} (h : hexPair a b = some byte) :
    a.utf8Size = 1 ∧ b.utf8Size = 1 := by
  obtain ⟨hi, ha, h⟩ := Option.bind_eq_some_iff.mp h
  obtain ⟨lo, hb, -⟩ := Option.bind_eq_some_iff.mp h
  exact ⟨utf8Size_of_digit ha, utf8Size_of_digit hb⟩

theorem hexPair_ne_sign {a b : Char} {byte : UInt8} (h : hexPair a b = some byte) : a ≠ '+' := by
  rintro rfl
  cases h

theorem signedPair_of_hexPair {a b : Char} {byte : UInt8} (h : hexPair a b = some byte) :
    signedPair a b = some byte := by
  rw [signedPair, if_neg (hexPair_ne_sign h), h]

theorem signedPair_ascii {a b : Char} {byte : UInt8} (h : signedPair a b = some byte) :
    a.utf8Size = 1 ∧ b.utf8Size = 1 := by
  rw [signedPair] at h
  split at h
  · next hsign =>
      obtain ⟨lo, hb, -⟩ := Option.map_eq_some_iff.mp h
      exact ⟨by rw [hsign]; rfl, utf8Size_of_digit hb⟩
  · exact hexPair_ascii h

theorem u8_from_hex_two (a b : Char) : u8_from_hex [a, b] = signedPair a b := by
  rw [u8_from_hex, signedPair]
  by_cases hsign : a = '+'
  · have hbound : 16 ^ [b].length ≤ 256 := show 16 ^ 1 ≤ 256 by decide
    rw [if_pos hsign, hsign, from_str_radix_16_signed (by simp) hbound]
    cases hb : to_digit_16 b <;> simp [hb]
  · have hhead : [a, b].head? ≠ some '+' := by simpa using hsign
    have hbound : 16 ^ [a, b].length ≤ 256 := show 16 ^ 2 ≤ 256 by decide
    rw [if_neg hsign, from_str_radix_16_unsigned hhead (by simp) hbound, hexPair]
    cases ha : to_digit_16 a with
    | none => simp [ha]
    | some hi => cases hb : to_digit_16 b <;> simp [ha, hb]

theorem u8_from_hex_wide {c : Char} (hc : c.utf8Size = 2) : u8_from_hex [c] = none := by
  have hsign : c ≠ '+' := by
    rintro rfl
    exact absurd hc (by decide)
  have hdigit : to_digit_16 c = none := by
    cases hd : to_digit_16 c with
    | none => rfl
    | some d =>
        have hone := utf8Size_of_digit hd
        omega
  have hbound : 16 ^ [c].length ≤ 256 := show 16 ^ 1 ≤ 256 by decide
  rw [u8_from_hex, from_str_radix_16_unsigned (by simpa using hsign) (by simp) hbound]
  simp [hdigit]

theorem Pairs.signed {text : List Char} {bytes : List UInt8} (h : Pairs hexPair text bytes) :
    Pairs signedPair text bytes := by
  induction h with
  | nil => exact .nil
  | cons hpair _ ih => exact .cons (signedPair_of_hexPair hpair) ih

theorem Pairs.unsigned {text : List Char} {bytes : List UInt8} (h : Pairs signedPair text bytes)
    (hsign : '+' ∉ text) : Pairs hexPair text bytes := by
  induction h with
  | nil => exact .nil
  | @cons a b byte text bytes hpair _ ih =>
      have ha : a ≠ '+' := by
        rintro rfl
        exact hsign List.mem_cons_self
      rw [signedPair, if_neg ha] at hpair
      exact .cons hpair (ih fun h => hsign (by simp [h]))

/-- Every character of hex pairs is a digit. -/
theorem Pairs.digits {text : List Char} {bytes : List UInt8} (h : Pairs hexPair text bytes) :
    ∀ c ∈ text, (to_digit_16 c).isSome := by
  induction h with
  | nil => simp
  | @cons a b byte text bytes hpair _ ih =>
      obtain ⟨hi, ha, hpair⟩ := Option.bind_eq_some_iff.mp hpair
      obtain ⟨lo, hb, -⟩ := Option.bind_eq_some_iff.mp hpair
      simpa [ha, hb] using ih

theorem Pairs.length {pair : Char → Char → Option UInt8} {text : List Char} {bytes : List UInt8}
    (h : Pairs pair text bytes) : text.length = 2 * bytes.length := by
  induction h with
  | nil => rfl
  | cons _ _ ih =>
      rw [List.length_cons, List.length_cons, List.length_cons]
      omega

theorem Pairs.utf8Length {text : List Char} {bytes : List UInt8} (h : Pairs signedPair text bytes) :
    utf8Length text = text.length := by
  induction h with
  | nil => rfl
  | cons hpair _ ih =>
      obtain ⟨ha, hb⟩ := signedPair_ascii hpair
      rw [utf8Length_cons, utf8Length_cons, List.length_cons, List.length_cons]
      omega

/-! ## Where the slices lead -/

/-- The text starts with a slice that no number is read from. -/
def Refused (text : List Char) : Prop :=
  (∃ c more, text = c :: more ∧ c.utf8Size = 2) ∨
    ∃ a b more, text = a :: b :: more ∧ a.utf8Size = 1 ∧ b.utf8Size = 1 ∧ signedPair a b = none

section Slices

variable (s : List Char)

theorem hex_bytes_from_end (done : List Char) :
    hex_bytes_from s done (utf8Length done) = some (.ok []) := by
  rw [hex_bytes_from, if_neg (Nat.lt_irrefl _)]
  rfl

/-- One slice. -/
theorem hex_bytes_from_step (done : List Char) {rest : List Char} (h : rest ≠ []) :
    hex_bytes_from s (done ++ rest) (utf8Length done) =
      (splitAtByte rest 2).bind fun slice =>
        match u8_from_hex slice.1 with
        | none => some (.error ("invalid hex byte at position " ++ toString (utf8Length done) ++
            " in '" ++ String.ofList s ++ "'"))
        | some byte => (hex_bytes_from s (done ++ rest) (utf8Length done + 2)).map
            fun rest => rest.map (byte :: ·) := by
  have hpos := List.length_pos_iff.mpr h
  have hlen := length_le_utf8Length rest
  have hlt : utf8Length done < utf8Length (done ++ rest) := by
    rw [utf8Length_append]
    omega
  rw [hex_bytes_from, if_pos hlt, byteSlice_append]
  cases splitAtByte rest 2 <;> rfl

theorem hex_bytes_from_cut (done : List Char) {rest : List Char} (h : CutsCharacter rest) :
    hex_bytes_from s (done ++ rest) (utf8Length done) = none := by
  have hne : rest ≠ [] := by
    rintro rfl
    exact h
  rw [hex_bytes_from_step s done hne, splitAtByte_two_cuts h]
  rfl

theorem hex_bytes_from_refused (done : List Char) {rest : List Char} (h : Refused rest) :
    ∃ reason, hex_bytes_from s (done ++ rest) (utf8Length done) = some (.error reason) := by
  rcases h with ⟨c, more, rfl, hc⟩ | ⟨a, b, more, rfl, ha, hb, hpair⟩
  · rw [hex_bytes_from_step s done (by simp), splitAtByte_two_wide hc, Option.bind_some,
      u8_from_hex_wide hc]
    exact ⟨_, rfl⟩
  · rw [hex_bytes_from_step s done (by simp), splitAtByte_two_ascii ha hb, Option.bind_some,
      u8_from_hex_two, hpair]
    exact ⟨_, rfl⟩

/-- Pairs are read, and the loop goes on behind them. -/
theorem hex_bytes_from_pairs (done : List Char) {text : List Char} {bytes : List UInt8}
    (h : Pairs signedPair text bytes) (rest : List Char) :
    hex_bytes_from s (done ++ (text ++ rest)) (utf8Length done) =
      (hex_bytes_from s (done ++ (text ++ rest)) (utf8Length (done ++ text))).map
        fun more => more.map (bytes ++ ·) := by
  induction h generalizing done with
  | nil =>
      rw [List.append_nil]
      cases hex_bytes_from s (done ++ ([] ++ rest)) (utf8Length done) with
      | none => rfl
      | some result => cases result <;> rfl
  | @cons a b byte text bytes hpair _ ih =>
      obtain ⟨ha, hb⟩ := signedPair_ascii hpair
      have hlen : utf8Length done + 2 = utf8Length (done ++ [a, b]) := by
        rw [utf8Length_append, utf8Length_cons, utf8Length_cons, utf8Length_nil]
        omega
      have hsplit : done ++ (a :: b :: text ++ rest) = done ++ [a, b] ++ (text ++ rest) := by
        simp
      have htext : done ++ (a :: b :: text) = done ++ [a, b] ++ text := by simp
      rw [hex_bytes_from_step s done (by simp), List.cons_append, List.cons_append,
        splitAtByte_two_ascii ha hb, Option.bind_some, u8_from_hex_two, hpair, hlen,
        ← List.cons_append, ← List.cons_append, hsplit, htext, ih (done ++ [a, b])]
      cases hex_bytes_from s (done ++ [a, b] ++ (text ++ rest))
          (utf8Length (done ++ [a, b] ++ text)) with
      | none => rfl
      | some result => cases result <;> rfl

end Slices

/-- Text of an even number of bytes consists of pairs, or behind some of them a slice cuts a
character or is refused. -/
theorem pairs_or (text : List Char) (h : utf8Length text % 2 = 0) :
    ∃ lead bytes rest, text = lead ++ rest ∧ Pairs signedPair lead bytes ∧
      (rest = [] ∨ CutsCharacter rest ∨ Refused rest) := by
  induction hn : text.length using Nat.strong_induction_on generalizing text with
  | _ n ih =>
      by_cases hempty : text = []
      · exact ⟨[], [], text, rfl, .nil, .inl hempty⟩
      · have hpos := List.length_pos_iff.mpr hempty
        have hlen := length_le_utf8Length text
        have htwo : 2 ≤ utf8Length text := by omega
        rcases two_bytes_cases htwo with
          ⟨a, b, more, rfl, ha, hb⟩ | hwide | hcut
        · cases hpair : signedPair a b with
          | none => exact ⟨[], [], _, rfl, .nil, .inr (.inr (.inr ⟨a, b, more, rfl, ha, hb, hpair⟩))⟩
          | some byte =>
              rw [utf8Length_cons, utf8Length_cons] at h
              rw [List.length_cons, List.length_cons] at hn
              obtain ⟨lead, bytes, rest, rfl, hlead, hrest⟩ :=
                ih more.length (by omega) more (by omega) rfl
              exact ⟨a :: b :: lead, byte :: bytes, rest, rfl, .cons hpair hlead, hrest⟩
        · exact ⟨[], [], text, rfl, .nil, .inr (.inr (.inl hwide))⟩
        · exact ⟨[], [], text, rfl, .nil, .inr (.inl hcut)⟩

/-- Behind pairs, a slice cuts a character. -/
def CutsPair (hex : List Char) : Prop :=
  ∃ lead bytes rest, hex = lead ++ rest ∧ Pairs signedPair lead bytes ∧ CutsCharacter rest

/-- Where the slices of a text lead: to the bytes of its pairs, to a panic or to an
error. -/
theorem hex_bytes_from_cases (s : List Char) {hex : List Char} (h : utf8Length hex % 2 = 0) :
    (∃ bytes, Pairs signedPair hex bytes ∧ hex_bytes_from s hex 0 = some (.ok bytes)) ∨
      (CutsPair hex ∧ hex_bytes_from s hex 0 = none) ∨
      ∃ reason, hex_bytes_from s hex 0 = some (.error reason) := by
  obtain ⟨lead, bytes, rest, rfl, hlead, hrest⟩ := pairs_or hex h
  have hrun := hex_bytes_from_pairs s [] hlead rest
  rw [List.nil_append, List.nil_append, utf8Length_nil] at hrun
  rcases hrest with rfl | hcut | hrefused
  · rw [List.append_nil] at hrun ⊢
    rw [hex_bytes_from_end] at hrun
    refine .inl ⟨bytes, hlead, ?_⟩
    rw [hrun]
    simp [Except.map]
  · rw [hex_bytes_from_cut s lead hcut] at hrun
    exact .inr (.inl ⟨⟨lead, bytes, rest, rfl, hlead, hcut⟩, hrun⟩)
  · obtain ⟨reason, hreason⟩ := hex_bytes_from_refused s lead hrefused
    rw [hreason] at hrun
    exact .inr (.inr ⟨reason, hrun⟩)

theorem hex_bytes_from_ok {s hex : List Char} {bytes : List UInt8}
    (h : Pairs signedPair hex bytes) : hex_bytes_from s hex 0 = some (.ok bytes) := by
  have hrun := hex_bytes_from_pairs s [] h []
  rw [List.nil_append, List.nil_append, utf8Length_nil, List.append_nil, hex_bytes_from_end] at hrun
  rw [hrun]
  simp [Except.map]

theorem hex_bytes_from_none {s hex : List Char} (h : CutsPair hex) :
    hex_bytes_from s hex 0 = none := by
  obtain ⟨lead, bytes, rest, rfl, hlead, hcut⟩ := h
  have hrun := hex_bytes_from_pairs s [] hlead rest
  rw [List.nil_append, List.nil_append, utf8Length_nil, hex_bytes_from_cut s lead hcut] at hrun
  exact hrun

/-! ## Bytes, exactly -/

/-- The parser returns, and its bytes are exactly those of the hex digits that are left
after trimming and one prefix. -/
def HexExact (arg : String) : Prop :=
  (parse_hex_bytes arg).isSome ∧ ∀ bytes, parse_hex_bytes arg = some (.ok bytes) ↔
    Pairs hexPair (strip_0x (trim arg.toList)) bytes

/-- Pairs, and some of them have a sign for a digit. -/
def SignedDigit (hex : List Char) : Prop := (∃ bytes, Pairs signedPair hex bytes) ∧ '+' ∈ hex

theorem hex_digits_unsigned {text : List Char} (h : ∀ c ∈ text, (to_digit_16 c).isSome) :
    '+' ∉ text := by
  intro hsign
  exact absurd (h '+' hsign) (by decide)

theorem Pairs.even {text : List Char} {bytes : List UInt8} (h : Pairs signedPair text bytes) :
    Foundation.utf8Length text % 2 = 0 := by
  have hlen := h.length
  have hsize := h.utf8Length
  omega

theorem parse_hex_bytes_even {arg : String}
    (h : utf8Length (strip_0x (trim arg.toList)) % 2 = 0) :
    parse_hex_bytes arg = hex_bytes_from (trim arg.toList) (strip_0x (trim arg.toList)) 0 :=
  if_neg (by omega)

theorem parse_hex_bytes_odd {arg : String}
    (h : utf8Length (strip_0x (trim arg.toList)) % 2 ≠ 0) :
    ∃ reason, parse_hex_bytes arg = some (.error reason) :=
  ⟨_, if_pos h⟩

theorem hexExact_iff (arg : String) :
    HexExact arg ↔
      ¬ (utf8Length (strip_0x (trim arg.toList)) % 2 = 0 ∧ CutsPair (strip_0x (trim arg.toList))) ∧
      ¬ SignedDigit (strip_0x (trim arg.toList)) := by
  have haccepted {bytes : List UInt8} (h : Pairs signedPair (strip_0x (trim arg.toList)) bytes) :
      parse_hex_bytes arg = some (.ok bytes) := by
    rw [parse_hex_bytes_even h.even, hex_bytes_from_ok h]
  constructor
  · rintro ⟨hsome, hexact⟩
    constructor
    · rintro ⟨heven, hcut⟩
      rw [parse_hex_bytes_even heven, hex_bytes_from_none hcut] at hsome
      cases hsome
    · rintro ⟨⟨bytes, hpairs⟩, hsign⟩
      have hhex := (hexact bytes).mp (haccepted hpairs)
      exact hex_digits_unsigned hhex.digits hsign
  · rintro ⟨hcut, hsigned⟩
    -- Whatever the code reads are pairs, and without a sign these are hex digits.
    have hread : (parse_hex_bytes arg).isSome ∧ ∀ bytes, parse_hex_bytes arg = some (.ok bytes) →
        Pairs signedPair (strip_0x (trim arg.toList)) bytes := by
      by_cases heven : utf8Length (strip_0x (trim arg.toList)) % 2 = 0
      · rw [parse_hex_bytes_even heven]
        rcases hex_bytes_from_cases (trim arg.toList) heven with
          ⟨bytes, hpairs, hloop⟩ | ⟨h, -⟩ | ⟨reason, hloop⟩
        · rw [hloop]
          refine ⟨rfl, ?_⟩
          rintro _ ⟨⟩
          exact hpairs
        · exact absurd ⟨heven, h⟩ hcut
        · rw [hloop]
          exact ⟨rfl, fun bytes h => by cases h⟩
      · obtain ⟨reason, hparse⟩ := parse_hex_bytes_odd heven
        rw [hparse]
        exact ⟨rfl, fun bytes h => by cases h⟩
    refine ⟨hread.1, fun bytes => ⟨fun h => ?_, fun h => haccepted h.signed⟩⟩
    have hpairs := hread.2 bytes h
    exact hpairs.unsigned fun hsign => hsigned ⟨⟨bytes, hpairs⟩, hsign⟩

/-! ## Colours, exactly -/

/-- The text is the name of a colour, in any ASCII case. -/
def NamesColor (raw : List Char) (rgb : Rgb) : Prop :=
  ∃ name, (name, rgb) ∈ COLORS ∧ eq_ignore_ascii_case name.toList raw

/-- The parser accepts exactly the names and six hex digits, with their values. -/
def ColorExact (arg : String) : Prop :=
  ∀ r g b, parse_color arg = .ok (r, g, b) ↔
    NamesColor (trim arg.toList) (r, g, b) ∨
      Pairs hexPair (strip_hash (trim arg.toList)) [r, g, b]

/-- A sign and five hex digits. -/
def SignedColor (hex : List Char) : Prop :=
  ∃ digits, hex = '+' :: digits ∧ digits.length = 5 ∧ ∀ c ∈ digits, (to_digit_16 c).isSome

theorem names_alike : ∀ entry ∈ COLORS, ∀ other ∈ COLORS,
    entry.1.toList.map Char.toLower = other.1.toList.map Char.toLower → entry = other := by
  decide

/-- A name is found under the colour that it names. -/
theorem find_name {raw : List Char} {rgb : Rgb} :
    (∃ name, COLORS.find? (fun (name, _) => eq_ignore_ascii_case name.toList raw) =
      some (name, rgb)) ↔ NamesColor raw rgb := by
  constructor
  · rintro ⟨name, hfind⟩
    have hname := List.find?_some hfind
    exact ⟨name, List.mem_of_find?_eq_some hfind, hname⟩
  · rintro ⟨name, hmem, hname⟩
    have hsome : (COLORS.find? (fun (name, _) => eq_ignore_ascii_case name.toList raw)).isSome :=
      List.find?_isSome.mpr ⟨(name, rgb), hmem, hname⟩
    obtain ⟨entry, hfind⟩ := Option.isSome_iff_exists.mp hsome
    have hentry := List.mem_of_find?_eq_some hfind
    have halike := List.find?_some hfind
    have hsame : entry.1.toList.map Char.toLower = name.toList.map Char.toLower := by
      rw [of_decide_eq_true halike, of_decide_eq_true hname]
    have heq := names_alike entry hentry (name, rgb) hmem hsame
    exact ⟨name, by rw [hfind, heq]⟩

theorem mapM_digits (s : List Char) :
    (s.mapM to_digit_16).isSome ↔ ∀ c ∈ s, (to_digit_16 c).isSome := by
  induction s with
  | nil => simp
  | cons c s ih =>
      rw [List.forall_mem_cons, ← ih, List.mapM_cons]
      cases to_digit_16 c with
      | none => simp
      | some d => cases s.mapM to_digit_16 <;> simp

theorem exists_pairs : ∀ text : List Char, (∀ c ∈ text, (to_digit_16 c).isSome) →
    text.length % 2 = 0 → ∃ bytes, Pairs hexPair text bytes
  | [], _, _ => ⟨[], .nil⟩
  | [_], _, h => absurd h (show ¬ 1 % 2 = 0 by decide)
  | a :: b :: text, h, hlen => by
      obtain ⟨hi, ha⟩ := Option.isSome_iff_exists.mp (h a (by simp))
      obtain ⟨lo, hb⟩ := Option.isSome_iff_exists.mp (h b (by simp))
      rw [List.length_cons, List.length_cons] at hlen
      obtain ⟨bytes, htext⟩ := exists_pairs text (fun c hc => h c (by simp [hc])) (by omega)
      exact ⟨_ :: bytes, .cons (by rw [hexPair, ha, hb]; rfl) htext⟩

theorem utf8Length_of_digits {text : List Char} (h : ∀ c ∈ text, (to_digit_16 c).isSome) :
    utf8Length text = text.length := by
  apply utf8Length_of_ascii
  intro c hc
  obtain ⟨d, hd⟩ := Option.isSome_iff_exists.mp (h c hc)
  exact utf8Size_of_digit hd

/-- Lower case keeps hex digits. -/
theorem digit_toLower {c : Char} (h : (to_digit_16 c).isSome) :
    (to_digit_16 c.toLower).isSome := by
  have hall : ∀ n < 128, (to_digit_16 (Char.ofNat n)).isSome →
      (to_digit_16 (Char.ofNat n).toLower).isSome := by decide
  obtain ⟨d, hd⟩ := Option.isSome_iff_exists.mp h
  have hsize := Char.utf8Size_eq_one_iff.mp (utf8Size_of_digit hd)
  have hlt : c.toNat < 128 := Nat.lt_succ_of_le (UInt32.le_iff_toNat_le.mp hsize)
  have hc := hall c.toNat hlt
  rw [Char.ofNat_toNat] at hc
  exact hc h

/-- No name is read as hex digits, and none has a sign. -/
theorem NamesColor.not_hex {raw : List Char} {rgb : Rgb} (h : NamesColor raw rgb) :
    (∃ c ∈ strip_hash raw, to_digit_16 c = none) ∧ '+' ∉ strip_hash raw := by
  obtain ⟨name, hmem, hname⟩ := h
  have hlower := of_decide_eq_true hname
  have hdigits : ∀ entry ∈ COLORS,
      (entry.1.toList.map Char.toLower).any fun c => (to_digit_16 c).isNone := by decide
  have hsigns : ∀ entry ∈ COLORS,
      '+' ∉ entry.1.toList.map Char.toLower ∧ '#' ∉ entry.1.toList.map Char.toLower := by decide
  have hdigit := hdigits (name, rgb) hmem
  obtain ⟨hplus, hhash⟩ := hsigns (name, rgb) hmem
  rw [hlower] at hdigit hplus hhash
  have hstrip : strip_hash raw = raw := by
    rw [strip_hash.eq_def]
    split
    · exact absurd (List.mem_map.mpr ⟨'#', List.mem_cons_self, rfl⟩) hhash
    · rfl
  rw [hstrip]
  constructor
  · obtain ⟨d, hd, hnone⟩ := List.any_eq_true.mp hdigit
    obtain ⟨c, hc, rfl⟩ := List.mem_map.mp hd
    refine ⟨c, hc, ?_⟩
    by_contra hsome
    have hlow := digit_toLower (Option.isSome_iff_ne_none.mpr hsome)
    rw [Option.isNone_iff_eq_none.mp hnone] at hlow
    cases hlow
  · intro hmem
    exact hplus (List.mem_map.mpr ⟨'+', hmem, rfl⟩)

/-- The number of six hex digits splits into their three bytes. -/
theorem u32_of_pairs {hex : List Char} {r g b : UInt8} (h : Pairs hexPair hex [r, g, b]) :
    ∃ v, u32_from_hex hex = some v ∧ (v >>> 16).toUInt8 = r ∧ (v >>> 8).toUInt8 = g ∧
      v.toUInt8 = b := by
  obtain _ | @⟨c₀, c₁, _, _, _, hr, h⟩ := h
  obtain _ | @⟨c₂, c₃, _, _, _, hg, h⟩ := h
  obtain _ | @⟨c₄, c₅, _, _, _, hb, h⟩ := h
  cases h
  have hsign : [c₀, c₁, c₂, c₃, c₄, c₅].head? ≠ some '+' := by simpa using hexPair_ne_sign hr
  obtain ⟨d₀, h₀, hr⟩ := Option.bind_eq_some_iff.mp hr
  obtain ⟨d₁, h₁, hr⟩ := Option.bind_eq_some_iff.mp hr
  obtain ⟨d₂, h₂, hg⟩ := Option.bind_eq_some_iff.mp hg
  obtain ⟨d₃, h₃, hg⟩ := Option.bind_eq_some_iff.mp hg
  obtain ⟨d₄, h₄, hb⟩ := Option.bind_eq_some_iff.mp hb
  obtain ⟨d₅, h₅, hb⟩ := Option.bind_eq_some_iff.mp hb
  cases hr
  cases hg
  cases hb
  have hlt₀ := to_digit_16_lt h₀
  have hlt₁ := to_digit_16_lt h₁
  have hlt₂ := to_digit_16_lt h₂
  have hlt₃ := to_digit_16_lt h₃
  have hlt₄ := to_digit_16_lt h₄
  have hlt₅ := to_digit_16_lt h₅
  have hbound : 16 ^ [c₀, c₁, c₂, c₃, c₄, c₅].length ≤ 2 ^ 32 := show 16 ^ 6 ≤ 2 ^ 32 by decide
  have hmap : [c₀, c₁, c₂, c₃, c₄, c₅].mapM to_digit_16 = some [d₀, d₁, d₂, d₃, d₄, d₅] := by
    simp [h₀, h₁, h₂, h₃, h₄, h₅]
  rw [u32_from_hex, from_str_radix_16_unsigned hsign (by simp) hbound, hmap]
  have hsixteen : (16 : UInt32).toNat % 32 = 16 := rfl
  have height : (8 : UInt32).toNat % 32 = 8 := rfl
  refine ⟨_, rfl, ?_, ?_, ?_⟩
  all_goals
    apply UInt8.toNat_inj.mp
    simp only [List.foldl_cons, List.foldl_nil, UInt32.toNat_toUInt8, UInt32.toNat_shiftRight,
      UInt32.toNat_ofNat', UInt8.toNat_ofNat', Nat.shiftRight_eq_div_pow, hsixteen, height]
    omega

theorem u32_of_signed {hex : List Char} (h : SignedColor hex) :
    utf8Length hex = 6 ∧ (u32_from_hex hex).isSome := by
  obtain ⟨digits, rfl, hlen, hdigits⟩ := h
  have hne : digits ≠ [] := by
    rintro rfl
    cases hlen
  have hbound : 16 ^ digits.length ≤ 2 ^ 32 := by
    rw [hlen]
    decide
  constructor
  · rw [utf8Length_cons, utf8Length_of_digits hdigits, hlen]
    rfl
  · rw [u32_from_hex, from_str_radix_16_signed hne hbound, Option.isSome_map, Option.isSome_map]
    exact (mapM_digits digits).mpr hdigits

/-- What six bytes are read from. -/
theorem pairs_or_signed {hex : List Char} (hlen : utf8Length hex = 6)
    (h : (u32_from_hex hex).isSome) :
    (∃ r g b, Pairs hexPair hex [r, g, b]) ∨ SignedColor hex := by
  have hle := length_le_utf8Length hex
  have hne : hex ≠ [] := by
    rintro rfl
    cases hlen
  rw [u32_from_hex, Option.isSome_map] at h
  by_cases hsign : hex.head? = some '+'
  · right
    obtain ⟨digits, rfl⟩ : ∃ digits, hex = '+' :: digits := by
      cases hex with
      | nil => exact absurd rfl hne
      | cons c digits => exact ⟨digits, by rw [Option.some_inj.mp hsign]⟩
    have hmore := length_le_utf8Length digits
    have hplus : Char.utf8Size '+' = 1 := rfl
    rw [utf8Length_cons, hplus] at hlen
    have hdigits : digits ≠ [] := by
      rintro rfl
      cases hlen
    have hbound : 16 ^ digits.length ≤ 2 ^ 32 :=
      Nat.le_trans (Nat.pow_le_pow_right (by decide) (show digits.length ≤ 8 by omega)) (by decide)
    rw [from_str_radix_16_signed hdigits hbound, Option.isSome_map, mapM_digits] at h
    have hsize := utf8Length_of_digits h
    exact ⟨digits, rfl, by omega, h⟩
  · left
    have hbound : 16 ^ hex.length ≤ 2 ^ 32 :=
      Nat.le_trans (Nat.pow_le_pow_right (by decide) (show hex.length ≤ 8 by omega)) (by decide)
    rw [from_str_radix_16_unsigned hsign hne hbound, Option.isSome_map, mapM_digits] at h
    have hsize := utf8Length_of_digits h
    obtain ⟨bytes, hpairs⟩ := exists_pairs hex h (by omega)
    have hthree := hpairs.length
    match bytes, hpairs, hthree with
    | [r, g, b], hpairs, _ => exact ⟨r, g, b, hpairs⟩
    | [], _, hthree | [_], _, hthree | [_, _], _, hthree | _ :: _ :: _ :: _ :: _, _, hthree =>
        simp only [List.length_cons, List.length_nil] at hthree
        omega

theorem parse_color_named {arg : String} {rgb : Rgb} (h : NamesColor (trim arg.toList) rgb) :
    parse_color arg = .ok rgb := by
  obtain ⟨name, hfind⟩ := find_name.mpr h
  rw [parse_color, hfind]

theorem parse_color_unnamed {arg : String} (h : ∀ rgb, ¬ NamesColor (trim arg.toList) rgb)
    (rgb : Rgb) :
    parse_color arg = .ok rgb ↔ utf8Length (strip_hash (trim arg.toList)) = 6 ∧
      ∃ v, u32_from_hex (strip_hash (trim arg.toList)) = some v ∧
        rgb = ((v >>> 16).toUInt8, (v >>> 8).toUInt8, v.toUInt8) := by
  have hfind : COLORS.find? (fun (name, _) => eq_ignore_ascii_case name.toList (trim arg.toList)) =
      none := by
    cases hfound : COLORS.find?
        (fun (name, _) => eq_ignore_ascii_case name.toList (trim arg.toList)) with
    | none => rfl
    | some entry => exact absurd (find_name.mp ⟨entry.1, hfound⟩) (h entry.2)
  rw [parse_color, hfind]
  by_cases hlen : utf8Length (strip_hash (trim arg.toList)) = 6
  · simp only [hlen, if_true, true_and]
    cases hv : u32_from_hex (strip_hash (trim arg.toList)) with
    | none => simp
    | some v =>
        constructor
        · rintro ⟨⟩
          exact ⟨v, rfl, rfl⟩
        · rintro ⟨_, ⟨⟩, rfl⟩
          rfl
  · simp [hlen]

theorem colorExact_iff (arg : String) :
    ColorExact arg ↔ ¬ SignedColor (strip_hash (trim arg.toList)) := by
  constructor
  · intro hexact hsigned
    have hplus : '+' ∈ strip_hash (trim arg.toList) := by
      obtain ⟨digits, hdigits, -⟩ := hsigned
      rw [hdigits]
      exact List.mem_cons_self
    have hname (rgb : Rgb) : ¬ NamesColor (trim arg.toList) rgb := fun h => h.not_hex.2 hplus
    obtain ⟨hlen, hsome⟩ := u32_of_signed hsigned
    obtain ⟨v, hv⟩ := Option.isSome_iff_exists.mp hsome
    have hcolor := (parse_color_unnamed hname _).mpr ⟨hlen, v, hv, rfl⟩
    rcases (hexact _ _ _).mp hcolor with hnamed | hhex
    · exact hname _ hnamed
    · exact hex_digits_unsigned hhex.digits hplus
  · intro hsigned r g b
    by_cases hnamed : ∃ rgb, NamesColor (trim arg.toList) rgb
    · obtain ⟨rgb, hnamed⟩ := hnamed
      obtain ⟨⟨c, hc, hdigit⟩, -⟩ := hnamed.not_hex
      rw [parse_color_named hnamed]
      constructor
      · rintro ⟨⟩
        exact .inl hnamed
      · rintro (h | hhex)
        · rw [← parse_color_named hnamed, parse_color_named h]
        · have hsome := hhex.digits c hc
          rw [hdigit] at hsome
          cases hsome
    · have hname (rgb : Rgb) : ¬ NamesColor (trim arg.toList) rgb := fun h => hnamed ⟨rgb, h⟩
      rw [parse_color_unnamed hname]
      constructor
      · rintro ⟨hlen, v, hv, hrgb⟩
        rcases pairs_or_signed hlen (by rw [hv]; rfl) with ⟨r', g', b', hpairs⟩ | h
        · obtain ⟨v', hv', rfl, rfl, rfl⟩ := u32_of_pairs hpairs
          rw [hv] at hv'
          cases hv'
          cases hrgb
          exact .inr hpairs
        · exact absurd h hsigned
      · rintro (h | hhex)
        · exact absurd h (hname _)
        · obtain ⟨v, hv, rfl, rfl, rfl⟩ := u32_of_pairs hhex
          refine ⟨?_, v, hv, rfl⟩
          rw [hhex.signed.utf8Length, hhex.length]
          rfl

/-! ## Both parsers -/

/-- For every argument, both parsers are exact if and only if no slice of two bytes that is
reached cuts a character, no sign stands for a digit of a byte, and none stands for the
first digit of a colour. -/
theorem parsers_exact_iff (arg : String) :
    HexExact arg ∧ ColorExact arg ↔
      ¬ (utf8Length (strip_0x (trim arg.toList)) % 2 = 0 ∧ CutsPair (strip_0x (trim arg.toList))) ∧
      ¬ SignedDigit (strip_0x (trim arg.toList)) ∧
      ¬ SignedColor (strip_hash (trim arg.toList)) := by
  rw [hexExact_iff, colorExact_iff, and_assoc]

/-- A letter, a letter of two bytes and a digit are four bytes, and the first slice of two
ends within the second letter. -/
theorem parsers_not_exact :
    ¬ (∀ arg, HexExact arg ∧ ColorExact arg) ∧ parse_hex_bytes "aé1" = none ∧
      parse_hex_bytes "+f" = some (.ok [0x0F]) ∧ parse_color "+00ff1" = .ok (0x00, 0x0F, 0xF1) := by
  have hpanic : parse_hex_bytes "aé1" = none := by decide +kernel
  have hsign : parse_hex_bytes "+f" = some (.ok [0x0F]) := by decide +kernel
  have hcolor : parse_color "+00ff1" = .ok (0x00, 0x0F, 0xF1) := by decide +kernel
  refine ⟨?_, hpanic, hsign, hcolor⟩
  intro hexact
  have hreturns := (hexact "aé1").1.1
  rw [hpanic] at hreturns
  cases hreturns

end Clackd.Cli
