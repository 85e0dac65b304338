import Clackd.Cli.Keycodes

/-!
# Levels, effects and colours on the command line

Brightness and speed are bytes that people give and see in percent; effects and colours
have names.  `clackctl` prints a value in a form in which it takes it too.

## Main results

* `parse_level_iff`: what a level is read as.
* `values_read_back`: levels and effects are read back, levels in percent up to rounding.
* `bytes_read_back`: bytes and colours are read back.
-/

namespace Clackd.Cli

open Clackd.Foundation
open Clackd.Boot (trim is_whitespace to_digit_16)

/-! ## Levels -/

/-- `s.strip_suffix('%')`. -/
def strip_percent (s : List Char) : Option (List Char) :=
  if s.getLast? = some '%' then some s.dropLast else none

/-- A percentage as a byte, rounded to the nearest. -/
def level_of (pct : Nat) : UInt8 := UInt8.ofNat ((pct * 255 + 50) / 100)

/-- Parses a brightness or speed level: `NN%`, or a raw value. -/
def parse_level (arg : String) : Except String UInt8 :=
  let s := trim arg.toList
  match strip_percent s with
  | some pct =>
      match from_str_radix_10 65536 (trim pct) with
      | none => .error ("invalid percentage '" ++ String.ofList s ++ "'")
      | some pct =>
          if 100 < pct then
            .error ("percentage out of range '" ++ String.ofList s ++ "' (0%–100%)")
          else .ok (level_of pct)
  | none =>
      (parse_u8 (String.ofList s)).mapError fun _ =>
        "invalid level '" ++ String.ofList s ++ "' (use 0–255 or 0%–100%)"

/-- A byte in percent. -/
def percent (v : UInt8) : String := toString ((v.toNat * 100 + 127) / 255) ++ "%"

/-! ## Effects -/

/-- Effect names. -/
def EFFECTS : List (UInt8 × String) :=
  [(0x01, "static"),
    (0x02, "keystroke-light-up"),
    (0x03, "keystroke-dim"),
    (0x04, "sparkle"),
    (0x05, "rain"),
    (0x06, "random-colors"),
    (0x07, "breathing"),
    (0x08, "spectrum-cycle"),
    (0x09, "ring-gradient"),
    (0x0A, "vertical-gradient"),
    (0x0B, "rainbow-wave"),
    (0x0C, "around-edges"),
    (0x0D, "keystroke-horizontal-lines"),
    (0x0E, "keystroke-tilted-lines"),
    (0x0F, "keystroke-ripples"),
    (0x10, "sequence"),
    (0x11, "wave-line"),
    (0x12, "tilted-lines"),
    (0x13, "back-and-forth")]

/-- The name of an effect and its id, or the id alone. -/
def effect_label (id : UInt8) : String :=
  match EFFECTS.find? fun effect => effect.1 = id with
  | some (_, name) => name ++ " (" ++ prefixed_hex 4 id.toNat ++ ")"
  | none => prefixed_hex 4 id.toNat ++ " (no name for this keyboard)"

/-- `s.trim().to_ascii_lowercase().replace([' ', '_'], "-")`. -/
def dashed (s : List Char) : List Char :=
  ((trim s).map Char.toLower).map fun c => if c = ' ' ∨ c = '_' then '-' else c

/-- Parses an effect: a name, `off`, or a numeric id. -/
def parse_effect (s : String) : Except String UInt8 :=
  let norm := String.ofList (dashed s.toList)
  if norm = "off" then .ok 0
  else
    match EFFECTS.find? fun effect => effect.2 = norm with
    | some (id, _) => .ok id
    | none =>
        (parse_u8 s).mapError fun _ =>
          "unknown effect '" ++ s ++ "' — see `clackctl lighting <device> effects`"

/-! ## Bytes and colours -/

/-- `{b:02x}`. -/
def hex_byte (b : UInt8) : String := String.ofList (padded 16 2 b.toNat)

def to_hex (data : List UInt8) : String := " ".intercalate (data.map hex_byte)

/-- `#{r:02x}{g:02x}{b:02x}`. -/
def hex_color (r g b : UInt8) : String := "#" ++ hex_byte r ++ hex_byte g ++ hex_byte b

/-! ## Levels, exactly -/

/-- A percentage: a decimal number of at most 100 before the sign, with blanks between. -/
def Percentage (s : List Char) (pct : Nat) : Prop :=
  ∃ number, s = number ++ ['%'] ∧ unsigned (trim number) ≠ [] ∧
    numeral to_digit_10 10 0 (unsigned (trim number)) = some pct ∧ pct ≤ 100

theorem strip_percent_some {s number : List Char} :
    strip_percent s = some number ↔ s = number ++ ['%'] := by
  rw [strip_percent]
  constructor
  · intro h
    split at h
    · rename_i hlast
      cases h
      obtain ⟨init, rfl⟩ := List.getLast?_eq_some_iff.1 hlast
      rw [List.dropLast_concat]
    · cases h
  · rintro rfl
    rw [List.getLast?_concat, if_pos rfl, List.dropLast_concat]

theorem parse_u8_iff (s : String) (v : UInt8) :
    parse_u8 s = .ok v ↔ Numeral (trim s.toList) v.toNat := by
  have hnumber := parse_number_iff (show 0 < 256 by decide) (trim s.toList)
  dsimp only [parse_u8]
  constructor
  · intro h
    cases hread : parse_number 256 (trim s.toList) with
    | none =>
        rw [hread] at h
        cases h
    | some n =>
        obtain ⟨hnumeral, hlt⟩ := (hnumber n).1 hread
        rw [hread] at h
        cases h
        rw [UInt8.toNat_ofNat_of_lt' hlt]
        exact hnumeral
  · intro hnumeral
    rw [(hnumber v.toNat).2 ⟨hnumeral, v.toNat_lt⟩]
    show Except.ok (UInt8.ofNat v.toNat) = _
    rw [UInt8.ofNat_toNat]

theorem mapError_ok {ε ε' α : Type} {x : Except ε α} {f : ε → ε'} {a : α} :
    x.mapError f = .ok a ↔ x = .ok a := by
  cases x with
  | error e =>
      constructor <;> intro h <;> cases h
  | ok b =>
      constructor <;> intro h <;> cases h <;> rfl

/-- Trimmed text is trimmed. -/
theorem trim_trim (s : List Char) : trim (trim s) = trim s := by
  have hprefix : trim s <+: s.dropWhile is_whitespace := by
    rw [trim]
    exact List.reverse_suffix.1 (by rw [List.reverse_reverse]; exact List.dropWhile_suffix _)
  have hfront : (trim s).dropWhile is_whitespace = trim s := by
    cases htrim : trim s with
    | nil => rfl
    | cons c rest =>
        obtain ⟨after, hafter⟩ := hprefix
        rw [htrim, List.cons_append] at hafter
        have hc : is_whitespace c = false := by
          have hhead := List.head?_dropWhile_not is_whitespace s
          rw [← hafter] at hhead
          exact hhead
        rw [List.dropWhile_cons_of_neg (by rw [hc]; decide)]
  rw [trim, hfront, trim, List.reverse_reverse, List.dropWhile_idempotent]

/-- What is read as a level. -/
theorem parse_level_iff (arg : String) (v : UInt8) :
    parse_level arg = .ok v ↔
      (∃ pct, Percentage (trim arg.toList) pct ∧ v = level_of pct) ∨
        ((trim arg.toList).getLast? ≠ some '%' ∧ Numeral (trim arg.toList) v.toNat) := by
  dsimp only [parse_level]
  cases hstrip : strip_percent (trim arg.toList) with
  | some number =>
      have hs := strip_percent_some.1 hstrip
      have hlast : (trim arg.toList).getLast? = some '%' := by rw [hs, List.getLast?_concat]
      have hread := from_str_radix_10_iff (show 0 < 65536 by decide) (trim number)
      dsimp only
      constructor
      · intro h
        cases hpct : from_str_radix_10 65536 (trim number) with
        | none =>
            rw [hpct] at h
            cases h
        | some pct =>
            obtain ⟨hne, hnumeral, -⟩ := (hread pct).1 hpct
            rw [hpct] at h
            dsimp only at h
            split at h
            · cases h
            · cases h
              exact .inl ⟨pct, ⟨number, hs, hne, hnumeral, by omega⟩, rfl⟩
      · rintro (⟨pct, ⟨number', hs', hne, hnumeral, hle⟩, rfl⟩ | ⟨hcon, -⟩)
        · rw [hs] at hs'
          obtain rfl := List.append_cancel_right hs'
          rw [(hread pct).2 ⟨hne, hnumeral, by omega⟩]
          exact if_neg (by omega)
        · exact absurd hlast hcon
  | none =>
      have hlast : (trim arg.toList).getLast? ≠ some '%' := by
        intro hcon
        obtain ⟨init, hinit⟩ := List.getLast?_eq_some_iff.1 hcon
        rw [strip_percent_some.2 hinit] at hstrip
        cases hstrip
      dsimp only
      rw [mapError_ok, parse_u8_iff, String.toList_ofList, trim_trim]
      constructor
      · intro h
        exact .inr ⟨hlast, h⟩
      · rintro (⟨pct, ⟨number, hs, -⟩, -⟩ | ⟨-, h⟩)
        · rw [strip_percent_some.2 hs] at hstrip
          cases hstrip
        · exact h

theorem toNat_level_of {pct : Nat} (h : pct ≤ 100) :
    (level_of pct).toNat = (pct * 255 + 50) / 100 :=
  UInt8.toNat_ofNat_of_lt' (show (pct * 255 + 50) / 100 < 256 by omega)

/-- A percentage prints as itself, once it is a byte. -/
theorem percent_level_of {pct : Nat} (h : pct ≤ 100) :
    percent (level_of pct) = toString pct ++ "%" := by
  have hback : ((level_of pct).toNat * 100 + 127) / 255 = pct := by
    rw [toNat_level_of h]
    omega
  rw [percent, hback]

theorem percentage_text (pct : Nat) (h : pct ≤ 100) :
    Percentage (trim (toString pct ++ "%").toList) pct := by
  have hdigits := toDigits_10_digits pct
  have hclean : ∀ c ∈ Nat.toDigits 10 pct, is_whitespace c = false :=
    fun c hc => (to_digit_16_clean (to_digit_10_clean (hdigits c hc)).1).1
  have htext : (toString pct ++ "%").toList = Nat.toDigits 10 pct ++ ['%'] := by
    rw [String.toList_append, Nat.toString_eq_repr, Nat.toList_repr]
    rfl
  have hwhole : ∀ c ∈ Nat.toDigits 10 pct ++ ['%'], is_whitespace c = false := by
    intro c hc
    rcases List.mem_append.1 hc with hdigit | hsign
    · exact hclean c hdigit
    · rw [List.mem_singleton.1 hsign]
      rfl
  have hunsigned : unsigned (Nat.toDigits 10 pct) = Nat.toDigits 10 pct :=
    unsigned_of_digits fun c hc => (to_digit_10_clean (hdigits c hc)).1
  rw [htext, trim_of_clean hwhole]
  refine ⟨_, rfl, ?_, ?_, h⟩
  · rw [trim_of_clean hclean, hunsigned]
    exact Nat.toDigits_ne_nil
  · rw [trim_of_clean hclean, hunsigned]
    exact numeral_toDigits (by decide) digitChar_10 pct

/-- A percentage that is accepted is printed as it was given.  What is printed of a level
is read as a level again, the number exactly and the percentage with an error of at most
one. -/
theorem levels_read_back :
    (∀ (arg : String) (v : UInt8) (pct : Nat), Percentage (trim arg.toList) pct →
      parse_level arg = .ok v → percent v = toString pct ++ "%") ∧
    ∀ v : UInt8, parse_level (toString v.toNat) = .ok v ∧
      ∃ back : UInt8, parse_level (percent v) = .ok back ∧
        back.toNat ≤ v.toNat + 1 ∧ v.toNat ≤ back.toNat + 1 := by
  refine ⟨?_, ?_⟩
  · intro arg v pct hpct h
    rcases (parse_level_iff arg v).1 h with ⟨pct', ⟨number, hs, -, hread, hle⟩, rfl⟩ | ⟨hlast, -⟩
    · obtain ⟨number', hs', -, hread', -⟩ := hpct
      rw [hs] at hs'
      obtain rfl := List.append_cancel_right hs'
      rw [hread] at hread'
      cases hread'
      exact percent_level_of hle
    · obtain ⟨number, hs, -⟩ := hpct
      rw [hs, List.getLast?_concat] at hlast
      exact absurd rfl hlast
  · intro v
    have hv := v.toNat_lt
    refine ⟨?_, ?_⟩
    · have hdigits := toDigits_10_digits v.toNat
      rw [parse_level_iff, Nat.toString_eq_repr, Nat.toList_repr, trim_of_clean fun c hc =>
        (to_digit_16_clean (to_digit_10_clean (hdigits c hc)).1).1]
      refine .inr ⟨?_, numeral_toDigits_10 _⟩
      intro hcon
      have hsign := hdigits '%' (List.mem_of_getLast? hcon)
      cases hsign
    · have hpct : (v.toNat * 100 + 127) / 255 ≤ 100 := by omega
      refine ⟨level_of ((v.toNat * 100 + 127) / 255), ?_, ?_⟩
      · exact (parse_level_iff _ _).2 (.inl ⟨_, percentage_text _ hpct, rfl⟩)
      · rw [toNat_level_of hpct]
        omega

/-! ## Effects, exactly -/

/-- A character that `dashed` leaves. -/
def plain_char (c : Char) : Bool := !is_whitespace c && c.toLower = c && c ≠ ' ' && c ≠ '_'

/-- The names are in lower case with dashes, and none is `off` or looks like a number. -/
theorem effects_checked : ∀ effect ∈ EFFECTS, effect.2.toList.all plain_char = true ∧
    effect.2.toList ≠ "off".toList ∧ effect.2.toList.head? ≠ some '0' := by
  decide +kernel

theorem clean_of_plain {s : List Char} (h : s.all plain_char = true) :
    (∀ c ∈ s, is_whitespace c = false) ∧ dashed s = s := by
  have hplain : ∀ c ∈ s, is_whitespace c = false ∧ c.toLower = c ∧ c ≠ ' ' ∧ c ≠ '_' := by
    intro c hc
    simpa [plain_char, and_assoc] using List.all_eq_true.1 h c hc
  have hclean : ∀ c ∈ s, is_whitespace c = false := fun c hc => (hplain c hc).1
  refine ⟨hclean, ?_⟩
  rw [dashed, trim_of_clean hclean, List.map_map]
  conv_rhs => rw [← List.map_id s]
  refine List.map_congr_left fun c hc => ?_
  obtain ⟨-, hlower, hblank, hunder⟩ := hplain c hc
  show (if c.toLower = ' ' ∨ c.toLower = '_' then '-' else c.toLower) = c
  rw [hlower, if_neg (by rintro (hcon | hcon) <;> contradiction)]

theorem effects_alike : ∀ effect ∈ EFFECTS, ∀ other ∈ EFFECTS,
    effect.2.toList = other.2.toList → effect = other := by
  decide +kernel

/-- The name of an effect is read as its id. -/
theorem parse_effect_name {id : UInt8} {name : String} (h : (id, name) ∈ EFFECTS) :
    parse_effect name = .ok id := by
  obtain ⟨hplain, hoff, -⟩ := effects_checked _ h
  have hdashed : dashed name.toList = name.toList := (clean_of_plain hplain).2
  have hne : name ≠ "off" := fun hcon => hoff (congrArg String.toList hcon)
  have hsome : (EFFECTS.find? fun effect => effect.2 = name).isSome = true :=
    List.find?_isSome.2 ⟨_, h, decide_eq_true rfl⟩
  obtain ⟨other, hother⟩ := Option.isSome_iff_exists.1 hsome
  have hname : decide (other.2 = name) = true :=
    List.find?_some (p := fun effect : UInt8 × String => decide (effect.2 = name)) hother
  have hsame := effects_alike _ (List.mem_of_find?_eq_some hother) _ h
    (congrArg String.toList (decide_eq_true_iff.1 hname))
  rw [parse_effect, hdashed, String.ofList_toList, if_neg hne, hother, hsame]

/-- The first word of what is printed of an effect is read as that effect: its name, if it
has one, and else its number. -/
theorem effects_read_back (id : UInt8) :
    parse_effect (first_word (effect_label id)) = .ok id := by
  rw [effect_label]
  split
  · rename_i id' name hfind
    have hid : decide (id' = id) = true :=
      List.find?_some (p := fun effect : UInt8 × String => decide (effect.1 = id)) hfind
    have hmem := List.mem_of_find?_eq_some hfind
    have hclean := (clean_of_plain (effects_checked _ hmem).1).1
    rw [String.append_assoc, String.append_assoc, first_word_append hclean
      ⟨_, by rw [String.toList_append]; rfl⟩, parse_effect_name hmem, decide_eq_true_iff.1 hid]
  · have hclean := prefixed_hex_clean 2 id.toNat
    have htext : (prefixed_hex 4 id.toNat).toList = '0' :: 'x' :: padded 16 2 id.toNat := by
      rw [prefixed_hex, String.toList_ofList]
    rw [first_word_append (by rw [htext]; exact hclean) ⟨_, rfl⟩]
    -- No name of an effect starts with a zero.
    have hnorm : (dashed (prefixed_hex 4 id.toNat).toList).head? = some '0' := by
      rw [htext, dashed, trim_of_clean hclean]
      rfl
    have hname : ∀ name : String, name.toList.head? ≠ some '0' →
        ¬ String.ofList (dashed (prefixed_hex 4 id.toNat).toList) = name ∧
          ¬ name = String.ofList (dashed (prefixed_hex 4 id.toNat).toList) := by
      intro name hhead
      constructor
      · rintro rfl
        rw [String.toList_ofList] at hhead
        exact hhead hnorm
      · rintro rfl
        rw [String.toList_ofList] at hhead
        exact hhead hnorm
    have hfind : EFFECTS.find? (fun effect =>
        effect.2 = String.ofList (dashed (prefixed_hex 4 id.toNat).toList)) = none := by
      rw [List.find?_eq_none]
      intro effect heffect hcon
      exact (hname _ (effects_checked _ heffect).2.2).2 (decide_eq_true_iff.1 hcon)
    rw [parse_effect, if_neg (hname "off" (by decide)).1, hfind]
    dsimp only
    rw [mapError_ok, parse_u8_iff, htext, trim_of_clean hclean]
    exact numeral_prefixed_hex 2 id.toNat

/-- **Levels and effects are read back.**  A percentage that is accepted is printed as it
was given.  What is printed of a level is read as a level again, the number exactly and the
percentage with an error of at most one, and the first word of what is printed of an effect
is read as that effect. -/
theorem values_read_back :
    (∀ (arg : String) (v : UInt8) (pct : Nat), Percentage (trim arg.toList) pct →
      parse_level arg = .ok v → percent v = toString pct ++ "%") ∧
    (∀ v : UInt8, parse_level (toString v.toNat) = .ok v ∧
      ∃ back : UInt8, parse_level (percent v) = .ok back ∧
        back.toNat ≤ v.toNat + 1 ∧ v.toNat ≤ back.toNat + 1) ∧
    ∀ id : UInt8, parse_effect (first_word (effect_label id)) = .ok id :=
  ⟨levels_read_back.1, levels_read_back.2, effects_read_back⟩

/-! ## Bytes, read back -/

theorem hexPair_hex_byte (b : UInt8) :
    ∃ hi lo, (hex_byte b).toList = [hi, lo] ∧ hexPair hi lo = some b := by
  have hlength : (padded 16 2 b.toNat).length = 2 :=
    length_padded (by decide) (by decide) b.toNat_lt
  have hread : numeral to_digit_16 16 0 (padded 16 2 b.toNat) = some b.toNat :=
    numeral_padded (by decide) digitChar_16 2 b.toNat
  rw [hex_byte, String.toList_ofList]
  obtain ⟨hi, lo, htext⟩ := List.length_eq_two.1 hlength
  rw [htext] at hread
  refine ⟨hi, lo, htext, ?_⟩
  rw [numeral_cons] at hread
  obtain ⟨d, hd, hread⟩ := Option.bind_eq_some_iff.1 hread
  rw [numeral_cons] at hread
  obtain ⟨e, he, hread⟩ := Option.bind_eq_some_iff.1 hread
  have hvalue : (0 * 16 + d) * 16 + e = b.toNat := Option.some.inj hread
  rw [hexPair, hd, he]
  show some (UInt8.ofNat (d * 16 + e)) = some b
  rw [← UInt8.ofNat_toNat (x := b), ← hvalue, Nat.zero_mul, Nat.zero_add]

/-- Bytes in hex, without anything in between. -/
def hex_dump (data : List UInt8) : List Char := data.flatMap fun b => (hex_byte b).toList

theorem pairs_hex_dump (data : List UInt8) : Pairs hexPair (hex_dump data) data := by
  induction data with
  | nil => exact .nil
  | cons b data ih =>
      obtain ⟨hi, lo, htext, hpair⟩ := hexPair_hex_byte b
      rw [hex_dump, List.flatMap_cons, htext]
      exact .cons hpair ih

/-- Text of hex digits is clean, whatever else is in it. -/
theorem hex_dump_clean (data : List UInt8) : ∀ c ∈ hex_dump data, is_whitespace c = false :=
  fun c hc => (to_digit_16_clean ((pairs_hex_dump data).digits c hc)).1

/-- A prefix has a second character that is no digit. -/
theorem strip_0x_of_digit {s : List Char}
    (h : ∀ hi lo rest, s = hi :: lo :: rest → (to_digit_16 lo).isSome = true) :
    strip_0x s = s := by
  rw [strip_0x.eq_def]
  split
  · have hx := h _ 'x' _ rfl
    cases hx
  · have hX := h _ 'X' _ rfl
    cases hX
  · rfl

/-- What `to_hex` prints of more than one byte. -/
theorem to_hex_many (a b : UInt8) (data : List UInt8) :
    (to_hex (a :: b :: data)).toList =
      (hex_byte a).toList ++ ' ' :: (to_hex (b :: data)).toList := by
  rw [to_hex, List.map_cons, List.map_cons, String.intercalate_cons_cons, String.toList_append,
    String.toList_append, List.append_assoc]
  rfl

theorem to_hex_one (b : UInt8) : to_hex [b] = hex_byte b := String.intercalate_singleton

/-- What is printed of some bytes starts and ends with a digit. -/
theorem to_hex_ends (a : UInt8) (data : List UInt8) :
    (∃ hi lo rest, (to_hex (a :: data)).toList = hi :: lo :: rest ∧
      (to_digit_16 hi).isSome = true ∧ (to_digit_16 lo).isSome = true) ∧
    ∃ init c, (to_hex (a :: data)).toList = init ++ [c] ∧ (to_digit_16 c).isSome = true := by
  have hpair : ∀ b : UInt8, ∃ hi lo, (hex_byte b).toList = [hi, lo] ∧
      (to_digit_16 hi).isSome = true ∧ (to_digit_16 lo).isSome = true := by
    intro b
    obtain ⟨hi, lo, htext, -⟩ := hexPair_hex_byte b
    have hdigits : ∀ c ∈ [hi, lo], (to_digit_16 c).isSome = true := by
      rw [← htext, hex_byte, String.toList_ofList]
      exact padded_digits 2 b.toNat
    exact ⟨hi, lo, htext, hdigits hi (by simp), hdigits lo (by simp)⟩
  induction data generalizing a with
  | nil =>
      obtain ⟨hi, lo, htext, hhi, hlo⟩ := hpair a
      rw [to_hex_one, htext]
      exact ⟨⟨hi, lo, [], rfl, hhi, hlo⟩, [hi], lo, rfl, hlo⟩
  | cons b data ih =>
      obtain ⟨hi, lo, htext, hhi, hlo⟩ := hpair a
      obtain ⟨-, init, c, hlast, hc⟩ := ih b
      rw [to_hex_many, htext]
      refine ⟨⟨hi, lo, _, rfl, hhi, hlo⟩, hi :: lo :: ' ' :: init, c, ?_, hc⟩
      rw [hlast]
      rfl

theorem trim_of_ends {s : List Char} {a c : Char} {rest init : List Char} (hfirst : s = a :: rest)
    (hlast : s = init ++ [c]) (ha : is_whitespace a = false) (hc : is_whitespace c = false) :
    trim s = s := by
  have hfront : s.dropWhile is_whitespace = s := by
    rw [hfirst, List.dropWhile_cons_of_neg (by rw [ha]; decide)]
  have hback : s.reverse.dropWhile is_whitespace = s.reverse := by
    rw [hlast, List.reverse_append, List.reverse_singleton, List.singleton_append,
      List.dropWhile_cons_of_neg (by rw [hc]; decide)]
  rw [trim, hfront, hback, List.reverse_reverse]

/-- What is printed between blanks is ASCII, without signs. -/
theorem to_hex_ascii (data : List UInt8) :
    ∀ c ∈ (to_hex data).toList, c.utf8Size = 1 ∧ c ≠ '+' := by
  have hbyte : ∀ b : UInt8, ∀ c ∈ (hex_byte b).toList, c.utf8Size = 1 ∧ c ≠ '+' := by
    intro b c hc
    have hdigit : (to_digit_16 c).isSome = true := by
      rw [hex_byte, String.toList_ofList] at hc
      exact padded_digits 2 b.toNat c hc
    obtain ⟨d, hd⟩ := Option.isSome_iff_exists.1 hdigit
    exact ⟨utf8Size_of_digit hd, (to_digit_16_clean hdigit).2.1⟩
  induction data with
  | nil => exact fun c hc => absurd hc List.not_mem_nil
  | cons a data ih =>
      cases data with
      | nil =>
          rw [to_hex_one]
          exact hbyte a
      | cons b data =>
          intro c hc
          rw [to_hex_many] at hc
          rcases List.mem_append.1 hc with hdigit | hrest
          · exact hbyte a c hdigit
          · rcases List.mem_cons.1 hrest with rfl | hrest
            · exact ⟨rfl, by decide⟩
            · exact ih c hrest

/-- Text in ASCII without signs is read exactly. -/
theorem hexExact_of_ascii {arg : String}
    (h : ∀ c ∈ strip_0x (trim arg.toList), c.utf8Size = 1 ∧ c ≠ '+') : HexExact arg := by
  refine (hexExact_iff arg).2 ⟨?_, ?_⟩
  · rintro ⟨-, lead, bytes, rest, htext, -, hcuts⟩
    cases rest with
    | nil => exact hcuts
    | cons c rest =>
        have hc := (h c (by rw [htext]; simp)).1
        rcases hcuts with hwide | ⟨-, d, more, rfl, hd⟩
        · omega
        · have hone := (h d (by rw [htext]; simp)).1
          omega
  · rintro ⟨-, hsign⟩
    exact (h '+' hsign).2 rfl

/-- Bytes in hex are read as themselves. -/
theorem parse_hex_bytes_hex_dump (data : List UInt8) :
    parse_hex_bytes (String.ofList (hex_dump data)) = some (.ok data) := by
  have htext : strip_0x (trim (String.ofList (hex_dump data)).toList) = hex_dump data := by
    rw [String.toList_ofList, trim_of_clean (hex_dump_clean data),
      strip_0x_of_digit fun hi lo rest hs => (pairs_hex_dump data).digits lo (by simp [hs])]
  have hexact : HexExact (String.ofList (hex_dump data)) := by
    refine hexExact_of_ascii fun c hc => ?_
    rw [htext] at hc
    have hdigit := (pairs_hex_dump data).digits c hc
    obtain ⟨d, hd⟩ := Option.isSome_iff_exists.1 hdigit
    exact ⟨utf8Size_of_digit hd, (to_digit_16_clean hdigit).2.1⟩
  exact (hexact.2 data).2 (by rw [htext]; exact pairs_hex_dump data)

/-- A colour is read as it is printed. -/
theorem parse_color_hex_color (r g b : UInt8) : parse_color (hex_color r g b) = .ok (r, g, b) := by
  have htext : (hex_color r g b).toList = '#' :: hex_dump [r, g, b] := by
    simp [hex_color, hex_dump]
  have hclean : ∀ c ∈ '#' :: hex_dump [r, g, b], is_whitespace c = false := by
    intro c hc
    rcases List.mem_cons.1 hc with rfl | hdigit
    · rfl
    · exact hex_dump_clean _ c hdigit
  have hpairs := pairs_hex_dump [r, g, b]
  have hhash : strip_hash (trim (hex_color r g b).toList) = hex_dump [r, g, b] := by
    rw [htext, trim_of_clean hclean]
    rfl
  refine ((colorExact_iff _).2 ?_ r g b).2 (.inr (by rw [hhash]; exact hpairs))
  rintro ⟨digits, hdigits, -⟩
  rw [hhash] at hdigits
  refine hex_digits_unsigned hpairs.digits ?_
  rw [hdigits]
  exact List.mem_cons_self

/-- What `get-raw` prints of no byte or of one has no blank in it. -/
theorem parse_hex_bytes_few {data : List UInt8} (h : data.length ≤ 1) :
    parse_hex_bytes (to_hex data) = some (.ok data) := by
  have hdump := parse_hex_bytes_hex_dump data
  cases data with
  | nil =>
      rw [to_hex, List.map_nil, String.intercalate_nil]
      exact hdump
  | cons a data =>
      have hnil : data = [] := List.eq_nil_of_length_eq_zero (by rw [List.length_cons] at h; omega)
      subst hnil
      rw [hex_dump, List.flatMap_singleton, String.ofList_toList] at hdump
      rw [to_hex_one]
      exact hdump

/-- What it prints of more bytes is not accepted as any bytes: a blank is no digit. -/
theorem parse_hex_bytes_many (a b : UInt8) (data out : List UInt8) :
    parse_hex_bytes (to_hex (a :: b :: data)) ≠ some (.ok out) := by
  obtain ⟨⟨hi, lo, rest, hfirst, hhi, hlo⟩, init, c, hlast, hc⟩ := to_hex_ends a (b :: data)
  have hblank : ∃ more, rest = ' ' :: more := by
    obtain ⟨hi', lo', hbyte, -⟩ := hexPair_hex_byte a
    rw [to_hex_many, hbyte] at hfirst
    exact ⟨_, (List.cons.inj (List.cons.inj hfirst).2).2.symm⟩
  obtain ⟨more, rfl⟩ := hblank
  have htrim := trim_of_ends hfirst hlast (to_digit_16_clean hhi).1 (to_digit_16_clean hc).1
  have hprefix : strip_0x (to_hex (a :: b :: data)).toList = (to_hex (a :: b :: data)).toList := by
    refine strip_0x_of_digit fun hi' lo' rest' hs => ?_
    rw [hfirst] at hs
    rw [← (List.cons.inj (List.cons.inj hs).2).1]
    exact hlo
  have hexact : HexExact (to_hex (a :: b :: data)) := by
    refine hexExact_of_ascii fun c hc => ?_
    rw [htrim, hprefix] at hc
    exact to_hex_ascii _ c hc
  intro h
  have hpairs := (hexact.2 out).1 h
  rw [htrim, hprefix, hfirst] at hpairs
  cases hpairs with
  | cons _ hrest =>
      cases hrest with
      | cons hcon _ => cases hcon

/-- **Bytes and colours are read back.**  Bytes in hex are read as themselves, and so is a
colour as it is printed.  What `get-raw` prints has blanks between the bytes: it is accepted
exactly if it is no more than one byte, and then it is read as itself. -/
theorem bytes_read_back :
    (∀ data : List UInt8, parse_hex_bytes (String.ofList (hex_dump data)) = some (.ok data)) ∧
    (∀ r g b : UInt8, parse_color (hex_color r g b) = .ok (r, g, b)) ∧
    ∀ data : List UInt8,
      ((∃ out, parse_hex_bytes (to_hex data) = some (.ok out)) ↔ data.length ≤ 1) ∧
      (data.length ≤ 1 → parse_hex_bytes (to_hex data) = some (.ok data)) := by
  refine ⟨parse_hex_bytes_hex_dump, parse_color_hex_color, fun data => ⟨⟨?_, ?_⟩,
    parse_hex_bytes_few⟩⟩
  · rintro ⟨out, hout⟩
    cases data with
    | nil => exact Nat.zero_le _
    | cons a data =>
        cases data with
        | nil => exact Nat.le_refl _
        | cons b data => exact absurd hout (parse_hex_bytes_many a b data out)
  · intro hfew
    exact ⟨data, parse_hex_bytes_few hfew⟩

end Clackd.Cli
