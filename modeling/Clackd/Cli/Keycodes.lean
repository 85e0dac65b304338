import Clackd.Cli.Hex
import Clackd.Foundation.Apart
import Clackd.Foundation.Numeral

/-!
# Key names on the command line

A key is given by a name or by its number.  The names come from a table: each key has a
canonical name, whose prefix may be left out, and some aliases.  A name is looked up among
the aliases as it is typed first, since a dash stands for an underscore in the names and
for itself among the aliases.  What is no name is read as a number.

Which entry of the table is found first does not matter: no spelling belongs to two keys.

## Main results

* `spelled_alike`: no spelling belongs to two keys.
* `parse_key_exact`: what a key argument is read as, and that every keycode is read back
  from all the forms it is printed in.
-/

namespace Clackd.Cli

open Clackd.Foundation
open Clackd.Boot (trim is_whitespace to_digit_16)

/-! ## Numbers -/

/-- `char::to_digit(10)`. -/
def to_digit_10 (c : Char) : Option Nat :=
  if 0x30 ≤ c.toNat ∧ c.toNat ≤ 0x39 then some (c.toNat - 0x30) else none

/-- `str::parse` of an unsigned type that has `bound` values. -/
def from_str_radix_10 (bound : Nat) (s : List Char) : Option Nat :=
  let digits := if s.head? = some '+' then s.tail else s
  if digits.isEmpty then none else bounded to_digit_10 10 bound 0 digits

/-- A number in decimal, or in hex after a prefix. -/
def parse_number (bound : Nat) (s : List Char) : Option Nat :=
  match s with
  | '0' :: 'x' :: hex => from_str_radix_16 bound hex
  | '0' :: 'X' :: hex => from_str_radix_16 bound hex
  | _ => from_str_radix_10 bound s

/-- Parses a `u16` in decimal or `0x`-prefixed hex. -/
def parse_u16 (arg : String) : Except String UInt16 :=
  let s := trim arg.toList
  match parse_number 65536 s with
  | some v => .ok (UInt16.ofNat v)
  | none => .error ("invalid number '" ++ String.ofList s ++ "' (use decimal or 0xHEX)")

/-- Parses a `u8` in decimal or `0x`-prefixed hex. -/
def parse_u8 (arg : String) : Except String UInt8 :=
  let s := trim arg.toList
  match parse_number 256 s with
  | some v => .ok (UInt8.ofNat v)
  | none => .error ("invalid byte '" ++ String.ofList s ++ "' (use decimal or 0xHEX)")

/-- `n` in hex, as `{:#0w$x}` prints it: the prefix counts for two of the width. -/
def prefixed_hex (width n : Nat) : String :=
  String.ofList ('0' :: 'x' :: padded 16 (width - 2) n)

/-! ## The table -/

/-- One nameable keycode. -/
structure Key where
  code : UInt16
  /-- Canonical name, always `KC_`-prefixed. -/
  name : String
  /-- Grid label. -/
  short : String
  /-- Extra accepted spellings. -/
  aliases : List String
  deriving DecidableEq, Repr

/-- The name table, ordered by keycode. -/
def ALL : List Key :=
  [⟨0x0000, "KC_NO", "--", ["none", "no", "xxx"]⟩,
    ⟨0x0001, "KC_TRANSPARENT", "TRNS", ["trans", "trns"]⟩,
    ⟨0x0004, "KC_A", "A", []⟩,
    ⟨0x0005, "KC_B", "B", []⟩,
    ⟨0x0006, "KC_C", "C", []⟩,
    ⟨0x0007, "KC_D", "D", []⟩,
    ⟨0x0008, "KC_E", "E", []⟩,
    ⟨0x0009, "KC_F", "F", []⟩,
    ⟨0x000A, "KC_G", "G", []⟩,
    ⟨0x000B, "KC_H", "H", []⟩,
    ⟨0x000C, "KC_I", "I", []⟩,
    ⟨0x000D, "KC_J", "J", []⟩,
    ⟨0x000E, "KC_K", "K", []⟩,
    ⟨0x000F, "KC_L", "L", []⟩,
    ⟨0x0010, "KC_M", "M", []⟩,
    ⟨0x0011, "KC_N", "N", []⟩,
    ⟨0x0012, "KC_O", "O", []⟩,
    ⟨0x0013, "KC_P", "P", []⟩,
    ⟨0x0014, "KC_Q", "Q", []⟩,
    ⟨0x0015, "KC_R", "R", []⟩,
    ⟨0x0016, "KC_S", "S", []⟩,
    ⟨0x0017, "KC_T", "T", []⟩,
    ⟨0x0018, "KC_U", "U", []⟩,
    ⟨0x0019, "KC_V", "V", []⟩,
    ⟨0x001A, "KC_W", "W", []⟩,
    ⟨0x001B, "KC_X", "X", []⟩,
    ⟨0x001C, "KC_Y", "Y", []⟩,
    ⟨0x001D, "KC_Z", "Z", []⟩,
    ⟨0x001E, "KC_1", "1", []⟩,
    ⟨0x001F, "KC_2", "2", []⟩,
    ⟨0x0020, "KC_3", "3", []⟩,
    ⟨0x0021, "KC_4", "4", []⟩,
    ⟨0x0022, "KC_5", "5", []⟩,
    ⟨0x0023, "KC_6", "6", []⟩,
    ⟨0x0024, "KC_7", "7", []⟩,
    ⟨0x0025, "KC_8", "8", []⟩,
    ⟨0x0026, "KC_9", "9", []⟩,
    ⟨0x0027, "KC_0", "0", []⟩,
    ⟨0x0028, "KC_ENTER", "ENT", ["ent", "return"]⟩,
    ⟨0x0029, "KC_ESCAPE", "ESC", ["esc"]⟩,
    ⟨0x002A, "KC_BACKSPACE", "BSPC", ["bspc"]⟩,
    ⟨0x002B, "KC_TAB", "TAB", []⟩,
    ⟨0x002C, "KC_SPACE", "SPC", ["spc"]⟩,
    ⟨0x002D, "KC_MINUS", "-", ["mins", "-"]⟩,
    ⟨0x002E, "KC_EQUAL", "=", ["eql", "="]⟩,
    ⟨0x002F, "KC_LEFT_BRACKET", "[", ["lbrc", "["]⟩,
    ⟨0x0030, "KC_RIGHT_BRACKET", "]", ["rbrc", "]"]⟩,
    ⟨0x0031, "KC_BACKSLASH", "\\", ["bsls", "\\"]⟩,
    ⟨0x0032, "KC_NONUS_HASH", "#", ["nuhs"]⟩,
    ⟨0x0033, "KC_SEMICOLON", ";", ["scln", ";"]⟩,
    ⟨0x0034, "KC_QUOTE", "'", ["quot", "'"]⟩,
    ⟨0x0035, "KC_GRAVE", "`", ["grv", "`"]⟩,
    ⟨0x0036, "KC_COMMA", ",", ["comm", ","]⟩,
    ⟨0x0037, "KC_DOT", ".", ["."]⟩,
    ⟨0x0038, "KC_SLASH", "/", ["slsh", "/"]⟩,
    ⟨0x0039, "KC_CAPS_LOCK", "CAPS", ["caps"]⟩,
    ⟨0x003A, "KC_F1", "F1", []⟩,
    ⟨0x003B, "KC_F2", "F2", []⟩,
    ⟨0x003C, "KC_F3", "F3", []⟩,
    ⟨0x003D, "KC_F4", "F4", []⟩,
    ⟨0x003E, "KC_F5", "F5", []⟩,
    ⟨0x003F, "KC_F6", "F6", []⟩,
    ⟨0x0040, "KC_F7", "F7", []⟩,
    ⟨0x0041, "KC_F8", "F8", []⟩,
    ⟨0x0042, "KC_F9", "F9", []⟩,
    ⟨0x0043, "KC_F10", "F10", []⟩,
    ⟨0x0044, "KC_F11", "F11", []⟩,
    ⟨0x0045, "KC_F12", "F12", []⟩,
    ⟨0x0046, "KC_PRINT_SCREEN", "PSCR", ["pscr", "prtsc"]⟩,
    ⟨0x0047, "KC_SCROLL_LOCK", "SCRL", ["scrl"]⟩,
    ⟨0x0048, "KC_PAUSE", "PAUS", ["paus", "brk"]⟩,
    ⟨0x0049, "KC_INSERT", "INS", ["ins"]⟩,
    ⟨0x004A, "KC_HOME", "HOME", []⟩,
    ⟨0x004B, "KC_PAGE_UP", "PGUP", ["pgup"]⟩,
    ⟨0x004C, "KC_DELETE", "DEL", ["del"]⟩,
    ⟨0x004D, "KC_END", "END", []⟩,
    ⟨0x004E, "KC_PAGE_DOWN", "PGDN", ["pgdn"]⟩,
    ⟨0x004F, "KC_RIGHT", "RGHT", ["rght"]⟩,
    ⟨0x0050, "KC_LEFT", "LEFT", []⟩,
    ⟨0x0051, "KC_DOWN", "DOWN", []⟩,
    ⟨0x0052, "KC_UP", "UP", []⟩,
    ⟨0x0053, "KC_NUM_LOCK", "NUM", ["num"]⟩,
    ⟨0x0054, "KC_KP_SLASH", "P/", ["psls"]⟩,
    ⟨0x0055, "KC_KP_ASTERISK", "P*", ["past"]⟩,
    ⟨0x0056, "KC_KP_MINUS", "P-", ["pmns"]⟩,
    ⟨0x0057, "KC_KP_PLUS", "P+", ["ppls"]⟩,
    ⟨0x0058, "KC_KP_ENTER", "PENT", ["pent"]⟩,
    ⟨0x0059, "KC_KP_1", "P1", []⟩,
    ⟨0x005A, "KC_KP_2", "P2", []⟩,
    ⟨0x005B, "KC_KP_3", "P3", []⟩,
    ⟨0x005C, "KC_KP_4", "P4", []⟩,
    ⟨0x005D, "KC_KP_5", "P5", []⟩,
    ⟨0x005E, "KC_KP_6", "P6", []⟩,
    ⟨0x005F, "KC_KP_7", "P7", []⟩,
    ⟨0x0060, "KC_KP_8", "P8", []⟩,
    ⟨0x0061, "KC_KP_9", "P9", []⟩,
    ⟨0x0062, "KC_KP_0", "P0", []⟩,
    ⟨0x0063, "KC_KP_DOT", "P.", ["pdot"]⟩,
    ⟨0x0064, "KC_NONUS_BACKSLASH", "NUBS", ["nubs"]⟩,
    ⟨0x0065, "KC_APPLICATION", "APP", ["app", "menu"]⟩,
    ⟨0x0067, "KC_KP_EQUAL", "P=", ["peql"]⟩,
    ⟨0x0068, "KC_F13", "F13", []⟩,
    ⟨0x0069, "KC_F14", "F14", []⟩,
    ⟨0x006A, "KC_F15", "F15", []⟩,
    ⟨0x006B, "KC_F16", "F16", []⟩,
    ⟨0x006C, "KC_F17", "F17", []⟩,
    ⟨0x006D, "KC_F18", "F18", []⟩,
    ⟨0x006E, "KC_F19", "F19", []⟩,
    ⟨0x006F, "KC_F20", "F20", []⟩,
    ⟨0x0070, "KC_F21", "F21", []⟩,
    ⟨0x0071, "KC_F22", "F22", []⟩,
    ⟨0x0072, "KC_F23", "F23", []⟩,
    ⟨0x0073, "KC_F24", "F24", []⟩,
    ⟨0x00A5, "KC_SYSTEM_POWER", "PWR", ["pwr"]⟩,
    ⟨0x00A6, "KC_SYSTEM_SLEEP", "SLEP", ["slep", "sleep"]⟩,
    ⟨0x00A7, "KC_SYSTEM_WAKE", "WAKE", ["wake"]⟩,
    ⟨0x00A8, "KC_AUDIO_MUTE", "MUTE", ["mute"]⟩,
    ⟨0x00A9, "KC_AUDIO_VOL_UP", "VOLU", ["volu"]⟩,
    ⟨0x00AA, "KC_AUDIO_VOL_DOWN", "VOLD", ["vold"]⟩,
    ⟨0x00AB, "KC_MEDIA_NEXT_TRACK", "MNXT", ["mnxt", "next"]⟩,
    ⟨0x00AC, "KC_MEDIA_PREV_TRACK", "MPRV", ["mprv", "prev"]⟩,
    ⟨0x00AD, "KC_MEDIA_STOP", "MSTP", ["mstp"]⟩,
    ⟨0x00AE, "KC_MEDIA_PLAY_PAUSE", "MPLY", ["mply", "play"]⟩,
    ⟨0x00AF, "KC_MEDIA_SELECT", "MSEL", ["msel"]⟩,
    ⟨0x00B0, "KC_MEDIA_EJECT", "EJCT", ["ejct"]⟩,
    ⟨0x00B1, "KC_MAIL", "MAIL", []⟩,
    ⟨0x00B2, "KC_CALCULATOR", "CALC", ["calc"]⟩,
    ⟨0x00B3, "KC_MY_COMPUTER", "MYCM", ["mycm"]⟩,
    ⟨0x00B4, "KC_WWW_SEARCH", "WSCH", ["wsch"]⟩,
    ⟨0x00B5, "KC_WWW_HOME", "WHOM", ["whom"]⟩,
    ⟨0x00B6, "KC_WWW_BACK", "WBAK", ["wbak"]⟩,
    ⟨0x00B7, "KC_WWW_FORWARD", "WFWD", ["wfwd"]⟩,
    ⟨0x00B8, "KC_WWW_STOP", "WSTP", ["wstp"]⟩,
    ⟨0x00B9, "KC_WWW_REFRESH", "WREF", ["wref"]⟩,
    ⟨0x00BA, "KC_WWW_FAVORITES", "WFAV", ["wfav"]⟩,
    ⟨0x00BB, "KC_MEDIA_FAST_FORWARD", "MFFD", ["mffd"]⟩,
    ⟨0x00BC, "KC_MEDIA_REWIND", "MRWD", ["mrwd"]⟩,
    ⟨0x00BD, "KC_BRIGHTNESS_UP", "BRIU", ["briu"]⟩,
    ⟨0x00BE, "KC_BRIGHTNESS_DOWN", "BRID", ["brid"]⟩,
    ⟨0x00E0, "KC_LEFT_CTRL", "LCTL", ["lctl", "lctrl"]⟩,
    ⟨0x00E1, "KC_LEFT_SHIFT", "LSFT", ["lsft", "lshift"]⟩,
    ⟨0x00E2, "KC_LEFT_ALT", "LALT", ["lalt", "lopt"]⟩,
    ⟨0x00E3, "KC_LEFT_GUI", "LGUI", ["lgui", "lcmd", "lwin"]⟩,
    ⟨0x00E4, "KC_RIGHT_CTRL", "RCTL", ["rctl", "rctrl"]⟩,
    ⟨0x00E5, "KC_RIGHT_SHIFT", "RSFT", ["rsft", "rshift"]⟩,
    ⟨0x00E6, "KC_RIGHT_ALT", "RALT", ["ralt", "ropt", "algr"]⟩,
    ⟨0x00E7, "KC_RIGHT_GUI", "RGUI", ["rgui", "rcmd", "rwin"]⟩]

/-- Looks a keycode up by value. -/
def by_code (code : UInt16) : Option Key := ALL.find? fun k => k.code = code

/-- `k.name["KC_".len()..]`. -/
def Key.bare_name (k : Key) : List Char := k.name.toList.drop 3

def Key.has_alias (k : Key) (s : List Char) : Bool :=
  k.aliases.any fun a => eq_ignore_ascii_case a.toList s

/-- `norm.strip_prefix("KC_").unwrap_or(&norm)`. -/
def strip_kc (norm : List Char) : List Char :=
  match norm with
  | 'K' :: 'C' :: '_' :: rest => rest
  | _ => norm

/-- `raw.to_ascii_uppercase().replace('-', "_")`, without the prefix. -/
def normalized (raw : List Char) : List Char :=
  strip_kc ((raw.map Char.toUpper).map fun c => if c = '-' then '_' else c)

/-- Parses a key name to its keycode. -/
def by_name (s : String) : Option UInt16 :=
  let raw := trim s.toList
  match ALL.find? fun k => k.has_alias raw with
  | some k => some k.code
  | none =>
      let norm := normalized raw
      (ALL.find? fun k => k.bare_name = norm || k.has_alias norm).map fun k => k.code

/-- Formats a keycode for humans. -/
def describe (code : UInt16) : String :=
  match by_code code with
  | some k => k.name ++ " (" ++ prefixed_hex 6 code.toNat ++ ")"
  | none => prefixed_hex 6 code.toNat ++ " (no name — quantum keycode?)"

/-- Formats a keycode for the grid. -/
def short_label (code : UInt16) : String :=
  match by_code code with
  | some k => k.short
  | none => prefixed_hex 6 code.toNat

/-- Parses a key argument: a name from the table first, then a number. -/
def parse_key (s : String) : Except String UInt16 :=
  match by_name s with
  | some code => .ok code
  | none =>
      (parse_u16 s).mapError fun _ =>
        "unknown key '" ++ s ++ "' — try a name from `clackctl keys`, or a 0xHEX keycode"

/-! ## Letters -/

/-- Beyond ASCII, letters have no case here. -/
theorem toLower_of_wide {c : Char} (h : 128 ≤ c.toNat) : c.toLower = c := by
  have hval : 128 ≤ c.val.toNat := h
  rw [Char.toLower, dif_neg]
  rintro ⟨-, hle⟩
  have hz : c.val.toNat ≤ 'Z'.val.toNat := UInt32.le_iff_toNat_le.1 hle
  have hZ : 'Z'.val.toNat = 90 := rfl
  omega

theorem toUpper_of_wide {c : Char} (h : 128 ≤ c.toNat) : c.toUpper = c := by
  have hval : 128 ≤ c.val.toNat := h
  rw [Char.toUpper, dif_neg]
  rintro ⟨-, hle⟩
  have hz : c.val.toNat ≤ 'z'.val.toNat := UInt32.le_iff_toNat_le.1 hle
  have hZ : 'z'.val.toNat = 122 := rfl
  omega

/-- What holds of the ASCII characters, and of all that have no case. -/
theorem ascii_or_wide {P : Char → Prop} (hascii : ∀ n < 128, P (Char.ofNat n))
    (hwide : ∀ c : Char, c.toLower = c → c.toUpper = c → 128 ≤ c.toNat → P c) (c : Char) : P c := by
  by_cases hlt : c.toNat < 128
  · have hc := hascii c.toNat hlt
    rwa [Char.ofNat_toNat] at hc
  · have hle : 128 ≤ c.toNat := Nat.le_of_not_lt hlt
    exact hwide c (toLower_of_wide hle) (toUpper_of_wide hle) hle

theorem toUpper_toLower (c : Char) : c.toLower.toUpper = c.toUpper := by
  refine ascii_or_wide (P := fun c => c.toLower.toUpper = c.toUpper) (by decide) ?_ c
  intro c hlower hupper _
  rw [hlower]

/-- Digits and dashes are no letters. -/
theorem toLower_of_small {c : Char} (h : c.toLower.toNat < 65) : c.toLower = c := by
  revert h
  refine ascii_or_wide (P := fun c => c.toLower.toNat < 65 → c.toLower = c) (by decide) ?_ c
  intro c hlower _ _ _
  exact hlower

/-- Equality but for the case of letters. -/
theorem eq_ignore_ascii_case_iff {s t : List Char} :
    eq_ignore_ascii_case s t = true ↔ s.map Char.toLower = t.map Char.toLower := by
  rw [eq_ignore_ascii_case, decide_eq_true_iff]

theorem map_toUpper_alike {s t : List Char} (h : s.map Char.toLower = t.map Char.toLower) :
    s.map Char.toUpper = t.map Char.toUpper := by
  have hboth : ∀ u : List Char, u.map Char.toUpper = (u.map Char.toLower).map Char.toUpper := by
    intro u
    rw [List.map_map]
    exact List.map_congr_left fun c _ => (toUpper_toLower c).symm
  rw [hboth s, h, ← hboth t]

/-- What a name is looked up as depends on its case no more. -/
theorem normalized_alike {s t : List Char} (h : s.map Char.toLower = t.map Char.toLower) :
    normalized s = normalized t := by
  rw [normalized, map_toUpper_alike h, normalized]

/-! ## Spellings -/

/-- All that is written in the table for a key. -/
def Key.labels (k : Key) : List (List Char) := k.bare_name :: k.aliases.map String.toList

/-- Whether `raw` is a spelling of the key. -/
def Key.Spelled (k : Key) (raw : List Char) : Prop :=
  k.has_alias raw = true ∨ k.bare_name = normalized raw ∨ k.has_alias (normalized raw) = true

/-- A number for a text, whatever the case of its letters. -/
def mark (s : List Char) : Nat := s.foldl (fun n c => (n * 31 + (c.toNat ||| 32)) % 65521) 0

theorem mark_alike {s t : List Char} (h : s.map Char.toLower = t.map Char.toLower) :
    mark s = mark t := by
  have hcase : ∀ c : Char, c.toLower.toNat ||| 32 = c.toNat ||| 32 := by
    refine ascii_or_wide (by decide) ?_
    intro c hlower _ _
    rw [hlower]
  have hboth : ∀ u : List Char, mark u = mark (u.map Char.toLower) := by
    intro u
    rw [mark, mark, List.foldl_map]
    congr 1
    funext n c
    rw [hcase]
  rw [hboth s, h, ← hboth t]

/-- A text of more than one character that starts with a zero or has digits only. -/
def looks_numeric (s : List Char) : Bool :=
  1 < s.length && (s.head? = some '0' || s.all fun c => (to_digit_10 c).isSome)

/-- What holds of every entry of the table by itself. -/
def Key.well_spelled (k : Key) : Bool :=
  normalized k.name.toList = k.bare_name && k.name.toList.all (fun c => !is_whitespace c) &&
    k.aliases.all (fun a => a = "-" || eq_ignore_ascii_case (normalized a.toList) a.toList) &&
      k.labels.all fun label => !looks_numeric (label.map Char.toLower) &&
        mark label ≠ mark ['_'] && label.all fun c => !is_whitespace c

/-- The table has no spelling twice, and each entry is well spelled. -/
theorem table_checked :
    (apart mark 0 (ALL.map Key.labels) && ALL.all Key.well_spelled) = true := by
  decide +kernel

theorem well_spelled_of_mem {k : Key} (hk : k ∈ ALL) : k.well_spelled = true :=
  List.all_eq_true.1 (Bool.and_eq_true_iff.1 table_checked).2 k hk

/-- Two entries that have a mark in common are one. -/
theorem eq_of_mark {k k' : Key} (hk : k ∈ ALL) (hk' : k' ∈ ALL) {l l' : List Char}
    (hl : l ∈ k.labels) (hl' : l' ∈ k'.labels) (h : mark l = mark l') : k = k' := by
  have hpairs := List.pairwise_map.1 (marks_of_apart (Bool.and_eq_true_iff.1 table_checked).1)
  obtain ⟨i, hi, rfl⟩ := List.getElem_of_mem hk
  obtain ⟨j, hj, rfl⟩ := List.getElem_of_mem hk'
  have hlt := List.pairwise_iff_getElem.1 hpairs
  rcases Nat.lt_trichotomy i j with hij | hij | hij
  · exact absurd h (hlt i j hi hj hij l hl l' hl')
  · subst hij
    rfl
  · exact absurd h.symm (hlt j i hj hi hij l' hl' l hl)

theorem Key.exists_alias {k : Key} {raw : List Char} (h : k.has_alias raw = true) :
    ∃ a ∈ k.aliases, a.toList.map Char.toLower = raw.map Char.toLower := by
  obtain ⟨a, ha, halike⟩ := List.any_eq_true.1 h
  exact ⟨a, ha, eq_ignore_ascii_case_iff.1 halike⟩

theorem Key.mem_labels_of_alias {k : Key} {a : String} (h : a ∈ k.aliases) :
    a.toList ∈ k.labels :=
  List.mem_cons_of_mem _ (List.mem_map.2 ⟨a, h, rfl⟩)

/-- A spelling has the mark of one of the labels: as it is, if it is a dash, and else as it
is looked up. -/
theorem Key.Spelled.mark {k : Key} (hk : k ∈ ALL) {raw : List Char} (h : k.Spelled raw) :
    ∃ l ∈ k.labels, Cli.mark l = Cli.mark (if raw = ['-'] then raw else normalized raw) := by
  have hwell := well_spelled_of_mem hk
  simp only [Key.well_spelled, Bool.and_eq_true, List.all_eq_true] at hwell
  obtain ⟨⟨-, haliases⟩, hlabels⟩ := hwell
  -- What is looked up is in the table, so it is not the underscore that a dash becomes.
  have hnormalized : ∀ l ∈ k.labels, l.map Char.toLower = (normalized raw).map Char.toLower →
      ∃ l ∈ k.labels, Cli.mark l = Cli.mark (if raw = ['-'] then raw else normalized raw) := by
    intro l hl halike
    refine ⟨l, hl, ?_⟩
    by_cases hdash : raw = ['-']
    · have hother := (hlabels l hl).1.2
      rw [decide_eq_true_iff] at hother
      refine absurd ?_ hother
      rw [mark_alike halike, hdash]
      rfl
    · rw [if_neg hdash, mark_alike halike]
  rcases h with halias | hname | halias
  · obtain ⟨a, ha, halike⟩ := Key.exists_alias halias
    rcases Bool.or_eq_true_iff.1 (haliases a ha) with hdash | hsame
    · have hraw : raw = ['-'] := by
        have hlower : raw.map Char.toLower = ['-'] := by
          rw [← halike, decide_eq_true_iff.1 hdash]
          rfl
        obtain ⟨c, rest, rfl, hc, hrest⟩ := List.map_eq_cons_iff.1 hlower
        rw [List.map_eq_nil_iff.1 hrest, ← toLower_of_small (c := c) (by rw [hc]; decide), hc]
      refine ⟨a.toList, Key.mem_labels_of_alias ha, ?_⟩
      rw [if_pos hraw, mark_alike halike]
    · refine hnormalized _ (Key.mem_labels_of_alias ha) ?_
      rw [← normalized_alike halike]
      exact (eq_ignore_ascii_case_iff.1 hsame).symm
  · refine hnormalized _ List.mem_cons_self ?_
    rw [hname]
  · obtain ⟨a, ha, halike⟩ := Key.exists_alias halias
    exact hnormalized _ (Key.mem_labels_of_alias ha) halike

/-- No spelling belongs to two keys. -/
theorem spelled_alike {k k' : Key} (hk : k ∈ ALL) (hk' : k' ∈ ALL) {raw : List Char}
    (h : k.Spelled raw) (h' : k'.Spelled raw) : k = k' := by
  obtain ⟨l, hl, hmark⟩ := h.mark hk
  obtain ⟨l', hl', hmark'⟩ := h'.mark hk'
  exact eq_of_mark hk hk' hl hl' (hmark.trans hmark'.symm)

/-- What is found has been spelled. -/
theorem spelled_of_by_name {s : String} {code : UInt16} (h : by_name s = some code) :
    ∃ k ∈ ALL, k.code = code ∧ k.Spelled (trim s.toList) := by
  rw [by_name] at h
  split at h
  · rename_i k hk
    have halias : k.has_alias (trim s.toList) = true :=
      List.find?_some (p := fun k : Key => k.has_alias (trim s.toList)) hk
    exact ⟨k, List.mem_of_find?_eq_some hk, Option.some.inj h, .inl halias⟩
  · obtain ⟨k, hk, hcode⟩ := Option.map_eq_some_iff.1 h
    have hlooked : (decide (k.bare_name = normalized (trim s.toList)) ||
        k.has_alias (normalized (trim s.toList))) = true :=
      List.find?_some (p := fun k : Key => decide (k.bare_name = normalized (trim s.toList)) ||
        k.has_alias (normalized (trim s.toList))) hk
    refine ⟨k, List.mem_of_find?_eq_some hk, hcode, ?_⟩
    rcases Bool.or_eq_true_iff.1 hlooked with hname | halias
    · exact .inr (.inl (decide_eq_true_iff.1 hname))
    · exact .inr (.inr halias)

/-- What is spelled is found. -/
theorem by_name_of_spelled {s : String} {k : Key} (hk : k ∈ ALL)
    (h : k.Spelled (trim s.toList)) : (by_name s).isSome = true := by
  rw [by_name]
  split
  · rfl
  · rename_i hnone
    rw [Option.isSome_map]
    refine List.find?_isSome.2 ⟨k, hk, ?_⟩
    rcases h with halias | hname | halias
    · exact absurd halias (List.find?_eq_none.1 hnone k hk)
    · rw [decide_eq_true hname, Bool.true_or]
    · rw [halias, Bool.or_true]

/-- A name is read as the key that it is a spelling of. -/
theorem by_name_iff (s : String) (code : UInt16) :
    by_name s = some code ↔ ∃ k ∈ ALL, k.code = code ∧ k.Spelled (trim s.toList) := by
  constructor
  · exact spelled_of_by_name
  · rintro ⟨k, hk, rfl, hspelled⟩
    obtain ⟨code, hfound⟩ := Option.isSome_iff_exists.1 (by_name_of_spelled hk hspelled)
    obtain ⟨k', hk', hcode, hspelled'⟩ := spelled_of_by_name hfound
    rw [hfound, ← hcode, spelled_alike hk' hk hspelled' hspelled]

/-! ## Numbers, exactly -/

theorem digitChar_16 : ∀ d < 16, to_digit_16 d.digitChar = some d := by decide

theorem digitChar_10 : ∀ d < 10, to_digit_10 d.digitChar = some d := by decide

/-- The digits of a number, without the sign that may be in front of them. -/
def unsigned (s : List Char) : List Char := if s.head? = some '+' then s.tail else s

/-- The text is a number: digits in hex after a prefix, and else in decimal, and one plus
sign may be in front of the digits. -/
def Numeral (s : List Char) (v : Nat) : Prop :=
  (∃ hex, (s = '0' :: 'x' :: hex ∨ s = '0' :: 'X' :: hex) ∧ unsigned hex ≠ [] ∧
      numeral to_digit_16 16 0 (unsigned hex) = some v) ∨
    ((∀ hex, s ≠ '0' :: 'x' :: hex ∧ s ≠ '0' :: 'X' :: hex) ∧ unsigned s ≠ [] ∧
      numeral to_digit_10 10 0 (unsigned s) = some v)

theorem from_str_radix_16_iff {bound : Nat} (hbound : 0 < bound) (s : List Char) (v : Nat) :
    from_str_radix_16 bound s = some v ↔
      unsigned s ≠ [] ∧ numeral to_digit_16 16 0 (unsigned s) = some v ∧ v < bound := by
  rw [← bounded_iff (by decide) hbound]
  show (if (unsigned s).isEmpty then none else bounded to_digit_16 16 bound 0 (unsigned s)) = _ ↔ _
  cases unsigned s with
  | nil => simp
  | cons c digits => simp

theorem from_str_radix_10_iff {bound : Nat} (hbound : 0 < bound) (s : List Char) (v : Nat) :
    from_str_radix_10 bound s = some v ↔
      unsigned s ≠ [] ∧ numeral to_digit_10 10 0 (unsigned s) = some v ∧ v < bound := by
  rw [← bounded_iff (by decide) hbound]
  show (if (unsigned s).isEmpty then none else bounded to_digit_10 10 bound 0 (unsigned s)) = _ ↔ _
  cases unsigned s with
  | nil => simp
  | cons c digits => simp

/-- What is read as a number. -/
theorem parse_number_iff {bound : Nat} (hbound : 0 < bound) (s : List Char) (v : Nat) :
    parse_number bound s = some v ↔ Numeral s v ∧ v < bound := by
  rw [parse_number.eq_def]
  split
  · rename_i hex
    rw [from_str_radix_16_iff hbound]
    constructor
    · rintro ⟨hne, hread, hv⟩
      exact ⟨.inl ⟨hex, .inl rfl, hne, hread⟩, hv⟩
    · rintro ⟨⟨hex', hprefix, hne, hread⟩ | ⟨hnone, -⟩, hv⟩
      · obtain rfl : hex = hex' := by simpa using hprefix
        exact ⟨hne, hread, hv⟩
      · exact absurd rfl (hnone hex).1
  · rename_i hex
    rw [from_str_radix_16_iff hbound]
    constructor
    · rintro ⟨hne, hread, hv⟩
      exact ⟨.inl ⟨hex, .inr rfl, hne, hread⟩, hv⟩
    · rintro ⟨⟨hex', hprefix, hne, hread⟩ | ⟨hnone, -⟩, hv⟩
      · obtain rfl : hex = hex' := by simpa using hprefix
        exact ⟨hne, hread, hv⟩
      · exact absurd rfl (hnone hex).2
  · rename_i hx hX
    rw [from_str_radix_10_iff hbound]
    constructor
    · rintro ⟨hne, hread, hv⟩
      exact ⟨.inr ⟨fun hex => ⟨hx hex, hX hex⟩, hne, hread⟩, hv⟩
    · rintro ⟨⟨hex, hprefix, -⟩ | ⟨-, hne, hread⟩, hv⟩
      · rcases hprefix with hcon | hcon
        · exact absurd hcon (hx hex)
        · exact absurd hcon (hX hex)
      · exact ⟨hne, hread, hv⟩

/-! ## What is printed is read back -/

theorem trim_of_clean {s : List Char} (h : ∀ c ∈ s, is_whitespace c = false) : trim s = s := by
  have hdrop : ∀ t : List Char, (∀ c ∈ t, is_whitespace c = false) →
      t.dropWhile is_whitespace = t := by
    intro t ht
    cases t with
    | nil => rfl
    | cons c t => rw [List.dropWhile_cons_of_neg (by rw [ht c List.mem_cons_self]; decide)]
  rw [trim, hdrop s h, hdrop _ fun c hc => h c (List.mem_reverse.1 hc), List.reverse_reverse]

theorem to_digit_16_clean {c : Char} (h : (to_digit_16 c).isSome = true) :
    is_whitespace c = false ∧ c ≠ '+' ∧ c.toNat < 128 := by
  revert h
  refine ascii_or_wide (P := fun c => (to_digit_16 c).isSome = true →
    is_whitespace c = false ∧ c ≠ '+' ∧ c.toNat < 128) (by decide) ?_ c
  intro c _ _ hwide h
  obtain ⟨d, hd⟩ := Option.isSome_iff_exists.1 h
  rw [to_digit_16, if_neg (by omega), if_neg (by omega), if_neg (by omega)] at hd
  cases hd

theorem to_digit_10_clean {c : Char} (h : (to_digit_10 c).isSome = true) :
    (to_digit_16 c).isSome = true ∧ c.toUpper = c ∧ c.toLower = c ∧ c ≠ '-' ∧ c ≠ 'K' := by
  revert h
  refine ascii_or_wide (P := fun c => (to_digit_10 c).isSome = true →
    (to_digit_16 c).isSome = true ∧ c.toUpper = c ∧ c.toLower = c ∧ c ≠ '-' ∧ c ≠ 'K')
    (by decide) ?_ c
  intro c _ _ hwide h
  obtain ⟨d, hd⟩ := Option.isSome_iff_exists.1 h
  rw [to_digit_10, if_neg (by omega)] at hd
  cases hd

/-- Digits have no sign in front of them. -/
theorem unsigned_of_digits {s : List Char} (h : ∀ c ∈ s, (to_digit_16 c).isSome = true) :
    unsigned s = s := by
  cases s with
  | nil => rfl
  | cons c s =>
      have hplus := (to_digit_16_clean (h c List.mem_cons_self)).2.1
      rw [unsigned, if_neg]
      intro hsign
      exact hplus (Option.some.inj hsign)

theorem padded_digits (width n : Nat) : ∀ c ∈ padded 16 width n, (to_digit_16 c).isSome = true :=
  digits_of_numeral (numeral_padded (by decide) digitChar_16 width n)

/-- The characters of a number in hex. -/
theorem prefixed_hex_clean (width n : Nat) :
    ∀ c ∈ '0' :: 'x' :: padded 16 width n, is_whitespace c = false := by
  intro c hc
  rcases List.mem_cons.1 hc with rfl | hc
  · rfl
  · rcases List.mem_cons.1 hc with rfl | hc
    · rfl
    · exact (to_digit_16_clean (padded_digits width n c hc)).1

/-- A number in hex is a number. -/
theorem numeral_prefixed_hex (width n : Nat) : Numeral ('0' :: 'x' :: padded 16 width n) n := by
  have hdigits := unsigned_of_digits (padded_digits width n)
  refine .inl ⟨padded 16 width n, .inl rfl, ?_, ?_⟩
  · rw [hdigits]
    exact padded_ne_nil width n
  · rw [hdigits]
    exact numeral_padded (by decide) digitChar_16 width n

theorem toDigits_10_digits (n : Nat) :
    ∀ c ∈ Nat.toDigits 10 n, (to_digit_10 c).isSome = true :=
  digits_of_numeral (numeral_toDigits (by decide) digitChar_10 n)

/-- A number in decimal is a number. -/
theorem numeral_toDigits_10 (n : Nat) : Numeral (Nat.toDigits 10 n) n := by
  have hdigits := unsigned_of_digits fun c hc => (to_digit_10_clean (toDigits_10_digits n c hc)).1
  refine .inr ⟨?_, ?_, ?_⟩
  · intro hex
    have hx : (to_digit_10 'x').isSome = false := by decide
    have hX : (to_digit_10 'X').isSome = false := by decide
    constructor
    · intro hcon
      have hdigit := toDigits_10_digits n 'x' (by rw [hcon]; simp)
      rw [hx] at hdigit
      cases hdigit
    · intro hcon
      have hdigit := toDigits_10_digits n 'X' (by rw [hcon]; simp)
      rw [hX] at hdigit
      cases hdigit
  · rw [hdigits]
    exact Nat.toDigits_ne_nil
  · rw [hdigits]
    exact numeral_toDigits (by decide) digitChar_10 n

/-- What looks like a number is no spelling. -/
theorem not_spelled_of_numeric {k : Key} (hk : k ∈ ALL) {raw : List Char}
    (hraw : looks_numeric (raw.map Char.toLower) = true)
    (hnormalized : looks_numeric ((normalized raw).map Char.toLower) = true) :
    ¬ k.Spelled raw := by
  have hwell := well_spelled_of_mem hk
  simp only [Key.well_spelled, Bool.and_eq_true, List.all_eq_true] at hwell
  obtain ⟨-, hlabels⟩ := hwell
  have hnone : ∀ l ∈ k.labels, looks_numeric (l.map Char.toLower) = false := by
    intro l hl
    have h := (hlabels l hl).1.1
    rwa [Bool.not_eq_true'] at h
  rintro (halias | hname | halias)
  · obtain ⟨a, ha, halike⟩ := Key.exists_alias halias
    have h := hnone _ (Key.mem_labels_of_alias ha)
    rw [halike, hraw] at h
    cases h
  · have h := hnone _ List.mem_cons_self
    rw [hname, hnormalized] at h
    cases h
  · obtain ⟨a, ha, halike⟩ := Key.exists_alias halias
    have h := hnone _ (Key.mem_labels_of_alias ha)
    rw [halike, hnormalized] at h
    cases h

theorem not_spelled_hex {k : Key} (hk : k ∈ ALL) {hex : List Char} :
    ¬ k.Spelled ('0' :: 'x' :: hex) := by
  refine not_spelled_of_numeric hk ?_ ?_
  · simp [looks_numeric]
  · simp [looks_numeric, normalized, strip_kc]

theorem not_spelled_decimal {k : Key} (hk : k ∈ ALL) {s : List Char} (hlength : 1 < s.length)
    (hdigits : ∀ c ∈ s, (to_digit_10 c).isSome = true) : ¬ k.Spelled s := by
  have hclean := fun c hc => to_digit_10_clean (hdigits c hc)
  have hlower : s.map Char.toLower = s := by
    conv_rhs => rw [← List.map_id s]
    exact List.map_congr_left fun c hc => (hclean c hc).2.2.1
  have hupper : s.map Char.toUpper = s := by
    conv_rhs => rw [← List.map_id s]
    exact List.map_congr_left fun c hc => (hclean c hc).2.1
  have hdash : (s.map fun c => if c = '-' then '_' else c) = s := by
    conv_rhs => rw [← List.map_id s]
    exact List.map_congr_left fun c hc => if_neg (hclean c hc).2.2.2.1
  have hnormalized : normalized s = s := by
    rw [normalized, hupper, hdash, strip_kc.eq_def]
    split
    · exact absurd rfl (hclean 'K' List.mem_cons_self).2.2.2.2
    · rfl
  have hnumeric : looks_numeric (s.map Char.toLower) = true := by
    rw [hlower, looks_numeric, decide_eq_true hlength, Bool.true_and,
      List.all_eq_true.2 hdigits, Bool.or_true]
  exact not_spelled_of_numeric hk hnumeric (by rw [hnormalized]; exact hnumeric)

/-! ## Keys, exactly -/

/-- What a key argument is read as. -/
theorem parse_key_iff (s : String) (code : UInt16) :
    parse_key s = .ok code ↔ (∃ k ∈ ALL, k.code = code ∧ k.Spelled (trim s.toList)) ∨
      ((∀ k ∈ ALL, ¬ k.Spelled (trim s.toList)) ∧ Numeral (trim s.toList) code.toNat) := by
  rw [parse_key]
  cases hname : by_name s with
  | some named =>
      obtain ⟨k, hk, hcode, hspelled⟩ := (by_name_iff s named).1 hname
      rw [← by_name_iff, hname]
      constructor
      · intro h
        cases h
        exact .inl rfl
      · rintro (h | ⟨hnone, -⟩)
        · cases h
          rfl
        · exact absurd hspelled (hnone k hk)
  | none =>
      have hnone : ∀ k ∈ ALL, ¬ k.Spelled (trim s.toList) := by
        intro k hk hspelled
        have hsome := by_name_of_spelled hk hspelled
        rw [hname] at hsome
        cases hsome
      have hnumber := parse_number_iff (show 0 < 65536 by decide) (trim s.toList)
      constructor
      · intro h
        refine .inr ⟨hnone, ?_⟩
        dsimp only [parse_u16] at h
        cases hread : parse_number 65536 (trim s.toList) with
        | none =>
            rw [hread] at h
            cases h
        | some v =>
            obtain ⟨hnumeral, hlt⟩ := (hnumber v).1 hread
            rw [hread] at h
            cases h
            rw [UInt16.toNat_ofNat_of_lt' hlt]
            exact hnumeral
      · rintro (⟨k, hk, -, hspelled⟩ | ⟨-, hnumeral⟩)
        · exact absurd hspelled (hnone k hk)
        · have hread := (hnumber code.toNat).2 ⟨hnumeral, code.toNat_lt⟩
          dsimp only [parse_u16]
          rw [hread]
          show Except.ok (UInt16.ofNat code.toNat) = _
          rw [UInt16.ofNat_toNat]

/-- A keycode in hex is read back. -/
theorem parse_key_prefixed_hex (code : UInt16) :
    parse_key (prefixed_hex 6 code.toNat) = .ok code := by
  rw [parse_key_iff, prefixed_hex, String.toList_ofList, trim_of_clean (prefixed_hex_clean _ _)]
  exact .inr ⟨fun k hk => not_spelled_hex hk, numeral_prefixed_hex _ _⟩

/-- Every name in the table is read as its key. -/
theorem parse_key_label {k : Key} (hk : k ∈ ALL) {s : String}
    (hs : s = k.name ∨ s ∈ k.aliases) : parse_key s = .ok k.code := by
  have hwell := well_spelled_of_mem hk
  simp only [Key.well_spelled, Bool.and_eq_true, List.all_eq_true] at hwell
  obtain ⟨⟨⟨hnormalized, hname⟩, -⟩, hlabels⟩ := hwell
  rw [parse_key_iff]
  refine .inl ⟨k, hk, rfl, ?_⟩
  rcases hs with rfl | halias
  · rw [trim_of_clean fun c hc => by have h := hname c hc; rwa [Bool.not_eq_true'] at h]
    exact .inr (.inl (decide_eq_true_iff.1 hnormalized).symm)
  · have hclean := (hlabels _ (Key.mem_labels_of_alias halias)).2
    rw [trim_of_clean fun c hc => by have h := hclean c hc; rwa [Bool.not_eq_true'] at h]
    exact .inl (List.any_eq_true.2 ⟨s, halias, eq_ignore_ascii_case_iff.2 rfl⟩)

/-- The first word of a text. -/
def first_word (s : String) : String := String.ofList (s.toList.takeWhile fun c => !is_whitespace c)

theorem first_word_append {s t : String} (hs : ∀ c ∈ s.toList, is_whitespace c = false)
    (ht : ∃ rest, t.toList = ' ' :: rest) : first_word (s ++ t) = s := by
  obtain ⟨rest, hrest⟩ := ht
  rw [first_word, String.toList_append, hrest, List.takeWhile_append_of_pos, List.takeWhile_cons]
  · simp [is_whitespace]
  · intro c hc
    rw [hs c hc]
    rfl

theorem mem_of_by_code {code : UInt16} {k : Key} (h : by_code code = some k) :
    k ∈ ALL ∧ k.code = code := by
  rw [by_code] at h
  have hcode : decide (k.code = code) = true :=
    List.find?_some (p := fun k : Key => decide (k.code = code)) h
  exact ⟨List.mem_of_find?_eq_some h, decide_eq_true_iff.1 hcode⟩

/-- **Keys are read exactly.**  A key argument is read as the one key that it is a spelling
of, in any case and with or without the prefix; as a number, if it is no spelling and in
range; and else not at all.  Every keycode is read back from the first word of the
description that `get` prints and from its hex form; from its decimal form, if that has
more than one digit; and from every name that `keys` lists for it. -/
theorem parse_key_exact :
    (∀ (s : String) (code : UInt16), parse_key s = .ok code ↔
      (∃ k ∈ ALL, k.code = code ∧ k.Spelled (trim s.toList)) ∨
        ((∀ k ∈ ALL, ¬ k.Spelled (trim s.toList)) ∧ Numeral (trim s.toList) code.toNat)) ∧
    (∀ k ∈ ALL, ∀ k' ∈ ALL, ∀ raw, k.Spelled raw → k'.Spelled raw → k = k') ∧
    (∀ code : UInt16, parse_key (first_word (describe code)) = .ok code ∧
      parse_key (prefixed_hex 6 code.toNat) = .ok code ∧
      (10 ≤ code.toNat → parse_key (toString code.toNat) = .ok code)) ∧
    ∀ k ∈ ALL, parse_key k.name = .ok k.code ∧ ∀ a ∈ k.aliases, parse_key a = .ok k.code := by
  refine ⟨parse_key_iff, fun k hk k' hk' raw => spelled_alike hk hk', ?_, ?_⟩
  · intro code
    refine ⟨?_, parse_key_prefixed_hex code, ?_⟩
    · rw [describe]
      split
      · rename_i k hk
        obtain ⟨hmem, rfl⟩ := mem_of_by_code hk
        have hwell := well_spelled_of_mem hmem
        simp only [Key.well_spelled, Bool.and_eq_true, List.all_eq_true] at hwell
        obtain ⟨⟨⟨-, hname⟩, -⟩, -⟩ := hwell
        rw [String.append_assoc, String.append_assoc, first_word_append]
        · exact parse_key_label hmem (.inl rfl)
        · intro c hc
          have h := hname c hc
          rwa [Bool.not_eq_true'] at h
        · exact ⟨_, by rw [String.toList_append]; rfl⟩
      · rw [first_word_append]
        · exact parse_key_prefixed_hex code
        · rw [prefixed_hex, String.toList_ofList]
          exact prefixed_hex_clean _ _
        · exact ⟨_, rfl⟩
    · intro hten
      have hdigits := toDigits_10_digits code.toNat
      have hlength : 1 < (Nat.toDigits 10 code.toNat).length := by
        have hle := Nat.length_toDigits_le_iff (b := 10) (n := code.toNat) (k := 1) (by decide)
          (by decide)
        omega
      rw [parse_key_iff, Nat.toString_eq_repr, Nat.toList_repr, trim_of_clean fun c hc =>
        (to_digit_16_clean (to_digit_10_clean (hdigits c hc)).1).1]
      exact .inr ⟨fun k hk => not_spelled_decimal hk hlength hdigits, numeral_toDigits_10 _⟩
  · intro k hk
    exact ⟨parse_key_label hk (.inl rfl), fun a ha => parse_key_label hk (.inr ha)⟩

end Clackd.Cli
