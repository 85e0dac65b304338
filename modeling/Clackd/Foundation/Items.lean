import Mathlib.Data.List.Induction
import Mathlib.Data.Nat.Digits.Defs
import Mathlib.Logic.Function.Basic

/-!
# Items of a report descriptor

A HID report descriptor is a sequence of items of different lengths.  A short item
starts with one byte that holds its tag, its kind and the size of its data; the
byte `0xFE` starts a long item instead, which carries its own length.

Global items set entries of a table.  Push saves the table and Pop brings it back,
so the value in force at a main item need not be the one that was last written.

## The engineering fact the design rests on

The first bytes of an item decide how long it is, so a byte string splits into
items in one way, and all that can be wrong with it is that the last item has been
cut off: `exists_items`.

## Main results

* `exists_items`: every byte string is a list of items and at most an initial part
  of one more.
* `inForce_eq_written`: as long as no Pop has come after the last item of a tag, the
  value in force is the one last written.
-/

namespace Clackd.Foundation

/-! ## Items -/

/-- There are sixteen tags. -/
instance instNeZeroTags : NeZero 16 := ⟨by decide⟩

/-- The four kinds of short items. -/
inductive ItemKind
  | main
  | global
  | localOnly
  | reserved
  deriving DecidableEq, Repr

/-- Bits 2 and 3 of the first byte. -/
def ItemKind.code : ItemKind → Fin 4
  | main => 0
  | global => 1
  | localOnly => 2
  | reserved => 3

theorem ItemKind.exists_code (c : Fin 4) : ∃ kind : ItemKind, kind.code = c := by
  match c with
  | 0 => exact ⟨main, rfl⟩
  | 1 => exact ⟨global, rfl⟩
  | 2 => exact ⟨localOnly, rfl⟩
  | 3 => exact ⟨reserved, rfl⟩

/-- The data of a short item: none, one, two or four bytes. -/
inductive ItemData
  | empty
  | one (a : UInt8)
  | two (a b : UInt8)
  | four (a b c d : UInt8)
  deriving DecidableEq, Repr

namespace ItemData

def bytes : ItemData → List UInt8
  | empty => []
  | one a => [a]
  | two a b => [a, b]
  | four a b c d => [a, b, c, d]

/-- Bits 0 and 1 of the first byte; the code 3 stands for four bytes. -/
def code : ItemData → Fin 4
  | empty => 0
  | one _ => 1
  | two _ _ => 2
  | four _ _ _ _ => 3

/-- The bytes read as a number, the least significant first. -/
def value (data : ItemData) : Nat := Nat.ofDigits 256 (data.bytes.map UInt8.toNat)

theorem value_one (a : UInt8) : (one a).value = a.toNat :=
  Nat.ofDigits_singleton

theorem value_two (a b : UInt8) : (two a b).value = a.toNat + 256 * b.toNat := by
  show Nat.ofDigits 256 [a.toNat, b.toNat] = _
  rw [Nat.ofDigits_cons, Nat.ofDigits_singleton]

theorem value_four (a b c d : UInt8) :
    (four a b c d).value = a.toNat + 256 * (b.toNat + 256 * (c.toNat + 256 * d.toNat)) := by
  show Nat.ofDigits 256 [a.toNat, b.toNat, c.toNat, d.toNat] = _
  rw [Nat.ofDigits_cons, Nat.ofDigits_cons, Nat.ofDigits_cons, Nat.ofDigits_singleton]

end ItemData

/-- How many bytes of data a size code stands for. -/
def dataLength (code : Fin 4) : Nat := if code = 3 then 4 else code

@[simp] theorem ItemData.length_bytes (data : ItemData) :
    data.bytes.length = dataLength data.code := by
  cases data <;> rfl

theorem ItemData.exists_of_length {code : Fin 4} {bytes : List UInt8}
    (h : bytes.length = dataLength code) : ∃ data : ItemData, data.code = code ∧ data.bytes = bytes := by
  match code, bytes, h with
  | 0, [], _ => exact ⟨.empty, rfl, rfl⟩
  | 1, [a], _ => exact ⟨.one a, rfl, rfl⟩
  | 2, [a, b], _ => exact ⟨.two a b, rfl, rfl⟩
  | 3, [a, b, c, d], _ => exact ⟨.four a b c d, rfl, rfl⟩

theorem ItemData.value_lt (data : ItemData) : data.value < 2 ^ 32 := by
  have hlt : data.value < 256 ^ (data.bytes.map UInt8.toNat).length := by
    refine Nat.ofDigits_lt_base_pow_length (by decide) ?_
    intro x hx
    obtain ⟨byte, -, rfl⟩ := List.mem_map.mp hx
    exact byte.toNat_lt
  have hlen : (data.bytes.map UInt8.toNat).length ≤ 4 := by
    cases data <;> simp [ItemData.bytes]
  calc data.value < 256 ^ (data.bytes.map UInt8.toNat).length := hlt
    _ ≤ 256 ^ 4 := Nat.pow_le_pow_right (by decide) hlen
    _ = 2 ^ 32 := by decide

/-- The first byte of a short item. -/
def leadByte (tag : Fin 16) (kind : ItemKind) (code : Fin 4) : UInt8 :=
  UInt8.ofNat (tag * 16 + kind.code * 4 + code)

/-- The first byte of a long item, which no short item may have. -/
def longItem : UInt8 := 0xFE

/-- The size bits of the first byte. -/
theorem leadByte_size (tag : Fin 16) (kind : ItemKind) (code : Fin 4) :
    leadByte tag kind code &&& 0x03 = UInt8.ofNat code := by
  have hall : ∀ (tag : Fin 16) (k : Fin 4) (code : Fin 4),
      UInt8.ofNat (tag * 16 + k * 4 + code) &&& 0x03 = UInt8.ofNat code := by decide
  exact hall tag kind.code code

/-- The other bits of the first byte. -/
theorem leadByte_item (tag : Fin 16) (kind : ItemKind) (code : Fin 4) :
    leadByte tag kind code &&& 0xFC = leadByte tag kind 0 := by
  have hall : ∀ (tag : Fin 16) (k : Fin 4) (code : Fin 4),
      UInt8.ofNat (tag * 16 + k * 4 + code) &&& 0xFC = UInt8.ofNat (tag * 16 + k * 4 + 0) := by
    decide
  exact hall tag kind.code code

theorem ItemKind.code_inj {kind kind' : ItemKind} (h : kind.code = kind'.code) : kind = kind' := by
  cases kind <;> cases kind' <;> first | rfl | exact absurd h (by decide)

/-- The first byte tells the tag and the kind. -/
theorem leadByte_inj {tag tag' : Fin 16} {kind kind' : ItemKind} :
    leadByte tag kind 0 = leadByte tag' kind' 0 ↔ tag = tag' ∧ kind = kind' := by
  constructor
  · intro h
    have hnat : (leadByte tag kind 0).toNat = (leadByte tag' kind' 0).toNat := by rw [h]
    simp only [leadByte, UInt8.toNat_ofNat', Fin.val_zero] at hnat
    have htag : tag = tag' := by omega
    have hkind : kind.code = kind'.code := by omega
    exact ⟨htag, ItemKind.code_inj hkind⟩
  · rintro ⟨rfl, rfl⟩
    rfl

inductive Item
  | short (tag : Fin 16) (kind : ItemKind) (data : ItemData)
      (notLong : leadByte tag kind data.code ≠ longItem)
  | long (tag : UInt8) (data : List UInt8) (fits : data.length < 256)
  deriving DecidableEq, Repr

def Item.encode : Item → List UInt8
  | short tag kind data _ => leadByte tag kind data.code :: data.bytes
  | long tag data _ => longItem :: UInt8.ofNat data.length :: tag :: data

/-- The items, one after the other. -/
def encodeItems (items : List Item) : List UInt8 := items.flatMap Item.encode

@[simp] theorem encodeItems_nil : encodeItems [] = [] := rfl

@[simp] theorem encodeItems_cons (item : Item) (items : List Item) :
    encodeItems (item :: items) = item.encode ++ encodeItems items := rfl

/-- The size byte of a long item gives the size of its data. -/
theorem toNat_longSize {data : List UInt8} (fits : data.length < 256) :
    (UInt8.ofNat data.length).toNat = data.length := by
  rw [UInt8.toNat_ofNat']
  omega

theorem Item.length_encode_long (tag : UInt8) (data : List UInt8) (fits : data.length < 256) :
    (Item.long tag data fits).encode.length = 3 + data.length := by
  simp only [Item.encode, List.length_cons]
  omega

theorem Item.length_encode_short (tag : Fin 16) (kind : ItemKind) (data : ItemData)
    (notLong : leadByte tag kind data.code ≠ longItem) :
    (Item.short tag kind data notLong).encode.length = 1 + dataLength data.code := by
  rw [Item.encode, List.length_cons, data.length_bytes]
  omega

theorem Item.encode_ne_nil (item : Item) : item.encode ≠ [] := by
  cases item <;> simp [Item.encode]

/-! ## Splitting bytes into items -/

/-- An item of which something is missing at the end, possibly all of it. -/
def Truncated (bytes : List UInt8) : Prop :=
  ∃ (item : Item) (missing : List UInt8), missing ≠ [] ∧ bytes ++ missing = item.encode

theorem truncated_nil : Truncated [] :=
  ⟨.long 0 [] (by decide), _, Item.encode_ne_nil _, List.nil_append _⟩

/-- Every byte is the first byte of some item. -/
theorem exists_leadByte (byte : UInt8) :
    ∃ (tag : Fin 16) (kind : ItemKind) (code : Fin 4), leadByte tag kind code = byte := by
  have hall : ∀ n : Fin 256, ∃ (tag : Fin 16) (kind : ItemKind) (code : Fin 4),
      leadByte tag kind code = UInt8.ofNat n := by
    intro n
    obtain ⟨kind, hkind⟩ := ItemKind.exists_code ⟨n / 4 % 4, by omega⟩
    refine ⟨⟨n / 16, by omega⟩, kind, ⟨n % 4, by omega⟩, ?_⟩
    show UInt8.ofNat _ = UInt8.ofNat _
    rw [hkind]
    show UInt8.ofNat (n / 16 * 16 + n / 4 % 4 * 4 + n % 4) = UInt8.ofNat n
    congr 1
    omega
  obtain ⟨tag, kind, code, h⟩ := hall ⟨byte.toNat, byte.toNat_lt⟩
  exact ⟨tag, kind, code, by rw [h]; exact UInt8.ofNat_toNat⟩

theorem short_or_truncated {tag : Fin 16} {kind : ItemKind} {code : Fin 4}
    (h : leadByte tag kind code ≠ longItem) (bytes : List UInt8) :
    Truncated (leadByte tag kind code :: bytes) ∨
      ∃ item rest, leadByte tag kind code :: bytes = Item.encode item ++ rest := by
  rcases Nat.lt_or_ge bytes.length (dataLength code) with hlt | hge
  · left
    -- What is missing is made up, as the item need only exist.
    have hlen : (bytes ++ List.replicate (dataLength code - bytes.length) 0).length =
        dataLength code := by
      rw [List.length_append, List.length_replicate]
      omega
    obtain ⟨data, rfl, hdata⟩ := ItemData.exists_of_length hlen
    refine ⟨.short tag kind data h, List.replicate (dataLength data.code - bytes.length) 0, ?_, ?_⟩
    · rw [Ne, List.replicate_eq_nil_iff]
      omega
    · rw [Item.encode, hdata, List.cons_append]
  · right
    have hlen : (bytes.take (dataLength code)).length = dataLength code := by
      rw [List.length_take]
      omega
    obtain ⟨data, rfl, hdata⟩ := ItemData.exists_of_length hlen
    refine ⟨.short tag kind data h, bytes.drop (dataLength data.code), ?_⟩
    rw [Item.encode, hdata, List.cons_append, List.take_append_drop]

theorem long_or_truncated (bytes : List UInt8) :
    Truncated (longItem :: bytes) ∨ ∃ item rest, longItem :: bytes = Item.encode item ++ rest := by
  have hsize (size : UInt8) : UInt8.ofNat size.toNat = size := UInt8.ofNat_toNat
  match bytes with
  | [] => exact .inl ⟨.long 0 [] (by decide), _, by simp, rfl⟩
  | [size] =>
      left
      refine ⟨.long 0 (List.replicate size.toNat 0) ?_, 0 :: List.replicate size.toNat 0, ?_, ?_⟩
      · rw [List.length_replicate]
        exact size.toNat_lt
      · simp
      · simp [Item.encode, hsize]
  | size :: tag :: data =>
      rcases Nat.lt_or_ge data.length size.toNat with hlt | hge
      · left
        have hlen : (data ++ List.replicate (size.toNat - data.length) 0).length = size.toNat := by
          rw [List.length_append, List.length_replicate]
          omega
        refine ⟨.long tag (data ++ List.replicate (size.toNat - data.length) 0) ?_,
          List.replicate (size.toNat - data.length) 0, ?_, ?_⟩
        · rw [hlen]
          exact size.toNat_lt
        · rw [Ne, List.replicate_eq_nil_iff]
          omega
        · rw [Item.encode, hlen, hsize]
          rfl
      · right
        have hlen : (data.take size.toNat).length = size.toNat := by
          rw [List.length_take]
          omega
        refine ⟨.long tag (data.take size.toNat) ?_, data.drop size.toNat, ?_⟩
        · rw [hlen]
          exact size.toNat_lt
        · rw [Item.encode, hlen, hsize]
          simp

/-- The first item of a byte string, unless the string ends before it does. -/
theorem item_or_truncated (bytes : List UInt8) :
    Truncated bytes ∨ ∃ item rest, bytes = Item.encode item ++ rest := by
  cases bytes with
  | nil => exact .inl truncated_nil
  | cons byte bytes =>
      by_cases hlong : byte = longItem
      · subst hlong
        exact long_or_truncated bytes
      · obtain ⟨tag, kind, code, rfl⟩ := exists_leadByte byte
        exact short_or_truncated hlong bytes

/-- Every byte string is a list of items, and at most an initial part of one more. -/
theorem exists_items (bytes : List UInt8) :
    ∃ items rest, bytes = encodeItems items ++ rest ∧ Truncated rest := by
  induction hn : bytes.length using Nat.strong_induction_on generalizing bytes with
  | _ n ih =>
      rcases item_or_truncated bytes with h | ⟨item, rest, rfl⟩
      · exact ⟨[], bytes, rfl, h⟩
      · have hpos := List.length_pos_iff.mpr item.encode_ne_nil
        rw [List.length_append] at hn
        obtain ⟨items, rest', rfl, hrest⟩ := ih rest.length (by omega) rest rfl
        exact ⟨item :: items, rest', by rw [encodeItems_cons, List.append_assoc], hrest⟩

/-- Reading past what comes before. -/
theorem getElem?_past (before rest : List UInt8) (k : Nat) :
    (before ++ rest)[before.length + k]? = rest[k]? := by
  rw [List.getElem?_append_right (by omega)]
  congr 1
  omega

/-- At some entry of the list, `Q` holds of what comes before it. -/
def AtSome {α : Type*} (Q : List α → α → Prop) (l : List α) : Prop :=
  ∃ before x after, l = before ++ x :: after ∧ Q before x

theorem not_atSome_nil {α : Type*} {Q : List α → α → Prop} : ¬ AtSome Q [] := by
  rintro ⟨before, x, after, h, -⟩
  cases before <;> cases h

theorem atSome_cons {α : Type*} {Q : List α → α → Prop} {a : α} {l : List α} :
    AtSome Q (a :: l) ↔ Q [] a ∨ AtSome (fun before => Q (a :: before)) l := by
  constructor
  · rintro ⟨before, x, after, h, hq⟩
    cases before with
    | nil =>
        cases h
        exact .inl hq
    | cons b before =>
        cases h
        exact .inr ⟨before, x, after, rfl, hq⟩
  · rintro (hq | ⟨before, x, after, rfl, hq⟩)
    · exact ⟨[], a, l, rfl, hq⟩
    · exact ⟨a :: before, x, after, rfl, hq⟩

theorem AtSome.or_iff {α : Type*} {P Q R : List α → α → Prop} {l : List α}
    (h : ∀ before x, P before x ↔ Q before x ∨ R before x) :
    AtSome P l ↔ AtSome Q l ∨ AtSome R l := by
  constructor
  · rintro ⟨before, x, after, hl, hp⟩
    rcases (h before x).mp hp with hq | hr
    · exact .inl ⟨before, x, after, hl, hq⟩
    · exact .inr ⟨before, x, after, hl, hr⟩
  · rintro (⟨before, x, after, hl, hq⟩ | ⟨before, x, after, hl, hr⟩)
    · exact ⟨before, x, after, hl, (h before x).mpr (.inl hq)⟩
    · exact ⟨before, x, after, hl, (h before x).mpr (.inr hr)⟩

/-! ## The table of global items -/

/-- What the global items have set so far, and the tables that Push has saved. -/
structure Globals where
  table : Fin 16 → Nat := fun _ => 0
  stack : List (Fin 16 → Nat) := []

def push : Fin 16 := 10

def pop : Fin 16 := 11

/-- A Pop that has no Push leaves the table as it is. -/
def Globals.apply (globals : Globals) : Item → Globals
  | .short tag .global data _ =>
      if tag = push then { globals with stack := globals.table :: globals.stack }
      else if tag = pop then
        match globals.stack with
        | [] => globals
        | saved :: stack => { table := saved, stack := stack }
      else { globals with table := Function.update globals.table tag data.value }
  | _ => globals

/-- The value of a global item that holds after the items. -/
def inForce (tag : Fin 16) (items : List Item) : Nat :=
  (items.foldl Globals.apply {}).table tag

/-- The value that an item gives to the tag, if it is a global item of that tag. -/
def Item.globalValue (tag : Fin 16) : Item → Option Nat
  | .short t .global data _ => if t = tag then some data.value else none
  | _ => none

def Item.isPop (item : Item) : Bool := (item.globalValue pop).isSome

/-- The value that the last item of the tag has given, whatever was saved or brought
back since. -/
def written (tag : Fin 16) (items : List Item) : Nat :=
  (items.filterMap (Item.globalValue tag)).getLast?.getD 0

/-- A Pop has come after the last item of the tag. -/
def Restored (tag : Fin 16) (items : List Item) : Prop :=
  ∃ before item after, items = before ++ item :: after ∧ item.isPop ∧
    ∀ other ∈ after, other.globalValue tag = none

/-- Items of other tags leave the value in force alone, Pop apart. -/
theorem Globals.table_apply (globals : Globals) {tag : Fin 16} (htag : tag ≠ push) (item : Item)
    (hpop : item.isPop = false) :
    (globals.apply item).table tag = (item.globalValue tag).getD (globals.table tag) := by
  cases item with
  | long t data fits => rfl
  | short t kind data h =>
      cases kind with
      | main => rfl
      | localOnly => rfl
      | reserved => rfl
      | global =>
          have ht : t ≠ pop := by
            intro ht
            simp [Item.isPop, Item.globalValue, ht] at hpop
          by_cases hpush : t = push
          · have hne : push ≠ tag := fun h => htag h.symm
            simp [Globals.apply, Item.globalValue, hpush, hne]
          · by_cases hsame : t = tag
            · subst hsame
              simp [Globals.apply, Item.globalValue, ht, hpush]
            · have hne : tag ≠ t := fun h => hsame h.symm
              simp [Globals.apply, Item.globalValue, ht, hpush, hsame, hne]

theorem written_snoc (tag : Fin 16) (items : List Item) (item : Item) :
    written tag (items ++ [item]) = (item.globalValue tag).getD (written tag items) := by
  rw [written, List.filterMap_append]
  cases h : item.globalValue tag with
  | none => simp [h, written]
  | some value => simp [h]

/-- As long as nothing has been brought back, the value in force is the one that was
last written. -/
theorem inForce_eq_written {tag : Fin 16} (htag : tag ≠ push) (items : List Item)
    (h : ¬ Restored tag items) : inForce tag items = written tag items := by
  induction items using List.reverseRecOn with
  | nil => rfl
  | append_singleton items item ih =>
      have hitem : item.isPop = false := by
        by_contra hitem
        exact h ⟨items, item, [], rfl, by simpa using hitem, by simp⟩
      rw [written_snoc, inForce, List.foldl_append]
      show ((items.foldl Globals.apply {}).apply item).table tag = _
      rw [Globals.table_apply _ htag item hitem]
      cases hvalue : item.globalValue tag with
      | some value => rfl
      | none =>
          refine ih ?_
          rintro ⟨before, popped, after, rfl, hpopped, hafter⟩
          refine h ⟨before, popped, after ++ [item], by simp, hpopped, ?_⟩
          intro other hother
          rcases List.mem_append.mp hother with hother | hother
          · exact hafter other hother
          · rw [List.mem_singleton.mp hother, hvalue]

end Clackd.Foundation
