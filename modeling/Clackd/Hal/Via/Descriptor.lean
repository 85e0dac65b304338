import Clackd.Foundation.Items

/-!
# Is it a VIA interface?

A node is taken for a VIA interface if its report descriptor names the VIA usage page.
The probe walks the bytes by an index and reads at fixed distances from it; a read out
of range would be a panic, which the model shows as `none`.

## Main results

* `usage_page_loop_item`, `usage_page_loop_truncated`: one turn of the loop, over one
  item and over what is left of one.
* `hid_descriptor_has_usage_page_exact`: the probe finds exactly the usage pages among
  the items, in whatever bytes it is given.
-/

namespace Clackd.Hal.Via

open Clackd.Foundation

/-- `u16::from_le_bytes`. -/
def u16OfLe (lo hi : UInt8) : UInt16 := UInt16.ofNat (lo.toNat + 256 * hi.toNat)

/-- The length that a size code stands for; the last arm is marked unreachable. -/
def short_data_len (size_code : UInt8) : Option Nat :=
  match size_code.toNat with
  | 0 => some 0
  | 1 => some 1
  | 2 => some 2
  | 3 => some 4
  | _ => none

/-- The page of the Usage Page item at `i`, or `none` inside if the item has no data or
not enough of it. -/
def page_at (descriptor : List UInt8) (i data_len : Nat) : Option (Option UInt16) :=
  if data_len = 1 ∧ i + 1 < descriptor.length then do
    let lo ← descriptor[i + 1]?
    return some lo.toUInt16
  else if data_len = 2 ∧ i + 2 < descriptor.length then do
    let lo ← descriptor[i + 1]?
    let hi ← descriptor[i + 2]?
    return some (u16OfLe lo hi)
  else if data_len = 4 ∧ i + 4 < descriptor.length then do
    -- A 32-bit page: only the low half is compared.
    let lo ← descriptor[i + 1]?
    let hi ← descriptor[i + 2]?
    return some (u16OfLe lo hi)
  else
    return none

/-- The loop, from the index `i` on. -/
def usage_page_loop (descriptor : List UInt8) (target : UInt16) (i : Nat) : Option Bool :=
  if i < descriptor.length then do
    let lead ← descriptor[i]?
    if lead = 0xFE then
      if i + 1 ≥ descriptor.length then
        return false
      else
        let data_len ← descriptor[i + 1]?
        usage_page_loop descriptor target (i + (3 + data_len.toNat))
    else
      let data_len ← short_data_len (lead &&& 0x03)
      if lead &&& 0xFC = 0x04 then
        match ← page_at descriptor i data_len with
        | none => usage_page_loop descriptor target (i + (1 + data_len))
        | some page =>
            if page = target then
              return true
            else
              usage_page_loop descriptor target (i + (1 + data_len))
      else
        usage_page_loop descriptor target (i + (1 + data_len))
  else
    return false
termination_by descriptor.length - i

def hid_descriptor_has_usage_page (descriptor : List UInt8) (target : UInt16) : Option Bool :=
  usage_page_loop descriptor target 0

/-! ## One turn of the loop -/

section Turn

variable {descriptor : List UInt8} {target : UInt16} {i : Nat}

theorem usage_page_loop_end (h : descriptor.length ≤ i) :
    usage_page_loop descriptor target i = some false := by
  rw [usage_page_loop, if_neg (by omega)]
  rfl

theorem usage_page_loop_long {size : UInt8} (h : descriptor[i]? = some longItem)
    (hsize : descriptor[i + 1]? = some size) :
    usage_page_loop descriptor target i =
      usage_page_loop descriptor target (i + (3 + size.toNat)) := by
  obtain ⟨hi, -⟩ := List.getElem?_eq_some_iff.mp h
  obtain ⟨hnext, -⟩ := List.getElem?_eq_some_iff.mp hsize
  rw [usage_page_loop, if_pos hi, h, hsize]
  show (if i + 1 ≥ descriptor.length then _ else _) = _
  rw [if_neg (by omega)]
  rfl

theorem usage_page_loop_long_cut (h : descriptor[i]? = some longItem)
    (hcut : descriptor.length ≤ i + 1) : usage_page_loop descriptor target i = some false := by
  obtain ⟨hi, -⟩ := List.getElem?_eq_some_iff.mp h
  rw [usage_page_loop, if_pos hi, h]
  show (if i + 1 ≥ descriptor.length then _ else _) = _
  rw [if_pos hcut]
  rfl

theorem usage_page_loop_short {lead : UInt8} {data_len : Nat} (h : descriptor[i]? = some lead)
    (hlead : lead ≠ longItem) (hlen : short_data_len (lead &&& 0x03) = some data_len) :
    usage_page_loop descriptor target i =
      (if lead &&& 0xFC = 0x04 then page_at descriptor i data_len else some none).bind fun page =>
        if page = some target then some true
        else usage_page_loop descriptor target (i + (1 + data_len)) := by
  obtain ⟨hi, -⟩ := List.getElem?_eq_some_iff.mp h
  rw [usage_page_loop, if_pos hi, h]
  show (if lead = longItem then _ else (short_data_len (lead &&& 0x03)).bind _) = _
  rw [if_neg hlead, hlen, Option.bind_some]
  by_cases hpage : lead &&& 0xFC = 0x04
  · rw [if_pos hpage, if_pos hpage]
    congr 1
    funext page
    cases page with
    | none => rfl
    | some page =>
        simp only [Option.some_inj]
        rfl
  · rw [if_neg hpage, if_neg hpage]
    rfl

end Turn

/-! ## One item -/

/-- The page that an item names: the value of a Usage Page item with data. -/
def usage_page : Item → Option Nat
  | .short tag .global data _ => if tag = 0 ∧ data ≠ .empty then some data.value else none
  | _ => none

/-- The low half of the page that the item names is the target. -/
def names_page (target : UInt16) (item : Item) : Bool :=
  (usage_page item).any fun page => page % 2 ^ 16 = target.toNat

theorem short_data_len_eq (tag : Fin 16) (kind : ItemKind) (code : Fin 4) :
    short_data_len (leadByte tag kind code &&& 0x03) = some (dataLength code) := by
  have hall : ∀ code : Fin 4, short_data_len (UInt8.ofNat code) = some (dataLength code) := by
    decide
  rw [leadByte_size, hall]

theorem page_one (a : UInt8) : a.toUInt16 = UInt16.ofNat (ItemData.one a).value := by
  have ha := a.toNat_lt
  rw [ItemData.value_one]
  apply UInt16.toNat_inj.mp
  rw [UInt8.toNat_toUInt16, UInt16.toNat_ofNat']
  omega

theorem page_two (a b : UInt8) : u16OfLe a b = UInt16.ofNat (ItemData.two a b).value := by
  rw [ItemData.value_two]
  rfl

/-- The upper half is cut off. -/
theorem page_four (a b c d : UInt8) :
    u16OfLe a b = UInt16.ofNat (ItemData.four a b c d).value := by
  have ha := a.toNat_lt
  have hb := b.toNat_lt
  rw [ItemData.value_four]
  apply UInt16.toNat_inj.mp
  show (UInt16.ofNat _).toNat = _
  rw [UInt16.toNat_ofNat', UInt16.toNat_ofNat']
  omega

theorem page_at_item (before after : List UInt8) (lead : UInt8) (data : ItemData) :
    page_at (before ++ (lead :: data.bytes ++ after)) before.length (dataLength data.code) =
      some (if data = .empty then none else some (UInt16.ofNat data.value)) := by
  have hread := getElem?_past before (lead :: data.bytes ++ after)
  have hlen : before.length + dataLength data.code <
      (before ++ (lead :: data.bytes ++ after)).length := by
    rw [List.length_append, List.length_append, List.length_cons, data.length_bytes]
    omega
  have h21 : ¬ (2 : Nat) = 1 := by decide
  have h41 : ¬ (4 : Nat) = 1 := by decide
  have h42 : ¬ (4 : Nat) = 2 := by decide
  cases data with
  | empty => rfl
  | one a =>
      rw [page_at, if_pos ⟨rfl, hlen⟩, hread 1]
      show some (some a.toUInt16) = _
      rw [page_one]
      rfl
  | two a b =>
      rw [page_at, if_neg (fun h => h21 h.1), if_pos ⟨rfl, hlen⟩, hread 1, hread 2]
      show some (some (u16OfLe a b)) = _
      rw [page_two]
      rfl
  | four a b c d =>
      rw [page_at, if_neg (fun h => h41 h.1), if_neg (fun h => h42 h.1), if_pos ⟨rfl, hlen⟩,
        hread 1, hread 2]
      show some (some (u16OfLe a b)) = _
      rw [page_four a b c d]
      rfl

theorem page_at_cut {descriptor : List UInt8} {i data_len : Nat}
    (h : descriptor.length ≤ i + data_len) : page_at descriptor i data_len = some none := by
  rw [page_at, if_neg (by omega), if_neg (by omega), if_neg (by omega)]
  rfl

theorem page_eq_iff (n : Nat) (target : UInt16) :
    some (UInt16.ofNat n) = some target ↔ n % 2 ^ 16 = target.toNat := by
  rw [Option.some_inj, ← UInt16.toNat_inj, UInt16.toNat_ofNat']

theorem usage_page_loop_item_short (target : UInt16) (before after : List UInt8) {tag : Fin 16}
    {kind : ItemKind} {data : ItemData} (notLong : leadByte tag kind data.code ≠ longItem) :
    usage_page_loop (before ++ ((Item.short tag kind data notLong).encode ++ after)) target
        before.length =
      if names_page target (.short tag kind data notLong) then some true
      else usage_page_loop (before ++ ((Item.short tag kind data notLong).encode ++ after)) target
        (before.length + (1 + dataLength data.code)) := by
  have hread := getElem?_past before (leadByte tag kind data.code :: data.bytes ++ after) 0
  rw [Nat.add_zero] at hread
  rw [Item.encode, usage_page_loop_short hread notLong (short_data_len_eq ..), leadByte_item,
    page_at_item]
  by_cases hpage : leadByte tag kind 0 = 0x04
  · obtain ⟨rfl, rfl⟩ := leadByte_inj.mp (show leadByte tag kind 0 = leadByte 0 .global 0 from hpage)
    rw [if_pos hpage, Option.bind_some]
    by_cases hempty : data = .empty
    · rw [if_pos hempty]
      simp [names_page, usage_page, hempty]
    · rw [if_neg hempty]
      simp only [page_eq_iff]
      simp [names_page, usage_page, hempty]
  · have hnone : usage_page (.short tag kind data notLong) = none := by
      cases kind with
      | global =>
          have htag : ¬ tag = 0 := by
            rintro rfl
            exact hpage rfl
          simp [usage_page, htag]
      | main => rfl
      | localOnly => rfl
      | reserved => rfl
    rw [if_neg hpage, Option.bind_some, names_page, hnone]
    rfl

/-- Over one item, the loop finds the target or goes on behind it. -/
theorem usage_page_loop_item (target : UInt16) (before : List UInt8) (item : Item)
    (after : List UInt8) :
    usage_page_loop (before ++ (item.encode ++ after)) target before.length =
      if names_page target item then some true
      else usage_page_loop (before ++ (item.encode ++ after)) target
        (before ++ item.encode).length := by
  rw [List.length_append]
  cases item with
  | long tag data fits =>
      have hread := getElem?_past before ((Item.long tag data fits).encode ++ after)
      have hfirst := hread 0
      rw [Nat.add_zero] at hfirst
      rw [usage_page_loop_long hfirst (hread 1), toNat_longSize fits, Item.length_encode_long]
      rfl
  | short tag kind data notLong =>
      rw [Item.length_encode_short]
      exact usage_page_loop_item_short target before after notLong

/-- What is left of an item is never taken for one. -/
theorem usage_page_loop_truncated (target : UInt16) (before : List UInt8) {rest : List UInt8}
    (h : Truncated rest) : usage_page_loop (before ++ rest) target before.length = some false := by
  obtain ⟨item, missing, hmissing, h⟩ := h
  have hread := getElem?_past before rest
  have hfirst := hread 0
  have hlen := congrArg List.length h
  have hpos := List.length_pos_iff.mpr hmissing
  rw [List.length_append] at hlen
  rw [Nat.add_zero] at hfirst
  cases rest with
  | nil => exact usage_page_loop_end (by simp)
  | cons byte rest =>
      cases item with
      | long tag data fits =>
          obtain ⟨rfl, hmore⟩ := List.cons.inj h
          cases rest with
          | nil => exact usage_page_loop_long_cut hfirst (by simp)
          | cons size rest =>
              obtain ⟨rfl, -⟩ := List.cons.inj hmore
              rw [usage_page_loop_long hfirst (hread 1), toNat_longSize fits]
              refine usage_page_loop_end ?_
              rw [Item.length_encode_long] at hlen
              simp only [List.length_cons, List.length_append] at hlen ⊢
              omega
      | short tag kind data notLong =>
          obtain ⟨rfl, -⟩ := List.cons.inj h
          rw [Item.encode, List.length_cons, List.length_cons, data.length_bytes] at hlen
          have hcut : (before ++ leadByte tag kind data.code :: rest).length ≤
              before.length + dataLength data.code := by
            rw [List.length_append, List.length_cons]
            omega
          rw [usage_page_loop_short hfirst notLong (short_data_len_eq ..), page_at_cut hcut,
            ite_self, Option.bind_some]
          exact usage_page_loop_end (by omega)

/-! ## All items -/

theorem usage_page_loop_items (target : UInt16) {rest : List UInt8} (hrest : Truncated rest)
    (items : List Item) (before : List UInt8) :
    usage_page_loop (before ++ (encodeItems items ++ rest)) target before.length =
      some (items.any (names_page target)) := by
  induction items generalizing before with
  | nil => exact usage_page_loop_truncated target before hrest
  | cons item items ih =>
      rw [encodeItems_cons, List.append_assoc, usage_page_loop_item, List.any_cons]
      cases hpage : names_page target item with
      | true => rfl
      | false =>
          rw [← List.append_assoc, ih (before ++ item.encode)]
          rfl

/-- The probe is true exactly if some Usage Page item with data has the target as the low
half of its value.  It says so of every list of items, and whatever the bytes are, they
are such a list and at most an initial part of one more item, which makes no
difference. -/
theorem hid_descriptor_has_usage_page_exact (target : UInt16) :
    (∀ items, hid_descriptor_has_usage_page (encodeItems items) target = some true ↔
      ∃ item ∈ items, ∃ page, usage_page item = some page ∧ page % 2 ^ 16 = target.toNat) ∧
    ∀ descriptor, ∃ items rest, descriptor = encodeItems items ++ rest ∧ Truncated rest ∧
      hid_descriptor_has_usage_page descriptor target =
        some (items.any (names_page target)) := by
  have hall (items : List Item) {rest : List UInt8} (hrest : Truncated rest) :
      hid_descriptor_has_usage_page (encodeItems items ++ rest) target =
        some (items.any (names_page target)) :=
    usage_page_loop_items target hrest items []
  constructor
  · intro items
    have h := hall items truncated_nil
    rw [List.append_nil] at h
    rw [h, Option.some_inj, List.any_eq_true]
    simp [names_page, Option.any_eq_true]
  · intro descriptor
    obtain ⟨items, rest, rfl, hrest⟩ := exists_items descriptor
    exact ⟨items, rest, rfl, hrest, hall items hrest⟩

end Clackd.Hal.Via
