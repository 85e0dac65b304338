import Clackd.Hal.Via.Descriptor

/-!
# Is it the vendor interface?

Of the interfaces of the board only one declares a Feature report of 64 bytes.  The probe
walks the report descriptor and keeps the Report Count that it has last read, and asks
for a Feature item at which it is large enough.

Report Count is a global item, and global items can be saved by Push and brought back by
Pop.  The probe reads neither: behind a Pop it goes on with the count that was written
last, not with the one that was brought back.

## Main results

* `feature_report_loop_item`: one turn of the loop, over one item.
* `has_feature_report_written`: the probe finds the Feature items at which the count that
  was last written is large enough.
* `descriptor_has_feature_report_iff`: it finds those at which the count in force is large
  enough exactly unless it depends on what a Pop has brought back.
-/

namespace Clackd.Hal.Legacy

open Clackd.Foundation
open Clackd.Hal.Via (short_data_len short_data_len_eq)

/-- `u16::from_le_bytes([a, b]) as u32`. -/
def u32OfLe16 (a b : UInt8) : UInt32 := UInt32.ofNat (a.toNat + 256 * b.toNat)

/-- `u32::from_le_bytes`. -/
def u32OfLe (a b c d : UInt8) : UInt32 :=
  UInt32.ofNat (a.toNat + 256 * (b.toNat + 256 * (c.toNat + 256 * d.toNat)))

/-- `&bytes[i..]`; past the end it is a panic. -/
def sliceFrom (bytes : List UInt8) (i : Nat) : Option (List UInt8) :=
  if i ≤ bytes.length then some (bytes.drop i) else none

/-- The value of a Report Count item whose data starts the slice. -/
def report_count_of (slice : List UInt8) (data_len : Nat) : Option UInt32 :=
  if data_len = 1 ∧ !slice.isEmpty then do
    let a ← slice[0]?
    return a.toUInt32
  else if data_len = 2 ∧ slice.length ≥ 2 then do
    let a ← slice[0]?
    let b ← slice[1]?
    return u32OfLe16 a b
  else if data_len = 4 ∧ slice.length ≥ 4 then do
    let a ← slice[0]?
    let b ← slice[1]?
    let c ← slice[2]?
    let d ← slice[3]?
    return u32OfLe a b c d
  else
    return 0

/-- The loop, from the index `i` on. -/
def feature_report_loop (descriptor : List UInt8) (min_count : UInt32) (i : Nat)
    (report_count : UInt32) : Option Bool :=
  if i < descriptor.length then do
    let lead ← descriptor[i]?
    if lead = 0xFE then
      if i + 1 ≥ descriptor.length then
        return false
      else
        let data_len ← descriptor[i + 1]?
        feature_report_loop descriptor min_count (i + (3 + data_len.toNat)) report_count
    else
      let data_len ← short_data_len (lead &&& 0x03)
      let tag_type := lead &&& 0xFC
      if tag_type = 0x94 then
        let slice ← sliceFrom descriptor (i + 1)
        let report_count ← report_count_of slice data_len
        feature_report_loop descriptor min_count (i + (1 + data_len)) report_count
      else if tag_type = 0xB0 ∧ report_count ≥ min_count then
        return true
      else
        feature_report_loop descriptor min_count (i + (1 + data_len)) report_count
  else
    return false
termination_by descriptor.length - i

def descriptor_has_feature_report (descriptor : List UInt8) (min_count : UInt32) : Option Bool :=
  feature_report_loop descriptor min_count 0 0

/-! ## One turn of the loop -/

section Turn

variable {descriptor : List UInt8} {min_count report_count : UInt32} {i : Nat}

theorem feature_report_loop_end (h : descriptor.length ≤ i) :
    feature_report_loop descriptor min_count i report_count = some false := by
  rw [feature_report_loop, if_neg (by omega)]
  rfl

theorem feature_report_loop_long {size : UInt8} (h : descriptor[i]? = some longItem)
    (hsize : descriptor[i + 1]? = some size) :
    feature_report_loop descriptor min_count i report_count =
      feature_report_loop descriptor min_count (i + (3 + size.toNat)) report_count := by
  obtain ⟨hi, -⟩ := List.getElem?_eq_some_iff.mp h
  obtain ⟨hnext, -⟩ := List.getElem?_eq_some_iff.mp hsize
  rw [feature_report_loop, if_pos hi, h, hsize]
  show (if i + 1 ≥ descriptor.length then _ else _) = _
  rw [if_neg (by omega)]
  rfl

theorem feature_report_loop_short {lead : UInt8} {data_len : Nat} (h : descriptor[i]? = some lead)
    (hlead : lead ≠ longItem) (hlen : short_data_len (lead &&& 0x03) = some data_len) :
    feature_report_loop descriptor min_count i report_count =
      if lead &&& 0xFC = 0x94 then
        (report_count_of (descriptor.drop (i + 1)) data_len).bind
          (feature_report_loop descriptor min_count (i + (1 + data_len)))
      else if lead &&& 0xFC = 0xB0 ∧ report_count ≥ min_count then some true
      else feature_report_loop descriptor min_count (i + (1 + data_len)) report_count := by
  obtain ⟨hi, -⟩ := List.getElem?_eq_some_iff.mp h
  have hslice : sliceFrom descriptor (i + 1) = some (descriptor.drop (i + 1)) := if_pos hi
  rw [feature_report_loop, if_pos hi, h]
  show (if lead = longItem then _ else (short_data_len (lead &&& 0x03)).bind _) = _
  rw [if_neg hlead, hlen, Option.bind_some, hslice]
  rfl

end Turn

/-! ## One item -/

/-- Report Count, a global item. -/
def reportCount : Fin 16 := 9

/-- Feature, a main item. -/
def isFeature : Item → Bool
  | .short tag .main _ _ => tag = 11
  | _ => false

theorem count_one (a : UInt8) : a.toUInt32 = UInt32.ofNat (ItemData.one a).value := by
  have ha := a.toNat_lt
  rw [ItemData.value_one]
  apply UInt32.toNat_inj.mp
  rw [UInt8.toNat_toUInt32, UInt32.toNat_ofNat']
  omega

theorem report_count_of_item (data : ItemData) (after : List UInt8) :
    report_count_of (data.bytes ++ after) (dataLength data.code) =
      some (UInt32.ofNat data.value) := by
  have h21 : ¬ (2 : Nat) = 1 := by decide
  have h41 : ¬ (4 : Nat) = 1 := by decide
  have h42 : ¬ (4 : Nat) = 2 := by decide
  cases data with
  | empty => rfl
  | one a =>
      rw [report_count_of, if_pos ⟨rfl, rfl⟩]
      show some a.toUInt32 = _
      rw [count_one]
  | two a b =>
      rw [report_count_of, if_neg (fun h => h21 h.1), if_pos ⟨rfl, by simp [ItemData.bytes]⟩]
      show some (u32OfLe16 a b) = _
      rw [ItemData.value_two]
      rfl
  | four a b c d =>
      rw [report_count_of, if_neg (fun h => h41 h.1), if_neg (fun h => h42 h.1),
        if_pos ⟨rfl, by simp [ItemData.bytes]⟩]
      show some (u32OfLe a b c d) = _
      rw [ItemData.value_four]
      rfl

/-- The count that is kept behind an item. -/
def countAfter (report_count : UInt32) (item : Item) : UInt32 :=
  match item.globalValue reportCount with
  | some value => UInt32.ofNat value
  | none => report_count

theorem feature_report_loop_item_short (min_count report_count : UInt32)
    (before after : List UInt8) {tag : Fin 16} {kind : ItemKind} {data : ItemData}
    (notLong : leadByte tag kind data.code ≠ longItem) :
    feature_report_loop (before ++ ((Item.short tag kind data notLong).encode ++ after)) min_count
        before.length report_count =
      if isFeature (.short tag kind data notLong) ∧ min_count ≤ report_count then some true
      else feature_report_loop (before ++ ((Item.short tag kind data notLong).encode ++ after))
        min_count (before.length + (1 + dataLength data.code))
        (countAfter report_count (.short tag kind data notLong)) := by
  have hread := getElem?_past before (leadByte tag kind data.code :: data.bytes ++ after) 0
  rw [Nat.add_zero] at hread
  rw [Item.encode, feature_report_loop_short hread notLong (short_data_len_eq ..), leadByte_item]
  by_cases hcount : leadByte tag kind 0 = 0x94
  · obtain ⟨rfl, rfl⟩ :=
      leadByte_inj.mp (show leadByte tag kind 0 = leadByte reportCount .global 0 from hcount)
    have hslice : (before ++ (leadByte reportCount .global data.code :: data.bytes ++ after)).drop
        (before.length + 1) = data.bytes ++ after := by
      rw [List.drop_append, List.drop_of_length_le (by omega), List.nil_append,
        Nat.add_sub_cancel_left]
      rfl
    rw [if_pos hcount, hslice, report_count_of_item, Option.bind_some,
      if_neg (fun h => Bool.false_ne_true h.1)]
    simp [countAfter, Item.globalValue]
  · rw [if_neg hcount]
    have hkeep : countAfter report_count (.short tag kind data notLong) = report_count := by
      cases kind with
      | global =>
          have htag : ¬ tag = reportCount := by
            rintro rfl
            exact hcount rfl
          simp [countAfter, Item.globalValue, htag]
      | main => rfl
      | localOnly => rfl
      | reserved => rfl
    have hfeature : leadByte tag kind 0 = 0xB0 ↔ isFeature (.short tag kind data notLong) := by
      rw [show (0xB0 : UInt8) = leadByte 11 .main 0 from rfl, leadByte_inj]
      cases kind <;> simp [isFeature]
    rw [hkeep]
    simp only [hfeature, ge_iff_le]

/-- Over one item, the loop finds a Feature item or goes on behind the item, with the count
that the item has left. -/
theorem feature_report_loop_item (min_count report_count : UInt32) (before : List UInt8)
    (item : Item) (after : List UInt8) :
    feature_report_loop (before ++ (item.encode ++ after)) min_count before.length report_count =
      if isFeature item ∧ min_count ≤ report_count then some true
      else feature_report_loop (before ++ (item.encode ++ after)) min_count
        (before ++ item.encode).length (countAfter report_count item) := by
  rw [List.length_append]
  cases item with
  | long tag data fits =>
      have hread := getElem?_past before ((Item.long tag data fits).encode ++ after)
      have hfirst := hread 0
      rw [Nat.add_zero] at hfirst
      rw [feature_report_loop_long hfirst (hread 1), toNat_longSize fits, Item.length_encode_long,
        if_neg (fun h => Bool.false_ne_true h.1)]
      rfl
  | short tag kind data notLong =>
      rw [Item.length_encode_short]
      exact feature_report_loop_item_short min_count report_count before after notLong

/-! ## All items -/

/-- Some Feature item has a count, taken from the items before it, of at least `m`. -/
def DeclaresFeature (count : List Item → Nat) (m : Nat) (items : List Item) : Prop :=
  AtSome (fun before item => isFeature item ∧ m ≤ count before) items

/-- The count that is kept is the one that was last written. -/
theorem countAfter_written {report_count : UInt32} {done : List Item}
    (h : report_count.toNat = written reportCount done) (item : Item) :
    (countAfter report_count item).toNat = written reportCount (done ++ [item]) := by
  rw [written_snoc, countAfter]
  cases hvalue : item.globalValue reportCount with
  | none => exact h
  | some value =>
      have hlt : value < 2 ^ 32 := by
        cases item with
        | long tag data fits => cases hvalue
        | short tag kind data notLong =>
            cases kind with
            | global =>
                rw [Item.globalValue] at hvalue
                split at hvalue
                · cases hvalue
                  exact data.value_lt
                · cases hvalue
            | main => cases hvalue
            | localOnly => cases hvalue
            | reserved => cases hvalue
      show (UInt32.ofNat value).toNat = value
      rw [UInt32.toNat_ofNat']
      omega

theorem feature_report_loop_items (min_count : UInt32) (items done : List Item)
    (before : List UInt8) (report_count : UInt32)
    (hcount : report_count.toNat = written reportCount done) :
    ∃ found, feature_report_loop (before ++ encodeItems items) min_count before.length
        report_count = some found ∧
      (found = true ↔ AtSome (fun more item => isFeature item ∧
        min_count.toNat ≤ written reportCount (done ++ more)) items) := by
  induction items generalizing done before report_count with
  | nil =>
      refine ⟨false, feature_report_loop_end (by simp), ?_⟩
      simp [not_atSome_nil]
  | cons item items ih =>
      have hle : min_count ≤ report_count ↔
          min_count.toNat ≤ written reportCount (done ++ []) := by
        rw [List.append_nil, ← hcount]
        rfl
      rw [encodeItems_cons, feature_report_loop_item, atSome_cons, ← hle]
      by_cases hfeature : isFeature item ∧ min_count ≤ report_count
      · exact ⟨true, if_pos hfeature, by simp [hfeature]⟩
      · obtain ⟨found, hloop, hfound⟩ := ih (done ++ [item]) (before ++ item.encode)
          (countAfter report_count item) (countAfter_written hcount item)
        rw [List.append_assoc] at hloop
        refine ⟨found, by rw [if_neg hfeature]; exact hloop, ?_⟩
        rw [hfound]
        simp only [hfeature, false_or, List.append_assoc, List.singleton_append]

/-- The probe never fails, and it finds a Feature item at which the count that was last
written is large enough. -/
theorem has_feature_report_written (items : List Item) (min_count : UInt32) :
    descriptor_has_feature_report (encodeItems items) min_count = some true ↔
      DeclaresFeature (written reportCount) min_count.toNat items := by
  obtain ⟨found, hloop, hfound⟩ := feature_report_loop_items min_count items [] [] 0 rfl
  rw [descriptor_has_feature_report]
  show feature_report_loop ([] ++ encodeItems items) min_count ([] : List UInt8).length 0 = _ ↔ _
  rw [hloop, Option.some_inj]
  exact hfound

/-- The Feature items behind a Pop that no Report Count has followed make no difference:
either another one is enough, or they are as large by the count that was last written as
by the one that was brought back. -/
def PopsAgree (m : Nat) (items : List Item) : Prop :=
  AtSome (fun before item => isFeature item ∧ ¬ Restored reportCount before ∧
      m ≤ written reportCount before) items ∨
    (AtSome (fun before item => isFeature item ∧ Restored reportCount before ∧
        m ≤ written reportCount before) items ↔
      AtSome (fun before item => isFeature item ∧ Restored reportCount before ∧
        m ≤ inForce reportCount before) items)

/-- A Feature item stands behind a Pop, or the count in force is the one last written. -/
theorem declaresFeature_split (count : List Item → Nat) (m : Nat) (items : List Item)
    (hcount : ∀ before, ¬ Restored reportCount before → count before = written reportCount before) :
    DeclaresFeature count m items ↔
      AtSome (fun before item => isFeature item ∧ ¬ Restored reportCount before ∧
          m ≤ written reportCount before) items ∨
        AtSome (fun before item => isFeature item ∧ Restored reportCount before ∧
          m ≤ count before) items := by
  refine AtSome.or_iff ?_
  intro before item
  by_cases hrestored : Restored reportCount before
  · simp [hrestored]
  · simp [hrestored, hcount before hrestored]

/-- The probe is true exactly if some Feature item is governed by a Report Count of at
least `min_count` under the rules of Push and Pop, exactly if the Pops agree. -/
theorem descriptor_has_feature_report_iff (items : List Item) (min_count : UInt32) :
    (descriptor_has_feature_report (encodeItems items) min_count = some true ↔
        DeclaresFeature (inForce reportCount) min_count.toNat items) ↔
      PopsAgree min_count.toNat items := by
  have hpush : reportCount ≠ push := by decide
  rw [has_feature_report_written,
    declaresFeature_split (written reportCount) min_count.toNat items (fun _ _ => rfl),
    declaresFeature_split (inForce reportCount) min_count.toNat items
      (fun before h => inForce_eq_written hpush before h), PopsAgree]
  tauto

/-- Report Count 64, Push, Report Count 8, Pop, Feature. -/
def savedCount : List Item :=
  [.short reportCount .global (.one 64) (by decide), .short push .global .empty (by decide),
    .short reportCount .global (.one 8) (by decide), .short pop .global .empty (by decide),
    .short 11 .main (.one 2) (by decide)]

/-- A Feature report of 64 bytes that the probe does not find. -/
theorem restored_count_missed :
    ¬ (descriptor_has_feature_report (encodeItems savedCount) 64 = some true ↔
      DeclaresFeature (inForce reportCount) 64 savedCount) := by
  have hprobe : descriptor_has_feature_report (encodeItems savedCount) 64 = some false := by
    decide +kernel
  have hspec : DeclaresFeature (inForce reportCount) 64 savedCount :=
    ⟨savedCount.take 4, _, [], rfl, by decide, by decide⟩
  intro h
  have hfound := h.mpr hspec
  rw [hprobe] at hfound
  cases hfound

end Clackd.Hal.Legacy
