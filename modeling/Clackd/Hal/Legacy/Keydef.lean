import Clackd.Hal.Legacy.Gmk67

/-!
# The key-definition area

A layer is 144 slots of four bytes, over nine pages.  A slot that begins with
the marker holds a keycode, any other slot keeps the factory default.

## Main results

* `key_index_for_iff`: positions with a key and their key indices are in
  bijection.
* `slotAt_encode`: the encoded buffer has exactly the given entries.
* `areaHolds_keydef_pages`: the pages sent for a layer hold that layer of the
  shadow, and nothing else.
-/

namespace Clackd.Hal.Legacy

open Clackd.Foundation Clackd.Hal
open Std (ExtTreeMap)

/-! ## Key indices -/

theorem length_cells {cells : List UInt8} (h : cells ∈ KEY_INDEX) : cells.length = 15 := by
  have hall : ∀ cells ∈ KEY_INDEX, cells.length = 15 := by decide
  exact hall cells h

/-- The key at a position is found there again. -/
theorem find_of_key_index {row col ki : UInt8} (h : key_index_for row col = some ki) :
    find_matrix_pos_for_key_index ki = some (row, col) ∧ ki.toNat < 143 := by
  have htable : ∀ r : Fin 5, ∀ c : Fin 15,
      (key_index_for (UInt8.ofNat r) (UInt8.ofNat c)).all (fun ki =>
        find_matrix_pos_for_key_index ki = some (UInt8.ofNat r, UInt8.ofNat c) ∧
          ki.toNat < 143) = true := by
    decide +kernel
  by_cases hr : row.toNat < 5
  · by_cases hc : col.toNat < 15
    · have hcell := htable ⟨row.toNat, hr⟩ ⟨col.toNat, hc⟩
      rw [UInt8.ofNat_toNat, UInt8.ofNat_toNat, h] at hcell
      exact of_decide_eq_true hcell
    · exfalso
      rw [key_index_for] at h
      obtain ⟨cells, hcells, hrest⟩ := Option.bind_eq_some_iff.1 h
      obtain ⟨cell, hcell, -⟩ := Option.bind_eq_some_iff.1 hrest
      have hbound := (List.getElem?_eq_some_iff.1 hcell).1
      rw [length_cells (List.mem_of_getElem? hcells)] at hbound
      exact hc hbound
  · exfalso
    rw [key_index_for] at h
    obtain ⟨cells, hcells, -⟩ := Option.bind_eq_some_iff.1 h
    exact hr (List.getElem?_eq_some_iff.1 hcells).1

/-- A found position has that key. -/
theorem key_index_of_find {row col ki : UInt8}
    (h : find_matrix_pos_for_key_index ki = some (row, col)) :
    key_index_for row col = some ki := by
  unfold find_matrix_pos_for_key_index at h
  split at h
  · cases h
  · rename_i hna
    obtain ⟨⟨cells, r⟩, hrow, hcell⟩ := List.exists_of_findSome?_eq_some h
    obtain ⟨c, hc, hpos⟩ := Option.map_eq_some_iff.1 hcell
    obtain ⟨rfl, rfl⟩ := Prod.mk.inj hpos
    have hcells : KEY_INDEX[r]? = some cells := List.mem_zipIdx_iff_getElem?.1 hrow
    obtain ⟨hlt, hfound, -⟩ := List.findIdx?_eq_some_iff_getElem.1 hc
    have hr : r < 5 := (List.getElem?_eq_some_iff.1 hcells).1
    have hlength := length_cells (List.mem_of_getElem? hcells)
    have hwidth : c < 15 := hlength ▸ hlt
    have hrow : (UInt8.ofNat r).toNat = r := by
      rw [UInt8.toNat_ofNat']
      omega
    have hcol : (UInt8.ofNat c).toNat = c := by
      rw [UInt8.toNat_ofNat']
      omega
    have hki : cells[c] = ki := of_decide_eq_true hfound
    rw [key_index_for, hrow, hcells, hcol]
    show (cells[c]?).bind _ = _
    rw [List.getElem?_eq_getElem hlt, hki]
    exact if_pos hna

/-- Positions and key indices are in bijection. -/
theorem key_index_for_iff (row col ki : UInt8) :
    key_index_for row col = some ki ↔ find_matrix_pos_for_key_index ki = some (row, col) :=
  ⟨fun h => (find_of_key_index h).1, key_index_of_find⟩

/-! ## Slots of a buffer -/

/-- The keycode of a slot, if it is marked. -/
def slotAt (bytes : Nat → UInt8) (ki : Nat) : Option UInt16 :=
  if bytes (ki * 4) = KEY_DEF_ENTRY_MARKER then
    some (u16OfLe (bytes (ki * 4 + 2)) (bytes (ki * 4 + 3)))
  else
    none

/-- The bytes of a buffer. -/
def bytesOf (buf : List UInt8) (i : Nat) : UInt8 := buf.getD i 0

theorem u16OfLe_toLe (n : UInt16) : u16OfLe (u16ToLe n).1 (u16ToLe n).2 = n := by
  have hn : n.toNat < 65536 := n.toNat_lt
  have hlo : (UInt8.ofNat (n.toNat % 256)).toNat = n.toNat % 256 :=
    UInt8.toNat_ofNat_of_lt' (show n.toNat % 256 < 256 by omega)
  have hhi : (UInt8.ofNat (n.toNat / 256)).toNat = n.toNat / 256 :=
    UInt8.toNat_ofNat_of_lt' (show n.toNat / 256 < 256 by omega)
  rw [u16OfLe, u16ToLe, hlo, hhi, Nat.mod_add_div]
  exact UInt16.ofNat_toNat

theorem bytesOf_set (buf : List UInt8) (o i : Nat) (v : UInt8) (ho : o < buf.length) :
    bytesOf (buf.set o v) i = if o = i then v else bytesOf buf i := by
  rw [bytesOf, bytesOf, List.getD_eq_getElem?_getD, List.getD_eq_getElem?_getD,
    List.getElem?_set]
  by_cases h : o = i
  · rw [if_pos h, if_pos h, if_pos ho, Option.getD_some]
  · rw [if_neg h, if_neg h]

theorem length_write_entry (buf : List UInt8) (entry : UInt8 × UInt16) :
    (write_entry buf entry).length = buf.length := by
  unfold write_entry
  simp only
  split
  · rw [List.length_set, List.length_set, List.length_set]
  · rfl

/-- Every byte of a buffer after one entry is written. -/
theorem bytesOf_write_entry {buf : List UInt8} (hlen : buf.length = KEY_DEF_BUF_LEN)
    (entry : UInt8 × UInt16) (i : Nat) (hentry : entry.1.toNat * 4 + 3 < KEY_DEF_BUF_LEN) :
    bytesOf (write_entry buf entry) i =
      if entry.1.toNat * 4 + 3 = i then (u16ToLe entry.2).2
      else if entry.1.toNat * 4 + 2 = i then (u16ToLe entry.2).1
      else if entry.1.toNat * 4 = i then KEY_DEF_ENTRY_MARKER
      else bytesOf buf i := by
  unfold write_entry
  simp only
  rw [if_pos hentry, bytesOf_set, bytesOf_set, bytesOf_set]
  all_goals
    simp only [List.length_set, hlen]
    omega

/-- Writing an entry sets its slot and no other. -/
theorem slotAt_write_entry {buf : List UInt8} (hlen : buf.length = KEY_DEF_BUF_LEN)
    (entry : UInt8 × UInt16) {ki : Nat} (hki : ki < KEY_DEF_BUF_LEN / 4) :
    slotAt (bytesOf (write_entry buf entry)) ki =
      if entry.1.toNat = ki then some entry.2 else slotAt (bytesOf buf) ki := by
  have hbuf : KEY_DEF_BUF_LEN = 576 := rfl
  by_cases hentry : entry.1.toNat * 4 + 3 < KEY_DEF_BUF_LEN
  · by_cases heq : entry.1.toNat = ki
    · have hmarker : bytesOf (write_entry buf entry) (ki * 4) = KEY_DEF_ENTRY_MARKER := by
        rw [bytesOf_write_entry hlen entry _ hentry, if_neg (by omega), if_neg (by omega),
          if_pos (by omega)]
      have hlo : bytesOf (write_entry buf entry) (ki * 4 + 2) = (u16ToLe entry.2).1 := by
        rw [bytesOf_write_entry hlen entry _ hentry, if_neg (by omega), if_pos (by omega)]
      have hhi : bytesOf (write_entry buf entry) (ki * 4 + 3) = (u16ToLe entry.2).2 := by
        rw [bytesOf_write_entry hlen entry _ hentry, if_pos (by omega)]
      rw [if_pos heq, slotAt, if_pos hmarker, hlo, hhi, u16OfLe_toLe]
    · have hother : ∀ j, j < 4 →
          bytesOf (write_entry buf entry) (ki * 4 + j) = bytesOf buf (ki * 4 + j) := by
        intro j hj
        rw [bytesOf_write_entry hlen entry _ hentry, if_neg (by omega), if_neg (by omega),
          if_neg (by omega)]
      have hmarker := hother 0 (by omega)
      rw [Nat.add_zero] at hmarker
      rw [if_neg heq, slotAt, slotAt, hmarker, hother 2 (by omega), hother 3 (by omega)]
  · have hne : entry.1.toNat ≠ ki := by omega
    have hkeep : write_entry buf entry = buf := if_neg hentry
    rw [hkeep, if_neg hne]

/-! ## The encoded buffer -/

/-- The buffer before its check code. -/
def entriesBuffer (entries : List (UInt8 × UInt16)) : List UInt8 :=
  entries.foldl write_entry (List.replicate KEY_DEF_BUF_LEN 0)

theorem entriesBuffer_snoc (entries : List (UInt8 × UInt16)) (e : UInt8 × UInt16) :
    entriesBuffer (entries ++ [e]) = write_entry (entriesBuffer entries) e := by
  rw [entriesBuffer, List.foldl_append]
  rfl

theorem length_entriesBuffer (entries : List (UInt8 × UInt16)) :
    (entriesBuffer entries).length = KEY_DEF_BUF_LEN := by
  induction entries using List.reverseRecOn with
  | nil => exact List.length_replicate
  | append_singleton entries e ih => rw [entriesBuffer_snoc, length_write_entry, ih]

theorem bytesOf_replicate (n i : Nat) : bytesOf (List.replicate n 0) i = 0 := by
  rw [bytesOf, List.getD_eq_getElem?_getD, List.getElem?_replicate]
  split <;> rfl

/-- A slot nothing was written to is unmarked. -/
theorem slotAt_entriesBuffer_none (entries : List (UInt8 × UInt16)) {ki : Nat}
    (hki : ki < KEY_DEF_BUF_LEN / 4) (hnone : ∀ e ∈ entries, e.1.toNat ≠ ki) :
    slotAt (bytesOf (entriesBuffer entries)) ki = none := by
  induction entries using List.reverseRecOn with
  | nil =>
      rw [slotAt, entriesBuffer, List.foldl_nil, bytesOf_replicate]
      rfl
  | append_singleton entries e ih =>
      rw [entriesBuffer_snoc, slotAt_write_entry (length_entriesBuffer entries) e hki,
        if_neg (hnone e (List.mem_append_right _ (List.mem_singleton_self e)))]
      exact ih fun e' he' => hnone e' (List.mem_append_left _ he')

/-- A slot holds what the entries say of it, if they say one thing. -/
theorem slotAt_entriesBuffer_some (entries : List (UInt8 × UInt16)) {ki : Nat} {kc : UInt16}
    (hki : ki < KEY_DEF_BUF_LEN / 4) (hmem : ∃ e ∈ entries, e.1.toNat = ki)
    (hone : ∀ e ∈ entries, e.1.toNat = ki → e.2 = kc) :
    slotAt (bytesOf (entriesBuffer entries)) ki = some kc := by
  induction entries using List.reverseRecOn with
  | nil =>
      obtain ⟨e, he, -⟩ := hmem
      exact absurd he List.not_mem_nil
  | append_singleton entries e ih =>
      rw [entriesBuffer_snoc, slotAt_write_entry (length_entriesBuffer entries) e hki]
      by_cases heq : e.1.toNat = ki
      · rw [if_pos heq, hone e (List.mem_append_right _ (List.mem_singleton_self e)) heq]
      · rw [if_neg heq]
        refine ih ?_ fun e' he' => hone e' (List.mem_append_left _ he')
        obtain ⟨e', he', hki'⟩ := hmem
        rcases List.mem_append.1 he' with he' | he'
        · exact ⟨e', he', hki'⟩
        · rw [List.mem_singleton.1 he'] at hki'
          exact absurd hki' heq

/-- A slot's first byte is the marker or zero. -/
theorem marker_entriesBuffer (entries : List (UInt8 × UInt16)) (ki : Nat) :
    bytesOf (entriesBuffer entries) (ki * 4) = KEY_DEF_ENTRY_MARKER ∨
      bytesOf (entriesBuffer entries) (ki * 4) = 0 := by
  induction entries using List.reverseRecOn with
  | nil => exact .inr (bytesOf_replicate _ _)
  | append_singleton entries e ih =>
      rw [entriesBuffer_snoc]
      by_cases hentry : e.1.toNat * 4 + 3 < KEY_DEF_BUF_LEN
      · rw [bytesOf_write_entry (length_entriesBuffer entries) e _ hentry, if_neg (by omega),
          if_neg (by omega)]
        split
        · exact .inl rfl
        · exact ih
      · have hkeep : write_entry (entriesBuffer entries) e = entriesBuffer entries :=
          if_neg hentry
        rw [hkeep]
        exact ih

theorem bytesOf_encode (entries : List (UInt8 × UInt16)) (i : Nat)
    (hi : i ≠ KEY_DEF_BUF_LEN - 2) (hi' : i ≠ KEY_DEF_BUF_LEN - 1) :
    bytesOf (encode_keydef_buffer entries) i = bytesOf (entriesBuffer entries) i := by
  have hlen := length_entriesBuffer entries
  have hbuf : KEY_DEF_BUF_LEN = 576 := rfl
  change bytesOf (((entriesBuffer entries).set (KEY_DEF_BUF_LEN - 2) 0xAA).set
    (KEY_DEF_BUF_LEN - 1) 0x55) i = _
  rw [bytesOf_set, bytesOf_set, if_neg (Ne.symm hi'), if_neg (Ne.symm hi)]
  · omega
  · rw [List.length_set]
    omega

/-- The check code is behind the last slot a key can have. -/
theorem slotAt_encode (entries : List (UInt8 × UInt16)) {ki : Nat} (hki : ki < 143) :
    slotAt (bytesOf (encode_keydef_buffer entries)) ki =
      slotAt (bytesOf (entriesBuffer entries)) ki := by
  have hbuf : KEY_DEF_BUF_LEN = 576 := rfl
  rw [slotAt, slotAt, bytesOf_encode entries _ (by omega) (by omega),
    bytesOf_encode entries _ (by omega) (by omega), bytesOf_encode entries _ (by omega) (by omega)]

/-! ## Pages -/

theorem byteAt_pageOf (buf : List UInt8) (p : Nat) {j : Nat} (hj : j < FRAME_LEN) :
    byteAt (pageOf buf p) j = bytesOf buf (p * FRAME_LEN + j) := by
  have hlen : j < (pageOf buf p).toList.length := by
    rw [Vector.length_toList]
    exact hj
  rw [byteAt, List.getD_eq_getElem _ _ hlen, Vector.getElem_toList]
  exact Vector.getElem_ofFn hj

/-- The bytes of an area given as pages. -/
def bytesOfPages (pages : List FeatureFrame) (i : Nat) : UInt8 :=
  (pages[i / FRAME_LEN]?.map fun page => byteAt page (i % FRAME_LEN)).getD 0

/-- The pages of a buffer. -/
def keydef_pages (buf : List UInt8) : List FeatureFrame :=
  (List.range KEY_DEF_PAGES).map (pageOf buf)

theorem bytesOfPages_keydef_pages (buf : List UInt8) {i : Nat} (hi : i < KEY_DEF_BUF_LEN) :
    bytesOfPages (keydef_pages buf) i = bytesOf buf i := by
  have hframe : FRAME_LEN = 64 := rfl
  have hpages : KEY_DEF_PAGES = 9 := rfl
  have hbuf : KEY_DEF_BUF_LEN = 576 := rfl
  have hp : i / FRAME_LEN < KEY_DEF_PAGES := by
    rw [hframe, hpages]
    omega
  have hj : i % FRAME_LEN < FRAME_LEN := Nat.mod_lt _ (by omega)
  rw [bytesOfPages, keydef_pages, List.getElem?_map, List.getElem?_range hp, Option.map_some,
    Option.map_some, Option.getD_some, byteAt_pageOf buf _ hj, Nat.div_add_mod']

/-- No page can be taken for a framing command. -/
theorem pageOf_encode_head (entries : List (UInt8 × UInt16)) (p : Nat) :
    byteAt (pageOf (encode_keydef_buffer entries) p) 0 ≠ PACKET_HEADER := by
  have hframe : FRAME_LEN = 64 := rfl
  have hbuf : KEY_DEF_BUF_LEN = 576 := rfl
  rw [byteAt_pageOf _ _ (by omega), Nat.add_zero, hframe,
    bytesOf_encode entries _ (by omega) (by omega)]
  have hmarker := marker_entriesBuffer entries (p * 16)
  rw [show p * 16 * 4 = p * 64 by omega] at hmarker
  rcases hmarker with h | h
  · rw [h]
    decide
  · rw [h]
    decide

/-! ## A layer of the shadow -/

/-- The marked slots of an area are one layer of a keymap. -/
def AreaHolds (area : List FeatureFrame) (keymap : Keymap) (layer : UInt8) : Prop :=
  ∀ ki : Nat, ki < KEY_DEF_BUF_LEN / 4 →
    slotAt (bytesOfPages area) ki =
      (find_matrix_pos_for_key_index (UInt8.ofNat ki)).bind fun pos =>
        keymap[(layer, pos.1, pos.2)]?

theorem mem_keydef_entries (shadow : ShadowState) (layer ki : UInt8) (kc : UInt16) :
    (ki, kc) ∈ keydef_entries shadow layer ↔ ∃ row col,
      key_index_for row col = some ki ∧ shadow.keymap[(layer, row, col)]? = some kc := by
  rw [keydef_entries, List.mem_filterMap]
  constructor
  · rintro ⟨⟨row, col, v⟩, hmem, heq⟩
    obtain ⟨k, hk, hpair⟩ := Option.map_eq_some_iff.1 heq
    injection hpair with hki hkc
    subst hki hkc
    exact ⟨row, col, hk, (ShadowState.mem_layer_entries shadow layer row col v).1 hmem⟩
  · rintro ⟨row, col, hk, hkeymap⟩
    refine ⟨(row, col, kc), (ShadowState.mem_layer_entries shadow layer row col kc).2 hkeymap, ?_⟩
    simp only [hk, Option.map_some]

/-- The pages sent for a layer hold exactly that layer. -/
theorem areaHolds_keydef_pages (shadow : ShadowState) (layer : UInt8) :
    AreaHolds (keydef_pages (encode_keydef_buffer (keydef_entries shadow layer)))
      shadow.keymap layer := by
  intro ki hki
  have hbuf : KEY_DEF_BUF_LEN = 576 := rfl
  have hki8 : (UInt8.ofNat ki).toNat = ki :=
    UInt8.toNat_ofNat_of_lt' (show ki < 256 by omega)
  have hpages : slotAt (bytesOfPages (keydef_pages
      (encode_keydef_buffer (keydef_entries shadow layer)))) ki =
        slotAt (bytesOf (encode_keydef_buffer (keydef_entries shadow layer))) ki := by
    rw [slotAt, slotAt, bytesOfPages_keydef_pages _ (by omega),
      bytesOfPages_keydef_pages _ (by omega), bytesOfPages_keydef_pages _ (by omega)]
  rw [hpages]
  -- An entry for this slot comes from the one position with this key.
  have hentry : ∀ e ∈ keydef_entries shadow layer, e.1.toNat = ki → ∃ row col,
      find_matrix_pos_for_key_index (UInt8.ofNat ki) = some (row, col) ∧
        shadow.keymap[(layer, row, col)]? = some e.2 := by
    rintro ⟨k, kc⟩ he heq
    obtain ⟨row, col, hk, hkeymap⟩ := (mem_keydef_entries shadow layer k kc).1 he
    have hk8 : UInt8.ofNat ki = k := by
      rw [← heq]
      exact UInt8.ofNat_toNat
    rw [hk8]
    exact ⟨row, col, (find_of_key_index hk).1, hkeymap⟩
  have hnone : (∀ e ∈ keydef_entries shadow layer, e.1.toNat ≠ ki) →
      slotAt (bytesOf (encode_keydef_buffer (keydef_entries shadow layer))) ki = none := by
    intro h
    have hmarker : bytesOf (encode_keydef_buffer (keydef_entries shadow layer)) (ki * 4) ≠
        KEY_DEF_ENTRY_MARKER := by
      have hplain := slotAt_entriesBuffer_none _ hki h
      rw [bytesOf_encode _ _ (by omega) (by omega)]
      intro hcon
      rw [slotAt, if_pos hcon] at hplain
      cases hplain
    exact if_neg hmarker
  cases hpos : find_matrix_pos_for_key_index (UInt8.ofNat ki) with
  | none =>
      refine hnone ?_
      intro e he heq
      obtain ⟨row, col, hcon, -⟩ := hentry e he heq
      rw [hpos] at hcon
      cases hcon
  | some pos =>
      have hkey : key_index_for pos.1 pos.2 = some (UInt8.ofNat ki) := key_index_of_find hpos
      rw [Option.bind_some]
      cases hkeymap : shadow.keymap[(layer, pos.1, pos.2)]? with
      | none =>
          refine hnone ?_
          intro e he heq
          obtain ⟨row, col, hpos', hsome⟩ := hentry e he heq
          rw [hpos] at hpos'
          cases hpos'
          rw [hkeymap] at hsome
          cases hsome
      | some kc =>
          rw [slotAt_encode _ (hki8 ▸ (find_of_key_index hkey).2)]
          refine slotAt_entriesBuffer_some _ hki ?_ ?_
          · exact ⟨(UInt8.ofNat ki, kc), (mem_keydef_entries shadow layer _ kc).2
              ⟨pos.1, pos.2, hkey, hkeymap⟩, hki8⟩
          · intro e he heq
            obtain ⟨row, col, hpos', hsome⟩ := hentry e he heq
            rw [hpos] at hpos'
            cases hpos'
            rw [hkeymap] at hsome
            exact (Option.some.inj hsome).symm

end Clackd.Hal.Legacy
