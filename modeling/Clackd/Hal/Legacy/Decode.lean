import Clackd.Hal.Legacy.Bracket

/-!
# A push decodes to its layer

The encoder writes entries at byte offsets of one buffer; the reader walks pages
and slots and asks for the key of each.  The two agree on every layer of every
shadow whose positions have keys, and the reader finds nothing else.

## Main results

* `lookup_readSlots`: what the reader makes of a list of slots, key by key.
* `exec_read_keydef_layer`: what a read transaction returns from a board that
  answers with given pages.
* `push_decodes`: each transaction of a commit carries nine pages that decode to
  its layer.
-/

namespace Clackd.Hal.Legacy

open Clackd.Foundation Clackd.Hal
open Std (ExtTreeMap)

/-- One slot of an area, read into a keymap. -/
def readSlot (layer : UInt8) (bytes : Nat → UInt8) (entries : Keymap) (ki : Nat) : Keymap :=
  match slotAt bytes ki, find_matrix_pos_for_key_index (UInt8.ofNat ki) with
  | some keycode, some (row, col) => entries.insert (layer, row, col) keycode
  | _, _ => entries

theorem lookup_readSlot (layer : UInt8) (bytes : Nat → UInt8) (entries : Keymap) (ki : Nat)
    (l row col : UInt8) :
    (readSlot layer bytes entries ki)[((l, row, col) : Slot)]? =
      if layer = l ∧ find_matrix_pos_for_key_index (UInt8.ofNat ki) = some (row, col) then
        (slotAt bytes ki).or entries[((l, row, col) : Slot)]?
      else entries[((l, row, col) : Slot)]? := by
  unfold readSlot
  cases hslot : slotAt bytes ki with
  | none => simp
  | some keycode =>
      cases hpos : find_matrix_pos_for_key_index (UInt8.ofNat ki) with
      | none => simp
      | some pos =>
          obtain ⟨r, c⟩ := pos
          simp only [lookup_insert, Prod.mk.injEq, Option.some.injEq, Option.some_or]

/-- Slots of other keys leave a position alone. -/
theorem lookup_readSlots_of_absent {layer : UInt8} {bytes : Nat → UInt8} {kis : List Nat}
    {l row col : UInt8} (h : ∀ ki ∈ kis, ¬ (layer = l ∧
      find_matrix_pos_for_key_index (UInt8.ofNat ki) = some (row, col))) (entries : Keymap) :
    (kis.foldl (readSlot layer bytes) entries)[((l, row, col) : Slot)]? =
      entries[((l, row, col) : Slot)]? := by
  induction kis generalizing entries with
  | nil => rfl
  | cons ki kis ih =>
      rw [List.foldl_cons, ih fun k hk => h k (List.mem_cons_of_mem ki hk), lookup_readSlot,
        if_neg (h ki List.mem_cons_self)]

/-- A position's slot gives its keycode, if it is marked; otherwise what was there
stays. -/
theorem lookup_readSlots_into {layer : UInt8} {bytes : Nat → UInt8} {kis : List Nat} {ki : Nat}
    {row col : UInt8} (hmem : ki ∈ kis)
    (hkey : ∀ j ∈ kis, find_matrix_pos_for_key_index (UInt8.ofNat j) = some (row, col) ↔ j = ki)
    (entries : Keymap) :
    (kis.foldl (readSlot layer bytes) entries)[((layer, row, col) : Slot)]? =
      (slotAt bytes ki).or entries[((layer, row, col) : Slot)]? := by
  induction kis using List.reverseRecOn with
  | nil => exact absurd hmem List.not_mem_nil
  | append_singleton kis j ih =>
      have hj := hkey j (by simp)
      have hkis := fun i hi => hkey i (List.mem_append_left _ hi)
      rw [List.foldl_append, List.foldl_cons, List.foldl_nil, lookup_readSlot]
      by_cases heq : j = ki
      · subst heq
        rw [if_pos ⟨rfl, hj.2 rfl⟩]
        by_cases hin : j ∈ kis
        · rw [ih hin hkis, ← Option.or_assoc, Option.or_self]
        · rw [lookup_readSlots_of_absent]
          rintro i hi ⟨-, hfind⟩
          exact hin (((hkis i hi).1 hfind) ▸ hi)
      · rw [if_neg fun hcon => heq (hj.1 hcon.2)]
        have hin : ki ∈ kis := by
          simpa [Ne.symm heq] using hmem
        exact ih hin hkis

/-- The same from an empty keymap. -/
theorem lookup_readSlots {layer : UInt8} {bytes : Nat → UInt8} {kis : List Nat} {ki : Nat}
    {row col : UInt8} (hmem : ki ∈ kis)
    (hkey : ∀ j ∈ kis, find_matrix_pos_for_key_index (UInt8.ofNat j) = some (row, col) ↔ j = ki) :
    (kis.foldl (readSlot layer bytes) ∅)[((layer, row, col) : Slot)]? = slotAt bytes ki := by
  rw [lookup_readSlots_into hmem hkey, ExtTreeMap.getElem?_empty, Option.or_none]

/-! ## The reader -/

/-- The slots of one page. -/
def slotsOf (p : Nat) : List Nat := (List.range (FRAME_LEN / 4)).map fun entry => p * (FRAME_LEN / 4) + entry

theorem read_entries_eq {pages : List FeatureFrame} {p : Nat} {page : FeatureFrame}
    (hpage : pages[p]? = some page) (layer : UInt8) (entries : Keymap) :
    read_entries layer p page entries =
      (slotsOf p).foldl (readSlot layer (bytesOfPages pages)) entries := by
  have hframe : FRAME_LEN = 64 := rfl
  rw [read_entries, slotsOf, List.foldl_map]
  apply List.foldl_ext
  intro m entry hentry
  have hlt : entry < FRAME_LEN / 4 := List.mem_range.1 hentry
  have hbyte : ∀ j, j < 4 → bytesOfPages pages ((p * (FRAME_LEN / 4) + entry) * 4 + j) =
      byteAt page (entry * 4 + j) := by
    intro j hj
    have hdiv : ((p * (FRAME_LEN / 4) + entry) * 4 + j) / FRAME_LEN = p := by
      rw [hframe]
      omega
    have hmod : ((p * (FRAME_LEN / 4) + entry) * 4 + j) % FRAME_LEN = entry * 4 + j := by
      rw [hframe]
      omega
    rw [bytesOfPages, hdiv, hmod, hpage]
    rfl
  have hmarker := hbyte 0 (by omega)
  simp only [Nat.add_zero] at hmarker
  unfold readSlot slotAt
  rw [hmarker, hbyte 2 (by omega), hbyte 3 (by omega)]
  by_cases hmark : byteAt page (entry * 4) = KEY_DEF_ENTRY_MARKER
  · simp only [hmark, ne_eq, not_true_eq_false, if_false, if_true]
    cases find_matrix_pos_for_key_index (UInt8.ofNat (p * (FRAME_LEN / 4) + entry)) <;> rfl
  · simp only [hmark, ne_eq, not_false_eq_true, if_true, if_false]

/-- The page loop on a board that answers with given pages. -/
theorem exec_read_pages (layer : UInt8) (page : Nat → FeatureFrame) (n s : Nat) (entries : Keymap)
    (b : Board) (hanswers : ∀ i, i < n → b.answers (b.asked + i) = .ok (page (s + i))) :
    exec (read_pages layer entries (List.range' s n)) b =
      (.ok ((List.range' s n).foldl (fun m p => read_entries layer p (page p) m) entries),
        { b with asked := b.asked + n }) := by
  induction n generalizing s entries b with
  | zero => rfl
  | succ n ih =>
      have hfirst : exec (Gmk67Io.get_feature REPORT_ID : DriverM Board FeatureFrame) b =
          (.ok (page s), { b with asked := b.asked + 1 }) := by
        show (b.answers b.asked, _) = _
        rw [show b.answers b.asked = .ok (page s) from hanswers 0 (by omega)]
      rw [List.range'_succ, read_pages, exec_bind_of_ok hfirst, ih]
      · rw [List.foldl_cons]
        simp only [Nat.add_assoc, Nat.add_comm 1 n]
      · intro i hi
        have hnext := hanswers (i + 1) (by omega)
        rw [show b.asked + (i + 1) = b.asked + 1 + i by omega,
          show s + (i + 1) = s + 1 + i by omega] at hnext
        exact hnext

/-- What the pages of an area read as. -/
def decoded (layer : UInt8) (pages : List FeatureFrame) : Keymap :=
  (List.range KEY_DEF_PAGES).foldl
    (fun m p => read_entries layer p (pages.getD p (frameOf [])) m) ∅

/-- A board that takes the framing of a read transaction and answers the nine page
reads, which come after two paced reads, with given pages. -/
structure Replays (b : Board) (pages : List FeatureFrame) : Prop where
  takes : b.Takes 3
  answers : ∀ p, p < KEY_DEF_PAGES → b.answers (b.asked + 2 + p) = .ok (pages.getD p (frameOf []))

/-- A frame that is taken, and the paced read after it. -/
theorem exec_paced {α : Type} {b : Board} (h : b.refuse b.sent = none) (frame : FeatureFrame)
    (x : DriverM Board α) :
    exec (do Gmk67Io.set_feature frame; read_ack; x) b = exec x { b with
      memory := b.memory.accept frame, sent := b.sent + 1, asked := b.asked + 1 } := by
  rw [exec_bind_of_ok (exec_set_feature_taken h frame), exec_bind_of_ok (exec_read_ack _)]
  rfl

theorem exec_read_keydef_layer {b : Board} {pages : List FeatureFrame} (h : Replays b pages)
    (command layer : UInt8) :
    ∃ b', exec (read_keydef_layer command layer ∅) b = (.ok (decoded layer pages), b') := by
  have htakes : ∀ i, i < 3 → b.refuse (b.sent + i) = none := h.takes
  have hpages : ∀ i, i < KEY_DEF_PAGES →
      b.answers (b.asked + 1 + 1 + i) = .ok (pages.getD (0 + i) (frameOf [])) := by
    intro i hi
    rw [Nat.zero_add]
    exact h.answers i hi
  rw [read_keydef_layer, exec_paced (htakes 0 (by omega)), exec_paced (htakes 1 (by omega)),
    List.range_eq_range', exec_bind_of_ok (exec_read_pages layer
      (fun p => pages.getD p (frameOf [])) KEY_DEF_PAGES 0 ∅ _ hpages),
    exec_paced (htakes 2 (by omega)), exec_pure, decoded, List.range_eq_range']
  exact ⟨_, rfl⟩

/-! ## A layer of the shadow -/

/-- Nine pages read as one list of slots. -/
theorem decoded_eq {pages : List FeatureFrame} (hlen : pages.length = KEY_DEF_PAGES)
    (layer : UInt8) :
    decoded layer pages = (List.range (KEY_DEF_BUF_LEN / 4)).foldl
      (readSlot layer (bytesOfPages pages)) ∅ := by
  have hslots : (List.range KEY_DEF_PAGES).flatMap slotsOf = List.range (KEY_DEF_BUF_LEN / 4) := by
    decide
  rw [← hslots, List.foldl_flatMap, decoded]
  apply List.foldl_ext
  intro m p hp
  have hp : p < pages.length := hlen ▸ List.mem_range.1 hp
  rw [List.getD_eq_getElem _ _ hp]
  exact read_entries_eq (List.getElem?_eq_getElem hp) layer m

/-- The pages sent for a layer. -/
def layer_pages (shadow : ShadowState) (layer : UInt8) : List FeatureFrame :=
  keydef_pages (encode_keydef_buffer (keydef_entries shadow layer))

theorem length_layer_pages (shadow : ShadowState) (layer : UInt8) :
    (layer_pages shadow layer).length = KEY_DEF_PAGES := by
  simp [layer_pages, keydef_pages]

/-- They decode to the layer's entries, if all positions have keys. -/
theorem decoded_layer_pages {shadow : ShadowState}
    (hphysical : Gmk67Driver.AllPhysical shadow.keymap) (layer : UInt8) (k : Slot) :
    (decoded layer (layer_pages shadow layer))[k]? =
      if layer = k.1 then shadow.keymap[k]? else none := by
  obtain ⟨l, row, col⟩ := k
  have hbuf : KEY_DEF_BUF_LEN = 576 := rfl
  have hfour : KEY_DEF_BUF_LEN / 4 = 144 := rfl
  rw [decoded_eq (length_layer_pages shadow layer)]
  -- A slot whose key is at this position has the position's key index.
  have hfind : ∀ j ∈ List.range (KEY_DEF_BUF_LEN / 4), ∀ ki : UInt8,
      find_matrix_pos_for_key_index (UInt8.ofNat j) = some (row, col) →
        key_index_for row col = some ki → j = ki.toNat := by
    intro j hj ki hpos hki
    have hj' := List.mem_range.1 hj
    rw [key_index_of_find hpos] at hki
    injection hki with hki
    rw [← hki, UInt8.toNat_ofNat_of_lt' (show j < 256 by omega)]
  by_cases hlayer : layer = l
  · subst hlayer
    rw [if_pos rfl]
    cases hki : key_index_for row col with
    | none =>
        have hnone : shadow.keymap[((layer, row, col) : Slot)]? = none := by
          cases hkeymap : shadow.keymap[((layer, row, col) : Slot)]? with
          | none => rfl
          | some kc =>
              have hkey := (hphysical _ _ hkeymap).2
              simp [hki] at hkey
        rw [hnone, lookup_readSlots_of_absent]
        · exact ExtTreeMap.getElem?_empty
        · rintro j _ ⟨-, hpos⟩
          rw [key_index_of_find hpos] at hki
          cases hki
    | some ki =>
        obtain ⟨hpos, hlt⟩ := find_of_key_index hki
        have hmem : ki.toNat ∈ List.range (KEY_DEF_BUF_LEN / 4) := List.mem_range.2 (by omega)
        rw [lookup_readSlots hmem]
        · have harea := areaHolds_keydef_pages shadow layer ki.toNat (by omega)
          rw [UInt8.ofNat_toNat, hpos, Option.bind_some] at harea
          exact harea
        · intro j hj
          constructor
          · intro hcon
            exact hfind j hj ki hcon hki
          · rintro rfl
            rw [UInt8.ofNat_toNat]
            exact hpos
  · rw [if_neg hlayer, lookup_readSlots_of_absent]
    · exact ExtTreeMap.getElem?_empty
    · exact fun _ _ hcon => hlayer hcon.1

/-- The check code is at the end of the last page. -/
theorem check_code (shadow : ShadowState) (layer : UInt8) :
    ∃ page, (layer_pages shadow layer)[8]? = some page ∧ byteAt page 62 = 0xAA ∧
      byteAt page 63 = 0x55 := by
  have hframe : FRAME_LEN = 64 := rfl
  have hbuf : KEY_DEF_BUF_LEN = 576 := rfl
  have hlen := length_entriesBuffer (keydef_entries shadow layer)
  refine ⟨pageOf (encode_keydef_buffer (keydef_entries shadow layer)) 8, ?_, ?_, ?_⟩
  · simp [layer_pages, keydef_pages, KEY_DEF_PAGES]
  · rw [byteAt_pageOf _ _ (by omega)]
    show bytesOf (((entriesBuffer _).set (KEY_DEF_BUF_LEN - 2) 0xAA).set
      (KEY_DEF_BUF_LEN - 1) 0x55) _ = _
    rw [bytesOf_set _ _ _ _ (by rw [List.length_set]; omega), if_neg (by omega),
      bytesOf_set _ _ _ _ (by omega), if_pos (by omega)]
  · rw [byteAt_pageOf _ _ (by omega)]
    show bytesOf (((entriesBuffer _).set (KEY_DEF_BUF_LEN - 2) 0xAA).set
      (KEY_DEF_BUF_LEN - 1) 0x55) _ = _
    rw [bytesOf_set _ _ _ _ (by rw [List.length_set]; omega), if_pos (by omega)]

/-! ## What a commit sends -/

/-- A transaction that carries a layer of a shadow: nine pages between the opening
and the end, which read back as exactly the layer's entries, with the check code at
their end. -/
structure CarriesLayer (shadow : ShadowState) (layer : UInt8) (frames : List FeatureFrame) :
    Prop where
  form : ∃ command pages, keydef_command layer = some command ∧
    frames = encode_cmd CMD_TURN_ON_CUSTOMIZATION :: encode_start_keydef_page command ::
      (pages ++ [encode_cmd CMD_COMMUNICATION_END, encode_cmd CMD_LED_EFFECT_START]) ∧
    pages.length = KEY_DEF_PAGES ∧
    (∃ page, pages[8]? = some page ∧ byteAt page 62 = 0xAA ∧ byteAt page 63 = 0x55) ∧
    ∀ read_command, keydef_read_command layer = some read_command →
      ∀ b : Board, Replays b pages → ∃ entries b',
        exec (read_keydef_layer read_command layer ∅) b = (.ok entries, b') ∧
          ∀ k : Slot, entries[k]? = if layer = k.1 then shadow.keymap[k]? else none

theorem carriesLayer {shadow : ShadowState} (hphysical : Gmk67Driver.AllPhysical shadow.keymap)
    {layer command : UInt8} (hcommand : keydef_command layer = some command) :
    CarriesLayer shadow layer (keydef_frames command (keydef_entries shadow layer)) := by
  refine ⟨command, layer_pages shadow layer, hcommand, rfl, length_layer_pages shadow layer,
    check_code shadow layer, ?_⟩
  intro read_command _ b hb
  obtain ⟨b', hexec⟩ := exec_read_keydef_layer hb read_command layer
  exact ⟨_, b', hexec, decoded_layer_pages hphysical layer⟩

namespace Gmk67Driver

variable {I Text : Type} [Gmk67Io I] [SerdeJson Text]

/-- What a commit attempts is the series of transactions of its dirty layers. -/
theorem commit_series (d : Gmk67Driver (Tap I) Text) :
    Series (push_transactions d.shadow d.shadow.dirty_layers) (exec commit_to_nvram d).1
      (attempted d .commit_to_nvram) := by
  cases hdirty : d.shadow.is_dirty with
  | false =>
      have hlayers : d.shadow.dirty_layers = [] := by
        have hempty : d.shadow.dirty.isEmpty = true := by
          simpa [ShadowState.is_dirty] using hdirty
        rw [List.eq_nil_iff_forall_not_mem]
        intro layer hlayer
        obtain ⟨row, col, kc, hkc⟩ := (d.shadow.mem_dirty_layers layer).1 hlayer
        rw [(isEmpty_iff_lookup d.shadow.dirty).1 hempty] at hkc
        cases hkc
      refine .inl ⟨(), by rw [commit_of_clean hdirty], ?_⟩
      simp [attempted, Journal.call, commit_of_clean hdirty, hlayers, push_transactions]
  | true =>
      obtain ⟨ws, hlog, hseries⟩ := appends_push (I := I) d.shadow.prepare_commit
        d.shadow.dirty_layers d.io
      change d.push.2.attempts = _ at hlog
      change Series _ d.push.1 ws at hseries
      have hend : (exec commit_to_nvram d).1 = d.push.1 ∧
          (Journal.call d .commit_to_nvram).io = d.push.2 := by
        rcases hpush : d.push with ⟨e | _, io⟩
        · simp only [Journal.call, commit_of_refused hdirty hpush, and_self]
        · simp only [Journal.call, commit_of_pushed hdirty hpush, and_self]
      have hws : attempted d .commit_to_nvram = ws := by
        rw [attempted, hend.2, hlog, List.drop_left]
      rw [hend.1, hws]
      exact hseries

/-- For every shadow whose positions have keys, every set of dirty layers and every
pattern of failures: a commit attempts a series of transactions, each of which
carries a dirty layer; every dirty layer with an area and entries has one; and a
key that was remapped before is among the entries. -/
theorem push_decodes (d : Gmk67Driver (Tap I) Text) (hphysical : AllPhysical d.shadow.keymap) :
    Series (push_transactions d.shadow d.shadow.dirty_layers) (exec commit_to_nvram d).1
        (attempted d .commit_to_nvram) ∧
      (∀ frames ∈ push_transactions d.shadow d.shadow.dirty_layers,
        ∃ layer ∈ d.shadow.dirty_layers, CarriesLayer d.shadow layer frames) ∧
      (∀ layer ∈ d.shadow.dirty_layers, (keydef_command layer).isSome = true →
        (∃ row col, d.shadow.keymap[((layer, row, col) : Slot)]? ≠ none) →
          ∃ frames ∈ push_transactions d.shadow d.shadow.dirty_layers,
            CarriesLayer d.shadow layer frames) ∧
      (d.shadow.Tracked → ∀ k : Slot, d.shadow.confirmed[k]? ≠ none →
        d.shadow.keymap[k]? ≠ none) := by
  refine ⟨commit_series d, ?_, ?_, ?_⟩
  · intro frames hframes
    obtain ⟨layer, hlayer, hsome⟩ := List.mem_filterMap.1 hframes
    refine ⟨layer, hlayer, ?_⟩
    cases hcommand : keydef_command layer with
    | none => simp [hcommand] at hsome
    | some command =>
        simp only [hcommand] at hsome
        split at hsome
        · cases hsome
        · cases hsome
          exact carriesLayer hphysical hcommand
  · rintro layer hlayer hcommand ⟨row, col, hkeymap⟩
    obtain ⟨command, hcommand⟩ := Option.isSome_iff_exists.1 hcommand
    obtain ⟨kc, hkc⟩ := Option.ne_none_iff_exists'.1 hkeymap
    obtain ⟨ki, hki⟩ := Option.isSome_iff_exists.1 (hphysical _ _ hkc).2
    have hmem := (mem_keydef_entries d.shadow layer ki kc).2 ⟨row, col, hki, hkc⟩
    have hentries : (keydef_entries d.shadow layer).isEmpty = false := by
      rw [List.isEmpty_eq_false_iff]
      exact List.ne_nil_of_mem hmem
    refine ⟨keydef_frames command (keydef_entries d.shadow layer), ?_,
      carriesLayer hphysical hcommand⟩
    exact List.mem_filterMap.2 ⟨layer, hlayer, by simp [hcommand, hentries]⟩
  · intro htracked k hconfirmed
    cases hdirty : d.shadow.dirty[k]? with
    | none =>
        rw [htracked.clean k hdirty]
        exact hconfirmed
    | some kc => simp [htracked.pending k kc hdirty]

/-- A shadow with a confirmed and a pending key on each of the two layers, of which one
confirmed key stands for no action at all. -/
def remapped : ShadowState :=
  let disk : Disk ShadowFile := ⟨fun _ => none, fun _ => none, 0, fun _ => [], []⟩
  let first := (ShadowState.ephemeral.set_keycode 0 0 0 4).set_keycode 1 1 1 0
  ((first.confirm_commit disk).1.set_keycode 0 2 3 5).set_keycode 1 4 0 0x29

/-- A commit of two edits, over two earlier ones, on a recorded factory board. -/
theorem push_decodes_factory :
    let d : Gmk67Driver (Tap Board) ShadowFile := {
      io := ⟨factoryBoard fun _ => none, []⟩
      disk := ⟨fun _ => none, fun _ => none, 0, fun _ => [], []⟩
      matrix := (5, 15)
      layers := 2
      shadow := remapped
      lighting := {}
      sync_on_attach := false
      synced := false }
    Series (push_transactions d.shadow d.shadow.dirty_layers) (exec commit_to_nvram d).1
        (attempted d .commit_to_nvram) ∧
      (∃ frames ∈ push_transactions d.shadow d.shadow.dirty_layers,
        CarriesLayer d.shadow 0 frames) ∧
      (∃ frames ∈ push_transactions d.shadow d.shadow.dirty_layers,
        CarriesLayer d.shadow 1 frames) ∧
      d.shadow.keymap[((1, 1, 1) : Slot)]? ≠ none := by
  intro d
  have hphysical : AllPhysical d.shadow.keymap := by
    have hempty : AllPhysical ShadowState.ephemeral.keymap :=
      fun k kc hk => by simp [ShadowState.ephemeral] at hk
    have hfirst := allPhysical_insert
      (allPhysical_insert hempty (k := (0, 0, 0)) (by decide) 4) (k := (1, 1, 1)) (by decide) 0
    exact allPhysical_insert
      (allPhysical_insert hfirst (k := (0, 2, 3)) (by decide) 5) (k := (1, 4, 0)) (by decide) 0x29
  have htracked : d.shadow.Tracked :=
    ((ShadowState.tracked_confirm_commit _ _).set_keycode 0 2 3 5).set_keycode 1 4 0 0x29
  obtain ⟨hseries, _, hlayers, hkept⟩ := push_decodes d hphysical
  exact ⟨hseries, hlayers 0 (by decide +kernel) (by decide) ⟨0, 0, by decide +kernel⟩,
    hlayers 1 (by decide +kernel) (by decide) ⟨1, 1, by decide +kernel⟩,
    hkept htracked (1, 1, 1) (by decide +kernel)⟩

end Gmk67Driver

end Clackd.Hal.Legacy
