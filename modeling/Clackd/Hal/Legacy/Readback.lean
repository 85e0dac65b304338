import Clackd.Hal.Legacy.Decode

/-!
# The attach-time read

A read of a layer is three framing commands, each with a paced read, and nine page
reads between the second and the third.  `Monitor` keeps what goes over the wire in
both directions, so that what was adopted can be compared with the pages the board
gave, whatever it does.

## Main results

* `lookup_added`: what nine pages add to a keymap, key by key.
* `appends_read_layers_monitored`: a read that succeeds got nine pages for each layer.
* `sync_eeprom_all_or_nothing`: a sync either fails and changes nothing but the
  board, or adopts exactly these pages.
-/

namespace Clackd.Hal.Legacy

open Clackd.Foundation Clackd.Hal
open Std (ExtTreeMap)

/-! ## What pages add to a keymap -/

/-- The keycode of a position in an area: its key's slot, if it is marked. -/
def areaKeycode (pages : List FeatureFrame) (row col : UInt8) : Option UInt16 :=
  (key_index_for row col).bind fun ki => slotAt (bytesOfPages pages) ki.toNat

/-- A keymap with the entries of pages read in order. -/
def added (layer : UInt8) (pages : List FeatureFrame) (entries : Keymap) : Keymap :=
  ((List.range KEY_DEF_PAGES).zip pages).foldl (fun m p => read_entries layer p.1 p.2 m) entries

theorem added_eq {pages : List FeatureFrame} (hlen : pages.length = KEY_DEF_PAGES)
    (layer : UInt8) (entries : Keymap) :
    added layer pages entries = (List.range (KEY_DEF_BUF_LEN / 4)).foldl
      (readSlot layer (bytesOfPages pages)) entries := by
  have hslots : (List.range KEY_DEF_PAGES).flatMap slotsOf = List.range (KEY_DEF_BUF_LEN / 4) := by
    decide
  have hzip : (List.range KEY_DEF_PAGES).zip pages =
      (List.range KEY_DEF_PAGES).map fun p => (p, pages.getD p (frameOf [])) := by
    apply List.ext_getElem
    · simp [hlen]
    · intro p hp hp'
      have hp : p < pages.length := by
        simpa [hlen] using hp'
      rw [List.getElem_zip, List.getElem_map, List.getElem_range, List.getD_eq_getElem _ _ hp]
  rw [← hslots, List.foldl_flatMap, added, hzip, List.foldl_map]
  apply List.foldl_ext
  intro m p hp
  have hp : p < pages.length := hlen ▸ List.mem_range.1 hp
  rw [List.getD_eq_getElem _ _ hp]
  exact read_entries_eq (List.getElem?_eq_getElem hp) layer m

theorem lookup_added {pages : List FeatureFrame} (hlen : pages.length = KEY_DEF_PAGES)
    (layer : UInt8) (entries : Keymap) (l row col : UInt8) :
    (added layer pages entries)[((l, row, col) : Slot)]? =
      if layer = l then (areaKeycode pages row col).or entries[((l, row, col) : Slot)]?
      else entries[((l, row, col) : Slot)]? := by
  have hbuf : KEY_DEF_BUF_LEN = 576 := rfl
  rw [added_eq hlen]
  by_cases hlayer : layer = l
  · subst hlayer
    rw [if_pos rfl]
    cases hki : key_index_for row col with
    | none =>
        rw [lookup_readSlots_of_absent, areaKeycode, hki, Option.bind_none, Option.none_or]
        rintro j - ⟨-, hfind⟩
        rw [key_index_of_find hfind] at hki
        cases hki
    | some ki =>
        obtain ⟨hfind, hlt⟩ := find_of_key_index hki
        have hmem : ki.toNat ∈ List.range (KEY_DEF_BUF_LEN / 4) := by
          rw [List.mem_range]
          omega
        rw [lookup_readSlots_into hmem, areaKeycode, hki, Option.bind_some]
        intro j hj
        have hj : j < 144 := List.mem_range.1 hj
        constructor
        · intro hfind'
          have heq : UInt8.ofNat j = ki :=
            Option.some.inj ((key_index_of_find hfind').symm.trans hki)
          rw [← heq]
          exact (UInt8.toNat_ofNat_of_lt' (show j < 256 by omega)).symm
        · rintro rfl
          rw [UInt8.ofNat_toNat]
          exact hfind
  · rw [if_neg hlayer, lookup_readSlots_of_absent]
    rintro j - ⟨hcon, -⟩
    exact hlayer hcon

/-! ## What goes over the wire -/

/-- A report that was sent or asked for. -/
inductive Exchange where
  | sent (frame : FeatureFrame) (taken : Bool)
  | got (answer : Except DriverError FeatureFrame)

/-- A board with a record of what goes over the wire. -/
structure Monitor (I : Type) where
  io : I
  log : List Exchange

instance {I : Type} [Gmk67Io I] : Gmk67Io (Monitor I) where
  set_feature frame := primitive fun t =>
    let r := exec (Gmk67Io.set_feature frame) t.io
    (r.1, { io := r.2, log := t.log ++ [.sent frame r.1.isOk] })
  get_feature report_id := primitive fun t =>
    let r := exec (Gmk67Io.get_feature report_id) t.io
    (r.1, { io := r.2, log := t.log ++ [.got r.1] })

/-- What the board gave in the read of a layer. -/
structure LayerRead where
  acks : Except DriverError FeatureFrame × Except DriverError FeatureFrame ×
    Except DriverError FeatureFrame
  pages : List FeatureFrame

/-- A whole read of a layer on the wire: every command taken, every page read. -/
def LayerRead.exchange (read : LayerRead) (command : UInt8) : List Exchange :=
  [.sent (encode_cmd CMD_TURN_ON_CUSTOMIZATION) true, .got read.acks.1,
    .sent (encode_start_keydef_page command) true, .got read.acks.2.1] ++
    (read.pages.map fun page => .got (.ok page)) ++
    [.sent (encode_cmd CMD_COMMUNICATION_END) true, .got read.acks.2.2]

/-- The same for a layer that may have no read command. -/
def exchangeOf (reads : UInt8 → LayerRead) (layer : UInt8) : List Exchange :=
  match keydef_read_command layer with
  | none => []
  | some command => (reads layer).exchange command

section Programs

variable {I : Type} [Gmk67Io I]

theorem appends_get_monitored (report_id : UInt8) :
    Appends Monitor.log (Gmk67Io.get_feature report_id : DriverM (Monitor I) FeatureFrame)
      (fun r ws => ws = [.got r]) := by
  intro t
  exact ⟨_, rfl, rfl⟩

/-- A command, paced, before the rest. -/
theorem appends_paced_monitored {α : Type} {x : DriverM (Monitor I) α}
    {P : Except DriverError α → List Exchange → Prop} (frame : FeatureFrame)
    (hx : Appends Monitor.log x P) :
    Appends Monitor.log (do Gmk67Io.set_feature frame; read_ack; x) fun r ws =>
      (∃ e, r = .error e) ∨ ∃ ack ws', ws = [.sent frame true, .got ack] ++ ws' ∧ P r ws' := by
  intro t
  rw [exec_bind]
  rcases hset : exec (Gmk67Io.set_feature frame) t.io with ⟨e | ⟨⟩, io⟩
  · have hsent : exec (Gmk67Io.set_feature frame : DriverM (Monitor I) Unit) t =
        (.error e, { io := io, log := t.log ++ [.sent frame false] }) := by
      show (_, _) = _
      rw [hset]
      rfl
    rw [hsent]
    exact ⟨_, rfl, .inl ⟨e, rfl⟩⟩
  · have hsent : exec (Gmk67Io.set_feature frame : DriverM (Monitor I) Unit) t =
        (.ok (), { io := io, log := t.log ++ [.sent frame true] }) := by
      show (_, _) = _
      rw [hset]
      rfl
    rw [hsent]
    dsimp only
    rw [exec_bind_of_ok (exec_read_ack _)]
    obtain ⟨ws, hlog, hP⟩ := hx (exec (Gmk67Io.get_feature REPORT_ID : DriverM (Monitor I) _)
      { io := io, log := t.log ++ [.sent frame true] }).2
    refine ⟨[.sent frame true, .got (exec (Gmk67Io.get_feature REPORT_ID) io).1] ++ ws, ?_,
      .inr ⟨_, ws, rfl, hP⟩⟩
    rw [hlog]
    show t.log ++ [Exchange.sent frame true] ++ [.got _] ++ ws = _
    rw [List.append_assoc, List.append_assoc]
    rfl

/-- The end of a read that failed. -/
theorem appends_failed_monitored (α : Type) (e : DriverError) :
    Appends Monitor.log (do abort_transaction; throw e : DriverM (Monitor I) α)
      (fun r _ => r = .error e) := by
  intro t
  exact ⟨[.sent (encode_cmd CMD_COMMUNICATION_END) _], rfl, rfl⟩

/-- The page loop: every page is read, or it fails. -/
theorem appends_read_pages_monitored (layer : UInt8) (entries : Keymap) (ps : List Nat) :
    Appends Monitor.log (read_pages layer entries ps : DriverM (Monitor I) Keymap) fun r ws =>
      (∃ e, r = .error e) ∨ ∃ pages : List FeatureFrame, pages.length = ps.length ∧
        ws = (pages.map fun page => .got (.ok page)) ∧
        r = .ok ((ps.zip pages).foldl (fun m p => read_entries layer p.1 p.2 m) entries) := by
  induction ps generalizing entries with
  | nil =>
      refine (Appends.pure Monitor.log entries).weaken ?_
      rintro r ws ⟨rfl, rfl⟩
      exact .inr ⟨[], rfl, rfl, rfl⟩
  | cons p ps ih =>
      refine ((appends_get_monitored REPORT_ID).bind fun page =>
        ih (read_entries layer p page entries)).weaken ?_
      rintro r ws (⟨e, rfl, -⟩ | ⟨page, ws₁, ws₂, rfl, rfl, hrest⟩)
      · exact .inl ⟨e, rfl⟩
      · rcases hrest with ⟨e, rfl⟩ | ⟨pages, hlen, rfl, rfl⟩
        · exact .inl ⟨e, rfl⟩
        · exact .inr ⟨page :: pages, by simp [hlen], rfl, rfl⟩

/-- A read of one layer that succeeds got nine pages, and adds them. -/
theorem appends_read_layer_monitored (command layer : UInt8) (entries : Keymap) :
    Appends Monitor.log (read_keydef_layer command layer entries : DriverM (Monitor I) Keymap)
      fun r ws => (∃ e, r = .error e) ∨ ∃ read : LayerRead, read.pages.length = KEY_DEF_PAGES ∧
        ws = read.exchange command ∧ r = .ok (added layer read.pages entries) := by
  have hlast := fun entries : Keymap => appends_paced_monitored (I := I)
    (encode_cmd CMD_COMMUNICATION_END) (Appends.pure Monitor.log entries)
  refine (appends_paced_monitored _ (appends_paced_monitored _
    ((appends_read_pages_monitored layer entries (List.range KEY_DEF_PAGES)).bind hlast))).weaken ?_
  rintro r ws (⟨e, rfl⟩ | ⟨a, ws, rfl, ⟨e, rfl⟩ | ⟨b, ws, rfl, hrest⟩⟩)
  · exact .inl ⟨e, rfl⟩
  · exact .inl ⟨e, rfl⟩
  · rcases hrest with ⟨e, rfl, -⟩ | ⟨m, ws₁, ws₂, rfl, hpages, hend⟩
    · exact .inl ⟨e, rfl⟩
    · rcases hpages with ⟨e, hcon⟩ | ⟨pages, hlen, rfl, hm⟩
      · cases hcon
      · rcases hend with ⟨e, rfl⟩ | ⟨c, ws, rfl, rfl, rfl⟩
        · exact .inl ⟨e, rfl⟩
        · refine .inr ⟨⟨(a, b, c), pages⟩, by simpa using hlen, ?_, ?_⟩
          · simp [LayerRead.exchange]
          · rw [Except.ok.inj hm]
            rfl

/-- A read of several layers that succeeds got nine pages for each with a read
command, and adds them. -/
theorem appends_read_layers_monitored (entries : Keymap) (layers : List UInt8)
    (hnodup : layers.Nodup) :
    Appends Monitor.log (read_layers entries layers : DriverM (Monitor I) Keymap) fun r ws =>
      (∃ e, r = .error e) ∨ ∃ (reads : UInt8 → LayerRead) (m : Keymap),
        (∀ l ∈ layers, (keydef_read_command l).isSome = true →
          (reads l).pages.length = KEY_DEF_PAGES) ∧
        ws = layers.flatMap (exchangeOf reads) ∧ r = .ok m ∧
        ∀ l row col, m[((l, row, col) : Slot)]? =
          if l ∈ layers ∧ (keydef_read_command l).isSome = true then
            (areaKeycode (reads l).pages row col).or entries[((l, row, col) : Slot)]?
          else entries[((l, row, col) : Slot)]? := by
  induction layers generalizing entries with
  | nil =>
      refine (Appends.pure Monitor.log entries).weaken ?_
      rintro r ws ⟨rfl, rfl⟩
      exact .inr ⟨fun _ => ⟨(.ok (frameOf []), .ok (frameOf []), .ok (frameOf [])), []⟩, entries,
        nofun, rfl, rfl, fun l row col => by simp⟩
  | cons layer layers ih =>
      obtain ⟨hfresh, hnodup⟩ := List.nodup_cons.1 hnodup
      rw [read_layers]
      cases hcommand : keydef_read_command layer with
      | none =>
          refine (ih entries hnodup).weaken ?_
          rintro r ws (⟨e, rfl⟩ | ⟨reads, m, hlen, rfl, rfl, hm⟩)
          · exact .inl ⟨e, rfl⟩
          · refine .inr ⟨reads, m, ?_, ?_, rfl, ?_⟩
            · intro l hl hsome
              rcases List.mem_cons.1 hl with rfl | hl
              · rw [hcommand] at hsome
                cases hsome
              · exact hlen l hl hsome
            · simp [exchangeOf, hcommand]
            · intro l row col
              rw [hm]
              by_cases hl : l = layer
              · subst hl
                simp [hcommand]
              · simp [hl]
      | some command =>
          intro t
          obtain ⟨ws₁, hlog₁, hread⟩ := appends_read_layer_monitored command layer entries t
          rw [exec_bind, exec_attempt]
          dsimp only
          rcases hread with ⟨e, hr⟩ | ⟨read, hlen, rfl, hr⟩
          · rw [hr]
            obtain ⟨ws₂, hlog₂, hfailed⟩ := appends_failed_monitored Keymap e
              (exec (read_keydef_layer command layer entries) t).2
            exact ⟨ws₁ ++ ws₂, by rw [← List.append_assoc, ← hlog₁]; exact hlog₂, .inl ⟨e, hfailed⟩⟩
          · obtain ⟨ws₂, hlog₂, hrest⟩ := ih (added layer read.pages entries) hnodup
              (exec (read_keydef_layer command layer entries) t).2
            rw [hr]
            refine ⟨read.exchange command ++ ws₂, by rw [hlog₂, hlog₁, List.append_assoc], ?_⟩
            rcases hrest with ⟨e, hr'⟩ | ⟨reads, m, hlen', rfl, hr', hm⟩
            · exact .inl ⟨e, hr'⟩
            · have hother : ∀ l, l ≠ layer → Function.update reads layer read l = reads l :=
                fun l hl => Function.update_of_ne hl _ _
              refine .inr ⟨Function.update reads layer read, m, ?_, ?_, hr', ?_⟩
              · intro l hl hsome
                by_cases heq : l = layer
                · rw [heq, Function.update_self]
                  exact hlen
                · rw [hother l heq]
                  exact hlen' l ((List.mem_cons.1 hl).resolve_left heq) hsome
              · rw [List.flatMap_cons, exchangeOf, hcommand, Function.update_self]
                congr 1
                apply List.flatMap_congr
                intro l hl
                rw [exchangeOf, exchangeOf, hother l fun heq => hfresh (heq ▸ hl)]
              · intro l row col
                rw [hm, lookup_added hlen]
                by_cases heq : l = layer
                · subst heq
                  simp [hfresh, hcommand]
                · rw [if_neg (Ne.symm heq), hother l heq]
                  simp [heq]

end Programs

/-! ## The sync -/

namespace Gmk67Driver

variable {I Text : Type} [Gmk67Io I] [SerdeJson Text]

/-- What a sync that succeeds leaves: the pages read, as the log has them, are the
keymap and its confirmed copy, key by key. -/
structure Adopts (d d' : Gmk67Driver (Monitor I) Text) (reads : UInt8 → LayerRead) : Prop where
  log : d'.io.log = d.io.log ++
    ((List.range d.layers.toNat).map UInt8.ofNat).flatMap (exchangeOf reads)
  pages : ∀ l, l < d.layers → (keydef_read_command l).isSome = true →
    (reads l).pages.length = KEY_DEF_PAGES
  keymap : ∀ l row col, d'.shadow.keymap[((l, row, col) : Slot)]? =
    if l < d.layers ∧ (keydef_read_command l).isSome = true then
      (key_index_for row col).bind fun ki => slotAt (bytesOfPages (reads l).pages) ki.toNat
    else none
  confirmed : d'.shadow.confirmed = d'.shadow.keymap
  dirty : d'.shadow.dirty = ∅
  status : d'.shadow.status = .confirmed
  shadow_lighting : d'.shadow.lighting = d.shadow.lighting
  lighting : d'.lighting = d.lighting

/-- The layers of the loop, each once. -/
theorem mem_layers (n l : UInt8) : l ∈ (List.range n.toNat).map UInt8.ofNat ↔ l < n := by
  rw [List.mem_map, UInt8.lt_iff_toNat_lt]
  constructor
  · rintro ⟨i, hi, rfl⟩
    have hi : i < n.toNat := List.mem_range.1 hi
    have hn : n.toNat < 256 := n.toNat_lt
    rw [UInt8.toNat_ofNat_of_lt' (show i < 256 by omega)]
    exact hi
  · intro h
    exact ⟨l.toNat, List.mem_range.2 h, UInt8.ofNat_toNat⟩

theorem nodup_layers (n : UInt8) : ((List.range n.toNat).map UInt8.ofNat).Nodup := by
  apply List.Nodup.map_on _ List.nodup_range
  intro i hi j hj h
  have hi : i < n.toNat := List.mem_range.1 hi
  have hj : j < n.toNat := List.mem_range.1 hj
  have hn : n.toNat < 256 := n.toNat_lt
  have hnat := congrArg UInt8.toNat h
  rw [UInt8.toNat_ofNat_of_lt' (show i < 256 by omega),
    UInt8.toNat_ofNat_of_lt' (show j < 256 by omega)] at hnat
  exact hnat

/-- From every shadow, on every board: the sync fails and nothing but the board has
moved, or it succeeds and has adopted exactly what it read. -/
theorem sync_eeprom_all_or_nothing (d : Gmk67Driver (Monitor I) Text) :
    (∃ e io, exec sync_eeprom d = (.error e, { d with io := io })) ∨
      ∃ reads d', exec sync_eeprom d = (.ok (), d') ∧ Adopts d d' reads := by
  obtain ⟨ws, hlog, hread⟩ := appends_read_layers_monitored ∅ _ (nodup_layers d.layers) d.io
  rcases hio : exec (read_layers ∅ ((List.range d.layers.toNat).map UInt8.ofNat)) d.io
    with ⟨result, io⟩
  have hzoom : exec (onIo (read_layers ∅ ((List.range d.layers.toNat).map UInt8.ofNat))) d =
      (result, { d with io := io }) := by
    rw [onIo, exec_zoom, hio]
  rw [hio] at hlog hread
  dsimp only at hlog hread
  rcases hread with ⟨e, rfl⟩ | ⟨reads, m, hlen, rfl, rfl, hm⟩
  · left
    refine ⟨e, io, ?_⟩
    rw [sync_eeprom, exec_bind_of_ok (exec_get d), exec_bind_of_error hzoom]
  · right
    refine ⟨reads, { d with
      io := io
      shadow := (d.shadow.adopt_confirmed m d.disk).1
      disk := (d.shadow.adopt_confirmed m d.disk).2 }, ?_, ?_⟩
    · rw [sync_eeprom, exec_bind_of_ok (exec_get d), exec_bind_of_ok hzoom]
      rfl
    · constructor
      · exact hlog
      · intro l hl hsome
        exact hlen l ((mem_layers d.layers l).2 hl) hsome
      · intro l row col
        have hlookup := hm l row col
        simp only [mem_layers, ExtTreeMap.getElem?_empty, Option.or_none] at hlookup
        exact hlookup
      · rfl
      · rfl
      · rfl
      · rfl
      · rfl

end Gmk67Driver

end Clackd.Hal.Legacy
