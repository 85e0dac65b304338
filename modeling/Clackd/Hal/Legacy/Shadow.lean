import Clackd.Foundation.Storage
import Clackd.Foundation.Table
import Clackd.Hal.Driver

/-!
# The shadow state of legacy drivers

`ShadowState` keeps the keymap the host has written (`keymap`), the one it last
knew to be on the board (`confirmed`) and the edits in between (`dirty`), and
saves the first of them, with the lighting, to a JSON file.

`serde_json` is a parameter: a text type, a printer, a parser, and the law that
a printed `ShadowFile` parses back.  The file system is `Disk`; `save` swallows
its errors, as the source does.

## Main results

* `load_of_saved`: what `save` writes, `load` reads back.
* `save_spec`: at every point of a save the file holds its old contents or the
  new ones.
* `ShadowState.Tracked`: the relation between the three keymaps and the status
  that every operation keeps.
-/

namespace Clackd.Hal.Legacy

open Clackd.Foundation Clackd.Hal
open Std (ExtTreeMap)

/-- Tracks whether the shadow keymap matches confirmed hardware state. -/
inductive CacheStatus where
  | confirmed
  | pending
  | failed
  deriving DecidableEq, Repr

/-- A keymap, `(layer, row, col) -> keycode`. -/
abbrev Keymap : Type := ExtTreeMap Slot UInt16

/-- A single remapped key in the persisted keymap. -/
structure KeymapEntry where
  layer : UInt8
  row : UInt8
  col : UInt8
  keycode : UInt16
  deriving DecidableEq, Repr

/-- Lighting state persisted alongside the keymap. -/
structure LightingState where
  mode : UInt8 := 0x01
  r : UInt8 := 0xFF
  g : UInt8 := 0xFF
  b : UInt8 := 0xFF
  brightness : UInt8 := 0x0F
  speed : UInt8 := 0x00
  direction : UInt8 := 0x00
  random : Bool := false
  deriving DecidableEq, Repr

/-- On-disk representation of the shadow state. -/
structure ShadowFile where
  version : UInt32
  keymap : List KeymapEntry
  lighting : Option LightingState
  deriving DecidableEq, Repr

/-- `serde_json` for `ShadowFile`. -/
class SerdeJson (Text : Type) where
  to_string_pretty : ShadowFile → Except String Text
  from_str : Text → Except String ShadowFile
  /-- What is printed parses back. -/
  round_trip : ∀ sf, ∃ text, to_string_pretty sf = .ok text ∧ from_str text = .ok sf

/-- Files that hold the document itself. -/
instance : SerdeJson ShadowFile where
  to_string_pretty := .ok
  from_str := .ok
  round_trip := fun sf => ⟨sf, rfl, rfl⟩

/-- The file system the shadow is saved to. -/
abbrev Disk (Text : Type) : Type := Storage IoError String Text

/-- Shadow keymap cache. -/
structure ShadowState where
  keymap : Keymap
  confirmed : Keymap
  dirty : Keymap
  lighting : LightingState
  status : CacheStatus
  data_path : Option String

/-- `resolve_data_path`, given the data directory the platform reports. -/
def resolve_data_path (data_dir : Option String) (device_id : String) : Option String :=
  data_dir.map fun dir => dir ++ "/" ++ device_id ++ ".json"

/-- `path.with_extension("json.tmp")`, for a path that ends in `.json`. -/
def tmp_path (path : String) : String := path ++ ".tmp"

namespace ShadowState

/-- The keymap of a parsed file: later entries for one key win. -/
def keymap_of (entries : List KeymapEntry) : Keymap :=
  ofEntries (entries.map fun e => ((e.layer, e.row, e.col), e.keycode))

section Load

variable {Text : Type} [SerdeJson Text]

/-- What `load` makes of the file's contents: a missing, unreadable or
unparsable file starts empty. -/
def read_shadow (contents : Option Text) : Keymap × LightingState :=
  match contents with
  | some text =>
      match SerdeJson.from_str text with
      | .ok sf => (keymap_of sf.keymap, sf.lighting.getD {})
      | .error _ => (∅, {})
  | none => (∅, {})

/-- Loads the JSON file if it exists. -/
def load (data_path : Option String) (files : String → Option Text) : ShadowState :=
  let loaded : Keymap × LightingState :=
    match data_path with
    | some path => read_shadow (files path)
    | none => (∅, {})
  { keymap := loaded.1
    confirmed := loaded.1
    dirty := ∅
    lighting := loaded.2
    status := .confirmed
    data_path := data_path }

end Load

/-- An in-memory-only shadow. -/
def ephemeral : ShadowState where
  keymap := ∅
  confirmed := ∅
  dirty := ∅
  lighting := {}
  status := .confirmed
  data_path := none

/-- Reads a keycode; `KC_NO` for positions never remapped by the host. -/
def get_keycode (s : ShadowState) (layer row col : UInt8) : UInt16 :=
  s.keymap[(layer, row, col)]?.getD 0

/-- Updates a keycode and marks the position dirty. -/
def set_keycode (s : ShadowState) (layer row col : UInt8) (keycode : UInt16) : ShadowState :=
  { s with
    keymap := s.keymap.insert (layer, row, col) keycode
    dirty := s.dirty.insert (layer, row, col) keycode
    status := .pending }

/-- Whether any positions have been modified since the last commit. -/
def is_dirty (s : ShadowState) : Bool := !s.dirty.isEmpty

/-- The distinct layers that have pending changes. -/
def dirty_layers (s : ShadowState) : List UInt8 :=
  ((s.dirty.keys.map fun k => k.1).insertionSort (· ≤ ·)).dedup

/-- All keymap entries for a given layer. -/
def layer_entries (s : ShadowState) (layer : UInt8) : List (UInt8 × UInt8 × UInt16) :=
  (s.keymap.toList.filter fun e => e.1.1 = layer).map fun e => (e.1.2.1, e.1.2.2, e.2)

/-- Updates the lighting state in the shadow. -/
def set_lighting (s : ShadowState) (lighting : LightingState) : ShadowState :=
  { s with lighting := lighting }

/-- The file a shadow is saved as. -/
def to_file (s : ShadowState) : ShadowFile where
  version := 1
  keymap := s.keymap.toList.map fun e => ⟨e.1.1, e.1.2.1, e.1.2.2, e.2⟩
  lighting := some s.lighting

section Save

variable {Text : Type} [SerdeJson Text]

/-- Writes the shadow to the JSON file atomically.  Errors are logged and
swallowed. -/
def save (s : ShadowState) (disk : Disk Text) : Disk Text :=
  match s.data_path with
  | none => disk
  | some path =>
      match SerdeJson.to_string_pretty s.to_file with
      | .error _ => disk
      | .ok json => (exec (Storage.replace (tmp_path path) path json) disk).2

/-- Persists keymap and lighting immediately. -/
def persist_lighting (s : ShadowState) (disk : Disk Text) : Disk Text := s.save disk

/-- Replaces the entire keymap with hardware-confirmed entries and persists the
result. -/
def adopt_confirmed (s : ShadowState) (keymap : Keymap) (disk : Disk Text) :
    ShadowState × Disk Text :=
  let s := { s with keymap := keymap, confirmed := keymap, dirty := ∅, status := .confirmed }
  (s, s.save disk)

/-- Commit succeeded: the current keymap is the confirmed one. -/
def confirm_commit (s : ShadowState) (disk : Disk Text) : ShadowState × Disk Text :=
  let s := { s with confirmed := s.keymap, dirty := ∅, status := .confirmed }
  (s, s.save disk)

end Save

/-- Phase 1 of commit. -/
def prepare_commit (s : ShadowState) : ShadowState := { s with status := .pending }

/-- Commit failed: back to the last successfully committed keymap. -/
def rollback (s : ShadowState) : ShadowState :=
  { s with keymap := s.confirmed, dirty := ∅, status := .failed }

/-! ## What a save leaves on disk -/

theorem tmp_path_ne (path : String) : tmp_path path ≠ path := by
  intro h
  have hlen := congrArg String.length h
  rw [tmp_path, String.length_append] at hlen
  have htmp : (".tmp" : String).length = 4 := rfl
  omega

theorem keymap_of_toList (m : Keymap) :
    keymap_of (m.toList.map fun e => ⟨e.1.1, e.1.2.1, e.1.2.2, e.2⟩) = m := by
  have hentries : (m.toList.map fun e =>
      (⟨e.1.1, e.1.2.1, e.1.2.2, e.2⟩ : KeymapEntry)).map
        (fun e => ((e.layer, e.row, e.col), e.keycode)) = m.toList := by
    rw [List.map_map]
    exact List.map_id _
  rw [keymap_of, hentries, ofEntries_toList]

section Saved

variable {Text : Type} [SerdeJson Text]

/-- What `save` prints, `load` reads back. -/
theorem read_shadow_to_file (s : ShadowState) :
    ∃ text : Text, SerdeJson.to_string_pretty s.to_file = .ok text ∧
      read_shadow (some text) = (s.keymap, s.lighting) := by
  obtain ⟨text, hprint, hparse⟩ := (SerdeJson.round_trip s.to_file :
    ∃ text : Text, SerdeJson.to_string_pretty s.to_file = .ok text ∧
      SerdeJson.from_str text = .ok s.to_file)
  refine ⟨text, hprint, ?_⟩
  rw [read_shadow, hparse]
  change (keymap_of s.to_file.keymap, s.lighting) = _
  rw [to_file, keymap_of_toList]

/-- At every point of a save the file reads as it did or as the shadow, and
with no fault it ends as the shadow. -/
theorem save_spec (s : ShadowState) {path : String} (hpath : s.data_path = some path)
    (disk : Disk Text) :
    (s.save disk).fault = disk.fault ∧
      (∃ states, (s.save disk).past = disk.past ++ states ∧
        ∀ files ∈ states, read_shadow (files path) = read_shadow (disk.files path) ∨
          read_shadow (files path) = (s.keymap, s.lighting)) ∧
      ((∀ n, disk.fault n = none) →
        read_shadow ((s.save disk).files path) = (s.keymap, s.lighting)) := by
  obtain ⟨text, hprint, hread⟩ : ∃ text : Text,
      SerdeJson.to_string_pretty s.to_file = .ok text ∧
        read_shadow (some text) = (s.keymap, s.lighting) := read_shadow_to_file s
  have hsave : s.save disk = (exec (Storage.replace (tmp_path path) path text) disk).2 := by
    rw [save, hpath]
    simp only [hprint]
  obtain ⟨⟨hfault, -, states, hpast, hstates⟩, hfinal⟩ :=
    Storage.replace_spec (tmp_path_ne path) text disk
  rw [hsave]
  refine ⟨hfault, ⟨states, hpast, ?_⟩, ?_⟩
  · intro files hfiles
    rcases hstates files hfiles with h | h
    · exact .inl (by rw [h])
    · exact .inr (by rw [h, hread])
  · intro hnone
    rw [hfinal hnone, hread]

end Saved

/-! ## The three keymaps -/

/-- How the keymaps of a shadow and its status are related: only dirty
positions may differ from the confirmed keymap, each holds its pending value,
and a confirmed shadow has none. -/
structure Tracked (s : ShadowState) : Prop where
  clean : ∀ k : Slot, s.dirty[k]? = none → s.keymap[k]? = s.confirmed[k]?
  pending : ∀ (k : Slot) (kc : UInt16), s.dirty[k]? = some kc → s.keymap[k]? = some kc
  settled : s.status ≠ .pending → s.dirty.isEmpty = true

/-- A shadow with nothing dirty is its confirmed keymap. -/
theorem Tracked.keymap_eq {s : ShadowState} (h : Tracked s) (hclean : s.dirty.isEmpty = true) :
    s.keymap = s.confirmed := by
  apply ExtTreeMap.ext_getElem?
  intro k
  exact h.clean k ((isEmpty_iff_lookup s.dirty).1 hclean k)

/-- A shadow whose keymap is the confirmed one and that has nothing dirty. -/
theorem Tracked.of_eq {s : ShadowState} (hkeymap : s.keymap = s.confirmed)
    (hdirty : s.dirty = ∅) : Tracked s where
  clean := fun k _ => by rw [hkeymap]
  pending := fun k kc h => by rw [hdirty, ExtTreeMap.getElem?_empty] at h; cases h
  settled := fun _ => by rw [hdirty]; exact ExtTreeMap.isEmpty_empty

theorem tracked_load {Text : Type} [SerdeJson Text] (data_path : Option String)
    (files : String → Option Text) : Tracked (load data_path files) :=
  Tracked.of_eq rfl rfl

theorem tracked_ephemeral : Tracked ephemeral := Tracked.of_eq rfl rfl

theorem Tracked.set_keycode {s : ShadowState} (h : Tracked s) (layer row col : UInt8)
    (keycode : UInt16) : Tracked (s.set_keycode layer row col keycode) where
  clean := by
    intro k hk
    change (s.dirty.insert (layer, row, col) keycode)[k]? = none at hk
    change (s.keymap.insert (layer, row, col) keycode)[k]? = s.confirmed[k]?
    rw [lookup_insert] at hk ⊢
    by_cases heq : (layer, row, col) = k
    · rw [if_pos heq] at hk
      cases hk
    · rw [if_neg heq] at hk ⊢
      exact h.clean k hk
  pending := by
    intro k kc hk
    change (s.dirty.insert (layer, row, col) keycode)[k]? = some kc at hk
    change (s.keymap.insert (layer, row, col) keycode)[k]? = some kc
    rw [lookup_insert] at hk ⊢
    by_cases heq : (layer, row, col) = k
    · rw [if_pos heq] at hk ⊢
      exact hk
    · rw [if_neg heq] at hk ⊢
      exact h.pending k kc hk
  settled := fun hne => absurd rfl hne

theorem Tracked.prepare_commit {s : ShadowState} (h : Tracked s) :
    Tracked s.prepare_commit where
  clean := h.clean
  pending := h.pending
  settled := fun hne => absurd rfl hne

theorem tracked_rollback (s : ShadowState) : Tracked s.rollback := Tracked.of_eq rfl rfl

theorem tracked_confirm_commit {Text : Type} [SerdeJson Text] (s : ShadowState)
    (disk : Disk Text) : Tracked (s.confirm_commit disk).1 :=
  Tracked.of_eq rfl rfl

theorem tracked_adopt_confirmed {Text : Type} [SerdeJson Text] (s : ShadowState)
    (keymap : Keymap) (disk : Disk Text) : Tracked (s.adopt_confirmed keymap disk).1 :=
  Tracked.of_eq rfl rfl

theorem Tracked.set_lighting {s : ShadowState} (h : Tracked s) (lighting : LightingState) :
    Tracked (s.set_lighting lighting) := ⟨h.clean, h.pending, h.settled⟩

/-- The layers of the dirty positions, each once. -/
theorem mem_dirty_layers (s : ShadowState) (layer : UInt8) :
    layer ∈ s.dirty_layers ↔ ∃ (row col : UInt8) (kc : UInt16),
      s.dirty[(layer, row, col)]? = some kc := by
  rw [dirty_layers, List.mem_dedup, List.mem_insertionSort, List.mem_map]
  constructor
  · rintro ⟨k, hk, rfl⟩
    obtain ⟨kc, hkc⟩ := (mem_keys_iff s.dirty k).1 hk
    exact ⟨k.2.1, k.2.2, kc, hkc⟩
  · rintro ⟨row, col, kc, hkc⟩
    exact ⟨(layer, row, col), (mem_keys_iff s.dirty _).2 ⟨kc, hkc⟩, rfl⟩

/-- The entries of a layer are the keymap's, position by position. -/
theorem mem_layer_entries (s : ShadowState) (layer row col : UInt8) (kc : UInt16) :
    (row, col, kc) ∈ s.layer_entries layer ↔ s.keymap[(layer, row, col)]? = some kc := by
  rw [layer_entries, List.mem_map, ← ExtTreeMap.mem_toList_iff_getElem?_eq_some]
  constructor
  · rintro ⟨⟨⟨l, r, c⟩, v⟩, hmem, heq⟩
    obtain ⟨hin, hlayer⟩ := List.mem_filter.1 hmem
    injection heq with hr hc
    injection hc with hc hv
    obtain rfl : l = layer := of_decide_eq_true hlayer
    subst hr hc hv
    exact hin
  · intro hmem
    exact ⟨((layer, row, col), kc), List.mem_filter.2 ⟨hmem, decide_eq_true rfl⟩, rfl⟩

end ShadowState

end Clackd.Hal.Legacy
