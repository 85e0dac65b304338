import Clackd.Hal.Legacy.Shadow

/-!
# The GMK67-family driver

Lighting is pushed to the board when it is set; the keymap is kept in the
shadow and pushed layer by layer on commit.  Both pushes are transactions of
feature reports: each frame is sent, and all but the last are followed by a
read whose result is ignored.  A transaction that fails is followed by one
abort frame, sent with no regard to whether it arrives.

The board is any `Gmk67Io`.
-/

namespace Clackd.Hal.Legacy

open Clackd.Foundation Clackd.Hal
open Std (ExtTreeMap)

/-- GMK67-family vendor Feature-report payload length. -/
def FRAME_LEN : Nat := 64

/-- Report ID prefix for the Feature report. -/
def REPORT_ID : UInt8 := 0x00

def PACKET_HEADER : UInt8 := 0x04
def CMD_COMMUNICATION_END : UInt8 := 0x02
def CMD_WRITE_LED_SPECIAL_EFFECT_AREA : UInt8 := 0x13
def CMD_TURN_ON_CUSTOMIZATION : UInt8 := 0x18
def CMD_LED_EFFECT_START : UInt8 := 0xF0
/-- Number of effect-page packets that follow `StartEffectPage`. -/
def LED_SPECIAL_EFFECT_PACKETS : UInt8 := 0x01

def MODE_STATIC : UInt8 := 0x01
def MODE_EFFECT_MAX : UInt8 := 0x13
def MODE_LIGHTS_OFF : UInt8 := 0x80

def BRIGHTNESS_MIN : UInt8 := 0x00
def BRIGHTNESS_MAX : UInt8 := 0x0F
def SPEED_MAX : UInt8 := 0x0F

def VIA_CHANNEL_PACKED : UInt8 := 0
def VIA_CHANNEL_RGB_MATRIX : UInt8 := 3
def VIA_VALUE_BRIGHTNESS : UInt8 := 1
def VIA_VALUE_EFFECT : UInt8 := 2
def VIA_VALUE_SPEED : UInt8 := 3
def VIA_VALUE_COLOR : UInt8 := 4

def CMD_WRITE_KEY_DEFINITION_AREA : UInt8 := 0x11
def CMD_WRITE_KEY_DEFINITION_AREA_FN : UInt8 := 0x27
def KEY_DEF_PAGES : Nat := 9
def KEY_DEF_BUF_LEN : Nat := KEY_DEF_PAGES * FRAME_LEN
def KEY_DEF_ENTRY_MARKER : UInt8 := 0x02

/-- Sentinel for a matrix cell with no key. -/
def NA : UInt8 := 0xFF

/-- One feature report. -/
abbrev FeatureFrame : Type := Vector UInt8 FRAME_LEN

/-- The byte of a report at an offset. -/
def byteAt (frame : FeatureFrame) (i : Nat) : UInt8 := frame.toList.getD i 0

/-! ## Scales and colours -/

/-- Scales a VIA 0–255 value onto the GMK67 range, rounding to nearest. -/
def scale_255_to_15 (v : UInt8) : UInt8 := UInt8.ofNat ((v.toNat * 15 + 127) / 255)

/-- Inverse of `scale_255_to_15`. -/
def scale_15_to_255 (v : UInt8) : UInt8 := UInt8.ofNat (min v.toNat 0x0F * 255 / 15)

/-- Integer HSV→RGB at full value.  No intermediate value exceeds 16 bits. -/
def hs_to_rgb (h s : UInt8) : UInt8 × UInt8 × UInt8 :=
  if s = 0 then (255, 255, 255)
  else
    let region := h.toNat / 43
    let remainder := (h.toNat - region * 43) * 6
    let p := UInt8.ofNat (255 * (255 - s.toNat) / 255)
    let q := UInt8.ofNat (255 * (255 - s.toNat * remainder / 255) / 255)
    let t := UInt8.ofNat (255 * (255 - s.toNat * (255 - remainder) / 255) / 255)
    match region with
    | 0 => (255, t, p)
    | 1 => (q, 255, p)
    | 2 => (p, 255, t)
    | 3 => (p, q, 255)
    | 4 => (t, p, 255)
    | _ => (255, p, q)

/-- Integer RGB→(hue, sat).  Signed division truncates. -/
def rgb_to_hs (r g b : UInt8) : UInt8 × UInt8 :=
  let max := max (max r.toNat g.toNat) b.toNat
  let min := min (min r.toNat g.toNat) b.toNat
  let delta := max - min
  if max = 0 ∨ delta = 0 then (0, 0)
  else
    let s := UInt8.ofNat (delta * 255 / max)
    let h : Int :=
      if r.toNat = max then (43 * ((g.toNat : Int) - b.toNat)).tdiv delta
      else if g.toNat = max then 85 + (43 * ((b.toNat : Int) - r.toNat)).tdiv delta
      else 171 + (43 * ((r.toNat : Int) - g.toNat)).tdiv delta
    (UInt8.ofNat (h % 256).toNat, s)

/-- Whether `mode` is a renderable whole-keyboard mode. -/
def is_renderable_mode (mode : UInt8) : Bool :=
  (MODE_STATIC ≤ mode && mode ≤ MODE_EFFECT_MAX) || mode == MODE_LIGHTS_OFF

/-! ## Key positions -/

/-- Physical `(row, col)` → firmware `key_index`. -/
def KEY_INDEX : List (List UInt8) :=
  [[1, 20, 21, 22, 23, 24, 25, 26, 27, 28, 29, 30, 31, 103, NA],
    [37, 38, 39, 40, 41, 42, 43, 44, 45, 46, 47, 48, 49, 67, 119],
    [55, 56, 57, 58, 59, 60, 61, 62, 63, 64, 65, 66, 85, 118, NA],
    [73, 74, 75, 76, 77, 78, 79, 80, 81, 82, 83, 84, 101, 121, NA],
    [91, 92, 93, 94, 95, 96, 99, 100, 102, NA, NA, NA, NA, NA, NA]]

/-- The firmware `key_index` of a matrix position, or `none` for an empty cell
or out of bounds. -/
def key_index_for (row col : UInt8) : Option UInt8 := do
  let cells ← KEY_INDEX[row.toNat]?
  let ki ← cells[col.toNat]?
  if ki ≠ NA then some ki else none

/-- The key-definition-area command of a layer. -/
def keydef_command (layer : UInt8) : Option UInt8 :=
  if layer = 0 then some CMD_WRITE_KEY_DEFINITION_AREA
  else if layer = 1 then some CMD_WRITE_KEY_DEFINITION_AREA_FN
  else none

def keydef_read_command (layer : UInt8) : Option UInt8 :=
  if layer = 0 then some 0x10
  else if layer = 1 then some 0x26
  else none

/-- The first matrix position with a `key_index`. -/
def find_matrix_pos_for_key_index (ki : UInt8) : Option (UInt8 × UInt8) :=
  if ki = NA then none
  else
    KEY_INDEX.zipIdx.findSome? fun row =>
      (row.1.findIdx? fun cell => cell = ki).map fun c =>
        (UInt8.ofNat row.2, UInt8.ofNat c)

/-! ## Frame encoders -/

/-- Whole-keyboard lighting settings carried by the mode frame. -/
structure Lighting where
  mode : UInt8 := MODE_STATIC
  r : UInt8 := 0xFF
  g : UInt8 := 0xFF
  b : UInt8 := 0xFF
  brightness : UInt8 := BRIGHTNESS_MAX
  speed : UInt8 := 0x00
  direction : UInt8 := 0x00
  random : Bool := false
  deriving DecidableEq, Repr

/-- A zeroed frame with some bytes set. -/
def frameOf (bytes : List (Nat × UInt8)) : FeatureFrame :=
  Vector.ofFn fun i => (bytes.lookup i.val).getD 0

/-- Builds the mode frame, the middle of the render transaction. -/
def Lighting.encode (l : Lighting) : FeatureFrame :=
  frameOf [(0, l.mode), (1, l.r), (2, l.g), (3, l.b), (8, if l.random then 1 else 0),
    (9, min (max l.brightness BRIGHTNESS_MIN) BRIGHTNESS_MAX), (10, min l.speed SPEED_MAX),
    (11, l.direction), (14, 0xAA), (15, 0x55)]

/-- Parses a packed payload.  Missing trailing fields fall back to defaults. -/
def Lighting.from_bytes (data : List UInt8) : Lighting :=
  let d : Lighting := {}
  { mode := data[0]?.getD d.mode
    r := data[1]?.getD d.r
    g := data[2]?.getD d.g
    b := data[3]?.getD d.b
    brightness := data[4]?.getD d.brightness
    random := (data[5]?.map fun x => x != 0).getD d.random
    speed := data[6]?.getD d.speed
    direction := data[7]?.getD d.direction }

def Lighting.to_bytes (l : Lighting) : List UInt8 :=
  [l.mode, l.r, l.g, l.b, l.brightness, if l.random then 1 else 0, l.speed, l.direction]

/-- Converts to the persisted form. -/
def Lighting.to_lighting_state (l : Lighting) : LightingState where
  mode := l.mode
  r := l.r
  g := l.g
  b := l.b
  brightness := l.brightness
  speed := l.speed
  direction := l.direction
  random := l.random

/-- Restores from the persisted form. -/
def Lighting.from_lighting_state (s : LightingState) : Lighting where
  mode := s.mode
  r := s.r
  g := s.g
  b := s.b
  brightness := s.brightness
  speed := s.speed
  direction := s.direction
  random := s.random

/-- A framing command frame. -/
def encode_cmd (command : UInt8) : FeatureFrame := frameOf [(0, PACKET_HEADER), (1, command)]

/-- `StartEffectPage`: announces the effect packets that follow. -/
def encode_start_effect_page : FeatureFrame :=
  frameOf [(0, PACKET_HEADER), (1, CMD_WRITE_LED_SPECIAL_EFFECT_AREA),
    (8, LED_SPECIAL_EFFECT_PACKETS)]

/-- `StartKeyDefPage`: announces the key-definition packets that follow. -/
def encode_start_keydef_page (command : UInt8) : FeatureFrame :=
  frameOf [(0, PACKET_HEADER), (1, command), (8, UInt8.ofNat KEY_DEF_PAGES)]

/-- `u16::to_le_bytes`. -/
def u16ToLe (n : UInt16) : UInt8 × UInt8 :=
  (UInt8.ofNat (n.toNat % 256), UInt8.ofNat (n.toNat / 256))

/-- `u16::from_le_bytes`. -/
def u16OfLe (lo hi : UInt8) : UInt16 := UInt16.ofNat (lo.toNat + 256 * hi.toNat)

/-- One entry of the key-definition buffer, at its absolute offset. -/
def write_entry (buf : List UInt8) (entry : UInt8 × UInt16) : List UInt8 :=
  let o := entry.1.toNat * 4
  if o + 3 < KEY_DEF_BUF_LEN then
    ((buf.set o KEY_DEF_ENTRY_MARKER).set (o + 2) (u16ToLe entry.2).1).set (o + 3)
      (u16ToLe entry.2).2
  else
    buf

/-- Builds the key-definition buffer; the last page carries the check code. -/
def encode_keydef_buffer (entries : List (UInt8 × UInt16)) : List UInt8 :=
  ((entries.foldl write_entry (List.replicate KEY_DEF_BUF_LEN 0)).set
    (KEY_DEF_BUF_LEN - 2) 0xAA).set (KEY_DEF_BUF_LEN - 1) 0x55

/-- Page `p` of the buffer. -/
def pageOf (buf : List UInt8) (p : Nat) : FeatureFrame :=
  Vector.ofFn fun i => buf.getD (p * FRAME_LEN + i.val) 0

/-! ## Transactions -/

/-- The hardware surface the driver needs. -/
class Gmk67Io (I : Type) where
  /-- Sends one Feature report. -/
  set_feature (payload : FeatureFrame) : DriverM I Unit
  /-- Reads one Feature report. -/
  get_feature (report_id : UInt8) : DriverM I FeatureFrame

section Transactions

variable {I : Type} [Gmk67Io I]

/-- The paced read between writes; a failed one is ignored. -/
def read_ack : DriverM I Unit := do
  let _ ← attempt (Gmk67Io.get_feature REPORT_ID)
  pure ()

/-- Best-effort transaction abort. -/
def abort_transaction : DriverM I Unit := do
  let _ ← attempt (Gmk67Io.set_feature (encode_cmd CMD_COMMUNICATION_END))
  pure ()

def render_effect_frames (lighting : Lighting) : DriverM I Unit := do
  Gmk67Io.set_feature (encode_cmd CMD_TURN_ON_CUSTOMIZATION)
  read_ack
  Gmk67Io.set_feature encode_start_effect_page
  read_ack
  Gmk67Io.set_feature lighting.encode
  read_ack
  Gmk67Io.set_feature (encode_cmd CMD_COMMUNICATION_END)
  read_ack
  Gmk67Io.set_feature (encode_cmd CMD_LED_EFFECT_START)

/-- Runs a transaction; a failure is followed by a best-effort abort frame. -/
def with_abort (frames : DriverM I Unit) : DriverM I Unit := do
  match ← attempt frames with
  | .ok () => pure ()
  | .error e => do
      abort_transaction
      throw e

/-- Runs the full render transaction. -/
def render_effect (lighting : Lighting) : DriverM I Unit :=
  with_abort (render_effect_frames lighting)

/-- The loop over the pages of the buffer. -/
def write_pages (buf : List UInt8) : List Nat → DriverM I Unit
  | [] => pure ()
  | p :: ps => do
      Gmk67Io.set_feature (pageOf buf p)
      read_ack
      write_pages buf ps

def commit_keymap_frames (command : UInt8) (entries : List (UInt8 × UInt16)) :
    DriverM I Unit := do
  let buf := encode_keydef_buffer entries
  Gmk67Io.set_feature (encode_cmd CMD_TURN_ON_CUSTOMIZATION)
  read_ack
  Gmk67Io.set_feature (encode_start_keydef_page command)
  read_ack
  write_pages buf (List.range KEY_DEF_PAGES)
  Gmk67Io.set_feature (encode_cmd CMD_COMMUNICATION_END)
  read_ack
  Gmk67Io.set_feature (encode_cmd CMD_LED_EFFECT_START)

/-- Sends the key-definition transaction of one layer. -/
def commit_keymap (command : UInt8) (entries : List (UInt8 × UInt16)) : DriverM I Unit :=
  with_abort (commit_keymap_frames command entries)

/-- The entries of a layer, by key index. -/
def keydef_entries (shadow : ShadowState) (layer : UInt8) : List (UInt8 × UInt16) :=
  (shadow.layer_entries layer).filterMap fun e =>
    (key_index_for e.1 e.2.1).map fun ki => (ki, e.2.2)

/-- Pushes the vendor blob for each dirty layer. -/
def push_dirty_layers (shadow : ShadowState) : List UInt8 → DriverM I Unit
  | [] => pure ()
  | layer :: layers => do
      match keydef_command layer with
      | none => push_dirty_layers shadow layers
      | some command => do
          let entries := keydef_entries shadow layer
          if entries.isEmpty then
            push_dirty_layers shadow layers
          else do
            commit_keymap command entries
            push_dirty_layers shadow layers

/-- The marked slots of one page, added to `entries`. -/
def read_entries (layer : UInt8) (p : Nat) (page : FeatureFrame) (entries : Keymap) : Keymap :=
  (List.range (FRAME_LEN / 4)).foldl
    (fun entries entry =>
      let offset := entry * 4
      if byteAt page offset ≠ KEY_DEF_ENTRY_MARKER then entries
      else
        let keycode := u16OfLe (byteAt page (offset + 2)) (byteAt page (offset + 3))
        match find_matrix_pos_for_key_index (UInt8.ofNat (p * (FRAME_LEN / 4) + entry)) with
        | some (row, col) => entries.insert (layer, row, col) keycode
        | none => entries)
    entries

/-- The loop over the pages of a read. -/
def read_pages (layer : UInt8) (entries : Keymap) : List Nat → DriverM I Keymap
  | [] => pure entries
  | p :: ps => do
      let page ← Gmk67Io.get_feature REPORT_ID
      read_pages layer (read_entries layer p page entries) ps

/-- Reads one layer's key-definition area into `entries`. -/
def read_keydef_layer (command layer : UInt8) (entries : Keymap) : DriverM I Keymap := do
  Gmk67Io.set_feature (encode_cmd CMD_TURN_ON_CUSTOMIZATION)
  read_ack
  Gmk67Io.set_feature (encode_start_keydef_page command)
  read_ack
  let entries ← read_pages layer entries (List.range KEY_DEF_PAGES)
  Gmk67Io.set_feature (encode_cmd CMD_COMMUNICATION_END)
  read_ack
  pure entries

/-- The loop of `sync_eeprom` over the layers. -/
def read_layers (entries : Keymap) : List UInt8 → DriverM I Keymap
  | [] => pure entries
  | layer :: layers =>
      match keydef_read_command layer with
      | none => read_layers entries layers
      | some command => do
          match ← attempt (read_keydef_layer command layer entries) with
          | .ok entries => read_layers entries layers
          | .error e => do
              abort_transaction
              throw e

end Transactions

/-! ## The driver -/

/-- GMK67-family driver, with the board and the file system it reaches. -/
structure Gmk67Driver (I Text : Type) where
  io : I
  disk : Disk Text
  matrix : UInt8 × UInt8
  layers : UInt8
  shadow : ShadowState
  lighting : Lighting
  sync_on_attach : Bool
  synced : Bool

namespace Gmk67Driver

variable {I Text : Type} [Gmk67Io I] [SerdeJson Text]

/-- What `new` builds once the node is open: the persisted shadow and its
lighting. -/
def new (io : I) (disk : Disk Text) (data_path : Option String) (matrix : UInt8 × UInt8)
    (layers : UInt8) (sync_on_attach : Bool) : Gmk67Driver I Text :=
  let shadow := ShadowState.load data_path disk.files
  { io := io
    disk := disk
    matrix := matrix
    layers := layers
    shadow := shadow
    lighting := Lighting.from_lighting_state shadow.lighting
    sync_on_attach := sync_on_attach
    synced := false }

/-- Run a board program. -/
def onIo {α : Type} (x : DriverM I α) : DriverM (Gmk67Driver I Text) α :=
  zoom Gmk67Driver.io (fun d io => { d with io := io }) x

/-- Replace the shadow by what an operation that also saves makes of it. -/
def saving (f : ShadowState → Disk Text → ShadowState × Disk Text) :
    DriverM (Gmk67Driver I Text) Unit :=
  modify fun d => { d with shadow := (f d.shadow d.disk).1, disk := (f d.shadow d.disk).2 }

/-- Reads the keymap back from the board and, only if every layer reads
cleanly, adopts it as the confirmed shadow baseline. -/
def sync_eeprom : DriverM (Gmk67Driver I Text) Unit := do
  let d ← get
  let entries ← onIo (read_layers ∅ ((List.range d.layers.toNat).map UInt8.ofNat))
  saving fun shadow disk => shadow.adopt_confirmed entries disk

/-- Runs the opt-in attach-time keymap read-back exactly once per session.  A
failed read keeps the persisted shadow. -/
def maybe_sync_on_attach : DriverM (Gmk67Driver I Text) Unit := do
  let d ← get
  if !d.sync_on_attach || d.synced then
    pure ()
  else do
    modify fun d => { d with synced := true }
    let _ ← attempt sync_eeprom
    pure ()

def get_matrix_dimensions : DriverM (Gmk67Driver I Text) (UInt8 × UInt8) := do
  maybe_sync_on_attach
  let d ← get
  pure d.matrix

def get_layer_count : DriverM (Gmk67Driver I Text) UInt8 := do
  let d ← get
  pure d.layers

def get_keycode (layer row col : UInt8) : DriverM (Gmk67Driver I Text) UInt16 := do
  let d ← get
  pure (d.shadow.get_keycode layer row col)

/-- Validates up front what a commit would silently drop. -/
def set_keycode (layer row col : UInt8) (keycode : UInt16) :
    DriverM (Gmk67Driver I Text) Unit :=
  if (keydef_command layer).isNone then
    throw (.unsupported "keymap layer beyond base/Fn on GMK67")
  else if (key_index_for row col).isNone then
    throw (.unsupported "no physical key at this matrix position on GMK67")
  else
    modify fun d => { d with shadow := d.shadow.set_keycode layer row col keycode }

/-- Patches one VIA RGB-matrix value onto the current lighting. -/
def lighting_with_via_value (lighting : Lighting) (value_id : UInt8) (data : List UInt8) :
    Except DriverError Lighting :=
  let missing := DriverError.protocolViolation "short data for VIA RGB-matrix lighting value"
  if value_id = VIA_VALUE_BRIGHTNESS then
    match data with
    | v :: _ => .ok { lighting with brightness := scale_255_to_15 v }
    | [] => .error missing
  else if value_id = VIA_VALUE_EFFECT then
    match data with
    | effect :: _ => .ok { lighting with mode := if effect = 0 then MODE_LIGHTS_OFF else effect }
    | [] => .error missing
  else if value_id = VIA_VALUE_SPEED then
    match data with
    | v :: _ => .ok { lighting with speed := scale_255_to_15 v }
    | [] => .error missing
  else if value_id = VIA_VALUE_COLOR then
    match data with
    | h :: s :: _ =>
        let (r, g, b) := hs_to_rgb h s
        .ok { lighting with r := r, g := g, b := b, random := false }
    | _ => .error missing
  else
    .error (.unsupported "RGB-matrix value id (GMK67 supports brightness/effect/speed/color)")

/-- The lighting a `set_lighting` call asks for, or its refusal. -/
def requested_lighting (lighting : Lighting) (channel value_id : UInt8) (data : List UInt8) :
    Except DriverError Lighting :=
  let requested : Except DriverError Lighting :=
    if channel = VIA_CHANNEL_PACKED then .ok (Lighting.from_bytes data)
    else if channel = VIA_CHANNEL_RGB_MATRIX then
      lighting_with_via_value lighting value_id data
    else
      .error (.unsupported
        "lighting channel (GMK67 supports packed channel 0 and RGB-matrix channel 3)")
  match requested with
  | .ok lighting =>
      if is_renderable_mode lighting.mode then .ok lighting
      else .error (.protocolViolation
        "EK68 lighting mode out of range (effects 0x01..=0x13, or 0x80 off)")
  | .error e => .error e

/-- Renders the lighting and, once the board took it, persists it. -/
def set_lighting (channel value_id : UInt8) (data : List UInt8) :
    DriverM (Gmk67Driver I Text) Unit := do
  let d ← get
  match requested_lighting d.lighting channel value_id data with
  | .error e => throw e
  | .ok lighting => do
      onIo (render_effect lighting)
      modify fun d => { d with
        lighting := lighting
        shadow := d.shadow.set_lighting lighting.to_lighting_state }
      modify fun d => { d with disk := d.shadow.persist_lighting d.disk }

def get_lighting (channel value_id : UInt8) : DriverM (Gmk67Driver I Text) (List UInt8) := do
  let d ← get
  if channel = VIA_CHANNEL_PACKED then
    pure d.lighting.to_bytes
  else if channel = VIA_CHANNEL_RGB_MATRIX then
    if value_id = VIA_VALUE_BRIGHTNESS then
      pure [scale_15_to_255 d.lighting.brightness]
    else if value_id = VIA_VALUE_EFFECT then
      pure [if d.lighting.mode = MODE_LIGHTS_OFF then 0 else d.lighting.mode]
    else if value_id = VIA_VALUE_SPEED then
      pure [scale_15_to_255 d.lighting.speed]
    else if value_id = VIA_VALUE_COLOR then
      let (h, s) := rgb_to_hs d.lighting.r d.lighting.g d.lighting.b
      pure [h, s]
    else
      throw (.unsupported "RGB-matrix value id (GMK67 supports brightness/effect/speed/color)")
  else
    throw (.unsupported
      "lighting channel (GMK67 supports packed channel 0 and RGB-matrix channel 3)")

/-- Flushes the keymap to the board's key-definition areas.  On success the
shadow is confirmed and persisted, on failure it is rolled back. -/
def commit_to_nvram : DriverM (Gmk67Driver I Text) Unit := do
  let d ← get
  if !d.shadow.is_dirty then
    pure ()
  else do
    modify fun d => { d with shadow := d.shadow.prepare_commit }
    let d ← get
    match ← attempt (onIo (push_dirty_layers d.shadow d.shadow.dirty_layers)) with
    | .ok () => saving fun shadow disk => shadow.confirm_commit disk
    | .error e => do
        modify fun d => { d with shadow := d.shadow.rollback }
        throw e

instance : KeyboardDriver (Gmk67Driver I Text) where
  get_matrix_dimensions _ := get_matrix_dimensions
  get_layer_count _ := get_layer_count
  get_keycode _ := get_keycode
  set_keycode _ := set_keycode
  get_macro_buffer _ _ _ :=
    throw (.unsupported "macro storage on GMK67 (wire format not yet decoded)")
  set_macro_buffer _ _ _ :=
    throw (.unsupported "macro storage on GMK67 (wire format not yet decoded)")
  get_lighting _ := get_lighting
  set_lighting _ := set_lighting
  commit_to_nvram _ := commit_to_nvram
  emits_layout_event_per_set _ := false
  model_name _ := "GMK67/EK68"

/-- The driver spawns nothing. -/
instance : BackgroundTasks (Gmk67Driver I Text) where
  wake _ _ _ _ := none

end Gmk67Driver

end Clackd.Hal.Legacy
