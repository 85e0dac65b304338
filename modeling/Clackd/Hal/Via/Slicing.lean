import Clackd.Foundation.Panic
import Clackd.Hal.Via.Echo

/-!
# The slices of the transport

The methods of `ViaTransport` put their requests together byte by byte and cut their
results out of the response.  Here they are with every index and every slice as the
source has it, and an index beyond its frame is a panic.

## Main results

* `behaves_first`, `behaves_next`: bytes that are put into a frame one after the other.
* `behaves_call`: no operation panics, whatever its arguments and whatever the node
  answers, and it does what the method of the transport does.
-/

namespace Clackd.Hal.Via

open Clackd.Foundation Clackd.Hal

namespace Slicing

variable {N : Type} [HidrawNode N]

/-- `[0u8; VIA_FRAME_LEN]`. -/
def zeroed : Frame := Vector.replicate VIA_FRAME_LEN 0

def validate_echo (resp : Frame) (expected : List UInt8) (reason : String) :
    Panicking DriverError (ViaTransport N) Unit := do
  let head ← orPanic (sliceRange resp.toList 0 expected.length)
  if head = expected then pure () else throw (.protocolViolation reason)

def write_frame (deadline : Nat) (frame : Frame) :
    Panicking DriverError (ViaTransport N) (Option Unit) := do
  let buf : Vector UInt8 (VIA_FRAME_LEN + 1) := Vector.replicate (VIA_FRAME_LEN + 1) 0
  let buf ← orPanic (setAt buf 0 VIA_HIDRAW_REPORT_ID)
  let buf ← orPanic (copyFromSlice buf 1 (VIA_FRAME_LEN + 1) frame.toList)
  match ← total (ViaTransport.onNode (HidrawNode.write deadline buf.toList)) with
  | .elapsed => pure none
  | .ready (.ok n) =>
      if n = buf.toList.length then pure (some ())
      else throw (.protocolViolation "short write to hidraw node")
  | .ready (.error e) => throw (classify_io_error e)

def roundtrip (request : Frame) (op : String) :
    Panicking DriverError (ViaTransport N) Frame := do
  let t ← get
  let deadline := HidrawNode.now t.node + t.timeout
  match ← write_frame deadline request with
  | none => throw (.timeout t.device_id op)
  | some () =>
      match ← total (ViaTransport.read_frame deadline) with
      | none => throw (.timeout t.device_id op)
      | some resp => pure resp

def ensure_macro_buffer_size : Panicking DriverError (ViaTransport N) UInt16 := do
  let t ← get
  match t.macro_buffer_size with
  | some size => pure size
  | none => do
      let req ← orPanic (setAt zeroed 0 ID_MACRO_GET_BUFFER_SIZE)
      let resp ← roundtrip req "get_macro_buffer_size"
      validate_echo resp [ID_MACRO_GET_BUFFER_SIZE]
        "command-id echo mismatch on get_macro_buffer_size"
      let hi ← orPanic resp[1]?
      let lo ← orPanic resp[2]?
      let size := u16OfBe hi lo
      modify fun t => { t with macro_buffer_size := some size }
      pure size

def get_macro_count : Panicking DriverError (ViaTransport N) UInt8 := do
  let req ← orPanic (setAt zeroed 0 ID_MACRO_GET_COUNT)
  let resp ← roundtrip req "get_macro_count"
  validate_echo resp [ID_MACRO_GET_COUNT] "command-id echo mismatch on get_macro_count"
  orPanic resp[1]?

def get_protocol_version : Panicking DriverError (ViaTransport N) UInt16 := do
  let req ← orPanic (setAt zeroed 0 ID_GET_PROTOCOL_VERSION)
  let resp ← roundtrip req "get_protocol_version"
  validate_echo resp [ID_GET_PROTOCOL_VERSION]
    "command-id echo mismatch on get_protocol_version"
  let hi ← orPanic resp[1]?
  let lo ← orPanic resp[2]?
  pure (u16OfBe hi lo)

def custom_save (channel : UInt8) : Panicking DriverError (ViaTransport N) Unit := do
  let req ← orPanic (setAt zeroed 0 ID_CUSTOM_SAVE)
  let req ← orPanic (setAt req 1 channel)
  let resp ← roundtrip req "custom_save"
  validate_echo resp [ID_CUSTOM_SAVE, channel] "(cmd, channel) echo mismatch on custom_save"

def get_keycode (layer row col : UInt8) : Panicking DriverError (ViaTransport N) UInt16 := do
  let req ← orPanic (setAt zeroed 0 ID_DYNAMIC_KEYMAP_GET_KEYCODE)
  let req ← orPanic (setAt req 1 layer)
  let req ← orPanic (setAt req 2 row)
  let req ← orPanic (setAt req 3 col)
  let resp ← roundtrip req "get_keycode"
  validate_echo resp [ID_DYNAMIC_KEYMAP_GET_KEYCODE, layer, row, col]
    "(cmd, layer, row, col) echo mismatch on get_keycode"
  let hi ← orPanic resp[4]?
  let lo ← orPanic resp[5]?
  pure (u16OfBe hi lo)

def set_keycode (layer row col : UInt8) (keycode : UInt16) :
    Panicking DriverError (ViaTransport N) Unit := do
  let (kc_hi, kc_lo) := u16ToBe keycode
  let req ← orPanic (setAt zeroed 0 ID_DYNAMIC_KEYMAP_SET_KEYCODE)
  let req ← orPanic (setAt req 1 layer)
  let req ← orPanic (setAt req 2 row)
  let req ← orPanic (setAt req 3 col)
  let req ← orPanic (setAt req 4 kc_hi)
  let req ← orPanic (setAt req 5 kc_lo)
  let resp ← roundtrip req "set_keycode"
  validate_echo resp [ID_DYNAMIC_KEYMAP_SET_KEYCODE, layer, row, col, kc_hi, kc_lo]
    "(cmd, layer, row, col, keycode) echo mismatch on set_keycode"

def get_layer_count : Panicking DriverError (ViaTransport N) UInt8 := do
  let req ← orPanic (setAt zeroed 0 ID_DYNAMIC_KEYMAP_GET_LAYER_COUNT)
  let resp ← roundtrip req "get_layer_count"
  let command ← orPanic resp[0]?
  if command ≠ ID_DYNAMIC_KEYMAP_GET_LAYER_COUNT then
    throw (.protocolViolation "command-id echo mismatch on get_layer_count")
  else
    orPanic resp[1]?

def get_macro_buffer (offset : UInt16) (length : UInt8) :
    Panicking DriverError (ViaTransport N) (List UInt8) := do
  let buffer_size ← ensure_macro_buffer_size
  total (ViaTransport.require (validate_macro_range offset length.toNat buffer_size))
  let req ← orPanic (setAt zeroed 0 ID_MACRO_GET_BUFFER)
  let (off_hi, off_lo) := u16ToBe offset
  let req ← orPanic (setAt req 1 off_hi)
  let req ← orPanic (setAt req 2 off_lo)
  let req ← orPanic (setAt req 3 length)
  let resp ← roundtrip req "get_macro_buffer"
  validate_echo resp [ID_MACRO_GET_BUFFER, off_hi, off_lo, length]
    "(cmd, offset, size) echo mismatch on get_macro_buffer"
  orPanic (sliceRange resp.toList 4 (4 + length.toNat))

def set_macro_buffer (offset : UInt16) (data : List UInt8) :
    Panicking DriverError (ViaTransport N) Unit := do
  let buffer_size ← ensure_macro_buffer_size
  total (ViaTransport.require (validate_macro_range offset data.length buffer_size))
  let req ← orPanic (setAt zeroed 0 ID_MACRO_SET_BUFFER)
  let (off_hi, off_lo) := u16ToBe offset
  let req ← orPanic (setAt req 1 off_hi)
  let req ← orPanic (setAt req 2 off_lo)
  let req ← orPanic (setAt req 3 (UInt8.ofNat data.length))
  let req ← orPanic (copyFromSlice req 4 (4 + data.length) data)
  let resp ← roundtrip req "set_macro_buffer"
  validate_echo resp [ID_MACRO_SET_BUFFER, off_hi, off_lo, UInt8.ofNat data.length]
    "(cmd, offset, size) echo mismatch on set_macro_buffer"

def get_lighting (channel value_id : UInt8) :
    Panicking DriverError (ViaTransport N) (List UInt8) := do
  let req ← orPanic (setAt zeroed 0 ID_LIGHTING_GET_VALUE)
  let req ← orPanic (setAt req 1 channel)
  let req ← orPanic (setAt req 2 value_id)
  let resp ← roundtrip req "get_lighting"
  validate_echo resp [ID_LIGHTING_GET_VALUE, channel, value_id]
    "(cmd, channel, value_id) echo mismatch on get_lighting"
  orPanic (sliceRange resp.toList 3 VIA_FRAME_LEN)

def set_lighting (channel value_id : UInt8) (data : List UInt8) :
    Panicking DriverError (ViaTransport N) Unit := do
  if MAX_LIGHTING_VALUE < data.length then
    throw (.protocolViolation "lighting value exceeds 29-byte frame capacity")
  else do
    let req ← orPanic (setAt zeroed 0 ID_LIGHTING_SET_VALUE)
    let req ← orPanic (setAt req 1 channel)
    let req ← orPanic (setAt req 2 value_id)
    let req ← orPanic (copyFromSlice req 3 (3 + data.length) data)
    let _ ← roundtrip req "set_lighting"
    pure ()

/-- Run an operation, slices included. -/
def call : Operation → Panicking DriverError (ViaTransport N) ViaValue
  | .method .get_protocol_version => .word <$> get_protocol_version
  | .method .get_macro_count => .byte <$> get_macro_count
  | .method (.get_keycode layer row col) => .word <$> get_keycode layer row col
  | .method (.set_keycode layer row col keycode) =>
      (fun _ => .unit) <$> set_keycode layer row col keycode
  | .method .get_layer_count => .byte <$> get_layer_count
  | .method (.custom_save channel) => (fun _ => .unit) <$> custom_save channel
  | .method (.get_macro_buffer offset length) => .bytes <$> get_macro_buffer offset length
  | .method (.set_macro_buffer offset data) =>
      (fun _ => .unit) <$> set_macro_buffer offset data
  | .method (.get_lighting channel value_id) => .bytes <$> get_lighting channel value_id
  | .method (.set_lighting channel value_id data) =>
      (fun _ => .unit) <$> set_lighting channel value_id data
  | .ensure_macro_buffer_size => .word <$> ensure_macro_buffer_size

/-! ## Within the frame -/

section Behaves

omit [HidrawNode N]

variable {α : Type} {bytes : List UInt8} {resp : Frame}
  {y : DriverM (ViaTransport N) α}

/-- The first byte of a request. -/
theorem behaves_first {b : UInt8} {k : Frame → Panicking DriverError (ViaTransport N) α}
    (hk : Behaves (k (frameOf [b])) y) : Behaves (orPanic (setAt zeroed 0 b) >>= k) y := by
  have hzeroed : zeroed = filled VIA_FRAME_LEN 0 [] := filled_nil.symm
  rw [hzeroed]
  exact behaves_orPanic (setAt_filled b rfl (by decide)) hk

/-- The next byte of a request. -/
theorem behaves_next {i : Nat} {b : UInt8} {k : Frame → Panicking DriverError (ViaTransport N) α}
    (hi : i = bytes.length) (hlt : i < VIA_FRAME_LEN)
    (hk : Behaves (k (frameOf (bytes ++ [b]))) y) :
    Behaves (orPanic (setAt (frameOf bytes) i b) >>= k) y :=
  behaves_orPanic (setAt_filled b hi hlt) hk

/-- The data of a request. -/
theorem behaves_data {i : Nat} {data : List UInt8}
    {k : Frame → Panicking DriverError (ViaTransport N) α} (hi : i = bytes.length)
    (hle : i + data.length ≤ VIA_FRAME_LEN) (hk : Behaves (k (frameOf (bytes ++ data))) y) :
    Behaves (orPanic (copyFromSlice (frameOf bytes) i (i + data.length) data) >>= k) y :=
  behaves_orPanic (copyFromSlice_filled hi rfl hle) hk

/-- A byte of a response. -/
theorem index_eq (resp : Frame) {i : Nat} (hi : i < VIA_FRAME_LEN) :
    resp[i]? = some (byteAt resp i) := by
  have hlen : i < resp.toList.length := by simpa using hi
  rw [Vector.getElem?_eq_getElem hi, byteAt, List.getD_eq_getElem _ _ hlen, Vector.getElem_toList]

theorem behaves_index {i : Nat} {k : UInt8 → Panicking DriverError (ViaTransport N) α}
    (hi : i < VIA_FRAME_LEN) (hk : Behaves (k (byteAt resp i)) y) :
    Behaves (orPanic resp[i]? >>= k) y :=
  behaves_orPanic (index_eq resp hi) hk

theorem behaves_echo {expected : List UInt8} (reason : String)
    (hlen : expected.length ≤ VIA_FRAME_LEN) :
    Behaves (validate_echo resp expected reason : Panicking DriverError (ViaTransport N) Unit)
      (ViaTransport.require (Via.validate_echo resp expected reason)) := by
  have hslice : sliceRange resp.toList 0 expected.length =
      some (resp.toList.take expected.length) :=
    sliceRange_eq (Nat.zero_le _) (by simpa using hlen)
  refine behaves_orPanic hslice ?_
  unfold Via.validate_echo
  by_cases h : resp.toList.take expected.length = expected
  · rw [if_pos h, if_pos h]
    exact .pure ()
  · rw [if_neg h, if_neg h]
    exact .throw _

end Behaves

/-- The report ID and the frame after it are written. -/
theorem behaves_write_frame (deadline : Nat) (frame : Frame) :
    Behaves (write_frame deadline frame : Panicking DriverError (ViaTransport N) (Option Unit))
      (ViaTransport.write_frame deadline frame) := by
  have hlen : frame.toList.length = VIA_FRAME_LEN := Vector.length_toList
  have hempty : (Vector.replicate (VIA_FRAME_LEN + 1) 0 : Vector UInt8 _) =
      filled (VIA_FRAME_LEN + 1) 0 [] := filled_nil.symm
  unfold write_frame
  rw [hempty]
  refine behaves_orPanic (setAt_filled _ rfl (by decide)) ?_
  refine behaves_orPanic (copyFromSlice_filled rfl (by rw [hlen]; rfl) (Nat.le_refl _)) ?_
  rw [List.nil_append, List.singleton_append,
    toList_filled (by rw [List.length_cons, hlen])]
  refine Behaves.bind (.total _) fun r => ?_
  rcases r with ⟨e | n⟩ | _
  · exact .throw _
  · dsimp only
    split
    · exact .pure _
    · exact .throw _
  · exact .pure none

theorem behaves_roundtrip (request : Frame) (op : String) :
    Behaves (roundtrip request op : Panicking DriverError (ViaTransport N) Frame)
      (ViaTransport.roundtrip request op) := by
  refine Behaves.bind .get fun t => Behaves.bind (behaves_write_frame _ request) fun r => ?_
  cases r with
  | none => exact .throw _
  | some u =>
      refine Behaves.bind (.total _) fun r => ?_
      cases r with
      | none => exact .throw _
      | some resp => exact .pure resp

/-! ## Operations -/

theorem behaves_ensure_macro_buffer_size :
    Behaves (ensure_macro_buffer_size : Panicking DriverError (ViaTransport N) UInt16)
      ViaTransport.ensure_macro_buffer_size := by
  refine Behaves.bind .get fun t => ?_
  cases t.macro_buffer_size with
  | some size => exact .pure size
  | none =>
      refine behaves_first (Behaves.bind (behaves_roundtrip _ _) fun resp => ?_)
      refine Behaves.bind (behaves_echo _ (by decide)) fun _ => ?_
      refine behaves_index (by decide) (behaves_index (by decide) ?_)
      exact Behaves.bind (.modify _) fun _ => .pure _

theorem behaves_get_macro_count :
    Behaves (get_macro_count : Panicking DriverError (ViaTransport N) UInt8)
      ViaTransport.get_macro_count := by
  refine behaves_first (Behaves.bind (behaves_roundtrip _ _) fun resp => ?_)
  refine Behaves.bind (behaves_echo _ (by decide)) fun _ => ?_
  exact behaves_last (index_eq resp (by decide))

theorem behaves_get_protocol_version :
    Behaves (get_protocol_version : Panicking DriverError (ViaTransport N) UInt16)
      ViaTransport.get_protocol_version := by
  refine behaves_first (Behaves.bind (behaves_roundtrip _ _) fun resp => ?_)
  refine Behaves.bind (behaves_echo _ (by decide)) fun _ => ?_
  exact behaves_index (by decide) (behaves_index (by decide) (.pure _))

theorem behaves_custom_save (channel : UInt8) :
    Behaves (custom_save channel : Panicking DriverError (ViaTransport N) Unit)
      (ViaTransport.custom_save channel) := by
  refine behaves_first (behaves_next rfl (by decide) ?_)
  exact Behaves.bind (behaves_roundtrip _ _) fun resp => behaves_echo _ (Nat.le_of_ble_eq_true rfl)

theorem behaves_get_keycode (layer row col : UInt8) :
    Behaves (get_keycode layer row col : Panicking DriverError (ViaTransport N) UInt16)
      (ViaTransport.get_keycode layer row col) := by
  refine behaves_first (behaves_next rfl (by decide) (behaves_next rfl (by decide)
    (behaves_next rfl (by decide) ?_)))
  refine Behaves.bind (behaves_roundtrip _ _) fun resp => ?_
  refine Behaves.bind (behaves_echo _ (Nat.le_of_ble_eq_true rfl)) fun _ => ?_
  exact behaves_index (by decide) (behaves_index (by decide) (.pure _))

theorem behaves_set_keycode (layer row col : UInt8) (keycode : UInt16) :
    Behaves (set_keycode layer row col keycode : Panicking DriverError (ViaTransport N) Unit)
      (ViaTransport.set_keycode layer row col keycode) := by
  refine behaves_first (behaves_next rfl (by decide) (behaves_next rfl (by decide)
    (behaves_next rfl (by decide) (behaves_next rfl (by decide)
      (behaves_next rfl (by decide) ?_)))))
  exact Behaves.bind (behaves_roundtrip _ _) fun resp => behaves_echo _ (Nat.le_of_ble_eq_true rfl)

theorem behaves_get_layer_count :
    Behaves (get_layer_count : Panicking DriverError (ViaTransport N) UInt8)
      ViaTransport.get_layer_count := by
  refine behaves_first (Behaves.bind (behaves_roundtrip _ _) fun resp => ?_)
  refine behaves_index (by decide) ?_
  split
  · exact .throw _
  · exact behaves_last (index_eq resp (by decide))

/-- The range check leaves room for the data of a macro frame. -/
theorem macro_len_le {offset : UInt16} {len : Nat} {size : UInt16}
    (h : validate_macro_range offset len size = .ok ()) : 4 + len ≤ VIA_FRAME_LEN := by
  unfold validate_macro_range at h
  split at h
  · cases h
  · rename_i hlen
    have hchunk : MAX_MACRO_CHUNK = VIA_FRAME_LEN - 4 := rfl
    have hframe : VIA_FRAME_LEN = 32 := rfl
    omega

/-- What comes after the range check of a macro method. -/
theorem behaves_macro {α : Type} {offset : UInt16} {len : Nat}
    {x : Panicking DriverError (ViaTransport N) α} {y : DriverM (ViaTransport N) α}
    (h : 4 + len ≤ VIA_FRAME_LEN → Behaves x y) :
    Behaves (do
        let size ← ensure_macro_buffer_size
        total (ViaTransport.require (validate_macro_range offset len size))
        x)
      (do
        let size ← ViaTransport.ensure_macro_buffer_size
        ViaTransport.require (validate_macro_range offset len size)
        y) := by
  refine Behaves.bind behaves_ensure_macro_buffer_size fun size => ?_
  cases hcheck : validate_macro_range offset len size with
  | error e => exact fun _ => rfl
  | ok u => exact Behaves.bind (.total _) fun _ => h (macro_len_le hcheck)

theorem behaves_get_macro_buffer (offset : UInt16) (length : UInt8) :
    Behaves (get_macro_buffer offset length : Panicking DriverError (ViaTransport N) _)
      (ViaTransport.get_macro_buffer offset length) := by
  refine behaves_macro fun hlen => ?_
  refine behaves_first (behaves_next rfl (by decide) (behaves_next rfl (by decide)
    (behaves_next rfl (by decide) ?_)))
  refine Behaves.bind (behaves_roundtrip _ _) fun resp => ?_
  refine Behaves.bind (behaves_echo _ (Nat.le_of_ble_eq_true rfl)) fun _ => ?_
  have hslice : sliceRange resp.toList 4 (4 + length.toNat) =
      some ((resp.toList.drop 4).take length.toNat) := by
    rw [sliceRange_eq (Nat.le_add_right _ _) (by simpa using hlen), Nat.add_sub_cancel_left]
  exact behaves_last hslice

theorem behaves_set_macro_buffer (offset : UInt16) (data : List UInt8) :
    Behaves (set_macro_buffer offset data : Panicking DriverError (ViaTransport N) Unit)
      (ViaTransport.set_macro_buffer offset data) := by
  refine behaves_macro fun hlen => ?_
  refine behaves_first (behaves_next rfl (by decide) (behaves_next rfl (by decide)
    (behaves_next rfl (by decide) (behaves_data rfl hlen ?_))))
  exact Behaves.bind (behaves_roundtrip _ _) fun resp => behaves_echo _ (Nat.le_of_ble_eq_true rfl)

theorem behaves_get_lighting (channel value_id : UInt8) :
    Behaves (get_lighting channel value_id : Panicking DriverError (ViaTransport N) _)
      (ViaTransport.get_lighting channel value_id) := by
  refine behaves_first (behaves_next rfl (by decide) (behaves_next rfl (by decide) ?_))
  refine Behaves.bind (behaves_roundtrip _ _) fun resp => ?_
  refine Behaves.bind (behaves_echo _ (Nat.le_of_ble_eq_true rfl)) fun _ => ?_
  have hlen : resp.toList.length = VIA_FRAME_LEN := Vector.length_toList
  have hslice : sliceRange resp.toList 3 VIA_FRAME_LEN = some (resp.toList.drop 3) := by
    rw [sliceRange_eq (by decide) hlen.ge, List.take_of_length_le (by rw [List.length_drop, hlen])]
  exact behaves_last hslice

theorem behaves_set_lighting (channel value_id : UInt8) (data : List UInt8) :
    Behaves (set_lighting channel value_id data : Panicking DriverError (ViaTransport N) Unit)
      (ViaTransport.set_lighting channel value_id data) := by
  unfold set_lighting ViaTransport.set_lighting
  split
  · exact .throw _
  · rename_i hlen
    have hle : 3 + data.length ≤ VIA_FRAME_LEN := by
      have hmax : MAX_LIGHTING_VALUE = VIA_FRAME_LEN - 3 := rfl
      have hframe : VIA_FRAME_LEN = 32 := rfl
      omega
    refine behaves_first (behaves_next rfl (by decide) (behaves_next rfl (by decide)
      (behaves_data rfl hle ?_)))
    exact Behaves.bind (behaves_roundtrip _ _) fun _ => .pure ()

/-- No operation panics, whatever its arguments and whatever the node answers, and it
does what the methods of the transport do. -/
theorem behaves_call (op : Operation) :
    Behaves (call op : Panicking DriverError (ViaTransport N) ViaValue) op.call := by
  cases op with
  | ensure_macro_buffer_size => exact behaves_ensure_macro_buffer_size.map _
  | method m =>
      cases m with
      | get_protocol_version => exact behaves_get_protocol_version.map _
      | get_macro_count => exact behaves_get_macro_count.map _
      | get_keycode layer row col => exact (behaves_get_keycode layer row col).map _
      | set_keycode layer row col keycode =>
          exact (behaves_set_keycode layer row col keycode).map _
      | get_layer_count => exact behaves_get_layer_count.map _
      | custom_save channel => exact (behaves_custom_save channel).map _
      | get_macro_buffer offset length => exact (behaves_get_macro_buffer offset length).map _
      | set_macro_buffer offset data => exact (behaves_set_macro_buffer offset data).map _
      | get_lighting channel value_id => exact (behaves_get_lighting channel value_id).map _
      | set_lighting channel value_id data =>
          exact (behaves_set_lighting channel value_id data).map _

end Slicing

end Clackd.Hal.Via
