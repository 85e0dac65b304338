import Clackd.Hal.Failure
import Clackd.Hal.Via.Coalescer

/-!
# The hidraw transport

`ViaTransport` over a hidraw node.  A node is what the transport needs of the
file descriptor: a write and a read that complete at some instant, with the
byte count and the bytes the system call gave, or do not complete before the
deadline of the `timeout` around them.  The node keeps the clock.

Every method is a request frame, one round trip and an echo check of the
response, except that the two macro methods first ask for the size of the macro
buffer, once.  The indices and slices by which the source puts requests together and
takes responses apart are in `Slicing`, with what happens beyond a frame.
-/

namespace Clackd.Hal.Via

open Clackd.Foundation Clackd.Hal

/-- VIA wire-frame length. -/
def VIA_FRAME_LEN : Nat := 32

/-- HID report ID prefix written ahead of every request frame. -/
def VIA_HIDRAW_REPORT_ID : UInt8 := 0x00

def ID_GET_PROTOCOL_VERSION : UInt8 := 0x01
def ID_DYNAMIC_KEYMAP_GET_KEYCODE : UInt8 := 0x04
def ID_DYNAMIC_KEYMAP_SET_KEYCODE : UInt8 := 0x05
def ID_DYNAMIC_KEYMAP_GET_LAYER_COUNT : UInt8 := 0x11
def ID_LIGHTING_SET_VALUE : UInt8 := 0x07
def ID_LIGHTING_GET_VALUE : UInt8 := 0x08
def ID_CUSTOM_SAVE : UInt8 := 0x09
def ID_MACRO_GET_COUNT : UInt8 := 0x0C
def ID_MACRO_GET_BUFFER_SIZE : UInt8 := 0x0D
def ID_MACRO_GET_BUFFER : UInt8 := 0x0E
def ID_MACRO_SET_BUFFER : UInt8 := 0x0F

/-- Max macro bytes per frame. -/
def MAX_MACRO_CHUNK : Nat := VIA_FRAME_LEN - 4

/-- Max lighting value bytes per frame. -/
def MAX_LIGHTING_VALUE : Nat := VIA_FRAME_LEN - 3

/-- Default per-round-trip deadline, in milliseconds. -/
def DEFAULT_TIMEOUT : Nat := 1000

/-- One wire frame. -/
abbrev Frame : Type := Vector UInt8 VIA_FRAME_LEN

/-- A zeroed frame with the given leading bytes. -/
def frameOf (bytes : List UInt8) : Frame :=
  Vector.ofFn fun i => bytes.getD i.val 0

/-- The byte of a frame at an offset. -/
def byteAt (frame : Frame) (i : Nat) : UInt8 := frame.toList.getD i 0

/-- `u16::from_be_bytes`. -/
def u16OfBe (hi lo : UInt8) : UInt16 := (hi.toUInt16 <<< 8) ||| lo.toUInt16

/-- `u16::to_be_bytes`. -/
def u16ToBe (n : UInt16) : UInt8 × UInt8 := ((n >>> 8).toUInt8, n.toUInt8)

/-- A response frame begins with the expected echo bytes. -/
def validate_echo (resp : Frame) (expected : List UInt8) (reason : String) :
    Except DriverError Unit :=
  if resp.toList.take expected.length = expected then .ok ()
  else .error (.protocolViolation reason)

/-- A macro-buffer access fits the frame and the device's buffer. -/
def validate_macro_range (offset : UInt16) (len : Nat) (buffer_size : UInt16) :
    Except DriverError Unit :=
  if MAX_MACRO_CHUNK < len then
    .error (.protocolViolation "macro chunk exceeds 28-byte frame capacity")
  else if buffer_size.toNat < offset.toNat + len then
    .error (.protocolViolation "macro range exceeds device macro buffer size")
  else
    .ok ()

/-- `std::io::ErrorKind`, as far as `classify_io_error` looks at it. -/
inductive ErrorKind where
  | permissionDenied
  | notFound
  | brokenPipe
  | otherKind
  deriving DecidableEq, Repr

/-- `std::io::Error::kind` of an `errno`: `EPERM`, `EACCES`, `ENOENT`,
`EPIPE`. -/
def IoError.kind : IoError → ErrorKind
  | .os errno =>
      if errno = 1 ∨ errno = 13 then .permissionDenied
      else if errno = 2 then .notFound
      else if errno = 32 then .brokenPipe
      else .otherKind
  | .other _ => .otherKind

/-- The typed error for an error of `read` or `write`. -/
def classify_io_error (e : IoError) : DriverError :=
  match IoError.kind e with
  | .permissionDenied => .permissionDenied ""
  | .notFound => .disconnected
  | .brokenPipe => .disconnected
  | .otherKind => .io e

/-- The typed error for an `errno` of `open`. -/
def classify_open_errno (errno : Nat) (path : String) : DriverError :=
  if errno = EACCES ∨ errno = EPERM then .permissionDenied path
  else if errno = ENODEV ∨ errno = ENOENT then .disconnected
  else .io (.os errno)

def io_from_errno (errno : Nat) : IoError := .os errno

/-- How waiting for a system call under a deadline ends. -/
inductive Polled (α : Type) where
  | ready (value : Except IoError α)
  | elapsed

/-- A non-blocking file descriptor on a hidraw node. -/
class HidrawNode (N : Type) where
  /-- The current instant. -/
  now : N → Nat
  /-- Wait until writable and `write`; the number of bytes written. -/
  write (deadline : Nat) (buf : List UInt8) : N → Polled Nat × N
  /-- Wait until readable and `read`; the bytes of one report. -/
  read (deadline : Nat) : N → Polled (List UInt8) × N

/-- Hidraw-level VIA transport. -/
structure ViaTransport (N : Type) where
  node : N
  device_id : String
  timeout : Nat
  macro_buffer_size : Option UInt16

theorem size_of_length {bytes : List UInt8} (h : bytes.length = VIA_FRAME_LEN) :
    bytes.toArray.size = VIA_FRAME_LEN := by
  rw [List.size_toArray, h]

namespace ViaTransport

variable {N : Type} [HidrawNode N]

/-- Use the node. -/
def onNode {α : Type} (f : N → α × N) : DriverM (ViaTransport N) α :=
  primitive fun t => (.ok (f t.node).1, { t with node := (f t.node).2 })

/-- `write_frame`, or `none` if the deadline passes first. -/
def write_frame (deadline : Nat) (frame : Frame) : DriverM (ViaTransport N) (Option Unit) := do
  let buf := VIA_HIDRAW_REPORT_ID :: frame.toList
  match ← onNode (HidrawNode.write deadline buf) with
  | .elapsed => pure none
  | .ready (.ok n) =>
      if n = buf.length then pure (some ())
      else throw (.protocolViolation "short write to hidraw node")
  | .ready (.error e) => throw (classify_io_error e)

/-- `read_frame`, or `none` if the deadline passes first. -/
def read_frame (deadline : Nat) : DriverM (ViaTransport N) (Option Frame) := do
  match ← onNode (HidrawNode.read deadline) with
  | .elapsed => pure none
  | .ready (.ok bytes) =>
      if h : bytes.length = VIA_FRAME_LEN then
        pure (some ⟨bytes.toArray, size_of_length h⟩)
      else throw (.protocolViolation "short read from hidraw node")
  | .ready (.error e) => throw (classify_io_error e)

/-- Issues one request frame and reads one response frame, bounded by the
transport's timeout. -/
def roundtrip (request : Frame) (op : String) : DriverM (ViaTransport N) Frame := do
  let t ← get
  let deadline := HidrawNode.now t.node + t.timeout
  match ← write_frame deadline request with
  | none => throw (.timeout t.device_id op)
  | some () =>
      match ← read_frame deadline with
      | none => throw (.timeout t.device_id op)
      | some resp => pure resp

/-- A check whose error is propagated with `?`. -/
def require (check : Except DriverError Unit) : DriverM (ViaTransport N) Unit :=
  match check with
  | .ok () => pure ()
  | .error e => throw e

/-- Returns the total macro-buffer size, querying the firmware on first use. -/
def ensure_macro_buffer_size : DriverM (ViaTransport N) UInt16 := do
  let t ← get
  match t.macro_buffer_size with
  | some size => pure size
  | none => do
      let resp ← roundtrip (frameOf [ID_MACRO_GET_BUFFER_SIZE]) "get_macro_buffer_size"
      require (validate_echo resp [ID_MACRO_GET_BUFFER_SIZE]
        "command-id echo mismatch on get_macro_buffer_size")
      let size := u16OfBe (byteAt resp 1) (byteAt resp 2)
      modify fun t => { t with macro_buffer_size := some size }
      pure size

/-- Number of macro slots the firmware exposes. -/
def get_macro_count : DriverM (ViaTransport N) UInt8 := do
  let resp ← roundtrip (frameOf [ID_MACRO_GET_COUNT]) "get_macro_count"
  require (validate_echo resp [ID_MACRO_GET_COUNT]
    "command-id echo mismatch on get_macro_count")
  pure (byteAt resp 1)

def get_protocol_version : DriverM (ViaTransport N) UInt16 := do
  let resp ← roundtrip (frameOf [ID_GET_PROTOCOL_VERSION]) "get_protocol_version"
  require (validate_echo resp [ID_GET_PROTOCOL_VERSION]
    "command-id echo mismatch on get_protocol_version")
  pure (u16OfBe (byteAt resp 1) (byteAt resp 2))

def custom_save (channel : UInt8) : DriverM (ViaTransport N) Unit := do
  let resp ← roundtrip (frameOf [ID_CUSTOM_SAVE, channel]) "custom_save"
  require (validate_echo resp [ID_CUSTOM_SAVE, channel]
    "(cmd, channel) echo mismatch on custom_save")

def get_keycode (layer row col : UInt8) : DriverM (ViaTransport N) UInt16 := do
  let resp ← roundtrip (frameOf [ID_DYNAMIC_KEYMAP_GET_KEYCODE, layer, row, col])
    "get_keycode"
  require (validate_echo resp [ID_DYNAMIC_KEYMAP_GET_KEYCODE, layer, row, col]
    "(cmd, layer, row, col) echo mismatch on get_keycode")
  pure (u16OfBe (byteAt resp 4) (byteAt resp 5))

def set_keycode (layer row col : UInt8) (keycode : UInt16) :
    DriverM (ViaTransport N) Unit := do
  let (kc_hi, kc_lo) := u16ToBe keycode
  let resp ← roundtrip
    (frameOf [ID_DYNAMIC_KEYMAP_SET_KEYCODE, layer, row, col, kc_hi, kc_lo]) "set_keycode"
  require (validate_echo resp [ID_DYNAMIC_KEYMAP_SET_KEYCODE, layer, row, col, kc_hi, kc_lo]
    "(cmd, layer, row, col, keycode) echo mismatch on set_keycode")

def get_layer_count : DriverM (ViaTransport N) UInt8 := do
  let resp ← roundtrip (frameOf [ID_DYNAMIC_KEYMAP_GET_LAYER_COUNT]) "get_layer_count"
  if byteAt resp 0 ≠ ID_DYNAMIC_KEYMAP_GET_LAYER_COUNT then
    throw (.protocolViolation "command-id echo mismatch on get_layer_count")
  else
    pure (byteAt resp 1)

def get_macro_buffer (offset : UInt16) (length : UInt8) :
    DriverM (ViaTransport N) (List UInt8) := do
  let buffer_size ← ensure_macro_buffer_size
  require (validate_macro_range offset length.toNat buffer_size)
  let (off_hi, off_lo) := u16ToBe offset
  let resp ← roundtrip (frameOf [ID_MACRO_GET_BUFFER, off_hi, off_lo, length])
    "get_macro_buffer"
  require (validate_echo resp [ID_MACRO_GET_BUFFER, off_hi, off_lo, length]
    "(cmd, offset, size) echo mismatch on get_macro_buffer")
  pure ((resp.toList.drop 4).take length.toNat)

def set_macro_buffer (offset : UInt16) (data : List UInt8) :
    DriverM (ViaTransport N) Unit := do
  let buffer_size ← ensure_macro_buffer_size
  require (validate_macro_range offset data.length buffer_size)
  let (off_hi, off_lo) := u16ToBe offset
  let resp ← roundtrip
    (frameOf ([ID_MACRO_SET_BUFFER, off_hi, off_lo, UInt8.ofNat data.length] ++ data))
    "set_macro_buffer"
  require (validate_echo resp
    [ID_MACRO_SET_BUFFER, off_hi, off_lo, UInt8.ofNat data.length]
    "(cmd, offset, size) echo mismatch on set_macro_buffer")

def get_lighting (channel value_id : UInt8) : DriverM (ViaTransport N) (List UInt8) := do
  let resp ← roundtrip (frameOf [ID_LIGHTING_GET_VALUE, channel, value_id]) "get_lighting"
  require (validate_echo resp [ID_LIGHTING_GET_VALUE, channel, value_id]
    "(cmd, channel, value_id) echo mismatch on get_lighting")
  pure (resp.toList.drop 3)

/-- The response of a set is read and not looked at. -/
def set_lighting (channel value_id : UInt8) (data : List UInt8) :
    DriverM (ViaTransport N) Unit := do
  if MAX_LIGHTING_VALUE < data.length then
    throw (.protocolViolation "lighting value exceeds 29-byte frame capacity")
  else do
    let _ ← roundtrip (frameOf ([ID_LIGHTING_SET_VALUE, channel, value_id] ++ data))
      "set_lighting"
    pure ()

instance : CoalescerTransport (ViaTransport N) where
  get_protocol_version := get_protocol_version
  get_keycode := get_keycode
  set_keycode := set_keycode
  get_layer_count := get_layer_count
  custom_save := custom_save
  get_macro_buffer := get_macro_buffer
  set_macro_buffer := set_macro_buffer
  get_lighting := get_lighting
  set_lighting := set_lighting

end ViaTransport

/-! ## A round trip on a node that takes the request -/

section Roundtrip

variable {N : Type} [HidrawNode N] {t : ViaTransport N} {n n' : N} {request resp : Frame}

/-- The frame a full read gives is the frame that was sent. -/
theorem frame_of_toList (frame : Frame) (h : frame.toList.toArray.size = VIA_FRAME_LEN) :
    (⟨frame.toList.toArray, h⟩ : Frame) = frame := by
  apply Vector.toArray_inj.1
  exact Array.toArray_toList

theorem exec_write_frame {deadline : Nat}
    (hw : HidrawNode.write deadline (VIA_HIDRAW_REPORT_ID :: request.toList) t.node =
      (.ready (.ok (VIA_HIDRAW_REPORT_ID :: request.toList).length), n)) :
    exec (ViaTransport.write_frame deadline request) t =
      (.ok (some ()), { t with node := n }) := by
  unfold ViaTransport.write_frame
  rw [exec_bind, ViaTransport.onNode, exec_primitive, hw]
  simp only [if_pos, exec_pure]

theorem exec_read_frame {deadline : Nat}
    (hr : HidrawNode.read deadline t.node = (.ready (.ok resp.toList), n)) :
    exec (ViaTransport.read_frame deadline) t = (.ok (some resp), { t with node := n }) := by
  unfold ViaTransport.read_frame
  have hlen : resp.toList.length = VIA_FRAME_LEN := Vector.length_toList
  rw [exec_bind, ViaTransport.onNode, exec_primitive, hr]
  simp only [dif_pos hlen, exec_pure]
  rw [frame_of_toList resp]

theorem exec_read_frame_elapsed {deadline : Nat}
    (hr : HidrawNode.read deadline t.node = (.elapsed, n)) :
    exec (ViaTransport.read_frame deadline) t = (.ok none, { t with node := n }) := by
  unfold ViaTransport.read_frame
  rw [exec_bind, ViaTransport.onNode, exec_primitive, hr]
  rfl

/-- A round trip whose read completes returns the frame that was read. -/
theorem exec_roundtrip_of_ready {name : String}
    (hw : HidrawNode.write (HidrawNode.now t.node + t.timeout)
        (VIA_HIDRAW_REPORT_ID :: request.toList) t.node =
      (.ready (.ok (VIA_HIDRAW_REPORT_ID :: request.toList).length), n))
    (hr : HidrawNode.read (HidrawNode.now t.node + t.timeout) n =
      (.ready (.ok resp.toList), n')) :
    exec (ViaTransport.roundtrip request name) t = (.ok resp, { t with node := n' }) := by
  unfold ViaTransport.roundtrip
  rw [exec_bind_of_ok (exec_get t), exec_bind_of_ok (exec_write_frame hw)]
  rw [exec_bind_of_ok (exec_read_frame (t := { t with node := n }) hr)]
  rfl

/-- A round trip whose read does not complete times out. -/
theorem exec_roundtrip_of_elapsed {name : String}
    (hw : HidrawNode.write (HidrawNode.now t.node + t.timeout)
        (VIA_HIDRAW_REPORT_ID :: request.toList) t.node =
      (.ready (.ok (VIA_HIDRAW_REPORT_ID :: request.toList).length), n))
    (hr : HidrawNode.read (HidrawNode.now t.node + t.timeout) n = (.elapsed, n')) :
    exec (ViaTransport.roundtrip request name) t =
      (.error (.timeout t.device_id name), { t with node := n' }) := by
  unfold ViaTransport.roundtrip
  rw [exec_bind_of_ok (exec_get t), exec_bind_of_ok (exec_write_frame hw)]
  rw [exec_bind_of_ok (exec_read_frame_elapsed (t := { t with node := n }) hr)]
  rfl

end Roundtrip

/-! ## The methods as data -/

/-- A method of the transport. -/
inductive ViaOp where
  | get_protocol_version
  | get_macro_count
  | get_keycode (layer row col : UInt8)
  | set_keycode (layer row col : UInt8) (keycode : UInt16)
  | get_layer_count
  | custom_save (channel : UInt8)
  | get_macro_buffer (offset : UInt16) (length : UInt8)
  | set_macro_buffer (offset : UInt16) (data : List UInt8)
  | get_lighting (channel value_id : UInt8)
  | set_lighting (channel value_id : UInt8) (data : List UInt8)
  deriving DecidableEq, Repr

/-- What a method returns. -/
inductive ViaValue where
  | word (value : UInt16)
  | byte (value : UInt8)
  | unit
  | bytes (value : List UInt8)
  deriving DecidableEq, Repr

/-- Call a method. -/
def ViaOp.call {N : Type} [HidrawNode N] : ViaOp → DriverM (ViaTransport N) ViaValue
  | .get_protocol_version => .word <$> ViaTransport.get_protocol_version
  | .get_macro_count => .byte <$> ViaTransport.get_macro_count
  | .get_keycode layer row col => .word <$> ViaTransport.get_keycode layer row col
  | .set_keycode layer row col keycode =>
      (fun _ => .unit) <$> ViaTransport.set_keycode layer row col keycode
  | .get_layer_count => .byte <$> ViaTransport.get_layer_count
  | .custom_save channel => (fun _ => .unit) <$> ViaTransport.custom_save channel
  | .get_macro_buffer offset length =>
      .bytes <$> ViaTransport.get_macro_buffer offset length
  | .set_macro_buffer offset data =>
      (fun _ => .unit) <$> ViaTransport.set_macro_buffer offset data
  | .get_lighting channel value_id => .bytes <$> ViaTransport.get_lighting channel value_id
  | .set_lighting channel value_id data =>
      (fun _ => .unit) <$> ViaTransport.set_lighting channel value_id data

section Methods

variable {N N' : Type} [HidrawNode N] [HidrawNode N']

/-- The methods use the node through round trips only: what round trips have and
sequences keep, every method has. -/
theorem ViaOp.call_built {P : {α : Type} → DriverM (ViaTransport N) α → Prop}
    (hpure : ∀ {α : Type} (a : α), P (pure a : DriverM (ViaTransport N) α))
    (hthrow : ∀ {α : Type} (e : DriverError), P (throw e : DriverM (ViaTransport N) α))
    (hbind : ∀ {α β : Type} {x : DriverM (ViaTransport N) α} {f : α → DriverM (ViaTransport N) β},
      P x → (∀ a, P (f a)) → P (x >>= f))
    (hget : P (get : DriverM (ViaTransport N) (ViaTransport N)))
    (hround : ∀ request name, P (ViaTransport.roundtrip request name))
    (hsize : ∀ size, P (modify fun t => { t with macro_buffer_size := size } :
      DriverM (ViaTransport N) PUnit)) (op : ViaOp) : P op.call := by
  have hrequire : ∀ check, P (ViaTransport.require check : DriverM (ViaTransport N) Unit) := by
    intro check
    cases check with
    | ok _ => exact hpure ()
    | error e => exact hthrow e
  have hensure : P (ViaTransport.ensure_macro_buffer_size :
      DriverM (ViaTransport N) UInt16) := by
    refine hbind hget ?_
    intro t
    cases t.macro_buffer_size with
    | some size => exact hpure size
    | none =>
        refine hbind (hround _ _) ?_
        intro resp
        refine hbind (hrequire _) ?_
        intro _
        exact hbind (hsize _) fun _ => hpure _
  have hmap : ∀ {α β : Type} (f : α → β) (x : DriverM (ViaTransport N) α), P x → P (f <$> x) := by
    intro α β f x hx
    rw [map_eq_pure_bind]
    exact hbind hx fun a => hpure (f a)
  cases op with
  | get_protocol_version =>
      exact hmap _ _ (hbind (hround _ _) fun _ => hbind (hrequire _) fun _ => hpure _)
  | get_macro_count =>
      exact hmap _ _ (hbind (hround _ _) fun _ => hbind (hrequire _) fun _ => hpure _)
  | get_keycode layer row col =>
      exact hmap _ _ (hbind (hround _ _) fun _ => hbind (hrequire _) fun _ => hpure _)
  | set_keycode layer row col keycode =>
      exact hmap _ _ (hbind (hround _ _) fun _ => hrequire _)
  | get_layer_count =>
      refine hmap _ _ (hbind (hround _ _) fun resp => ?_)
      split
      · exact hthrow _
      · exact hpure _
  | custom_save channel =>
      exact hmap _ _ (hbind (hround _ _) fun _ => hrequire _)
  | get_macro_buffer offset length =>
      exact hmap _ _ (hbind hensure fun _ => hbind (hrequire _) fun _ =>
        hbind (hround _ _) fun _ => hbind (hrequire _) fun _ => hpure _)
  | set_macro_buffer offset data =>
      exact hmap _ _ (hbind hensure fun _ => hbind (hrequire _) fun _ =>
        hbind (hround _ _) fun _ => hrequire _)
  | get_lighting channel value_id =>
      exact hmap _ _ (hbind (hround _ _) fun _ => hbind (hrequire _) fun _ => hpure _)
  | set_lighting channel value_id data =>
      refine hmap _ _ ?_
      unfold ViaTransport.set_lighting
      split
      · exact hthrow _
      · exact hbind (hround _ _) fun _ => hpure ()

/-- What every round trip does to the state, every method does. -/
theorem ViaOp.call_keeps {R : ViaTransport N → ViaTransport N → Prop}
    (hrefl : ∀ t, R t t) (htrans : ∀ a b c, R a b → R b c → R a c)
    (hround : ∀ request name, Keeps R (ViaTransport.roundtrip request name))
    (hsize : ∀ t size, R t { t with macro_buffer_size := size }) (op : ViaOp) :
    Keeps R op.call :=
  ViaOp.call_built (P := fun {_} x => Keeps R x) (fun a => Keeps.pure hrefl a)
    (fun e => Keeps.throw hrefl e) (fun hx hf => Keeps.bind htrans hx hf) hrefl hround
    (fun size t => hsize t size) op

/-- Two nodes whose round trips give the same responses give every method the
same result. -/
theorem ViaOp.call_simulates {R : ViaTransport N → ViaTransport N' → Prop}
    (hround : ∀ request name, Simulates R (ViaTransport.roundtrip request name)
      (ViaTransport.roundtrip request name))
    (hsize : ∀ t t', R t t' → t.macro_buffer_size = t'.macro_buffer_size)
    (hput : ∀ t t' size, R t t' →
      R { t with macro_buffer_size := size } { t' with macro_buffer_size := size })
    (op : ViaOp) : Simulates R op.call op.call := by
  have hrequire : ∀ check, Simulates R (ViaTransport.require check)
      (ViaTransport.require check) := by
    intro check
    cases check with
    | ok _ => exact Simulates.pure ()
    | error e => exact Simulates.throw e
  have hensure : Simulates R ViaTransport.ensure_macro_buffer_size
      ViaTransport.ensure_macro_buffer_size := by
    refine Simulates.get_bind ?_
    intro t t' h
    rw [hsize t t' h]
    cases t'.macro_buffer_size with
    | some size => exact Simulates.pure size
    | none =>
        refine Simulates.bind (hround _ _) (fun resp => ?_)
        refine Simulates.bind (hrequire _) (fun _ => ?_)
        refine Simulates.bind (R := R) ?_ (fun _ => Simulates.pure _)
        intro t t' h
        exact ⟨rfl, fun _ _ => hput t t' _ h⟩
  cases op with
  | get_protocol_version =>
      exact Simulates.map _ (Simulates.bind (hround _ _) fun _ =>
        Simulates.bind (hrequire _) fun _ => Simulates.pure _)
  | get_macro_count =>
      exact Simulates.map _ (Simulates.bind (hround _ _) fun _ =>
        Simulates.bind (hrequire _) fun _ => Simulates.pure _)
  | get_keycode layer row col =>
      exact Simulates.map _ (Simulates.bind (hround _ _) fun _ =>
        Simulates.bind (hrequire _) fun _ => Simulates.pure _)
  | set_keycode layer row col keycode =>
      exact Simulates.map _ (Simulates.bind (hround _ _) fun _ => hrequire _)
  | get_layer_count =>
      refine Simulates.map _ (Simulates.bind (hround _ _) fun resp => ?_)
      split
      · exact Simulates.throw _
      · exact Simulates.pure _
  | custom_save channel =>
      exact Simulates.map _ (Simulates.bind (hround _ _) fun _ => hrequire _)
  | get_macro_buffer offset length =>
      exact Simulates.map _ (Simulates.bind hensure fun _ =>
        Simulates.bind (hrequire _) fun _ =>
        Simulates.bind (hround _ _) fun _ =>
        Simulates.bind (hrequire _) fun _ => Simulates.pure _)
  | set_macro_buffer offset data =>
      exact Simulates.map _ (Simulates.bind hensure fun _ =>
        Simulates.bind (hrequire _) fun _ =>
        Simulates.bind (hround _ _) fun _ => hrequire _)
  | get_lighting channel value_id =>
      exact Simulates.map _ (Simulates.bind (hround _ _) fun _ =>
        Simulates.bind (hrequire _) fun _ => Simulates.pure _)
  | set_lighting channel value_id data =>
      refine Simulates.map _ ?_
      unfold ViaTransport.set_lighting
      split
      · exact Simulates.throw _
      · exact Simulates.bind (hround _ _) fun _ => Simulates.pure ()

end Methods

end Clackd.Hal.Via
