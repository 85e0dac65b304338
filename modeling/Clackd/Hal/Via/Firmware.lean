import Clackd.Hal.Via.Bounds

/-!
# A keymap and a byte memory

What the transport makes of a firmware that keeps a keymap and a macro buffer.
`Documented` is any such firmware: it is described by the bytes of the frames it
takes and gives, at the offsets of the documentation, and not by what the
transport does with them.  `Keyboard` is one, with its answers in a queue.

The abstract side is `Contents`, a map from positions to keycodes and an array of
bytes, with the four operations on it.

## Main results

* `carries_step`: on a documented firmware, a call in range gives the result of the
  abstract operation and leaves the abstract contents.
* `transport_refines_storage`: so does every sequence of calls.
-/

namespace Clackd.Hal.Via

open Clackd.Foundation Clackd.Hal

/-! ## The abstract storage -/

/-- A keymap and a macro buffer. -/
structure Contents where
  keymap : Slot → UInt16
  memory : Nat → UInt8
  size : Nat

/-- The contents with a keycode at a position. -/
def Contents.assign (c : Contents) (slot : Slot) (keycode : UInt16) : Contents where
  keymap := Function.update c.keymap slot keycode
  memory := c.memory
  size := c.size

/-- The contents with some bytes from an offset on. -/
def Contents.store (c : Contents) (offset len : Nat) (payload : Nat → UInt8) : Contents where
  keymap := c.keymap
  memory := fun j =>
    if offset ≤ j ∧ j < offset + len then payload (j - offset) else c.memory j
  size := c.size

theorem Contents.store_congr (c : Contents) {offset len : Nat} {f g : Nat → UInt8}
    (h : ∀ i, i < len → f i = g i) : c.store offset len f = c.store offset len g := by
  unfold Contents.store
  congr 1
  funext j
  by_cases hj : offset ≤ j ∧ j < offset + len
  · rw [if_pos hj, if_pos hj]
    exact h _ (by omega)
  · rw [if_neg hj, if_neg hj]

/-- The four calls. -/
inductive StorageCall where
  | get_keycode (layer row col : UInt8)
  | set_keycode (layer row col : UInt8) (keycode : UInt16)
  | get_macro_buffer (offset : UInt16) (length : UInt8)
  | set_macro_buffer (offset : UInt16) (data : List UInt8)
  deriving DecidableEq, Repr

namespace StorageCall

/-- The method of the transport. -/
def op : StorageCall → ViaOp
  | .get_keycode layer row col => .get_keycode layer row col
  | .set_keycode layer row col keycode => .set_keycode layer row col keycode
  | .get_macro_buffer offset length => .get_macro_buffer offset length
  | .set_macro_buffer offset data => .set_macro_buffer offset data

/-- The range checks, for a macro buffer of that size. -/
def InRange (size : Nat) : StorageCall → Prop
  | .get_macro_buffer offset length => length.toNat ≤ 28 ∧ offset.toNat + length.toNat ≤ size
  | .set_macro_buffer offset data => data.length ≤ 28 ∧ offset.toNat + data.length ≤ size
  | _ => True

instance (size : Nat) (call : StorageCall) : Decidable (call.InRange size) := by
  unfold InRange
  cases call <;> infer_instance

/-- Whether a call is about the keymap. -/
def isKeymap : StorageCall → Bool
  | .get_keycode _ _ _ => true
  | .set_keycode _ _ _ _ => true
  | _ => false

/-- What a call does to the contents, and its result. -/
def apply (c : Contents) : StorageCall → ViaValue × Contents
  | .get_keycode layer row col => (.word (c.keymap (layer, row, col)), c)
  | .set_keycode layer row col keycode =>
      (.unit, c.assign (layer, row, col) keycode)
  | .get_macro_buffer offset length =>
      (.bytes ((List.range length.toNat).map fun i => c.memory (offset.toNat + i)), c)
  | .set_macro_buffer offset data =>
      (.unit, c.store offset.toNat data.length fun i => data.getD i 0)

/-- The results of a sequence of calls, and the contents after it. -/
def results (c : Contents) : List StorageCall → List ViaValue × Contents
  | [] => ([], c)
  | call :: calls =>
      ((call.apply c).1 :: (results (call.apply c).2 calls).1, (results (call.apply c).2 calls).2)

/-- A call never moves the end of the macro buffer. -/
theorem apply_size (c : Contents) (call : StorageCall) : (call.apply c).2.size = c.size := by
  cases call <;> rfl

/-- Keymap calls leave the bytes alone, and macro calls the keymap. -/
theorem results_apart (c : Contents) (calls : List StorageCall) :
    ((∀ call ∈ calls, call.isKeymap = true) → (results c calls).2.memory = c.memory) ∧
      ((∀ call ∈ calls, call.isKeymap = false) → (results c calls).2.keymap = c.keymap) := by
  induction calls generalizing c with
  | nil => exact ⟨fun _ => rfl, fun _ => rfl⟩
  | cons call calls ih =>
      obtain ⟨hmemory, hkeymap⟩ := ih (call.apply c).2
      constructor
      · intro hall
        have hrest := hmemory fun other h => hall other (List.mem_cons_of_mem call h)
        have hhead := hall call List.mem_cons_self
        show (results (call.apply c).2 calls).2.memory = c.memory
        rw [hrest]
        cases call with
        | get_keycode layer row col => rfl
        | set_keycode layer row col keycode => rfl
        | get_macro_buffer offset length => cases hhead
        | set_macro_buffer offset data => cases hhead
      · intro hall
        have hrest := hkeymap fun other h => hall other (List.mem_cons_of_mem call h)
        have hhead := hall call List.mem_cons_self
        show (results (call.apply c).2 calls).2.keymap = c.keymap
        rw [hrest]
        cases call with
        | get_keycode layer row col => cases hhead
        | set_keycode layer row col keycode => cases hhead
        | get_macro_buffer offset length => rfl
        | set_macro_buffer offset data => rfl

end StorageCall

/-! ## The documented firmware -/

/-- The first bytes of the response are those of the request. -/
def Repeats (n : Nat) (request resp : Frame) : Prop := ∀ i, i < n → byteAt resp i = byteAt request i

/-- The position a keymap frame is about. -/
def slotOf (request : Frame) : Slot := (byteAt request 1, byteAt request 2, byteAt request 3)

/-- The offset a macro frame is about. -/
def offsetOf (request : Frame) : Nat := beNat (byteAt request 1) (byteAt request 2)

/-- How a firmware with some contents answers a frame, and what it then holds.
Keycodes are big-endian at bytes 4 and 5; macro frames have a big-endian offset, a
size, and the payload from byte 4. -/
structure Response (before : Contents) (request resp : Frame) (after : Contents) : Prop where
  get_keycode : byteAt request 0 = 0x04 → Repeats 4 request resp ∧
    beNat (byteAt resp 4) (byteAt resp 5) = (before.keymap (slotOf request)).toNat ∧
    after = before
  set_keycode : byteAt request 0 = 0x05 → Repeats 6 request resp ∧
    after = before.assign (slotOf request)
      (UInt16.ofNat (beNat (byteAt request 4) (byteAt request 5)))
  get_size : byteAt request 0 = 0x0D → Repeats 1 request resp ∧
    beNat (byteAt resp 1) (byteAt resp 2) = before.size ∧ after = before
  get_macro : byteAt request 0 = 0x0E → (byteAt request 3).toNat ≤ 28 →
    offsetOf request + (byteAt request 3).toNat ≤ before.size → Repeats 4 request resp ∧
    (∀ i, i < (byteAt request 3).toNat →
      byteAt resp (4 + i) = before.memory (offsetOf request + i)) ∧
    after = before
  set_macro : byteAt request 0 = 0x0F → (byteAt request 3).toNat ≤ 28 →
    offsetOf request + (byteAt request 3).toNat ≤ before.size → Repeats 4 request resp ∧
    after = before.store (offsetOf request) (byteAt request 3).toNat fun i => byteAt request (4 + i)

/-- A node with a firmware behind it that answers every frame as documented, no
later than `latency` after it was written. -/
structure Documented (N : Type) [HidrawNode N] where
  contents : N → Contents
  /-- No answer is under way. -/
  Idle : N → Prop
  latency : Nat
  answers : ∀ n deadline request, Idle n → HidrawNode.now n + latency ≤ deadline →
    ∃ n₁ n₂ resp, HidrawNode.write deadline (written request) n =
        (.ready (.ok (written request).length), n₁) ∧
      HidrawNode.read deadline n₁ = (.ready (.ok resp.toList), n₂) ∧ Idle n₂ ∧
      Response (contents n) request resp (contents n₂)

section Refines

variable {N : Type} [HidrawNode N] (F : Documented N)

/-- The transport between two calls, with those contents behind it. -/
structure Carries (t : ViaTransport N) (c : Contents) : Prop where
  idle : F.Idle t.node
  contents : F.contents t.node = c
  in_time : F.latency ≤ t.timeout
  cached : ∀ size, t.macro_buffer_size = some size → size.toNat = c.size

variable {F} {t : ViaTransport N} {c : Contents}

/-- A round trip is answered as documented. -/
theorem exec_roundtrip_documented (h : Carries F t c) (request : Frame) (name : String) :
    ∃ node resp, exec (ViaTransport.roundtrip request name) t = (.ok resp, { t with node := node }) ∧
      F.Idle node ∧ Response c request resp (F.contents node) := by
  have hdeadline : HidrawNode.now t.node + F.latency ≤ HidrawNode.now t.node + t.timeout :=
    Nat.add_le_add_left h.in_time _
  obtain ⟨n₁, n₂, resp, hwrite, hread, hidle, hresponse⟩ :=
    F.answers t.node _ request h.idle hdeadline
  rw [h.contents] at hresponse
  exact ⟨n₂, resp, exec_roundtrip_of_ready hwrite hread, hidle, hresponse⟩

/-- A response that repeats the bytes an echo check expects passes it. -/
theorem validate_repeats (expected rest : List UInt8) {resp : Frame} {reason : String}
    (hlen : expected.length ≤ VIA_FRAME_LEN)
    (h : Repeats expected.length (frameOf (expected ++ rest)) resp) :
    validate_echo resp expected reason = .ok () := by
  have htake : resp.toList.take expected.length = expected := by
    apply List.ext_getElem
    · simp [hlen]
    · intro i hi hi'
      have hbyte := h i hi'
      rw [byteAt_frameOf _ (by omega), byteAt,
        List.getD_eq_getElem _ _ (by rw [Vector.length_toList]; omega),
        List.getD_eq_getElem _ _ (by rw [List.length_append]; omega),
        List.getElem_append_left hi'] at hbyte
      rw [List.getElem_take, hbyte]
  rw [validate_echo, if_pos htake]

/-- The first macro access learns the size, and every one returns it. -/
theorem exec_ensure_documented (h : Carries F t c) :
    ∃ size t', exec ViaTransport.ensure_macro_buffer_size t = (.ok size, t') ∧
      size.toNat = c.size ∧ Carries F t' c := by
  rw [ViaTransport.ensure_macro_buffer_size, exec_bind_of_ok (exec_get t)]
  cases hcached : t.macro_buffer_size with
  | some size => exact ⟨size, t, rfl, h.cached size hcached, h⟩
  | none =>
      obtain ⟨node, resp, hround, hidle, hresponse⟩ := exec_roundtrip_documented h
        (frameOf [ID_MACRO_GET_BUFFER_SIZE]) "get_macro_buffer_size"
      have hfirst : 0 < VIA_FRAME_LEN := by decide
      obtain ⟨hrepeats, hsize, hafter⟩ :=
        hresponse.get_size (byteAt_frameOf [ID_MACRO_GET_BUFFER_SIZE] hfirst)
      have hecho : validate_echo resp [ID_MACRO_GET_BUFFER_SIZE]
          "command-id echo mismatch on get_macro_buffer_size" = .ok () :=
        validate_repeats [ID_MACRO_GET_BUFFER_SIZE] [] (by decide) hrepeats
      have hvalue : (u16OfBe (byteAt resp 1) (byteAt resp 2)).toNat = c.size := by
        rw [toNat_u16OfBe, hsize]
      dsimp only
      rw [exec_bind_of_ok hround, hecho]
      refine ⟨u16OfBe (byteAt resp 1) (byteAt resp 2), _, rfl, hvalue, hidle, hafter, h.in_time, ?_⟩
      rintro size ⟨⟩
      exact hvalue

/-- A part of a transport call that only moves the node to other contents. -/
theorem Carries.moved (h : Carries F t c) {node : N} {c' : Contents} (hidle : F.Idle node)
    (hcontents : F.contents node = c') (hsize : c'.size = c.size) :
    Carries F { t with node := node } c' :=
  ⟨hidle, hcontents, h.in_time, fun size hcached => (h.cached size hcached).trans hsize.symm⟩

/-- The payload of a macro frame begins at byte 4. -/
theorem byteAt_payload (command hi lo size : UInt8) (data : List UInt8) {i : Nat} (hi' : i < 28) :
    byteAt (frameOf ([command, hi, lo, size] ++ data)) (4 + i) = data.getD i 0 := by
  have hframe : VIA_FRAME_LEN = 32 := rfl
  rw [byteAt_frameOf _ (by omega), show 4 + i = i + 1 + 1 + 1 + 1 by omega]
  simp only [List.cons_append, List.nil_append, List.getD_cons_succ]

/-- A round trip and an echo check that both succeed. -/
theorem exec_checked {α : Type} {t' : ViaTransport N} {request resp : Frame}
    {expected : List UInt8} {reason name : String} {k : Frame → DriverM (ViaTransport N) α}
    (hround : exec (ViaTransport.roundtrip request name) t = (.ok resp, t'))
    (hecho : validate_echo resp expected reason = .ok ()) :
    exec (ViaTransport.roundtrip request name >>= fun resp =>
      ViaTransport.require (validate_echo resp expected reason) >>= fun _ => k resp) t =
      exec (k resp) t' := by
  rw [exec_bind_of_ok hround, hecho]
  rfl

/-- A macro method whose range check succeeds. -/
theorem exec_in_range {α : Type} {t' : ViaTransport N} {offset size : UInt16} {len : Nat}
    {k : DriverM (ViaTransport N) α}
    (hensure : exec ViaTransport.ensure_macro_buffer_size t = (.ok size, t'))
    (hcheck : validate_macro_range offset len size = .ok ()) :
    exec (ViaTransport.ensure_macro_buffer_size >>= fun size =>
      ViaTransport.require (validate_macro_range offset len size) >>= fun _ => k) t =
      exec k t' := by
  rw [exec_bind_of_ok hensure, hcheck]
  rfl

theorem carries_get_keycode (h : Carries F t c) (layer row col : UInt8) :
    ∃ t', exec (ViaTransport.get_keycode layer row col) t =
      (.ok (c.keymap (layer, row, col)), t') ∧ Carries F t' c := by
  have hframe : VIA_FRAME_LEN = 32 := rfl
  obtain ⟨node, resp, hround, hidle, hresponse⟩ := exec_roundtrip_documented h
    (frameOf [ID_DYNAMIC_KEYMAP_GET_KEYCODE, layer, row, col]) "get_keycode"
  have hbyte := fun i hi =>
    byteAt_frameOf [ID_DYNAMIC_KEYMAP_GET_KEYCODE, layer, row, col] (i := i) hi
  obtain ⟨hrepeats, hkeycode, hafter⟩ := hresponse.get_keycode (hbyte 0 (by omega))
  have hecho : validate_echo resp [ID_DYNAMIC_KEYMAP_GET_KEYCODE, layer, row, col]
      "(cmd, layer, row, col) echo mismatch on get_keycode" = .ok () :=
    validate_repeats [ID_DYNAMIC_KEYMAP_GET_KEYCODE, layer, row, col] []
      (by simp [hframe]) hrepeats
  have hvalue : u16OfBe (byteAt resp 4) (byteAt resp 5) = c.keymap (layer, row, col) := by
    apply UInt16.toNat_inj.1
    rw [toNat_u16OfBe, hkeycode, slotOf, hbyte 1 (by omega), hbyte 2 (by omega),
      hbyte 3 (by omega)]
    rfl
  refine ⟨{ t with node := node }, ?_, h.moved hidle hafter rfl⟩
  rw [ViaTransport.get_keycode, exec_checked hround hecho, hvalue, exec_pure]

theorem carries_set_keycode (h : Carries F t c) (layer row col : UInt8) (keycode : UInt16) :
    ∃ t', exec (ViaTransport.set_keycode layer row col keycode) t = (.ok (), t') ∧
      Carries F t' (c.assign (layer, row, col) keycode) := by
  have hframe : VIA_FRAME_LEN = 32 := rfl
  obtain ⟨node, resp, hround, hidle, hresponse⟩ := exec_roundtrip_documented h
    (frameOf [ID_DYNAMIC_KEYMAP_SET_KEYCODE, layer, row, col, (u16ToBe keycode).1,
      (u16ToBe keycode).2]) "set_keycode"
  have hbyte := fun i hi => byteAt_frameOf [ID_DYNAMIC_KEYMAP_SET_KEYCODE, layer, row, col,
    (u16ToBe keycode).1, (u16ToBe keycode).2] (i := i) hi
  obtain ⟨hrepeats, hafter⟩ := hresponse.set_keycode (hbyte 0 (by omega))
  have hecho : validate_echo resp [ID_DYNAMIC_KEYMAP_SET_KEYCODE, layer, row, col,
      (u16ToBe keycode).1, (u16ToBe keycode).2]
      "(cmd, layer, row, col, keycode) echo mismatch on set_keycode" = .ok () :=
    validate_repeats [ID_DYNAMIC_KEYMAP_SET_KEYCODE, layer, row, col,
      (u16ToBe keycode).1, (u16ToBe keycode).2] [] (by simp [hframe]) hrepeats
  have hafter' : F.contents node = c.assign (layer, row, col) keycode := by
    rw [hafter, slotOf, hbyte 1 (by omega), hbyte 2 (by omega), hbyte 3 (by omega),
      hbyte 4 (by omega), hbyte 5 (by omega)]
    show c.assign (layer, row, col)
      (UInt16.ofNat (beNat (u16ToBe keycode).1 (u16ToBe keycode).2)) = _
    rw [beNat_u16ToBe, UInt16.ofNat_toNat]
  refine ⟨{ t with node := node }, ?_, h.moved hidle hafter' rfl⟩
  rw [ViaTransport.set_keycode]
  dsimp only
  rw [exec_bind_of_ok hround, hecho]
  rfl

theorem carries_get_macro (h : Carries F t c) {offset : UInt16} {length : UInt8}
    (hlength : length.toNat ≤ 28) (hrange : offset.toNat + length.toNat ≤ c.size) :
    ∃ t', exec (ViaTransport.get_macro_buffer offset length) t =
      (.ok ((List.range length.toNat).map fun i => c.memory (offset.toNat + i)), t') ∧
        Carries F t' c := by
  have hframe : VIA_FRAME_LEN = 32 := rfl
  obtain ⟨size, t₁, hensure, hsize, h₁⟩ := exec_ensure_documented h
  have hcheck : validate_macro_range offset length.toNat size = .ok () :=
    (validate_macro_range_iff offset length.toNat size).2 (by omega)
  obtain ⟨node, resp, hround, hidle, hresponse⟩ := exec_roundtrip_documented h₁
    (frameOf [ID_MACRO_GET_BUFFER, (u16ToBe offset).1, (u16ToBe offset).2, length])
    "get_macro_buffer"
  have hbyte := fun i hi => byteAt_frameOf
    [ID_MACRO_GET_BUFFER, (u16ToBe offset).1, (u16ToBe offset).2, length] (i := i) hi
  have hoffset : offsetOf (frameOf [ID_MACRO_GET_BUFFER, (u16ToBe offset).1,
      (u16ToBe offset).2, length]) = offset.toNat := by
    rw [offsetOf, hbyte 1 (by omega), hbyte 2 (by omega)]
    exact beNat_u16ToBe offset
  have hstored := hresponse.get_macro (hbyte 0 (by omega))
  rw [hbyte 3 (by omega), hoffset] at hstored
  obtain ⟨hrepeats, hpayload, hafter⟩ := hstored hlength hrange
  have hecho : validate_echo resp [ID_MACRO_GET_BUFFER, (u16ToBe offset).1,
      (u16ToBe offset).2, length] "(cmd, offset, size) echo mismatch on get_macro_buffer" = .ok () :=
    validate_repeats [ID_MACRO_GET_BUFFER, (u16ToBe offset).1,
      (u16ToBe offset).2, length] [] (by simp [hframe]) hrepeats
  have hvalue : (resp.toList.drop 4).take length.toNat =
      (List.range length.toNat).map fun i => c.memory (offset.toNat + i) := by
    apply List.ext_getElem
    · simp only [List.length_take, List.length_drop, Vector.length_toList, List.length_map,
        List.length_range]
      omega
    · intro i hi hi'
      have hlt : i < length.toNat := by simpa using hi'
      have hbyte' := hpayload i hlt
      rw [byteAt, List.getD_eq_getElem _ _ (by rw [Vector.length_toList]; omega)] at hbyte'
      rw [List.getElem_take, List.getElem_drop, hbyte', List.getElem_map, List.getElem_range]
  refine ⟨{ t₁ with node := node }, ?_, h₁.moved hidle hafter rfl⟩
  rw [ViaTransport.get_macro_buffer, exec_in_range hensure hcheck]
  dsimp only
  rw [exec_checked hround hecho, hvalue, exec_pure]

theorem carries_set_macro (h : Carries F t c) {offset : UInt16} {data : List UInt8}
    (hlength : data.length ≤ 28) (hrange : offset.toNat + data.length ≤ c.size) :
    ∃ t', exec (ViaTransport.set_macro_buffer offset data) t = (.ok (), t') ∧
      Carries F t' (c.store offset.toNat data.length fun i => data.getD i 0) := by
  have hframe : VIA_FRAME_LEN = 32 := rfl
  obtain ⟨size, t₁, hensure, hsize, h₁⟩ := exec_ensure_documented h
  have hcheck : validate_macro_range offset data.length size = .ok () :=
    (validate_macro_range_iff offset data.length size).2 (by omega)
  obtain ⟨node, resp, hround, hidle, hresponse⟩ := exec_roundtrip_documented h₁
    (frameOf ([ID_MACRO_SET_BUFFER, (u16ToBe offset).1, (u16ToBe offset).2,
      UInt8.ofNat data.length] ++ data)) "set_macro_buffer"
  have hbyte := fun i hi => byteAt_frameOf ([ID_MACRO_SET_BUFFER, (u16ToBe offset).1,
    (u16ToBe offset).2, UInt8.ofNat data.length] ++ data) (i := i) hi
  have hoffset : offsetOf (frameOf ([ID_MACRO_SET_BUFFER, (u16ToBe offset).1,
      (u16ToBe offset).2, UInt8.ofNat data.length] ++ data)) = offset.toNat := by
    rw [offsetOf, hbyte 1 (by omega), hbyte 2 (by omega)]
    exact beNat_u16ToBe offset
  have hcount : (byteAt (frameOf ([ID_MACRO_SET_BUFFER, (u16ToBe offset).1,
      (u16ToBe offset).2, UInt8.ofNat data.length] ++ data)) 3).toNat = data.length := by
    rw [hbyte 3 (by omega)]
    exact UInt8.toNat_ofNat_of_lt' (show data.length < 256 by omega)
  have hstored := hresponse.set_macro (hbyte 0 (by omega))
  rw [hcount, hoffset] at hstored
  obtain ⟨hrepeats, hafter⟩ := hstored hlength hrange
  have hecho : validate_echo resp [ID_MACRO_SET_BUFFER, (u16ToBe offset).1,
      (u16ToBe offset).2, UInt8.ofNat data.length]
      "(cmd, offset, size) echo mismatch on set_macro_buffer" = .ok () :=
    validate_repeats [ID_MACRO_SET_BUFFER, (u16ToBe offset).1,
      (u16ToBe offset).2, UInt8.ofNat data.length] data (by simp [hframe]) hrepeats
  have hpayload : F.contents node =
      c.store offset.toNat data.length fun i => data.getD i 0 := by
    rw [hafter]
    apply Contents.store_congr
    intro i hi
    exact byteAt_payload _ _ _ _ data (by omega)
  refine ⟨{ t₁ with node := node }, ?_, h₁.moved hidle hpayload rfl⟩
  rw [ViaTransport.set_macro_buffer, exec_in_range hensure hcheck]
  dsimp only
  rw [exec_bind_of_ok hround, hecho]
  rfl

/-- One call, in range: the result of the abstract operation, and its contents. -/
theorem carries_step (h : Carries F t c) {call : StorageCall} (hrange : call.InRange c.size) :
    ∃ t', exec call.op.call t = (.ok (call.apply c).1, t') ∧ Carries F t' (call.apply c).2 := by
  cases call with
  | get_keycode layer row col =>
      obtain ⟨t', hexec, ht'⟩ := carries_get_keycode h layer row col
      refine ⟨t', ?_, ht'⟩
      show exec (ViaValue.word <$> ViaTransport.get_keycode layer row col) t = _
      rw [exec_map, hexec]
      rfl
  | set_keycode layer row col keycode =>
      obtain ⟨t', hexec, ht'⟩ := carries_set_keycode h layer row col keycode
      refine ⟨t', ?_, ht'⟩
      show exec ((fun _ => ViaValue.unit) <$> ViaTransport.set_keycode layer row col keycode) t = _
      rw [exec_map, hexec]
      rfl
  | get_macro_buffer offset length =>
      obtain ⟨t', hexec, ht'⟩ := carries_get_macro h hrange.1 hrange.2
      refine ⟨t', ?_, ht'⟩
      show exec (ViaValue.bytes <$> ViaTransport.get_macro_buffer offset length) t = _
      rw [exec_map, hexec]
      rfl
  | set_macro_buffer offset data =>
      obtain ⟨t', hexec, ht'⟩ := carries_set_macro h hrange.1 hrange.2
      refine ⟨t', ?_, ht'⟩
      show exec ((fun _ => ViaValue.unit) <$> ViaTransport.set_macro_buffer offset data) t = _
      rw [exec_map, hexec]
      rfl

/-- The replies of a transport to a sequence of calls, and the transport after
it. -/
def ViaTransport.replies (t : ViaTransport N) :
    List StorageCall → List (Except DriverError ViaValue) × ViaTransport N
  | [] => ([], t)
  | call :: calls =>
      ((exec call.op.call t).1 :: (replies (exec call.op.call t).2 calls).1,
        (replies (exec call.op.call t).2 calls).2)

theorem carries_replies (calls : List StorageCall) (h : Carries F t c)
    (hrange : ∀ call ∈ calls, call.InRange c.size) :
    (t.replies calls).1 = (StorageCall.results c calls).1.map Except.ok ∧
      Carries F (t.replies calls).2 (StorageCall.results c calls).2 := by
  induction calls generalizing t c with
  | nil => exact ⟨rfl, h⟩
  | cons call calls ih =>
      obtain ⟨t', hexec, ht'⟩ := carries_step h (hrange call List.mem_cons_self)
      have hrest : ∀ other ∈ calls, other.InRange (call.apply c).2.size := by
        intro other hother
        rw [StorageCall.apply_size]
        exact hrange other (List.mem_cons_of_mem call hother)
      obtain ⟨hreplies, hcarries⟩ := ih ht' hrest
      rw [ViaTransport.replies, hexec]
      refine ⟨?_, hcarries⟩
      show Except.ok (call.apply c).1 :: (t'.replies calls).1 = _
      rw [hreplies]
      rfl

/-- On every documented firmware, every sequence of calls in range gives the
results of the abstract keymap and byte array, and leaves their contents; and the
calls on one leave the other alone. -/
theorem transport_refines_storage (F : Documented N) (node : N) (device_id : String) (timeout : Nat)
    (calls : List StorageCall) (hidle : F.Idle node) (hlatency : F.latency ≤ timeout)
    (hrange : ∀ call ∈ calls, call.InRange (F.contents node).size) :
    ((ViaTransport.new node device_id timeout).replies calls).1 =
        (StorageCall.results (F.contents node) calls).1.map Except.ok ∧
      F.contents ((ViaTransport.new node device_id timeout).replies calls).2.node =
        (StorageCall.results (F.contents node) calls).2 ∧
      ((∀ call ∈ calls, call.isKeymap = true) →
        (F.contents ((ViaTransport.new node device_id timeout).replies calls).2.node).memory =
          (F.contents node).memory) ∧
      ((∀ call ∈ calls, call.isKeymap = false) →
        (F.contents ((ViaTransport.new node device_id timeout).replies calls).2.node).keymap =
          (F.contents node).keymap) := by
  have hnew : Carries F (ViaTransport.new node device_id timeout) (F.contents node) :=
    ⟨hidle, rfl, hlatency, nofun⟩
  obtain ⟨hreplies, hcarries⟩ := carries_replies calls hnew hrange
  refine ⟨hreplies, hcarries.contents, ?_, ?_⟩
  · intro hall
    rw [hcarries.contents]
    exact (StorageCall.results_apart (F.contents node) calls).1 hall
  · intro hall
    rw [hcarries.contents]
    exact (StorageCall.results_apart (F.contents node) calls).2 hall

end Refines

/-! ## A firmware -/

/-- How a keyboard answers the bytes of a frame: a command it does not know, or a
macro access out of range, is refused. -/
def Contents.handle (c : Contents) (b : Nat → UInt8) : List UInt8 × Contents :=
  if b 0 = 0x04 then
    let keycode := u16ToBe (c.keymap (b 1, b 2, b 3))
    ([b 0, b 1, b 2, b 3, keycode.1, keycode.2], c)
  else if b 0 = 0x05 then
    ([b 0, b 1, b 2, b 3, b 4, b 5],
      c.assign (b 1, b 2, b 3) (UInt16.ofNat (beNat (b 4) (b 5))))
  else if b 0 = 0x0D then
    let size := u16ToBe (UInt16.ofNat c.size)
    ([b 0, size.1, size.2], c)
  else if (b 3).toNat ≤ 28 ∧ beNat (b 1) (b 2) + (b 3).toNat ≤ c.size then
    if b 0 = 0x0E then
      ([b 0, b 1, b 2, b 3] ++
        (List.range (b 3).toNat).map fun i => c.memory (beNat (b 1) (b 2) + i), c)
    else if b 0 = 0x0F then
      ([b 0, b 1, b 2, b 3],
        c.store (beNat (b 1) (b 2)) (b 3).toNat fun i => b (4 + i))
    else ([id_unhandled], c)
  else ([id_unhandled], c)

/-- A keyboard that answers at once; its answers wait to be read. -/
structure Keyboard where
  contents : Contents
  pending : List Frame
  clock : Nat

instance : HidrawNode Keyboard where
  now k := k.clock
  write _ buf k :=
    let r := k.contents.handle fun i => buf.getD (i + 1) 0
    (.ready (.ok buf.length), { k with contents := r.2, pending := k.pending ++ [frameOf r.1] })
  read _ k :=
    match k.pending with
    | [] => (.elapsed, k)
    | frame :: pending => (.ready (.ok frame.toList), { k with pending := pending })

theorem response_handle {c : Contents} (hsize : c.size < 65536) (request : Frame) :
    Response c request (frameOf (c.handle (byteAt request)).1) (c.handle (byteAt request)).2 := by
  have hframe : VIA_FRAME_LEN = 32 := rfl
  -- What is repeated of the request, if it comes first in the response.
  have hrepeats : ∀ {n : Nat} {bytes rest : List UInt8}, n ≤ bytes.length → n ≤ VIA_FRAME_LEN →
      (∀ i, i < n → bytes.getD i 0 = byteAt request i) →
        Repeats n request (frameOf (bytes ++ rest)) := by
    intro n bytes rest hn hn' hbytes i hi
    rw [byteAt_frameOf _ (by omega), List.getD_append _ _ _ _ (by omega)]
    exact hbytes i hi
  constructor
  · intro hid
    have hhandle : c.handle (byteAt request) = ([byteAt request 0, byteAt request 1,
        byteAt request 2, byteAt request 3] ++ [(u16ToBe (c.keymap (slotOf request))).1,
          (u16ToBe (c.keymap (slotOf request))).2], c) := by
      rw [Contents.handle, if_pos hid]
      rfl
    rw [hhandle]
    refine ⟨hrepeats (by simp) (by omega) ?_, ?_, rfl⟩
    · intro i hi
      match i, hi with
      | 0, _ => rfl
      | 1, _ => rfl
      | 2, _ => rfl
      | 3, _ => rfl
    · rw [byteAt_frameOf _ (by omega), byteAt_frameOf _ (by omega)]
      exact beNat_u16ToBe _
  · intro hid
    have hhandle : c.handle (byteAt request) = ([byteAt request 0, byteAt request 1,
        byteAt request 2, byteAt request 3, byteAt request 4, byteAt request 5] ++ [],
          c.assign (slotOf request) (UInt16.ofNat (beNat (byteAt request 4) (byteAt request 5)))) := by
      rw [Contents.handle, if_neg (by rw [hid]; decide), if_pos hid]
      rfl
    rw [hhandle]
    refine ⟨hrepeats (by simp) (by omega) ?_, rfl⟩
    intro i hi
    match i, hi with
    | 0, _ => rfl
    | 1, _ => rfl
    | 2, _ => rfl
    | 3, _ => rfl
    | 4, _ => rfl
    | 5, _ => rfl
  · intro hid
    have hhandle : c.handle (byteAt request) = ([byteAt request 0] ++
        [(u16ToBe (UInt16.ofNat c.size)).1, (u16ToBe (UInt16.ofNat c.size)).2], c) := by
      rw [Contents.handle, if_neg (by rw [hid]; decide), if_neg (by rw [hid]; decide), if_pos hid]
      rfl
    rw [hhandle]
    refine ⟨hrepeats (by simp) (by omega) ?_, ?_, rfl⟩
    · intro i hi
      match i, hi with
      | 0, _ => rfl
    · rw [byteAt_frameOf _ (by omega), byteAt_frameOf _ (by omega)]
      show beNat (u16ToBe (UInt16.ofNat c.size)).1 (u16ToBe (UInt16.ofNat c.size)).2 = c.size
      rw [beNat_u16ToBe, UInt16.toNat_ofNat_of_lt' hsize]
  · intro hid hlen hrange
    have hhandle : c.handle (byteAt request) = ([byteAt request 0, byteAt request 1,
        byteAt request 2, byteAt request 3] ++
          (List.range (byteAt request 3).toNat).map fun i => c.memory (offsetOf request + i), c) := by
      rw [Contents.handle, if_neg (by rw [hid]; decide), if_neg (by rw [hid]; decide),
        if_neg (by rw [hid]; decide), if_pos ⟨hlen, hrange⟩, if_pos hid]
      rfl
    rw [hhandle]
    refine ⟨hrepeats (by simp) (by omega) ?_, ?_, rfl⟩
    · intro i hi
      match i, hi with
      | 0, _ => rfl
      | 1, _ => rfl
      | 2, _ => rfl
      | 3, _ => rfl
    · intro i hi
      rw [byteAt_payload _ _ _ _ _ (by omega), List.getD_eq_getElem _ _ (by simpa using hi),
        List.getElem_map, List.getElem_range]
  · intro hid hlen hrange
    have hhandle : c.handle (byteAt request) = ([byteAt request 0, byteAt request 1,
        byteAt request 2, byteAt request 3] ++ [],
          c.store (offsetOf request) (byteAt request 3).toNat fun i => byteAt request (4 + i)) := by
      rw [Contents.handle, if_neg (by rw [hid]; decide), if_neg (by rw [hid]; decide),
        if_neg (by rw [hid]; decide), if_pos ⟨hlen, hrange⟩, if_neg (by rw [hid]; decide),
        if_pos hid]
      rfl
    rw [hhandle]
    refine ⟨hrepeats (by simp) (by omega) ?_, rfl⟩
    intro i hi
    match i, hi with
    | 0, _ => rfl
    | 1, _ => rfl
    | 2, _ => rfl
    | 3, _ => rfl

theorem Contents.handle_size (c : Contents) (b : Nat → UInt8) : (c.handle b).2.size = c.size := by
  unfold Contents.handle
  dsimp only
  split_ifs <;> rfl

/-- The keyboard is a documented firmware. -/
def Keyboard.documented : Documented Keyboard where
  contents k := k.contents
  Idle k := k.pending = [] ∧ k.contents.size < 65536
  latency := 0
  answers := by
    intro k deadline request hidle _
    have hpending : k.pending = [] := hidle.1
    have hsize : k.contents.size < 65536 := hidle.2
    let after := k.contents.handle (byteAt request)
    refine ⟨{ k with contents := after.2, pending := k.pending ++ [frameOf after.1] },
      { k with contents := after.2, pending := [] }, frameOf after.1, rfl, ?_, ⟨rfl, ?_⟩,
      response_handle hsize request⟩
    · rw [hpending]
      rfl
    · show after.2.size < 65536
      rw [Contents.handle_size]
      exact hsize

/-- A keyboard with an empty keymap and a macro buffer of eight bytes. -/
def Keyboard.blank : Keyboard where
  contents := { keymap := fun _ => 0, memory := fun _ => 0, size := 8 }
  pending := []
  clock := 0

/-- Two chunks that overlap, read back together, and a keycode. -/
def overlapping : List StorageCall :=
  [.set_macro_buffer 0 [1, 2, 3, 4], .set_macro_buffer 2 [9, 9, 9], .set_keycode 0 1 2 0x1234,
    .get_macro_buffer 0 6, .get_keycode 0 1 2]

/-- On the blank keyboard they read back as the abstract contents have them. -/
theorem transport_refines_storage_overlapping :
    ((ViaTransport.new Keyboard.blank "kbd" 500).replies overlapping).1 =
      [.ok .unit, .ok .unit, .ok .unit, .ok (.bytes [1, 2, 9, 9, 9, 0]), .ok (.word 0x1234)] :=
  (transport_refines_storage Keyboard.documented Keyboard.blank "kbd" 500 overlapping
    ⟨rfl, by decide⟩ (Nat.zero_le _) (by decide)).1.trans (by decide)

end Clackd.Hal.Via
