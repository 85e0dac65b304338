import Clackd.Hal.Via.Slicing

/-!
# What the transport puts on the wire

The firmware does not check the range of a macro write, and two command ids next
to those of the macro buffer erase the EEPROM and leave the firmware.  So it is
the host that has to see to it that only the commands of the driver are written,
and macro frames only inside the buffer the device has reported.  The size is
learnt from a response and kept; `Sized` says that what is kept is what was
reported.

## Main results

* `call_kept`: an operation writes the size query and its own request, the latter
  after its checks have passed.
* `sent_safe`: such a request is one of the driver's commands and in bounds.
* `wire_safe`: over every sequence of operations.
-/

namespace Clackd.Hal.Via

open Clackd.Foundation Clackd.Hal

/-! ## Big-endian words -/

/-- The value of two bytes, the high one first. -/
def beNat (hi lo : UInt8) : Nat := hi.toNat * 256 + lo.toNat

theorem toNat_u16OfBe (hi lo : UInt8) : (u16OfBe hi lo).toNat = beNat hi lo := by
  have hhi := hi.toNat_lt
  have hlo := lo.toNat_lt
  have hshift : (hi.toUInt16 <<< 8).toNat = hi.toNat * 2 ^ 8 := by
    rw [UInt16.toNat_shiftLeft, UInt8.toNat_toUInt16]
    show hi.toNat <<< 8 % 2 ^ 16 = _
    rw [Nat.shiftLeft_eq]
    omega
  rw [u16OfBe, UInt16.toNat_or, hshift, UInt8.toNat_toUInt16, Nat.mul_comm,
    ← Nat.two_pow_add_eq_or_of_lt (by omega), beNat]
  omega

theorem toNat_u16ToBe (n : UInt16) :
    (u16ToBe n).1.toNat = n.toNat / 256 ∧ (u16ToBe n).2.toNat = n.toNat % 256 := by
  have hn := n.toNat_lt
  constructor
  · show ((n >>> 8).toUInt8).toNat = _
    rw [UInt16.toNat_toUInt8, UInt16.toNat_shiftRight]
    show n.toNat >>> 8 % 256 = _
    rw [Nat.shiftRight_eq_div_pow]
    omega
  · show (n.toUInt8).toNat = _
    rw [UInt16.toNat_toUInt8]

theorem beNat_u16ToBe (n : UInt16) : beNat (u16ToBe n).1 (u16ToBe n).2 = n.toNat := by
  obtain ⟨hhi, hlo⟩ := toNat_u16ToBe n
  rw [beNat, hhi, hlo]
  omega

/-! ## What is asked of a request -/

/-- The command ids the driver implements. -/
def COMMANDS : List UInt8 :=
  [ID_GET_PROTOCOL_VERSION, ID_DYNAMIC_KEYMAP_GET_KEYCODE, ID_DYNAMIC_KEYMAP_SET_KEYCODE,
    ID_DYNAMIC_KEYMAP_GET_LAYER_COUNT, ID_LIGHTING_SET_VALUE, ID_LIGHTING_GET_VALUE,
    ID_CUSTOM_SAVE, ID_MACRO_GET_COUNT, ID_MACRO_GET_BUFFER_SIZE, ID_MACRO_GET_BUFFER,
    ID_MACRO_SET_BUFFER]

/-- `id_eeprom_reset`. -/
def ID_EEPROM_RESET : UInt8 := 0x0A

/-- `id_bootloader_jump`. -/
def ID_BOOTLOADER_JUMP : UInt8 := 0x0B

/-- The query for the size of the macro buffer, as it is written. -/
def size_query : List UInt8 := written (frameOf [ID_MACRO_GET_BUFFER_SIZE])

/-- The size of the macro buffer the device reports in a round trip. -/
def Trip.reported (x : Trip) : Option UInt16 :=
  match x.response with
  | some resp =>
      if x.request = size_query ∧ resp.length = VIA_FRAME_LEN ∧
          resp.head? = some ID_MACRO_GET_BUFFER_SIZE then
        some (u16OfBe (resp.getD 1 0) (resp.getD 2 0))
      else none
  | none => none

/-- The sizes reported in a record. -/
def reports (trips : List Trip) : List UInt16 := trips.filterMap Trip.reported

/-- The one size the record reports. -/
def Reports (trips : List Trip) (size : UInt16) : Prop := ∀ n, n ∈ reports trips ↔ n = size

/-- A request as it may be written after the given round trips: the report ID and
a whole frame, a command of the driver, and a macro frame that carries at most 28
bytes inside the buffer that was reported. -/
structure Safe (before : List Trip) (request : List UInt8) : Prop where
  whole : request.length = VIA_FRAME_LEN + 1
  implemented : request.getD 1 0 ∈ COMMANDS
  reserved : request.getD 1 0 ≠ ID_EEPROM_RESET ∧ request.getD 1 0 ≠ ID_BOOTLOADER_JUMP
  macros : request.getD 1 0 = ID_MACRO_GET_BUFFER ∨ request.getD 1 0 = ID_MACRO_SET_BUFFER →
    (request.getD 4 0).toNat ≤ 28 ∧ ∃ size, Reports before size ∧
      beNat (request.getD 2 0) (request.getD 3 0) + (request.getD 4 0).toNat ≤ size.toNat

/-- The limits on the arguments of a method, for a macro buffer of that size. -/
def ViaOp.Within (size : UInt16) : ViaOp → Prop
  | .get_macro_buffer offset length =>
      length.toNat ≤ 28 ∧ offset.toNat + length.toNat ≤ size.toNat
  | .set_macro_buffer offset data =>
      data.length ≤ 28 ∧ offset.toNat + data.length ≤ size.toNat
  | .set_lighting _ _ data => data.length ≤ 29
  | _ => True

/-- Whether a method works on the macro buffer. -/
def ViaOp.isMacro : ViaOp → Bool
  | .get_macro_buffer _ _ => true
  | .set_macro_buffer _ _ => true
  | _ => false

/-- A method's own request, written after the given round trips. -/
structure Sent (op : ViaOp) (before : List Trip) (request : List UInt8) : Prop where
  own : request = written (frameOf op.bytes)
  within : ∃ size, op.Within size ∧ (op.isMacro = true → Reports before size)

/-- What an operation may write. -/
def MayWrite (op : Operation) (before : List Trip) (request : List UInt8) : Prop :=
  request = size_query ∨ ∃ m, op = .method m ∧ Sent m before request

variable {N : Type}

/-- Everything the operation writes, it may write. -/
def Added (op : Operation) (t t' : ViaTransport (Recorder N)) : Prop :=
  ∃ trips, t'.node.trips = t.node.trips ++ trips ∧
    ∀ pre x post, trips = pre ++ x :: post → MayWrite op (t.node.trips ++ pre) x.request

/-- The size that is kept is the one that was reported. -/
def Sized (t : ViaTransport (Recorder N)) : Prop :=
  ∀ n, n ∈ reports t.node.trips ↔ t.macro_buffer_size = some n

theorem Sized.reports {t : ViaTransport (Recorder N)} (h : Sized t) {size : UInt16}
    (hsize : t.macro_buffer_size = some size) : Reports t.node.trips size := by
  intro n
  rw [h n, hsize]
  constructor
  · intro heq
    injection heq with heq
    exact heq.symm
  · rintro rfl
    rfl

/-- A part of an operation: from a state with the size that was reported to such a
state, writing what the operation may write. -/
def Kept (op : Operation) (t t' : ViaTransport (Recorder N)) : Prop :=
  Sized t → Sized t' ∧ Added op t t'

theorem Kept.refl (op : Operation) (t : ViaTransport (Recorder N)) : Kept op t t := by
  intro h
  refine ⟨h, [], (List.append_nil _).symm, ?_⟩
  intro pre x post hsplit
  exact absurd hsplit.symm (by simp)

theorem Kept.trans {op : Operation} {a b c : ViaTransport (Recorder N)} (hab : Kept op a b)
    (hbc : Kept op b c) : Kept op a c := by
  intro ha
  obtain ⟨hb, xs, hxs, hfirst⟩ := hab ha
  obtain ⟨hc, ys, hys, hsecond⟩ := hbc hb
  refine ⟨hc, xs ++ ys, by rw [hys, hxs, List.append_assoc], ?_⟩
  intro pre x post hsplit
  -- The entry is one of the first part or of the second.
  rcases List.append_eq_append_iff.1 hsplit with ⟨more, rfl, hmore⟩ | ⟨more, hmore, hpost⟩
  · have h := hsecond more x post hmore
    rw [hxs, List.append_assoc] at h
    exact h
  · cases more with
    | nil =>
        have h := hsecond [] x post (by simpa using hpost.symm)
        rw [List.append_nil] at hmore h
        rw [hxs, hmore] at h
        exact h
    | cons y more =>
        rw [List.cons_append, List.cons.injEq] at hpost
        obtain ⟨rfl, rfl⟩ := hpost
        exact hfirst pre x more hmore

/-- One request that may be written. -/
theorem Added.single {op : Operation} {t t' : ViaTransport (Recorder N)} {x : Trip}
    (hlog : t'.node.trips = t.node.trips ++ [x]) (hmay : MayWrite op t.node.trips x.request) :
    Added op t t' := by
  refine ⟨[x], hlog, ?_⟩
  intro pre y post hsplit
  cases pre with
  | nil =>
      rw [List.nil_append, List.cons.injEq] at hsplit
      obtain ⟨rfl, -⟩ := hsplit
      rw [List.append_nil]
      exact hmay
  | cons z pre => simp at hsplit

theorem mem_reports_snoc (trips : List Trip) (x : Trip) (n : UInt16) :
    n ∈ reports (trips ++ [x]) ↔ n ∈ reports trips ∨ x.reported = some n := by
  rw [reports, List.filterMap_append, List.mem_append]
  apply or_congr_right
  rw [List.mem_filterMap]
  simp

theorem reported_of_other {x : Trip} (h : x.request ≠ size_query) : x.reported = none := by
  unfold Trip.reported
  split
  · exact if_neg fun hcon => h hcon.1
  · rfl

/-- Requests with different commands are different. -/
theorem written_ne {bytes bytes' : List UInt8} (h : bytes.getD 0 0 ≠ bytes'.getD 0 0) :
    written (frameOf bytes) ≠ written (frameOf bytes') := by
  intro hcon
  have hframes : (frameOf bytes).toList = (frameOf bytes').toList := by
    injection hcon
  have hbyte := byteAt_frameOf bytes (show 0 < VIA_FRAME_LEN by decide)
  rw [byteAt, hframes] at hbyte
  exact h (hbyte.symm.trans (byteAt_frameOf bytes' (show 0 < VIA_FRAME_LEN by decide)))

/-! ## Operations -/

section Operations

variable [HidrawNode N] {op : Operation}

/-- A round trip with another request than the size query. -/
theorem roundtrip_kept {request : Frame} {name : String} (t : ViaTransport (Recorder N))
    (hquery : written request ≠ size_query)
    (hmay : Sized t → MayWrite op t.node.trips (written request)) :
    Kept op t (exec (ViaTransport.roundtrip request name) t).2 := by
  intro hsized
  obtain ⟨trips, hlog, response, rfl, -⟩ := roundtrip_appends request name t
  refine ⟨?_, Added.single hlog (hmay hsized)⟩
  obtain ⟨node, hnode⟩ := roundtrip_node request name t
  dsimp only at hlog
  intro n
  rw [hlog, mem_reports_snoc, reported_of_other hquery, hsized n, hnode]
  simp

/-- What a size query that ends this way reports. -/
theorem reported_query (response : Option (List UInt8)) :
    Trip.reported ⟨size_query, response⟩ = response.bind fun resp =>
      if resp.length = VIA_FRAME_LEN ∧ resp.head? = some ID_MACRO_GET_BUFFER_SIZE then
        some (u16OfBe (resp.getD 1 0) (resp.getD 2 0))
      else none := by
  cases response with
  | none => rfl
  | some resp => simp [Trip.reported]

/-- The echo check of the size query looks at the command. -/
theorem validate_query_iff (resp : Frame) (reason : String) :
    validate_echo resp [ID_MACRO_GET_BUFFER_SIZE] reason = .ok () ↔
      resp.toList.head? = some ID_MACRO_GET_BUFFER_SIZE := by
  have htake : resp.toList.take 1 = [ID_MACRO_GET_BUFFER_SIZE] ↔
      resp.toList.head? = some ID_MACRO_GET_BUFFER_SIZE := by
    cases resp.toList <;> simp
  unfold validate_echo
  rw [← htake]
  by_cases h : resp.toList.take 1 = [ID_MACRO_GET_BUFFER_SIZE]
  · simp [h]
  · simp [h]

/-- The size query keeps what the device reports. -/
theorem ensure_kept (op : Operation) (t : ViaTransport (Recorder N)) :
    Kept op t (exec ViaTransport.ensure_macro_buffer_size t).2 ∧
      ∀ size, (exec ViaTransport.ensure_macro_buffer_size t).1 = .ok size →
        (exec ViaTransport.ensure_macro_buffer_size t).2.macro_buffer_size = some size := by
  rw [ViaTransport.ensure_macro_buffer_size, exec_bind_of_ok (exec_get t)]
  cases hcached : t.macro_buffer_size with
  | some size =>
      refine ⟨Kept.refl op t, ?_⟩
      rintro size' ⟨⟩
      exact hcached
  | none =>
      obtain ⟨trips, hlog, response, rfl, hresponse⟩ :=
        roundtrip_appends (frameOf [ID_MACRO_GET_BUFFER_SIZE]) "get_macro_buffer_size" t
      obtain ⟨node, hnode⟩ := roundtrip_node (frameOf [ID_MACRO_GET_BUFFER_SIZE])
        "get_macro_buffer_size" t
      rcases hround : exec (ViaTransport.roundtrip (frameOf [ID_MACRO_GET_BUFFER_SIZE])
        "get_macro_buffer_size") t with ⟨result, t₁⟩
      rw [hround] at hlog hresponse hnode
      dsimp only at hlog hresponse hnode
      -- A record with this query after it, and the size that is then kept.
      have hsized : ∀ size, Trip.reported ⟨size_query, response⟩ = size →
          Kept op t { t₁ with macro_buffer_size := size } := by
        intro size hsize hbefore
        refine ⟨?_, Added.single hlog (.inl rfl)⟩
        intro n
        show n ∈ reports t₁.node.trips ↔ size = some n
        rw [hlog, mem_reports_snoc, hbefore n, hcached]
        show none = some n ∨ Trip.reported ⟨size_query, response⟩ = some n ↔ _
        rw [hsize]
        simp
      have hkeeps : t₁ = { t₁ with macro_buffer_size := none } := by
        rw [hnode, ← hcached]
      cases result with
      | error e =>
          rw [exec_bind_of_error hround]
          refine ⟨?_, fun size hsize => by cases hsize⟩
          have hnone : Trip.reported ⟨size_query, response⟩ = none := by
            rw [reported_query]
            cases response with
            | none => rfl
            | some resp =>
                apply if_neg
                rintro ⟨hlen, -⟩
                have hcon := (hresponse ⟨resp.toArray, by rw [List.size_toArray, hlen]⟩).2 rfl
                cases hcon
          have h := hsized none hnone
          rw [← hkeeps] at h
          exact h
      | ok resp =>
          rw [exec_bind_of_ok hround]
          have hreported : Trip.reported ⟨size_query, response⟩ =
              if resp.toList.head? = some ID_MACRO_GET_BUFFER_SIZE then
                some (u16OfBe (byteAt resp 1) (byteAt resp 2)) else none := by
            rw [reported_query, (hresponse resp).1 rfl]
            simp [byteAt]
          cases hecho : validate_echo resp [ID_MACRO_GET_BUFFER_SIZE]
              "command-id echo mismatch on get_macro_buffer_size" with
          | ok u =>
              refine ⟨?_, ?_⟩
              · rw [if_pos ((validate_query_iff resp _).1 hecho)] at hreported
                exact hsized _ hreported
              · rintro size ⟨⟩
                rfl
          | error e =>
              refine ⟨?_, fun size hsize => by cases hsize⟩
              have hnone : Trip.reported ⟨size_query, response⟩ = none := by
                rw [hreported]
                apply if_neg
                intro hcon
                rw [(validate_query_iff resp _).2 hcon] at hecho
                cases hecho
              have h := hsized none hnone
              rw [← hkeeps] at h
              exact h

/-- What does not write after a round trip does not count. -/
theorem exec_tail {α : Type} {request : Frame} {name : String}
    {k : Frame → DriverM (ViaTransport (Recorder N)) α} (hk : ∀ resp t, (exec (k resp) t).2 = t)
    (t : ViaTransport (Recorder N)) :
    (exec (ViaTransport.roundtrip request name >>= k) t).2 =
      (exec (ViaTransport.roundtrip request name) t).2 := by
  rw [exec_bind]
  rcases exec (ViaTransport.roundtrip request name) t with ⟨_ | resp, t'⟩
  · rfl
  · exact hk resp t'

omit [HidrawNode N] in
theorem require_keeps (check : Except DriverError Unit) (t : ViaTransport (Recorder N)) :
    (exec (ViaTransport.require check) t).2 = t := by
  cases check <;> rfl

omit [HidrawNode N] in
theorem require_bind_keeps {α : Type} (check : Except DriverError Unit) (a : α)
    (t : ViaTransport (Recorder N)) :
    (exec (ViaTransport.require check >>= fun _ => pure a) t).2 = t := by
  cases check <;> rfl

/-- The range check accepts what is within the limits. -/
theorem validate_macro_range_iff (offset : UInt16) (len : Nat) (size : UInt16) :
    validate_macro_range offset len size = .ok () ↔ len ≤ 28 ∧ offset.toNat + len ≤ size.toNat := by
  have hchunk : MAX_MACRO_CHUNK = 28 := rfl
  unfold validate_macro_range
  rw [hchunk]
  split
  · exact ⟨nofun, fun h => by omega⟩
  · split
    · exact ⟨nofun, fun h => by omega⟩
    · exact ⟨fun _ => by omega, fun _ => rfl⟩

/-- A macro method: the size, the range check, and a round trip if it passes. -/
theorem macro_kept {α : Type} {m : ViaOp} {offset : UInt16} {len : Nat}
    (hwithin : ∀ size, validate_macro_range offset len size = .ok () → m.Within size)
    (hquery : written (frameOf m.bytes) ≠ size_query) {name : String}
    {k : Frame → DriverM (ViaTransport (Recorder N)) α} (hk : ∀ resp t, (exec (k resp) t).2 = t)
    (t : ViaTransport (Recorder N)) :
    Kept (.method m) t (exec (do
      let size ← ViaTransport.ensure_macro_buffer_size
      ViaTransport.require (validate_macro_range offset len size)
      let resp ← ViaTransport.roundtrip (frameOf m.bytes) name
      k resp) t).2 := by
  obtain ⟨hkept, hsize⟩ := ensure_kept (.method m) t
  rw [exec_bind]
  rcases hensure : exec ViaTransport.ensure_macro_buffer_size t with ⟨_ | size, t₁⟩
  · rw [hensure] at hkept
    exact hkept
  · rw [hensure] at hkept hsize
    refine hkept.trans ?_
    dsimp only
    cases hcheck : validate_macro_range offset len size with
    | error e => exact Kept.refl _ t₁
    | ok u =>
        show Kept (.method m) t₁ (exec (ViaTransport.roundtrip (frameOf m.bytes) name >>= k) t₁).2
        rw [exec_tail hk]
        refine roundtrip_kept t₁ hquery fun hsized => .inr ⟨m, rfl, rfl, size, hwithin size hcheck, ?_⟩
        exact fun _ => hsized.reports (hsize size rfl)

/-- A method that is one round trip. -/
theorem single_kept {α : Type} {m : ViaOp} (hsingle : m.isMacro = false) (hwithin : m.Within 0)
    (hquery : written (frameOf m.bytes) ≠ size_query) {name : String}
    {k : Frame → DriverM (ViaTransport (Recorder N)) α} (hk : ∀ resp t, (exec (k resp) t).2 = t)
    (t : ViaTransport (Recorder N)) :
    Kept (.method m) t (exec (ViaTransport.roundtrip (frameOf m.bytes) name >>= k) t).2 := by
  rw [exec_tail hk]
  refine roundtrip_kept t hquery fun _ => .inr ⟨m, rfl, rfl, 0, hwithin, ?_⟩
  intro hcon
  rw [hsingle] at hcon
  cases hcon

omit [HidrawNode N] in
theorem kept_map {α β : Type} {f : α → β} {x : DriverM (ViaTransport (Recorder N)) α}
    {t : ViaTransport (Recorder N)} (h : Kept op t (exec x t).2) :
    Kept op t (exec (f <$> x) t).2 := by
  rw [exec_map]
  exact h

/-- An operation writes the size query and its own request, the latter after its
checks have passed, and keeps the size that was reported. -/
theorem call_kept (op : Operation) (t : ViaTransport (Recorder N)) :
    Kept op t (exec op.call t).2 := by
  cases op with
  | ensure_macro_buffer_size => exact kept_map (ensure_kept _ t).1
  | method m =>
      have hother : ∀ {bytes : List UInt8}, bytes.getD 0 0 ≠ ID_MACRO_GET_BUFFER_SIZE →
          written (frameOf bytes) ≠ size_query := fun h => written_ne h
      cases m with
      | get_protocol_version =>
          exact kept_map (single_kept (m := .get_protocol_version) rfl trivial (hother (by decide))
            (fun resp t => require_bind_keeps _ _ t) t)
      | get_macro_count =>
          exact kept_map (single_kept (m := .get_macro_count) rfl trivial (hother (by decide))
            (fun resp t => require_bind_keeps _ _ t) t)
      | get_keycode layer row col =>
          exact kept_map (single_kept (m := .get_keycode layer row col) rfl trivial
            (hother (show ID_DYNAMIC_KEYMAP_GET_KEYCODE ≠ _ by decide))
            (fun resp t => require_bind_keeps _ _ t) t)
      | set_keycode layer row col keycode =>
          exact kept_map (single_kept (m := .set_keycode layer row col keycode) rfl trivial
            (hother (show ID_DYNAMIC_KEYMAP_SET_KEYCODE ≠ _ by decide))
            (fun resp t => require_keeps _ t) t)
      | get_layer_count =>
          refine kept_map (single_kept (m := .get_layer_count) rfl trivial (hother (by decide)) ?_ t)
          intro resp t
          split <;> rfl
      | custom_save channel =>
          exact kept_map (single_kept (m := .custom_save channel) rfl trivial
            (hother (show ID_CUSTOM_SAVE ≠ _ by decide)) (fun resp t => require_keeps _ t) t)
      | get_macro_buffer offset length =>
          exact kept_map (macro_kept (m := .get_macro_buffer offset length)
            (fun size => (validate_macro_range_iff offset length.toNat size).1)
            (hother (show ID_MACRO_GET_BUFFER ≠ _ by decide))
            (fun resp t => require_bind_keeps _ _ t) t)
      | set_macro_buffer offset data =>
          exact kept_map (macro_kept (m := .set_macro_buffer offset data)
            (fun size => (validate_macro_range_iff offset data.length size).1)
            (hother (show ID_MACRO_SET_BUFFER ≠ _ by decide))
            (fun resp t => require_keeps _ t) t)
      | get_lighting channel value_id =>
          exact kept_map (single_kept (m := .get_lighting channel value_id) rfl trivial
            (hother (show ID_LIGHTING_GET_VALUE ≠ _ by decide))
            (fun resp t => require_bind_keeps _ _ t) t)
      | set_lighting channel value_id data =>
          by_cases hlen : MAX_LIGHTING_VALUE < data.length
          · apply kept_map
            rw [ViaTransport.set_lighting, if_pos hlen]
            exact Kept.refl _ t
          · have hwithin : ViaOp.Within 0 (.set_lighting channel value_id data) := Nat.not_lt.1 hlen
            apply kept_map
            rw [ViaTransport.set_lighting, if_neg hlen]
            exact single_kept (m := .set_lighting channel value_id data) rfl hwithin
              (hother (show ID_LIGHTING_SET_VALUE ≠ _ by decide)) (fun resp t => rfl) t

end Operations

/-! ## Requests -/

/-- The bytes of a request as it is written. -/
theorem getD_written (bytes : List UInt8) {i : Nat} (hi : i < VIA_FRAME_LEN) :
    (written (frameOf bytes)).getD (i + 1) 0 = bytes.getD i 0 := by
  rw [← byteAt_frameOf bytes hi, written, List.getD_cons_succ, byteAt]

/-- The command of a method is one of the driver's. -/
theorem command_mem (m : ViaOp) : m.bytes.getD 0 0 ∈ COMMANDS := by
  cases m <;> simp [ViaOp.bytes, COMMANDS]

/-- The driver implements neither of the two. -/
theorem command_reserved {command : UInt8} (h : command ∈ COMMANDS) :
    command ≠ ID_EEPROM_RESET ∧ command ≠ ID_BOOTLOADER_JUMP := by
  constructor
  · rintro rfl
    exact absurd h (by decide)
  · rintro rfl
    exact absurd h (by decide)

/-- A method within its limits puts at most a frame together. -/
theorem length_bytes_le {m : ViaOp} {size : UInt16} (h : m.Within size) :
    m.bytes.length ≤ VIA_FRAME_LEN := by
  have hframe : VIA_FRAME_LEN = 32 := rfl
  cases m with
  | set_macro_buffer offset data =>
      have hlen := h.1
      simp only [ViaOp.bytes, List.length_append, List.length_cons, List.length_nil]
      omega
  | set_lighting channel value_id data =>
      have hlen : data.length ≤ 29 := h
      simp only [ViaOp.bytes, List.length_append, List.length_cons, List.length_nil]
      omega
  | _ => simp [ViaOp.bytes, hframe]

/-- A frame of at most 32 bytes holds all of them, and zeros after them. -/
theorem toList_frameOf {bytes : List UInt8} (h : bytes.length ≤ VIA_FRAME_LEN) :
    (frameOf bytes).toList = bytes ++ List.replicate (VIA_FRAME_LEN - bytes.length) 0 := by
  apply List.ext_getElem
  · simp [h]
  · intro i hi _
    have hi' : i < VIA_FRAME_LEN := by simpa using hi
    have hbyte := byteAt_frameOf bytes hi'
    rw [byteAt, List.getD_eq_getElem _ _ hi] at hbyte
    rw [hbyte, List.getElem_append]
    split
    · rename_i hlt
      exact List.getD_eq_getElem _ _ hlt
    · rename_i hge
      rw [List.getD_eq_default _ _ (Nat.not_lt.1 hge), List.getElem_replicate]

/-- What an operation may write is safe. -/
theorem sent_safe {op : Operation} {before : List Trip} {request : List UInt8}
    (h : MayWrite op before request) : Safe before request := by
  have hwhole : ∀ frame : Frame, (written frame).length = VIA_FRAME_LEN + 1 := by
    intro frame
    simp [written]
  have hframe : VIA_FRAME_LEN = 32 := rfl
  have hfirst : 0 < VIA_FRAME_LEN := by omega
  rcases h with hrequest | ⟨m, -, hown, size, hwithin, hreports⟩
  · rw [hrequest]
    have hcommand : size_query.getD 1 0 = ID_MACRO_GET_BUFFER_SIZE :=
      getD_written [ID_MACRO_GET_BUFFER_SIZE] hfirst
    have hmem : size_query.getD 1 0 ∈ COMMANDS := by
      rw [hcommand]
      decide
    refine ⟨hwhole _, hmem, command_reserved hmem, ?_⟩
    rw [hcommand]
    intro hcon
    exact absurd hcon (by decide)
  · rw [hown]
    have hcommand : (written (frameOf m.bytes)).getD 1 0 = m.bytes.getD 0 0 :=
      getD_written m.bytes hfirst
    have hmem : (written (frameOf m.bytes)).getD 1 0 ∈ COMMANDS := by
      rw [hcommand]
      exact command_mem m
    refine ⟨hwhole _, hmem, command_reserved hmem, ?_⟩
    have hsecond := getD_written m.bytes (show 1 < VIA_FRAME_LEN by omega)
    have hthird := getD_written m.bytes (show 2 < VIA_FRAME_LEN by omega)
    have hfourth := getD_written m.bytes (show 3 < VIA_FRAME_LEN by omega)
    rw [hcommand, hsecond, hthird, hfourth]
    intro hid
    cases m with
    | get_macro_buffer offset length =>
        refine ⟨hwithin.1, size, hreports rfl, ?_⟩
        show beNat (u16ToBe offset).1 (u16ToBe offset).2 + length.toNat ≤ size.toNat
        rw [beNat_u16ToBe]
        exact hwithin.2
    | set_macro_buffer offset data =>
        have hlen : (UInt8.ofNat data.length).toNat = data.length :=
          UInt8.toNat_ofNat_of_lt' (show data.length < 256 by have := hwithin.1; omega)
        show (UInt8.ofNat data.length).toNat ≤ 28 ∧ _
        refine ⟨by rw [hlen]; exact hwithin.1, size, hreports rfl, ?_⟩
        show beNat (u16ToBe offset).1 (u16ToBe offset).2 + (UInt8.ofNat data.length).toNat ≤
          size.toNat
        rw [beNat_u16ToBe, hlen]
        exact hwithin.2
    | _ => exact absurd hid (by simp [ViaOp.bytes]; decide)

/-! ## Sequences of operations -/

/-- A transport on an opened node. -/
def ViaTransport.new (node : N) (device_id : String) (timeout : Nat) : ViaTransport N where
  node := node
  device_id := device_id
  timeout := timeout
  macro_buffer_size := none

variable [HidrawNode N]

/-- The transport after an operation, whatever it returned; `none` if it panicked. -/
def send (t : ViaTransport (Recorder N)) (op : Operation) : Option (ViaTransport (Recorder N)) :=
  (perform (Slicing.call op) t).map Prod.snd

theorem send_eq (t : ViaTransport (Recorder N)) (op : Operation) :
    send t op = some (exec op.call t).2 := by
  rw [send, Slicing.behaves_call op t]
  rfl

/-- Everything written so far was safe when it was written. -/
def AllSafe (t : ViaTransport (Recorder N)) : Prop :=
  ∀ before x after, t.node.trips = before ++ x :: after → Safe before x.request

omit [HidrawNode N] in
/-- What an operation adds to a safe record leaves it safe. -/
theorem allSafe_added {op : Operation} {t t' : ViaTransport (Recorder N)} (h : AllSafe t)
    (hadded : Added op t t') : AllSafe t' := by
  obtain ⟨trips, hlog, hmay⟩ := hadded
  intro before x after hsplit
  rw [hlog] at hsplit
  rcases List.append_eq_append_iff.1 hsplit with ⟨more, rfl, hmore⟩ | ⟨more, hmore, hafter⟩
  · exact sent_safe (hmay more x after hmore)
  · cases more with
    | nil =>
        rw [List.append_nil] at hmore
        have hsafe := sent_safe (hmay [] x after (by simpa using hafter.symm))
        rw [List.append_nil, hmore] at hsafe
        exact hsafe
    | cons y more =>
        rw [List.cons_append, List.cons.injEq] at hafter
        obtain ⟨rfl, -⟩ := hafter
        exact h before x more hmore

/-- Over every sequence of operations on every node, with all their indices and
slices: no operation panics, and each does what the method of the transport does; all
that is written is safe; an operation writes the size query and its own request, the
latter only within its limits for the size that was reported; and within these limits
nothing of the request is lost. -/
theorem wire_safe (node : N) (device_id : String) (timeout : Nat) (ops : List Operation) :
    (run send (ViaTransport.new ⟨node, []⟩ device_id timeout) ops).isSome = true ∧
      (∀ (op : Operation) (t : ViaTransport (Recorder N)),
        perform (Slicing.call op) t = some (exec op.call t)) ∧
      Always send AllSafe (ViaTransport.new ⟨node, []⟩ device_id timeout) ops ∧
      EveryStep send (fun t op => ∀ t', send t op = some t' → Added op t t')
        (ViaTransport.new ⟨node, []⟩ device_id timeout) ops ∧
      ∀ (m : ViaOp) (size : UInt16), m.Within size → (frameOf m.bytes).toList =
        m.bytes ++ List.replicate (VIA_FRAME_LEN - m.bytes.length) 0 := by
  have hstep : ∀ (t : ViaTransport (Recorder N)) op t', Sized t ∧ AllSafe t →
      send t op = some t' → (Sized t' ∧ AllSafe t') ∧ Added op t t' := by
    rintro t op t' ⟨hsized, hsafe⟩ hsend
    rw [send_eq] at hsend
    obtain rfl := Option.some.inj hsend
    obtain ⟨hsized', hadded⟩ := call_kept op t hsized
    exact ⟨⟨hsized', allSafe_added hsafe hadded⟩, hadded⟩
  have hnew : Sized (ViaTransport.new (⟨node, []⟩ : Recorder N) device_id timeout) ∧
      AllSafe (ViaTransport.new (⟨node, []⟩ : Recorder N) device_id timeout) := by
    refine ⟨?_, ?_⟩
    · intro n
      exact ⟨nofun, nofun⟩
    · intro before x after hsplit
      exact absurd hsplit.symm (by simp [ViaTransport.new])
  refine ⟨?_, fun op t => Slicing.behaves_call op t, ?_, ?_, ?_⟩
  · exact run_isSome (fun t op => by rw [send_eq]; rfl) ops _
  · exact always_of_preserves (fun t op t' h hsend => (hstep t op t' h hsend).1) (fun _ h => h.2)
      hnew ops
  · exact everyStep_of (fun t op t' h hsend => (hstep t op t' h hsend).1)
      (fun t op _ h _ t' hsend => (hstep t op t' h hsend).2) hnew ops
  · exact fun m size hwithin => toList_frameOf (length_bytes_le hwithin)

end Clackd.Hal.Via
