import Clackd.Foundation.Trace
import Clackd.Hal.Via.Pairing

/-!
# Success and the echo

A VIA firmware repeats the leading bytes of a request in its response, and
overwrites the first of them if it does not handle the command.  `Recorder` puts
a record in front of any node: each request that was written, with the report
read after it.

## Main results

* `exec_roundtrip_ok_iff`: a round trip succeeds exactly if the node takes the
  request and answers with a whole frame.
* `call_proven`: an operation with an echo check succeeds only if each of its
  requests was echoed.
* `success_echoed_iff`: an operation reports success on an echo only, exactly if
  it is no `set_lighting` or its response is an echo.
-/

namespace Clackd.Hal.Via

open Clackd.Foundation Clackd.Hal

/-- The byte a firmware puts in place of a command it does not handle. -/
def id_unhandled : UInt8 := 0xFF

/-- A request as it was written, and the report read after it. -/
structure Trip where
  request : List UInt8
  response : Option (List UInt8)
  deriving DecidableEq, Repr

/-- The request without the report ID. -/
def Trip.frame (x : Trip) : List UInt8 := x.request.tail

/-- A node with a record of what passes through it. -/
structure Recorder (N : Type) where
  node : N
  trips : List Trip

/-- A report that was read belongs to the last request. -/
def answered (read : Polled (List UInt8)) (trips : List Trip) : List Trip :=
  match read with
  | .ready (.ok bytes) =>
      trips.dropLast ++ (trips.getLast?.map fun x => { x with response := some bytes }).toList
  | _ => trips

instance {N : Type} [HidrawNode N] : HidrawNode (Recorder N) where
  now r := HidrawNode.now r.node
  write deadline buf r :=
    let p := HidrawNode.write deadline buf r.node
    (p.1, { node := p.2, trips := r.trips ++ [⟨buf, none⟩] })
  read deadline r :=
    let p := HidrawNode.read deadline r.node
    (p.1, { node := p.2, trips := answered p.1 r.trips })

/-- How many leading bytes of a request the firmware repeats: the command, and
the operands that say what it is about. -/
def echo_len (command : UInt8) : Nat :=
  if command = ID_DYNAMIC_KEYMAP_GET_KEYCODE then 4
  else if command = ID_DYNAMIC_KEYMAP_SET_KEYCODE then 6
  else if command = ID_LIGHTING_SET_VALUE then 3
  else if command = ID_LIGHTING_GET_VALUE then 3
  else if command = ID_CUSTOM_SAVE then 2
  else if command = ID_MACRO_GET_BUFFER then 4
  else if command = ID_MACRO_SET_BUFFER then 4
  else 1

/-- The response is the echo of its request, and no refusal. -/
structure Echoed (request resp : List UInt8) : Prop where
  command : resp.head? = request.head?
  operands : resp.take (echo_len (request.headD 0)) = request.take (echo_len (request.headD 0))
  handled : resp.head? ≠ some id_unhandled

/-- The request was answered by its echo. -/
def Trip.Vouched (x : Trip) : Prop := ∃ resp, x.response = some resp ∧ Echoed x.frame resp

/-- An operation of the transport: a method, or the size query the macro methods
begin with. -/
inductive Operation where
  | method (op : ViaOp)
  | ensure_macro_buffer_size
  deriving DecidableEq, Repr

/-- Run an operation. -/
def Operation.call {N : Type} [HidrawNode N] : Operation → DriverM (ViaTransport N) ViaValue
  | .method op => op.call
  | .ensure_macro_buffer_size => .word <$> ViaTransport.ensure_macro_buffer_size

/-- The leading bytes of the request of a method. -/
def ViaOp.bytes : ViaOp → List UInt8
  | .get_protocol_version => [ID_GET_PROTOCOL_VERSION]
  | .get_macro_count => [ID_MACRO_GET_COUNT]
  | .get_keycode layer row col => [ID_DYNAMIC_KEYMAP_GET_KEYCODE, layer, row, col]
  | .set_keycode layer row col keycode =>
      [ID_DYNAMIC_KEYMAP_SET_KEYCODE, layer, row, col, (u16ToBe keycode).1, (u16ToBe keycode).2]
  | .get_layer_count => [ID_DYNAMIC_KEYMAP_GET_LAYER_COUNT]
  | .custom_save channel => [ID_CUSTOM_SAVE, channel]
  | .get_macro_buffer offset length =>
      [ID_MACRO_GET_BUFFER, (u16ToBe offset).1, (u16ToBe offset).2, length]
  | .set_macro_buffer offset data =>
      [ID_MACRO_SET_BUFFER, (u16ToBe offset).1, (u16ToBe offset).2, UInt8.ofNat data.length] ++ data
  | .get_lighting channel value_id => [ID_LIGHTING_GET_VALUE, channel, value_id]
  | .set_lighting channel value_id data => [ID_LIGHTING_SET_VALUE, channel, value_id] ++ data

/-- The request of an operation; the size query is made once only. -/
def Operation.request : Operation → Option Frame
  | .method op => some (frameOf op.bytes)
  | .ensure_macro_buffer_size => none

/-- The request of a frame, as it is written. -/
def written (frame : Frame) : List UInt8 := VIA_HIDRAW_REPORT_ID :: frame.toList

/-- The node takes the request and answers with the frame. -/
def ViaTransport.Answers {N : Type} [HidrawNode N] (t : ViaTransport N) (request resp : Frame) :
    Prop :=
  ∃ n n', HidrawNode.write (HidrawNode.now t.node + t.timeout) (written request) t.node =
      (.ready (.ok (written request).length), n) ∧
    HidrawNode.read (HidrawNode.now t.node + t.timeout) n = (.ready (.ok resp.toList), n')

/-! ## Frames -/

theorem byteAt_frameOf (bytes : List UInt8) {i : Nat} (hi : i < VIA_FRAME_LEN) :
    byteAt (frameOf bytes) i = bytes.getD i 0 := by
  have hlen : i < (frameOf bytes).toList.length := by simpa using hi
  rw [byteAt, List.getD_eq_getElem _ _ hlen, Vector.getElem_toList]
  exact Vector.getElem_ofFn hi

/-- The leading bytes of a frame are those it was made of. -/
theorem take_frameOf (bytes : List UInt8) {n : Nat} (hn : n ≤ bytes.length)
    (hframe : n ≤ VIA_FRAME_LEN) : (frameOf bytes).toList.take n = bytes.take n := by
  apply List.ext_getElem
  · simp [hn, hframe]
  · intro i hi _
    have hi' : i < n := by
      rw [List.length_take] at hi
      omega
    have hbyte := byteAt_frameOf bytes (show i < VIA_FRAME_LEN by omega)
    have hlen : i < (frameOf bytes).toList.length := by
      simp only [Vector.length_toList]
      omega
    rw [byteAt, List.getD_eq_getElem _ _ hlen, List.getD_eq_getElem _ _ (by omega)] at hbyte
    rw [List.getElem_take, List.getElem_take, hbyte]

theorem head_frameOf (command : UInt8) (bytes : List UInt8) :
    (frameOf (command :: bytes)).toList.head? = some command := by
  have htake := take_frameOf (command :: bytes) (n := 1) (by simp) (by decide)
  rw [List.head?_eq_getElem?]
  cases hframe : (frameOf (command :: bytes)).toList with
  | nil => simp [hframe] at htake
  | cons b rest =>
      rw [hframe] at htake
      simp only [List.take_succ_cons, List.take_zero, List.cons.injEq, and_true] at htake
      simp [htake]

theorem validate_echo_ok {resp : Frame} {expected : List UInt8} {reason : String}
    (h : validate_echo resp expected reason = .ok ()) :
    resp.toList.take expected.length = expected := by
  unfold validate_echo at h
  split at h
  · assumption
  · cases h

/-! ## Round trips -/

section Roundtrip

variable {N : Type} [HidrawNode N]

/-- What `write_frame` makes of a write. -/
def sent (request : Frame) : Polled Nat → Except DriverError (Option Unit)
  | .elapsed => .ok none
  | .ready (.ok n) =>
      if n = (written request).length then .ok (some ())
      else .error (.protocolViolation "short write to hidraw node")
  | .ready (.error e) => .error (classify_io_error e)

/-- What `read_frame` makes of a read. -/
def received : Polled (List UInt8) → Except DriverError (Option Frame)
  | .elapsed => .ok none
  | .ready (.ok bytes) =>
      if h : bytes.length = VIA_FRAME_LEN then
        .ok (some ⟨bytes.toArray, size_of_length h⟩)
      else .error (.protocolViolation "short read from hidraw node")
  | .ready (.error e) => .error (classify_io_error e)

theorem sent_ok_iff {request : Frame} {p : Polled Nat} :
    sent request p = .ok (some ()) ↔ p = .ready (.ok (written request).length) := by
  cases p with
  | elapsed => exact ⟨nofun, nofun⟩
  | ready value =>
      cases value with
      | error e => exact ⟨nofun, nofun⟩
      | ok n =>
          by_cases hn : n = (written request).length
          · simp [sent, hn]
          · simp [sent, hn]

theorem received_ok_iff {resp : Frame} {p : Polled (List UInt8)} :
    received p = .ok (some resp) ↔ p = .ready (.ok resp.toList) := by
  cases p with
  | elapsed => exact ⟨nofun, nofun⟩
  | ready value =>
      cases value with
      | error e => exact ⟨nofun, nofun⟩
      | ok bytes =>
          by_cases hlen : bytes.length = VIA_FRAME_LEN
          · simp only [received, dif_pos hlen, Except.ok.injEq, Option.some.injEq,
              Polled.ready.injEq]
            constructor
            · rintro rfl
              rfl
            · rintro rfl
              exact frame_of_toList resp _
          · simp only [received, dif_neg hlen, Polled.ready.injEq, Except.ok.injEq, reduceCtorEq,
              false_iff]
            rintro rfl
            exact hlen (Vector.length_toList)

theorem exec_write_frame_eq (deadline : Nat) (request : Frame) (t : ViaTransport N) :
    exec (ViaTransport.write_frame deadline request) t =
      (sent request (HidrawNode.write deadline (written request) t.node).1,
        { t with node := (HidrawNode.write deadline (written request) t.node).2 }) := by
  unfold ViaTransport.write_frame
  rw [exec_bind, ViaTransport.onNode, exec_primitive]
  dsimp only
  show exec (match (HidrawNode.write deadline (written request) t.node).1 with
    | .elapsed => _ | .ready (.ok k) => _ | .ready (.error e) => _) _ = _
  cases (HidrawNode.write deadline (written request) t.node).1 with
  | elapsed => rfl
  | ready value =>
      cases value with
      | error e => rfl
      | ok n =>
          show exec (if n = (written request).length then _ else _) _ = _
          by_cases hn : n = (written request).length
          · rw [sent, if_pos hn, if_pos hn]
            rfl
          · rw [sent, if_neg hn, if_neg hn]
            rfl

theorem exec_read_frame_eq (deadline : Nat) (t : ViaTransport N) :
    exec (ViaTransport.read_frame deadline) t =
      (received (HidrawNode.read deadline t.node).1,
        { t with node := (HidrawNode.read deadline t.node).2 }) := by
  unfold ViaTransport.read_frame
  rw [exec_bind, ViaTransport.onNode, exec_primitive]
  dsimp only
  cases (HidrawNode.read deadline t.node).1 with
  | elapsed => rfl
  | ready value =>
      cases value with
      | error e => rfl
      | ok bytes =>
          by_cases hlen : bytes.length = VIA_FRAME_LEN
          · simp [received, hlen]
          · simp [received, hlen]

/-- A round trip is a write and, if that goes through, a read. -/
theorem exec_roundtrip_eq (request : Frame) (name : String) (t : ViaTransport N) :
    ∃ w r, w = HidrawNode.write (HidrawNode.now t.node + t.timeout) (written request) t.node ∧
      r = HidrawNode.read (HidrawNode.now t.node + t.timeout) w.2 ∧
      ((sent request w.1 = .ok (some ()) ∧ ∃ result,
          exec (ViaTransport.roundtrip request name) t = (result, { t with node := r.2 }) ∧
          ∀ resp, result = .ok resp ↔ received r.1 = .ok (some resp)) ∨
        (sent request w.1 ≠ .ok (some ()) ∧ ∃ e,
          exec (ViaTransport.roundtrip request name) t = (.error e, { t with node := w.2 }))) := by
  refine ⟨_, _, rfl, rfl, ?_⟩
  have hwrite := exec_write_frame_eq (HidrawNode.now t.node + t.timeout) request t
  rcases hw : HidrawNode.write (HidrawNode.now t.node + t.timeout) (written request) t.node
    with ⟨p, n⟩
  rw [hw] at hwrite
  have hread := exec_read_frame_eq (HidrawNode.now t.node + t.timeout) { t with node := n }
  unfold ViaTransport.roundtrip
  rw [exec_bind_of_ok (exec_get t)]
  dsimp only at hwrite hread ⊢
  cases hsent : sent request p with
  | error e =>
      rw [hsent] at hwrite
      rw [exec_bind_of_error hwrite]
      exact .inr ⟨nofun, e, rfl⟩
  | ok arrived =>
      rw [hsent] at hwrite
      rw [exec_bind_of_ok hwrite]
      cases arrived with
      | none => exact .inr ⟨nofun, _, rfl⟩
      | some u =>
          refine .inl ⟨rfl, ?_⟩
          dsimp only
          cases hreceived : received (HidrawNode.read (HidrawNode.now t.node + t.timeout) n).1 with
          | error e =>
              rw [hreceived] at hread
              rw [exec_bind_of_error hread]
              exact ⟨_, rfl, fun resp => ⟨nofun, nofun⟩⟩
          | ok frame =>
              rw [hreceived] at hread
              rw [exec_bind_of_ok hread]
              cases frame with
              | none => exact ⟨_, rfl, fun resp => ⟨nofun, nofun⟩⟩
              | some resp' =>
                  refine ⟨.ok resp', rfl, fun resp => ?_⟩
                  simp

/-- A round trip succeeds exactly if the node takes the request and answers with
a whole frame. -/
theorem exec_roundtrip_ok_iff (request resp : Frame) (name : String) (t : ViaTransport N) :
    (exec (ViaTransport.roundtrip request name) t).1 = .ok resp ↔ t.Answers request resp := by
  obtain ⟨w, r, hw, hr, ⟨hsent, result, hexec, hresult⟩ | ⟨hsent, e, hexec⟩⟩ :=
    exec_roundtrip_eq request name t
  · rw [hexec, hresult, received_ok_iff]
    rw [sent_ok_iff] at hsent
    constructor
    · intro hread
      exact ⟨w.2, r.2, by rw [← hw, ← hsent], by rw [← hr, ← hread]⟩
    · rintro ⟨n, n', hwrite, hread⟩
      rw [hr, hw, hwrite]
      exact congrArg Prod.fst hread
  · rw [hexec]
    constructor
    · nofun
    · rintro ⟨n, n', hwrite, -⟩
      rw [hw, hwrite] at hsent
      exact absurd (sent_ok_iff.2 rfl) hsent

/-- A round trip works on the node only. -/
theorem roundtrip_node (request : Frame) (name : String) (t : ViaTransport N) :
    ∃ n, (exec (ViaTransport.roundtrip request name) t).2 = { t with node := n } := by
  obtain ⟨w, r, -, -, ⟨-, result, hexec, -⟩ | ⟨-, e, hexec⟩⟩ := exec_roundtrip_eq request name t
  · exact ⟨r.2, by rw [hexec]⟩
  · exact ⟨w.2, by rw [hexec]⟩

/-- On a recorded node, a round trip is one entry of the record, and succeeds
exactly if that entry has a whole frame as its response. -/
theorem roundtrip_appends (request : Frame) (name : String) :
    Appends (fun t : ViaTransport (Recorder N) => t.node.trips)
      (ViaTransport.roundtrip request name)
      (fun r trips => ∃ response, trips = [⟨written request, response⟩] ∧
        ∀ resp, r = .ok resp ↔ response = some resp.toList) := by
  intro t
  obtain ⟨w, r, hw, hr, ⟨hsent, result, hexec, hresult⟩ | ⟨hsent, e, hexec⟩⟩ :=
    exec_roundtrip_eq request name t
  · have htrips : r.2.trips = answered r.1 (t.node.trips ++ [⟨written request, none⟩]) := by
      rw [hr, hw]
      rfl
    have hshape : ∃ response, r.2.trips = t.node.trips ++ [⟨written request, response⟩] ∧
        ∀ bytes, r.1 = .ready (.ok bytes) ↔ response = some bytes := by
      rw [htrips]
      unfold answered
      split
      · rename_i bytes hread
        refine ⟨some bytes, by simp, ?_⟩
        intro bytes'
        rw [hread]
        simp
      · rename_i hread
        exact ⟨none, rfl, fun bytes => ⟨fun hcon => absurd hcon (hread bytes), nofun⟩⟩
    obtain ⟨response, hlog, hresponse⟩ := hshape
    refine ⟨[⟨written request, response⟩], by rw [hexec]; exact hlog, response, rfl, ?_⟩
    intro resp
    rw [hexec, hresult, received_ok_iff, hresponse]
  · refine ⟨[⟨written request, none⟩], ?_, none, rfl, ?_⟩
    · rw [hexec, hw]
      rfl
    · intro resp
      rw [hexec]
      exact ⟨nofun, nofun⟩

end Roundtrip

/-! ## Operations -/

/-- If an operation succeeds, all requests it made were echoed, and the given
one is among them. -/
def Proven {α : Type} (own : Option Frame) (r : Except DriverError α) (trips : List Trip) : Prop :=
  r.isOk = true → (∀ x ∈ trips, x.Vouched) ∧
    ∀ request ∈ own, ∃ x ∈ trips, x.request = written request

/-- The result of an operation and the entries it adds to the record. -/
def SuccessEchoed {N : Type} [HidrawNode N] (op : Operation) (t : ViaTransport (Recorder N)) :
    Prop :=
  ∃ trips, (exec op.call t).2.node.trips = t.node.trips ++ trips ∧
    Proven op.request (exec op.call t).1 trips

section Operations

variable {N : Type} [HidrawNode N] {α β : Type}

/-- The record of a transport on a recorded node. -/
abbrev tripsOf (t : ViaTransport (Recorder N)) : List Trip := t.node.trips

omit [HidrawNode N] in
theorem proven_map {own : Option Frame} (f : α → β) {x : DriverM (ViaTransport (Recorder N)) α}
    (hx : Appends tripsOf x (Proven own)) : Appends tripsOf (f <$> x) (Proven own) := by
  intro t
  obtain ⟨trips, hlog, hproven⟩ := hx t
  refine ⟨trips, by rw [exec_map]; exact hlog, ?_⟩
  rw [exec_map]
  intro hok
  refine hproven ?_
  cases h : (exec x t).1 with
  | ok a => rfl
  | error e =>
      rw [h] at hok
      cases hok

omit [HidrawNode N] in
/-- A part that makes no request. -/
theorem proven_quiet {x : DriverM (ViaTransport (Recorder N)) α}
    (hx : ∀ t, tripsOf (exec x t).2 = tripsOf t) : Appends tripsOf x (Proven none) := by
  refine (Appends.of_kept hx).weaken ?_
  rintro r trips rfl -
  exact ⟨nofun, nofun⟩

omit [HidrawNode N] in
/-- What follows a part does not take back that its requests were echoed. -/
theorem proven_bind {own : Option Frame} {x : DriverM (ViaTransport (Recorder N)) α}
    {f : α → DriverM (ViaTransport (Recorder N)) β} (hx : Appends tripsOf x (Proven none))
    (hf : ∀ a, Appends tripsOf (f a) (Proven own)) : Appends tripsOf (x >>= f) (Proven own) := by
  refine (hx.bind hf).weaken ?_
  rintro r trips (⟨e, rfl, -⟩ | ⟨a, first, rest, rfl, hfirst, hrest⟩) hok
  · cases hok
  · obtain ⟨hvouched, hown⟩ := hrest hok
    refine ⟨?_, ?_⟩
    · intro x hx
      rcases List.mem_append.1 hx with hx | hx
      · exact (hfirst rfl).1 x hx
      · exact hvouched x hx
    · intro request hrequest
      obtain ⟨x, hx, hxr⟩ := hown request hrequest
      exact ⟨x, List.mem_append_right first hx, hxr⟩

omit [HidrawNode N] in
theorem require_trips (check : Except DriverError Unit) (t : ViaTransport (Recorder N)) :
    tripsOf (exec (ViaTransport.require check) t).2 = tripsOf t := by
  cases check <;> rfl

/-- A round trip, and a rest that makes no request and succeeds on an echo
only. -/
theorem proven_roundtrip {request : Frame} {name : String}
    {k : Frame → DriverM (ViaTransport (Recorder N)) α}
    (hk : ∀ resp t, tripsOf (exec (k resp) t).2 = tripsOf t)
    (hecho : ∀ resp t, (exec (k resp) t).1.isOk = true →
      Echoed request.toList resp.toList) :
    Appends tripsOf (ViaTransport.roundtrip request name >>= k) (Proven (some request)) := by
  have hrest : ∀ resp, Appends tripsOf (k resp) fun r trips => trips = [] ∧
      (r.isOk = true → Echoed request.toList resp.toList) := by
    intro resp t
    exact ⟨[], by rw [hk, List.append_nil], rfl, hecho resp t⟩
  refine ((roundtrip_appends request name).bind hrest).weaken ?_
  rintro r trips (⟨e, rfl, -⟩ | ⟨resp, first, rest, rfl, ⟨response, rfl, hresponse⟩, rfl, hok'⟩) hok
  · cases hok
  · obtain rfl := (hresponse resp).1 rfl
    refine ⟨?_, ?_⟩
    · intro x hx
      rw [List.append_nil, List.mem_singleton] at hx
      subst hx
      exact ⟨resp.toList, rfl, hok' hok⟩
    · rintro q ⟨⟩
      exact ⟨_, List.mem_append_left _ (List.mem_singleton_self _), rfl⟩

/-- A response that begins with the bytes an echo check expects is an echo. -/
theorem echoed_of_take {command : UInt8} (bytes rest : List UInt8) {resp : Frame}
    (hlen : echo_len command ≤ bytes.length + 1) (hframe : bytes.length + 1 ≤ VIA_FRAME_LEN)
    (hcommand : command ≠ id_unhandled)
    (h : resp.toList.take (bytes.length + 1) = command :: bytes) :
    Echoed (frameOf (command :: (bytes ++ rest))).toList resp.toList := by
  have hhead : resp.toList.head? = some command := by
    cases hresp : resp.toList with
    | nil => simp [hresp] at h
    | cons b bs =>
        rw [hresp, List.take_succ_cons, List.cons.injEq] at h
        rw [List.head?_cons, h.1]
  have hrequest : (frameOf (command :: (bytes ++ rest))).toList.head? = some command :=
    head_frameOf command _
  have hheadD : (frameOf (command :: (bytes ++ rest))).toList.headD 0 = command := by
    rw [List.headD_eq_head?_getD, hrequest, Option.getD_some]
  refine ⟨?_, ?_, ?_⟩
  · show resp.toList.head? = (frameOf _).toList.head?
    rw [hhead, hrequest]
  · show resp.toList.take (echo_len ((frameOf _).toList.headD 0)) =
      (frameOf _).toList.take (echo_len ((frameOf _).toList.headD 0))
    rw [hheadD, take_frameOf _ (by simp; omega) (by omega)]
    have hresp := congrArg (List.take (echo_len command)) h
    rw [List.take_take, Nat.min_eq_left hlen] at hresp
    rw [hresp, ← List.cons_append, List.take_append_of_le_length (by simpa using hlen)]
  · rw [hhead]
    intro hcon
    injection hcon with hcon
    exact hcommand hcon

/-- A round trip whose response is checked against the leading bytes of its
request, and a rest that makes no request. -/
theorem proven_checked {command : UInt8} {reason name : String}
    {k : Frame → DriverM (ViaTransport (Recorder N)) α} (bytes rest : List UInt8)
    (hlen : echo_len command ≤ bytes.length + 1) (hframe : bytes.length + 1 ≤ VIA_FRAME_LEN)
    (hcommand : command ≠ id_unhandled) (hk : ∀ resp t, tripsOf (exec (k resp) t).2 = tripsOf t) :
    Appends tripsOf
      (ViaTransport.roundtrip (frameOf (command :: (bytes ++ rest))) name >>= fun resp =>
        ViaTransport.require (validate_echo resp (command :: bytes) reason) >>= fun _ => k resp)
      (Proven (some (frameOf (command :: (bytes ++ rest))))) := by
  refine proven_roundtrip ?_ ?_
  · intro resp t
    cases validate_echo resp (command :: bytes) reason with
    | ok u => exact hk resp t
    | error e => rfl
  · intro resp t hok
    cases hecho : validate_echo resp (command :: bytes) reason with
    | ok u => exact echoed_of_take bytes rest hlen hframe hcommand (validate_echo_ok hecho)
    | error e =>
        rw [hecho] at hok
        cases hok

/-- The same without a rest. -/
theorem proven_checked_last {command : UInt8} {reason name : String}
    (bytes rest : List UInt8) (hlen : echo_len command ≤ bytes.length + 1)
    (hframe : bytes.length + 1 ≤ VIA_FRAME_LEN) (hcommand : command ≠ id_unhandled) :
    Appends tripsOf
      (ViaTransport.roundtrip (frameOf (command :: (bytes ++ rest))) name >>= fun resp =>
        ViaTransport.require (validate_echo resp (command :: bytes) reason) :
          DriverM (ViaTransport (Recorder N)) Unit)
      (Proven (some (frameOf (command :: (bytes ++ rest))))) := by
  have h : Appends tripsOf
      (ViaTransport.roundtrip (frameOf (command :: (bytes ++ rest))) name >>= fun resp =>
        ViaTransport.require (validate_echo resp (command :: bytes) reason) >>= fun _ =>
          (pure () : DriverM (ViaTransport (Recorder N)) Unit))
      (Proven (some (frameOf (command :: (bytes ++ rest))))) :=
    proven_checked bytes rest hlen hframe hcommand fun _ _ => rfl
  simpa only [bind_pure_unit] using h

theorem ensure_macro_buffer_size_proven :
    Appends tripsOf (ViaTransport.ensure_macro_buffer_size :
      DriverM (ViaTransport (Recorder N)) UInt16) (Proven none) := by
  have hquery : Appends tripsOf (do
      let resp ← ViaTransport.roundtrip (frameOf [ID_MACRO_GET_BUFFER_SIZE]) "get_macro_buffer_size"
      ViaTransport.require (validate_echo resp [ID_MACRO_GET_BUFFER_SIZE]
        "command-id echo mismatch on get_macro_buffer_size")
      let size := u16OfBe (byteAt resp 1) (byteAt resp 2)
      modify fun t => { t with macro_buffer_size := some size }
      pure size : DriverM (ViaTransport (Recorder N)) UInt16) (Proven none) :=
    (proven_checked [] [] (by decide) (by decide) (by decide) fun _ _ => rfl).weaken
      fun r trips h hok => ⟨(h hok).1, nofun⟩
  intro t
  rw [ViaTransport.ensure_macro_buffer_size, exec_bind_of_ok (exec_get t)]
  cases t.macro_buffer_size with
  | some size => exact proven_quiet (fun _ => rfl) t
  | none => exact hquery t

/-- An operation with an echo check succeeds only if each of its requests was
echoed. -/
theorem call_proven (op : Operation)
    (hop : ∀ channel value_id data, op ≠ .method (.set_lighting channel value_id data)) :
    Appends tripsOf (op.call : DriverM (ViaTransport (Recorder N)) ViaValue)
      (Proven op.request) := by
  have hquiet : ∀ {γ : Type} (f : Frame → γ) resp t,
      tripsOf (exec (pure (f resp) : DriverM (ViaTransport (Recorder N)) γ) t).2 = tripsOf t :=
    fun f resp t => rfl
  cases op with
  | ensure_macro_buffer_size => exact proven_map _ ensure_macro_buffer_size_proven
  | method op =>
      cases op with
      | get_protocol_version =>
          exact proven_map _ (proven_checked [] [] (by decide) (by decide) (by decide)
            (hquiet _))
      | get_macro_count =>
          exact proven_map _ (proven_checked [] [] (by decide) (by decide) (by decide)
            (hquiet _))
      | get_keycode layer row col =>
          exact proven_map _ (proven_checked [layer, row, col] [] (Nat.le_refl 4)
            (by simp [VIA_FRAME_LEN]) (by decide) (hquiet _))
      | set_keycode layer row col keycode =>
          exact proven_map _ (proven_checked_last
            [layer, row, col, (u16ToBe keycode).1, (u16ToBe keycode).2] []
            (Nat.le_refl 6) (by simp [VIA_FRAME_LEN]) (by decide))
      | get_layer_count =>
          refine proven_map _ (proven_roundtrip ?_ ?_)
          · intro resp t
            split <;> rfl
          · intro resp t hok
            split at hok
            · cases hok
            · rename_i hbyte
              have hhead : byteAt resp 0 = ID_DYNAMIC_KEYMAP_GET_LAYER_COUNT := not_not.1 hbyte
              refine echoed_of_take [] [] (by decide) (by decide) (by decide) ?_
              have hlen : resp.toList.length = VIA_FRAME_LEN := Vector.length_toList
              cases hresp : resp.toList with
              | nil =>
                  rw [hresp] at hlen
                  cases hlen
              | cons b bs =>
                  rw [byteAt, hresp] at hhead
                  simpa using hhead
      | custom_save channel =>
          exact proven_map _ (proven_checked_last [channel] [] (Nat.le_refl 2)
            (by simp [VIA_FRAME_LEN]) (by decide))
      | get_macro_buffer offset length =>
          refine proven_map _ (proven_bind ensure_macro_buffer_size_proven fun size =>
            proven_bind (proven_quiet (require_trips _)) fun _ => ?_)
          exact proven_checked [(u16ToBe offset).1, (u16ToBe offset).2, length] []
            (Nat.le_refl 4) (by simp [VIA_FRAME_LEN]) (by decide) (hquiet _)
      | set_macro_buffer offset data =>
          refine proven_map _ (proven_bind ensure_macro_buffer_size_proven fun size =>
            proven_bind (proven_quiet (require_trips _)) fun _ => ?_)
          exact proven_checked_last
            [(u16ToBe offset).1, (u16ToBe offset).2, UInt8.ofNat data.length] data
            (Nat.le_refl 4) (by simp [VIA_FRAME_LEN]) (by decide)
      | get_lighting channel value_id =>
          exact proven_map _ (proven_checked [channel, value_id] []
            (Nat.le_refl 3) (by simp [VIA_FRAME_LEN]) (by decide) (hquiet _))
      | set_lighting channel value_id data => exact absurd rfl (hop channel value_id data)

omit [HidrawNode N] in
/-- A value that fits a frame is one round trip. -/
theorem set_lighting_eq {M : Type} [HidrawNode M] (channel value_id : UInt8) {data : List UInt8}
    (h : ¬ MAX_LIGHTING_VALUE < data.length) :
    (ViaTransport.set_lighting channel value_id data : DriverM (ViaTransport M) Unit) =
      (fun _ => ()) <$> ViaTransport.roundtrip
        (frameOf (ViaOp.set_lighting channel value_id data).bytes) "set_lighting" := by
  rw [ViaTransport.set_lighting, if_neg h, map_eq_pure_bind]
  rfl

/-- Where the response of a `set_lighting` is an echo. -/
theorem set_lighting_echoed_iff (channel value_id : UInt8) (data : List UInt8)
    (t : ViaTransport (Recorder N)) :
    SuccessEchoed (.method (.set_lighting channel value_id data)) t ↔
      (data.length ≤ MAX_LIGHTING_VALUE → ∀ resp,
        t.Answers (frameOf (ViaOp.set_lighting channel value_id data).bytes) resp →
          Echoed (frameOf (ViaOp.set_lighting channel value_id data).bytes).toList resp.toList) := by
  have hexec : exec (Operation.method (.set_lighting channel value_id data)).call t =
      ((exec (ViaTransport.set_lighting channel value_id data) t).1.map fun _ => .unit,
        (exec (ViaTransport.set_lighting channel value_id data) t).2) := exec_map _ _ t
  by_cases hlen : MAX_LIGHTING_VALUE < data.length
  · have herror : exec (ViaTransport.set_lighting channel value_id data) t = (.error
        (.protocolViolation "lighting value exceeds 29-byte frame capacity"), t) := by
      rw [ViaTransport.set_lighting, if_pos hlen]
      rfl
    refine ⟨fun _ hcon => absurd hcon (by omega), fun _ => ⟨[], ?_, ?_⟩⟩
    · rw [hexec, herror, List.append_nil]
    · rw [hexec, herror]
      nofun
  · obtain ⟨trips, hlog, response, rfl, hresponse⟩ := roundtrip_appends
      (frameOf (ViaOp.set_lighting channel value_id data).bytes) "set_lighting" t
    rw [set_lighting_eq channel value_id hlen, exec_map] at hexec
    dsimp only at hexec
    constructor
    · rintro ⟨trips, hlog', hproven⟩ - resp hanswers
      have hok := (exec_roundtrip_ok_iff _ resp "set_lighting" t).2 hanswers
      rw [hexec] at hlog' hproven
      obtain rfl : trips = _ := List.append_cancel_left (hlog'.symm.trans hlog)
      obtain ⟨resp', hresp', hecho⟩ :=
        (hproven (by rw [hok]; rfl)).1 _ (List.mem_singleton_self _)
      rw [(hresponse resp).1 hok] at hresp'
      cases hresp'
      exact hecho
    · intro hecho
      refine ⟨_, by rw [hexec]; exact hlog, ?_⟩
      rw [hexec]
      intro hok
      obtain ⟨resp, hresp⟩ : ∃ resp, (exec (ViaTransport.roundtrip
          (frameOf (ViaOp.set_lighting channel value_id data).bytes) "set_lighting") t).1 =
            .ok resp := by
        cases h : (exec (ViaTransport.roundtrip
          (frameOf (ViaOp.set_lighting channel value_id data).bytes) "set_lighting") t).1 with
        | ok resp => exact ⟨resp, rfl⟩
        | error e =>
            rw [h] at hok
            cases hok
      have hechoed := hecho (by omega) resp ((exec_roundtrip_ok_iff _ resp _ t).1 hresp)
      refine ⟨?_, ?_⟩
      · intro x hx
        rw [List.mem_singleton] at hx
        subst hx
        exact ⟨resp.toList, (hresponse resp).1 hresp, hechoed⟩
      · intro q hq
        exact ⟨_, List.mem_singleton_self _, congrArg written (Option.some.inj hq)⟩

/-- For every operation, all its arguments, every state of the transport and
whatever the node answers: it reports success on an echo only, exactly if it is
no `set_lighting`, or one that is too long to be sent, or one whose response is an
echo. -/
theorem success_echoed_iff (op : Operation) (t : ViaTransport (Recorder N)) :
    SuccessEchoed op t ↔ ∀ channel value_id data,
      op = .method (.set_lighting channel value_id data) → data.length ≤ MAX_LIGHTING_VALUE →
        ∀ resp, t.Answers (frameOf (ViaOp.set_lighting channel value_id data).bytes) resp →
          Echoed (frameOf (ViaOp.set_lighting channel value_id data).bytes).toList resp.toList := by
  by_cases hop : ∃ channel value_id data, op = .method (.set_lighting channel value_id data)
  · obtain ⟨channel, value_id, data, rfl⟩ := hop
    rw [set_lighting_echoed_iff]
    constructor
    · rintro h channel' value_id' data' ⟨⟩
      exact h
    · intro h
      exact h channel value_id data rfl
  · simp only [not_exists] at hop
    exact ⟨fun _ channel value_id data hcon => absurd hcon (hop channel value_id data),
      fun _ => call_proven op hop t⟩

end Operations

/-- A device that handles no command, at once. -/
def refusingLink : Link := Link.open_ (fun _ => frameOf [id_unhandled]) (fun _ => 0) 0

/-- Its refusal of a lighting value is reported as success. -/
theorem refused_lighting_succeeds :
    ¬ ∀ (op : Operation) (t : ViaTransport (Recorder Link)), SuccessEchoed op t := by
  intro hall
  obtain ⟨trips, hlog, hproven⟩ := hall (.method (.set_lighting 3 1 [128]))
    ⟨⟨refusingLink, []⟩, "hidraw0", DEFAULT_TIMEOUT, none⟩
  have hrun : (exec (Operation.method (.set_lighting 3 1 [128])).call
      (⟨⟨refusingLink, []⟩, "hidraw0", DEFAULT_TIMEOUT, none⟩ : ViaTransport (Recorder Link))).1.isOk
        = true ∧
      (exec (Operation.method (.set_lighting 3 1 [128])).call
        (⟨⟨refusingLink, []⟩, "hidraw0", DEFAULT_TIMEOUT, none⟩ :
          ViaTransport (Recorder Link))).2.node.trips =
        [⟨written (frameOf [ID_LIGHTING_SET_VALUE, 3, 1, 128]),
          some (frameOf [id_unhandled]).toList⟩] := by
    decide +kernel
  rw [hrun.2, List.nil_append] at hlog
  subst hlog
  obtain ⟨resp, hresp, hecho⟩ := (hproven hrun.1).1 _ (List.mem_singleton_self _)
  cases hresp
  exact hecho.handled (head_frameOf id_unhandled [])

end Clackd.Hal.Via
