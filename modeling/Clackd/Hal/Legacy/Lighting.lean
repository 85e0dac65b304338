import Clackd.Hal.Legacy.Bracket

/-!
# Lighting calls on the vendor board

A lighting call computes the lighting it asks for, renders it in a transaction of
five frames, and keeps it once the last of them is taken.  Channel 0 carries all
fields as bytes, channel 3 one of them.

## Main results

* `lookup_congr`, `encode_local`: a channel-3 value moves the bytes of its own field.
* `from_bytes_to_bytes`: the packed payload is a round trip.
* `lighting_replayable`: after every run of calls, whatever the board refused.
-/

namespace Clackd.Hal.Legacy

open Clackd.Foundation Clackd.Hal
open Gmk67Driver (requested_lighting lighting_with_via_value set_lighting get_lighting)

/-! ## The mode frame -/

/-- The mode-frame bytes of a channel-3 value. -/
def fieldBytes (value_id : UInt8) : List Nat :=
  if value_id = VIA_VALUE_BRIGHTNESS then [9]
  else if value_id = VIA_VALUE_EFFECT then [0]
  else if value_id = VIA_VALUE_SPEED then [10]
  else if value_id = VIA_VALUE_COLOR then [1, 2, 3, 8]
  else []

/-- Two tables with the same keys agree at a key whose entries agree. -/
theorem lookup_congr {xs ys : List (Nat × UInt8)} {i : Nat}
    (h : List.Forall₂ (fun x y => x.1 = y.1 ∧ (x.1 = i → x.2 = y.2)) xs ys) :
    xs.lookup i = ys.lookup i := by
  induction h with
  | nil => rfl
  | @cons x y xs ys hxy hrest ih =>
      obtain ⟨k, v⟩ := x
      obtain ⟨k', v'⟩ := y
      obtain rfl : k = k' := hxy.1
      rw [List.lookup_cons, List.lookup_cons, ih]
      by_cases hi : i = k
      · have hv : v = v' := hxy.2 hi.symm
        rw [hv]
      · rw [beq_false_of_ne hi]

/-- Frames built from such tables agree at that byte. -/
theorem byteAt_frameOf_congr {xs ys : List (Nat × UInt8)} {i : Nat}
    (h : List.Forall₂ (fun x y => x.1 = y.1 ∧ (x.1 = i → x.2 = y.2)) xs ys) :
    byteAt (frameOf xs) i = byteAt (frameOf ys) i := by
  by_cases hi : i < FRAME_LEN
  · rw [byteAt_frameOf _ hi, byteAt_frameOf _ hi, lookup_congr h]
  · have hout : ∀ frame : FeatureFrame, byteAt frame i = 0 := by
      intro frame
      rw [byteAt, List.getD_eq_default]
      rw [Vector.length_toList]
      omega
    rw [hout, hout]

/-- The bytes of a mode frame that two lightings share. -/
theorem byteAt_encode {l l' : Lighting} {i : Nat} (hmode : i = 0 → l'.mode = l.mode)
    (hr : i = 1 → l'.r = l.r) (hg : i = 2 → l'.g = l.g) (hb : i = 3 → l'.b = l.b)
    (hrandom : i = 8 → l'.random = l.random) (hbrightness : i = 9 → l'.brightness = l.brightness)
    (hspeed : i = 10 → l'.speed = l.speed) (hdirection : l'.direction = l.direction) :
    byteAt l'.encode i = byteAt l.encode i := by
  apply byteAt_frameOf_congr
  refine .cons ⟨rfl, fun h => hmode h.symm⟩ <| .cons ⟨rfl, fun h => hr h.symm⟩ <|
    .cons ⟨rfl, fun h => hg h.symm⟩ <| .cons ⟨rfl, fun h => hb h.symm⟩ <|
    .cons ⟨rfl, fun h => ?_⟩ <| .cons ⟨rfl, fun h => ?_⟩ <| .cons ⟨rfl, fun h => ?_⟩ <|
    .cons ⟨rfl, fun _ => hdirection⟩ <| .cons ⟨rfl, fun _ => rfl⟩ <|
    .cons ⟨rfl, fun _ => rfl⟩ .nil
  · show (if l'.random then (1 : UInt8) else 0) = if l.random then 1 else 0
    rw [hrandom h.symm]
  · show min (max l'.brightness BRIGHTNESS_MIN) BRIGHTNESS_MAX = _
    rw [hbrightness h.symm]
  · show min l'.speed SPEED_MAX = _
    rw [hspeed h.symm]

/-- A channel-3 value moves no byte of the mode frame outside its own field. -/
theorem encode_local {l l' : Lighting} {value_id : UInt8} {data : List UInt8}
    (h : lighting_with_via_value l value_id data = .ok l') {i : Nat}
    (hi : i ∉ fieldBytes value_id) : byteAt l'.encode i = byteAt l.encode i := by
  unfold lighting_with_via_value at h
  unfold fieldBytes at hi
  split_ifs at h hi with hbrightness heffect hspeed hcolor
  · cases data with
    | nil => cases h
    | cons v data =>
        rw [← Except.ok.inj h]
        exact byteAt_encode (fun _ => rfl) (fun _ => rfl) (fun _ => rfl) (fun _ => rfl)
          (fun _ => rfl) (fun h9 => absurd h9 (by simpa using hi)) (fun _ => rfl) rfl
  · cases data with
    | nil => cases h
    | cons effect data =>
        rw [← Except.ok.inj h]
        exact byteAt_encode (fun h0 => absurd h0 (by simpa using hi)) (fun _ => rfl)
          (fun _ => rfl) (fun _ => rfl) (fun _ => rfl) (fun _ => rfl) (fun _ => rfl) rfl
  · cases data with
    | nil => cases h
    | cons v data =>
        rw [← Except.ok.inj h]
        exact byteAt_encode (fun _ => rfl) (fun _ => rfl) (fun _ => rfl) (fun _ => rfl)
          (fun _ => rfl) (fun _ => rfl) (fun h10 => absurd h10 (by simpa using hi)) rfl
  · match data, h with
    | hue :: sat :: data, h =>
        rw [← Except.ok.inj h]
        simp only [List.mem_cons, List.not_mem_nil, or_false, not_or] at hi
        exact byteAt_encode (fun _ => rfl) (fun h1 => absurd h1 hi.1) (fun h2 => absurd h2 hi.2.1)
          (fun h3 => absurd h3 hi.2.2.1) (fun h8 => absurd h8 hi.2.2.2) (fun _ => rfl)
          (fun _ => rfl) rfl

/-! ## The packed payload -/

/-- Every field goes out and comes back. -/
theorem from_bytes_to_bytes (l : Lighting) : Lighting.from_bytes l.to_bytes = l := by
  obtain ⟨mode, r, g, b, brightness, speed, direction, random⟩ := l
  cases random <;> rfl

/-! ## One call -/

/-- A call of `set_lighting`. -/
structure LightingCall where
  channel : UInt8
  value_id : UInt8
  data : List UInt8
  deriving DecidableEq, Repr

section Calls

variable {I Text : Type} [Gmk67Io I] [SerdeJson Text]

/-- Run a call. -/
def LightingCall.run (call : LightingCall) : DriverM (Gmk67Driver I Text) Unit :=
  set_lighting call.channel call.value_id call.data

/-- How a call ends: what was asked for was invalid or refused, and the driver but
for the board is as it was, or it was rendered and is kept. -/
inductive LightingEnds (d : Gmk67Driver (Tap I) Text) (call : LightingCall) : Prop
  | failed (e : DriverError) (io : Tap I) (h : exec call.run d = (.error e, { d with io := io }))
  | rendered (lighting : Lighting) (io : Tap I) (disk : Disk Text)
      (hrequested : requested_lighting d.lighting call.channel call.value_id call.data =
        .ok lighting)
      (hsent : io.attempts = d.io.attempts ++ taken (render_frames lighting))
      (h : exec call.run d = (.ok (), { d with
        io := io
        lighting := lighting
        shadow := d.shadow.set_lighting lighting.to_lighting_state
        disk := disk }))

/-- A valid call attempts the transaction of what it asks for, aborted if it is cut
short. -/
theorem lighting_series (d : Gmk67Driver (Tap I) Text) (call : LightingCall) {lighting : Lighting}
    (hrequested : requested_lighting d.lighting call.channel call.value_id call.data =
      .ok lighting) :
    ∃ ws, (exec call.run d).2.io.attempts = d.io.attempts ++ ws ∧
      Series [render_frames lighting] (exec call.run d).1 ws := by
  obtain ⟨ws, hlog, hseries⟩ := appends_render lighting d.io
  rcases hrender : exec (render_effect lighting) d.io with ⟨e | ⟨⟩, io⟩
  · rw [hrender] at hlog hseries
    have hcall : exec call.run d = (.error e, { d with io := io }) :=
      Gmk67Driver.set_lighting_refused hrequested hrender
    rw [hcall]
    exact ⟨ws, hlog, hseries⟩
  · rw [hrender] at hlog hseries
    have hcall := Gmk67Driver.set_lighting_rendered hrequested hrender
    rw [show call.run = set_lighting call.channel call.value_id call.data from rfl, hcall]
    exact ⟨ws, hlog, hseries⟩

theorem lighting_ends (d : Gmk67Driver (Tap I) Text) (call : LightingCall) :
    LightingEnds d call := by
  cases hrequested : requested_lighting d.lighting call.channel call.value_id call.data with
  | error e => exact .failed e d.io (Gmk67Driver.set_lighting_invalid hrequested)
  | ok lighting =>
      obtain ⟨ws, hlog, hseries⟩ := lighting_series d call hrequested
      rcases hrender : exec (render_effect lighting) d.io with ⟨e | ⟨⟩, io⟩
      · exact .failed e io (Gmk67Driver.set_lighting_refused hrequested hrender)
      · have hcall := Gmk67Driver.set_lighting_rendered hrequested hrender
        rw [show call.run = set_lighting call.channel call.value_id call.data from rfl, hcall]
          at hlog hseries
        have hws : ws = taken (render_frames lighting) := by
          rcases hseries with ⟨a, -, hws⟩ | ⟨e, done, frames, rest, cut, b, hcon, -⟩
          · simpa using hws
          · cases hcon
        exact .rendered lighting io _ hrequested (by rw [← hws]; exact hlog) hcall

/-- What is asked of every call. -/
structure Atomic (d : Gmk67Driver (Tap I) Text) (call : LightingCall) : Prop where
  err : ∀ e, (exec call.run d).1 = .error e →
    (exec call.run d).2.lighting = d.lighting ∧
    (exec call.run d).2.shadow.lighting = d.shadow.lighting ∧
    ∀ channel value_id, (exec (get_lighting channel value_id) (exec call.run d).2).1 =
      (exec (get_lighting channel value_id) d).1
  ok : (exec call.run d).1 = .ok () →
    ((exec call.run d).2.lighting.encode, true) ∈
      (exec call.run d).2.io.attempts.drop d.io.attempts.length ∧
    (exec call.run d).2.shadow.lighting = (exec call.run d).2.lighting.to_lighting_state
  field : (exec call.run d).1 = .ok () → call.channel = VIA_CHANNEL_RGB_MATRIX →
    ∀ i, i ∉ fieldBytes call.value_id →
      byteAt (exec call.run d).2.lighting.encode i = byteAt d.lighting.encode i

omit [Gmk67Io I] [SerdeJson Text] in
/-- The answers depend on the lighting alone. -/
theorem get_lighting_congr {d d' : Gmk67Driver (Tap I) Text} (h : d'.lighting = d.lighting)
    (channel value_id : UInt8) : (exec (get_lighting channel value_id) d').1 =
      (exec (get_lighting channel value_id) d).1 := by
  unfold get_lighting
  rw [exec_bind_of_ok (exec_get d'), exec_bind_of_ok (exec_get d), h]
  split_ifs <;> rfl

theorem atomic (d : Gmk67Driver (Tap I) Text) (call : LightingCall) : Atomic d call := by
  cases lighting_ends d call with
  | failed e io h =>
      constructor
      · intro e' _
        rw [h]
        exact ⟨rfl, rfl, get_lighting_congr rfl⟩
      · intro hok
        rw [h] at hok
        cases hok
      · intro hok
        rw [h] at hok
        cases hok
  | rendered lighting io disk hrequested hsent h =>
      constructor
      · intro e herror
        rw [h] at herror
        cases herror
      · intro _
        rw [h]
        refine ⟨?_, rfl⟩
        show (lighting.encode, true) ∈ io.attempts.drop d.io.attempts.length
        rw [hsent, List.drop_left, mem_taken]
        exact ⟨rfl, by simp [render_frames]⟩
      · intro _ hchannel i hi
        rw [h]
        have hvalue : lighting_with_via_value d.lighting call.value_id call.data = .ok lighting := by
          unfold requested_lighting at hrequested
          rw [hchannel, if_neg (by decide), if_pos rfl] at hrequested
          cases hpatched : lighting_with_via_value d.lighting call.value_id call.data with
          | error e =>
              rw [hpatched] at hrequested
              cases hrequested
          | ok patched =>
              rw [hpatched] at hrequested
              dsimp only at hrequested
              split_ifs at hrequested
              exact hrequested
        exact encode_local hvalue hi

/-! ## Runs -/

/-- The driver, and the mode frame of the last call that succeeded. -/
structure Shown (I Text : Type) where
  driver : Gmk67Driver (Tap I) Text
  frame : Option FeatureFrame

/-- One call: if it succeeds, its third frame is the mode frame. -/
def Shown.call (s : Shown I Text) (call : LightingCall) : Shown I Text where
  driver := (exec call.run s.driver).2
  frame :=
    match (exec call.run s.driver).1 with
    | .ok () => ((exec call.run s.driver).2.io.attempts.drop
        s.driver.io.attempts.length)[2]?.map (·.1)
    | .error _ => s.frame

/-- A run of calls on a driver. -/
def Shown.after (d : Gmk67Driver (Tap I) Text) (calls : List LightingCall) : Shown I Text :=
  calls.foldl Shown.call ⟨d, none⟩

/-- What is asked once a call has succeeded: the packed payload reads, and sending
it back attempts the transaction of that mode frame and leaves the lighting. -/
structure Replayable (s : Shown I Text) : Prop where
  shows : ∀ frame, s.frame = some frame → frame = s.driver.lighting.encode ∧
    s.driver.shadow.lighting = s.driver.lighting.to_lighting_state
  replay : s.frame.isSome = true → ∀ value_id value_id', ∃ data,
    exec (get_lighting VIA_CHANNEL_PACKED value_id) s.driver = (.ok data, s.driver) ∧
    (exec (LightingCall.run ⟨VIA_CHANNEL_PACKED, value_id', data⟩) s.driver).2.lighting =
      s.driver.lighting ∧
    (exec (LightingCall.run ⟨VIA_CHANNEL_PACKED, value_id', data⟩) s.driver).2.shadow.lighting =
      s.driver.shadow.lighting ∧
    ∃ ws, (exec (LightingCall.run ⟨VIA_CHANNEL_PACKED, value_id', data⟩) s.driver).2.io.attempts =
        s.driver.io.attempts ++ ws ∧
      Series [render_frames s.driver.lighting]
        (exec (LightingCall.run ⟨VIA_CHANNEL_PACKED, value_id', data⟩) s.driver).1 ws

/-- What a call that succeeded leaves for all later ones. -/
structure Lit (s : Shown I Text) : Prop where
  frame : ∀ frame, s.frame = some frame → frame = s.driver.lighting.encode
  shadow : s.frame.isSome = true →
    s.driver.shadow.lighting = s.driver.lighting.to_lighting_state
  mode : s.frame.isSome = true → is_renderable_mode s.driver.lighting.mode = true

/-- What is asked for can be rendered. -/
theorem requested_renderable {l lighting : Lighting} {channel value_id : UInt8}
    {data : List UInt8} (h : requested_lighting l channel value_id data = .ok lighting) :
    is_renderable_mode lighting.mode = true := by
  unfold requested_lighting at h
  dsimp only at h
  split at h
  · split_ifs at h with hmode
    rw [← Except.ok.inj h]
    exact hmode
  · cases h

/-- The packed payload of a lighting that can be rendered asks for it. -/
theorem requested_packed {l l' : Lighting} (h : is_renderable_mode l.mode = true)
    (value_id : UInt8) :
    requested_lighting l' VIA_CHANNEL_PACKED value_id l.to_bytes = .ok l := by
  unfold requested_lighting
  dsimp only
  rw [if_pos rfl, from_bytes_to_bytes]
  dsimp only
  rw [if_pos h]

theorem lit_call {s : Shown I Text} (h : Lit s) (call : LightingCall) : Lit (s.call call) := by
  unfold Shown.call
  cases lighting_ends s.driver call with
  | failed e io hcall =>
      rw [hcall]
      exact ⟨h.frame, h.shadow, h.mode⟩
  | rendered lighting io disk hrequested hsent hcall =>
      have hframe : (io.attempts.drop s.driver.io.attempts.length)[2]?.map (·.1) =
          some lighting.encode := by
        rw [hsent, List.drop_left]
        rfl
      rw [hcall]
      constructor
      · intro frame hsome
        dsimp only at hsome
        rw [hframe] at hsome
        exact (Option.some.inj hsome).symm
      · exact fun _ => rfl
      · exact fun _ => requested_renderable hrequested

theorem lit_after (d : Gmk67Driver (Tap I) Text) (calls : List LightingCall) :
    Lit (Shown.after d calls) := by
  induction calls using List.reverseRecOn with
  | nil => exact ⟨nofun, nofun, nofun⟩
  | append_singleton calls call ih =>
      rw [Shown.after, List.foldl_append]
      exact lit_call ih call

theorem replayable_of_lit {s : Shown I Text} (h : Lit s) : Replayable s := by
  constructor
  · intro frame hframe
    exact ⟨h.frame frame hframe, h.shadow (by rw [hframe]; rfl)⟩
  · intro hsome value_id value_id'
    refine ⟨s.driver.lighting.to_bytes, rfl, ?_⟩
    have hrequested : requested_lighting s.driver.lighting VIA_CHANNEL_PACKED value_id'
        s.driver.lighting.to_bytes = .ok s.driver.lighting := requested_packed (h.mode hsome) _
    obtain ⟨ws, hlog, hseries⟩ := lighting_series s.driver
      ⟨VIA_CHANNEL_PACKED, value_id', s.driver.lighting.to_bytes⟩ hrequested
    refine ⟨?_, ?_, ws, hlog, hseries⟩
    · cases lighting_ends s.driver ⟨VIA_CHANNEL_PACKED, value_id', s.driver.lighting.to_bytes⟩ with
      | failed e io hcall => rw [hcall]
      | rendered lighting io disk hrendered hsent hcall =>
          rw [hrequested] at hrendered
          rw [hcall, Except.ok.inj hrendered]
    · cases lighting_ends s.driver ⟨VIA_CHANNEL_PACKED, value_id', s.driver.lighting.to_bytes⟩ with
      | failed e io hcall => rw [hcall]
      | rendered lighting io disk hrendered hsent hcall =>
          rw [hrequested] at hrendered
          rw [hcall, ← Except.ok.inj hrendered, h.shadow hsome]
          rfl

/-- After every run of calls, whatever the board refused in it: the next call is
atomic and local to its field, and once a call has succeeded the lighting is the one
of its mode frame and can be replayed. -/
theorem lighting_replayable (d : Gmk67Driver (Tap I) Text) (calls : List LightingCall) :
    (∀ call, Atomic (Shown.after d calls).driver call) ∧ Replayable (Shown.after d calls) :=
  ⟨fun call => atomic _ call, replayable_of_lit (lit_after d calls)⟩

end Calls

end Clackd.Hal.Legacy
