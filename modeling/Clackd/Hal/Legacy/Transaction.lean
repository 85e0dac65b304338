import Clackd.Hal.Legacy.Keydef

/-!
# Transactions and what they leave of the driver

Both pushes of the driver are one program, `transact`, over their list of
frames.  A transaction succeeds exactly if the board accepts its frames in
order.  On top of it stands one equation for each way an operation of the
driver can end, which is what the run-level results use.

## Main results

* `render_effect_frames_eq`, `commit_keymap_frames_eq`: the two pushes.
* `exec_transact_ok_iff`: when a transaction succeeds.
* `commit_of_clean`, `commit_of_pushed`, `commit_of_refused`: the three ends of
  `commit_to_nvram`, and likewise for the other operations.
-/

namespace Clackd.Hal.Legacy

open Clackd.Foundation Clackd.Hal

section Transact

variable {I : Type} [Gmk67Io I]

/-- Send frames, pacing all but the last by a read. -/
def transact : List FeatureFrame → DriverM I Unit
  | [] => pure ()
  | [frame] => Gmk67Io.set_feature frame
  | frame :: next :: frames => do
      Gmk67Io.set_feature frame
      read_ack
      transact (next :: frames)

/-- The board accepts these frames in order. -/
def FramesAccepted : List FeatureFrame → I → Prop
  | [], _ => True
  | [frame], io => (exec (Gmk67Io.set_feature frame) io).1 = .ok ()
  | frame :: next :: frames, io =>
      (exec (Gmk67Io.set_feature frame) io).1 = .ok () ∧
        FramesAccepted (next :: frames)
          (exec read_ack (exec (Gmk67Io.set_feature frame) io).2).2

/-- A paced read never fails. -/
theorem exec_read_ack (io : I) :
    exec (read_ack : DriverM I Unit) io = (.ok (), (exec (Gmk67Io.get_feature REPORT_ID) io).2) :=
  rfl

/-- A transaction succeeds exactly if its frames are accepted. -/
theorem exec_transact_ok_iff (frames : List FeatureFrame) (io : I) :
    (exec (transact frames) io).1 = .ok () ↔ FramesAccepted frames io := by
  induction frames generalizing io with
  | nil => exact ⟨fun _ => trivial, fun _ => rfl⟩
  | cons frame frames ih =>
      cases frames with
      | nil => exact Iff.rfl
      | cons next frames =>
          rw [transact, FramesAccepted, exec_bind]
          rcases h : exec (Gmk67Io.set_feature frame) io with ⟨_ | _, io'⟩
          · constructor
            · intro hcon
              cases hcon
            · rintro ⟨hcon, -⟩
              cases hcon
          · dsimp only
            rw [exec_bind_of_ok (exec_read_ack io'), exec_read_ack, ih]
            exact (and_iff_right rfl).symm

/-- A page loop followed by more frames is a transaction. -/
theorem write_pages_bind (buf : List UInt8) (ps : List Nat) (next : FeatureFrame)
    (frames : List FeatureFrame) :
    (do write_pages buf ps; transact (next :: frames) : DriverM I Unit) =
      transact (ps.map (pageOf buf) ++ next :: frames) := by
  induction ps with
  | nil =>
      rw [write_pages, pure_bind]
      rfl
  | cons p ps ih =>
      have hcons : transact ((p :: ps).map (pageOf buf) ++ next :: frames) =
          (do Gmk67Io.set_feature (pageOf buf p); read_ack
              transact (ps.map (pageOf buf) ++ next :: frames) : DriverM I Unit) := by
        cases ps <;> rfl
      rw [hcons, ← ih, write_pages]
      simp only [bind_assoc]

/-- The frames of a render transaction. -/
def render_frames (lighting : Lighting) : List FeatureFrame :=
  [encode_cmd CMD_TURN_ON_CUSTOMIZATION, encode_start_effect_page, lighting.encode,
    encode_cmd CMD_COMMUNICATION_END, encode_cmd CMD_LED_EFFECT_START]

theorem render_effect_frames_eq (lighting : Lighting) :
    (render_effect_frames lighting : DriverM I Unit) = transact (render_frames lighting) := rfl

/-- The frames of a key-definition transaction. -/
def keydef_frames (command : UInt8) (entries : List (UInt8 × UInt16)) : List FeatureFrame :=
  encode_cmd CMD_TURN_ON_CUSTOMIZATION :: encode_start_keydef_page command ::
    (keydef_pages (encode_keydef_buffer entries) ++
      [encode_cmd CMD_COMMUNICATION_END, encode_cmd CMD_LED_EFFECT_START])

theorem commit_keymap_frames_eq (command : UInt8) (entries : List (UInt8 × UInt16)) :
    (commit_keymap_frames command entries : DriverM I Unit) =
      transact (keydef_frames command entries) := by
  have hpages := write_pages_bind (I := I) (encode_keydef_buffer entries)
    (List.range KEY_DEF_PAGES) (encode_cmd CMD_COMMUNICATION_END)
    [encode_cmd CMD_LED_EFFECT_START]
  change (do
    Gmk67Io.set_feature (encode_cmd CMD_TURN_ON_CUSTOMIZATION)
    read_ack
    Gmk67Io.set_feature (encode_start_keydef_page command)
    read_ack
    write_pages (encode_keydef_buffer entries) (List.range KEY_DEF_PAGES)
    transact [encode_cmd CMD_COMMUNICATION_END, encode_cmd CMD_LED_EFFECT_START] :
      DriverM I Unit) = _
  rw [hpages]
  rfl

/-- A transaction with an abort succeeds exactly if the transaction does, and
then sends nothing more. -/
theorem exec_with_abort_of_ok {x : DriverM I Unit} {io io' : I}
    (h : exec x io = (.ok (), io')) : exec (with_abort x) io = (.ok (), io') := by
  rw [with_abort, exec_bind, exec_attempt, h]
  rfl

theorem exec_with_abort_of_error {x : DriverM I Unit} {io io' : I} {e : DriverError}
    (h : exec x io = (.error e, io')) :
    exec (with_abort x) io = (.error e, (exec abort_transaction io').2) := by
  rw [with_abort, exec_bind, exec_attempt, h]
  rfl

theorem exec_with_abort_ok_iff (x : DriverM I Unit) (io : I) :
    (exec (with_abort x) io).1 = .ok () ↔ (exec x io).1 = .ok () := by
  rcases h : exec x io with ⟨e | _, io'⟩
  · rw [exec_with_abort_of_error h]
  · rw [exec_with_abort_of_ok h]

/-- A render succeeds exactly if the board accepts its frames. -/
theorem exec_render_effect_ok_iff (lighting : Lighting) (io : I) :
    (exec (render_effect lighting) io).1 = .ok () ↔
      FramesAccepted (render_frames lighting) io := by
  rw [render_effect, exec_with_abort_ok_iff, render_effect_frames_eq, exec_transact_ok_iff]

end Transact

/-! ## How an operation of the driver ends -/

namespace Gmk67Driver

variable {I Text : Type} [Gmk67Io I] [SerdeJson Text] {d : Gmk67Driver I Text}

/-- A position the driver accepts an edit at. -/
def Physical (k : Slot) : Prop :=
  (keydef_command k.1).isSome ∧ (key_index_for k.2.1 k.2.2).isSome

instance (k : Slot) : Decidable (Physical k) := inferInstanceAs (Decidable (_ ∧ _))

omit [Gmk67Io I] [SerdeJson Text] in
theorem set_keycode_accepted {layer row col : UInt8} (h : Physical (layer, row, col))
    (keycode : UInt16) :
    exec (set_keycode layer row col keycode) d =
      (.ok (), { d with shadow := d.shadow.set_keycode layer row col keycode }) := by
  obtain ⟨hlayer, hkey⟩ := h
  unfold set_keycode
  rw [Option.isNone_eq_false_iff.2 hlayer, Option.isNone_eq_false_iff.2 hkey]
  rfl

omit [Gmk67Io I] [SerdeJson Text] in
theorem set_keycode_refused {layer row col : UInt8} (h : ¬ Physical (layer, row, col))
    (keycode : UInt16) :
    ∃ e, exec (set_keycode layer row col keycode) d = (.error e, d) := by
  unfold set_keycode
  by_cases hlayer : (keydef_command layer).isNone = true
  · rw [if_pos hlayer]
    exact ⟨_, rfl⟩
  · rw [if_neg hlayer]
    by_cases hkey : (key_index_for row col).isNone = true
    · rw [if_pos hkey]
      exact ⟨_, rfl⟩
    · refine absurd ⟨?_, ?_⟩ h
      · exact Option.isNone_eq_false_iff.1 (Bool.eq_false_iff.2 hlayer)
      · exact Option.isNone_eq_false_iff.1 (Bool.eq_false_iff.2 hkey)

/-- The push of a commit. -/
def push (d : Gmk67Driver I Text) : Except DriverError Unit × I :=
  exec (push_dirty_layers d.shadow.prepare_commit d.shadow.dirty_layers) d.io

omit [SerdeJson Text] in
/-- The push, seen from the driver. -/
theorem exec_push {r : Except DriverError Unit} {io : I} (hpush : d.push = (r, io)) :
    exec (attempt (onIo (push_dirty_layers d.shadow.prepare_commit d.shadow.dirty_layers)))
        { d with shadow := d.shadow.prepare_commit } =
      (.ok r, { d with io := io, shadow := d.shadow.prepare_commit }) := by
  rw [push] at hpush
  rw [exec_attempt, onIo, exec_zoom]
  dsimp only
  rw [hpush]

theorem commit_of_clean (h : d.shadow.is_dirty = false) :
    exec commit_to_nvram d = (.ok (), d) := by
  rw [commit_to_nvram, exec_bind_of_ok (exec_get d), h]
  rfl

theorem commit_of_pushed (h : d.shadow.is_dirty = true) {io : I} (hpush : d.push = (.ok (), io)) :
    exec commit_to_nvram d = (.ok (), { d with
      io := io
      shadow := (d.shadow.prepare_commit.confirm_commit d.disk).1
      disk := (d.shadow.prepare_commit.confirm_commit d.disk).2 }) := by
  rw [commit_to_nvram, exec_bind_of_ok (exec_get d), h]
  simp only [Bool.not_true, Bool.false_eq_true, if_false]
  rw [exec_bind_of_ok (exec_modify _ _), exec_bind_of_ok (exec_get _)]
  exact exec_bind_of_ok (exec_push hpush)

theorem commit_of_refused (h : d.shadow.is_dirty = true) {e : DriverError} {io : I}
    (hpush : d.push = (.error e, io)) :
    exec commit_to_nvram d = (.error e, { d with
      io := io
      shadow := d.shadow.rollback }) := by
  rw [commit_to_nvram, exec_bind_of_ok (exec_get d), h]
  simp only [Bool.not_true, Bool.false_eq_true, if_false]
  rw [exec_bind_of_ok (exec_modify _ _), exec_bind_of_ok (exec_get _)]
  exact exec_bind_of_ok (exec_push hpush)

theorem set_lighting_invalid {channel value_id : UInt8} {data : List UInt8} {e : DriverError}
    (h : requested_lighting d.lighting channel value_id data = .error e) :
    exec (set_lighting channel value_id data) d = (.error e, d) := by
  rw [set_lighting, exec_bind_of_ok (exec_get d), h]
  rfl

theorem set_lighting_refused {channel value_id : UInt8} {data : List UInt8}
    {lighting : Lighting} {e : DriverError} {io : I}
    (h : requested_lighting d.lighting channel value_id data = .ok lighting)
    (hrender : exec (render_effect lighting) d.io = (.error e, io)) :
    exec (set_lighting channel value_id data) d = (.error e, { d with io := io }) := by
  rw [set_lighting, exec_bind_of_ok (exec_get d), h]
  simp only
  have hio : exec (onIo (render_effect lighting)) d = (.error e, { d with io := io }) := by
    rw [onIo, exec_zoom, hrender]
  rw [exec_bind_of_error hio]

theorem set_lighting_rendered {channel value_id : UInt8} {data : List UInt8}
    {lighting : Lighting} {io : I}
    (h : requested_lighting d.lighting channel value_id data = .ok lighting)
    (hrender : exec (render_effect lighting) d.io = (.ok (), io)) :
    exec (set_lighting channel value_id data) d = (.ok (), { d with
      io := io
      lighting := lighting
      shadow := d.shadow.set_lighting lighting.to_lighting_state
      disk := (d.shadow.set_lighting lighting.to_lighting_state).persist_lighting d.disk }) := by
  rw [set_lighting, exec_bind_of_ok (exec_get d), h]
  simp only
  have hio : exec (onIo (render_effect lighting)) d = (.ok (), { d with io := io }) := by
    rw [onIo, exec_zoom, hrender]
  rw [exec_bind_of_ok hio]
  rfl

/-- The attach-time read. -/
def read_back (d : Gmk67Driver I Text) : Except DriverError Keymap × I :=
  exec (read_layers ∅ ((List.range d.layers.toNat).map UInt8.ofNat)) d.io

/-- The attach-time sync is due. -/
def SyncDue (d : Gmk67Driver I Text) : Prop := d.sync_on_attach = true ∧ d.synced = false

omit [Gmk67Io I] [SerdeJson Text] in
/-- The guard of the sync, as the code tests it. -/
theorem syncDue_iff : SyncDue d ↔ ¬ (!d.sync_on_attach || d.synced) = true := by
  unfold SyncDue
  cases d.sync_on_attach <;> cases d.synced <;> simp

theorem get_matrix_dimensions_again (h : ¬ SyncDue d) :
    exec get_matrix_dimensions d = (.ok d.matrix, d) := by
  rw [get_matrix_dimensions, maybe_sync_on_attach, exec_bind,
    exec_bind_of_ok (exec_get d), if_pos (not_not.1 fun hn => h (syncDue_iff.2 hn))]
  rfl

theorem get_matrix_dimensions_adopts (h : SyncDue d) {entries : Keymap} {io : I}
    (hread : d.read_back = (.ok entries, io)) :
    exec get_matrix_dimensions d = (.ok d.matrix, { d with
      io := io
      synced := true
      shadow := (d.shadow.adopt_confirmed entries d.disk).1
      disk := (d.shadow.adopt_confirmed entries d.disk).2 }) := by
  rw [get_matrix_dimensions, maybe_sync_on_attach, exec_bind,
    exec_bind_of_ok (exec_get d), if_neg (syncDue_iff.1 h)]
  have hsync : exec sync_eeprom { d with synced := true } = (.ok (), { d with
      io := io
      synced := true
      shadow := (d.shadow.adopt_confirmed entries d.disk).1
      disk := (d.shadow.adopt_confirmed entries d.disk).2 }) := by
    have hio : exec (onIo (read_layers ∅ ((List.range d.layers.toNat).map UInt8.ofNat)))
        { d with synced := true } = (.ok entries, { d with synced := true, io := io }) := by
      rw [onIo, exec_zoom]
      change (d.read_back.1, { d with synced := true, io := d.read_back.2 }) = _
      rw [hread]
    rw [sync_eeprom, exec_bind_of_ok (exec_get _), exec_bind_of_ok hio]
    rfl
  rw [exec_bind_of_ok (exec_modify _ _), exec_bind, exec_attempt, hsync]
  rfl

theorem get_matrix_dimensions_keeps (h : SyncDue d) {e : DriverError} {io : I}
    (hread : d.read_back = (.error e, io)) :
    exec get_matrix_dimensions d = (.ok d.matrix, { d with io := io, synced := true }) := by
  rw [get_matrix_dimensions, maybe_sync_on_attach, exec_bind,
    exec_bind_of_ok (exec_get d), if_neg (syncDue_iff.1 h)]
  have hsync : exec sync_eeprom { d with synced := true } =
      (.error e, { d with io := io, synced := true }) := by
    have hio : exec (onIo (read_layers ∅ ((List.range d.layers.toNat).map UInt8.ofNat)))
        { d with synced := true } = (.error e, { d with synced := true, io := io }) := by
      rw [onIo, exec_zoom]
      change (d.read_back.1, { d with synced := true, io := d.read_back.2 }) = _
      rw [hread]
    rw [sync_eeprom, exec_bind_of_ok (exec_get _), exec_bind_of_error hio]
  rw [exec_bind_of_ok (exec_modify _ _), exec_bind, exec_attempt, hsync]
  rfl

end Gmk67Driver

end Clackd.Hal.Legacy
