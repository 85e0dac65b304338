import Clackd.Hal.Legacy.Persistence

/-!
# Two boards, one file

The file a driver saves to is named after the vendor and product id of its board,
so two boards of one model share it, while each driver keeps a shadow of its own.
A save writes the saving driver's whole keymap; whatever the other one saved before
is gone, and shows so once both are created anew.

## Main results

* `load_save`: what the file reads after a save.
* `own_keymap_step`: one call keeps the file good for both drivers exactly if it
  saves nothing that either of them would not read back as its own.
* `own_keymap_iff`: the same for whole runs of both.
-/

namespace Clackd.Hal.Legacy

open Clackd.Foundation Clackd.Hal
open Std (ExtTreeMap)

/-- What `new` names the shadow file after: `{vid:04x}_{pid:04x}`. -/
def persist_id : String := "05ac_024f"

/-- The shadow file of every driver, in the data directory the platform reports. -/
def shadow_path (data_dir : Option String) : Option String :=
  resolve_data_path data_dir persist_id

/-- The two drivers. -/
inductive Side where
  | first
  | second
  deriving DecidableEq, Repr

/-- A call on one of the drivers. -/
inductive TwinOp where
  | set_keycode (layer row col : UInt8) (keycode : UInt16)
  | set_lighting (channel value_id : UInt8) (data : List UInt8)
  | commit_to_nvram
  deriving DecidableEq, Repr

/-- Two attached drivers and the file system they share.  Each driver works on it
while it is called. -/
structure Twins (I Text : Type) where
  disk : Disk Text
  driver : Side → Gmk67Driver I Text
  /-- The keymap of each board's last successful commit, or the loaded one. -/
  committed : Side → Keymap

namespace Twins

variable {I Text : Type} [Gmk67Io I] [SerdeJson Text]

/-- The driver of a side, on the shared file system. -/
def on (t : Twins I Text) (side : Side) : Gmk67Driver I Text :=
  { t.driver side with disk := t.disk }

/-- Call an operation: whether it returns `Ok`, and the driver it leaves. -/
def call (d : Gmk67Driver I Text) : TwinOp → Bool × Gmk67Driver I Text
  | .set_keycode layer row col keycode =>
      let r := exec (Gmk67Driver.set_keycode layer row col keycode) d
      (r.1.isOk, r.2)
  | .set_lighting channel value_id data =>
      let r := exec (Gmk67Driver.set_lighting channel value_id data) d
      (r.1.isOk, r.2)
  | .commit_to_nvram =>
      let r := exec Gmk67Driver.commit_to_nvram d
      (r.1.isOk, r.2)

/-- One call.  A commit that succeeds makes the driver's keymap its board's. -/
def step (t : Twins I Text) (move : Side × TwinOp) : Option (Twins I Text) :=
  let r := call (t.on move.1) move.2
  some {
    disk := r.2.disk
    driver := Function.update t.driver move.1 r.2
    committed :=
      if move.2 = .commit_to_nvram ∧ r.1 = true then
        Function.update t.committed move.1 r.2.shadow.keymap
      else t.committed }

/-- Two drivers as `new` attaches them to two open nodes. -/
def attach (io : Side → I) (disk : Disk Text) (data_dir : Option String)
    (matrix : Side → UInt8 × UInt8) (layers : Side → UInt8) : Twins I Text where
  disk := disk
  driver side := Gmk67Driver.new (io side) disk (shadow_path data_dir) (matrix side)
    (layers side) false
  committed _ := (ShadowState.load (shadow_path data_dir) disk.files).keymap

/-- The driver of a side, created anew without a sync. -/
def recreated (t : Twins I Text) (data_dir : Option String) (side : Side) :
    Gmk67Driver I Text :=
  Gmk67Driver.new (t.driver side).io t.disk (shadow_path data_dir) (t.driver side).matrix
    (t.driver side).layers false

/-- Created anew, each driver reads its own board's last committed keymap. -/
def ReadsOwn (data_dir : Option String) (t : Twins I Text) : Prop :=
  ∀ (side : Side) (layer row col : UInt8),
    (exec (Gmk67Driver.get_keycode layer row col) (t.recreated data_dir side)).1 =
      .ok ((t.committed side)[((layer, row, col) : Slot)]?.getD 0)

/-- Two keymaps read alike. -/
def Alike (m m' : Keymap) : Prop := ∀ k : Slot, m[k]?.getD 0 = m'[k]?.getD 0

/-- A save reaches the file. -/
def Lands (data_path : Option String) (disk : Disk Text) : Prop :=
  data_path.isSome = true ∧ disk.Sound

/-- What a call saves reads like the committed keymaps of both boards, where the
caller's own is the one it is about to commit; and a commit whose save is lost
changes nothing that is read. -/
def SavesAlike (data_dir : Option String) (t : Twins I Text) : Side × TwinOp → Prop
  | (side, .set_lighting channel value_id data) =>
      ∀ lighting, Gmk67Driver.requested_lighting (t.driver side).lighting channel value_id data =
          .ok lighting →
        FramesAccepted (render_frames lighting) (t.driver side).io →
          Lands (shadow_path data_dir) t.disk →
            ∀ side', Alike (t.driver side).shadow.keymap (t.committed side')
  | (side, .commit_to_nvram) =>
      (t.driver side).shadow.is_dirty = true → (t.driver side).push.1 = .ok () →
        (Lands (shadow_path data_dir) t.disk →
          ∀ side', side' ≠ side → Alike (t.driver side).shadow.keymap (t.committed side')) ∧
        (¬ Lands (shadow_path data_dir) t.disk →
          Alike (t.driver side).shadow.keymap (t.committed side))
  | (_, .set_keycode _ _ _ _) => True

/-- What every call keeps. -/
structure Kept (data_path : Option String) (t : Twins I Text) : Prop where
  tracked : ∀ side, (t.driver side).shadow.Tracked
  confirmed : ∀ side, (t.driver side).shadow.confirmed = t.committed side
  data_path : ∀ side, (t.driver side).shadow.data_path = data_path

/-! ## The file -/

omit [Gmk67Io I] in
/-- What is read back after a save: the shadow's keymap if the save reaches the
file, otherwise what was read before. -/
theorem load_save (s : ShadowState) (disk : Disk Text) :
    (Lands s.data_path disk →
      (ShadowState.load s.data_path (s.save disk).files).keymap = s.keymap) ∧
    (¬ Lands s.data_path disk →
      (ShadowState.load s.data_path (s.save disk).files).keymap =
        (ShadowState.load s.data_path disk.files).keymap) := by
  cases hpath : s.data_path with
  | none =>
      refine ⟨fun h => ?_, fun _ => ?_⟩
      · simp [Lands] at h
      · rw [ShadowState.save, hpath]
  | some path =>
      obtain ⟨text, hprint, hread⟩ : ∃ text : Text,
          SerdeJson.to_string_pretty s.to_file = .ok text ∧
            ShadowState.read_shadow (some text) = (s.keymap, s.lighting) :=
        ShadowState.read_shadow_to_file s
      have hsave : s.save disk =
          (exec (Storage.replace (tmp_path path) path text) disk).2 := by
        rw [ShadowState.save, hpath]
        simp only [hprint]
      obtain ⟨hlands, hlost⟩ :=
        Storage.replace_files (ShadowState.tmp_path_ne path) text disk
      rw [hsave]
      constructor
      · rintro ⟨-, hsound⟩
        show (ShadowState.read_shadow _).1 = _
        rw [hlands hsound, hread]
      · intro hnot
        show (ShadowState.read_shadow _).1 = (ShadowState.read_shadow _).1
        rw [hlost fun hsound => hnot ⟨rfl, hsound⟩]

omit [Gmk67Io I] in
/-- Both drivers read their own keymap exactly if the file reads like both. -/
theorem readsOwn_iff (data_dir : Option String) (t : Twins I Text) :
    ReadsOwn data_dir t ↔ ∀ side,
      Alike (ShadowState.load (shadow_path data_dir) t.disk.files).keymap (t.committed side) := by
  constructor
  · intro h side k
    exact Except.ok.inj (h side k.1 k.2.1 k.2.2)
  · intro h side layer row col
    show Except.ok
      ((ShadowState.load (shadow_path data_dir) t.disk.files).keymap[_]?.getD 0) = _
    rw [h side]

/-! ## One call -/

/-- How a call ends: nothing is saved or committed, the lighting is saved with the
keymap as it stands, or that keymap is committed and saved. -/
inductive CallEnds (data_dir : Option String) (t : Twins I Text) (move : Side × TwinOp)
    (t' : Twins I Text) : Prop
  | silent (hdisk : t'.disk = t.disk) (hcommitted : t'.committed = t.committed)
      (halike : SavesAlike data_dir t move)
  | lit (shadow : ShadowState) (hpath : shadow.data_path = shadow_path data_dir)
      (hkeymap : shadow.keymap = (t.driver move.1).shadow.keymap)
      (hdisk : t'.disk = shadow.save t.disk) (hcommitted : t'.committed = t.committed)
      (halike : SavesAlike data_dir t move ↔ (Lands (shadow_path data_dir) t.disk →
        ∀ side, Alike (t.driver move.1).shadow.keymap (t.committed side)))
  | pushed (shadow : ShadowState) (hpath : shadow.data_path = shadow_path data_dir)
      (hkeymap : shadow.keymap = (t.driver move.1).shadow.keymap)
      (hdisk : t'.disk = shadow.save t.disk)
      (hcommitted : t'.committed =
        Function.update t.committed move.1 (t.driver move.1).shadow.keymap)
      (halike : SavesAlike data_dir t move ↔
        (Lands (shadow_path data_dir) t.disk → ∀ side, side ≠ move.1 →
          Alike (t.driver move.1).shadow.keymap (t.committed side)) ∧
        (¬ Lands (shadow_path data_dir) t.disk →
          Alike (t.driver move.1).shadow.keymap (t.committed move.1)))

omit [Gmk67Io I] [SerdeJson Text] in
/-- The invariant after one driver moves. -/
theorem Kept.update {data_path : Option String} {t : Twins I Text} (h : Kept data_path t)
    (side : Side) (disk : Disk Text) {d : Gmk67Driver I Text} {keymap : Keymap}
    (htracked : d.shadow.Tracked) (hconfirmed : d.shadow.confirmed = keymap)
    (hpath : d.shadow.data_path = data_path) :
    Kept data_path ⟨disk, Function.update t.driver side d,
      Function.update t.committed side keymap⟩ := by
  refine ⟨?_, ?_, ?_⟩ <;> intro side' <;> by_cases hside : side' = side
  · subst hside
    simpa using htracked
  · simpa [hside] using h.tracked side'
  · subst hside
    simpa using hconfirmed
  · simpa [hside] using h.confirmed side'
  · subst hside
    simpa using hpath
  · simpa [hside] using h.data_path side'

omit [Gmk67Io I] [SerdeJson Text] in
/-- The same if its board's committed keymap stays. -/
theorem Kept.update_driver {data_path : Option String} {t : Twins I Text}
    (h : Kept data_path t) (side : Side) (disk : Disk Text) {d : Gmk67Driver I Text}
    (htracked : d.shadow.Tracked) (hconfirmed : d.shadow.confirmed = t.committed side)
    (hpath : d.shadow.data_path = data_path) :
    Kept data_path ⟨disk, Function.update t.driver side d, t.committed⟩ := by
  have hkept := h.update side disk htracked hconfirmed hpath
  rwa [Function.update_eq_self] at hkept

theorem call_ends {data_dir : Option String} {t t' : Twins I Text} {move : Side × TwinOp}
    (h : Kept (shadow_path data_dir) t) (hstep : t.step move = some t') :
    Kept (shadow_path data_dir) t' ∧ CallEnds data_dir t move t' := by
  obtain ⟨side, op⟩ := move
  have htracked := h.tracked side
  have hconfirmed := h.confirmed side
  have hpath := h.data_path side
  cases op with
  | set_keycode layer row col keycode =>
      simp only [step, reduceCtorEq, false_and, if_false, Option.some.injEq] at hstep
      subst hstep
      by_cases hphysical : Gmk67Driver.Physical (layer, row, col)
      · simp only [call, Gmk67Driver.set_keycode_accepted hphysical]
        exact ⟨h.update_driver side _ (htracked.set_keycode layer row col keycode) hconfirmed hpath,
          .silent rfl rfl trivial⟩
      · obtain ⟨e, hrefused⟩ := Gmk67Driver.set_keycode_refused (d := t.on side) hphysical keycode
        simp only [call, hrefused]
        exact ⟨h.update_driver side _ htracked hconfirmed hpath, .silent rfl rfl trivial⟩
  | set_lighting channel value_id data =>
      simp only [step, reduceCtorEq, false_and, if_false, Option.some.injEq] at hstep
      subst hstep
      cases hrequest : Gmk67Driver.requested_lighting (t.on side).lighting channel value_id data with
      | error e =>
          simp only [call, Gmk67Driver.set_lighting_invalid hrequest]
          refine ⟨h.update_driver side _ htracked hconfirmed hpath, .silent rfl rfl ?_⟩
          intro lighting hcon
          rw [show Gmk67Driver.requested_lighting (t.driver side).lighting channel value_id data =
            .error e from hrequest] at hcon
          cases hcon
      | ok lighting =>
          rcases hrender : exec (render_effect lighting) (t.on side).io with ⟨e | _, io⟩
          · simp only [call, Gmk67Driver.set_lighting_refused hrequest hrender]
            refine ⟨h.update_driver side _ htracked hconfirmed hpath, .silent rfl rfl ?_⟩
            intro lighting' hrequest' hframes
            rw [show Gmk67Driver.requested_lighting (t.driver side).lighting channel value_id data =
              .ok lighting from hrequest] at hrequest'
            cases hrequest'
            have hok := (exec_render_effect_ok_iff lighting (t.on side).io).2 hframes
            rw [hrender] at hok
            cases hok
          · have hframes := (exec_render_effect_ok_iff lighting (t.on side).io).1 (by rw [hrender])
            simp only [call, Gmk67Driver.set_lighting_rendered hrequest hrender]
            refine ⟨h.update_driver side _ (htracked.set_lighting _) hconfirmed hpath,
              .lit ((t.driver side).shadow.set_lighting lighting.to_lighting_state) hpath rfl rfl
                rfl ?_⟩
            constructor
            · intro hall
              exact hall lighting hrequest hframes
            · intro hall _ _ _
              exact hall
  | commit_to_nvram =>
      simp only [step, Option.some.injEq] at hstep
      subst hstep
      cases hdirty : (t.on side).shadow.is_dirty with
      | false =>
          have hclean : (t.driver side).shadow.dirty.isEmpty = true := by
            simpa [ShadowState.is_dirty, on] using hdirty
          have hkeymap : (t.driver side).shadow.keymap = t.committed side :=
            (htracked.keymap_eq hclean).trans hconfirmed
          have hsame : Function.update t.committed side (t.on side).shadow.keymap = t.committed := by
            show Function.update t.committed side (t.driver side).shadow.keymap = _
            rw [hkeymap, Function.update_eq_self]
          simp only [call, Gmk67Driver.commit_of_clean hdirty, Except.isOk, Except.toBool, and_self,
            if_true, hsame]
          refine ⟨h.update_driver side _ htracked hconfirmed hpath, .silent rfl rfl ?_⟩
          intro hcon
          rw [show (t.driver side).shadow.is_dirty = false from hdirty] at hcon
          cases hcon
      | true =>
          rcases hpush : (t.on side).push with ⟨e | _, io⟩
          · simp only [call, Gmk67Driver.commit_of_refused hdirty hpush, Except.isOk, Except.toBool,
              Bool.false_eq_true, and_false, if_false]
            refine ⟨h.update_driver side _ (ShadowState.tracked_rollback _) hconfirmed hpath,
              .silent rfl rfl ?_⟩
            intro _ hcon
            rw [show (t.driver side).push.1 = .error e from congrArg Prod.fst hpush] at hcon
            cases hcon
          · simp only [call, Gmk67Driver.commit_of_pushed hdirty hpush, Except.isOk, Except.toBool,
              and_self, if_true]
            refine ⟨h.update side _ (ShadowState.tracked_confirm_commit _ t.disk) rfl hpath,
              .pushed ((t.driver side).shadow.prepare_commit.confirm_commit t.disk).1 hpath rfl rfl
                rfl ?_⟩
            constructor
            · intro hall
              exact hall hdirty (congrArg Prod.fst hpush)
            · intro hall _ _
              exact hall

/-- One call leaves the file good for both drivers exactly if what it saves reads
like what both of them have committed. -/
theorem own_keymap_step (data_dir : Option String) (t : Twins I Text) (move : Side × TwinOp)
    (t' : Twins I Text) (h : Kept (shadow_path data_dir) t) (hown : ReadsOwn data_dir t)
    (hstep : t.step move = some t') : ReadsOwn data_dir t' ↔ SavesAlike data_dir t move := by
  have hfile := (readsOwn_iff data_dir t).1 hown
  rw [readsOwn_iff]
  cases (call_ends h hstep).2 with
  | silent hdisk hcommitted halike =>
      rw [hdisk, hcommitted]
      exact ⟨fun _ => halike, fun _ => hfile⟩
  | lit shadow hpath hkeymap hdisk hcommitted halike =>
      have hload := load_save shadow t.disk
      rw [hpath] at hload
      rw [hdisk, hcommitted, halike]
      by_cases hlands : Lands (shadow_path data_dir) t.disk
      · rw [hload.1 hlands, hkeymap]
        exact ⟨fun hall _ => hall, fun hall => hall hlands⟩
      · rw [hload.2 hlands]
        exact ⟨fun _ hcon => absurd hcon hlands, fun _ => hfile⟩
  | pushed shadow hpath hkeymap hdisk hcommitted halike =>
      have hload := load_save shadow t.disk
      rw [hpath] at hload
      rw [hdisk, hcommitted, halike]
      by_cases hlands : Lands (shadow_path data_dir) t.disk
      · rw [hload.1 hlands, hkeymap]
        constructor
        · intro hall
          refine ⟨fun _ side hside => ?_, fun hcon => absurd hlands hcon⟩
          simpa [hside] using hall side
        · intro hall side
          by_cases hside : side = move.1
          · subst hside
            intro k
            simp
          · simpa [hside] using hall.1 hlands side hside
      · rw [hload.2 hlands]
        constructor
        · intro hall
          refine ⟨fun hcon => absurd hcon hlands, fun _ k => ?_⟩
          have hk := hall move.1 k
          rw [Function.update_self] at hk
          rw [← hk]
          exact hfile move.1 k
        · intro hall side k
          by_cases hside : side = move.1
          · subst hside
            rw [Function.update_self, hfile move.1 k]
            exact (hall.2 hlands k).symm
          · rw [Function.update_of_ne hside]
            exact hfile side k

omit [Gmk67Io I] in
theorem kept_attach (io : Side → I) (disk : Disk Text) (data_dir : Option String)
    (matrix : Side → UInt8 × UInt8) (layers : Side → UInt8) :
    Kept (shadow_path data_dir) (attach io disk data_dir matrix layers) where
  tracked := fun _ => ShadowState.tracked_load (shadow_path data_dir) disk.files
  confirmed := fun _ => rfl
  data_path := fun _ => rfl

/-- For any two boards, any file system, and any interleaving of calls on their
drivers: both drivers, created anew, read their own board's last committed keymap
throughout exactly if every save reads like the committed keymaps of both. -/
theorem own_keymap_iff (io : Side → I) (disk : Disk Text) (data_dir : Option String)
    (matrix : Side → UInt8 × UInt8) (layers : Side → UInt8) (moves : List (Side × TwinOp)) :
    Always step (ReadsOwn data_dir) (attach io disk data_dir matrix layers) moves ↔
      EveryStep step (SavesAlike data_dir) (attach io disk data_dir matrix layers) moves := by
  refine always_iff_everyStep (J := Kept (shadow_path data_dir))
    (fun t move t' h hstep => (call_ends h hstep).1) (own_keymap_step data_dir) moves
    (kept_attach io disk data_dir matrix layers) ?_
  rw [readsOwn_iff]
  exact fun _ _ => rfl

/-- Two factory boards and an empty file system. -/
def twins : Twins Board ShadowFile :=
  attach (fun _ => Gmk67Driver.factoryBoard fun _ => none)
    ⟨fun _ => none, fun _ => none, 0, fun _ => [], []⟩ (some "data") (fun _ => (5, 15)) (fun _ => 2)

/-- Each board gets one key and a commit. -/
def twinRun : List (Side × TwinOp) :=
  [(.first, .set_keycode 0 0 0 4), (.first, .commit_to_nvram), (.second, .set_keycode 0 0 1 5),
    (.second, .commit_to_nvram)]

/-- The second commit writes a file without the first board's key. -/
theorem second_save_wins : ¬ Always step (ReadsOwn (some "data")) twins twinRun := by
  intro h
  have hend : (run step twins twinRun).map (fun t =>
      ((t.recreated (some "data") .first).shadow.get_keycode 0 0 0,
        (t.committed .first)[((0, 0, 0) : Slot)]?)) = some (0, some 4) := by
    decide +kernel
  obtain ⟨t, hrun, heq⟩ := Option.map_eq_some_iff.1 hend
  obtain ⟨hread, hcommitted⟩ := Prod.mk.inj heq
  have hcon : (t.recreated (some "data") .first).shadow.get_keycode 0 0 0 =
      (t.committed .first)[((0, 0, 0) : Slot)]?.getD 0 := Except.ok.inj (h.last hrun .first 0 0 0)
  rw [hcommitted, hread] at hcon
  cases hcon

end Twins

end Clackd.Hal.Legacy
