import Clackd.Hal.Legacy.Board

/-!
# What the shadow file holds

`save` writes the whole shadow and has three callers.  After a commit and after
an adopt the shadow's keymap is the confirmed one, so the file holds it.  After
a `set_lighting` the shadow's keymap is whatever the host has edited so far,
and the edits are on disk before they are committed; a later commit that fails
rolls the shadow back and leaves the file.

`Journal` runs the driver next to the keymap a restart is owed: that of the last
successful commit, adopt or load.  After each operation it also keeps every
state the disk passed through, which is what a process death can leave.

## Main results

* `owed_step`: one operation keeps the file at what a restart is owed exactly if
  it is not a `set_lighting` that the board accepts while an edit is pending.
* `shadow_file_iff`: the same for whole runs, on any board and with any codec.
-/

namespace Clackd.Hal.Legacy

open Clackd.Foundation Clackd.Hal
open Std (ExtTreeMap)

/-- An operation of the run. -/
inductive ShadowOp where
  | set_keycode (layer row col : UInt8) (keycode : UInt16)
  | set_lighting (channel value_id : UInt8) (data : List UInt8)
  | commit_to_nvram
  | get_matrix_dimensions
  deriving DecidableEq, Repr

/-- The driver with what a restart is owed. -/
structure Journal (I Text : Type) where
  driver : Gmk67Driver I Text
  /-- The keymap of the last successful commit, adopt or load. -/
  owed : Keymap
  /-- The same before the last operation. -/
  before : Keymap
  /-- The states the disk passed through in the last operation, its end included. -/
  passed : List (String → Option Text)

namespace Journal

variable {I Text : Type} [Gmk67Io I] [SerdeJson Text]

/-- Call an operation. -/
def call (d : Gmk67Driver I Text) : ShadowOp → Gmk67Driver I Text
  | .set_keycode layer row col keycode =>
      (exec (Gmk67Driver.set_keycode layer row col keycode) d).2
  | .set_lighting channel value_id data =>
      (exec (Gmk67Driver.set_lighting channel value_id data) d).2
  | .commit_to_nvram => (exec Gmk67Driver.commit_to_nvram d).2
  | .get_matrix_dimensions => (exec Gmk67Driver.get_matrix_dimensions d).2

/-- What a restart is owed after an operation: a commit that succeeds and a
sync that reads every layer set it anew. -/
def owedAfter (j : Journal I Text) : ShadowOp → Keymap
  | .commit_to_nvram =>
      match (exec Gmk67Driver.commit_to_nvram j.driver).1 with
      | .ok () => (exec Gmk67Driver.commit_to_nvram j.driver).2.shadow.keymap
      | .error _ => j.owed
  | .get_matrix_dimensions =>
      if j.driver.sync_on_attach && !j.driver.synced then
        match j.driver.read_back.1 with
        | .ok entries => entries
        | .error _ => j.owed
      else
        j.owed
  | .set_keycode _ _ _ _ => j.owed
  | .set_lighting _ _ _ => j.owed

/-- One operation, recorded. -/
def step (j : Journal I Text) (op : ShadowOp) : Option (Journal I Text) :=
  some {
    driver := call j.driver op
    owed := j.owedAfter op
    before := j.owed
    passed := (call j.driver op).disk.past.drop j.driver.disk.past.length ++
      [(call j.driver op).disk.files] }

/-- A driver as it is attached. -/
def attach (io : I) (disk : Disk Text) (path : String) (matrix : UInt8 × UInt8)
    (layers : UInt8) (sync_on_attach : Bool) : Journal I Text where
  driver := Gmk67Driver.new io disk (some path) matrix layers sync_on_attach
  owed := (ShadowState.load (some path) disk.files).keymap
  before := (ShadowState.load (some path) disk.files).keymap
  passed := [disk.files]

/-- The file reads back as what is owed, and at every point of the last
operation as what is owed after it or before it. -/
def FileConfirmed (path : String) (j : Journal I Text) : Prop :=
  (ShadowState.load (some path) j.driver.disk.files).keymap = j.owed ∧
    ∀ files ∈ j.passed,
      (ShadowState.load (some path) files).keymap = j.owed ∨
        (ShadowState.load (some path) files).keymap = j.before

/-- If the operation is a `set_lighting` whose frames the board accepts, the
shadow has no edit that is not committed. -/
def LightingWhileClean (j : Journal I Text) : ShadowOp → Prop
  | .set_lighting channel value_id data =>
      ∀ lighting, Gmk67Driver.requested_lighting j.driver.lighting channel value_id data =
          .ok lighting →
        FramesAccepted (render_frames lighting) j.driver.io →
          j.driver.shadow.keymap = j.owed
  | _ => True

/-- What every operation keeps. -/
structure Owes (path : String) (j : Journal I Text) : Prop where
  tracked : j.driver.shadow.Tracked
  confirmed : j.driver.shadow.confirmed = j.owed
  data_path : j.driver.shadow.data_path = some path
  fault : ∀ n, j.driver.disk.fault n = none

/-! ## How an operation ends -/

/-- The ends of an operation that matter to the file: it is not touched, it is
saved with a keymap, or it is saved with the shadow of a `set_lighting`. -/
inductive Ends (j : Journal I Text) (op : ShadowOp) : Prop
  | untouched (hdisk : (call j.driver op).disk = j.driver.disk)
      (howed : j.owedAfter op = j.owed) (hclean : LightingWhileClean j op)
  | saved (shadow : ShadowState) (hpath : shadow.data_path = j.driver.shadow.data_path)
      (hdisk : (call j.driver op).disk = shadow.save j.driver.disk)
      (howed : j.owedAfter op = shadow.keymap) (hclean : LightingWhileClean j op)
  | lit (shadow : ShadowState) (hpath : shadow.data_path = j.driver.shadow.data_path)
      (hdisk : (call j.driver op).disk = shadow.save j.driver.disk)
      (howed : j.owedAfter op = j.owed) (hkeymap : shadow.keymap = j.driver.shadow.keymap)
      (hclean : LightingWhileClean j op ↔ j.driver.shadow.keymap = j.owed)

/-- What an operation leaves. -/
structure Leaves (j : Journal I Text) (op : ShadowOp) : Prop where
  tracked : (call j.driver op).shadow.Tracked
  confirmed : (call j.driver op).shadow.confirmed = j.owedAfter op
  data_path : (call j.driver op).shadow.data_path = j.driver.shadow.data_path
  ends : Ends j op

section Ends

variable {path : String} {j : Journal I Text}

/-- An operation that changes neither the shadow nor the disk. -/
theorem Leaves.of_kept {op : ShadowOp} (h : Owes path j)
    (hshadow : (call j.driver op).shadow = j.driver.shadow)
    (hdisk : (call j.driver op).disk = j.driver.disk) (howed : j.owedAfter op = j.owed)
    (hclean : LightingWhileClean j op) : Leaves j op := by
  refine ⟨?_, ?_, ?_, .untouched hdisk howed hclean⟩
  · rw [hshadow]
    exact h.tracked
  · rw [hshadow, howed]
    exact h.confirmed
  · rw [hshadow]

theorem set_keycode_leaves (h : Owes path j) (layer row col : UInt8) (keycode : UInt16) :
    Leaves j (.set_keycode layer row col keycode) := by
  by_cases hphysical : Gmk67Driver.Physical (layer, row, col)
  · have hcall : call j.driver (.set_keycode layer row col keycode) =
        { j.driver with shadow := j.driver.shadow.set_keycode layer row col keycode } :=
      congrArg Prod.snd (Gmk67Driver.set_keycode_accepted hphysical keycode)
    refine ⟨?_, ?_, ?_, .untouched (by rw [hcall]) rfl trivial⟩
    · rw [hcall]
      exact h.tracked.set_keycode layer row col keycode
    · rw [hcall]
      exact h.confirmed
    · rw [hcall]
      rfl
  · obtain ⟨e, hrefused⟩ := Gmk67Driver.set_keycode_refused (d := j.driver) hphysical keycode
    have hcall : call j.driver (.set_keycode layer row col keycode) = j.driver :=
      congrArg Prod.snd hrefused
    exact Leaves.of_kept h (by rw [hcall]) (by rw [hcall]) rfl trivial

theorem set_lighting_leaves (h : Owes path j) (channel value_id : UInt8) (data : List UInt8) :
    Leaves j (.set_lighting channel value_id data) := by
  cases hrequest : Gmk67Driver.requested_lighting j.driver.lighting channel value_id data with
  | error e =>
      have hcall : call j.driver (.set_lighting channel value_id data) = j.driver :=
        congrArg Prod.snd (Gmk67Driver.set_lighting_invalid hrequest)
      refine Leaves.of_kept h (by rw [hcall]) (by rw [hcall]) rfl ?_
      intro lighting hcon
      rw [hrequest] at hcon
      cases hcon
  | ok lighting =>
      rcases hrender : exec (render_effect lighting) j.driver.io with ⟨e | _, io⟩
      · have hcall : call j.driver (.set_lighting channel value_id data) =
            { j.driver with io := io } :=
          congrArg Prod.snd (Gmk67Driver.set_lighting_refused hrequest hrender)
        refine Leaves.of_kept h (by rw [hcall]) (by rw [hcall]) rfl ?_
        intro lighting' hrequest' hframes
        rw [hrequest] at hrequest'
        cases hrequest'
        have hok := (exec_render_effect_ok_iff lighting j.driver.io).2 hframes
        rw [hrender] at hok
        cases hok
      · have hframes := (exec_render_effect_ok_iff lighting j.driver.io).1 (by rw [hrender])
        have hcall : call j.driver (.set_lighting channel value_id data) = _ :=
          congrArg Prod.snd (Gmk67Driver.set_lighting_rendered hrequest hrender)
        have hclean : LightingWhileClean j (.set_lighting channel value_id data) ↔
            j.driver.shadow.keymap = j.owed := by
          constructor
          · intro hall
            exact hall lighting hrequest hframes
          · intro heq _ _ _
            exact heq
        refine ⟨?_, ?_, ?_, .lit (j.driver.shadow.set_lighting lighting.to_lighting_state) rfl
          (by rw [hcall]; rfl) rfl rfl hclean⟩
        · rw [hcall]
          exact h.tracked.set_lighting _
        · rw [hcall]
          exact h.confirmed
        · rw [hcall]
          rfl

theorem commit_to_nvram_leaves (h : Owes path j) : Leaves j .commit_to_nvram := by
  cases hdirty : j.driver.shadow.is_dirty with
  | false =>
      have hexec := Gmk67Driver.commit_of_clean hdirty
      have hcall : call j.driver .commit_to_nvram = j.driver := congrArg Prod.snd hexec
      have hclean : j.driver.shadow.dirty.isEmpty = true := by
        rw [ShadowState.is_dirty, Bool.not_eq_false'] at hdirty
        exact hdirty
      have howed : j.owedAfter .commit_to_nvram = j.owed := by
        rw [owedAfter, hexec]
        exact (h.tracked.keymap_eq hclean).trans h.confirmed
      exact Leaves.of_kept h (by rw [hcall]) (by rw [hcall]) howed trivial
  | true =>
      rcases hpush : j.driver.push with ⟨e | _, io⟩
      · have hexec := Gmk67Driver.commit_of_refused hdirty hpush
        have hcall : call j.driver .commit_to_nvram = _ := congrArg Prod.snd hexec
        have howed : j.owedAfter .commit_to_nvram = j.owed := by rw [owedAfter, hexec]
        refine ⟨?_, ?_, ?_, .untouched (by rw [hcall]) howed trivial⟩
        · rw [hcall]
          exact ShadowState.tracked_rollback _
        · rw [hcall, howed]
          exact h.confirmed
        · rw [hcall]
          rfl
      · have hexec := Gmk67Driver.commit_of_pushed hdirty hpush
        have hcall : call j.driver .commit_to_nvram = _ := congrArg Prod.snd hexec
        have howed : j.owedAfter .commit_to_nvram = j.driver.shadow.keymap := by
          rw [owedAfter, hexec]
          rfl
        refine ⟨?_, ?_, ?_, .saved
          (j.driver.shadow.prepare_commit.confirm_commit j.driver.disk).1 rfl
          (by rw [hcall]; rfl) howed trivial⟩
        · rw [hcall]
          exact ShadowState.tracked_confirm_commit _ j.driver.disk
        · rw [hcall, howed]
          rfl
        · rw [hcall]
          rfl

theorem get_matrix_dimensions_leaves (h : Owes path j) : Leaves j .get_matrix_dimensions := by
  by_cases hdue : j.driver.SyncDue
  · have hflag : (j.driver.sync_on_attach && !j.driver.synced) = true := by
      rw [hdue.1, hdue.2]
      rfl
    rcases hread : j.driver.read_back with ⟨e | entries, io⟩
    · have hexec := Gmk67Driver.get_matrix_dimensions_keeps hdue hread
      have hcall : call j.driver .get_matrix_dimensions = _ := congrArg Prod.snd hexec
      have howed : j.owedAfter .get_matrix_dimensions = j.owed := by
        rw [owedAfter, if_pos hflag, hread]
      exact Leaves.of_kept h (by rw [hcall]) (by rw [hcall]) howed trivial
    · have hexec := Gmk67Driver.get_matrix_dimensions_adopts hdue hread
      have hcall : call j.driver .get_matrix_dimensions = _ := congrArg Prod.snd hexec
      have howed : j.owedAfter .get_matrix_dimensions = entries := by
        rw [owedAfter, if_pos hflag, hread]
      refine ⟨?_, ?_, ?_, .saved (j.driver.shadow.adopt_confirmed entries j.driver.disk).1 rfl
        (by rw [hcall]; rfl) howed trivial⟩
      · rw [hcall]
        exact ShadowState.tracked_adopt_confirmed _ _ j.driver.disk
      · rw [hcall, howed]
        rfl
      · rw [hcall]
        rfl
  · have hflag : ¬ (j.driver.sync_on_attach && !j.driver.synced) = true := by
      intro hcon
      rw [Bool.and_eq_true, Bool.not_eq_true'] at hcon
      exact hdue hcon
    have hexec := Gmk67Driver.get_matrix_dimensions_again hdue
    have hcall : call j.driver .get_matrix_dimensions = j.driver := congrArg Prod.snd hexec
    have howed : j.owedAfter .get_matrix_dimensions = j.owed := by
      rw [owedAfter, if_neg hflag]
    exact Leaves.of_kept h (by rw [hcall]) (by rw [hcall]) howed trivial

theorem call_leaves (h : Owes path j) (op : ShadowOp) : Leaves j op := by
  cases op with
  | set_keycode layer row col keycode => exact set_keycode_leaves h layer row col keycode
  | set_lighting channel value_id data => exact set_lighting_leaves h channel value_id data
  | commit_to_nvram => exact commit_to_nvram_leaves h
  | get_matrix_dimensions => exact get_matrix_dimensions_leaves h

end Ends

/-! ## One operation -/

/-- A save by an operation leaves the disk sound, reading as the saved shadow,
and on the way as before or as the saved shadow. -/
theorem saved_spec {path : String} {j : Journal I Text} {op : ShadowOp} {shadow : ShadowState}
    (h : Owes path j) (hpath : shadow.data_path = some path)
    (hdisk : (call j.driver op).disk = shadow.save j.driver.disk) :
    (∀ n, (call j.driver op).disk.fault n = none) ∧
      (ShadowState.load (some path) (call j.driver op).disk.files).keymap = shadow.keymap ∧
      ∀ files ∈ (call j.driver op).disk.past.drop j.driver.disk.past.length,
        (ShadowState.load (some path) files).keymap =
            (ShadowState.load (some path) j.driver.disk.files).keymap ∨
          (ShadowState.load (some path) files).keymap = shadow.keymap := by
  obtain ⟨hfault, ⟨states, hpast, hstates⟩, hfinal⟩ :=
    ShadowState.save_spec shadow hpath j.driver.disk
  rw [hdisk]
  refine ⟨?_, congrArg Prod.fst (hfinal h.fault), ?_⟩
  · intro n
    rw [hfault]
    exact h.fault n
  · intro files hfiles
    rw [hpast, List.drop_left] at hfiles
    rcases hstates files hfiles with hold | hnew
    · exact .inl (congrArg Prod.fst hold)
    · exact .inr (congrArg Prod.fst hnew)

theorem owes_step {path : String} (j : Journal I Text) (op : ShadowOp) (j' : Journal I Text)
    (h : Owes path j) (hstep : j.step op = some j') : Owes path j' := by
  injection hstep with hstep
  subst hstep
  have hleaves := call_leaves h op
  refine ⟨hleaves.tracked, hleaves.confirmed, hleaves.data_path.trans h.data_path, ?_⟩
  change ∀ n, (call j.driver op).disk.fault n = none
  cases hleaves.ends with
  | untouched hdisk _ _ =>
      rw [hdisk]
      exact h.fault
  | saved shadow hpath hdisk _ _ => exact (saved_spec h (hpath.trans h.data_path) hdisk).1
  | lit shadow hpath hdisk _ _ _ => exact (saved_spec h (hpath.trans h.data_path) hdisk).1

/-- An operation that does not touch the file leaves it at what is owed. -/
theorem fileConfirmed_of_untouched {path : String} {j : Journal I Text} {op : ShadowOp}
    (h : FileConfirmed path j) (hdisk : (call j.driver op).disk = j.driver.disk)
    (howed : j.owedAfter op = j.owed) {j' : Journal I Text} (hstep : j.step op = some j') :
    FileConfirmed path j' := by
  injection hstep with hstep
  subst hstep
  have hend : (ShadowState.load (some path) (call j.driver op).disk.files).keymap =
      j.owedAfter op := by
    rw [hdisk, howed]
    exact h.1
  refine ⟨hend, ?_⟩
  intro files hfiles
  change files ∈ (call j.driver op).disk.past.drop j.driver.disk.past.length ++
    [(call j.driver op).disk.files] at hfiles
  rw [hdisk, List.drop_length, List.nil_append] at hfiles
  rw [List.mem_singleton.1 hfiles, ← hdisk]
  exact .inl hend

/-- An operation that saves a shadow leaves the file at what is owed exactly if
that is the shadow's keymap. -/
theorem fileConfirmed_of_saved {path : String} {j : Journal I Text} {op : ShadowOp}
    {shadow : ShadowState} (h : Owes path j) (hfile : FileConfirmed path j)
    (hpath : shadow.data_path = some path)
    (hdisk : (call j.driver op).disk = shadow.save j.driver.disk) {j' : Journal I Text}
    (hstep : j.step op = some j') :
    FileConfirmed path j' ↔ shadow.keymap = j.owedAfter op := by
  injection hstep with hstep
  subst hstep
  obtain ⟨-, hend, hpast⟩ := saved_spec h hpath hdisk
  constructor
  · intro hnew
    exact hend.symm.trans hnew.1
  · intro howed
    refine ⟨hend.trans howed, ?_⟩
    intro files hfiles
    rcases List.mem_append.1 hfiles with hfiles | hfiles
    · rcases hpast files hfiles with hold | hnew
      · exact .inr (hold.trans hfile.1)
      · exact .inl (hnew.trans howed)
    · rw [List.mem_singleton.1 hfiles]
      exact .inl (hend.trans howed)

/-- One operation keeps the file at what a restart is owed exactly if it is not
a `set_lighting` that the board accepts while an edit is pending. -/
theorem owed_step {path : String} (j : Journal I Text) (op : ShadowOp) (j' : Journal I Text)
    (h : Owes path j) (hfile : FileConfirmed path j) (hstep : j.step op = some j') :
    FileConfirmed path j' ↔ LightingWhileClean j op := by
  cases (call_leaves h op).ends with
  | untouched hdisk howed hclean =>
      exact ⟨fun _ => hclean, fun _ => fileConfirmed_of_untouched hfile hdisk howed hstep⟩
  | saved shadow hpath hdisk howed hclean =>
      rw [fileConfirmed_of_saved h hfile (hpath.trans h.data_path) hdisk hstep]
      exact ⟨fun _ => hclean, fun _ => howed.symm⟩
  | lit shadow hpath hdisk howed hkeymap hclean =>
      rw [fileConfirmed_of_saved h hfile (hpath.trans h.data_path) hdisk hstep, hclean,
        hkeymap, howed]

/-! ## Whole runs -/

/-- Over any run of edits, lighting changes, commits and attach-time syncs, on
any board, with any codec and wherever the process dies: the file reads back as
the keymap of the last successful commit, adopt or load throughout exactly if
no `set_lighting` is accepted by the board while an edit is pending. -/
theorem shadow_file_iff (io : I) (disk : Disk Text) (path : String) (matrix : UInt8 × UInt8)
    (layers : UInt8) (sync_on_attach : Bool) (ops : List ShadowOp)
    (hfault : ∀ n, disk.fault n = none) :
    Always step (FileConfirmed path) (attach io disk path matrix layers sync_on_attach) ops ↔
      EveryStep step LightingWhileClean
        (attach io disk path matrix layers sync_on_attach) ops := by
  refine always_iff_everyStep owes_step owed_step ops ?_ ?_
  · exact ⟨ShadowState.tracked_load (some path) disk.files, rfl, rfl, hfault⟩
  · refine ⟨rfl, ?_⟩
    intro files hfiles
    rw [List.mem_singleton.1 hfiles]
    exact .inl rfl

/-- An edit, and a static white that the board renders. -/
def litEditRun : List ShadowOp := [.set_keycode 0 0 0 4, .set_lighting 0 0 [1]]

/-- An empty disk that does what it is asked. -/
def emptyDisk : Disk ShadowFile := ⟨fun _ => none, fun _ => none, 0, fun _ => [], []⟩

/-- The run on a factory board. -/
theorem shadow_file_iff_factory :
    Always step (FileConfirmed "gmk67.json")
        (attach (Gmk67Driver.factoryBoard fun _ => none) emptyDisk "gmk67.json" (5, 15) 2 false)
        litEditRun ↔
      EveryStep step LightingWhileClean
        (attach (Gmk67Driver.factoryBoard fun _ => none) emptyDisk "gmk67.json" (5, 15) 2 false)
        litEditRun :=
  shadow_file_iff _ emptyDisk "gmk67.json" (5, 15) 2 false litEditRun fun _ => rfl

/-- After the lighting change the file holds the edit, and nothing was
committed. -/
theorem lighting_persists_edit :
    ¬ Always step (FileConfirmed "gmk67.json")
      (attach (Gmk67Driver.factoryBoard fun _ => none) emptyDisk "gmk67.json" (5, 15) 2 false)
      litEditRun := by
  intro h
  obtain ⟨j, hrun, hfile, howed⟩ : ∃ j,
      run step (attach (Gmk67Driver.factoryBoard fun _ => none) emptyDisk "gmk67.json" (5, 15) 2
        false) litEditRun = some j ∧
      (ShadowState.load (some "gmk67.json") j.driver.disk.files).keymap[((0, 0, 0) : Slot)]? =
        some 4 ∧
      j.owed[((0, 0, 0) : Slot)]? = none := by
    refine ⟨_, rfl, ?_, ?_⟩
    · decide +kernel
    · decide +kernel
  rw [(h.last hrun).1, howed] at hfile
  cases hfile

end Journal

end Clackd.Hal.Legacy
