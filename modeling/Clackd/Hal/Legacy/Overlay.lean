import Clackd.Foundation.WriteBack
import Clackd.Hal.Legacy.Board

/-!
# The shadow is a transactional map

Seen from outside, a driver is a map of keycodes with edits in front of it: an
accepted edit is seen at once, a commit that succeeds makes the edits part of the
map, and a commit that fails drops them.  `Ledger` runs any driver, on any board,
next to that description.

## Main results

* `agrees_step`: one operation keeps the shadow's three keymaps and its status at
  what the ledger says.
* `transactional_map`: in every state of every run, reads give what the ledger
  says, the status says whether there are edits, and the keymap is the confirmed
  one behind the dirty one; and a failed operation restores or keeps every slot.
-/

namespace Clackd.Hal.Legacy

open Clackd.Foundation Clackd.Hal
open Std (ExtTreeMap)

/-- The last of the edits of a slot. -/
def latest (edits : List (Slot × UInt16)) (k : Slot) : Option UInt16 :=
  (edits.reverse.find? fun e => e.1 = k).map Prod.snd

@[simp] theorem latest_nil (k : Slot) : latest [] k = none := rfl

theorem latest_snoc (edits : List (Slot × UInt16)) (k j : Slot) (kc : UInt16) :
    latest (edits ++ [(k, kc)]) j = if k = j then some kc else latest edits j := by
  by_cases h : k = j <;> simp [latest, h]

/-- A driver with what a client remembers of it. -/
structure Ledger (I Text : Type) where
  driver : Gmk67Driver I Text
  /-- The edits accepted since the last commit attempt, oldest first. -/
  edits : List (Slot × UInt16)
  /-- What each slot read when the last successful commit had finished. -/
  settled : Slot → UInt16

namespace Ledger

variable {I Text : Type} [Gmk67Io I] [SerdeJson Text]

/-- What each slot of a driver reads. -/
def reading (d : Gmk67Driver I Text) (k : Slot) : UInt16 := d.shadow.get_keycode k.1 k.2.1 k.2.2

/-- One operation, remembered.  A commit that finds pending edits is an attempt. -/
def step (l : Ledger I Text) : EditOp → Option (Ledger I Text)
  | .set_keycode layer row col keycode =>
      let r := exec (Gmk67Driver.set_keycode layer row col keycode) l.driver
      some {
        driver := r.2
        edits := if r.1.isOk then l.edits ++ [((layer, row, col), keycode)] else l.edits
        settled := l.settled }
  | .commit_to_nvram =>
      let r := exec Gmk67Driver.commit_to_nvram l.driver
      some {
        driver := r.2
        edits := if l.driver.shadow.is_dirty then [] else l.edits
        settled := if r.1.isOk then reading r.2 else l.settled }

/-- A driver as it is attached: each slot reads its loaded value, or zero. -/
def attach (io : I) (disk : Disk Text) (data_path : Option String) (matrix : UInt8 × UInt8)
    (layers : UInt8) (sync_on_attach : Bool) : Ledger I Text where
  driver := Gmk67Driver.new io disk data_path matrix layers sync_on_attach
  edits := []
  settled := fun k => (ShadowState.load data_path disk.files).keymap[k]?.getD 0

/-- What a client may rely on between operations. -/
structure Transactional (l : Ledger I Text) : Prop where
  reads : ∀ layer row col : UInt8, exec (Gmk67Driver.get_keycode layer row col) l.driver =
    (.ok (overlay (latest l.edits) l.settled (layer, row, col)), l.driver)
  dirty_iff : l.driver.shadow.is_dirty = true ↔ l.driver.shadow.status = .pending
  overlaid : l.driver.shadow.status = .pending → ∀ k : Slot,
    l.driver.shadow.keymap[k]? = l.driver.shadow.dirty[k]?.or l.driver.shadow.confirmed[k]?
  confirmed : l.driver.shadow.status ≠ .pending →
    l.driver.shadow.keymap = l.driver.shadow.confirmed

/-- A commit that fails puts every slot back to what the last successful one left,
and an edit that is refused changes nothing. -/
def FailureRestores (l : Ledger I Text) : EditOp → Prop
  | .set_keycode layer row col keycode =>
      ∀ e, (exec (Gmk67Driver.set_keycode layer row col keycode) l.driver).1 = .error e →
        (exec (Gmk67Driver.set_keycode layer row col keycode) l.driver).2 = l.driver
  | .commit_to_nvram =>
      ∀ e, (exec Gmk67Driver.commit_to_nvram l.driver).1 = .error e →
        reading (exec Gmk67Driver.commit_to_nvram l.driver).2 = l.settled

/-- The shadow next to the ledger: its dirty entries are the latest edits, its
confirmed entries are the settled ones, and it is pending exactly with edits. -/
structure Agrees (l : Ledger I Text) : Prop where
  tracked : l.driver.shadow.Tracked
  pending : l.driver.shadow.status = .pending → l.driver.shadow.dirty.isEmpty = false
  edits : ∀ k : Slot, l.driver.shadow.dirty[k]? = latest l.edits k
  settled : ∀ k : Slot, l.driver.shadow.confirmed[k]?.getD 0 = l.settled k

omit [Gmk67Io I] [SerdeJson Text] in
/-- With nothing dirty, what is read is what was settled. -/
theorem Agrees.reading_of_clean {l : Ledger I Text} (h : Agrees l)
    (hclean : l.driver.shadow.dirty.isEmpty = true) : reading l.driver = l.settled := by
  funext k
  rw [← h.settled k, ← h.tracked.keymap_eq hclean]
  rfl

omit [Gmk67Io I] [SerdeJson Text] in
theorem Agrees.transactional {l : Ledger I Text} (h : Agrees l) : Transactional l where
  reads := by
    intro layer row col
    have hvalue : l.driver.shadow.get_keycode layer row col =
        overlay (latest l.edits) l.settled (layer, row, col) := by
      rw [ShadowState.get_keycode]
      cases hdirty : l.driver.shadow.dirty[((layer, row, col) : Slot)]? with
      | none =>
          have hlatest := h.edits (layer, row, col)
          rw [hdirty] at hlatest
          rw [h.tracked.clean _ hdirty, overlay_stored hlatest.symm]
          exact h.settled (layer, row, col)
      | some kc =>
          have hlatest := h.edits (layer, row, col)
          rw [hdirty] at hlatest
          rw [h.tracked.pending _ kc hdirty, overlay_pending hlatest.symm]
          rfl
    show (Except.ok (l.driver.shadow.get_keycode layer row col), l.driver) = _
    rw [hvalue]
  dirty_iff := by
    constructor
    · intro hdirty
      by_contra hne
      simp [ShadowState.is_dirty, h.tracked.settled hne] at hdirty
    · intro hpending
      simp [ShadowState.is_dirty, h.pending hpending]
  overlaid := by
    intro _ k
    cases hdirty : l.driver.shadow.dirty[k]? with
    | none => simp [h.tracked.clean k hdirty]
    | some kc => simp [h.tracked.pending k kc hdirty]
  confirmed := fun hne => h.tracked.keymap_eq (h.tracked.settled hne)

theorem agrees_step (l : Ledger I Text) (op : EditOp) (l' : Ledger I Text) (h : Agrees l)
    (hstep : l.step op = some l') : Agrees l' ∧ FailureRestores l op := by
  cases op with
  | set_keycode layer row col keycode =>
      simp only [step, Option.some.injEq] at hstep
      subst hstep
      by_cases hphysical : Gmk67Driver.Physical (layer, row, col)
      · have haccepted := Gmk67Driver.set_keycode_accepted (d := l.driver) hphysical keycode
        simp only [FailureRestores, haccepted]
        refine ⟨⟨h.tracked.set_keycode layer row col keycode, ?_, ?_, h.settled⟩, by simp⟩
        · intro _
          simp [ShadowState.set_keycode]
        · intro k
          simp only [ShadowState.set_keycode, Except.isOk, Except.toBool, if_true, lookup_insert,
            latest_snoc, h.edits k]
      · obtain ⟨e, hrefused⟩ := Gmk67Driver.set_keycode_refused (d := l.driver) hphysical keycode
        simp only [FailureRestores, hrefused]
        exact ⟨h, by simp⟩
  | commit_to_nvram =>
      simp only [step, Option.some.injEq] at hstep
      subst hstep
      cases hdirty : l.driver.shadow.is_dirty with
      | false =>
          have hclean : l.driver.shadow.dirty.isEmpty = true := by
            simpa [ShadowState.is_dirty] using hdirty
          have hsettled := h.reading_of_clean hclean
          simp only [FailureRestores, Gmk67Driver.commit_of_clean hdirty, hsettled]
          refine ⟨?_, by simp⟩
          simpa using h
      | true =>
          rcases hpush : l.driver.push with ⟨e | _, io⟩
          · simp only [FailureRestores, Gmk67Driver.commit_of_refused hdirty hpush]
            refine ⟨⟨ShadowState.tracked_rollback _, nofun, ?_, h.settled⟩, ?_⟩
            · intro k
              exact ExtTreeMap.getElem?_empty
            · intro _ _
              funext k
              exact h.settled k
          · simp only [FailureRestores, Gmk67Driver.commit_of_pushed hdirty hpush]
            refine ⟨⟨ShadowState.tracked_confirm_commit _ l.driver.disk, nofun, ?_, ?_⟩, by simp⟩
            · intro k
              exact ExtTreeMap.getElem?_empty
            · intro k
              rfl

omit [Gmk67Io I] in
theorem agrees_attach (io : I) (disk : Disk Text) (data_path : Option String)
    (matrix : UInt8 × UInt8) (layers : UInt8) (sync_on_attach : Bool) :
    Agrees (attach io disk data_path matrix layers sync_on_attach) where
  tracked := ShadowState.tracked_load data_path disk.files
  pending := nofun
  edits := fun _ => ExtTreeMap.getElem?_empty
  settled := fun _ => rfl

/-- For every board, whatever it refuses, and every run of edits and commits: in
every state the driver reads as the ledger says, and every failed operation
restores what it says. -/
theorem transactional_map (io : I) (disk : Disk Text) (data_path : Option String)
    (matrix : UInt8 × UInt8) (layers : UInt8) (sync_on_attach : Bool) (ops : List EditOp) :
    Always step Transactional (attach io disk data_path matrix layers sync_on_attach) ops ∧
      EveryStep step FailureRestores
        (attach io disk data_path matrix layers sync_on_attach) ops := by
  have hstart := agrees_attach io disk data_path matrix layers sync_on_attach
  constructor
  · exact always_of_preserves (fun l op l' h hstep => (agrees_step l op l' h hstep).1)
      (fun l h => h.transactional) hstart ops
  · exact everyStep_of (fun l op l' h hstep => (agrees_step l op l' h hstep).1)
      (fun l op l' h hstep => (agrees_step l op l' h hstep).2) hstart ops

end Ledger

end Clackd.Hal.Legacy
