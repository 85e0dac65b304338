import Clackd.Hal.Legacy.Transaction
import Clackd.Foundation.Run

/-!
# Confirmed means confirmed

The board as the driver's documentation describes it: a framing command
switches its phase, pages are collected between the start-page command and the
end command, and the end command of a complete nine-page transaction installs
the area of its layer.  No other frame changes an area.  Which frames are
refused, and what the reads answer, is decided by two oracles.

A commit sends one transaction per dirty layer and is rolled back as a whole,
so a commit that fails after the end frame of its first layer leaves that layer
on the board only.  The next commit repairs it if it sends that layer again.

## Main results

* `exec_transact_board`, `push_board`: what the board holds after a push, and
  when the push succeeds.
* `confirmed_step`: one operation keeps a confirmed shadow equal to the board
  exactly if it is not a commit, taken in full by the board, that leaves out a
  layer the board holds differently.
* `confirmed_iff`: the same for whole runs.
-/

namespace Clackd.Hal.Legacy

open Clackd.Foundation Clackd.Hal
open Std (ExtTreeMap)

/-! ## The board -/

/-- Where the board is in a transaction. -/
inductive Phase where
  | idle
  | customizing
  | writing (command : UInt8) (pages : List FeatureFrame)

/-- The board's key-definition areas, by their write command, and its phase. -/
structure BoardMemory where
  area : UInt8 → List FeatureFrame
  phase : Phase

/-- What an accepted frame does to the board. -/
def BoardMemory.accept (m : BoardMemory) (frame : FeatureFrame) : BoardMemory :=
  if byteAt frame 0 = PACKET_HEADER then
    if byteAt frame 1 = CMD_TURN_ON_CUSTOMIZATION then
      { m with phase := .customizing }
    else if byteAt frame 1 = CMD_WRITE_KEY_DEFINITION_AREA ∨
        byteAt frame 1 = CMD_WRITE_KEY_DEFINITION_AREA_FN then
      { m with phase := .writing (byteAt frame 1) [] }
    else if byteAt frame 1 = CMD_COMMUNICATION_END then
      match m.phase with
      | .writing command pages =>
          if pages.length = KEY_DEF_PAGES then
            { area := Function.update m.area command pages, phase := .idle }
          else
            { m with phase := .idle }
      | _ => { m with phase := .idle }
    else
      m
  else
    match m.phase with
    | .writing command pages => { m with phase := .writing command (pages ++ [frame]) }
    | _ => m

/-- A board on the wire. -/
structure Board where
  memory : BoardMemory
  /-- Whether the `n`-th `SET_REPORT` is refused. -/
  refuse : Nat → Option DriverError
  sent : Nat
  /-- What the `n`-th `GET_REPORT` gives. -/
  answers : Nat → Except DriverError FeatureFrame
  asked : Nat

instance : Gmk67Io Board where
  set_feature frame := primitive fun b =>
    match b.refuse b.sent with
    | some e => (.error e, { b with sent := b.sent + 1 })
    | none => (.ok (), { b with memory := b.memory.accept frame, sent := b.sent + 1 })
  get_feature _ := primitive fun b => (b.answers b.asked, { b with asked := b.asked + 1 })

/-- The board takes the next `n` frames. -/
def Board.Takes (b : Board) (n : Nat) : Prop := ∀ i, i < n → b.refuse (b.sent + i) = none

theorem exec_set_feature_taken {b : Board} (h : b.refuse b.sent = none) (frame : FeatureFrame) :
    exec (Gmk67Io.set_feature frame) b =
      (.ok (), { b with memory := b.memory.accept frame, sent := b.sent + 1 }) := by
  change (match b.refuse b.sent with | some e => _ | none => _) = _
  rw [h]

theorem exec_set_feature_refused {b : Board} {e : DriverError} (h : b.refuse b.sent = some e)
    (frame : FeatureFrame) :
    exec (Gmk67Io.set_feature frame) b = (.error e, { b with sent := b.sent + 1 }) := by
  change (match b.refuse b.sent with | some e => _ | none => _) = _
  rw [h]

/-- What is known of the board after a push: the oracles stay, the frames were
counted, and the memory is as given. -/
structure Board.After (b b' : Board) (n : Nat) (memory : BoardMemory) : Prop where
  refuse : b'.refuse = b.refuse
  sent : b'.sent = b.sent + n
  memory : b'.memory = memory

/-- A transaction on the board succeeds exactly if it takes all the frames, and
then they have been accepted in order. -/
theorem exec_transact_board (frames : List FeatureFrame) (b : Board) :
    (b.Takes frames.length → ∃ b', exec (transact frames) b = (.ok (), b') ∧
      b.After b' frames.length (frames.foldl BoardMemory.accept b.memory)) ∧
    (¬ b.Takes frames.length → ∃ e b', exec (transact frames) b = (.error e, b')) := by
  induction frames generalizing b with
  | nil =>
      refine ⟨fun _ => ⟨b, rfl, rfl, rfl, rfl⟩, fun h => absurd ?_ h⟩
      intro i hi
      exact absurd hi (Nat.not_lt_zero i)
  | cons frame frames ih =>
      cases hfirst : b.refuse b.sent with
      | some e =>
          have hset := exec_set_feature_refused hfirst frame
          constructor
          · intro htakes
            have hzero := htakes 0 (Nat.succ_pos _)
            rw [Nat.add_zero, hfirst] at hzero
            cases hzero
          · intro _
            cases frames with
            | nil => exact ⟨e, _, hset⟩
            | cons next frames => exact ⟨e, _, exec_bind_of_error hset⟩
      | none =>
          have hset := exec_set_feature_taken hfirst frame
          cases frames with
          | nil =>
              refine ⟨fun _ => ⟨_, hset, rfl, rfl, rfl⟩, fun h => absurd ?_ h⟩
              intro i hi
              obtain rfl : i = 0 := Nat.lt_one_iff.1 hi
              exact hfirst
          | cons next frames =>
              obtain ⟨m, hm⟩ : ∃ m : Board, m = { b with
                  memory := b.memory.accept frame, sent := b.sent + 1, asked := b.asked + 1 } :=
                ⟨_, rfl⟩
              have hexec : exec (transact (frame :: next :: frames)) b =
                  exec (transact (next :: frames)) m := by
                rw [transact, exec_bind_of_ok hset, exec_bind_of_ok (exec_read_ack _), hm]
                rfl
              have htail : b.Takes (frame :: next :: frames).length ↔
                  m.Takes (next :: frames).length := by
                rw [hm]
                constructor
                · intro h i hi
                  have hi' := h (i + 1) (Nat.succ_lt_succ hi)
                  rw [← Nat.add_assoc, Nat.add_right_comm] at hi'
                  exact hi'
                · intro h i hi
                  cases i with
                  | zero => exact hfirst
                  | succ i =>
                      have hi' := h i (Nat.lt_of_succ_lt_succ hi)
                      rw [← Nat.add_assoc, Nat.add_right_comm]
                      exact hi'
              rw [hexec, htail]
              refine ⟨fun htakes => ?_, (ih m).2⟩
              obtain ⟨b', hb', hrefuse, hsent, hmemory⟩ := (ih m).1 htakes
              refine ⟨b', hb', ?_, ?_, ?_⟩
              · rw [hrefuse, hm]
              · have hcount : m.sent = b.sent + 1 := by rw [hm]
                rw [hsent, hcount, List.length_cons (a := frame)]
                omega
              · rw [hmemory, hm]
                rfl

/-- Pages are collected in order, whatever came before. -/
theorem foldl_accept_pages (pages : List FeatureFrame) (area : UInt8 → List FeatureFrame)
    (command : UInt8) (collected : List FeatureFrame)
    (hpages : ∀ page ∈ pages, byteAt page 0 ≠ PACKET_HEADER) :
    pages.foldl BoardMemory.accept ⟨area, .writing command collected⟩ =
      ⟨area, .writing command (collected ++ pages)⟩ := by
  induction pages generalizing collected with
  | nil => rw [List.foldl_nil, List.append_nil]
  | cons page pages ih =>
      have hpage : BoardMemory.accept ⟨area, .writing command collected⟩ page =
          ⟨area, .writing command (collected ++ [page])⟩ :=
        if_neg (hpages page List.mem_cons_self)
      rw [List.foldl_cons, hpage, ih _ fun p hp => hpages p (List.mem_cons_of_mem page hp),
        List.append_assoc]
      rfl

/-- The frames of a layer install its pages, whatever phase the board was in. -/
theorem foldl_accept_keydef {command layer : UInt8} (hcommand : keydef_command layer = some command)
    (entries : List (UInt8 × UInt16)) (m : BoardMemory) :
    (keydef_frames command entries).foldl BoardMemory.accept m =
      ⟨Function.update m.area command (keydef_pages (encode_keydef_buffer entries)), .idle⟩ := by
  have hstart : ∀ area phase, BoardMemory.accept ⟨area, phase⟩ (encode_start_keydef_page command) =
      ⟨area, .writing command []⟩ := by
    intro area phase
    unfold keydef_command at hcommand
    split at hcommand
    · cases hcommand
      rfl
    · split at hcommand
      · cases hcommand
        rfl
      · cases hcommand
  have hpages : ∀ page ∈ keydef_pages (encode_keydef_buffer entries),
      byteAt page 0 ≠ PACKET_HEADER := by
    intro page hpage
    obtain ⟨p, -, rfl⟩ := List.mem_map.1 hpage
    exact pageOf_encode_head entries p
  have hlen : (keydef_pages (encode_keydef_buffer entries)).length = KEY_DEF_PAGES := by
    rw [keydef_pages, List.length_map, List.length_range]
  have hon : BoardMemory.accept m (encode_cmd CMD_TURN_ON_CUSTOMIZATION) =
      ⟨m.area, .customizing⟩ := rfl
  have hend : ∀ (area : UInt8 → List FeatureFrame) pages,
      pages.length = KEY_DEF_PAGES →
        BoardMemory.accept ⟨area, .writing command pages⟩ (encode_cmd CMD_COMMUNICATION_END) =
          ⟨Function.update area command pages, .idle⟩ := by
    intro area pages hpages
    exact if_pos hpages
  have heffect : ∀ area, BoardMemory.accept ⟨area, .idle⟩ (encode_cmd CMD_LED_EFFECT_START) =
      ⟨area, .idle⟩ := fun _ => rfl
  rw [keydef_frames, List.foldl_cons, List.foldl_cons, List.foldl_append, hon, hstart,
    foldl_accept_pages _ _ _ _ hpages, List.nil_append, List.foldl_cons, List.foldl_cons,
    List.foldl_nil, hend _ _ hlen, heffect]

/-! ## A push -/

/-- The frames of one layer. -/
def LAYER_FRAMES : Nat := 13

theorem length_keydef_frames (command : UInt8) (entries : List (UInt8 × UInt16)) :
    (keydef_frames command entries).length = LAYER_FRAMES := by
  rw [keydef_frames, List.length_cons, List.length_cons, List.length_append, keydef_pages,
    List.length_map, List.length_range]
  rfl

/-- The areas after a push of some layers of a shadow. -/
def pushedAreas (shadow : ShadowState) (layers : List UInt8)
    (area : UInt8 → List FeatureFrame) : UInt8 → List FeatureFrame :=
  layers.foldl (fun area layer =>
    match keydef_command layer with
    | some command => Function.update area command
        (keydef_pages (encode_keydef_buffer (keydef_entries shadow layer)))
    | none => area) area

/-- A push on the board succeeds exactly if it takes the frames of every layer,
and then it holds these layers. -/
theorem push_board (shadow : ShadowState) (layers : List UInt8) (b : Board)
    (hlayers : ∀ layer ∈ layers, (keydef_command layer).isSome ∧
      (keydef_entries shadow layer).isEmpty = false) :
    (b.Takes (LAYER_FRAMES * layers.length) → ∃ b',
      exec (push_dirty_layers shadow layers) b = (.ok (), b') ∧
        b'.memory.area = pushedAreas shadow layers b.memory.area) ∧
    (¬ b.Takes (LAYER_FRAMES * layers.length) → ∃ e b',
      exec (push_dirty_layers shadow layers) b = (.error e, b')) := by
  induction layers generalizing b with
  | nil =>
      refine ⟨fun _ => ⟨b, rfl, rfl⟩, fun h => absurd ?_ h⟩
      intro i hi
      exact absurd hi (Nat.not_lt_zero i)
  | cons layer layers ih =>
      obtain ⟨hsome, hentries⟩ := hlayers layer List.mem_cons_self
      obtain ⟨command, hcommand⟩ := Option.isSome_iff_exists.1 hsome
      have hunfold : (push_dirty_layers shadow (layer :: layers) : DriverM Board Unit) =
          (do commit_keymap command (keydef_entries shadow layer)
              push_dirty_layers shadow layers) := by
        rw [push_dirty_layers]
        simp only [hcommand, hentries, Bool.false_eq_true, if_false]
      rw [hunfold]
      have hframes := exec_transact_board (keydef_frames command (keydef_entries shadow layer)) b
      rw [length_keydef_frames, ← commit_keymap_frames_eq] at hframes
      have hsplit : b.Takes (LAYER_FRAMES * (layer :: layers).length) ↔
          b.Takes LAYER_FRAMES ∧
            ∀ i, i < LAYER_FRAMES * layers.length →
              b.refuse (b.sent + LAYER_FRAMES + i) = none := by
        have hlen : LAYER_FRAMES * (layer :: layers).length =
            LAYER_FRAMES + LAYER_FRAMES * layers.length := by
          rw [List.length_cons, Nat.mul_succ, Nat.add_comm]
        constructor
        · intro h
          refine ⟨fun i hi => h i (by omega), fun i hi => ?_⟩
          rw [Nat.add_assoc]
          exact h (LAYER_FRAMES + i) (by omega)
        · rintro ⟨hhead, htail⟩ i hi
          by_cases hlt : i < LAYER_FRAMES
          · exact hhead i hlt
          · have hi' := htail (i - LAYER_FRAMES) (by omega)
            rw [Nat.add_assoc, Nat.add_sub_cancel' (Nat.not_lt.1 hlt)] at hi'
            exact hi'
      by_cases hhead : b.Takes LAYER_FRAMES
      · obtain ⟨m, hm, hrefuse, hsent, hmemory⟩ := hframes.1 hhead
        have hexec : exec (commit_keymap command (keydef_entries shadow layer) :
            DriverM Board Unit) b = (.ok (), m) := exec_with_abort_of_ok hm
        rw [exec_bind_of_ok hexec]
        have hrest : b.Takes (LAYER_FRAMES * (layer :: layers).length) ↔
            m.Takes (LAYER_FRAMES * layers.length) := by
          rw [hsplit, Board.Takes, Board.Takes, hrefuse, hsent]
          exact and_iff_right hhead
        rw [hrest]
        obtain ⟨hok, herr⟩ := ih m fun l hl => hlayers l (List.mem_cons_of_mem layer hl)
        refine ⟨fun htakes => ?_, herr⟩
        obtain ⟨b', hb', harea⟩ := hok htakes
        refine ⟨b', hb', ?_⟩
        rw [harea, hmemory, foldl_accept_keydef hcommand, pushedAreas, pushedAreas,
          List.foldl_cons, hcommand]
      · obtain ⟨e, m, hm⟩ := hframes.2 hhead
        have hexec : exec (commit_keymap command (keydef_entries shadow layer) :
            DriverM Board Unit) b = (.error e, (exec abort_transaction m).2) :=
          exec_with_abort_of_error hm
        refine ⟨fun htakes => absurd (hsplit.1 htakes).1 hhead, fun _ => ?_⟩
        exact ⟨e, _, exec_bind_of_error hexec⟩

theorem keydef_command_injective {layer layer' command : UInt8}
    (h : keydef_command layer = some command) (h' : keydef_command layer' = some command) :
    layer = layer' := by
  unfold keydef_command at h h'
  split at h
  · rename_i hl
    cases h
    split at h'
    · rename_i hl'
      rw [hl, hl']
    · split at h'
      · cases h'
      · cases h'
  · split at h
    · rename_i hl
      cases h
      split at h'
      · cases h'
      · split at h'
        · rename_i hl'
          rw [hl, hl']
        · cases h'
    · cases h

/-- After a push, the layers it sent are the shadow's and the others are as they
were. -/
theorem pushedAreas_eq (shadow : ShadowState) (layers : List UInt8)
    (area : UInt8 → List FeatureFrame) {layer command : UInt8}
    (hcommand : keydef_command layer = some command) :
    pushedAreas shadow layers area command =
      if layer ∈ layers then keydef_pages (encode_keydef_buffer (keydef_entries shadow layer))
      else area command := by
  induction layers using List.reverseRecOn with
  | nil => exact (if_neg List.not_mem_nil).symm
  | append_singleton layers l ih =>
      have hsnoc : pushedAreas shadow (layers ++ [l]) area =
          match keydef_command l with
          | some c => Function.update (pushedAreas shadow layers area) c
              (keydef_pages (encode_keydef_buffer (keydef_entries shadow l)))
          | none => pushedAreas shadow layers area := by
        rw [pushedAreas, List.foldl_append]
        rfl
      rw [hsnoc]
      by_cases heq : layer = l
      · subst heq
        rw [hcommand, if_pos (List.mem_append_right _ (List.mem_singleton_self layer))]
        exact Function.update_self _ _ _
      · have hmem : layer ∈ layers ++ [l] ↔ layer ∈ layers := by
          rw [List.mem_append, List.mem_singleton]
          exact or_iff_left heq
        simp only [hmem]
        rw [← ih]
        cases hl : keydef_command l with
        | none => rfl
        | some c =>
            have hne : command ≠ c := by
              rintro rfl
              exact heq (keydef_command_injective hcommand hl)
            exact Function.update_of_ne hne _ _

/-! ## Runs of edits and commits -/

/-- An operation of the run. -/
inductive EditOp where
  | set_keycode (layer row col : UInt8) (keycode : UInt16)
  | commit_to_nvram
  deriving DecidableEq, Repr

namespace Gmk67Driver

variable {Text : Type} [SerdeJson Text]

/-- Call an operation and keep what it leaves, whatever it returns. -/
def edit (d : Gmk67Driver Board Text) : EditOp → Option (Gmk67Driver Board Text)
  | .set_keycode layer row col keycode => some (exec (set_keycode layer row col keycode) d).2
  | .commit_to_nvram => some (exec commit_to_nvram d).2

/-- Every entry of a keymap is a physical key of layer 0 or 1. -/
def AllPhysical (keymap : Keymap) : Prop :=
  ∀ (k : Slot) (kc : UInt16), keymap[k]? = some kc → Physical k

/-- The board's areas are exactly the entries of a keymap: both areas hold
their layer, and the keymap has no other entries. -/
def BoardHolds (b : Board) (keymap : Keymap) : Prop :=
  (∀ layer command, keydef_command layer = some command →
    AreaHolds (b.memory.area command) keymap layer) ∧ AllPhysical keymap

/-- If the status is `Confirmed`, the board holds the shadow keymap. -/
def ConfirmedMeansConfirmed (d : Gmk67Driver Board Text) : Prop :=
  d.shadow.status = .confirmed → BoardHolds d.io d.shadow.keymap

/-- If the board takes every frame of the commit, then each layer the commit
does not send is on the board as it was last confirmed. -/
def SendsEveryStaleLayer (d : Gmk67Driver Board Text) : EditOp → Prop
  | .commit_to_nvram =>
      d.shadow.is_dirty = true →
        d.io.Takes (LAYER_FRAMES * d.shadow.dirty_layers.length) →
          ∀ layer command, keydef_command layer = some command →
            layer ∉ d.shadow.dirty_layers →
              AreaHolds (d.io.memory.area command) d.shadow.confirmed layer
  | .set_keycode _ _ _ _ => True

/-- What every operation keeps, whether the board agrees or not. -/
structure WellKept (d : Gmk67Driver Board Text) : Prop where
  tracked : d.shadow.Tracked
  keymap : AllPhysical d.shadow.keymap
  confirmed : AllPhysical d.shadow.confirmed

omit [SerdeJson Text] in
/-- A dirty layer has an area and something to send to it. -/
theorem WellKept.dirty_layer {d : Gmk67Driver Board Text} (h : WellKept d) {layer : UInt8}
    (hlayer : layer ∈ d.shadow.dirty_layers) :
    (keydef_command layer).isSome ∧ (keydef_entries d.shadow layer).isEmpty = false := by
  obtain ⟨row, col, kc, hdirty⟩ := (d.shadow.mem_dirty_layers layer).1 hlayer
  have hkeymap := h.tracked.pending _ _ hdirty
  obtain ⟨hcommand, hkey⟩ := h.keymap _ _ hkeymap
  refine ⟨hcommand, ?_⟩
  obtain ⟨ki, hki⟩ := Option.isSome_iff_exists.1 hkey
  have hmem := (mem_keydef_entries d.shadow layer ki kc).2 ⟨row, col, hki, hkeymap⟩
  rw [List.isEmpty_eq_false_iff]
  exact List.ne_nil_of_mem hmem

omit [SerdeJson Text] in
/-- How the push of a commit ends on the board. -/
theorem WellKept.push {d : Gmk67Driver Board Text} (h : WellKept d) :
    (d.io.Takes (LAYER_FRAMES * d.shadow.dirty_layers.length) → ∃ io, d.push = (.ok (), io) ∧
      io.memory.area = pushedAreas d.shadow d.shadow.dirty_layers d.io.memory.area) ∧
    (¬ d.io.Takes (LAYER_FRAMES * d.shadow.dirty_layers.length) →
      ∃ e io, d.push = (.error e, io)) :=
  push_board d.shadow.prepare_commit d.shadow.dirty_layers d.io
    fun _ hlayer => h.dirty_layer hlayer

omit [SerdeJson Text] in
/-- A layer without pending edits is as it was confirmed. -/
theorem WellKept.clean_layer {d : Gmk67Driver Board Text} (h : WellKept d) {layer : UInt8}
    (hlayer : layer ∉ d.shadow.dirty_layers) (row col : UInt8) :
    d.shadow.keymap[(layer, row, col)]? = d.shadow.confirmed[(layer, row, col)]? := by
  refine h.tracked.clean _ ?_
  cases hdirty : d.shadow.dirty[(layer, row, col)]? with
  | none => rfl
  | some kc =>
      exact absurd ((d.shadow.mem_dirty_layers layer).2 ⟨row, col, kc, hdirty⟩) hlayer

omit [SerdeJson Text] in
theorem allPhysical_insert {keymap : Keymap} (h : AllPhysical keymap) {k : Slot}
    (hk : Physical k) (kc : UInt16) : AllPhysical (keymap.insert k kc) := by
  intro j v hj
  rw [lookup_insert] at hj
  by_cases heq : k = j
  · exact heq ▸ hk
  · rw [if_neg heq] at hj
    exact h j v hj

theorem wellKept_edit (d : Gmk67Driver Board Text) (op : EditOp) (d' : Gmk67Driver Board Text)
    (h : WellKept d) (hstep : d.edit op = some d') : WellKept d' := by
  cases op with
  | set_keycode layer row col keycode =>
      injection hstep with hstep
      subst hstep
      by_cases hphysical : Physical (layer, row, col)
      · rw [set_keycode_accepted hphysical]
        exact ⟨h.tracked.set_keycode layer row col keycode,
          allPhysical_insert h.keymap hphysical keycode, h.confirmed⟩
      · obtain ⟨e, hrefused⟩ := set_keycode_refused (d := d) hphysical keycode
        rw [hrefused]
        exact h
  | commit_to_nvram =>
      injection hstep with hstep
      subst hstep
      cases hdirty : d.shadow.is_dirty with
      | false =>
          rw [commit_of_clean hdirty]
          exact h
      | true =>
          rcases hpush : d.push with ⟨e | _, io⟩
          · rw [commit_of_refused hdirty hpush]
            exact ⟨ShadowState.tracked_rollback _, h.confirmed, h.confirmed⟩
          · rw [commit_of_pushed hdirty hpush]
            exact ⟨ShadowState.tracked_confirm_commit _ d.disk, h.keymap, h.keymap⟩

/-- One operation keeps a confirmed shadow equal to the board exactly if it is
not a commit that the board takes in full while holding a layer the commit
leaves out otherwise than it was confirmed. -/
theorem confirmed_step (d : Gmk67Driver Board Text) (op : EditOp)
    (d' : Gmk67Driver Board Text) (h : WellKept d) (hconfirmed : ConfirmedMeansConfirmed d)
    (hstep : d.edit op = some d') :
    ConfirmedMeansConfirmed d' ↔ SendsEveryStaleLayer d op := by
  cases op with
  | set_keycode layer row col keycode =>
      injection hstep with hstep
      subst hstep
      refine ⟨fun _ => trivial, fun _ => ?_⟩
      by_cases hphysical : Physical (layer, row, col)
      · rw [set_keycode_accepted hphysical]
        intro hcon
        cases hcon
      · obtain ⟨e, hrefused⟩ := set_keycode_refused (d := d) hphysical keycode
        rw [hrefused]
        exact hconfirmed
  | commit_to_nvram =>
      injection hstep with hstep
      subst hstep
      cases hdirty : d.shadow.is_dirty with
      | false =>
          rw [commit_of_clean hdirty]
          refine ⟨fun _ hcon => ?_, fun _ => hconfirmed⟩
          rw [hdirty] at hcon
          cases hcon
      | true =>
          by_cases htakes : d.io.Takes (LAYER_FRAMES * d.shadow.dirty_layers.length)
          · obtain ⟨io, hpush, harea⟩ := h.push.1 htakes
            rw [commit_of_pushed hdirty hpush]
            -- The sent layers are on the board; the others are as they were.
            have hlayer : ∀ layer command, keydef_command layer = some command →
                (AreaHolds (io.memory.area command) d.shadow.keymap layer ↔
                  (layer ∉ d.shadow.dirty_layers →
                    AreaHolds (d.io.memory.area command) d.shadow.confirmed layer)) := by
              intro layer command hcommand
              rw [harea, pushedAreas_eq d.shadow d.shadow.dirty_layers _ hcommand]
              by_cases hmem : layer ∈ d.shadow.dirty_layers
              · rw [if_pos hmem]
                exact ⟨fun _ hnot => absurd hmem hnot,
                  fun _ => areaHolds_keydef_pages d.shadow layer⟩
              · rw [if_neg hmem]
                have hsame : ∀ area, AreaHolds area d.shadow.keymap layer ↔
                    AreaHolds area d.shadow.confirmed layer := by
                  intro area
                  unfold AreaHolds
                  simp only [h.clean_layer hmem]
                rw [hsame]
                exact ⟨fun harea' _ => harea', fun harea' => harea' hmem⟩
            constructor
            · intro hnew _ _ layer command hcommand
              exact (hlayer layer command hcommand).1 ((hnew rfl).1 layer command hcommand)
            · intro hall _
              exact ⟨fun layer command hcommand =>
                (hlayer layer command hcommand).2 (hall hdirty htakes layer command hcommand),
                h.keymap⟩
          · obtain ⟨e, io, hpush⟩ := h.push.2 htakes
            rw [commit_of_refused hdirty hpush]
            refine ⟨fun _ _ hcon => absurd hcon htakes, fun _ hcon => ?_⟩
            cases hcon

/-- Over any run of edits and commits and any pattern of refused frames, from a
confirmed shadow that is on the board: `Confirmed` means confirmed throughout
exactly if no commit that the board takes in full leaves out a layer that the
board, after an earlier failed commit, holds otherwise than it was confirmed. -/
theorem confirmed_iff (d : Gmk67Driver Board Text) (ops : List EditOp)
    (hstatus : d.shadow.status = .confirmed) (htracked : d.shadow.Tracked)
    (hboard : BoardHolds d.io d.shadow.keymap) :
    Always edit ConfirmedMeansConfirmed d ops ↔ EveryStep edit SendsEveryStaleLayer d ops := by
  have hclean : d.shadow.dirty.isEmpty = true := by
    refine htracked.settled ?_
    rw [hstatus]
    decide
  have hconfirmed : AllPhysical d.shadow.confirmed := by
    rw [← htracked.keymap_eq hclean]
    exact hboard.2
  exact always_iff_everyStep wellKept_edit confirmed_step ops
    ⟨htracked, hboard.2, hconfirmed⟩ fun _ => hboard

/-! ## A layer left behind -/

/-- A board with factory defaults, refusing the frames it is told to. -/
def factoryBoard (refuse : Nat → Option DriverError) : Board where
  memory := ⟨fun _ => [], .idle⟩
  refuse := refuse
  sent := 0
  answers := fun _ => .ok (frameOf [])
  asked := 0

/-- A driver in front of it, with nothing remapped and nothing on disk. -/
def factoryDriver (refuse : Nat → Option DriverError) : Gmk67Driver Board ShadowFile where
  io := factoryBoard refuse
  disk := ⟨fun _ => none, fun _ => none, 0, fun _ => [], []⟩
  matrix := (5, 15)
  layers := 2
  shadow := ShadowState.ephemeral
  lighting := {}
  sync_on_attach := false
  synced := false

/-- The board refuses the first frame of the second layer. -/
def secondLayerRefused (n : Nat) : Option DriverError :=
  if n = 13 then some (.timeout "hidraw0" "set_feature") else none

/-- Two edits, a commit that fails on the second layer, the second edit again
and a commit of it. -/
def staleLayerRun : List EditOp :=
  [.set_keycode 0 0 0 4, .set_keycode 1 0 0 5, .commit_to_nvram, .set_keycode 1 0 0 5,
    .commit_to_nvram]

theorem factory_holds (refuse : Nat → Option DriverError) :
    BoardHolds (factoryBoard refuse) ∅ := by
  refine ⟨?_, ?_⟩
  · intro layer command _ ki _
    have hblank : slotAt (bytesOfPages ((factoryBoard refuse).memory.area command)) ki = none :=
      rfl
    rw [hblank]
    cases find_matrix_pos_for_key_index (UInt8.ofNat ki) with
    | none => rfl
    | some pos => exact (ExtTreeMap.getElem?_empty).symm
  · intro k kc hk
    rw [ExtTreeMap.getElem?_empty] at hk
    cases hk

/-- After the second commit the status is `Confirmed` and the first edit, which
the shadow rolled back, is on the board. -/
theorem partial_commit_diverges :
    ¬ Always edit ConfirmedMeansConfirmed (factoryDriver secondLayerRefused) staleLayerRun := by
  intro h
  obtain ⟨d, hrun, hstatus, hboard, hshadow⟩ : ∃ d,
      run edit (factoryDriver secondLayerRefused) staleLayerRun = some d ∧
      d.shadow.status = .confirmed ∧
      slotAt (bytesOfPages (d.io.memory.area CMD_WRITE_KEY_DEFINITION_AREA)) 1 = some 4 ∧
      d.shadow.keymap[((0, 0, 0) : Slot)]? = none := by
    refine ⟨_, rfl, ?_, ?_, ?_⟩
    · decide +kernel
    · decide +kernel
    · decide +kernel
  have hcon := (h.last hrun hstatus).1 0 CMD_WRITE_KEY_DEFINITION_AREA rfl 1 (by decide)
  have hpos : find_matrix_pos_for_key_index (UInt8.ofNat 1) = some (0, 0) := by decide
  rw [hboard, hpos, Option.bind_some, hshadow] at hcon
  cases hcon

/-- The run from a factory board. -/
theorem confirmed_iff_factory :
    Always edit ConfirmedMeansConfirmed (factoryDriver secondLayerRefused) staleLayerRun ↔
      EveryStep edit SendsEveryStaleLayer (factoryDriver secondLayerRefused) staleLayerRun :=
  confirmed_iff _ _ rfl ShadowState.tracked_ephemeral (factory_holds secondLayerRefused)

end Gmk67Driver

end Clackd.Hal.Legacy
