import Clackd.Foundation.Trace
import Clackd.Hal.Legacy.Persistence

/-!
# What goes over the wire

`Tap` puts a recorder in front of any board: it notes every frame the driver
attempts and whether the board took it.  Every operation that talks to the board
is a series of transactions, and what it attempts has one of two forms: all the
frames of all of them, accepted; or all of some, a first part of the next, and one
abort frame.

## Main results

* `series_cons`, `series_bind`: how programs that abort what they cut short compose.
* `appends_push`, `appends_read_layers`, `appends_render`: the three operations are
  series of transactions.
-/

namespace Clackd.Hal.Legacy

open Clackd.Foundation Clackd.Hal
open Std (ExtTreeMap)

/-- A frame that was attempted, and whether the board took it. -/
abbrev Attempt : Type := FeatureFrame × Bool

/-- A board with a record of what the driver attempts. -/
structure Tap (I : Type) where
  io : I
  attempts : List Attempt

instance {I : Type} [Gmk67Io I] : Gmk67Io (Tap I) where
  set_feature frame := primitive fun t =>
    let r := exec (Gmk67Io.set_feature frame) t.io
    (r.1, { io := r.2, attempts := t.attempts ++ [(frame, r.1.isOk)] })
  get_feature report_id := zoom Tap.io (fun t io => { t with io := io })
    (Gmk67Io.get_feature report_id)

/-- Frames that were all taken. -/
def taken (frames : List FeatureFrame) : List Attempt := frames.map fun frame => (frame, true)

@[simp] theorem taken_nil : taken [] = [] := rfl

@[simp] theorem taken_cons (frame : FeatureFrame) (frames : List FeatureFrame) :
    taken (frame :: frames) = (frame, true) :: taken frames := rfl

@[simp] theorem taken_append (xs ys : List FeatureFrame) :
    taken (xs ++ ys) = taken xs ++ taken ys := List.map_append

theorem mem_taken {a : Attempt} {frames : List FeatureFrame} :
    a ∈ taken frames ↔ a.2 = true ∧ a.1 ∈ frames := by
  obtain ⟨frame, ok⟩ := a
  simp [taken]
  tauto

/-! ## Series of transactions -/

/-- A transaction that is cut short: a first part of its frames was taken, and
after it at most one was refused. -/
inductive Cut (frames : List FeatureFrame) : List Attempt → Prop
  | unread (first rest : List FeatureFrame) (h : frames = first ++ rest) :
      Cut frames (taken first)
  | refused (first : List FeatureFrame) (frame : FeatureFrame) (rest : List FeatureFrame)
      (h : frames = first ++ frame :: rest) : Cut frames (taken first ++ [(frame, false)])

theorem Cut.cons {frames : List FeatureFrame} {ws : List Attempt} (frame : FeatureFrame)
    (h : Cut frames ws) : Cut (frame :: frames) ((frame, true) :: ws) := by
  cases h with
  | unread first rest hsplit =>
      exact .unread (frame :: first) rest (by rw [hsplit, List.cons_append])
  | refused first refused rest hsplit =>
      exact .refused (frame :: first) refused rest (by rw [hsplit, List.cons_append])

/-- What a transaction attempts before any abort. -/
def Attempted {α : Type} (frames : List FeatureFrame) (r : Except DriverError α)
    (ws : List Attempt) : Prop :=
  (∃ a, r = .ok a ∧ ws = taken frames) ∨ (∃ e, r = .error e ∧ Cut frames ws)

/-- What a series of transactions attempts, each aborted if it is cut short. -/
def Series {α : Type} (transactions : List (List FeatureFrame)) (r : Except DriverError α)
    (ws : List Attempt) : Prop :=
  (∃ a, r = .ok a ∧ ws = taken transactions.flatten) ∨
    ∃ e done frames rest cut b, r = .error e ∧ transactions = done ++ frames :: rest ∧
      Cut frames cut ∧
      ws = taken done.flatten ++ (cut ++ [(encode_cmd CMD_COMMUNICATION_END, b)])

section Programs

variable {I : Type} [Gmk67Io I]

theorem appends_set_feature (frame : FeatureFrame) :
    Appends Tap.attempts (Gmk67Io.set_feature frame : DriverM (Tap I) Unit)
      (fun r ws => ws = [(frame, r.isOk)]) := by
  intro t
  exact ⟨_, rfl, rfl⟩

theorem appends_get_feature (report_id : UInt8) :
    Appends Tap.attempts (Gmk67Io.get_feature report_id : DriverM (Tap I) FeatureFrame)
      (fun _ ws => ws = []) := Appends.of_kept fun _ => rfl

theorem appends_read_ack :
    Appends Tap.attempts (read_ack : DriverM (Tap I) Unit)
      (fun r ws => r = .ok () ∧ ws = []) := by
  intro t
  exact ⟨[], by simp [exec_read_ack, Gmk67Io.get_feature], rfl, rfl⟩

omit [Gmk67Io I] in
/-- A part that attempts nothing. -/
theorem attempted_silent {α β : Type} {frames : List FeatureFrame} {x : DriverM (Tap I) α}
    {f : α → DriverM (Tap I) β} (hx : Appends Tap.attempts x fun _ ws => ws = [])
    (hf : ∀ a, Appends Tap.attempts (f a) (Attempted frames)) :
    Appends Tap.attempts (x >>= f) (Attempted frames) := by
  refine (hx.bind hf).weaken ?_
  rintro r ws (⟨e, rfl, rfl⟩ | ⟨a, ws₁, ws₂, rfl, rfl, h⟩)
  · exact .inr ⟨e, rfl, .unread [] frames rfl⟩
  · simpa using h

/-- A frame, paced, before the rest of a transaction. -/
theorem attempted_cons {α : Type} {frames : List FeatureFrame} (frame : FeatureFrame)
    {x : DriverM (Tap I) α} (hx : Appends Tap.attempts x (Attempted frames)) :
    Appends Tap.attempts (do Gmk67Io.set_feature frame; read_ack; x)
      (Attempted (frame :: frames)) := by
  have hack : Appends Tap.attempts (do read_ack; x) (Attempted frames) :=
    attempted_silent (appends_read_ack.weaken fun _ _ h => h.2) fun _ => hx
  refine ((appends_set_feature frame).bind fun _ => hack).weaken ?_
  rintro r ws (⟨e, rfl, rfl⟩ | ⟨a, ws₁, ws₂, rfl, rfl, h⟩)
  · exact .inr ⟨e, rfl, .refused [] frame frames rfl⟩
  · rcases h with ⟨a', rfl, rfl⟩ | ⟨e, rfl, hcut⟩
    · exact .inl ⟨a', rfl, rfl⟩
    · exact .inr ⟨e, rfl, hcut.cons frame⟩

theorem appends_transact (frames : List FeatureFrame) :
    Appends Tap.attempts (transact frames : DriverM (Tap I) Unit) (Attempted frames) := by
  induction frames with
  | nil =>
      refine (Appends.pure Tap.attempts ()).weaken ?_
      rintro r ws ⟨rfl, rfl⟩
      exact .inl ⟨(), rfl, rfl⟩
  | cons frame frames ih =>
      cases frames with
      | nil =>
          refine (appends_set_feature frame).weaken ?_
          rintro (e | a) ws rfl
          · exact .inr ⟨e, rfl, .refused [] frame [] rfl⟩
          · exact .inl ⟨a, rfl, rfl⟩
      | cons next frames => exact attempted_cons frame ih

theorem appends_abort :
    Appends Tap.attempts (abort_transaction : DriverM (Tap I) Unit)
      (fun r ws => r = .ok () ∧ ∃ b, ws = [(encode_cmd CMD_COMMUNICATION_END, b)]) := by
  intro t
  exact ⟨_, rfl, rfl, _, rfl⟩

/-- A cut transaction and its abort. -/
theorem appends_aborted {α : Type} {frames : List FeatureFrame} {cut : List Attempt}
    (hcut : Cut frames cut) (rest : List (List FeatureFrame)) (e : DriverError) :
    Appends Tap.attempts (do abort_transaction; throw e : DriverM (Tap I) α)
      (fun r ws => Series (frames :: rest) r (cut ++ ws)) := by
  refine (appends_abort.bind fun _ => Appends.throw Tap.attempts e).weaken ?_
  rintro r ws (⟨e', -, hcon, -⟩ | ⟨-, ws₁, ws₂, rfl, ⟨-, b, rfl⟩, rfl, rfl⟩)
  · cases hcon
  · exact .inr ⟨e, [], frames, rest, cut, b, rfl, rfl, hcut, by simp⟩

/-- A transaction that is aborted if it is cut short, before the rest of a
series. -/
theorem series_cons {α β : Type} {frames : List FeatureFrame}
    {transactions : List (List FeatureFrame)} {x : DriverM (Tap I) α}
    {k : Except DriverError α → DriverM (Tap I) β}
    (hx : Appends Tap.attempts x (Attempted frames))
    (hok : ∀ a, Appends Tap.attempts (k (.ok a)) (Series transactions))
    (herror : ∀ e, k (.error e) = do abort_transaction; throw e) :
    Appends Tap.attempts (attempt x >>= k) (Series (frames :: transactions)) := by
  intro t
  obtain ⟨ws₁, hlog₁, h₁⟩ := hx t
  rw [exec_bind, exec_attempt]
  dsimp only
  rcases h₁ with ⟨a, hr, rfl⟩ | ⟨e, hr, hcut⟩
  · obtain ⟨ws₂, hlog₂, h₂⟩ := hok a (exec x t).2
    rw [hr]
    refine ⟨taken frames ++ ws₂, by rw [hlog₂, hlog₁, List.append_assoc], ?_⟩
    rcases h₂ with ⟨a', hr', rfl⟩ | ⟨e, done, frames', rest, cut, b, hr', rfl, hcut, rfl⟩
    · exact .inl ⟨a', hr', by simp⟩
    · exact .inr ⟨e, frames :: done, frames', rest, cut, b, hr', rfl, hcut, by simp⟩
  · obtain ⟨ws₂, hlog₂, h₂⟩ := appends_aborted (α := β) hcut transactions e (exec x t).2
    rw [hr, herror]
    exact ⟨ws₁ ++ ws₂, by rw [hlog₂, hlog₁, List.append_assoc], h₂⟩

omit [Gmk67Io I] in
theorem series_nil {α : Type} (a : α) :
    Appends Tap.attempts (pure a : DriverM (Tap I) α) (Series []) := by
  refine (Appends.pure Tap.attempts a).weaken ?_
  rintro r ws ⟨rfl, rfl⟩
  exact .inl ⟨a, rfl, rfl⟩

/-- A whole transaction is a series of one. -/
theorem appends_with_abort {frames : List FeatureFrame} {x : DriverM (Tap I) Unit}
    (hx : Appends Tap.attempts x (Attempted frames)) :
    Appends Tap.attempts (with_abort x) (Series [frames]) :=
  series_cons hx (fun a => series_nil a) fun _ => rfl

theorem appends_render (lighting : Lighting) :
    Appends Tap.attempts (render_effect lighting : DriverM (Tap I) Unit)
      (Series [render_frames lighting]) :=
  appends_with_abort (appends_transact (render_frames lighting))

/-- The transactions of a push. -/
def push_transactions (shadow : ShadowState) (layers : List UInt8) : List (List FeatureFrame) :=
  layers.filterMap fun layer =>
    match keydef_command layer with
    | none => none
    | some command =>
        if (keydef_entries shadow layer).isEmpty then none
        else some (keydef_frames command (keydef_entries shadow layer))

omit [Gmk67Io I] in
/-- A sequence of a series of one and another series. -/
theorem series_bind {frames : List FeatureFrame} {transactions : List (List FeatureFrame)}
    {x y : DriverM (Tap I) Unit} (hx : Appends Tap.attempts x (Series [frames]))
    (hy : Appends Tap.attempts y (Series transactions)) :
    Appends Tap.attempts (do x; y) (Series (frames :: transactions)) := by
  refine (hx.bind fun _ => hy).weaken ?_
  rintro r ws (⟨e, rfl, h⟩ | ⟨a, ws₁, ws₂, rfl, h₁, h₂⟩)
  · rcases h with ⟨a, hcon, -⟩ | ⟨e', done, frames', rest, cut, b, hr, hsplit, hcut, rfl⟩
    · cases hcon
    · cases hr
      have hone : done = [] ∧ frames' = frames ∧ rest = [] := by
        cases done with
        | nil => simp_all
        | cons d done => simp at hsplit
      obtain ⟨rfl, rfl, rfl⟩ := hone
      exact .inr ⟨e, [], frames', transactions, cut, b, rfl, rfl, hcut, rfl⟩
  · rcases h₁ with ⟨-, -, rfl⟩ | ⟨e, done, frames', rest, cut, b, hcon, -⟩
    · rcases h₂ with ⟨a', rfl, rfl⟩ | ⟨e, done, frames', rest, cut, b, rfl, rfl, hcut, rfl⟩
      · exact .inl ⟨a', rfl, by simp⟩
      · exact .inr ⟨e, frames :: done, frames', rest, cut, b, rfl, rfl, hcut, by simp⟩
    · cases hcon

theorem appends_push (shadow : ShadowState) (layers : List UInt8) :
    Appends Tap.attempts (push_dirty_layers shadow layers : DriverM (Tap I) Unit)
      (Series (push_transactions shadow layers)) := by
  induction layers with
  | nil => exact series_nil ()
  | cons layer layers ih =>
      rw [push_dirty_layers, push_transactions, List.filterMap_cons]
      cases hcommand : keydef_command layer with
      | none => exact ih
      | some command =>
          by_cases hempty : (keydef_entries shadow layer).isEmpty = true
          · simp only [hempty, if_true]
            exact ih
          · simp only [hempty]
            refine series_bind (appends_with_abort ?_) ih
            rw [commit_keymap_frames_eq]
            exact appends_transact _

/-- The frames of a read transaction. -/
def read_frames (command : UInt8) : List FeatureFrame :=
  [encode_cmd CMD_TURN_ON_CUSTOMIZATION, encode_start_keydef_page command,
    encode_cmd CMD_COMMUNICATION_END]

theorem appends_read_pages (layer : UInt8) (entries : Keymap) (ps : List Nat) :
    Appends Tap.attempts (read_pages layer entries ps : DriverM (Tap I) Keymap)
      (fun _ ws => ws = []) := by
  induction ps generalizing entries with
  | nil => exact (Appends.pure Tap.attempts entries).weaken fun _ _ h => h.2
  | cons p ps ih =>
      refine ((appends_get_feature REPORT_ID).bind fun page =>
        ih (read_entries layer p page entries)).weaken ?_
      rintro r ws (⟨-, -, rfl⟩ | ⟨-, ws₁, ws₂, rfl, rfl, rfl⟩) <;> rfl

theorem appends_read_keydef_layer (command layer : UInt8) (entries : Keymap) :
    Appends Tap.attempts (read_keydef_layer command layer entries : DriverM (Tap I) Keymap)
      (Attempted (read_frames command)) := by
  have hlast : ∀ entries : Keymap, Appends Tap.attempts
      (pure entries : DriverM (Tap I) Keymap) (Attempted []) := by
    intro entries
    refine (Appends.pure Tap.attempts entries).weaken ?_
    rintro r ws ⟨rfl, rfl⟩
    exact .inl ⟨entries, rfl, rfl⟩
  refine attempted_cons _ (attempted_cons _ ?_)
  exact attempted_silent (appends_read_pages layer entries (List.range KEY_DEF_PAGES))
    fun entries => attempted_cons _ (hlast entries)

/-- The transactions of an attach-time read. -/
def read_transactions (layers : List UInt8) : List (List FeatureFrame) :=
  (layers.filterMap keydef_read_command).map read_frames

theorem appends_read_layers (entries : Keymap) (layers : List UInt8) :
    Appends Tap.attempts (read_layers entries layers : DriverM (Tap I) Keymap)
      (Series (read_transactions layers)) := by
  induction layers generalizing entries with
  | nil => exact series_nil entries
  | cons layer layers ih =>
      rw [read_layers, read_transactions, List.filterMap_cons]
      cases hcommand : keydef_read_command layer with
      | none => exact ih entries
      | some command =>
          exact series_cons (appends_read_keydef_layer command layer entries) ih fun _ => rfl

end Programs

end Clackd.Hal.Legacy
