import Clackd.Hal.Legacy.Bracket

/-!
# What sequences keep

The driver's programs on its board are put together from single frames and reads,
by sequences and by sequences that abort what was cut short.  What these keep,
every operation has.

## Main results

* `Closed.push`, `Closed.read_layers`: a property of programs that sequences keep,
  with an abort in between, holds of every program the driver runs on its board.
* `Steady.call`: a relation on boards that frames and reads respect is respected by
  every operation.
-/

namespace Clackd.Hal.Legacy

open Clackd.Foundation Clackd.Hal

variable {I Text : Type} [Gmk67Io I] [SerdeJson Text]

/-- A property of programs that the single frames and reads have and sequences
keep, also those that abort what was cut short. -/
structure Closed (G : ∀ {α : Type}, DriverM I α → Prop) : Prop where
  pure : ∀ {α : Type} (a : α), G (pure a : DriverM I α)
  set : ∀ payload, G (Gmk67Io.set_feature payload)
  get : ∀ report_id, G (Gmk67Io.get_feature report_id)
  ack : G (read_ack : DriverM I Unit)
  bind : ∀ {α β : Type} {x : DriverM I α} {f : α → DriverM I β},
    G x → (∀ a, G (f a)) → G (x >>= f)
  aborted : ∀ {α β : Type} {x : DriverM I α} {k : Except DriverError α → DriverM I β},
    G x → (∀ a, G (k (.ok a))) → (∀ e, k (.error e) = do abort_transaction; throw e) →
      G (attempt x >>= k)

namespace Closed

variable {G : ∀ {α : Type}, DriverM I α → Prop}

theorem transact (h : Closed G) (frames : List FeatureFrame) :
    G (Legacy.transact frames : DriverM I Unit) := by
  induction frames with
  | nil => exact h.pure ()
  | cons frame frames ih =>
      cases frames with
      | nil => exact h.set frame
      | cons next frames => exact h.bind (h.set frame) fun _ => h.bind h.ack fun _ => ih

theorem render (h : Closed G) (lighting : Lighting) :
    G (render_effect lighting : DriverM I Unit) :=
  h.aborted (h.transact (render_frames lighting)) h.pure fun _ => rfl

theorem push (h : Closed G) (shadow : ShadowState) (layers : List UInt8) :
    G (push_dirty_layers shadow layers : DriverM I Unit) := by
  induction layers with
  | nil => exact h.pure ()
  | cons layer layers ih =>
      rw [push_dirty_layers]
      cases keydef_command layer with
      | none => exact ih
      | some command =>
          show G (if (keydef_entries shadow layer).isEmpty = true then _ else _)
          by_cases hempty : (keydef_entries shadow layer).isEmpty = true
          · rw [if_pos hempty]
            exact ih
          · rw [if_neg hempty]
            apply h.bind (h.aborted _ h.pure fun _ => rfl) fun _ => ih
            rw [commit_keymap_frames_eq]
            exact h.transact _

theorem read_pages (h : Closed G) (layer : UInt8) (entries : Keymap) (ps : List Nat) :
    G (Legacy.read_pages layer entries ps : DriverM I Keymap) := by
  induction ps generalizing entries with
  | nil => exact h.pure entries
  | cons p ps ih => exact h.bind (h.get REPORT_ID) fun _ => ih _

theorem read_keydef_layer (h : Closed G) (command layer : UInt8) (entries : Keymap) :
    G (Legacy.read_keydef_layer command layer entries : DriverM I Keymap) := by
  apply h.bind (h.set _)
  intro _
  apply h.bind h.ack
  intro _
  apply h.bind (h.set _)
  intro _
  apply h.bind h.ack
  intro _
  apply h.bind (h.read_pages _ _ _)
  intro entries
  apply h.bind (h.set _)
  intro _
  exact h.bind h.ack fun _ => h.pure entries

theorem read_layers (h : Closed G) (entries : Keymap) (layers : List UInt8) :
    G (Legacy.read_layers entries layers : DriverM I Keymap) := by
  induction layers generalizing entries with
  | nil => exact h.pure entries
  | cons layer layers ih =>
      rw [Legacy.read_layers]
      cases keydef_read_command layer with
      | none => exact ih entries
      | some command => exact h.aborted (h.read_keydef_layer command layer entries) ih fun _ => rfl

/-- What is left as it is by nothing, and is made so by every program with the
property, is made so by every operation. -/
theorem call (h : Closed G) {P : I → I → Prop} (d : Gmk67Driver I Text) (op : ShadowOp)
    (hsilent : P d.io d.io)
    (hrun : ∀ {α : Type} (x : DriverM I α), G x → P d.io (exec x d.io).2) :
    P d.io (Journal.call d op).io := by
  cases Gmk67Driver.program d op with
  | silent hdocumented hio =>
      rw [hio]
      exact hsilent
  | render lighting hdocumented hio hok =>
      rw [hio]
      exact hrun _ (h.render lighting)
  | push hdocumented hio hok =>
      rw [hio]
      exact hrun _ (h.push d.shadow.prepare_commit d.shadow.dirty_layers)
  | read hdocumented hio hok =>
      rw [hio]
      exact hrun _ (h.read_layers ∅ _)

end Closed

/-- A relation between boards before and after that frames and reads respect. -/
structure Steady (R : I → I → Prop) : Prop where
  refl : ∀ a, R a a
  trans : ∀ a b c, R a b → R b c → R a c
  set : ∀ payload, Keeps R (Gmk67Io.set_feature payload)
  get : ∀ report_id, Keeps R (Gmk67Io.get_feature report_id)

variable {R : I → I → Prop}

theorem Steady.ack (h : Steady R) : Keeps R (read_ack : DriverM I Unit) :=
  Keeps.bind h.trans (h.get REPORT_ID).attempt fun _ => Keeps.pure h.refl ()

theorem Steady.abort (h : Steady R) {α : Type} (e : DriverError) :
    Keeps R (do abort_transaction; throw e : DriverM I α) :=
  Keeps.bind h.trans (Keeps.bind h.trans (h.set _).attempt fun _ => Keeps.pure h.refl ())
    fun _ => Keeps.throw h.refl e

theorem Steady.closed (h : Steady R) : Closed (fun x : DriverM I _ => Keeps R x) where
  pure := fun a => Keeps.pure h.refl a
  set := h.set
  get := h.get
  ack := h.ack
  bind := fun hx hf => Keeps.bind h.trans hx hf
  aborted := by
    intro α β x k hx hok herror
    apply Keeps.bind h.trans hx.attempt
    intro r
    cases r with
    | ok a => exact hok a
    | error e =>
        rw [herror e]
        exact h.abort e

/-- What frames and reads respect, every operation of the driver does. -/
theorem Steady.call (h : Steady R) (d : Gmk67Driver I Text) (op : ShadowOp) :
    R d.io (Journal.call d op).io :=
  h.closed.call d op (h.refl d.io) fun _ hx => hx d.io

end Clackd.Hal.Legacy
