import Clackd.Hal.Legacy.Closed

/-!
# Frames that arrive late

The transport gives up on an ioctl after a timeout and does not cancel it: the
report reaches the board whenever the ioctl completes.  The driver goes on at once,
with an abort frame and then with whatever it is asked next.

`Bus` is a board behind that transport.  A schedule says of each ioctl how long it
takes, what it returns and whether its report reaches the board, and how late the
driver is resumed.  Every report is noted with the times between which its ioctl
runs.

Within an operation the driver stops at the first report it gives up on.

## Main results

* `closed_stopping`: nothing is begun behind a report that was given up on.
* `begins_push`, `begins_read_layers`: what runs a transaction first of all opens
  one.
* `call_issues`: what an operation issues.
-/

namespace Clackd.Hal.Legacy

open Clackd.Foundation Clackd.Hal
open Std (ExtTreeMap)

/-- Default GMK67 transport timeout, in milliseconds. -/
def DEFAULT_TIMEOUT : Nat := 1000

/-- What one ioctl turns out to do. -/
structure Ioctl where
  /-- Milliseconds until it completes. -/
  delay : Nat
  /-- The error it returns, if any. -/
  error : Option DriverError
  /-- Whether the board gets the report, at completion. -/
  reaches : Bool
  /-- How much later than due the waiting driver is resumed. -/
  late : Nat

/-- A feature report that was issued, and when. -/
structure Issue where
  frame : FeatureFrame
  ioctl : Ioctl
  issued_at : Nat
  /-- When the driver stopped waiting for it. -/
  left_at : Nat

namespace Issue

/-- The report begins a transaction. -/
def begins (x : Issue) : Bool := x.frame = encode_cmd CMD_TURN_ON_CUSTOMIZATION

/-- When the report reaches the board, if it does. -/
def lands (x : Issue) : Nat := x.issued_at + x.ioctl.delay

/-- The driver stopped waiting before the ioctl completed. -/
def gave_up (x : Issue) : Prop := x.left_at < x.lands

end Issue

/-- The transport of one board. -/
structure Bus where
  device_id : String
  timeout : Nat
  now : Nat
  /-- What the ioctls do, in the order they are started. -/
  schedule : Nat → Ioctl
  /-- What the reads find. -/
  reports : Nat → FeatureFrame
  started : Nat
  issued : List Issue

namespace Bus

/-- The ioctl that is started next. -/
def next (b : Bus) : Ioctl := b.schedule b.started

/-- When the driver stops waiting for the next ioctl: it has completed, or its
deadline has passed. -/
def resumes_at (b : Bus) : Nat := b.now + min b.next.delay b.timeout + b.next.late

/-- Awaits a blocking ioctl task under a deadline. -/
def join_with_timeout {α : Type} (b : Bus) (op : String) (value : α) : Except DriverError α :=
  if b.resumes_at < b.now + b.next.delay then .error (.timeout b.device_id op)
  else match b.next.error with
    | some e => .error e
    | none => .ok value

/-- The bus once the driver goes on. -/
def resumed (b : Bus) : Bus := { b with now := b.resumes_at, started := b.started + 1 }

/-- A report sent now. -/
def sending (b : Bus) (payload : FeatureFrame) : Issue := ⟨payload, b.next, b.now, b.resumes_at⟩

/-- No report is on the way: every ioctl that was started and has its report reach
the board has completed. -/
def Idle (b : Bus) : Prop := ∀ x ∈ b.issued, x.ioctl.reaches = true → x.lands ≤ b.now

instance (b : Bus) : Decidable b.Idle :=
  inferInstanceAs (Decidable (∀ x ∈ b.issued, x.ioctl.reaches = true → x.lands ≤ b.now))

end Bus

instance : Gmk67Io Bus where
  set_feature payload := primitive fun b =>
    (b.join_with_timeout "set_feature" (),
      { b.resumed with issued := b.issued ++ [b.sending payload] })
  get_feature _ := primitive fun b =>
    (b.join_with_timeout "get_feature" (b.reports b.started), b.resumed)

/-! ## Time -/

/-- What the driver has waited for is over before it goes on. -/
structure Timely (b : Bus) : Prop where
  done : ∀ x ∈ b.issued, ¬ x.gave_up → x.lands ≤ b.now
  ordered : b.issued.Pairwise fun x y => ¬ x.gave_up → x.lands ≤ y.issued_at

theorem Bus.now_le_resumes_at (b : Bus) : b.now ≤ b.resumes_at := by
  unfold resumes_at
  omega

theorem Timely.later {b c : Bus} (h : Timely b) (hissued : c.issued = b.issued)
    (hnow : b.now ≤ c.now) : Timely c := by
  constructor
  · rw [hissued]
    intro x hx hdone
    exact (h.done x hx hdone).trans hnow
  · rw [hissued]
    exact h.ordered

theorem steady_timely : Steady fun b c : Bus => Timely b → Timely c where
  refl := fun _ h => h
  trans := fun _ _ _ hab hbc h => hbc (hab h)
  set := by
    intro payload b h
    show Timely { b.resumed with issued := b.issued ++ [b.sending payload] }
    constructor
    · intro x hx hdone
      rcases List.mem_append.1 hx with hx | hx
      · exact (h.done x hx hdone).trans b.now_le_resumes_at
      · obtain rfl := List.mem_singleton.1 hx
        exact Nat.le_of_not_lt hdone
    · apply List.pairwise_append.2
      refine ⟨h.ordered, by simp, ?_⟩
      intro x hx y hy hdone
      obtain rfl := List.mem_singleton.1 hy
      exact h.done x hx hdone
  get := by
    intro report_id b h
    exact h.later rfl b.now_le_resumes_at

/-- Nothing is taken back, and what is sent is sent from now on. -/
def Bus.GoesOn (b c : Bus) : Prop :=
  b.now ≤ c.now ∧ ∃ ws, c.issued = b.issued ++ ws ∧ ∀ x ∈ ws, b.now ≤ x.issued_at

theorem steady_goesOn : Steady Bus.GoesOn where
  refl := fun _ => ⟨Nat.le_refl _, [], by simp, by simp⟩
  trans := by
    rintro a b c ⟨hab, ws, hissued, hws⟩ ⟨hbc, vs, hissued', hvs⟩
    refine ⟨hab.trans hbc, ws ++ vs, by rw [hissued', hissued, List.append_assoc], ?_⟩
    intro x hx
    rcases List.mem_append.1 hx with hx | hx
    · exact hws x hx
    · exact hab.trans (hvs x hx)
  set := fun payload b => ⟨b.now_le_resumes_at, [b.sending payload], rfl, by simp [Bus.sending]⟩
  get := fun report_id b => ⟨b.now_le_resumes_at, [], by
    simp [Gmk67Io.get_feature, primitive, exec, Bus.resumed], by simp⟩

/-! ## What one operation issues -/

/-- Whoever is told of success has waited for every report, and nothing begins
behind a report that was given up on. -/
def Stopping {α : Type} (r : Except DriverError α) (ws : List Issue) : Prop :=
  (r.isOk = true → ∀ x ∈ ws, ¬ x.gave_up) ∧
    ws.Pairwise fun x y => y.begins = true → ¬ x.gave_up

theorem stopping_nil {α : Type} (r : Except DriverError α) : Stopping r [] := by
  simp [Stopping]

theorem stopping_append {α β : Type} {a : α} {r : Except DriverError β} {ws vs : List Issue}
    (h : Stopping (.ok a : Except DriverError α) ws) (h' : Stopping r vs) :
    Stopping r (ws ++ vs) := by
  have hws : ∀ x ∈ ws, ¬ x.gave_up := h.1 rfl
  constructor
  · intro hok x hx
    rcases List.mem_append.1 hx with hx | hx
    · exact hws x hx
    · exact h'.1 hok x hx
  · exact List.pairwise_append.2 ⟨h.2, h'.2, fun x hx _ _ _ => hws x hx⟩

theorem appends_sending (payload : FeatureFrame) :
    Appends Bus.issued (Gmk67Io.set_feature payload : DriverM Bus Unit) Stopping := by
  intro b
  refine ⟨[b.sending payload], rfl, ?_, by simp⟩
  intro hok x hx hgave
  obtain rfl := List.mem_singleton.1 hx
  have hlate : b.resumes_at < b.now + b.next.delay := hgave
  have herror : b.join_with_timeout "set_feature" () = .error (.timeout b.device_id "set_feature") :=
    if_pos hlate
  have hcon : (b.join_with_timeout "set_feature" ()).isOk = true := hok
  rw [herror] at hcon
  simp [Except.isOk, Except.toBool] at hcon

theorem appends_silent {α : Type} {x : DriverM Bus α}
    (h : ∀ b, (exec x b).2.issued = b.issued) : Appends Bus.issued x Stopping :=
  (Appends.of_kept h).weaken fun r ws hws => by
    rw [hws]
    exact stopping_nil r

/-- The abort frame begins nothing, so it may come behind a report that was given
up on. -/
theorem appends_abort_frame {α : Type} (e : DriverError) :
    Appends Bus.issued (do abort_transaction; throw e : DriverM Bus α) fun r ws =>
      r = .error e ∧ ∀ x ∈ ws, x.begins = false := by
  intro b
  refine ⟨[b.sending (encode_cmd CMD_COMMUNICATION_END)], rfl, rfl, ?_⟩
  intro x hx
  obtain rfl := List.mem_singleton.1 hx
  apply decide_eq_false
  intro hcon
  exact absurd (cmd_injective hcon) (by decide)

theorem closed_stopping : Closed (fun x : DriverM Bus _ => Appends Bus.issued x Stopping) where
  pure := fun _ => appends_silent fun _ => rfl
  set := appends_sending
  get := fun _ => appends_silent fun _ => rfl
  ack := appends_silent fun _ => rfl
  bind := by
    intro α β x f hx hf
    refine (hx.bind hf).weaken ?_
    rintro r ws (⟨e, rfl, h⟩ | ⟨a, ws₁, ws₂, rfl, h₁, h₂⟩)
    · exact ⟨nofun, h.2⟩
    · exact stopping_append h₁ h₂
  aborted := by
    intro α β x k hx hok herror b
    obtain ⟨ws, hlog, hws⟩ := hx b
    rw [exec_bind, exec_attempt]
    dsimp only
    cases hr : (exec x b).1 with
    | ok a =>
        obtain ⟨vs, hlog', hvs⟩ := hok a (exec x b).2
        rw [hr] at hws
        exact ⟨ws ++ vs, by rw [hlog', hlog, List.append_assoc], stopping_append hws hvs⟩
    | error e =>
        obtain ⟨vs, hlog', herr, hvs⟩ := appends_abort_frame (α := β) e (exec x b).2
        rw [herror e]
        refine ⟨ws ++ vs, by rw [hlog', hlog, List.append_assoc], ?_, ?_⟩
        · rw [herr]
          nofun
        · refine List.pairwise_append.2 ⟨hws.2, ?_, ?_⟩
          · exact List.Pairwise.imp_of_mem (R := fun _ _ => True)
              (fun _ hy _ hbegins => absurd hbegins (by rw [hvs _ hy]; decide))
              (List.pairwise_of_forall fun _ _ => trivial)
          · intro x _ y hy hbegins
            exact absurd hbegins (by rw [hvs y hy]; decide)

/-- The program sends the first frame of a transaction before anything else. -/
def Opens {α : Type} (x : DriverM Bus α) : Prop :=
  ∀ b, ∃ rest, (exec x b).2.issued =
    b.issued ++ b.sending (encode_cmd CMD_TURN_ON_CUSTOMIZATION) :: rest

theorem opens_set : Opens (Gmk67Io.set_feature (encode_cmd CMD_TURN_ON_CUSTOMIZATION)) :=
  fun _ => ⟨[], rfl⟩

theorem Opens.attempt {α : Type} {x : DriverM Bus α} (h : Opens x) : Opens (attempt x) := h

theorem Opens.bind {α β : Type} {x : DriverM Bus α} {f : α → DriverM Bus β} (hx : Opens x)
    (hf : ∀ a, Keeps Bus.GoesOn (f a)) : Opens (x >>= f) := by
  intro b
  obtain ⟨rest, hissued⟩ := hx b
  rw [exec_bind]
  rcases hexec : exec x b with ⟨e | a, c⟩
  · rw [hexec] at hissued
    exact ⟨rest, hissued⟩
  · rw [hexec] at hissued
    obtain ⟨-, ws, hmore, -⟩ := hf a c
    exact ⟨rest ++ ws, by rw [hmore, hissued, List.append_assoc, List.cons_append]⟩

theorem Opens.aborted {α β : Type} {x : DriverM Bus α} {k : Except DriverError α → DriverM Bus β}
    (hx : Opens x) (hok : ∀ a, Keeps Bus.GoesOn (k (.ok a)))
    (herror : ∀ e, k (.error e) = do abort_transaction; throw e) :
    Opens (Foundation.attempt x >>= k) := by
  apply hx.attempt.bind
  intro r
  cases r with
  | ok a => exact hok a
  | error e =>
      rw [herror e]
      exact steady_goesOn.abort e

theorem opens_transact (frames : List FeatureFrame) :
    Opens (transact (encode_cmd CMD_TURN_ON_CUSTOMIZATION :: frames) : DriverM Bus Unit) := by
  cases frames with
  | nil => exact opens_set
  | cons frame frames =>
      apply opens_set.bind
      intro _
      exact steady_goesOn.closed.bind steady_goesOn.ack fun _ => steady_goesOn.closed.transact _

theorem opens_with_abort (frames : List FeatureFrame) :
    Opens (with_abort (transact (encode_cmd CMD_TURN_ON_CUSTOMIZATION :: frames))) := by
  unfold with_abort
  exact (opens_transact frames).aborted (fun a => Keeps.pure steady_goesOn.refl a) fun _ => rfl

/-- A program that sends nothing if it runs no transactions, and otherwise first of
all the opening of the first. -/
def Begins {α : Type} (transactions : List (List FeatureFrame)) (x : DriverM Bus α) : Prop :=
  (transactions = [] ∧ ∀ b, (exec x b).2.issued = b.issued) ∨ (transactions ≠ [] ∧ Opens x)

theorem begins_render (lighting : Lighting) :
    Begins [render_frames lighting] (render_effect lighting : DriverM Bus Unit) :=
  .inr ⟨by simp, opens_with_abort [encode_start_effect_page, lighting.encode,
    encode_cmd CMD_COMMUNICATION_END, encode_cmd CMD_LED_EFFECT_START]⟩

theorem begins_push (shadow : ShadowState) (layers : List UInt8) :
    Begins (push_transactions shadow layers) (push_dirty_layers shadow layers) := by
  induction layers with
  | nil => exact .inl ⟨rfl, fun _ => rfl⟩
  | cons layer layers ih =>
      rw [push_dirty_layers, push_transactions, List.filterMap_cons]
      cases hcommand : keydef_command layer with
      | none => exact ih
      | some command =>
          by_cases hempty : (keydef_entries shadow layer).isEmpty = true
          · simp only [hempty, if_true]
            exact ih
          · simp only [hempty]
            refine .inr ⟨by simp, ?_⟩
            apply Opens.bind _ fun _ => steady_goesOn.closed.push shadow layers
            rw [commit_keymap, commit_keymap_frames_eq]
            exact opens_with_abort _

theorem begins_read_layers (entries : Keymap) (layers : List UInt8) :
    Begins (read_transactions layers) (read_layers entries layers : DriverM Bus Keymap) := by
  induction layers generalizing entries with
  | nil => exact .inl ⟨rfl, fun _ => rfl⟩
  | cons layer layers ih =>
      rw [read_layers, read_transactions, List.filterMap_cons]
      cases hcommand : keydef_read_command layer with
      | none => exact ih entries
      | some command =>
          refine .inr ⟨by simp, ?_⟩
          apply Opens.aborted _ (steady_goesOn.closed.read_layers · layers) fun _ => rfl
          apply opens_set.bind
          intro _
          apply steady_goesOn.closed.bind steady_goesOn.ack
          intro _
          apply steady_goesOn.closed.bind (steady_goesOn.set _)
          intro _
          apply steady_goesOn.closed.bind steady_goesOn.ack
          intro _
          apply steady_goesOn.closed.bind (steady_goesOn.closed.read_pages _ _ _)
          intro entries
          apply steady_goesOn.closed.bind (steady_goesOn.set _)
          intro _
          exact steady_goesOn.closed.bind steady_goesOn.ack fun _ => steady_goesOn.closed.pure _

namespace Gmk67Driver

variable {Text : Type} [SerdeJson Text]

/-- What an operation issues: nothing if it runs no transaction, and otherwise
first the opening of one; all of it from now on, and nothing begun behind a report
that was given up on. -/
structure Issues (d : Gmk67Driver Bus Text) (op : ShadowOp) (ws : List Issue) : Prop where
  issued : (Journal.call d op).io.issued = d.io.issued ++ ws
  since : ∀ x ∈ ws, d.io.now ≤ x.issued_at
  waited : ws.Pairwise fun x y => y.begins = true → ¬ x.gave_up
  none_of_silent : documented d op = [] → ws = []
  opening : documented d op ≠ [] →
    ∃ rest, ws = d.io.sending (encode_cmd CMD_TURN_ON_CUSTOMIZATION) :: rest

theorem begins_call (d : Gmk67Driver Bus Text) (op : ShadowOp) :
    (documented d op = [] ∧ (Journal.call d op).io.issued = d.io.issued) ∨
      (documented d op ≠ [] ∧ ∃ rest, (Journal.call d op).io.issued =
        d.io.issued ++ d.io.sending (encode_cmd CMD_TURN_ON_CUSTOMIZATION) :: rest) := by
  have hprogram : ∀ {α : Type} {x : DriverM Bus α}, Begins (documented d op) x →
      (Journal.call d op).io = (exec x d.io).2 →
        (documented d op = [] ∧ (Journal.call d op).io.issued = d.io.issued) ∨
          (documented d op ≠ [] ∧ ∃ rest, (Journal.call d op).io.issued =
            d.io.issued ++ d.io.sending (encode_cmd CMD_TURN_ON_CUSTOMIZATION) :: rest) := by
    intro α x hbegins hio
    rw [hio]
    rcases hbegins with ⟨hnone, hsame⟩ | ⟨hsome, hopens⟩
    · exact .inl ⟨hnone, hsame d.io⟩
    · exact .inr ⟨hsome, hopens d.io⟩
  cases program d op with
  | silent hdocumented hio => exact .inl ⟨hdocumented, by rw [hio]⟩
  | render lighting hdocumented hio hok =>
      refine hprogram ?_ hio
      rw [hdocumented]
      exact begins_render lighting
  | push hdocumented hio hok =>
      refine hprogram ?_ hio
      rw [hdocumented]
      exact begins_push d.shadow.prepare_commit d.shadow.dirty_layers
  | read hdocumented hio hok =>
      refine hprogram ?_ hio
      rw [hdocumented]
      exact begins_read_layers ∅ _

theorem call_issues (d : Gmk67Driver Bus Text) (op : ShadowOp) : ∃ ws, Issues d op ws := by
  obtain ⟨-, ws, hissued, hsince⟩ := steady_goesOn.call d op
  have hwaited : ∃ vs, (Journal.call d op).io.issued = d.io.issued ++ vs ∧
      vs.Pairwise fun x y => y.begins = true → ¬ x.gave_up := by
    apply closed_stopping.call (P := fun b c => ∃ vs, c.issued = b.issued ++ vs ∧
      vs.Pairwise fun x y => y.begins = true → ¬ x.gave_up)
    · exact ⟨[], by simp, by simp⟩
    · intro α x hx
      obtain ⟨vs, hlog, -, hpair⟩ := hx d.io
      exact ⟨vs, hlog, hpair⟩
  obtain ⟨vs, hvs, hpair⟩ := hwaited
  obtain rfl : ws = vs := List.append_cancel_left (hissued.symm.trans hvs)
  refine ⟨ws, hissued, hsince, hpair, ?_, ?_⟩
  · intro hnone
    rcases begins_call d op with ⟨-, hsame⟩ | ⟨hsome, -⟩
    · rw [hissued] at hsame
      exact List.append_right_eq_self.1 hsame
    · exact absurd hnone hsome
  · intro hsome
    rcases begins_call d op with ⟨hnone, -⟩ | ⟨-, rest, hrest⟩
    · exact absurd hnone hsome
    · exact ⟨rest, List.append_cancel_left (hissued.symm.trans hrest)⟩

end Gmk67Driver

end Clackd.Hal.Legacy
