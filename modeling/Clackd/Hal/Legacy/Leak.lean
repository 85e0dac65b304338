import Clackd.Hal.Legacy.Late

/-!
# Leaks

Within an operation nothing is begun behind a report that was given up on, so only
reports that are still on the way when an operation is called can leak into what
it sends.

## Main results

* `noLeak_call`: an operation leaks nothing if no report was on the way.
* `late_frame_leaks_iff`: a run leaks nothing if no operation that runs a
  transaction is called with a report on the way; and whenever one is, some course
  of the ioctls it starts leaks.
-/

namespace Clackd.Hal.Legacy

open Clackd.Foundation Clackd.Hal

/-! ## What the board sees -/

/-- The transaction a report belongs to: how many have begun up to it. -/
def transactionOf (issued : List Issue) (i : Nat) : Nat :=
  (issued.take (i + 1)).countP Issue.begins

/-- No report of one transaction reaches the board after one of a later
transaction. -/
def NoLeak (issued : List Issue) : Prop :=
  ∀ j (hj : j < issued.length) i (hi : i < issued.length),
    transactionOf issued i < transactionOf issued j →
      issued[i].ioctl.reaches = true → issued[j].ioctl.reaches = true →
        issued[i].lands ≤ issued[j].lands

instance (issued : List Issue) : Decidable (NoLeak issued) :=
  inferInstanceAs (Decidable (∀ j (_ : j < issued.length) i (_ : i < issued.length), _ → _))

theorem transactionOf_mono (issued : List Issue) {i j : Nat} (h : i ≤ j) :
    transactionOf issued i ≤ transactionOf issued j :=
  (List.take_sublist_take_left (by omega)).countP_le

/-- Somewhere between the reports of two transactions the second one begins. -/
theorem begins_between {issued : List Issue} {i j : Nat}
    (h : transactionOf issued i < transactionOf issued j) :
    ∃ k, ∃ hk : k < issued.length, i < k ∧ k ≤ j ∧ issued[k].begins = true := by
  by_contra hnone
  push Not at hnone
  have hij : i ≤ j := by
    apply Nat.le_of_not_lt
    intro hji
    have hle := transactionOf_mono issued hji.le
    omega
  have hsplit : issued.take (j + 1) =
      issued.take (i + 1) ++ (issued.drop (i + 1)).take (j - i) := by
    rw [show j + 1 = i + 1 + (j - i) by omega, List.take_add]
  have hzero : ((issued.drop (i + 1)).take (j - i)).countP Issue.begins = 0 := by
    apply List.countP_eq_zero.2
    intro x hx
    obtain ⟨n, hn, rfl⟩ := List.getElem_of_mem hx
    have hlen : n < j - i ∧ i + 1 + n < issued.length := by
      simp only [List.length_take, List.length_drop] at hn
      omega
    rw [List.getElem_take, List.getElem_drop]
    exact hnone (i + 1 + n) hlen.2 (by omega) (by omega)
  unfold transactionOf at h
  rw [hsplit, List.countP_append, hzero] at h
  omega

theorem transactionOf_append {issued ws : List Issue} {i : Nat} (hi : i < issued.length) :
    transactionOf (issued ++ ws) i = transactionOf issued i := by
  rw [transactionOf, transactionOf, List.take_append_of_le_length (by omega)]

/-- A report leaks behind the opening of a transaction that lands before it. -/
theorem leaks_behind {issued rest : List Issue} {x y : Issue} (hx : x ∈ issued)
    (hreaches : x.ioctl.reaches = true) (hbegins : y.begins = true)
    (hreaches' : y.ioctl.reaches = true) (hlands : y.lands < x.lands) :
    ¬ NoLeak (issued ++ y :: rest) := by
  intro hleak
  obtain ⟨i, hi, rfl⟩ := List.getElem_of_mem hx
  have hlater : transactionOf (issued ++ y :: rest) i <
      transactionOf (issued ++ y :: rest) issued.length := by
    rw [transactionOf_append hi]
    have hall : transactionOf issued i ≤ issued.countP Issue.begins :=
      (List.take_sublist _ _).countP_le
    have htake : (issued ++ y :: rest).take (issued.length + 1) = issued ++ [y] := by
      rw [List.take_append]
      simp
    have hopened : transactionOf (issued ++ y :: rest) issued.length =
        issued.countP Issue.begins + 1 := by
      rw [transactionOf, htake, List.countP_append, List.countP_singleton, if_pos hbegins]
    omega
  have hcon := hleak issued.length (by simp) i (by simp; omega) hlater
  have hy : (issued ++ y :: rest)[issued.length]? = some y := by simp
  rw [List.getElem_append_left hi, (List.getElem_of_getElem? hy).2] at hcon
  exact absurd (hcon hreaches hreaches') (Nat.not_le.2 hlands)

/-! ## Runs -/

namespace Gmk67Driver

variable {Text : Type} [SerdeJson Text]

/-- What happens to the driver. -/
inductive Moment where
  | call (op : ShadowOp)
  | wait (milliseconds : Nat)
  deriving DecidableEq, Repr

/-- One moment. -/
def pass (d : Gmk67Driver Bus Text) : Moment → Option (Gmk67Driver Bus Text)
  | .call op => some (Journal.call d op)
  | .wait milliseconds => some { d with io := { d.io with now := d.io.now + milliseconds } }

theorem timely_pass {d d' : Gmk67Driver Bus Text} {moment : Moment} (h : Timely d.io)
    (hpass : d.pass moment = some d') : Timely d'.io := by
  cases moment with
  | call op =>
      obtain rfl : Journal.call d op = d' := Option.some.inj hpass
      exact steady_timely.call d op h
  | wait milliseconds =>
      obtain rfl : { d with io := { d.io with now := d.io.now + milliseconds } } = d' :=
        Option.some.inj hpass
      exact h.later rfl (Nat.le_add_right _ _)

/-- An operation that runs a transaction is not called with a report on the
way. -/
def Quiet (d : Gmk67Driver Bus Text) : Moment → Prop
  | .call op => documented d op ≠ [] → d.io.Idle
  | .wait _ => True

instance (d : Gmk67Driver Bus Text) : ∀ moment, Decidable (Quiet d moment)
  | .call op => inferInstanceAs (Decidable (documented d op ≠ [] → d.io.Idle))
  | .wait _ => isTrue trivial

/-- What an operation sends has nothing land in it that was not on the way before. -/
theorem noLeak_call {d : Gmk67Driver Bus Text} {op : ShadowOp} (htimely : Timely d.io)
    (hleak : NoLeak d.io.issued) (hquiet : Quiet d (.call op)) :
    NoLeak (Journal.call d op).io.issued := by
  obtain ⟨ws, hws⟩ := call_issues d op
  have hordered := (steady_timely.call d op htimely).ordered
  rw [hws.issued] at hordered ⊢
  by_cases hsilent : documented d op = []
  · rw [hws.none_of_silent hsilent, List.append_nil]
    exact hleak
  · have hidle := hquiet hsilent
    intro j hj i hi hlt hreaches hreaches'
    obtain ⟨k, hk, hik, hkj, hbegins⟩ := begins_between hlt
    have hij : i < j := by omega
    rw [List.length_append] at hi hj
    by_cases hold : j < d.io.issued.length
    · -- Both were sent before the call.
      have hold' : i < d.io.issued.length := by omega
      rw [transactionOf_append hold', transactionOf_append hold] at hlt
      simp only [List.getElem_append_left hold, List.getElem_append_left hold'] at *
      exact hleak j hold i hold' hlt hreaches hreaches'
    · by_cases hold' : i < d.io.issued.length
      · -- The earlier one has landed before the call.
        have hearly : (d.io.issued ++ ws)[i].lands ≤ d.io.now := by
          rw [List.getElem_append_left hold'] at hreaches ⊢
          exact hidle _ (List.getElem_mem hold') hreaches
        have hlate : d.io.now ≤ (d.io.issued ++ ws)[j].issued_at := by
          rw [List.getElem_append_right (by omega)]
          exact hws.since _ (List.getElem_mem _)
        have hlands : (d.io.issued ++ ws)[j].issued_at ≤ (d.io.issued ++ ws)[j].lands :=
          Nat.le_add_right _ _
        omega
      · -- The driver has waited for the earlier one.
        have hwaited : ¬ (d.io.issued ++ ws)[i].gave_up := by
          rw [List.getElem_append_right (by omega)] at hbegins ⊢
          exact List.pairwise_iff_getElem.1 hws.waited _ _ _ _ (by omega) hbegins
        have hdone := List.pairwise_iff_getElem.1 hordered i j
          (by rw [List.length_append]; omega) (by rw [List.length_append]; omega) hij hwaited
        exact hdone.trans (Nat.le_add_right _ _)

/-- The same driver, with other ioctls to come. -/
def expecting (d : Gmk67Driver Bus Text) (schedule : Nat → Ioctl) : Gmk67Driver Bus Text :=
  { d with io := { d.io with schedule := schedule } }

omit [SerdeJson Text] in
theorem documented_expecting (d : Gmk67Driver Bus Text) (schedule : Nat → Ioctl) (op : ShadowOp) :
    documented (d.expecting schedule) op = documented d op := by
  cases op <;> rfl

/-- The next ioctl completes at once. -/
def atOnce (d : Gmk67Driver Bus Text) : Nat → Ioctl :=
  Function.update d.io.schedule d.io.started ⟨0, none, true, 0⟩

/-- With a report on the way, an operation that runs a transaction leaks it if its
first ioctl completes at once. -/
theorem leaks_atOnce {d : Gmk67Driver Bus Text} {op : ShadowOp} (hquiet : ¬ Quiet d (.call op)) :
    ¬ NoLeak (Journal.call (d.expecting d.atOnce) op).io.issued := by
  obtain ⟨hsome, hbusy⟩ := Classical.not_imp.1 hquiet
  simp only [Bus.Idle, not_forall, Nat.not_le] at hbusy
  obtain ⟨x, hx, hreaches, hlands⟩ := hbusy
  obtain ⟨ws, hws⟩ := call_issues (d.expecting d.atOnce) op
  obtain ⟨rest, rfl⟩ := hws.opening (by rw [documented_expecting]; exact hsome)
  have hnext : (d.expecting d.atOnce).io.next = ⟨0, none, true, 0⟩ := by
    simp [Bus.next, expecting, atOnce]
  rw [hws.issued]
  apply leaks_behind hx hreaches
  · simp [Issue.begins, Bus.sending]
  · simp [Bus.sending, hnext]
  · show (d.expecting d.atOnce).io.now + (d.expecting d.atOnce).io.next.delay < x.lands
    rw [hnext]
    exact hlands

/-- The driver of a board that nothing was sent to yet. -/
def attached (device_id : String) (timeout now : Nat) (schedule : Nat → Ioctl)
    (reports : Nat → FeatureFrame) (disk : Disk Text) (data_path : Option String)
    (matrix : UInt8 × UInt8) (layers : UInt8) (sync_on_attach : Bool) : Gmk67Driver Bus Text :=
  new ⟨device_id, timeout, now, schedule, reports, 0, []⟩ disk data_path matrix layers
    sync_on_attach

theorem always_noLeak {d : Gmk67Driver Bus Text} {moments : List Moment} (htimely : Timely d.io)
    (hleak : NoLeak d.io.issued) (hquiet : EveryStep pass Quiet d moments) :
    Always pass (fun d => NoLeak d.io.issued) d moments := by
  apply always_of_everyStep (I := fun d : Gmk67Driver Bus Text =>
    Timely d.io ∧ NoLeak d.io.issued) (Q := Quiet) _ (fun _ h => h.2) ⟨htimely, hleak⟩ hquiet
  rintro d moment d' ⟨htimely, hleak⟩ hquiet hpass
  refine ⟨timely_pass htimely hpass, ?_⟩
  cases moment with
  | call op =>
      obtain rfl : Journal.call d op = d' := Option.some.inj hpass
      exact noLeak_call htimely hleak hquiet
  | wait milliseconds =>
      obtain rfl : { d with io := { d.io with now := d.io.now + milliseconds } } = d' :=
        Option.some.inj hpass
      exact hleak

/-- Before an operation, whether it is called with a report on the way decides
whether it can leak. -/
theorem quiet_iff {d : Gmk67Driver Bus Text} (htimely : Timely d.io) (hleak : NoLeak d.io.issued)
    (op : ShadowOp) :
    Quiet d (.call op) ↔ ∀ schedule, (∀ n < d.io.started, schedule n = d.io.schedule n) →
      NoLeak (Journal.call (d.expecting schedule) op).io.issued := by
  constructor
  · intro hquiet schedule _
    refine noLeak_call (d := d.expecting schedule) (htimely.later rfl (Nat.le_refl _)) hleak ?_
    intro hsome
    rw [documented_expecting] at hsome
    exact hquiet hsome
  · intro hall
    by_contra hquiet
    apply leaks_atOnce hquiet
    apply hall
    intro n hn
    exact Function.update_of_ne hn.ne _ _

/-- No ioctl whose report reaches the board outlasts the timeout. -/
structure InTime (b : Bus) : Prop where
  coming : ∀ n, (b.schedule n).reaches = true → (b.schedule n).delay ≤ b.timeout
  sent : ∀ x ∈ b.issued, x.ioctl.reaches = true → ¬ x.gave_up

theorem steady_inTime : Steady fun b c : Bus => InTime b → InTime c where
  refl := fun _ h => h
  trans := fun _ _ _ hab hbc h => hbc (hab h)
  set := by
    intro payload b h
    refine ⟨h.coming, ?_⟩
    show ∀ x ∈ b.issued ++ [b.sending payload], x.ioctl.reaches = true → ¬ x.gave_up
    intro x hx hreaches hgave
    rcases List.mem_append.1 hx with hx | hx
    · exact h.sent x hx hreaches hgave
    · obtain rfl := List.mem_singleton.1 hx
      have hdelay := h.coming b.started hreaches
      have hlate : b.resumes_at < b.now + b.next.delay := hgave
      unfold Bus.resumes_at Bus.next at hlate
      omega
  get := fun _ _ h => ⟨h.coming, h.sent⟩

/-- As long as nothing outlasts the timeout, nothing is on the way when an
operation is called. -/
theorem quiet_of_inTime {d : Gmk67Driver Bus Text} (htimely : Timely d.io) (hin : InTime d.io)
    (moments : List Moment) : EveryStep pass Quiet d moments := by
  apply everyStep_of (J := fun d : Gmk67Driver Bus Text => Timely d.io ∧ InTime d.io)
    _ _ ⟨htimely, hin⟩
  · rintro d moment d' ⟨htimely, hin⟩ hpass
    refine ⟨timely_pass htimely hpass, ?_⟩
    cases moment with
    | call op =>
        obtain rfl : Journal.call d op = d' := Option.some.inj hpass
        exact steady_inTime.call d op hin
    | wait milliseconds =>
        obtain rfl : { d with io := { d.io with now := d.io.now + milliseconds } } = d' :=
          Option.some.inj hpass
        exact ⟨hin.coming, hin.sent⟩
  · rintro d moment d' ⟨htimely, hin⟩ -
    cases moment with
    | call op =>
        intro _ x hx hreaches
        exact htimely.done x hx (hin.sent x hx hreaches)
    | wait milliseconds => trivial

/-- Over every run, with every pattern of delays, timeouts and failures: if no
operation that runs a transaction is called with a report on the way, no report of
one transaction reaches the board after one of a later transaction; so it is if no
ioctl whose report reaches the board outlasts the timeout.  In every state that is
reached without a leak the condition is exact: an operation is called with no
report on the way exactly if it leaks nothing whatever the ioctls it starts do. -/
theorem late_frame_leaks_iff (device_id : String) (timeout now : Nat) (schedule : Nat → Ioctl)
    (reports : Nat → FeatureFrame) (disk : Disk Text) (data_path : Option String)
    (matrix : UInt8 × UInt8) (layers : UInt8) (sync_on_attach : Bool) (moments : List Moment) :
    let d := attached device_id timeout now schedule reports disk data_path matrix layers
      sync_on_attach
    (EveryStep pass Quiet d moments → Always pass (fun d => NoLeak d.io.issued) d moments) ∧
      ((∀ n, (schedule n).reaches = true → (schedule n).delay ≤ timeout) →
        EveryStep pass Quiet d moments) ∧
      ∀ d', run pass d moments = some d' → NoLeak d'.io.issued → ∀ op,
        (Quiet d' (.call op) ↔
          ∀ schedule', (∀ n < d'.io.started, schedule' n = d'.io.schedule n) →
            NoLeak (Journal.call (d'.expecting schedule') op).io.issued) := by
  intro d
  have hstart : Timely d.io := ⟨by simp [d, attached, new], by simp [d, attached, new]⟩
  refine ⟨?_, ?_, ?_⟩
  · apply always_noLeak hstart
    intro j hj
    simp [d, attached, new] at hj
  · intro hdelays
    exact quiet_of_inTime hstart ⟨hdelays, by simp [d, attached, new]⟩ moments
  · intro d' hrun hleak op
    have htimely : Timely d'.io := run_preserves (I := fun d : Gmk67Driver Bus Text => Timely d.io)
      (fun _ _ _ h hpass => timely_pass h hpass) hstart hrun
    exact quiet_iff htimely hleak op

/-- An ioctl that completes in ten milliseconds. -/
def prompt : Ioctl := ⟨10, none, true, 0⟩

/-- Every ioctl is prompt, except that of the first page of the first commit. -/
def oneStuck : Nat → Ioctl
  | 4 => ⟨5000, none, true, 0⟩
  | _ => prompt

/-- A commit, and when it has failed a while of nothing and a new colour. -/
def stuckRun : List Moment :=
  [.call (.set_keycode 0 0 0 4), .call .commit_to_nvram, .wait 3970, .call (.set_lighting 0 0 [])]

/-- The driver of a board that takes its time over one page. -/
def stuckBoard : Gmk67Driver Bus ShadowFile :=
  attached "ek68" DEFAULT_TIMEOUT 0 oneStuck (fun _ => encode_cmd 0)
    ⟨fun _ => none, fun _ => none, 0, fun _ => [], []⟩ none (5, 15) 2 false

/-- The page that was given up on reaches the board after the render transaction has
begun there. -/
theorem stale_page_lands_in_render :
    ¬ Always pass (fun d => NoLeak d.io.issued) stuckBoard stuckRun := by
  intro h
  have hend : (run pass stuckBoard stuckRun).map (fun d => decide (NoLeak d.io.issued)) =
      some false := by
    decide +kernel
  obtain ⟨d, hrun, hleak⟩ := Option.map_eq_some_iff.1 hend
  exact of_decide_eq_false hleak (h.last hrun)

/-- The same commit, but the colour waits until the page has reached the board. -/
def patientRun : List Moment :=
  [.call (.set_keycode 0 0 0 4), .call .commit_to_nvram, .wait 3990, .call (.set_lighting 0 0 [])]

/-- With the longer wait nothing leaks; with the shorter one the colour is asked for with
the page on the way, and there are ioctls with which it leaks. -/
theorem late_frame_leaks_iff_patient :
    Always pass (fun d => NoLeak d.io.issued) stuckBoard patientRun ∧
      ∃ d, run pass stuckBoard (stuckRun.take 3) = some d ∧
        ¬ ∀ schedule, (∀ n < d.io.started, schedule n = d.io.schedule n) →
          NoLeak (Journal.call (d.expecting schedule) (.set_lighting 0 0 [])).io.issued := by
  constructor
  · exact (late_frame_leaks_iff "ek68" DEFAULT_TIMEOUT 0 oneStuck (fun _ => encode_cmd 0)
      (⟨fun _ => none, fun _ => none, 0, fun _ => [], []⟩ : Disk ShadowFile) none (5, 15) 2 false
      patientRun).1 (by decide +kernel)
  · have hend : (run pass stuckBoard (stuckRun.take 3)).map (fun d =>
        decide (NoLeak d.io.issued ∧ ¬ Quiet d (.call (.set_lighting 0 0 [])))) = some true := by
      decide +kernel
    obtain ⟨d, hrun, hd⟩ := Option.map_eq_some_iff.1 hend
    obtain ⟨hleak, hquiet⟩ := of_decide_eq_true hd
    refine ⟨d, hrun, fun hall => hquiet ?_⟩
    exact ((late_frame_leaks_iff "ek68" DEFAULT_TIMEOUT 0 oneStuck (fun _ => encode_cmd 0)
      (⟨fun _ => none, fun _ => none, 0, fun _ => [], []⟩ : Disk ShadowFile) none (5, 15) 2 false
      (stuckRun.take 3)).2.2 d hrun hleak (.set_lighting 0 0 [])).2 hall

end Gmk67Driver

end Clackd.Hal.Legacy
