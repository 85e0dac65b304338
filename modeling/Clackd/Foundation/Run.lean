import Mathlib.Data.List.Basic

/-!
# Runs of a label-driven machine

Every concurrent or stateful component of this development is a *partial step
function* `step : σ → ℓ → Option σ`: the label says which party moves and what
its environment answers, and `none` says the move is not possible in that
state.  A schedule is a list of labels, so "for every interleaving" is "for
every list".

This module is the part that does not depend on what the machine is.  It
defines a run, a property of every state of a run (`Always`) and a property of
every step taken (`EveryStep`), and proves the induction rules once.

## Main results

* `run_preserves`: a step-invariant holds at the end of a run.
* `run_preserves_of_everyStep`: the same when the invariant is only preserved
  by steps that meet a condition, and every step of the run meets it.
* `always_of_everyStep`: then it holds in every state of the run.
* `always_iff_everyStep`: when each single step keeps the property exactly
  if it meets the condition, a run keeps it throughout exactly if all its
  steps meet the condition.
* `run_chronicle`: an invariant of the state and of what the run has put on
  record so far.
-/

namespace Clackd.Foundation

universe u v

variable {σ : Type u} {ℓ : Type v}

/-- The state after a schedule, if every move of it was possible. -/
def run (step : σ → ℓ → Option σ) : σ → List ℓ → Option σ
  | s, [] => some s
  | s, l :: ls => (step s l).bind fun s' => run step s' ls

/-- `P` holds in every state the schedule passes through, both ends
included. -/
def Always (step : σ → ℓ → Option σ) (P : σ → Prop) : σ → List ℓ → Prop
  | s, [] => P s
  | s, l :: ls => P s ∧ ∀ s', step s l = some s' → Always step P s' ls

/-- Every move taken along the schedule meets `Q`, read in the state just
before the move. -/
def EveryStep (step : σ → ℓ → Option σ) (Q : σ → ℓ → Prop) : σ → List ℓ → Prop
  | _, [] => True
  | s, l :: ls => ∀ s', step s l = some s' → Q s l ∧ EveryStep step Q s' ls

instance everyStepDecidable (step : σ → ℓ → Option σ) (Q : σ → ℓ → Prop)
    [∀ s l, Decidable (Q s l)] : ∀ s ls, Decidable (EveryStep step Q s ls)
  | _, [] => isTrue trivial
  | s, l :: ls =>
      match hm : step s l with
      | none => isTrue fun s' h => by rw [hm] at h; cases h
      | some m =>
          have := everyStepDecidable step Q m ls
          decidable_of_iff (Q s l ∧ EveryStep step Q m ls)
            ⟨fun h s' hs' => by rw [hm] at hs'; cases hs'; exact h, fun h => h m hm⟩

/-- A state some schedule leads to. -/
def Reachable (step : σ → ℓ → Option σ) (s s' : σ) : Prop :=
  ∃ ls, run step s ls = some s'

variable {step : σ → ℓ → Option σ}

@[simp] theorem run_nil (s : σ) : run step s [] = some s := rfl

theorem run_cons (s : σ) (l : ℓ) (ls : List ℓ) :
    run step s (l :: ls) = (step s l).bind fun s' => run step s' ls := rfl

/-- The first move of a non-empty run was possible. -/
theorem run_cons_some {s s' : σ} {l : ℓ} {ls : List ℓ} :
    run step s (l :: ls) = some s' ↔
      ∃ m, step s l = some m ∧ run step m ls = some s' := by
  rw [run_cons, Option.bind_eq_some_iff]

theorem run_append (s : σ) (xs ys : List ℓ) :
    run step s (xs ++ ys) = (run step s xs).bind fun m => run step m ys := by
  induction xs generalizing s with
  | nil => rfl
  | cons x xs ih =>
      rw [List.cons_append, run_cons, run_cons, Option.bind_assoc]
      congr 1
      funext m
      exact ih m

/-- A run splits at any point of its schedule. -/
theorem run_append_some {s s' : σ} {xs ys : List ℓ} :
    run step s (xs ++ ys) = some s' ↔
      ∃ m, run step s xs = some m ∧ run step m ys = some s' := by
  rw [run_append, Option.bind_eq_some_iff]

/-- The rest of a run goes on from where its first part ends. -/
theorem run_suffix {s m s' : σ} {xs ys : List ℓ} (hxs : run step s xs = some m)
    (hrun : run step s (xs ++ ys) = some s') : run step m ys = some s' := by
  rw [run_append, hxs] at hrun
  exact hrun

theorem run_singleton (s : σ) (l : ℓ) : run step s [l] = step s l := by
  rw [run_cons]
  cases step s l <;> rfl

/-- Where every move is possible, every schedule is. -/
theorem run_isSome (h : ∀ s l, (step s l).isSome = true) (ls : List ℓ) (s : σ) :
    (run step s ls).isSome = true := by
  induction ls generalizing s with
  | nil => rfl
  | cons l ls ih =>
      obtain ⟨m, hm⟩ := Option.isSome_iff_exists.1 (h s l)
      rw [run_cons, hm]
      exact ih m

theorem Reachable.refl (s : σ) : Reachable step s s := ⟨[], rfl⟩

theorem Reachable.tail {s m s' : σ} {l : ℓ} (h : Reachable step s m)
    (hl : step m l = some s') : Reachable step s s' := by
  obtain ⟨ls, hls⟩ := h
  refine ⟨ls ++ [l], ?_⟩
  rw [run_append, hls, Option.bind_some, run_singleton, hl]

/-! ## Invariants -/

/-- A property every step preserves holds at the end of a run. -/
theorem run_preserves {I : σ → Prop}
    (hstep : ∀ s l s', I s → step s l = some s' → I s') :
    ∀ {ls : List ℓ} {s s' : σ}, I s → run step s ls = some s' → I s' := by
  intro ls
  induction ls with
  | nil =>
      intro s s' hs hrun
      cases hrun
      exact hs
  | cons l ls ih =>
      intro s s' hs hrun
      obtain ⟨m, hm, hrest⟩ := run_cons_some.1 hrun
      exact ih (hstep s l m hs hm) hrest

/-- A property preserved by the steps that meet `Q` holds at the end of a run
whose steps all meet `Q`. -/
theorem run_preserves_of_everyStep {I : σ → Prop} {Q : σ → ℓ → Prop}
    (hstep : ∀ s l s', I s → Q s l → step s l = some s' → I s') :
    ∀ {ls : List ℓ} {s s' : σ}, I s → EveryStep step Q s ls →
      run step s ls = some s' → I s' := by
  intro ls
  induction ls with
  | nil =>
      intro s s' hs _ hrun
      cases hrun
      exact hs
  | cons l ls ih =>
      intro s s' hs hQ hrun
      obtain ⟨m, hm, hrest⟩ := run_cons_some.1 hrun
      obtain ⟨hq, hQrest⟩ := hQ m hm
      exact ih (hstep s l m hs hq hm) hQrest hrest

/-! ## Properties of every state of a run -/

theorem Always.head {P : σ → Prop} {s : σ} {ls : List ℓ}
    (h : Always step P s ls) : P s := by
  cases ls with
  | nil => exact h
  | cons l ls => exact h.1

/-- `Always` says what its name says: the property holds after every initial
part of the schedule. -/
theorem always_iff {P : σ → Prop} {s : σ} {ls : List ℓ} :
    Always step P s ls ↔
      ∀ xs ys, ls = xs ++ ys → ∀ m, run step s xs = some m → P m := by
  induction ls generalizing s with
  | nil =>
      constructor
      · intro h xs ys hsplit m hm
        obtain ⟨rfl, rfl⟩ := List.nil_eq_append_iff.1 hsplit
        cases hm
        exact h
      · intro h
        exact h [] [] rfl s rfl
  | cons l ls ih =>
      constructor
      · intro h xs ys hsplit m hm
        cases xs with
        | nil =>
            cases hm
            exact h.1
        | cons x xs =>
            rw [List.cons_append] at hsplit
            injection hsplit with hl hls
            subst hl
            obtain ⟨n, hn, hrest⟩ := run_cons_some.1 hm
            exact ih.1 (h.2 n hn) xs ys hls m hrest
      · intro h
        refine ⟨h [] (l :: ls) rfl s rfl, ?_⟩
        intro n hn
        refine ih.2 ?_
        intro xs ys hsplit m hm
        refine h (l :: xs) ys (by rw [hsplit]; rfl) m ?_
        exact run_cons_some.2 ⟨n, hn, hm⟩

theorem Always.last {P : σ → Prop} {s s' : σ} {ls : List ℓ}
    (h : Always step P s ls) (hrun : run step s ls = some s') : P s' :=
  always_iff.1 h ls [] (List.append_nil ls).symm s' hrun

/-- A step-invariant holds in every state of every run. -/
theorem always_of_preserves {I P : σ → Prop}
    (hstep : ∀ s l s', I s → step s l = some s' → I s')
    (hP : ∀ s, I s → P s) {s : σ} (hs : I s) (ls : List ℓ) :
    Always step P s ls := by
  refine always_iff.2 ?_
  intro xs ys _ m hm
  exact hP m (run_preserves hstep hs hm)

/-- An invariant that only the steps meeting `Q` preserve holds in every state
of a run whose steps all meet `Q`. -/
theorem always_of_everyStep {I P : σ → Prop} {Q : σ → ℓ → Prop}
    (hstep : ∀ s l s', I s → Q s l → step s l = some s' → I s')
    (hP : ∀ s, I s → P s) {s : σ} {ls : List ℓ} (hs : I s)
    (hQ : EveryStep step Q s ls) : Always step P s ls := by
  induction ls generalizing s with
  | nil => exact hP s hs
  | cons l ls ih =>
      refine ⟨hP s hs, ?_⟩
      intro m hm
      obtain ⟨hq, hQrest⟩ := hQ m hm
      exact ih (hstep s l m hs hq hm) hQrest

/-- The exact form: `J` holds throughout, and a step from a state with `P`
ends in a state with `P` exactly when it meets `Q`.  Then `P` holds in every
state of a run exactly when every step of the run meets `Q`. -/
theorem always_iff_everyStep {J P : σ → Prop} {Q : σ → ℓ → Prop}
    (hJ : ∀ s l s', J s → step s l = some s' → J s')
    (hPQ : ∀ s l s', J s → P s → step s l = some s' → (P s' ↔ Q s l))
    {s : σ} (ls : List ℓ) (hs : J s) (hPs : P s) :
    Always step P s ls ↔ EveryStep step Q s ls := by
  induction ls generalizing s with
  | nil => exact ⟨fun _ => trivial, fun _ => hPs⟩
  | cons l ls ih =>
      constructor
      · intro h m hm
        have hPm : P m := (h.2 m hm).head
        refine ⟨(hPQ s l m hs hPs hm).1 hPm, ?_⟩
        exact (ih (hJ s l m hs hm) hPm).1 (h.2 m hm)
      · intro h
        refine ⟨hPs, ?_⟩
        intro m hm
        obtain ⟨hq, hrest⟩ := h m hm
        have hPm : P m := (hPQ s l m hs hPs hm).2 hq
        exact (ih (hJ s l m hs hm) hPm).2 hrest

/-- Two properties that agree wherever the invariant holds agree along every
run. -/
theorem always_congr {J P Q : σ → Prop}
    (hJ : ∀ s l s', J s → step s l = some s' → J s')
    (hPQ : ∀ s, J s → (P s ↔ Q s)) {s : σ} (hs : J s) (ls : List ℓ) :
    Always step P s ls ↔ Always step Q s ls := by
  induction ls generalizing s with
  | nil => exact hPQ s hs
  | cons l ls ih =>
      constructor
      · intro h
        exact ⟨(hPQ s hs).1 h.1, fun m hm => (ih (hJ s l m hs hm)).1 (h.2 m hm)⟩
      · intro h
        exact ⟨(hPQ s hs).2 h.1, fun m hm => (ih (hJ s l m hs hm)).2 (h.2 m hm)⟩

/-! ## Properties of every step of a run -/

theorem everyStep_of {J : σ → Prop} {Q : σ → ℓ → Prop}
    (hJ : ∀ s l s', J s → step s l = some s' → J s')
    (hQ : ∀ s l s', J s → step s l = some s' → Q s l)
    {s : σ} (hs : J s) (ls : List ℓ) : EveryStep step Q s ls := by
  induction ls generalizing s with
  | nil => trivial
  | cons l ls ih =>
      intro m hm
      exact ⟨hQ s l m hs hm, ih (hJ s l m hs hm)⟩

/-- A property of every step of a run holds of the steps of its last part. -/
theorem EveryStep.right {Q : σ → ℓ → Prop} {xs ys : List ℓ} {s m : σ}
    (h : EveryStep step Q s (xs ++ ys)) (hrun : run step s xs = some m) :
    EveryStep step Q m ys := by
  induction xs generalizing s with
  | nil =>
      cases hrun
      exact h
  | cons x xs ih =>
      obtain ⟨n, hn, hrest⟩ := run_cons_some.1 hrun
      exact ih (h n hn).2 hrest

/-- What every step either keeps or ends for good, as the step meets `Q` or not, is
still there at the end of a run exactly if every step met `Q`. -/
theorem run_iff_everyStep {J G : σ → Prop} {Q : σ → ℓ → Prop}
    (hJ : ∀ s l s', J s → step s l = some s' → J s')
    (hG : ∀ s l s', J s → step s l = some s' → (G s' ↔ G s ∧ Q s l)) :
    ∀ {ls : List ℓ} {s s' : σ}, J s → G s → run step s ls = some s' →
      (G s' ↔ EveryStep step Q s ls) := by
  intro ls
  induction ls with
  | nil =>
      intro s s' _ hs hrun
      cases hrun
      exact ⟨fun _ => trivial, fun _ => hs⟩
  | cons l ls ih =>
      intro s s' hJs hs hrun
      obtain ⟨m, hm, hrest⟩ := run_cons_some.1 hrun
      have hJm := hJ s l m hJs hm
      have hGm := hG s l m hJs hm
      constructor
      · intro hs' m' hm'
        rw [hm] at hm'
        obtain rfl := Option.some.inj hm'
        -- Once ended it would not be there at the end.
        have hmid : G m := by
          by_contra hgone
          have hgone' : J s' ∧ ¬ G s' := run_preserves (I := fun s => J s ∧ ¬ G s)
            (fun s l s' h hstep => ⟨hJ s l s' h.1 hstep,
              fun hcon => h.2 ((hG s l s' h.1 hstep).1 hcon).1⟩) ⟨hJm, hgone⟩ hrest
          exact hgone'.2 hs'
        exact ⟨(hGm.1 hmid).2, (ih hJm hmid hrest).1 hs'⟩
      · intro hevery
        obtain ⟨hq, hevery⟩ := hevery m hm
        have hmid : G m := hGm.2 ⟨hs, hq⟩
        exact (ih hJm hmid hrest).2 hevery

/-- Two step properties that agree wherever the invariant holds agree along
every run. -/
theorem everyStep_congr {J : σ → Prop} {Q R : σ → ℓ → Prop}
    (hJ : ∀ s l s', J s → step s l = some s' → J s')
    (hQR : ∀ s l s', J s → step s l = some s' → (Q s l ↔ R s l))
    {s : σ} (hs : J s) (ls : List ℓ) :
    EveryStep step Q s ls ↔ EveryStep step R s ls := by
  induction ls generalizing s with
  | nil => exact Iff.rfl
  | cons l ls ih =>
      constructor
      · intro h m hm
        obtain ⟨hq, hrest⟩ := h m hm
        exact ⟨(hQR s l m hs hm).1 hq, (ih (hJ s l m hs hm)).1 hrest⟩
      · intro h m hm
        obtain ⟨hr, hrest⟩ := h m hm
        exact ⟨(hQR s l m hs hm).2 hr, (ih (hJ s l m hs hm)).2 hrest⟩

/-! ## What a run puts on record -/

section Chronicle

universe w

variable {ω : Type w} {out : σ → σ → List ω}

/-- What `out` says of the moves of a run, in their order, until the run
stops. -/
def chronicle (step : σ → ℓ → Option σ) (out : σ → σ → List ω) : σ → List ℓ → List ω
  | _, [] => []
  | s, l :: ls =>
      match step s l with
      | none => []
      | some m => out s m ++ chronicle step out m ls

@[simp] theorem chronicle_nil (s : σ) : chronicle step out s [] = [] := rfl

theorem chronicle_cons {s m : σ} {l : ℓ} (hm : step s l = some m) (ls : List ℓ) :
    chronicle step out s (l :: ls) = out s m ++ chronicle step out m ls := by
  rw [chronicle, hm]

/-- If whatever is on record before a move stays in agreement when the move adds
to it, then the record of a run agrees with the state the run ends in. -/
theorem run_chronicle {P : List ω → σ → Prop}
    (hstep : ∀ record s l s', P record s → step s l = some s' → P (record ++ out s s') s') :
    ∀ {ls : List ℓ} {record : List ω} {s s' : σ}, P record s → run step s ls = some s' →
      P (record ++ chronicle step out s ls) s' := by
  intro ls
  induction ls with
  | nil =>
      intro record s s' hs hrun
      cases hrun
      rw [chronicle_nil, List.append_nil]
      exact hs
  | cons l ls ih =>
      intro record s s' hs hrun
      obtain ⟨m, hm, hrest⟩ := run_cons_some.1 hrun
      rw [chronicle_cons hm, ← List.append_assoc]
      exact ih (hstep record s l m hs hm) hrest

end Chronicle

end Clackd.Foundation
