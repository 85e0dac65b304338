import Clackd.Foundation.Run

/-!
# Projections of a run

Part of a machine may be a machine of its own: its state is a function of the whole
state, and every move of the whole either is a move of the part, under a name of its
own, or leaves the part alone.  Then the part makes a run of its own, on the
schedule that is left when the other moves are deleted.

Which moves are the part's may depend on the state they are made in, so the
schedule of the part is read off the run of the whole.

## Main results

* `run_project`: the run of the part.
* `project_append`: the schedule of the part grows with that of the whole.
-/

namespace Clackd.Foundation

universe u v

variable {σ τ : Type u} {ℓ κ : Type v}

/-- The moves of the part, along the run of a schedule. -/
def project (step : σ → ℓ → Option σ) (keep : σ → ℓ → Bool) (rename : ℓ → κ) :
    σ → List ℓ → List κ
  | _, [] => []
  | s, l :: ls =>
      match step s l with
      | some s' =>
          if keep s l then rename l :: project step keep rename s' ls
          else project step keep rename s' ls
      | none => []

variable {step : σ → ℓ → Option σ} {keep : σ → ℓ → Bool} {rename : ℓ → κ}

theorem project_cons {s s' : σ} {l : ℓ} (h : step s l = some s') (ls : List ℓ) :
    project step keep rename s (l :: ls) =
      if keep s l then rename l :: project step keep rename s' ls
      else project step keep rename s' ls := by
  rw [project, h]

/-- The schedule of a longer run continues that of a shorter one. -/
theorem project_append {s m : σ} {xs : List ℓ} (hrun : run step s xs = some m) (ys : List ℓ) :
    project step keep rename s (xs ++ ys) =
      project step keep rename s xs ++ project step keep rename m ys := by
  induction xs generalizing s with
  | nil =>
      cases hrun
      rfl
  | cons l xs ih =>
      obtain ⟨s', hs', hrest⟩ := run_cons_some.1 hrun
      rw [List.cons_append, project_cons hs', project_cons hs', ih hrest]
      split
      · rfl
      · rfl

/-- If every move along the run is a move of the part or leaves it alone, the part
runs through its schedule. -/
theorem run_project {step' : τ → κ → Option τ} {part : σ → τ} {s m : σ} {ls : List ℓ}
    (hrun : run step s ls = some m)
    (hpart : ∀ (xs : List ℓ) (l : ℓ) (ys : List ℓ) (n n' : σ), ls = xs ++ l :: ys →
      run step s xs = some n → step n l = some n' →
        if keep n l then step' (part n) (rename l) = some (part n') else part n' = part n) :
    run step' (part s) (project step keep rename s ls) = some (part m) := by
  induction ls generalizing s with
  | nil =>
      cases hrun
      rfl
  | cons l ls ih =>
      obtain ⟨s', hs', hrest⟩ := run_cons_some.1 hrun
      have hfirst := hpart [] l ls s s' rfl rfl hs'
      have hlater : run step' (part s') (project step keep rename s' ls) = some (part m) := by
        apply ih hrest
        intro xs l' ys n n' hsplit hn hn'
        exact hpart (l :: xs) l' ys n n' (by rw [hsplit]; rfl) (run_cons_some.2 ⟨s', hs', hn⟩) hn'
      rw [project_cons hs']
      by_cases hkeep : keep s l = true
      · rw [if_pos hkeep] at hfirst ⊢
        exact run_cons_some.2 ⟨part s', hfirst, hlater⟩
      · rw [if_neg hkeep] at hfirst ⊢
        rw [← hfirst]
        exact hlater

end Clackd.Foundation
