import Clackd.Foundation.Run
import Mathlib.Algebra.BigOperators.Group.List.Basic
import Mathlib.Algebra.Ring.Nat

/-!
# Quantities along a run

Two bookkeeping arguments about a partial step function.

* **Balance.**  A stock that every step changes by what comes in and what goes out
  is, at the end of a run, what it was at its start plus all that came in less all
  that went out.
* **Weight.**  If every move of the machine's own lowers a weight and only moves
  from outside raise it, by a known amount, then a run has only as many moves of
  the machine's own as the weight it was given pays for, and from every state some
  schedule of such moves leads to a state where none is left.

## Main results

* `tally_balances`: the balance of a run.
* `own_moves_paid`: the number of own moves of a run is paid for.
* `exists_settled`: own moves can always be played out.
-/

namespace Clackd.Foundation

universe u v

variable {σ : Type u} {ℓ : Type v}

/-! ## Sums over lists with one entry replaced -/

/-- A sum over a list, when one entry is replaced. -/
theorem sum_map_set {α : Type u} (f : α → Nat) {xs : List α} {i : Nat} {x : α}
    (hx : xs[i]? = some x) (y : α) :
    ((xs.set i y).map f).sum + f x = (xs.map f).sum + f y := by
  induction xs generalizing i with
  | nil => cases hx
  | cons z xs ih =>
      cases i with
      | zero =>
          cases hx
          simp only [List.set_cons_zero, List.map_cons, List.sum_cons]
          omega
      | succ i =>
          have hrest := ih (i := i) hx
          simp only [List.set_cons_succ, List.map_cons, List.sum_cons] at hrest ⊢
          omega

/-- One more entry adds its share to a sum. -/
theorem sum_map_snoc {α : Type u} (f : α → Nat) (xs : List α) (x : α) :
    ((xs ++ [x]).map f).sum = (xs.map f).sum + f x := by
  simp

/-! ## Balance -/

/-- What the moves of a run add up to, until the run stops. -/
def tally (step : σ → ℓ → Option σ) (amount : σ → ℓ → Nat) : σ → List ℓ → Nat
  | _, [] => 0
  | s, l :: ls => (step s l).elim 0 fun m => amount s l + tally step amount m ls

variable {step : σ → ℓ → Option σ}

@[simp] theorem tally_nil (amount : σ → ℓ → Nat) (s : σ) : tally step amount s [] = 0 := rfl

theorem tally_cons {amount : σ → ℓ → Nat} {s m : σ} {l : ℓ} (hm : step s l = some m)
    (ls : List ℓ) : tally step amount s (l :: ls) = amount s l + tally step amount m ls := by
  rw [tally, hm]
  rfl

/-- An amount that is read off the label alone is summed over the schedule. -/
theorem tally_of_label {amount : ℓ → Nat} {s s' : σ} {ls : List ℓ}
    (hrun : run step s ls = some s') :
    tally step (fun _ l => amount l) s ls = (ls.map amount).sum := by
  induction ls generalizing s with
  | nil => rfl
  | cons l ls ih =>
      obtain ⟨m, hm, hrest⟩ := run_cons_some.1 hrun
      rw [tally_cons hm, ih hrest, List.map_cons, List.sum_cons]

/-- A stock that every step changes by an inflow and an outflow. -/
theorem tally_balances {I : σ → Prop} (stock : σ → Nat) (inflow outflow : σ → ℓ → Nat)
    (hI : ∀ s l s', I s → step s l = some s' → I s')
    (hstep : ∀ s l s', I s → step s l = some s' →
      stock s' + outflow s l = stock s + inflow s l) :
    ∀ {ls : List ℓ} {s s' : σ}, I s → run step s ls = some s' →
      stock s' + tally step outflow s ls = stock s + tally step inflow s ls := by
  intro ls
  induction ls with
  | nil =>
      intro s s' _ hrun
      cases hrun
      rfl
  | cons l ls ih =>
      intro s s' hs hrun
      obtain ⟨m, hm, hrest⟩ := run_cons_some.1 hrun
      have hone := hstep s l m hs hm
      have hmore := ih (hI s l m hs hm) hrest
      rw [tally_cons hm, tally_cons hm]
      omega

/-! ## Weight -/

/-- No move of a kind is possible. -/
def Settled (step : σ → ℓ → Option σ) (own : ℓ → Bool) (s : σ) : Prop :=
  ∀ l, own l = true → step s l = none

/-- Own moves lower the weight, and every move brings at most what it pays. -/
theorem own_moves_paid (weight : σ → Nat) (own : ℓ → Bool) (pays : ℓ → Nat)
    (hstep : ∀ s l s', step s l = some s' →
      weight s' + (if own l = true then 1 else 0) ≤ weight s + pays l) :
    ∀ {ls : List ℓ} {s s' : σ}, run step s ls = some s' →
      weight s' + ls.countP own ≤ weight s + (ls.map pays).sum := by
  intro ls
  induction ls with
  | nil =>
      intro s s' hrun
      cases hrun
      simp
  | cons l ls ih =>
      intro s s' hrun
      obtain ⟨m, hm, hrest⟩ := run_cons_some.1 hrun
      have hone := hstep s l m hm
      have hmore := ih hrest
      rw [List.countP_cons, List.map_cons, List.sum_cons]
      omega

/-- Where own moves pay nothing, they can be played out from every state. -/
theorem exists_settled (weight : σ → Nat) (own : ℓ → Bool) (pays : ℓ → Nat)
    (hstep : ∀ s l s', step s l = some s' →
      weight s' + (if own l = true then 1 else 0) ≤ weight s + pays l)
    (hpays : ∀ l, own l = true → pays l = 0) (s : σ) :
    ∃ ls s', (∀ l ∈ ls, own l = true) ∧ run step s ls = some s' ∧ Settled step own s' := by
  -- The induction is on a bound of the weight, which each own move lowers.
  have hbounded : ∀ (n : Nat) (s : σ), weight s ≤ n →
      ∃ ls s', (∀ l ∈ ls, own l = true) ∧ run step s ls = some s' ∧ Settled step own s' := by
    intro n
    induction n with
    | zero =>
        intro s hs
        refine ⟨[], s, by simp, rfl, ?_⟩
        intro l hl
        cases hm : step s l with
        | none => rfl
        | some m =>
            have hone := hstep s l m hm
            rw [if_pos hl, hpays l hl] at hone
            omega
    | succ n ih =>
        intro s hs
        by_cases hsettled : Settled step own s
        · exact ⟨[], s, by simp, rfl, hsettled⟩
        · simp only [Settled, not_forall] at hsettled
          obtain ⟨l, hl, hmove⟩ := hsettled
          obtain ⟨m, hm⟩ := Option.ne_none_iff_exists'.1 hmove
          have hone := hstep s l m hm
          rw [if_pos hl, hpays l hl] at hone
          obtain ⟨ls, s', hls, hrun, hend⟩ := ih m (by omega)
          refine ⟨l :: ls, s', ?_, run_cons_some.2 ⟨m, hm, hrun⟩, hend⟩
          intro x hx
          rcases List.mem_cons.1 hx with rfl | hx
          · exact hl
          · exact hls x hx
  exact hbounded (weight s) s (Nat.le_refl _)

/-- So can the moves of a part of them. -/
theorem exists_settled_of_imp (weight : σ → Nat) (own : ℓ → Bool) (pays : ℓ → Nat)
    (hstep : ∀ s l s', step s l = some s' →
      weight s' + (if own l = true then 1 else 0) ≤ weight s + pays l)
    (hpays : ∀ l, own l = true → pays l = 0) {due : ℓ → Bool}
    (himp : ∀ l, due l = true → own l = true) (s : σ) :
    ∃ ls s', (∀ l ∈ ls, due l = true) ∧ run step s ls = some s' ∧ Settled step due s' := by
  refine exists_settled weight due pays ?_ (fun l hl => hpays l (himp l hl)) s
  intro s l s' hmove
  have hspends := hstep s l s' hmove
  by_cases hdue : due l = true
  · rw [if_pos (himp l hdue)] at hspends
    rw [if_pos hdue]
    exact hspends
  · rw [if_neg hdue]
    omega

end Clackd.Foundation
