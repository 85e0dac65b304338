import Mathlib.Data.List.Induction
import Clackd.Foundation.History

/-!
# What is still to be done

A component that puts work off keeps what was last asked for until it is done.
Read off a record, that is `pending`: the value of the last entry that puts one,
unless a later entry clears it.  A record is `Earned` if nothing is cleared that
was not pending, and then it clears at most as often as it puts.

`Accounts` compares a component with a record of what it does: whatever the record
was before, what the component appends keeps the two in agreement.

## Main results

* `pending_eq_some_iff`: what is pending was put, and nothing came after it.
* `countP_clears_le`: clears, and what is still pending, are at most the puts.
* `Accounts.trans`: agreement is kept by sequences.
-/

namespace Clackd.Foundation

universe u v

section AtEach

variable {α : Type u} {Q : List α → α → Prop}

/-- At every entry of the record, `Q` holds of what came before it. -/
def AtEach (Q : List α → α → Prop) (log : List α) : Prop :=
  ∀ before x after, log = before ++ x :: after → Q before x

theorem atEach_nil : AtEach Q [] := by
  intro before x after h
  cases before <;> cases h

theorem atEach_snoc (log : List α) (y : α) : AtEach Q (log ++ [y]) ↔ AtEach Q log ∧ Q log y := by
  constructor
  · intro h
    constructor
    · intro before x after hlog
      exact h before x (after ++ [y]) (by rw [hlog]; simp)
    · exact h log y [] rfl
  · rintro ⟨hlog, hlast⟩ before x after hsplit
    -- Either the entry is the last, or it was there before.
    rcases List.eq_nil_or_concat after with rfl | ⟨after, z, rfl⟩
    · obtain ⟨rfl, hxy⟩ := List.append_inj' hsplit rfl
      rw [List.singleton_inj] at hxy
      exact hxy ▸ hlast
    · rw [List.concat_eq_append, ← List.cons_append, ← List.append_assoc] at hsplit
      exact hlog before x after (List.append_inj' hsplit rfl).1

/-- Entries of which `Q` holds wherever they stand. -/
theorem atEach_append_of_irrelevant {log more : List α} (h : ∀ x ∈ more, ∀ before, Q before x)
    (hlog : AtEach Q log) : AtEach Q (log ++ more) := by
  induction more using List.reverseRecOn with
  | nil => rwa [List.append_nil]
  | append_singleton more x ih =>
      rw [← List.append_assoc, atEach_snoc]
      exact ⟨ih fun y hy => h y (List.mem_append_left _ hy), h x (by simp) _⟩

end AtEach

section Pending

variable {α : Type u} {V : Type v} (puts : α → Option V) (clears : α → Bool)

/-- One more entry. -/
def pendingAfter (p : Option V) (x : α) : Option V :=
  (puts x).or (if clears x then none else p)

/-- The value of the last entry that puts one, unless a later one clears it. -/
def pending (log : List α) : Option V := log.foldl (pendingAfter puts clears) none

/-- Nothing is cleared that is not pending. -/
def Earned (log : List α) : Prop :=
  ∀ before x after, log = before ++ x :: after → clears x = true →
    (pending puts clears before).isSome = true

@[simp] theorem pending_nil : pending puts clears [] = none := rfl

theorem pending_snoc (log : List α) (x : α) : pending puts clears (log ++ [x]) =
    pendingAfter puts clears (pending puts clears log) x := by
  rw [pending, List.foldl_append]
  rfl

variable {puts clears}

/-- Entries that neither put nor clear change nothing. -/
theorem pending_append_of_irrelevant {log more : List α}
    (h : ∀ x ∈ more, puts x = none ∧ clears x = false) :
    pending puts clears (log ++ more) = pending puts clears log := by
  induction more using List.reverseRecOn with
  | nil => rw [List.append_nil]
  | append_singleton more x ih =>
      obtain ⟨hputs, hclears⟩ := h x (by simp)
      rw [← List.append_assoc, pending_snoc, ih fun y hy => h y (List.mem_append_left _ hy),
        pendingAfter, hputs, hclears]
      rfl

/-- What is pending was put, and since then nothing was put or cleared. -/
theorem pending_eq_some_iff (log : List α) (v : V) : pending puts clears log = some v ↔
    ∃ before x after, log = before ++ x :: after ∧ puts x = some v ∧
      ∀ y ∈ after, puts y = none ∧ clears y = false := by
  constructor
  · intro h
    induction log using List.reverseRecOn with
    | nil => cases h
    | append_singleton log x ih =>
        rw [pending_snoc, pendingAfter] at h
        cases hputs : puts x with
        | some v' =>
            rw [hputs, Option.some_or] at h
            exact ⟨log, x, [], rfl, hputs.trans h, nofun⟩
        | none =>
            rw [hputs, Option.none_or] at h
            cases hclears : clears x with
            | true =>
                rw [hclears] at h
                cases h
            | false =>
                rw [hclears] at h
                obtain ⟨before, y, after, rfl, hy, hafter⟩ := ih h
                refine ⟨before, y, after ++ [x], by simp, hy, ?_⟩
                intro z hz
                rcases List.mem_append.1 hz with hz | hz
                · exact hafter z hz
                · rw [List.mem_singleton.1 hz]
                  exact ⟨hputs, hclears⟩
  · rintro ⟨before, x, after, rfl, hx, hafter⟩
    rw [← List.singleton_append, ← List.append_assoc, pending_append_of_irrelevant hafter,
      pending_snoc, pendingAfter, hx, Option.some_or]

/-- Something is pending exactly if it was put and not cleared since. -/
theorem pending_isSome_iff (log : List α) : (pending puts clears log).isSome = true ↔
    Since (fun x => (puts x).isSome = true) (fun x => clears x = true) log := by
  induction log using List.reverseRecOn with
  | nil =>
      constructor
      · intro h
        cases h
      · intro h
        exact absurd h not_since_nil
  | append_singleton log x ih =>
      rw [pending_snoc, since_snoc, pendingAfter, ← ih, Option.isSome_or, Bool.or_eq_true]
      cases clears x <;> simp

/-! ## Counting -/

theorem earned_nil : Earned puts clears [] := atEach_nil

theorem earned_snoc (log : List α) (y : α) : Earned puts clears (log ++ [y]) ↔
    Earned puts clears log ∧ (clears y = true → (pending puts clears log).isSome = true) :=
  atEach_snoc (Q := fun before x => clears x = true →
    (pending puts clears before).isSome = true) log y

theorem earned_append_of_irrelevant {log more : List α} (h : ∀ x ∈ more, clears x = false)
    (hlog : Earned puts clears log) : Earned puts clears (log ++ more) := by
  refine atEach_append_of_irrelevant (fun x hx before hclears => ?_) hlog
  rw [h x hx] at hclears
  cases hclears

/-- Clears, and what is still pending, are at most the puts. -/
theorem countP_clears_le {log : List α} (h : Earned puts clears log) :
    log.countP clears + (if (pending puts clears log).isSome then 1 else 0) ≤
      log.countP fun x => (puts x).isSome := by
  induction log using List.reverseRecOn with
  | nil => simp
  | append_singleton log x ih =>
      obtain ⟨hlog, hlast⟩ := (earned_snoc log x).1 h
      have hcount := ih hlog
      rw [List.countP_append, List.countP_append, List.countP_singleton, List.countP_singleton,
        pending_snoc, pendingAfter]
      cases hclears : clears x with
      | true =>
          have hpending := hlast hclears
          rw [if_pos hpending] at hcount
          cases hputs : puts x with
          | none => simpa using hcount
          | some v =>
              simp only [Option.some_or, Option.isSome_some, if_true]
              omega
      | false =>
          cases hputs : puts x with
          | none => simpa using hcount
          | some v =>
              simp only [Option.some_or, Option.isSome_some, if_true, Bool.false_eq_true, if_false]
              split at hcount <;> omega

end Pending

/-! ## A component and its record -/

section Accounts

variable {σ : Type u} {ω : Type v} {log : σ → List ω} {P : List ω → σ → Prop}

/-- A component goes from one state to another and appends to its log; whatever
record agreed with it before, that record with the new entries agrees with it
afterwards. -/
def Accounts (log : σ → List ω) (P : List ω → σ → Prop) (s s' : σ) : Prop :=
  ∃ es, log s' = log s ++ es ∧ ∀ record, P record s → P (record ++ es) s'

/-- Nothing that matters has changed. -/
theorem Accounts.of_kept {s s' : σ} (hlog : log s' = log s) (hP : ∀ record, P record s → P record s') :
    Accounts log P s s' :=
  ⟨[], by rw [hlog, List.append_nil], fun record h => by rw [List.append_nil]; exact hP record h⟩

theorem Accounts.refl (s : σ) : Accounts log P s s := .of_kept rfl fun _ h => h

theorem Accounts.trans {s m s' : σ} (h : Accounts log P s m) (h' : Accounts log P m s') :
    Accounts log P s s' := by
  obtain ⟨es, hlog, hP⟩ := h
  obtain ⟨es', hlog', hP'⟩ := h'
  refine ⟨es ++ es', by rw [hlog', hlog, List.append_assoc], ?_⟩
  intro record hrecord
  rw [← List.append_assoc]
  exact hP' _ (hP record hrecord)

/-- The component's own log is such a record. -/
theorem Accounts.own {s s' : σ} (h : Accounts log P s s') (hs : P (log s) s) : P (log s') s' := by
  obtain ⟨es, hlog, hP⟩ := h
  rw [hlog]
  exact hP _ hs

end Accounts

end Clackd.Foundation
