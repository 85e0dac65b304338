import Clackd.Foundation.Run

/-!
# Serial histories

What is seen of the moves of a run, in their order, is a history.  A sequential object
takes the operations of a history one after the other; each leaves a state and may give
an answer, which depends on the operations before it and on nothing after.

A concurrent machine is held to such an object by the history of its runs: its own state
is the state the history leaves, and what it answers is what the history answers.

## Main results

* `observed_append`: the history of a run that goes on is a continuation.
* `run_observed`: an invariant of the state and of the history so far.
* `answerAt_append`: a continuation leaves the answers as they are.
* `noted_append`: a continuation adds to what was noted.
-/

namespace Clackd.Foundation

universe u v w x

/-! ## What is seen of a run -/

section Observed

variable {σ : Type u} {ℓ : Type v} {ω : Type w}

/-- What is seen of the moves of a run, until the run stops. -/
def observed (step : σ → ℓ → Option σ) (see : σ → ℓ → σ → List ω) : σ → List ℓ → List ω
  | _, [] => []
  | s, l :: ls => (step s l).elim [] fun m => see s l m ++ observed step see m ls

variable {step : σ → ℓ → Option σ} {see : σ → ℓ → σ → List ω}

@[simp] theorem observed_nil (s : σ) : observed step see s [] = [] := rfl

theorem observed_cons {s m : σ} {l : ℓ} (hm : step s l = some m) (ls : List ℓ) :
    observed step see s (l :: ls) = see s l m ++ observed step see m ls := by
  rw [observed, hm]
  rfl

/-- A run goes on where its first part ends. -/
theorem observed_append {s m : σ} {xs : List ℓ} (hrun : run step s xs = some m) (ys : List ℓ) :
    observed step see s (xs ++ ys) = observed step see s xs ++ observed step see m ys := by
  induction xs generalizing s with
  | nil =>
      cases hrun
      rfl
  | cons x xs ih =>
      obtain ⟨n, hn, hrest⟩ := run_cons_some.1 hrun
      rw [List.cons_append, observed_cons hn, observed_cons hn, ih hrest, List.append_assoc]

/-- If whatever was seen before a move stays in agreement when the move adds to it, the
history of a run agrees with the state the run ends in. -/
theorem run_observed {P : List ω → σ → Prop}
    (hstep : ∀ history s l s', P history s → step s l = some s' → P (history ++ see s l s') s') :
    ∀ {ls : List ℓ} {history : List ω} {s s' : σ}, P history s → run step s ls = some s' →
      P (history ++ observed step see s ls) s' := by
  intro ls
  induction ls with
  | nil =>
      intro history s s' hs hrun
      cases hrun
      rw [observed_nil, List.append_nil]
      exact hs
  | cons l ls ih =>
      intro history s s' hs hrun
      obtain ⟨m, hm, hrest⟩ := run_cons_some.1 hrun
      rw [observed_cons hm, ← List.append_assoc]
      exact ih (hstep history s l m hs hm) hrest

end Observed

/-! ## Sequential objects -/

section Objects

variable {S : Type u} {O : Type v} {R : Type w} (act : S → O → S) (answer : S → O → Option R)

/-- The state a history leaves. -/
def play (first : S) (history : List O) : S := history.foldl act first

/-- The answer that the operation at a place of a history gives. -/
def answerAt (first : S) (history : List O) (n : Nat) : Option R :=
  history[n]?.bind fun op => answer (play act first (history.take n)) op

variable {act answer}

@[simp] theorem play_append (first : S) (history more : List O) :
    play act first (history ++ more) = play act (play act first history) more :=
  List.foldl_append

/-- A continuation leaves the answers as they are. -/
theorem answerAt_append {first : S} {history : List O} {n : Nat} (hn : n < history.length)
    (more : List O) :
    answerAt act answer first (history ++ more) n = answerAt act answer first history n := by
  rw [answerAt, answerAt, List.getElem?_append_left hn, List.take_append_of_le_length (by omega)]

/-- The answer of the operation that comes next. -/
theorem answerAt_length (first : S) (history : List O) (op : O) (more : List O) :
    answerAt act answer first (history ++ op :: more) history.length =
      answer (play act first history) op := by
  rw [answerAt, List.getElem?_append_right (Nat.le_refl _), Nat.sub_self, List.take_left' rfl]
  rfl

/-- An answer comes from a place of the history. -/
theorem lt_of_answerAt {first : S} {history : List O} {n : Nat} {r : R}
    (h : answerAt act answer first history n = some r) : n < history.length := by
  obtain ⟨op, hop, -⟩ := Option.bind_eq_some_iff.1 h
  exact (List.getElem?_eq_some_iff.1 hop).1

/-- Where one operation comes next, the answers are those of before, and its own. -/
theorem answerAt_snoc {first : S} {history : List O} {op : O} {n : Nat} {r : R}
    (h : answerAt act answer first (history ++ [op]) n = some r) :
    answerAt act answer first history n = some r ∨
      (n = history.length ∧ answer (play act first history) op = some r) := by
  have hlt := lt_of_answerAt h
  rw [List.length_append, List.length_singleton] at hlt
  by_cases hn : n < history.length
  · rw [answerAt_append hn] at h
    exact .inl h
  · obtain rfl : n = history.length := by omega
    rw [answerAt_length] at h
    exact .inr ⟨rfl, h⟩

/-! ### What is noted of a history -/

variable {ω : Type x}

/-- What is noted of the operations of a history as they are taken one after the other. -/
def noted (act : S → O → S) (note : S → O → List ω) : S → List O → List ω
  | _, [] => []
  | s, op :: history => note s op ++ noted act note (act s op) history

theorem noted_append (note : S → O → List ω) (first : S) (history more : List O) :
    noted act note first (history ++ more) =
      noted act note first history ++ noted act note (play act first history) more := by
  induction history generalizing first with
  | nil => rfl
  | cons op history ih =>
      rw [List.cons_append, noted, noted, ih, List.append_assoc]
      rfl

theorem noted_snoc (note : S → O → List ω) (first : S) (history : List O) (op : O) :
    noted act note first (history ++ [op]) =
      noted act note first history ++ note (play act first history) op := by
  rw [noted_append, noted, noted, List.append_nil]

end Objects

end Clackd.Foundation
