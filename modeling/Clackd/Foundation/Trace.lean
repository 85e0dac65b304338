import Clackd.Foundation.Fallible

/-!
# Programs that append to a log

Part of the state of a program is a list that the program only ever appends to:
what it has sent, in order.  `Appends log x P` says that every run of `x` appends
some entries, and that `P` holds of its result and these entries.  A sequence
appends what its first part appends and then what its second part does.

`Stops` and `Blames` are about logs of what went wrong: every entry, or the first one,
stands for the error that the run ends in.

## Main results

* `Appends.bind`: the rule for sequences, an early return included.
* `Appends.zoom`: programs on a component.
* `Stops.bind`, `Blames.bind`: the same for logs of what went wrong.
-/

namespace Clackd.Foundation

variable {ε σ τ α β ω : Type}

/-- Every run of `x` appends entries to the log that, with its result, meet
`P`. -/
def Appends (log : σ → List ω) (x : Fallible ε σ α) (P : Except ε α → List ω → Prop) : Prop :=
  ∀ s, ∃ ws, log (exec x s).2 = log s ++ ws ∧ P (exec x s).1 ws

variable {log : σ → List ω}

theorem Appends.weaken {x : Fallible ε σ α} {P Q : Except ε α → List ω → Prop}
    (h : Appends log x P) (hPQ : ∀ r ws, P r ws → Q r ws) : Appends log x Q := by
  intro s
  obtain ⟨ws, hlog, hP⟩ := h s
  exact ⟨ws, hlog, hPQ _ _ hP⟩

theorem Appends.pure (log : σ → List ω) (a : α) :
    Appends log (pure a : Fallible ε σ α) (fun r ws => r = .ok a ∧ ws = []) := by
  intro s
  exact ⟨[], by simp, by simp⟩

theorem Appends.throw (log : σ → List ω) (e : ε) :
    Appends log (throw e : Fallible ε σ α) (fun r ws => r = .error e ∧ ws = []) := by
  intro s
  exact ⟨[], by simp, by simp⟩

/-- What a sequence appends: if its first part fails that is all, otherwise the
second part goes on. -/
theorem Appends.bind {x : Fallible ε σ α} {f : α → Fallible ε σ β}
    {P : Except ε α → List ω → Prop} {Q : α → Except ε β → List ω → Prop}
    (hx : Appends log x P) (hf : ∀ a, Appends log (f a) (Q a)) :
    Appends log (x >>= f) fun r ws =>
      (∃ e, r = .error e ∧ P (.error e) ws) ∨
        ∃ a ws₁ ws₂, ws = ws₁ ++ ws₂ ∧ P (.ok a) ws₁ ∧ Q a r ws₂ := by
  intro s
  obtain ⟨ws₁, hlog₁, hP⟩ := hx s
  rw [exec_bind]
  rcases h : exec x s with ⟨e | a, m⟩
  · rw [h] at hlog₁ hP
    exact ⟨ws₁, hlog₁, .inl ⟨e, rfl, hP⟩⟩
  · rw [h] at hlog₁ hP
    obtain ⟨ws₂, hlog₂, hQ⟩ := hf a m
    refine ⟨ws₁ ++ ws₂, ?_, .inr ⟨a, ws₁, ws₂, rfl, hP, hQ⟩⟩
    show log (exec (f a) m).2 = _
    rw [hlog₂, hlog₁, List.append_assoc]

/-- A program on a component appends to the component's log. -/
theorem Appends.zoom {get : τ → σ} {put : τ → σ → τ} (hput : ∀ t s, get (put t s) = s)
    {x : Fallible ε σ α} {P : Except ε α → List ω → Prop} (hx : Appends log x P) :
    Appends (fun t => log (get t)) (zoom get put x) P := by
  intro t
  obtain ⟨ws, hlog, hP⟩ := hx (get t)
  refine ⟨ws, ?_, hP⟩
  show log (get (put t (exec x (get t)).2)) = _
  rw [hput, hlog]

/-- A step that leaves the log alone. -/
theorem Appends.of_kept {x : Fallible ε σ α} (hlog : ∀ s, log (exec x s).2 = log s) :
    Appends log x (fun _ ws => ws = []) := by
  intro s
  exact ⟨[], by simp [hlog s], rfl⟩

/-! ## Logs of what went wrong -/

variable {stands : ω → ε → Prop}

/-- Whatever a run of `x` puts on the log stands for the error that the run ends in. -/
def Stops (log : σ → List ω) (stands : ω → ε → Prop) (x : Fallible ε σ α) : Prop :=
  Appends log x fun r ws => ∀ f ∈ ws, ∃ e, r = .error e ∧ stands f e

/-- A run of `x` fails exactly if it puts something on the log, and the first of it stands
for the error. -/
def Blames (log : σ → List ω) (stands : ω → ε → Prop) (x : Fallible ε σ α) : Prop :=
  Appends log x fun r ws => ((∃ a, r = .ok a) ∧ ws = []) ∨
    ∃ f rest e, ws = f :: rest ∧ r = .error e ∧ stands f e

theorem Stops.of_kept {x : Fallible ε σ α} (hlog : ∀ s, log (exec x s).2 = log s) :
    Stops log stands x :=
  (Appends.of_kept hlog).weaken fun _ ws h f hf => by
    rw [h] at hf
    cases hf

theorem Stops.pure (a : α) : Stops log stands (pure a : Fallible ε σ α) :=
  .of_kept fun _ => rfl

theorem Stops.throw (e : ε) : Stops log stands (throw e : Fallible ε σ α) :=
  .of_kept fun _ => rfl

/-- What comes after an entry does not run. -/
theorem Stops.bind {x : Fallible ε σ α} {f : α → Fallible ε σ β} (hx : Stops log stands x)
    (hf : ∀ a, Stops log stands (f a)) : Stops log stands (x >>= f) := by
  refine (Appends.bind hx hf).weaken ?_
  rintro r ws (⟨e, rfl, h⟩ | ⟨a, ws₁, ws₂, rfl, h₁, h₂⟩) g hg
  · obtain ⟨e', he, hstands⟩ := h g hg
    cases he
    exact ⟨e, rfl, hstands⟩
  · rcases List.mem_append.1 hg with hg | hg
    · obtain ⟨e, hcon, -⟩ := h₁ g hg
      cases hcon
    · exact h₂ g hg

theorem Stops.zoom {get : τ → σ} {put : τ → σ → τ} (hput : ∀ t s, get (put t s) = s)
    {x : Fallible ε σ α} (hx : Stops log stands x) :
    Stops (fun t => log (get t)) stands (zoom get put x) :=
  Appends.zoom hput hx

/-- A program whose value is wrapped. -/
theorem Stops.of_map {f : α → β} {x : Fallible ε σ α} (h : Stops log stands (f <$> x)) :
    Stops log stands x := by
  intro s
  obtain ⟨ws, hlog, hstands⟩ := h s
  rw [exec_map] at hlog hstands
  refine ⟨ws, hlog, ?_⟩
  intro g hg
  obtain ⟨e, he, hge⟩ := hstands g hg
  cases hr : (exec x s).1 with
  | ok a =>
      rw [hr] at he
      cases he
  | error e' =>
      rw [hr] at he
      cases he
      exact ⟨e, rfl, hge⟩

theorem Blames.pure (a : α) : Blames log stands (pure a : Fallible ε σ α) :=
  (Appends.pure log a).weaken fun _ _ h => .inl ⟨⟨a, h.1⟩, h.2⟩

theorem Blames.bind {x : Fallible ε σ α} {f : α → Fallible ε σ β} (hx : Blames log stands x)
    (hf : ∀ a, Blames log stands (f a)) : Blames log stands (x >>= f) := by
  refine (Appends.bind hx hf).weaken ?_
  rintro r ws (⟨e, rfl, h⟩ | ⟨a, ws₁, ws₂, rfl, h₁, h₂⟩)
  · rcases h with ⟨⟨a, hcon⟩, -⟩ | ⟨g, rest, e', rfl, he, hstands⟩
    · cases hcon
    · cases he
      exact .inr ⟨g, rest, e, rfl, rfl, hstands⟩
  · rcases h₁ with ⟨-, rfl⟩ | ⟨g, rest, e, -, hcon, -⟩
    · exact h₂
    · cases hcon

end Clackd.Foundation
