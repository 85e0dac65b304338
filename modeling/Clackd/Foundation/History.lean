import Mathlib.Data.List.Basic

/-!
# What a record remembers

A component that keeps a flag or a current owner remembers one thing about its
past: something happened, and nothing that undoes it happened since.  `Since`
says that of the record of a run, oldest entry first, so that a state can be
compared with the record instead of with the code that maintains it.

## Main results

* `since_snoc`: how one more entry changes what the record remembers.
* `since_append_of_irrelevant`: entries that neither do nor undo change nothing.
* `alternating_snoc`: one more mark keeps a record alternating if it is the
  opposite of the last.
-/

namespace Clackd.Foundation

universe u

variable {α : Type u}

/-- Some entry does it, and no later entry undoes it. -/
def Since (does undoes : α → Prop) (log : List α) : Prop :=
  ∃ before x after, log = before ++ x :: after ∧ does x ∧ ∀ y ∈ after, ¬ undoes y

variable {does undoes : α → Prop}

theorem not_since_nil : ¬ Since does undoes [] := by
  rintro ⟨before, x, after, h, -, -⟩
  cases before <;> cases h

theorem since_snoc (log : List α) (y : α) :
    Since does undoes (log ++ [y]) ↔ does y ∨ (Since does undoes log ∧ ¬ undoes y) := by
  constructor
  · rintro ⟨before, x, after, h, hx, hafter⟩
    -- Either the new entry is the one, or it comes after it.
    rcases List.eq_nil_or_concat after with rfl | ⟨after, z, rfl⟩
    · obtain ⟨-, hlast⟩ := List.append_inj' h rfl
      injection hlast with hlast
      subst hlast
      exact .inl hx
    · rw [List.concat_eq_append] at h hafter
      have hsplit : log ++ [y] = (before ++ x :: after) ++ [z] := by
        rw [h, List.append_assoc, List.cons_append]
      obtain ⟨hlog, hlast⟩ := List.append_inj' hsplit rfl
      injection hlast with hlast
      subst hlast
      refine .inr ⟨⟨before, x, after, hlog, hx, ?_⟩, ?_⟩
      · intro w hw
        exact hafter w (List.mem_append_left _ hw)
      · exact hafter y (List.mem_append_right _ (List.mem_singleton_self y))
  · rintro (hy | ⟨⟨before, x, after, h, hx, hafter⟩, hy⟩)
    · exact ⟨log, y, [], rfl, hy, fun _ h => absurd h List.not_mem_nil⟩
    · refine ⟨before, x, after ++ [y], ?_, hx, ?_⟩
      · rw [h, List.append_assoc, List.cons_append]
      · intro w hw
        rcases List.mem_append.1 hw with hw | hw
        · exact hafter w hw
        · rw [List.mem_singleton.1 hw]
          exact hy

theorem since_append_of_irrelevant {log more : List α}
    (h : ∀ y ∈ more, ¬ does y ∧ ¬ undoes y) :
    Since does undoes (log ++ more) ↔ Since does undoes log := by
  induction more generalizing log with
  | nil => rw [List.append_nil]
  | cons y more ih =>
      have hy := h y List.mem_cons_self
      have hmore : ∀ z ∈ more, ¬ does z ∧ ¬ undoes z :=
        fun z hz => h z (List.mem_cons_of_mem y hz)
      rw [← List.singleton_append, ← List.append_assoc, ih hmore, since_snoc]
      constructor
      · rintro (hcon | hlog)
        · exact absurd hcon hy.1
        · exact hlog.1
      · intro hlog
        exact .inr ⟨hlog, hy.2⟩

/-! ## Switching on and off -/

/-- The marks strictly alternate, beginning with the given one. -/
def Alternating : Bool → List Bool → Prop
  | _, [] => True
  | first, mark :: marks => mark = first ∧ Alternating (!first) marks

theorem alternating_snoc (first : Bool) (marks : List Bool) (mark : Bool) :
    Alternating first (marks ++ [mark]) ↔
      Alternating first marks ∧ mark = (marks.getLast?.map not).getD first := by
  induction marks generalizing first with
  | nil => simp [Alternating]
  | cons m marks ih =>
      rw [List.cons_append, Alternating, Alternating, ih, List.getLast?_cons]
      cases hlast : marks.getLast? with
      | none =>
          simp only [Option.map_none, Option.getD_none, Option.map_some, Option.getD_some]
          constructor
          · rintro ⟨rfl, hrest, rfl⟩
            exact ⟨⟨rfl, hrest⟩, rfl⟩
          · rintro ⟨⟨rfl, hrest⟩, rfl⟩
            exact ⟨rfl, hrest, rfl⟩
      | some last =>
          simp only [Option.map_some, Option.getD_some]
          exact and_assoc.symm

end Clackd.Foundation
