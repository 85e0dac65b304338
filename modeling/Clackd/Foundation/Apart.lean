import Mathlib

/-!
# Groups that have nothing in common

Whether the groups of a list are disjoint can be seen in one pass.  Every element has a
mark, the same for elements that count as one, and the marks seen so far are the bits of a
number; a group may only have marks that are new.

## Main results

* `marks_of_apart`: groups that pass have no mark in common.
-/

namespace Clackd.Foundation

variable {α : Type*} (mark : α → Nat)

/-- The marks of a group, with those seen before. -/
def marked (seen : Nat) (group : List α) : Nat :=
  group.foldl (fun seen x => seen ||| 1 <<< mark x) seen

/-- Each group in turn has no mark that was seen before it. -/
def apart : Nat → List (List α) → Bool
  | _, [] => true
  | seen, group :: groups =>
      group.all (fun x => !seen.testBit (mark x)) && apart (marked mark seen group) groups

variable {mark}

theorem testBit_mark (seen m i : Nat) :
    (seen ||| 1 <<< m).testBit i = (seen.testBit i || decide (m = i)) := by
  rw [Nat.testBit_or, Nat.one_shiftLeft, Nat.testBit_two_pow]

/-- A mark that was seen stays seen. -/
theorem marked_of_seen {seen i : Nat} (h : seen.testBit i = true) (group : List α) :
    (marked mark seen group).testBit i = true := by
  induction group generalizing seen with
  | nil => exact h
  | cons x group ih =>
      refine ih ?_
      rw [testBit_mark, h, Bool.true_or]

theorem marked_of_mem {seen : Nat} {group : List α} {x : α} (hx : x ∈ group) :
    (marked mark seen group).testBit (mark x) = true := by
  induction group generalizing seen with
  | nil => exact absurd hx List.not_mem_nil
  | cons y group ih =>
      rcases List.mem_cons.1 hx with rfl | hmem
      · refine marked_of_seen ?_ group
        rw [testBit_mark, decide_eq_true rfl, Bool.or_true]
      · exact ih hmem

/-- The groups that pass have only marks that are new. -/
theorem new_of_apart {seen : Nat} {groups : List (List α)} (h : apart mark seen groups = true) :
    ∀ group ∈ groups, ∀ x ∈ group, seen.testBit (mark x) = false := by
  induction groups generalizing seen with
  | nil => exact fun group hgroup => absurd hgroup List.not_mem_nil
  | cons first groups ih =>
      obtain ⟨hfirst, hrest⟩ := Bool.and_eq_true_iff.1 h
      intro group hgroup x hx
      rcases List.mem_cons.1 hgroup with rfl | hmem
      · have hnew := List.all_eq_true.1 hfirst x hx
        rwa [Bool.not_eq_true'] at hnew
      · have hnew := ih hrest group hmem x hx
        by_contra hseen
        rw [Bool.not_eq_false] at hseen
        rw [marked_of_seen hseen] at hnew
        cases hnew

/-- Groups that pass have no mark in common. -/
theorem marks_of_apart {seen : Nat} {groups : List (List α)} (h : apart mark seen groups = true) :
    groups.Pairwise fun group later => ∀ x ∈ group, ∀ y ∈ later, mark x ≠ mark y := by
  induction groups generalizing seen with
  | nil => exact List.Pairwise.nil
  | cons first groups ih =>
      obtain ⟨-, hrest⟩ := Bool.and_eq_true_iff.1 h
      refine List.pairwise_cons.2 ⟨?_, ih hrest⟩
      intro group hgroup x hx y hy hsame
      have hnew := new_of_apart hrest group hgroup y hy
      rw [← hsame, marked_of_mem hx] at hnew
      cases hnew

end Clackd.Foundation
