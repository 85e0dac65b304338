import Mathlib.Data.List.Basic

/-!
# A broadcast channel that overwrites

A broadcast channel keeps the last so many values that were sent.  Sending never waits.
A receiver that falls further behind than that is told how many values it has missed and
goes on with the oldest that is still there.

What a receiver has taken in is a part of what was sent, in order: the values it got, and
a number of those it missed.

## Main results

* `recv_lagged_iff`: a receiver misses values exactly if it is too far behind.
* `Follows.recv_value`, `Follows.recv_lagged`: receiving keeps the account.
* `Follows.exact`: a receiver that missed nothing got everything up to where it is.
-/

namespace Clackd.Foundation

universe u

/-- A channel and one receiver of it: all that was ever sent, and how far the receiver
has come. -/
structure Broadcast (α : Type u) where
  sent : List α
  next : Nat

/-- What a receiver gets. -/
inductive Received (α : Type u) where
  | value (x : α)
  | lagged (missed : Nat)

namespace Broadcast

variable {α : Type u} {capacity : Nat}

def empty : Broadcast α := ⟨[], 0⟩

/-- How many values the receiver has not taken in. -/
def backlog (b : Broadcast α) : Nat := b.sent.length - b.next

/-- Send values. -/
def send (xs : List α) (b : Broadcast α) : Broadcast α := { b with sent := b.sent ++ xs }

/-- Receive, or `none` if there is nothing to receive. -/
def recv (capacity : Nat) (b : Broadcast α) : Option (Received α × Broadcast α) :=
  if b.next + capacity < b.sent.length then
    some (.lagged (b.sent.length - capacity - b.next),
      { b with next := b.sent.length - capacity })
  else
    b.sent[b.next]?.map fun x => (.value x, { b with next := b.next + 1 })

/-- A receiver misses values exactly if it is too far behind. -/
theorem recv_lagged_iff {b : Broadcast α} :
    (∃ missed b', b.recv capacity = some (.lagged missed, b')) ↔ capacity < b.backlog := by
  rw [recv, backlog]
  constructor
  · rintro ⟨missed, b', h⟩
    split at h
    · omega
    · obtain ⟨x, -, hx⟩ := Option.map_eq_some_iff.1 h
      cases hx
  · intro h
    rw [if_pos (by omega)]
    exact ⟨_, _, rfl⟩

theorem lagged_pos {b b' : Broadcast α} {missed : Nat}
    (h : b.recv capacity = some (.lagged missed, b')) : 0 < missed := by
  rw [recv] at h
  split at h
  · cases h
    omega
  · obtain ⟨x, -, hx⟩ := Option.map_eq_some_iff.1 h
    cases hx

/-- Receiving sends nothing. -/
theorem recv_sent {b : Broadcast α} {r : Received α × Broadcast α}
    (h : b.recv capacity = some r) : r.2.sent = b.sent := by
  rw [recv] at h
  split at h
  · cases h
    rfl
  · obtain ⟨x, -, rfl⟩ := Option.map_eq_some_iff.1 h
    rfl

/-! ## What a receiver has taken in -/

/-- The values a receiver got, and how many it missed. -/
structure Follows (b : Broadcast α) (got : List α) (missed : Nat) : Prop where
  le : b.next ≤ b.sent.length
  count : got.length + missed = b.next
  sublist : got.Sublist (b.sent.take b.next)

theorem follows_empty : Follows (empty : Broadcast α) [] 0 := ⟨Nat.le_refl _, rfl, List.nil_sublist _⟩

variable {b b' : Broadcast α} {got : List α} {missed : Nat}

theorem Follows.send (h : b.Follows got missed) (xs : List α) :
    (b.send xs).Follows got missed where
  le := by
    have hle := h.le
    show b.next ≤ (b.sent ++ xs).length
    rw [List.length_append]
    omega
  count := h.count
  sublist := by
    show got.Sublist ((b.sent ++ xs).take b.next)
    rw [List.take_append_of_le_length h.le]
    exact h.sublist

/-- A value that is received is the next one. -/
theorem recv_value_cases {x : α} (h : b.recv capacity = some (.value x, b')) :
    b.sent[b.next]? = some x ∧ b' = { b with next := b.next + 1 } := by
  rw [recv] at h
  split at h
  · cases h
  · obtain ⟨y, hy, heq⟩ := Option.map_eq_some_iff.1 h
    cases heq
    exact ⟨hy, rfl⟩

theorem Follows.recv_value (h : b.Follows got missed) {x : α}
    (hrecv : b.recv capacity = some (.value x, b')) : b'.Follows (got ++ [x]) missed := by
  obtain ⟨hx, rfl⟩ := recv_value_cases hrecv
  have hlt := (List.getElem?_eq_some_iff.1 hx).1
  have hcount := h.count
  refine ⟨hlt, ?_, ?_⟩
  · rw [List.length_append, List.length_singleton]
    show got.length + 1 + missed = b.next + 1
    omega
  · show (got ++ [x]).Sublist (b.sent.take (b.next + 1))
    rw [List.take_add_one, hx]
    exact h.sublist.append (List.Sublist.refl _)

/-- A value that is received and not passed on counts as missed. -/
theorem Follows.recv_lost (h : b.Follows got missed) {x : α}
    (hrecv : b.recv capacity = some (.value x, b')) : b'.Follows got (missed + 1) := by
  obtain ⟨hx, rfl⟩ := recv_value_cases hrecv
  have hlt := (List.getElem?_eq_some_iff.1 hx).1
  have hcount := h.count
  refine ⟨hlt, ?_, ?_⟩
  · show got.length + (missed + 1) = b.next + 1
    omega
  · exact h.sublist.trans (List.take_sublist_take_left (Nat.le_succ _))

theorem Follows.recv_lagged (h : b.Follows got missed) {n : Nat}
    (hrecv : b.recv capacity = some (.lagged n, b')) : b'.Follows got (missed + n) := by
  rw [recv] at hrecv
  split at hrecv
  · rename_i hbehind
    cases hrecv
    have hcount := h.count
    have hahead : b.next ≤ b.sent.length - capacity := by omega
    refine ⟨Nat.sub_le _ _, ?_, ?_⟩
    · show got.length + (missed + (b.sent.length - capacity - b.next)) = b.sent.length - capacity
      omega
    · exact h.sublist.trans (List.take_sublist_take_left hahead)
  · obtain ⟨x, -, heq⟩ := Option.map_eq_some_iff.1 hrecv
    cases heq

/-- A receiver that missed nothing got everything up to where it is. -/
theorem Follows.exact (h : b.Follows got 0) : got = b.sent.take b.next := by
  refine h.sublist.eq_of_length ?_
  have hle := h.le
  have hcount := h.count
  rw [List.length_take]
  omega

end Broadcast

end Clackd.Foundation
