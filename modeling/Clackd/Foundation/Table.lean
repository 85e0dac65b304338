import Mathlib

/-!
# Tables

Finite maps and sets of the source (`BTreeMap`, `HashMap`, `HashSet`) are the
standard library's extensional tree maps and sets.  Only their lookups matter
here, so this module restates the standard equations once in the form the
proofs use: for a lawful order, a lookup after an update is an `if` on key
equality, and the lookup function of an updated table is a pointwise update.
-/

namespace Clackd.Foundation

open Std (ExtTreeMap ExtTreeSet TransOrd LawfulEqOrd)

universe u v

section Map

variable {K : Type u} {V : Type v} [Ord K] [TransOrd K]

/-- The lookup function of a table. -/
def look (m : ExtTreeMap K V) : K → Option V := fun k => m[k]?

@[simp] theorem look_apply (m : ExtTreeMap K V) (k : K) : look m k = m[k]? := rfl

variable [LawfulEqOrd K] [DecidableEq K]

theorem lookup_insert (m : ExtTreeMap K V) (k a : K) (v : V) :
    (m.insert k v)[a]? = if k = a then some v else m[a]? := by
  rw [ExtTreeMap.getElem?_insert]
  simp only [Std.compare_eq_iff_eq]

theorem lookup_erase (m : ExtTreeMap K V) (k a : K) :
    (m.erase k)[a]? = if k = a then none else m[a]? := by
  rw [ExtTreeMap.getElem?_erase]
  simp only [Std.compare_eq_iff_eq]

@[simp] theorem lookup_insert_self (m : ExtTreeMap K V) (k : K) (v : V) :
    (m.insert k v)[k]? = some v := by
  rw [lookup_insert, if_pos rfl]

@[simp] theorem lookup_erase_self (m : ExtTreeMap K V) (k : K) :
    (m.erase k)[k]? = none := by
  rw [lookup_erase, if_pos rfl]

theorem lookup_insert_ne (m : ExtTreeMap K V) {k a : K} (v : V) (h : k ≠ a) :
    (m.insert k v)[a]? = m[a]? := by
  rw [lookup_insert, if_neg h]

theorem lookup_erase_ne (m : ExtTreeMap K V) {k a : K} (h : k ≠ a) :
    (m.erase k)[a]? = m[a]? := by
  rw [lookup_erase, if_neg h]

theorem look_insert (m : ExtTreeMap K V) (k : K) (v : V) :
    look (m.insert k v) = Function.update (look m) k (some v) := by
  funext a
  by_cases h : k = a
  · subst h
    rw [Function.update_self, look_apply, lookup_insert_self]
  · rw [Function.update_of_ne (Ne.symm h), look_apply, lookup_insert_ne m v h,
      look_apply]

theorem look_erase (m : ExtTreeMap K V) (k : K) :
    look (m.erase k) = Function.update (look m) k none := by
  funext a
  by_cases h : k = a
  · subst h
    rw [Function.update_self, look_apply, lookup_erase_self]
  · rw [Function.update_of_ne (Ne.symm h), look_apply, lookup_erase_ne m h,
      look_apply]

omit [DecidableEq K] in
theorem isEmpty_iff_lookup (m : ExtTreeMap K V) :
    m.isEmpty = true ↔ ∀ k : K, m[k]? = none := by
  constructor
  · intro h k
    rw [ExtTreeMap.isEmpty_iff.1 h, ExtTreeMap.getElem?_empty]
  · intro h
    have hempty : m = ∅ := by
      apply ExtTreeMap.ext_getElem?
      intro k
      rw [h k, ExtTreeMap.getElem?_empty]
    exact ExtTreeMap.isEmpty_iff.2 hempty

omit [DecidableEq K] in
theorem mem_keys_iff (m : ExtTreeMap K V) (k : K) :
    k ∈ m.keys ↔ ∃ v, m[k]? = some v := by
  rw [ExtTreeMap.mem_keys, ExtTreeMap.mem_iff_isSome_getElem?, Option.isSome_iff_exists]

/-- A table from its entries, inserted in order. -/
def ofEntries (entries : List (K × V)) : ExtTreeMap K V :=
  entries.foldl (fun m e => m.insert e.1 e.2) ∅

omit [LawfulEqOrd K] [DecidableEq K] in
theorem ofEntries_snoc (entries : List (K × V)) (e : K × V) :
    ofEntries (entries ++ [e]) = (ofEntries entries).insert e.1 e.2 := by
  rw [ofEntries, List.foldl_append]
  rfl

/-- A lookup in a table built from entries with distinct keys. -/
theorem lookup_ofEntries (entries : List (K × V)) (k : K) (v : V) :
    (entries.map Prod.fst).Nodup → ((ofEntries entries)[k]? = some v ↔ (k, v) ∈ entries) := by
  induction entries using List.reverseRecOn with
  | nil =>
      intro _
      rw [ofEntries, List.foldl_nil, ExtTreeMap.getElem?_empty]
      constructor
      · intro h
        cases h
      · intro h
        exact absurd h List.not_mem_nil
  | append_singleton entries e ih =>
      intro hnodup
      rw [List.map_append, List.nodup_append] at hnodup
      obtain ⟨hentries, -, hdisjoint⟩ := hnodup
      have hfresh : ∀ v', (e.1, v') ∉ entries := by
        intro v' hmem
        have hkey : e.1 ∈ entries.map Prod.fst := List.mem_map.2 ⟨_, hmem, rfl⟩
        exact hdisjoint _ hkey _ (List.mem_singleton_self _) rfl
      rw [ofEntries_snoc, lookup_insert, List.mem_append, List.mem_singleton]
      by_cases hk : e.1 = k
      · subst hk
        rw [if_pos rfl, Option.some.injEq]
        constructor
        · rintro rfl
          exact .inr rfl
        · rintro (hmem | heq)
          · exact absurd hmem (hfresh v)
          · rw [← heq]
      · rw [if_neg hk, ih hentries]
        constructor
        · exact .inl
        · rintro (hmem | heq)
          · exact hmem
          · exact absurd (congrArg Prod.fst heq).symm hk

/-- A table is rebuilt from the list of its entries. -/
theorem ofEntries_toList (m : ExtTreeMap K V) : ofEntries m.toList = m := by
  have hnodup : (m.toList.map Prod.fst).Nodup := by
    rw [ExtTreeMap.map_fst_toList_eq_keys]
    exact m.nodup_keys
  apply ExtTreeMap.ext_getElem?
  intro k
  apply Option.ext
  intro v
  rw [lookup_ofEntries m.toList k v hnodup, ExtTreeMap.mem_toList_iff_getElem?_eq_some]

end Map

section Set

variable {K : Type u} [Ord K] [TransOrd K]

theorem mem_insert_iff [LawfulEqOrd K] (s : ExtTreeSet K) (k a : K) :
    a ∈ s.insert k ↔ k = a ∨ a ∈ s := by
  rw [ExtTreeSet.mem_insert, Std.compare_eq_iff_eq]

theorem mem_erase_iff [LawfulEqOrd K] (s : ExtTreeSet K) (k a : K) :
    a ∈ s.erase k ↔ k ≠ a ∧ a ∈ s := by
  rw [ExtTreeSet.mem_erase, ne_eq, ne_eq, Std.compare_eq_iff_eq]

theorem isEmpty_iff_not_mem (s : ExtTreeSet K) :
    s.isEmpty = true ↔ ∀ k, k ∉ s := by
  rw [ExtTreeSet.isEmpty_iff, ExtTreeSet.eq_empty_iff_forall_not_mem]

end Set

end Clackd.Foundation
