import Mathlib.Logic.Function.Basic
import Clackd.Foundation.Fallible

/-!
# Files and what a crash leaves of them

A file system as the function from paths to contents, together with every state
it passed through: a process death leaves one of them.  Writing a file passes
through partial contents; a rename does not.  Any operation may fail, as the
`fault` oracle decides.

## Main results

* `replace_spec`: writing a temporary file and renaming it over the target
  leaves the target, at every point in between, with its old contents or its
  new ones.
-/

namespace Clackd.Foundation

variable {ε Path Text : Type}

/-- A file system. -/
structure Storage (ε Path Text : Type) where
  files : Path → Option Text
  /-- Whether the `n`-th operation fails. -/
  fault : Nat → Option ε
  ops : Nat
  /-- What is left of a file if its writer dies. -/
  torn : Text → List Text
  /-- Every state passed through, oldest first. -/
  past : List (Path → Option Text)

namespace Storage

/-- The storage after an operation that passed through some states and ended in
the last one. -/
def reached (d : Storage ε Path Text) (states : List (Path → Option Text))
    (files : Path → Option Text) : Storage ε Path Text :=
  { d with ops := d.ops + 1, files := files, past := d.past ++ states ++ [files] }

/-- The storage after an operation that failed. -/
def refused (d : Storage ε Path Text) : Storage ε Path Text := { d with ops := d.ops + 1 }

/-- An operation, unless it fails. -/
def operate (f : Storage ε Path Text → Storage ε Path Text) :
    Fallible ε (Storage ε Path Text) Unit :=
  primitive fun d =>
    match d.fault d.ops with
    | some e => (.error e, d.refused)
    | none => (.ok (), f d)

/-- The storage once a directory exists. -/
def made (d : Storage ε Path Text) : Storage ε Path Text := d.reached [] d.files

/-- Make sure a directory exists: no file changes. -/
def create_dir_all : Fallible ε (Storage ε Path Text) Unit := operate made

variable [DecidableEq Path]

/-- The storage once a file is written. -/
def wrote (path : Path) (text : Text) (d : Storage ε Path Text) : Storage ε Path Text :=
  d.reached ((d.torn text).map fun t => Function.update d.files path (some t))
    (Function.update d.files path (some text))

/-- Write a file. -/
def write (path : Path) (text : Text) : Fallible ε (Storage ε Path Text) Unit :=
  operate (wrote path text)

/-- The storage once a file is renamed. -/
def renamed (src dst : Path) (d : Storage ε Path Text) : Storage ε Path Text :=
  d.reached [] (Function.update (Function.update d.files dst (d.files src)) src none)

/-- Rename a file over another. -/
def rename (src dst : Path) : Fallible ε (Storage ε Path Text) Unit :=
  operate (renamed src dst)

/-- Write next to the target, then rename over it. -/
def replace (tmp path : Path) (text : Text) : Fallible ε (Storage ε Path Text) Unit := do
  create_dir_all
  write tmp text
  rename tmp path

/-- What may have happened to the target between two states: it holds its old
contents or the new ones, at the end and at every point in between. -/
structure Replaced (path : Path) (text : Text) (d d' : Storage ε Path Text) : Prop where
  fault : d'.fault = d.fault
  files : d'.files path = d.files path ∨ d'.files path = some text
  past : ∃ states, d'.past = d.past ++ states ∧
    ∀ files ∈ states, files path = d.files path ∨ files path = some text

omit [DecidableEq Path] in
theorem Replaced.refl (path : Path) (text : Text) (d : Storage ε Path Text) :
    Replaced path text d d where
  fault := rfl
  files := .inl rfl
  past := ⟨[], (List.append_nil _).symm, fun _ h => absurd h List.not_mem_nil⟩

omit [DecidableEq Path] in
theorem Replaced.trans {path : Path} {text : Text} {d d' d'' : Storage ε Path Text}
    (h : Replaced path text d d') (h' : Replaced path text d' d'') :
    Replaced path text d d'' := by
  -- What is the old contents for the second part is the old or the new for the whole.
  have hstep : ∀ files : Path → Option Text,
      files path = d'.files path ∨ files path = some text →
        files path = d.files path ∨ files path = some text := by
    rintro files (hold | hnew)
    · rw [hold]
      exact h.files
    · exact .inr hnew
  obtain ⟨states, hpast, hstates⟩ := h.past
  obtain ⟨states', hpast', hstates'⟩ := h'.past
  refine ⟨h'.fault.trans h.fault, hstep _ h'.files, states ++ states', ?_, ?_⟩
  · rw [hpast', hpast, List.append_assoc]
  · intro files hfiles
    rcases List.mem_append.1 hfiles with hfiles | hfiles
    · exact hstates files hfiles
    · exact hstep files (hstates' files hfiles)

omit [DecidableEq Path] in
theorem Replaced.of_reached {path : Path} {text : Text} {d : Storage ε Path Text}
    {states : List (Path → Option Text)} {files : Path → Option Text}
    (hstates : ∀ f ∈ states, f path = d.files path ∨ f path = some text)
    (hfiles : files path = d.files path ∨ files path = some text) :
    Replaced path text d (d.reached states files) := by
  refine ⟨rfl, hfiles, states ++ [files], List.append_assoc _ _ _, ?_⟩
  intro f hf
  rcases List.mem_append.1 hf with hf | hf
  · exact hstates f hf
  · rw [List.mem_singleton.1 hf]
    exact hfiles

omit [DecidableEq Path] in
/-- An operation that fails does nothing. -/
theorem exec_operate (f : Storage ε Path Text → Storage ε Path Text)
    (d : Storage ε Path Text) :
    (∃ e, d.fault d.ops = some e ∧ exec (operate f) d = (.error e, d.refused)) ∨
      exec (operate f) d = (.ok (), f d) := by
  rw [operate, exec_primitive]
  cases h : d.fault d.ops with
  | none => exact .inr rfl
  | some e => exact .inl ⟨e, rfl, rfl⟩

omit [DecidableEq Path] in
theorem replaced_refused (path : Path) (text : Text) (d : Storage ε Path Text) :
    Replaced path text d d.refused :=
  ⟨rfl, .inl rfl, [], (List.append_nil _).symm, fun _ h => absurd h List.not_mem_nil⟩

/-- A whole replacement: the target keeps its contents until the rename, and
with no fault it ends with the new ones. -/
theorem replace_spec {tmp path : Path} (hne : tmp ≠ path) (text : Text)
    (d : Storage ε Path Text) :
    Replaced path text d (exec (replace tmp path text) d).2 ∧
      ((∀ n, d.fault n = none) →
        (exec (replace tmp path text) d).2.files path = some text) := by
  have hkept : ∀ (files : Path → Option Text) (t : Option Text),
      Function.update files tmp t path = files path :=
    fun files t => Function.update_of_ne (Ne.symm hne) t files
  have hfault : ∀ {m : Nat} {e : ε}, d.fault m = some e → ¬ ∀ n, d.fault n = none := by
    intro m e h hnone
    rw [hnone m] at h
    cases h
  have hmade : Replaced path text d d.made :=
    Replaced.of_reached (fun _ h => absurd h List.not_mem_nil) (.inl rfl)
  have hwrote : Replaced path text d (d.made.wrote tmp text) := by
    refine hmade.trans (Replaced.of_reached ?_ (.inl (hkept _ _)))
    intro f hf
    obtain ⟨t, -, rfl⟩ := List.mem_map.1 hf
    exact .inl (hkept _ _)
  have hnew : ((d.made.wrote tmp text).renamed tmp path).files path = some text := by
    have htmp : (d.made.wrote tmp text).files tmp = some text := Function.update_self _ _ _
    refine (hkept _ _).trans ?_
    rw [Function.update_self, htmp]
  unfold replace
  rcases exec_operate made d with ⟨e, hf, h₁⟩ | h₁
  · rw [create_dir_all, exec_bind_of_error h₁]
    exact ⟨replaced_refused path text d, fun hnone => absurd hnone (hfault hf)⟩
  rw [create_dir_all, exec_bind_of_ok h₁]
  rcases exec_operate (wrote tmp text) d.made with ⟨e, hf, h₂⟩ | h₂
  · rw [write, exec_bind_of_error h₂]
    exact ⟨hmade.trans (replaced_refused path text _), fun hnone => absurd hnone (hfault hf)⟩
  rw [write, exec_bind_of_ok h₂]
  rcases exec_operate (renamed tmp path) (d.made.wrote tmp text) with ⟨e, hf, h₃⟩ | h₃
  · rw [rename, h₃]
    exact ⟨hwrote.trans (replaced_refused path text _), fun hnone => absurd hnone (hfault hf)⟩
  · rw [rename, h₃]
    exact ⟨hwrote.trans (Replaced.of_reached (fun _ h => absurd h List.not_mem_nil) (.inr hnew)),
      fun _ => hnew⟩

/-- None of the next operations of a replacement fails. -/
def Sound (d : Storage ε Path Text) : Prop := ∀ i, i < 3 → d.fault (d.ops + i) = none

omit [DecidableEq Path] in
theorem exec_operate_of_none {f : Storage ε Path Text → Storage ε Path Text}
    {d : Storage ε Path Text} (h : d.fault d.ops = none) :
    exec (operate f) d = (.ok (), f d) := by
  rw [operate, exec_primitive, h]

omit [DecidableEq Path] in
theorem exec_operate_of_some {f : Storage ε Path Text → Storage ε Path Text}
    {d : Storage ε Path Text} {e : ε} (h : d.fault d.ops = some e) :
    exec (operate f) d = (.error e, d.refused) := by
  rw [operate, exec_primitive, h]

/-- What the target holds after a replacement: the new contents if no operation
fails, otherwise the old ones. -/
theorem replace_files {tmp path : Path} (hne : tmp ≠ path) (text : Text)
    (d : Storage ε Path Text) :
    (d.Sound → (exec (replace tmp path text) d).2.files path = some text) ∧
      (¬ d.Sound → (exec (replace tmp path text) d).2.files path = d.files path) := by
  have hkept : ∀ (files : Path → Option Text) (t : Option Text),
      Function.update files tmp t path = files path :=
    fun files t => Function.update_of_ne (Ne.symm hne) t files
  have hfailed : ∀ {i : Nat} {e : ε}, i < 3 → d.fault (d.ops + i) = some e → ¬ d.Sound := by
    intro i e hi h hsound
    rw [hsound i hi] at h
    cases h
  cases h₁ : d.fault d.ops with
  | some e =>
      rw [replace, create_dir_all, exec_bind_of_error (exec_operate_of_some h₁)]
      exact ⟨fun hsound => absurd hsound (hfailed (show 0 < 3 by omega) h₁), fun _ => rfl⟩
  | none =>
      rw [replace, create_dir_all, exec_bind_of_ok (exec_operate_of_none h₁), write]
      cases h₂ : d.fault (d.ops + 1) with
      | some e =>
          rw [exec_bind_of_error (exec_operate_of_some (d := d.made) h₂)]
          exact ⟨fun hsound => absurd hsound (hfailed (by omega) h₂), fun _ => rfl⟩
      | none =>
          rw [exec_bind_of_ok (exec_operate_of_none (d := d.made) h₂), rename]
          cases h₃ : d.fault (d.ops + 2) with
          | some e =>
              rw [exec_operate_of_some (d := d.made.wrote tmp text) h₃]
              exact ⟨fun hsound => absurd hsound (hfailed (by omega) h₃), fun _ => hkept _ _⟩
          | none =>
              rw [exec_operate_of_none (d := d.made.wrote tmp text) h₃]
              refine ⟨fun _ => ?_, fun hunsound => absurd ?_ hunsound⟩
              · refine (hkept _ _).trans ?_
                rw [Function.update_self]
                exact Function.update_self _ _ _
              · intro i hi
                match i, hi with
                | 0, _ => exact h₁
                | 1, _ => exact h₂
                | 2, _ => exact h₃

end Storage

end Clackd.Foundation
