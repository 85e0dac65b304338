import Mathlib.Init

/-!
# Fallible programs over a state

An asynchronous method that takes `&mut self` and returns a `Result` is, once
the scheduler is abstracted away, a function from the state to a result and the
state it leaves behind.  The state changes made before an early return stay:
an `Err` does not undo anything.  `Fallible ε σ α` is that type, in the standard
transformer stack, so that programs are written in `do` notation with `←` for
the `?` operator.

The equations of this module push `exec` through the constructs a program is
written in, and the inversion lemmas split a finished sequence at a `←`.

## Main results

* `exec_bind_ok`: how a sequence can succeed.
* `Keeps.bind`, `Keeps.attempt`: a relation between the states before and
  after that every part respects is respected by the whole, whether it returns
  early or not.
* `Simulates.bind`: two sequences whose parts give the same results from
  related states give the same result.
-/

namespace Clackd.Foundation

universe u

/-- A program that may fail with an `ε` and works on a state `σ`. -/
abbrev Fallible (ε σ α : Type) : Type := ExceptT ε (StateM σ) α

variable {ε σ α β : Type}

/-- Run a program: its result, and the state it leaves. -/
def exec (x : Fallible ε σ α) (s : σ) : Except ε α × σ := (x.run).run s

/-- A program given by its meaning. -/
def primitive (f : σ → Except ε α × σ) : Fallible ε σ α := ExceptT.mk (StateT.mk f)

/-- Run a program and hand its result over as a value: `match x.await` where
the source looks at the error instead of propagating it. -/
def attempt (x : Fallible ε σ α) : Fallible ε σ (Except ε α) :=
  primitive fun s => (.ok (exec x s).1, (exec x s).2)

/-- Run a program on one component of a larger state. -/
def zoom {τ : Type} (get : τ → σ) (put : τ → σ → τ) (x : Fallible ε σ α) :
    Fallible ε τ α :=
  primitive fun t => ((exec x (get t)).1, put t (exec x (get t)).2)

@[simp] theorem exec_primitive (f : σ → Except ε α × σ) (s : σ) :
    exec (primitive f) s = f s := rfl

@[simp] theorem exec_pure (a : α) (s : σ) :
    exec (pure a : Fallible ε σ α) s = (.ok a, s) := rfl

@[simp] theorem exec_throw (e : ε) (s : σ) :
    exec (throw e : Fallible ε σ α) s = (.error e, s) := rfl

@[simp] theorem exec_get (s : σ) : exec (get : Fallible ε σ σ) s = (.ok s, s) := rfl

@[simp] theorem exec_set (s t : σ) :
    exec (set t : Fallible ε σ PUnit) s = (.ok ⟨⟩, t) := rfl

@[simp] theorem exec_modify (f : σ → σ) (s : σ) :
    exec (modify f : Fallible ε σ PUnit) s = (.ok ⟨⟩, f s) := rfl

@[simp] theorem exec_attempt (x : Fallible ε σ α) (s : σ) :
    exec (attempt x) s = (.ok (exec x s).1, (exec x s).2) := rfl

@[simp] theorem exec_zoom {τ : Type} (get : τ → σ) (put : τ → σ → τ)
    (x : Fallible ε σ α) (t : τ) :
    exec (zoom get put x) t = ((exec x (get t)).1, put t (exec x (get t)).2) := rfl

theorem exec_bind (x : Fallible ε σ α) (f : α → Fallible ε σ β) (s : σ) :
    exec (x >>= f) s =
      match exec x s with
      | (.ok a, s') => exec (f a) s'
      | (.error e, s') => (.error e, s') := by
  unfold exec
  rcases h : (x.run).run s with ⟨r, m⟩
  rw [ExceptT.run_bind, StateT.run_bind, h]
  cases r <;> rfl

@[simp] theorem exec_map (f : α → β) (x : Fallible ε σ α) (s : σ) :
    exec (f <$> x) s = ((exec x s).1.map f, (exec x s).2) := by
  rw [map_eq_pure_bind, exec_bind]
  cases exec x s with
  | mk r s' => cases r <;> rfl

/-- A sequence whose first part succeeds continues with its value. -/
theorem exec_bind_of_ok {x : Fallible ε σ α} {f : α → Fallible ε σ β} {s s' : σ}
    {a : α} (h : exec x s = (.ok a, s')) : exec (x >>= f) s = exec (f a) s' := by
  rw [exec_bind, h]

/-- A sequence whose first part fails stops there: this is the `?`
operator. -/
theorem exec_bind_of_error {x : Fallible ε σ α} {f : α → Fallible ε σ β}
    {s s' : σ} {e : ε} (h : exec x s = (.error e, s')) :
    exec (x >>= f) s = (.error e, s') := by
  rw [exec_bind, h]

theorem exec_bind_ok {x : Fallible ε σ α} {f : α → Fallible ε σ β} {s t : σ}
    {b : β} :
    exec (x >>= f) s = (.ok b, t) ↔
      ∃ a m, exec x s = (.ok a, m) ∧ exec (f a) m = (.ok b, t) := by
  rw [exec_bind]
  cases h : exec x s with
  | mk r m =>
      cases r with
      | ok a =>
          constructor
          · intro hrest
            exact ⟨a, m, rfl, hrest⟩
          · rintro ⟨_, _, heq, hrest⟩
            cases heq
            exact hrest
      | error e => simp

/-! ## What a program does to its state, failing or not -/

/-- Every run of `x`, however it ends, leaves a state related to the one it
started from. -/
def Keeps (R : σ → σ → Prop) (x : Fallible ε σ α) : Prop :=
  ∀ s, R s (exec x s).2

theorem Keeps.pure {R : σ → σ → Prop} (hrefl : ∀ s, R s s) (a : α) :
    Keeps R (pure a : Fallible ε σ α) := fun s => hrefl s

theorem Keeps.throw {R : σ → σ → Prop} (hrefl : ∀ s, R s s) (e : ε) :
    Keeps R (throw e : Fallible ε σ α) := fun s => hrefl s

theorem Keeps.bind {R : σ → σ → Prop} (htrans : ∀ a b c, R a b → R b c → R a c)
    {x : Fallible ε σ α} {f : α → Fallible ε σ β}
    (hx : Keeps R x) (hf : ∀ a, Keeps R (f a)) : Keeps R (x >>= f) := by
  intro s
  have hfirst := hx s
  rw [exec_bind]
  cases h : exec x s with
  | mk r m =>
      rw [h] at hfirst
      cases r with
      | ok a => exact htrans s m _ hfirst (hf a m)
      | error e => exact hfirst

theorem Keeps.attempt {R : σ → σ → Prop} {x : Fallible ε σ α} (hx : Keeps R x) :
    Keeps R (attempt x) := fun s => hx s

/-! ## Two programs on related states -/

/-- From related states the two programs give one result, and as long as it is
`Ok` they leave related states.  Nothing is asked of the states after an error:
nothing in the rest of a sequence runs on them. -/
def Simulates {τ : Type} (R : σ → τ → Prop) (x : Fallible ε σ α) (y : Fallible ε τ α) :
    Prop :=
  ∀ s t, R s t → (exec x s).1 = (exec y t).1 ∧
    ∀ a, (exec x s).1 = .ok a → R (exec x s).2 (exec y t).2

theorem Simulates.pure {τ : Type} {R : σ → τ → Prop} (a : α) :
    Simulates R (pure a : Fallible ε σ α) (pure a) :=
  fun _ _ h => ⟨rfl, fun _ _ => h⟩

theorem Simulates.throw {τ : Type} {R : σ → τ → Prop} (e : ε) :
    Simulates R (throw e : Fallible ε σ α) (throw e) :=
  fun _ _ h => ⟨rfl, fun _ _ => h⟩

theorem Simulates.bind {τ : Type} {R : σ → τ → Prop} {x : Fallible ε σ α}
    {y : Fallible ε τ α} {f : α → Fallible ε σ β} {g : α → Fallible ε τ β}
    (hx : Simulates R x y) (hf : ∀ a, Simulates R (f a) (g a)) :
    Simulates R (x >>= f) (y >>= g) := by
  intro s t h
  obtain ⟨hresult, hrel⟩ := hx s t h
  rw [exec_bind, exec_bind]
  rcases hxs : exec x s with ⟨r, s'⟩
  rcases hyt : exec y t with ⟨r', t'⟩
  rw [hxs, hyt] at hresult hrel
  obtain rfl : r = r' := hresult
  cases r with
  | ok a => exact hf a s' t' (hrel a rfl)
  | error e =>
      refine ⟨rfl, ?_⟩
      intro b hb
      cases hb

/-- Reading the state gives related values. -/
theorem Simulates.get_bind {τ : Type} {R : σ → τ → Prop} {f : σ → Fallible ε σ β}
    {g : τ → Fallible ε τ β} (h : ∀ s t, R s t → Simulates R (f s) (g t)) :
    Simulates R (get >>= f) (get >>= g) := by
  intro s t hst
  rw [exec_bind_of_ok (exec_get s), exec_bind_of_ok (exec_get t)]
  exact h s t hst s t hst

theorem Simulates.map {τ : Type} {R : σ → τ → Prop} {x : Fallible ε σ α}
    {y : Fallible ε τ α} (f : α → β) (hx : Simulates R x y) :
    Simulates R (f <$> x) (f <$> y) := by
  rw [map_eq_pure_bind, map_eq_pure_bind]
  exact Simulates.bind hx (fun a => Simulates.pure (f a))

end Clackd.Foundation
