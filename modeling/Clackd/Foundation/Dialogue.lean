import Mathlib

/-!
# Programs in a dialogue

A client program asks something, waits for the answer and goes on as the answer says;
between its questions it may tell something.  Nothing is assumed of who answers, or of
what else happens in between: a run of the program is the list of its questions with the
answers that they got.

## Main results

* `Leads.bind`: a run of two programs in sequence is a run of the first and then one of the
  second.
* `finished_bind`, `finished_andThen_ok`: and a complete run is nothing else, also where an
  error may end the sequence.
* `Asks.leads`, `Closes.leads`: what holds of all questions that a program may ask, and of
  the last one.
* `Earns.finished`: a program that ends well exactly where it got some exchange.
-/

namespace Clackd.Foundation

/-- A program with questions in `Q`, answers in `A`, output in `O` and a result in `ρ`. -/
inductive Dialogue (Q A O ρ : Type) where
  | done (result : ρ)
  | tell (text : O) (next : Dialogue Q A O ρ)
  | ask (question : Q) (next : A → Dialogue Q A O ρ)

namespace Dialogue

variable {Q A O ρ σ ε α β : Type}

/-- One program, and then another with its result. -/
def bind : Dialogue Q A O ρ → (ρ → Dialogue Q A O σ) → Dialogue Q A O σ
  | .done result, f => f result
  | .tell text next, f => .tell text (next.bind f)
  | .ask question next, f => .ask question fun answer => (next answer).bind f

instance : Monad (Dialogue Q A O) where
  pure := .done
  bind := bind

@[simp] theorem done_bind (result : ρ) (f : ρ → Dialogue Q A O σ) :
    (Dialogue.done result : Dialogue Q A O ρ).bind f = f result := rfl

/-- One program, and then another unless the first has failed. -/
def andThen (p : Dialogue Q A O (Except ε α)) (f : α → Dialogue Q A O (Except ε β)) :
    Dialogue Q A O (Except ε β) :=
  p.bind fun
    | .ok a => f a
    | .error e => .done (.error e)

/-- What fails skips all that comes after it. -/
theorem andThen_assoc {γ : Type} (p : Dialogue Q A O (Except ε α))
    (f : α → Dialogue Q A O (Except ε β)) (g : β → Dialogue Q A O (Except ε γ)) :
    (p.andThen f).andThen g = p.andThen fun a => (f a).andThen g := by
  induction p with
  | done r => cases r <;> rfl
  | tell text next ih => exact congrArg (Dialogue.tell text) ih
  | ask question next ih => exact congrArg (Dialogue.ask question) (funext ih)

/-! ## Runs -/

/-- With these answers and this output the program gets so far. -/
inductive Leads : Dialogue Q A O ρ → List (Q × A) → List O → Dialogue Q A O ρ → Prop
  | here (p : Dialogue Q A O ρ) : Leads p [] [] p
  | tell {text : O} {next p : Dialogue Q A O ρ} {exchanges : List (Q × A)} {out : List O} :
      Leads next exchanges out p → Leads (.tell text next) exchanges (text :: out) p
  | ask {question : Q} {answer : A} {next : A → Dialogue Q A O ρ} {p : Dialogue Q A O ρ}
      {exchanges : List (Q × A)} {out : List O} :
      Leads (next answer) exchanges out p →
        Leads (.ask question next) ((question, answer) :: exchanges) out p

/-- A complete run. -/
def Finished (p : Dialogue Q A O ρ) (exchanges : List (Q × A)) (out : List O) (result : ρ) :
    Prop :=
  Leads p exchanges out (.done result)

theorem Leads.trans {p q r : Dialogue Q A O ρ} {exchanges more : List (Q × A)}
    {out later : List O} (h : Leads p exchanges out q) (h' : Leads q more later r) :
    Leads p (exchanges ++ more) (out ++ later) r := by
  induction h with
  | here p => exact h'
  | tell _ ih => exact .tell (ih h')
  | ask _ ih => exact .ask (ih h')

/-- Something more is told. -/
theorem Leads.told {p next : Dialogue Q A O ρ} {text : O} {exchanges : List (Q × A)}
    {out : List O} (h : Leads p exchanges out (.tell text next)) :
    Leads p exchanges (out ++ [text]) next := by
  have hmore := h.trans (.tell (.here next))
  rwa [List.append_nil] at hmore

/-- One more question is answered. -/
theorem Leads.answered {p : Dialogue Q A O ρ} {question : Q} {next : A → Dialogue Q A O ρ}
    {exchanges : List (Q × A)} {out : List O} (h : Leads p exchanges out (.ask question next))
    (answer : A) : Leads p (exchanges ++ [(question, answer)]) out (next answer) := by
  have hmore := h.trans (.ask (.here (next answer)))
  rwa [List.append_nil] at hmore

/-- A run of two programs in sequence. -/
theorem Leads.bind {p : Dialogue Q A O ρ} {f : ρ → Dialogue Q A O σ}
    {q : Dialogue Q A O σ} {exchanges : List (Q × A)} {out : List O}
    (h : Leads (p.bind f) exchanges out q) :
    (∃ rest, Leads p exchanges out rest ∧ q = rest.bind f) ∨
      ∃ result first second printed later, Finished p first printed result ∧
        Leads (f result) second later q ∧ exchanges = first ++ second ∧ out = printed ++ later := by
  induction p generalizing exchanges out with
  | done result => exact .inr ⟨result, [], exchanges, [], out, .here _, h, rfl, rfl⟩
  | tell text next ih =>
      cases h with
      | here => exact .inl ⟨.tell text next, .here _, rfl⟩
      | tell hnext =>
          rcases ih hnext with ⟨rest, hrest, rfl⟩ | ⟨r, ex, ex', o, o', hfin, hlater, rfl, rfl⟩
          · exact .inl ⟨rest, .tell hrest, rfl⟩
          · exact .inr ⟨r, ex, ex', text :: o, o', .tell hfin, hlater, rfl, rfl⟩
  | ask question next ih =>
      cases h with
      | here => exact .inl ⟨.ask question next, .here _, rfl⟩
      | @ask _ answer _ _ more _ hnext =>
          rcases ih answer hnext with
            ⟨rest, hrest, rfl⟩ | ⟨r, ex, ex', o, o', hfin, hlater, rfl, rfl⟩
          · exact .inl ⟨rest, .ask hrest, rfl⟩
          · exact .inr ⟨r, (question, answer) :: ex, ex', o, o', .ask hfin, hlater, rfl, rfl⟩

/-- What is done has had its whole run. -/
theorem finished_done {result result' : ρ} {exchanges : List (Q × A)} {out : List O} :
    Finished (.done result) exchanges out result' ↔
      exchanges = [] ∧ out = [] ∧ result' = result := by
  constructor
  · intro h
    cases h
    exact ⟨rfl, rfl, rfl⟩
  · rintro ⟨rfl, rfl, rfl⟩
    exact .here _

theorem finished_tell {text : O} {next : Dialogue Q A O ρ} {result : ρ}
    {exchanges : List (Q × A)} {out : List O} :
    Finished (.tell text next) exchanges out result ↔
      ∃ later, out = text :: later ∧ Finished next exchanges later result := by
  constructor
  · intro h
    cases h with
    | tell hnext => exact ⟨_, rfl, hnext⟩
  · rintro ⟨later, rfl, hnext⟩
    exact .tell hnext

theorem finished_ask {question : Q} {next : A → Dialogue Q A O ρ} {result : ρ}
    {exchanges : List (Q × A)} {out : List O} :
    Finished (.ask question next) exchanges out result ↔
      ∃ answer more, exchanges = (question, answer) :: more ∧
        Finished (next answer) more out result := by
  constructor
  · intro h
    cases h with
    | ask hnext => exact ⟨_, _, rfl, hnext⟩
  · rintro ⟨answer, more, rfl, hnext⟩
    exact .ask hnext

/-- A complete run of two programs in sequence. -/
theorem finished_bind {p : Dialogue Q A O ρ} {f : ρ → Dialogue Q A O σ} {result : σ}
    {exchanges : List (Q × A)} {out : List O} :
    Finished (p.bind f) exchanges out result ↔
      ∃ r first second printed later, Finished p first printed r ∧
        Finished (f r) second later result ∧ exchanges = first ++ second ∧
          out = printed ++ later := by
  constructor
  · intro h
    rcases Leads.bind h with ⟨rest, hrest, hdone⟩ | hboth
    · cases rest with
      | done r =>
          rw [done_bind] at hdone
          exact ⟨r, exchanges, [], out, [], hrest, by rw [← hdone]; exact .here _,
            (List.append_nil _).symm, (List.append_nil _).symm⟩
      | tell text next => cases hdone
      | ask question next => cases hdone
    · exact hboth
  · rintro ⟨r, first, second, printed, later, hfirst, hsecond, rfl, rfl⟩
    induction p generalizing first printed with
    | done r' =>
        obtain ⟨rfl, rfl, rfl⟩ := finished_done.1 hfirst
        exact hsecond
    | tell text next ih =>
        obtain ⟨rest, rfl, hnext⟩ := finished_tell.1 hfirst
        exact .tell (ih first rest hnext)
    | ask question next ih =>
        obtain ⟨answer, more, rfl, hnext⟩ := finished_ask.1 hfirst
        exact .ask (ih answer more printed hnext)

/-- A sequence that succeeds: so do its parts. -/
theorem finished_andThen_ok {p : Dialogue Q A O (Except ε α)}
    {f : α → Dialogue Q A O (Except ε β)} {b : β} {exchanges : List (Q × A)} {out : List O}
    (h : Finished (p.andThen f) exchanges out (.ok b)) :
    ∃ a first second printed later, Finished p first printed (.ok a) ∧
      Finished (f a) second later (.ok b) ∧ exchanges = first ++ second ∧
        out = printed ++ later := by
  obtain ⟨r, first, second, printed, later, hfirst, hsecond, hexchanges, hout⟩ :=
    finished_bind.1 h
  cases r with
  | ok a => exact ⟨a, first, second, printed, later, hfirst, hsecond, hexchanges, hout⟩
  | error e =>
      obtain ⟨-, -, hcon⟩ := finished_done.1 hsecond
      cases hcon

/-! ## All questions -/

/-- Every question that the program may ever ask is of this kind. -/
def Asks (P : Q → Prop) : Dialogue Q A O ρ → Prop
  | .done _ => True
  | .tell _ next => next.Asks P
  | .ask question next => P question ∧ ∀ answer, (next answer).Asks P

theorem Asks.bind {P : Q → Prop} {p : Dialogue Q A O ρ} {f : ρ → Dialogue Q A O σ}
    (hp : p.Asks P) (hf : ∀ r, (f r).Asks P) : (p.bind f).Asks P := by
  induction p with
  | done r => exact hf r
  | tell text next ih => exact ih hp
  | ask question next ih => exact ⟨hp.1, fun answer => ih answer (hp.2 answer)⟩

theorem Asks.andThen {P : Q → Prop} {p : Dialogue Q A O (Except ε α)}
    {f : α → Dialogue Q A O (Except ε β)} (hp : p.Asks P) (hf : ∀ a, (f a).Asks P) :
    (p.andThen f).Asks P := by
  refine hp.bind fun r => ?_
  cases r with
  | ok a => exact hf a
  | error e => trivial

/-- So is every question of a run, and every one that may come after it. -/
theorem Asks.leads {P : Q → Prop} {p q : Dialogue Q A O ρ} {exchanges : List (Q × A)}
    {out : List O} (hp : p.Asks P) (h : Leads p exchanges out q) :
    (∀ exchange ∈ exchanges, P exchange.1) ∧ q.Asks P := by
  induction h with
  | here p => exact ⟨List.forall_mem_nil _, hp⟩
  | tell _ ih => exact ih hp
  | ask _ ih =>
      obtain ⟨hrest, hq⟩ := ih (hp.2 _)
      exact ⟨List.forall_mem_cons.2 ⟨hp.1, hrest⟩, hq⟩

/-- The program asks questions of one kind, and then at most one of another kind, after
which it asks no more. -/
def Closes (P W : Q → Prop) : Dialogue Q A O ρ → Prop
  | .done _ => True
  | .tell _ next => next.Closes P W
  | .ask question next =>
      (P question ∧ ∀ answer, (next answer).Closes P W) ∨
        (W question ∧ ∀ answer, (next answer).Asks fun _ => False)

theorem Asks.closes {P W : Q → Prop} {p : Dialogue Q A O ρ} (hp : p.Asks P) : p.Closes P W := by
  induction p with
  | done r => trivial
  | tell text next ih => exact ih hp
  | ask question next ih => exact .inl ⟨hp.1, fun answer => ih answer (hp.2 answer)⟩

/-- Questions of the one kind may come before. -/
theorem Closes.bind {P W : Q → Prop} {p : Dialogue Q A O ρ} {f : ρ → Dialogue Q A O σ}
    (hp : p.Asks P) (hf : ∀ r, (f r).Closes P W) : (p.bind f).Closes P W := by
  induction p with
  | done r => exact hf r
  | tell text next ih => exact ih hp
  | ask question next ih => exact .inl ⟨hp.1, fun answer => ih answer (hp.2 answer)⟩

theorem Closes.andThen {P W : Q → Prop} {p : Dialogue Q A O (Except ε α)}
    {f : α → Dialogue Q A O (Except ε β)} (hp : p.Asks P) (hf : ∀ a, (f a).Closes P W) :
    (p.andThen f).Closes P W := by
  refine Closes.bind hp fun r => ?_
  cases r with
  | ok a => exact hf a
  | error e => trivial

/-- In a run, the question of the other kind is the last one. -/
theorem Closes.leads {P W : Q → Prop} {p q : Dialogue Q A O ρ} {exchanges : List (Q × A)}
    {out : List O} (hp : p.Closes P W) (h : Leads p exchanges out q) :
    ∃ before last, exchanges = before ++ last ∧ (∀ exchange ∈ before, P exchange.1) ∧
      (last = [] ∨ ∃ exchange, last = [exchange] ∧ W exchange.1) := by
  induction h with
  | here p => exact ⟨[], [], rfl, List.forall_mem_nil _, .inl rfl⟩
  | tell _ ih => exact ih hp
  | @ask question answer next p exchanges out hnext ih =>
      rcases hp with ⟨hquestion, hrest⟩ | ⟨hquestion, hrest⟩
      · obtain ⟨before, last, rfl, hbefore, hlast⟩ := ih (hrest answer)
        exact ⟨(question, answer) :: before, last, rfl,
          List.forall_mem_cons.2 ⟨hquestion, hbefore⟩, hlast⟩
      · obtain ⟨hnone, -⟩ := (hrest answer).leads hnext
        have hempty : exchanges = [] := by
          cases exchanges with
          | nil => rfl
          | cons exchange more => exact absurd List.mem_cons_self (hnone exchange)
        subst hempty
        exact ⟨[], [(question, answer)], rfl, List.forall_mem_nil _, .inr ⟨_, rfl, hquestion⟩⟩

/-! ## All ends -/

/-- Every result that the program may end with is of this kind. -/
def Ends (R : ρ → Prop) : Dialogue Q A O ρ → Prop
  | .done result => R result
  | .tell _ next => next.Ends R
  | .ask _ next => ∀ answer, (next answer).Ends R

theorem Ends.finished {R : ρ → Prop} {p : Dialogue Q A O ρ} {exchanges : List (Q × A)}
    {out : List O} {result : ρ} (hp : p.Ends R) (h : Finished p exchanges out result) :
    R result := by
  rw [Finished] at h
  generalize hq : Dialogue.done result = q at h
  induction h with
  | here p =>
      subst hq
      exact hp
  | tell _ ih => exact ih hp hq
  | ask _ ih => exact ih (hp _) hq

/-- The program ends well where it got an exchange of this kind, and else it does not. -/
def Earns (W : Q → A → Prop) (R : ρ → Prop) : Dialogue Q A O ρ → Prop
  | .done result => ¬ R result
  | .tell _ next => next.Earns W R
  | .ask question next => ∀ answer,
      (W question answer ∧ (next answer).Ends R) ∨
        (¬ W question answer ∧ (next answer).Earns W R)

/-- Before that, other exchanges may come, and an error ends the program badly. -/
theorem Earns.bind {W : Q → A → Prop} {R : σ → Prop} {p : Dialogue Q A O ρ}
    {f : ρ → Dialogue Q A O σ} (hp : p.Asks fun question => ∀ answer, ¬ W question answer)
    (hf : ∀ r, (f r).Earns W R) : (p.bind f).Earns W R := by
  induction p with
  | done r => exact hf r
  | tell text next ih => exact ih hp
  | ask question next ih => exact fun answer => .inr ⟨hp.1 answer, ih answer (hp.2 answer)⟩

theorem Earns.andThen {W : Q → A → Prop} {p : Dialogue Q A O (Except ε α)}
    {f : α → Dialogue Q A O (Except ε β)}
    (hp : p.Asks fun question => ∀ answer, ¬ W question answer)
    (hf : ∀ a, (f a).Earns W fun r => r.isOk) :
    (p.andThen f).Earns W fun r => r.isOk := by
  refine Earns.bind hp fun r => ?_
  cases r with
  | ok a => exact hf a
  | error e => exact Bool.false_ne_true

/-- A complete run ends well if and only if it got such an exchange. -/
theorem Earns.finished {W : Q → A → Prop} {R : ρ → Prop} {p : Dialogue Q A O ρ}
    {exchanges : List (Q × A)} {out : List O} {result : ρ} (hp : p.Earns W R)
    (h : Finished p exchanges out result) :
    R result ↔ ∃ exchange ∈ exchanges, W exchange.1 exchange.2 := by
  rw [Finished] at h
  generalize hq : Dialogue.done result = q at h
  induction h with
  | here p =>
      subst hq
      exact iff_of_false hp fun ⟨_, hmem, _⟩ => absurd hmem List.not_mem_nil
  | tell _ ih => exact ih hp hq
  | @ask question answer next p exchanges out hnext ih =>
      subst hq
      rcases hp answer with ⟨hearned, hends⟩ | ⟨hother, hrest⟩
      · exact iff_of_true (hends.finished hnext) ⟨_, List.mem_cons_self, hearned⟩
      · rw [ih hrest rfl]
        constructor
        · rintro ⟨exchange, hmem, hearned⟩
          exact ⟨exchange, List.mem_cons_of_mem _ hmem, hearned⟩
        · rintro ⟨exchange, hmem, hearned⟩
          rcases List.mem_cons.1 hmem with rfl | hmem
          · exact absurd hearned hother
          · exact ⟨exchange, hmem, hearned⟩

end Dialogue

end Clackd.Foundation
