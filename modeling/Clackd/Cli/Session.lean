import Clackd.Cli.Conduct

/-!
# Commands and the daemon

Any number of commands run at the same time, next to other clients of the interface.  Each
call of a command is a call of the bus, and the command waits until it has returned or the
connection is lost.  So what is proved of commands for all replies, and what is proved of
calls, meet here.

## Main results

* `sound_run`: each command has had a run of its program, and each answer it got is what
  the call it made for it has returned.
* `bus_run`: the bus has a run of its own.
-/

namespace Clackd.Cli

open Clackd.Foundation Clackd.Hal Clackd.Engine Clackd.Ipc
open Dialogue (Finished Leads)

/-! ## Sessions -/

/-- A command that was started: what is left of its program, what it has called and
printed, the places of these calls on the bus, and the one it waits for. -/
structure Process where
  command : Command
  rest : Client Unit
  exchanges : List (Method × Returned)
  out : List String
  calls : List Nat
  pending : Option Nat

namespace Process

def start (display : BusError → String) (command : Command) : Process :=
  ⟨command, run display command, [], [], [], none⟩

/-- A line is printed. -/
def print (c : Process) : Option Process :=
  match c.rest with
  | .tell text next => some { c with rest := next, out := c.out ++ [text] }
  | _ => none

/-- The next call is made, as the call at this place. -/
def ask (method : Method) (i : Nat) (c : Process) : Option Process :=
  match c.rest, c.pending with
  | .ask question _, none => if question = method then some { c with pending := some i } else none
  | _, _ => none

/-- The call comes back. -/
def hear (returned : Returned) (c : Process) : Option Process :=
  match c.rest, c.pending with
  | .ask question next, some i =>
      some { c with
        rest := next returned
        exchanges := c.exchanges ++ [(question, returned)]
        calls := c.calls ++ [i]
        pending := none }
  | _, _ => none

/-- The command has ended, and exits with success. -/
def succeeded (c : Process) : Bool :=
  match c.rest with
  | .done (.ok _) => true
  | _ => false

end Process

/-- The daemon with its interface, and the commands. -/
structure Session (D : Type) where
  bus : Bus D
  processes : List Process

/-- One step: a command is started, prints, calls, hears what has come back or loses its
connection, or something else happens on the bus. -/
inductive SessionLabel (W : Type) where
  | launch (command : Command)
  | print (p : Nat)
  | ask (p : Nat) (method : Method)
  | hear (p : Nat)
  | lose (p : Nat) (error : BusError)
  | bus (l : BusLabel W)

/-- What a step is for the bus. -/
def SessionLabel.onBus {W : Type} : SessionLabel W → Option (BusLabel W)
  | .ask _ method => some (.call method)
  | .bus l => some l
  | _ => none

namespace Session

variable {W D : Type}

def start : Session D := ⟨Bus.start, []⟩

/-- One of the commands moves. -/
def advance (p : Nat) (f : Process → Option Process) (s : Session D) : Option (Session D) :=
  s.processes[p]?.bind fun c => (f c).map fun c' => { s with processes := s.processes.set p c' }

/-- What comes back of a call. -/
def reply (i : Nat) (b : Bus D) : Option Returned :=
  b.calls[i]?.bind fun call =>
    match call.phase with
    | .returned _ result => some (result.mapError .ofFdo)
    | _ => none

variable [KeyboardDriver D] [BackgroundTasks D]

/-- One step, or `none` if that party cannot move so. -/
def step (display : BusError → String) (render : Rendering) (table : DriverTable W D)
    (s : Session D) : SessionLabel W → Option (Session D)
  | .launch command => some { s with processes := s.processes ++ [.start display command] }
  | .print p => s.advance p Process.print
  | .ask p method => (s.advance p (Process.ask method s.bus.calls.length)).bind fun s' =>
      (s.bus.step render table (.call method)).map fun bus => { s' with bus := bus }
  | .hear p => s.advance p fun c =>
      c.pending.bind fun i => (reply i s.bus).bind fun returned => c.hear returned
  | .lose p error => s.advance p (Process.hear (.error error))
  | .bus l => (s.bus.step render table l).map fun bus => { s with bus := bus }

end Session

/-! ## What a command knows -/

/-- An exchange of a command is a call that it made itself, and which has returned this
answer. -/
def Process.Asked {D : Type} (b : Bus D) (c : Process) (k i : Nat) (method : Method)
    (answer : Answer) : Prop :=
  c.exchanges[k]? = some (method, .ok answer) ∧ c.calls[k]? = some i ∧
    ∃ call channel, b.calls[i]? = some call ∧ call.method = method ∧
      call.phase = .returned channel (.ok answer)

/-- A command has had a run of its program, its call is under way, and each answer it got
is that of the call it made for it; all its calls came after the first ones. -/
structure Process.Sound {D : Type} (display : BusError → String) (first : Nat) (b : Bus D)
    (c : Process) : Prop where
  leads : Leads (run display c.command) c.exchanges c.out c.rest
  waits : ∀ i, c.pending = some i → first ≤ i ∧ ∃ method next call, c.rest = .ask method next ∧
    b.calls[i]? = some call ∧ call.method = method
  placed : c.calls.length = c.exchanges.length
  served : ∀ k method answer, c.exchanges[k]? = some (method, .ok answer) →
    ∃ i, first ≤ i ∧ c.Asked b k i method answer

namespace Process

variable {W D : Type} {display : BusError → String} {first : Nat} {b b' : Bus D}
  {c c' : Process}

theorem sound_start (command : Command) : (start display command).Sound display first b where
  leads := .here _
  waits := fun _ h => by cases h
  placed := rfl
  served := fun _ _ _ h => by cases h

theorem sound_print (h : c.Sound display first b) (hstep : c.print = some c') :
    c'.Sound display first b := by
  rw [print] at hstep
  split at hstep
  · rename_i text next hrest
    cases hstep
    have hleads := h.leads
    rw [hrest] at hleads
    refine ⟨hleads.told, ?_, h.placed, h.served⟩
    intro i hi
    obtain ⟨-, method, next', call, hask, -⟩ := h.waits i hi
    rw [hrest] at hask
    cases hask
  · cases hstep

theorem sound_ask (h : c.Sound display first b) {method : Method} {i : Nat} {call : Call}
    (hfirst : first ≤ i) (hcall : b.calls[i]? = some call) (hmethod : call.method = method)
    (hstep : c.ask method i = some c') : c'.Sound display first b := by
  rw [ask] at hstep
  split at hstep
  · rename_i question next hrest hpending
    split at hstep
    · rename_i hquestion
      cases hstep
      refine ⟨h.leads, ?_, h.placed, h.served⟩
      intro j hj
      cases hj
      exact ⟨hfirst, question, next, call, hrest, hcall, hmethod.trans hquestion.symm⟩
    · cases hstep
  · cases hstep

/-- What is heard as an answer is what a call of the method has returned. -/
theorem sound_hear (h : c.Sound display first b) {returned : Returned}
    (hreturned : ∀ (method : Method) (answer : Answer) (i : Nat) (call : Call),
      c.pending = some i → b.calls[i]? = some call → call.method = method →
        returned = .ok answer → ∃ channel, call.phase = .returned channel (.ok answer))
    (hstep : c.hear returned = some c') : c'.Sound display first b := by
  rw [hear] at hstep
  split at hstep
  · rename_i question next i hrest hpending
    cases hstep
    have hleads := h.leads
    rw [hrest] at hleads
    refine ⟨hleads.answered returned, ?_, ?_, ?_⟩
    · intro j hj
      cases hj
    · show (c.calls ++ [i]).length = (c.exchanges ++ [(question, returned)]).length
      rw [List.length_append, List.length_append, h.placed]
      rfl
    · intro k method answer hk
      change (c.exchanges ++ [(question, returned)])[k]? = _ at hk
      by_cases hlt : k < c.exchanges.length
      · rw [List.getElem?_append_left hlt] at hk
        obtain ⟨j, hj, hexchange, hplace, hcall⟩ := h.served k method answer hk
        refine ⟨j, hj, ?_, ?_, hcall⟩
        · exact (List.getElem?_append_left hlt).trans hexchange
        · exact (List.getElem?_append_left (by rw [h.placed]; exact hlt)).trans hplace
      · have hlast : k = c.exchanges.length := by
          have hle := (List.getElem?_eq_some_iff.1 hk).1
          rw [List.length_append, List.length_singleton] at hle
          omega
        subst hlast
        rw [List.getElem?_concat_length] at hk
        cases hk
        obtain ⟨hfirst, method', next', call, hask, hcall, hmethod⟩ := h.waits i hpending
        rw [hrest] at hask
        cases hask
        obtain ⟨channel, hphase⟩ := hreturned _ _ i call hpending hcall hmethod rfl
        refine ⟨i, hfirst, List.getElem?_concat_length, ?_, call, channel, hcall, hmethod, hphase⟩
        rw [← h.placed]
        exact List.getElem?_concat_length
  · cases hstep

/-- A command that has succeeded has had a complete run. -/
theorem Sound.finished (h : c.Sound display first b) (hsucceeded : c.succeeded = true) :
    Finished (run display c.command) c.exchanges c.out (.ok ()) := by
  have hleads := h.leads
  rw [succeeded] at hsucceeded
  split at hsucceeded
  · rename_i u hrest
    rw [hrest] at hleads
    exact hleads
  · cases hsucceeded

/-- Calls stay what they are. -/
theorem Sound.bus (h : c.Sound display first b)
    (hmethods : ∀ (i : Nat) (call : Call), b.calls[i]? = some call →
      ∃ call', b'.calls[i]? = some call' ∧ call'.method = call.method)
    (hreturned : ∀ (i : Nat) (call : Call) channel result, b.calls[i]? = some call →
      call.phase = .returned channel result → b'.calls[i]? = some call) :
    c.Sound display first b' where
  leads := h.leads
  waits := by
    intro i hi
    obtain ⟨hfirst, method, next, call, hask, hcall, hmethod⟩ := h.waits i hi
    obtain ⟨call', hcall', hsame⟩ := hmethods i call hcall
    exact ⟨hfirst, method, next, call', hask, hcall', hsame.trans hmethod⟩
  placed := h.placed
  served := by
    intro k method answer hk
    obtain ⟨i, hfirst, hexchange, hplace, call, channel, hcall, hmethod, hphase⟩ :=
      h.served k method answer hk
    exact ⟨i, hfirst, hexchange, hplace, call, channel,
      hreturned i call channel _ hcall hphase, hmethod, hphase⟩

end Process

namespace Session

variable {W D : Type} [KeyboardDriver D] [BackgroundTasks D] {display : BusError → String}
  {render : Rendering} {table : DriverTable W D} {first k : Nat}

/-- Every command but the first ones, whose calls came after the first ones. -/
structure Sound (display : BusError → String) (first k : Nat) (s : Session D) : Prop where
  calls : first ≤ s.bus.calls.length
  processes : ∀ (p : Nat) (c : Process), k ≤ p → s.processes[p]? = some c →
    c.Sound display first s.bus

omit [KeyboardDriver D] [BackgroundTasks D] in
/-- All that is there came first. -/
theorem sound_from (s : Session D) : s.Sound display s.bus.calls.length s.processes.length where
  calls := Nat.le_refl _
  processes := by
    intro p c hp hc
    have hlt := (List.getElem?_eq_some_iff.1 hc).1
    omega

/-- A call keeps its method. -/
theorem method_step {b b' : Bus D} {l : BusLabel W} (hstep : b.step render table l = some b')
    {i : Nat} {call : Call} (hcall : b.calls[i]? = some call) :
    ∃ call', b'.calls[i]? = some call' ∧ call'.method = call.method := by
  obtain ⟨-, hmoved⟩ := Bus.moved_step hstep
  cases hmoved with
  | stayed hcalls => exact ⟨call, by rw [hcalls]; exact hcall, rfl⟩
  | came method hcalls =>
      refine ⟨call, ?_, rfl⟩
      rw [hcalls, List.getElem?_append_left (List.getElem?_eq_some_iff.1 hcall).1]
      exact hcall
  | moved n d phase hd hcalls hlive hchannel =>
      by_cases hni : n = i
      · subst hni
        rw [hcall] at hd
        cases hd
        refine ⟨{ call with phase := phase }, ?_, rfl⟩
        rw [hcalls, List.getElem?_set_self (List.getElem?_eq_some_iff.1 hcall).1]
      · exact ⟨call, by rw [hcalls, List.getElem?_set_ne hni]; exact hcall, rfl⟩

/-- No call is forgotten. -/
theorem calls_length_step {b b' : Bus D} {l : BusLabel W}
    (hstep : b.step render table l = some b') : b.calls.length ≤ b'.calls.length := by
  obtain ⟨-, hmoved⟩ := Bus.moved_step hstep
  cases hmoved with
  | stayed hcalls => rw [hcalls]
  | came method hcalls =>
      rw [hcalls, List.length_append]
      omega
  | moved n d phase hd hcalls hlive hchannel => rw [hcalls, List.length_set]

theorem sound_bus {b b' : Bus D} {l : BusLabel W} (hstep : b.step render table l = some b')
    {c : Process} (h : c.Sound display first b) : c.Sound display first b' :=
  h.bus (fun _ _ hcall => method_step hstep hcall)
    fun _ _ _ _ hcall hphase => Bus.returned_step hphase hcall hstep

omit [KeyboardDriver D] [BackgroundTasks D] in
/-- One of the commands moves, and the others do not. -/
theorem sound_advance {s s' : Session D} {p : Nat} {f : Process → Option Process}
    (h : s.Sound display first k) (hstep : s.advance p f = some s')
    (hf : ∀ c c', c.Sound display first s.bus → f c = some c' → c'.Sound display first s.bus) :
    s'.Sound display first k := by
  obtain ⟨c, hc, hmap⟩ := Option.bind_eq_some_iff.1 hstep
  obtain ⟨c', hc', rfl⟩ := Option.map_eq_some_iff.1 hmap
  refine ⟨h.calls, fun q d hq hd => ?_⟩
  by_cases hpq : p = q
  · subst hpq
    rw [List.getElem?_set_self (List.getElem?_eq_some_iff.1 hc).1] at hd
    cases hd
    exact hf c _ (h.processes p c hq hc) hc'
  · rw [List.getElem?_set_ne hpq] at hd
    exact h.processes q d hq hd

omit [KeyboardDriver D] [BackgroundTasks D] in
/-- What comes back of a call as an answer is what it has returned. -/
theorem reply_ok {b : Bus D} {i : Nat} {answer : Answer} (h : reply i b = some (.ok answer)) :
    ∃ call channel, b.calls[i]? = some call ∧ call.phase = .returned channel (.ok answer) := by
  obtain ⟨call, hcall, hreply⟩ := Option.bind_eq_some_iff.1 h
  split at hreply
  · rename_i channel result hphase
    cases result with
    | ok a =>
        cases hreply
        exact ⟨call, channel, hcall, hphase⟩
    | error e => cases hreply
  · cases hreply

theorem sound_step {s s' : Session D} {l : SessionLabel W} (h : s.Sound display first k)
    (hstep : s.step display render table l = some s') : s'.Sound display first k := by
  cases l with
  | launch command =>
      cases hstep
      refine ⟨h.calls, fun p c hp hc => ?_⟩
      rw [List.getElem?_append] at hc
      split at hc
      · exact h.processes p c hp hc
      · rw [List.mem_singleton.1 (List.mem_of_getElem? hc)]
        exact Process.sound_start command
  | print p => exact sound_advance h hstep fun c c' hc => Process.sound_print hc
  | ask p method =>
      obtain ⟨m, hm, hmap⟩ := Option.bind_eq_some_iff.1 hstep
      obtain ⟨bus, hbus, rfl⟩ := Option.map_eq_some_iff.1 hmap
      have hcalls : bus.calls[s.bus.calls.length]? = some ⟨method, .sending⟩ := by
        cases hbus
        exact List.getElem?_concat_length
      have hkept : (⟨bus, s.processes⟩ : Session D).Sound display first k :=
        ⟨Nat.le_trans h.calls (calls_length_step hbus), fun q c hq hc =>
          sound_bus hbus (h.processes q c hq hc)⟩
      have hmoved : (⟨bus, s.processes⟩ : Session D).advance p
          (Process.ask method s.bus.calls.length) = some ⟨bus, m.processes⟩ := by
        obtain ⟨c, hc, hask⟩ := Option.bind_eq_some_iff.1 hm
        obtain ⟨c', hc', rfl⟩ := Option.map_eq_some_iff.1 hask
        exact Option.bind_eq_some_iff.2 ⟨c, hc, Option.map_eq_some_iff.2 ⟨c', hc', rfl⟩⟩
      exact sound_advance hkept hmoved fun c c' hc => Process.sound_ask hc h.calls hcalls rfl
  | hear p =>
      refine sound_advance h hstep fun c c' hc hf => ?_
      obtain ⟨i, hi, hbind⟩ := Option.bind_eq_some_iff.1 hf
      obtain ⟨returned, hreturned, hhear⟩ := Option.bind_eq_some_iff.1 hbind
      refine Process.sound_hear hc ?_ hhear
      rintro method answer j call hj hcall hmethod rfl
      rw [hi] at hj
      cases hj
      obtain ⟨call', channel, hcall', hphase⟩ := reply_ok hreturned
      rw [hcall] at hcall'
      cases hcall'
      exact ⟨channel, hphase⟩
  | lose p error =>
      refine sound_advance h hstep fun c c' hc hf => ?_
      exact Process.sound_hear hc (fun _ _ _ _ _ _ _ hcon => by cases hcon) hf
  | bus l =>
      obtain ⟨bus, hbus, rfl⟩ := Option.map_eq_some_iff.1 hstep
      exact ⟨Nat.le_trans h.calls (calls_length_step hbus), fun p c hp hc =>
        sound_bus hbus (h.processes p c hp hc)⟩

/-- In every run, of the commands that were started in it. -/
theorem sound_run {ls : List (SessionLabel W)} {s s' : Session D}
    (hrun : Foundation.run (step display render table) s ls = some s') :
    s'.Sound display s.bus.calls.length s.processes.length :=
  run_preserves (fun _ _ _ h hstep => sound_step h hstep) (sound_from s) hrun

theorem bus_step {s s' : Session D} {l : SessionLabel W}
    (hstep : s.step display render table l = some s') :
    match l.onBus with
    | some l' => s.bus.step render table l' = some s'.bus
    | none => s'.bus = s.bus := by
  have hadvance : ∀ (p : Nat) (f : Process → Option Process) (m : Session D),
      s.advance p f = some m → m.bus = s.bus := by
    intro p f m hm
    obtain ⟨c, -, hmap⟩ := Option.bind_eq_some_iff.1 hm
    obtain ⟨c', -, rfl⟩ := Option.map_eq_some_iff.1 hmap
    rfl
  cases l with
  | launch command =>
      cases hstep
      rfl
  | print p => exact hadvance p _ _ hstep
  | ask p method =>
      obtain ⟨m, hm, hmap⟩ := Option.bind_eq_some_iff.1 hstep
      obtain ⟨bus, hbus, rfl⟩ := Option.map_eq_some_iff.1 hmap
      exact hbus
  | hear p => exact hadvance p _ _ hstep
  | lose p error => exact hadvance p _ _ hstep
  | bus l =>
      obtain ⟨bus, hbus, rfl⟩ := Option.map_eq_some_iff.1 hstep
      exact hbus

/-- The bus has a run of its own. -/
theorem bus_run {ls : List (SessionLabel W)} {s s' : Session D}
    (hrun : Foundation.run (step display render table) s ls = some s') :
    Foundation.run (Bus.step render table) s.bus (ls.filterMap SessionLabel.onBus) =
      some s'.bus := by
  induction ls generalizing s with
  | nil =>
      cases hrun
      rfl
  | cons l ls ih =>
      obtain ⟨m, hm, hrest⟩ := run_cons_some.1 hrun
      have hmoved := bus_step hm
      cases hl : l.onBus with
      | none =>
          rw [hl] at hmoved
          rw [List.filterMap_cons_none hl, ← hmoved]
          exact ih hrest
      | some l' =>
          rw [hl] at hmoved
          rw [List.filterMap_cons_some hl]
          exact run_cons_some.2 ⟨m.bus, hmoved, ih hrest⟩

end Session

end Clackd.Cli
