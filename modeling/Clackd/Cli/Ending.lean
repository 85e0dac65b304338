import Clackd.Cli.Keymap
import Clackd.Ipc.Calls

/-!
# Commands end

A program in a dialogue asks finitely many questions, whatever the answers are; but how
many, that depends on the answers.  Each of its calls returns, so a command comes to its end.

## Main results

* `command_ends`: from every state, one command can be brought to its end, and the others
  stay where they are.
* `commands_end`: so can all of them, and where nothing is due no command waits.
-/

namespace Clackd.Cli

open Clackd.Foundation Clackd.Hal Clackd.Engine Clackd.Ipc

/-- A command has nothing left to do. -/
def Process.ended (c : Process) : Bool :=
  match c.rest with
  | .done _ => true
  | _ => false

/-- Whether a step is one of a command that goes on, or of the daemon's, and needs nothing but
being scheduled. -/
def SessionLabel.isDue {W : Type} : SessionLabel W → Bool
  | .launch _ => false
  | .lose _ _ => false
  | .bus l => l.isDue
  | _ => true

namespace Session

variable {W D : Type} [KeyboardDriver D] [BackgroundTasks D] {display : BusError → String}
  {render : Rendering} {table : DriverTable W D} {s : Session D} {p : Nat} {c : Process}

/-! ## Single steps -/

omit [KeyboardDriver D] [BackgroundTasks D] in
theorem advance_eq {f : Process → Option Process} {c' : Process} (hc : s.processes[p]? = some c)
    (hf : f c = some c') : s.advance p f = some ⟨s.bus, s.processes.set p c'⟩ :=
  Option.bind_eq_some_iff.2 ⟨c, hc, Option.map_eq_some_iff.2 ⟨c', hf, rfl⟩⟩

/-- What is to be printed can be printed. -/
theorem print_step {text : String} {next : Client Unit} (hc : s.processes[p]? = some c)
    (hrest : c.rest = .tell text next) :
    s.step display render table (.print p) = some ⟨s.bus,
      s.processes.set p { c with rest := next, out := c.out ++ [text] }⟩ :=
  advance_eq hc (by rw [Process.print, hrest])

variable (display render table) in
/-- What is to be called can be called. -/
theorem ask_step {method : Method} {next : Returned → Client Unit}
    (hc : s.processes[p]? = some c) (hrest : c.rest = .ask method next)
    (hpending : c.pending = none) :
    ∃ bus, s.step display render table (.ask p method) = some ⟨bus,
      s.processes.set p { c with pending := some s.bus.calls.length }⟩ := by
  have hadvance : s.advance p (Process.ask method s.bus.calls.length) = some ⟨s.bus,
      s.processes.set p { c with pending := some s.bus.calls.length }⟩ :=
    advance_eq hc (by rw [Process.ask, hrest, hpending]; exact if_pos rfl)
  exact ⟨{ s.bus with calls := s.bus.calls ++ [⟨method, .sending⟩] },
    Option.bind_eq_some_iff.2 ⟨_, hadvance, rfl⟩⟩

variable (display render table) in
/-- What has returned can be heard. -/
theorem hear_step {method : Method} {next : Returned → Client Unit} {i : Nat} {call : Call}
    {channel : Option ReplyId} {result : Except FdoError Answer}
    (hc : s.processes[p]? = some c) (hrest : c.rest = .ask method next)
    (hpending : c.pending = some i) (hcall : s.bus.calls[i]? = some call)
    (hphase : call.phase = .returned channel result) :
    ∃ c', s.step display render table (.hear p) = some ⟨s.bus, s.processes.set p c'⟩ ∧
      c'.rest = next (result.mapError .ofFdo) := by
  have hreply : reply i s.bus = some (result.mapError .ofFdo) :=
    Option.bind_eq_some_iff.2 ⟨call, hcall, by rw [hphase]⟩
  have hhear : c.hear (result.mapError .ofFdo) = some { c with
      rest := next (result.mapError .ofFdo)
      exchanges := c.exchanges ++ [(method, result.mapError .ofFdo)]
      calls := c.calls ++ [i]
      pending := none } := by
    rw [Process.hear, hrest, hpending]
  exact ⟨_, advance_eq hc (Option.bind_eq_some_iff.2 ⟨i, hpending,
    Option.bind_eq_some_iff.2 ⟨_, hreply, hhear⟩⟩), rfl⟩

/-- The daemon moves, and the commands stay where they are. -/
theorem bus_moves {ms : List (BusLabel W)} {b : Bus D}
    (hms : Foundation.run (Bus.step render table) s.bus ms = some b) :
    Foundation.run (step display render table) s (ms.map .bus) = some ⟨b, s.processes⟩ := by
  induction ms generalizing s with
  | nil =>
      cases hms
      rfl
  | cons l ms ih =>
      obtain ⟨m, hm, hrest⟩ := run_cons_some.1 hms
      refine run_cons_some.2 ⟨⟨m, s.processes⟩, ?_, ih (s := ⟨m, s.processes⟩) hrest⟩
      exact Option.map_eq_some_iff.2 ⟨m, hm, rfl⟩

/-! ## Ends -/

/-- Some schedule of due steps brings the command to its end, and leaves the others. -/
def Finishes (display : BusError → String) (render : Rendering) (table : DriverTable W D)
    (s : Session D) (p : Nat) : Prop :=
  ∃ ms s' c', (∀ l ∈ ms, SessionLabel.isDue l = true) ∧
    Foundation.run (step display render table) s ms = some s' ∧ c'.ended = true ∧
      s'.processes = s.processes.set p c'

theorem Finishes.after {ms : List (SessionLabel W)} {m : Session D} {c' : Process}
    (h : Finishes display render table m p) (hdue : ∀ l ∈ ms, SessionLabel.isDue l = true)
    (hms : Foundation.run (step display render table) s ms = some m)
    (hprocesses : m.processes = s.processes.set p c') : Finishes display render table s p := by
  obtain ⟨later, s', last, hlater, hrun, hended, hlast⟩ := h
  refine ⟨ms ++ later, s', last, List.forall_mem_append.2 ⟨hdue, hlater⟩,
    run_append_some.2 ⟨m, hms, hrun⟩, hended, ?_⟩
  rw [hlast, hprocesses, List.set_set]

variable [Nonempty W]

/-- A call that is under way returns, and its command goes on. -/
theorem finishes_pending {ls : List (SessionLabel W)} {method : Method}
    {next : Returned → Client Unit} {i : Nat}
    (ih : ∀ (returned : Returned) (ls : List (SessionLabel W)) (s : Session D) (c : Process),
      Foundation.run (step display render table) start ls = some s →
        s.processes[p]? = some c → c.rest = next returned → Finishes display render table s p)
    (hrun : Foundation.run (step display render table) start ls = some s)
    (hc : s.processes[p]? = some c) (hrest : c.rest = .ask method next)
    (hpending : c.pending = some i) : Finishes display render table s p := by
  obtain ⟨ms, b, hdue, hms, hsettled⟩ := Bus.exists_rest render table s.bus
  have hmoves : Foundation.run (step display render table) s (ms.map .bus) =
      some ⟨b, s.processes⟩ := bus_moves hms
  have hreached := run_append_some.2 ⟨s, hrun, hmoves⟩
  -- The call of the command is still there, and nothing is left to do for the daemon.
  obtain ⟨-, _, _, call, -, hcall, -⟩ :=
    ((sound_run hreached).processes p c (Nat.zero_le p) hc).waits i hpending
  obtain ⟨channel, result, hphase⟩ :=
    Bus.rested_call (Bus.sound_run (bus_run hreached)) hsettled hcall
  obtain ⟨c', hhear, hnext⟩ := hear_step display render table (s := ⟨b, s.processes⟩) hc hrest
    hpending hcall hphase
  have hheard : Foundation.run (step display render table) ⟨b, s.processes⟩ [.hear p] =
      some ⟨b, s.processes.set p c'⟩ := by
    rw [run_singleton]
    exact hhear
  have hlt := (List.getElem?_eq_some_iff.1 hc).1
  have hsteps : ∀ l ∈ ms.map SessionLabel.bus ++ [.hear p], SessionLabel.isDue l = true :=
    List.forall_mem_append.2 ⟨List.forall_mem_map.2 hdue, List.forall_mem_singleton.2 rfl⟩
  exact (ih _ _ _ c' (run_append_some.2 ⟨_, hreached, hheard⟩)
    (List.getElem?_set_self hlt) hnext).after hsteps
    (run_append_some.2 ⟨_, hmoves, hheard⟩) rfl

/-- One command can be brought to its end. -/
theorem command_ends {ls : List (SessionLabel W)}
    (hrun : Foundation.run (step display render table) start ls = some s)
    (hc : s.processes[p]? = some c) : Finishes display render table s p := by
  generalize hrest : c.rest = program
  -- The induction is on the program that is left, whatever the answers will be.
  induction program generalizing ls s c with
  | done result =>
      obtain ⟨hlt, rfl⟩ := List.getElem?_eq_some_iff.1 hc
      refine ⟨[], s, _, List.forall_mem_nil _, rfl, ?_,
        (List.set_getElem_self hlt).symm⟩
      rw [Process.ended, hrest]
  | tell text next ih =>
      have hlt := (List.getElem?_eq_some_iff.1 hc).1
      have hprint : Foundation.run (step display render table) s [.print p] = some ⟨s.bus,
          s.processes.set p { c with rest := next, out := c.out ++ [text] }⟩ := by
        rw [run_singleton]
        exact print_step hc hrest
      exact (ih (run_append_some.2 ⟨s, hrun, hprint⟩) (List.getElem?_set_self hlt) rfl).after
        (List.forall_mem_singleton.2 rfl) hprint rfl
  | ask method next ih =>
      have hgoes : ∀ (returned : Returned) (ls : List (SessionLabel W)) (s : Session D)
          (c : Process), Foundation.run (step display render table) start ls = some s →
            s.processes[p]? = some c → c.rest = next returned →
              Finishes display render table s p :=
        fun returned ls s c hrun hc hrest => ih returned hrun hc hrest
      cases hpending : c.pending with
      | some i => exact finishes_pending hgoes hrun hc hrest hpending
      | none =>
          have hlt := (List.getElem?_eq_some_iff.1 hc).1
          obtain ⟨bus, hask⟩ := ask_step display render table hc hrest hpending
          have hasked : Foundation.run (step display render table) s [.ask p method] = some ⟨bus,
              s.processes.set p { c with pending := some s.bus.calls.length }⟩ := by
            rw [run_singleton]
            exact hask
          exact (finishes_pending hgoes (run_append_some.2 ⟨s, hrun, hasked⟩)
            (List.getElem?_set_self hlt) hrest rfl).after (List.forall_mem_singleton.2 rfl)
            hasked rfl

/-- The first so many commands, one after the other. -/
theorem first_end {ls : List (SessionLabel W)}
    (hrun : Foundation.run (step display render table) start ls = some s) (n : Nat) :
    ∃ ms s', (∀ l ∈ ms, SessionLabel.isDue l = true) ∧
      Foundation.run (step display render table) s ms = some s' ∧
        s'.processes.length = s.processes.length ∧
          ∀ p c, p < n → s'.processes[p]? = some c → c.ended = true := by
  induction n with
  | zero =>
      refine ⟨[], s, List.forall_mem_nil _, rfl, rfl, ?_⟩
      intro p c hp
      omega
  | succ n ih =>
      obtain ⟨ms, m, hdue, hms, hlength, hended⟩ := ih
      by_cases hn : n < m.processes.length
      · obtain ⟨later, s', c', hlater, hrest, hlast, hprocesses⟩ :=
          command_ends (run_append_some.2 ⟨s, hrun, hms⟩) (List.getElem?_eq_getElem hn)
        refine ⟨ms ++ later, s', List.forall_mem_append.2 ⟨hdue, hlater⟩,
          run_append_some.2 ⟨m, hms, hrest⟩, ?_, ?_⟩
        · rw [hprocesses, List.length_set, hlength]
        · intro p c hp hc
          rw [hprocesses] at hc
          by_cases hpn : n = p
          · subst hpn
            rw [List.getElem?_set_self hn] at hc
            cases hc
            exact hlast
          · rw [List.getElem?_set_ne hpn] at hc
            exact hended p c (by omega) hc
      · refine ⟨ms, m, hdue, hms, hlength, ?_⟩
        intro p c hp hc
        have hlt := (List.getElem?_eq_some_iff.1 hc).1
        exact hended p c (by omega) hc

/-- Where nothing is due, a command has ended. -/
theorem rested_command {ls : List (SessionLabel W)}
    (hrun : Foundation.run (step display render table) start ls = some s)
    (hrest : Settled (step display render table) SessionLabel.isDue s)
    (hc : s.processes[p]? = some c) : c.ended = true := by
  rw [Process.ended]
  cases hprogram : c.rest with
  | done result => rfl
  | tell text next =>
      have hnone := hrest (.print p) rfl
      rw [print_step hc hprogram] at hnone
      cases hnone
  | ask method next =>
      cases hpending : c.pending with
      | none =>
          obtain ⟨bus, hask⟩ := ask_step display render table hc hprogram hpending
          have hnone := hrest (.ask p method) rfl
          rw [hask] at hnone
          cases hnone
      | some i =>
          have hbus : Settled (Bus.step render table) BusLabel.isDue s.bus := by
            intro l hl
            exact Option.map_eq_none_iff.1 (hrest (.bus l) hl)
          obtain ⟨-, _, _, call, -, hcall, -⟩ :=
            ((sound_run hrun).processes p c (Nat.zero_le p) hc).waits i hpending
          obtain ⟨channel, result, hphase⟩ :=
            Bus.rested_call (Bus.sound_run (bus_run hrun)) hbus hcall
          obtain ⟨c', hhear, -⟩ :=
            hear_step display render table hc hprogram hpending hcall hphase
          have hnone := hrest (.hear p) rfl
          rw [hhear] at hnone
          cases hnone

/-- **Every command ends.**  In every state of a session, however many commands (all but
`monitor`, which runs until it is stopped) are there, some schedule of their own steps and
the daemon's brings them all to their end, with nothing else needed: no clock, no other
client, no panic.  Where none of these steps is left, which only wait for the scheduler, all
commands have ended.  So no command hangs, on the daemon or on another command. -/
theorem commands_end (display : BusError → String) (render : Rendering)
    (table : DriverTable W D) {ls : List (SessionLabel W)}
    (hrun : Foundation.run (step display render table) start ls = some s) :
    (∃ ms s', (∀ l ∈ ms, SessionLabel.isDue l = true) ∧
      Foundation.run (step display render table) s ms = some s' ∧
        s'.processes.length = s.processes.length ∧ ∀ c ∈ s'.processes, c.ended = true) ∧
      (Settled (step display render table) SessionLabel.isDue s →
        ∀ c ∈ s.processes, c.ended = true) := by
  constructor
  · obtain ⟨ms, s', hdue, hms, hlength, hended⟩ := first_end hrun s.processes.length
    refine ⟨ms, s', hdue, hms, hlength, ?_⟩
    intro c hc
    obtain ⟨p, hp⟩ := List.mem_iff_getElem?.1 hc
    have hlt := (List.getElem?_eq_some_iff.1 hp).1
    exact hended p c (by omega) hp
  · intro hrest c hc
    obtain ⟨p, hp⟩ := List.mem_iff_getElem?.1 hc
    exact rested_command hrun hrest hp

/-- A command that has been started for a keyboard that is there. -/
theorem commands_end_set : ∃ ms s, Foundation.run
    (step (fun _ => "") Bus.plainRendering Sys.coalescingTable) start (keySet.take 3 ++ ms) =
      some s ∧ s.processes.length = 1 ∧ ∀ c ∈ s.processes, c.ended = true := by
  have hrun : (Foundation.run (step (fun _ => "") Bus.plainRendering Sys.coalescingTable) start
      (keySet.take 3)).map (fun s => s.processes.length) = some 1 := by
    decide +kernel
  obtain ⟨s, hs, hlength⟩ := Option.map_eq_some_iff.1 hrun
  have hworld : Nonempty (DeviceNode Via.MockTransport Legacy.Board Legacy.ShadowFile) :=
    ⟨Sys.viaNode⟩
  obtain ⟨⟨ms, s', -, hms, hkept, hended⟩, -⟩ :=
    commands_end (fun _ => "") Bus.plainRendering Sys.coalescingTable hs
  exact ⟨ms, s', run_append_some.2 ⟨s, hs, hms⟩, hkept.trans hlength, hended⟩

end Session

end Clackd.Cli
