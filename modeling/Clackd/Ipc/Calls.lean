import Clackd.Engine.Channels
import Clackd.Ipc.Frontend

/-!
# Every method call returns, with its own reply

A reply channel belongs to one call and keeps to the command of that call, so what a call
returns is the answer to its own command, and no other call can have it.  The engine
comes to rest and answers or drops every request on the way, so no call waits forever:
where nothing is left to do, all calls have returned.

## Main results

* `calls_honest`: what a call has returned, in every run.
* `calls_return`: every call returns, in every run.
-/

namespace Clackd.Ipc

open Clackd.Foundation Clackd.Hal Clackd.Engine

namespace Bus

variable {W D : Type} {render : Rendering}

/-! ## What a call has -/

/-- A call and its reply channel: the channel keeps to its command, and what the call has
returned is what became of that command. -/
inductive Honest (render : Rendering) (s : Sys D) (c : Call) : Prop
  | sending (hphase : c.phase = .sending)
  | awaiting (reply : ReplyId) (hphase : c.phase = .awaiting reply)
      (hopened : reply < s.next_reply) (hown : s.Pertains reply (c.method.command reply))
  /-- The engine had returned. -/
  | closed (hphase : c.phase = .returned none (.error ENGINE_CLOSED))
      (hreturned : s.status = .returned)
  /-- The one answer to its command. -/
  | answered (reply : ReplyId) (r : Reply) (hopened : reply < s.next_reply)
      (hown : s.Pertains reply (c.method.command reply)) (honce : s.answered reply = 1)
      (hreplied : .replied reply r ∈ s.sup.log) (hkind : r.kind = c.method.kind)
      (hphase : c.phase = .returned (some reply)
        ((received r).mapError (FdoError.fromDaemon render)))
  /-- Its command was dropped, unanswered. -/
  | dropped (reply : ReplyId) (hopened : reply < s.next_reply)
      (hown : s.Pertains reply (c.method.command reply))
      (hgone : s.outstanding reply + s.answered reply = 0)
      (hphase : c.phase = .returned (some reply) (.error REPLY_DROPPED))

/-- The command of a method is a client's, and asks for the method's kind of reply. -/
theorem command_asks (method : Method) (reply : ReplyId) :
    (method.command reply).sender = some .client ∧
      (method.command reply).asks = some (reply, method.kind) ∧
        (method.command reply).work = CALL_WORK + 1 := by
  cases method <;> exact ⟨rfl, rfl, rfl⟩

theorem command_reply (method : Method) (reply : ReplyId) :
    (method.command reply).replyTo = some reply := by
  rw [asks_reply, (command_asks method reply).2.1]
  rfl

/-- The first answer on a channel is one that was sent on it. -/
theorem mem_of_findSome {log : List Effect} {reply : ReplyId} {r : Reply}
    (h : log.findSome? (replyOn reply) = some r) : .replied reply r ∈ log := by
  obtain ⟨x, hx, hr⟩ := List.exists_of_findSome?_eq_some h
  cases x with
  | replied reply' r' =>
      rw [replyOn] at hr
      split at hr
      · rename_i hsame
        cases hr
        rw [hsame] at hx
        exact hx
      · cases hr
  | _ => cases hr

/-- On a channel without an answer there is nothing to find. -/
theorem answered_of_findSome {s : Sys D} {reply : ReplyId}
    (h : s.sup.log.findSome? (replyOn reply) = none) : s.answered reply = 0 := by
  rw [Sys.answered, List.countP_eq_zero]
  intro x hx hanswers
  have hnone := List.findSome?_eq_none_iff.1 h x hx
  cases x with
  | replied reply' r =>
      have hsame : reply' = reply := by simpa [Effect.answers] using hanswers
      rw [replyOn, if_pos hsame] at hnone
      cases hnone
  | _ => cases hanswers

/-- The channel of a call keeps to its command. -/
theorem Honest.pertains {s : Sys D} {c : Call} (h : Honest render s c) {reply : ReplyId}
    (hchannel : c.channel = some reply) : s.Pertains reply (c.method.command reply) := by
  rw [Call.channel] at hchannel
  cases h with
  | sending hphase =>
      rw [hphase] at hchannel
      cases hchannel
  | awaiting reply' hphase hopened hown =>
      rw [hphase] at hchannel
      cases hchannel
      exact hown
  | closed hphase hreturned =>
      rw [hphase] at hchannel
      cases hchannel
  | answered reply' r hopened hown honce hreplied hkind hphase =>
      rw [hphase] at hchannel
      cases hchannel
      exact hown
  | dropped reply' hopened hown hgone hphase =>
      rw [hphase] at hchannel
      cases hchannel
      exact hown

variable [KeyboardDriver D] [BackgroundTasks D]

/-- A step of the engine leaves a call what it has. -/
theorem Honest.engine {table : DriverTable W D} {s s' : Sys D} {l : Label W} {c : Call}
    (h : Honest render s c) (hsound : s.Accounted) (hstep : s.step table l = some s') :
    Honest render s' c := by
  have hnext : s.next_reply ≤ s'.next_reply := by
    rw [Sys.step_next_reply hstep]
    exact Nat.le_add_right _ _
  cases h with
  | sending hphase => exact .sending hphase
  | awaiting reply hphase hopened hown =>
      exact .awaiting reply hphase (Nat.lt_of_lt_of_le hopened hnext)
        (Sys.pertains_step hown hsound.homed hopened hstep)
  | closed hphase hreturned =>
      exact .closed hphase ((Sys.step_cases hstep).returned_stays hreturned)
  | answered reply r hopened hown honce hreplied hkind hphase =>
      obtain ⟨more, hlog⟩ := (Sys.step_cases hstep).log
      refine .answered reply r (Nat.lt_of_lt_of_le hopened hnext)
        (Sys.pertains_step hown hsound.homed hopened hstep) (Sys.answered_stays hsound honce hstep) ?_ hkind
        hphase
      rw [hlog]
      exact List.mem_append_left _ hreplied
  | dropped reply hopened hown hgone hphase =>
      exact .dropped reply (Nat.lt_of_lt_of_le hopened hnext)
        (Sys.pertains_step hown hsound.homed hopened hstep) (Sys.dropped_stays hsound hopened hgone hstep)
        hphase

/-! ## The invariant -/

/-- What holds in every state of the interface and the engine. -/
structure Sound (render : Rendering) (b : Bus D) : Prop where
  engine : b.engine.Accounted
  tidy : b.engine.Tidy
  honest : ∀ c ∈ b.calls, Honest render b.engine c
  opened : ∀ c ∈ b.calls, ∀ reply, c.channel = some reply → reply < b.engine.next_reply
  apart : ∀ (i j : Nat) (c c' : Call) (reply : ReplyId), b.calls[i]? = some c →
    b.calls[j]? = some c' → c.channel = some reply → c'.channel = some reply → i = j

omit [KeyboardDriver D] [BackgroundTasks D] in
theorem sound_start : Sound render (start : Bus D) where
  engine := Sys.accounted_start
  tidy := Sys.tidy_start
  honest := fun _ hc => absurd hc List.not_mem_nil
  opened := fun _ hc => absurd hc List.not_mem_nil
  apart := by
    intro i j c c' reply hc
    cases hc

omit [KeyboardDriver D] [BackgroundTasks D] in
/-- A call that moves on, with the channel it had or with one that nobody has. -/
theorem Sound.setCall {b : Bus D} (h : Sound render b) {i : Nat} {c : Call}
    (hc : b.calls[i]? = some c) {phase : CallPhase}
    (hhonest : Honest render b.engine { c with phase := phase })
    (hopened : ∀ reply, (Call.mk c.method phase).channel = some reply →
      reply < b.engine.next_reply)
    (hchannel : ∀ reply, (Call.mk c.method phase).channel = some reply →
      c.channel = some reply ∨ ∀ d ∈ b.calls, d.channel ≠ some reply) :
    Sound render (b.setCall i c phase) := by
  -- Whoever has a channel now had it before at the same place, or is the one that moved.
  have hbefore : ∀ (j : Nat) (d : Call) (reply : ReplyId),
      (b.setCall i c phase).calls[j]? = some d → d.channel = some reply →
        (∃ d', b.calls[j]? = some d' ∧ d'.channel = some reply) ∨
          (j = i ∧ ∀ d' ∈ b.calls, d'.channel ≠ some reply) := by
    intro j d reply hd hreply
    change (b.calls.set i _)[j]? = some d at hd
    rw [List.getElem?_set] at hd
    split at hd
    · rename_i hij
      split at hd
      · cases hd
        rcases hchannel reply hreply with hsame | hnobody
        · exact .inl ⟨c, by rw [← hij]; exact hc, hsame⟩
        · exact .inr ⟨hij.symm, hnobody⟩
      · cases hd
    · exact .inl ⟨d, hd, hreply⟩
  refine ⟨h.engine, h.tidy, ?_, ?_, ?_⟩
  · intro d hd
    rcases List.mem_or_eq_of_mem_set hd with hold | rfl
    · exact h.honest d hold
    · exact hhonest
  · intro d hd reply hreply
    rcases List.mem_or_eq_of_mem_set hd with hold | rfl
    · exact h.opened d hold reply hreply
    · exact hopened reply hreply
  · intro j k d e reply hd he hdreply hereply
    rcases hbefore j d reply hd hdreply with ⟨d', hd', hdreply'⟩ | ⟨hj, hnobody⟩
    · rcases hbefore k e reply he hereply with ⟨e', he', hereply'⟩ | ⟨hk, hnobody⟩
      · exact h.apart j k d' e' reply hd' he' hdreply' hereply'
      · exact absurd hdreply' (hnobody d' (List.mem_of_getElem? hd'))
    · rcases hbefore k e reply he hereply with ⟨e', he', hereply'⟩ | ⟨hk, -⟩
      · exact absurd hereply' (hnobody e' (List.mem_of_getElem? he'))
      · rw [hj, hk]

/-- A step of the engine leaves all calls what they have. -/
theorem Sound.engineStep {table : DriverTable W D} {b : Bus D} {s : Sys D} {l : Label W}
    (h : Sound render b) (hstep : b.engine.step table l = some s) :
    Sound render { b with engine := s } where
  engine := Sys.accounted_step h.engine hstep
  tidy := Sys.tidy_step h.tidy hstep
  honest := fun c hc => (h.honest c hc).engine h.engine hstep
  opened := by
    intro c hc reply hreply
    refine Nat.lt_of_lt_of_le (h.opened c hc reply hreply) ?_
    rw [Sys.step_next_reply hstep]
    exact Nat.le_add_right _ _
  apart := h.apart

theorem sound_submit {table : DriverTable W D} {b b' : Bus D} {i : Nat} {c : Call}
    (h : Sound render b) (hc : b.calls[i]? = some c) (hstep : b.submit table i c = some b') :
    Sound render b' := by
  rw [submit] at hstep
  split at hstep
  · split at hstep
    · rename_i hreturned
      cases hstep
      exact h.setCall hc (.closed rfl hreturned) (fun _ hcon => by cases hcon)
        (fun _ hcon => by cases hcon)
    · obtain ⟨s, hs, rfl⟩ := Option.map_eq_some_iff.1 hstep
      -- The channel is the next one: nobody has it, and nothing bears its number.
      have hnext : s.next_reply = b.engine.next_reply + 1 := by
        rcases Sys.issues_step hs b.engine.next_reply with hnone | ⟨-, -, hmore⟩
        · simp [Label.issues, command_reply] at hnone
        · exact hmore
      have hunopened := h.engine.fresh b.engine.next_reply (Nat.le_refl _)
      have hown : s.Pertains b.engine.next_reply (c.method.command b.engine.next_reply) :=
        Sys.pertains_enqueue (Sys.Pertains.of_fresh (by omega) (by omega) _) hs
      refine (h.engineStep hs).setCall hc (.awaiting b.engine.next_reply rfl ?_ hown) ?_ ?_
      · exact hnext ▸ Nat.lt_succ_self _
      · intro reply hreply
        cases hreply
        exact hnext ▸ Nat.lt_succ_self _
      · intro reply hreply
        cases hreply
        right
        intro d hd hcon
        exact Nat.lt_irrefl _ (h.opened d hd _ hcon)
  · cases hstep

omit [KeyboardDriver D] [BackgroundTasks D] in
theorem sound_receive {b b' : Bus D} {i : Nat} {c : Call} (h : Sound render b)
    (hc : b.calls[i]? = some c) (hstep : b.receive render i c = some b') :
    Sound render b' := by
  have hmem : c ∈ b.calls := List.mem_of_getElem? hc
  rw [receive] at hstep
  split at hstep
  · rename_i reply hphase
    have hchannel : c.channel = some reply := by rw [Call.channel, hphase]
    have hopened := h.opened c hmem reply hchannel
    have hown := (h.honest c hmem).pertains hchannel
    -- The call keeps its channel.
    have hset : ∀ result, Honest render b.engine { c with phase := .returned (some reply) result } →
        Sound render (b.setCall i c (.returned (some reply) result)) := by
      intro result hhonest
      refine h.setCall hc hhonest ?_ ?_
      · intro reply' hreply
        cases hreply
        exact hopened
      · intro reply' hreply
        cases hreply
        exact .inl hchannel
    split at hstep
    · rename_i r hfound
      split at hstep
      · rename_i hkind
        cases hstep
        have hreplied := mem_of_findSome hfound
        have hpos := Sys.answered_of_mem hreplied
        have honce := h.engine.once reply
        exact hset _ (.answered reply r hopened hown (by omega) hreplied hkind rfl)
      · cases hstep
    · rename_i hnone
      split at hstep
      · rename_i hgone
        cases hstep
        have hunanswered := answered_of_findSome hnone
        exact hset _ (.dropped reply hopened hown (by omega) rfl)
      · cases hstep
  · cases hstep

theorem sound_step {table : DriverTable W D} {b b' : Bus D} {l : BusLabel W}
    (h : Sound render b) (hstep : b.step render table l = some b') : Sound render b' := by
  cases l with
  | call method =>
      cases hstep
      have hold : ∀ {j : Nat} {d : Call} {reply : ReplyId},
          (b.calls ++ [⟨method, .sending⟩])[j]? = some d → d.channel = some reply →
            b.calls[j]? = some d := by
        intro j d reply hd hreply
        by_cases hlt : j < b.calls.length
        · rwa [List.getElem?_append_left hlt] at hd
        · rw [List.getElem?_append_right (Nat.le_of_not_lt hlt)] at hd
          have hnew := List.mem_singleton.1 (List.mem_of_getElem? hd)
          rw [hnew] at hreply
          cases hreply
      refine ⟨h.engine, h.tidy, ?_, ?_, ?_⟩
      · intro c hc
        rcases List.mem_append.1 hc with hbefore | hnew
        · exact h.honest c hbefore
        · rw [List.mem_singleton.1 hnew]
          exact .sending rfl
      · intro c hc reply hreply
        rcases List.mem_append.1 hc with hbefore | hnew
        · exact h.opened c hbefore reply hreply
        · rw [List.mem_singleton.1 hnew] at hreply
          cases hreply
      · intro j k d e reply hd he hdreply hereply
        exact h.apart j k d e reply (hold hd hdreply) (hold he hereply) hdreply hereply
  | submit i =>
      obtain ⟨c, hc, hsubmit⟩ := Option.bind_eq_some_iff.1 hstep
      exact sound_submit h hc hsubmit
  | receive i =>
      obtain ⟨c, hc, hreceive⟩ := Option.bind_eq_some_iff.1 hstep
      exact sound_receive h hc hreceive
  | engine l =>
      rw [step] at hstep
      split at hstep
      · cases hstep
      · obtain ⟨s, hs, rfl⟩ := Option.map_eq_some_iff.1 hstep
        exact h.engineStep hs

theorem sound_run {table : DriverTable W D} {ls : List (BusLabel W)} {b : Bus D}
    (hrun : run (step render table) start ls = some b) : Sound render b :=
  run_preserves (fun _ _ _ => sound_step) sound_start hrun

/-- **A call returns what became of its own command.**  In every run, each call that has
returned got the one answer the engine gave to the command the call had sent, translated;
or "reply channel dropped", and that command was dropped unanswered; or "command channel
closed", and the engine had returned.  No two calls have the same reply channel. -/
theorem calls_honest (render : Rendering) (table : DriverTable W D) {ls : List (BusLabel W)}
    {b : Bus D} (hrun : run (step render table) start ls = some b) :
    (∀ c ∈ b.calls, Honest render b.engine c) ∧
      ∀ (i j : Nat) (c c' : Call) (reply : ReplyId), b.calls[i]? = some c →
        b.calls[j]? = some c' → c.channel = some reply → c'.channel = some reply → i = j := by
  exact ⟨(sound_run hrun).honest, (sound_run hrun).apart⟩

/-- What the standard library would render, in short. -/
def plainRendering : Rendering := ⟨fun errno => s!"os error {errno}", fun path => path⟩

/-- A call to a device that is not there, and one for the list of devices. -/
def absentRun : List (BusLabel (Except DaemonError MockDriver)) :=
  [.call (.get_keycode "dev1" 0 1 1), .call .list_devices, .submit 0,
    .engine (.supervise HashOrder.sorted (.ok (mockDriver []))), .receive 0, .submit 1,
    .engine (.supervise HashOrder.sorted (.ok (mockDriver []))), .receive 1]

/-- Each of the two calls has returned the one answer to its own command, and they had two
channels. -/
theorem calls_honest_absent : ∃ (b : Bus MockDriver) (c c' : Call),
    run (step plainRendering mockTable) start absentRun = some b ∧ b.calls = [c, c'] ∧
      c.phase = .returned (some 0) (.error (.unknownObject "dev1")) ∧
      c'.phase = .returned (some 1) (.ok (.devices [])) ∧
      (∀ d ∈ b.calls, ∃ reply r, .replied reply r ∈ b.engine.sup.log ∧
        b.engine.answered reply = 1 ∧ d.phase = .returned (some reply)
          ((received r).mapError (FdoError.fromDaemon plainRendering))) ∧
      c.channel ≠ c'.channel := by
  have hrun : (run (step plainRendering mockTable) start absentRun).map (fun b => b.calls) =
      some [⟨.get_keycode "dev1" 0 1 1, .returned (some 0) (.error (.unknownObject "dev1"))⟩,
        ⟨.list_devices, .returned (some 1) (.ok (.devices []))⟩] := by
    decide +kernel
  obtain ⟨b, hb, hcalls⟩ := Option.map_eq_some_iff.1 hrun
  obtain ⟨hhonest, hapart⟩ := calls_honest plainRendering mockTable hb
  refine ⟨b, _, _, hb, hcalls, rfl, rfl, ?_, ?_⟩
  · intro d hd
    -- Neither call is on its way, and neither was dropped.
    have hanswered : d.phase = .returned (some 0) (.error (.unknownObject "dev1")) ∨
        d.phase = .returned (some 1) (.ok (.devices [])) := by
      rw [hcalls] at hd
      rcases List.mem_cons.1 hd with rfl | hlast
      · exact .inl rfl
      · exact .inr (List.mem_singleton.1 hlast ▸ rfl)
    cases hhonest d hd with
    | answered reply r hopened hown honce hreplied hkind hphase =>
        exact ⟨reply, r, hreplied, honce, hphase⟩
    | sending hphase => rcases hanswered with h | h <;> cases hphase.symm.trans h
    | awaiting reply hphase hopened hown => rcases hanswered with h | h <;> cases hphase.symm.trans h
    | closed hphase hreturned => rcases hanswered with h | h <;> cases hphase.symm.trans h
    | dropped reply hopened hown hgone hphase =>
        rcases hanswered with h | h <;> cases hphase.symm.trans h
  · intro hcon
    have hsame := hapart 0 1 _ _ 0 (by rw [hcalls]; rfl) (by rw [hcalls]; rfl) rfl hcon.symm
    exact absurd hsame (by decide)

end Bus

/-! ## Every call returns -/

/-- The work of a call: to send its command, with what that stands for, and to take its
reply. -/
def Call.work (c : Call) : Nat :=
  match c.phase with
  | .sending => CALL_WORK + 3
  | .awaiting _ => 1
  | .returned _ _ => 0

namespace BusLabel

variable {W : Type}

/-- Whether a step is the daemon's own. -/
def isOwn : BusLabel W → Bool
  | .call _ => false
  | .submit _ => true
  | .receive _ => true
  | .engine l => l.isOwn

/-- Whether a step needs nothing but being scheduled. -/
def isDue : BusLabel W → Bool
  | .call _ => false
  | .submit _ => true
  | .receive _ => true
  | .engine l => l.isDue

/-- What is due is a step of the daemon's own. -/
theorem own_of_due {l : BusLabel W} (h : l.isDue = true) : l.isOwn = true := by
  cases l with
  | call method => cases h
  | submit i => rfl
  | receive i => rfl
  | engine l => exact Label.own_of_due h

/-- The work a step brings in. -/
def pays : BusLabel W → Nat
  | .call _ => CALL_WORK + 3
  | .engine l => l.pays
  | _ => 0

/-- Own steps bring in no work. -/
theorem pays_of_own {l : BusLabel W} (h : l.isOwn = true) : l.pays = 0 := by
  cases l with
  | call method => cases h
  | submit i => rfl
  | receive i => rfl
  | engine l => exact Sys.pays_of_own h

end BusLabel

namespace Bus

variable {W D : Type} {render : Rendering}

/-- The work that is left in a state. -/
def work (b : Bus D) : Nat := b.engine.work + (b.calls.map Call.work).sum

theorem work_setCall {b : Bus D} {i : Nat} {c : Call} (hc : b.calls[i]? = some c)
    (phase : CallPhase) :
    (b.setCall i c phase).work + c.work = b.work + (Call.mk c.method phase).work := by
  have hset := sum_map_set Call.work hc { c with phase := phase }
  show b.engine.work + ((b.calls.set i _).map Call.work).sum + c.work = _
  rw [work]
  omega

theorem receive_spends {b b' : Bus D} {i : Nat} {c : Call} (hc : b.calls[i]? = some c)
    (hstep : b.receive render i c = some b') : b'.work + 1 ≤ b.work := by
  rw [receive] at hstep
  split at hstep
  · rename_i reply hphase
    have hwork : c.work = 1 := by rw [Call.work, hphase]
    have hset : ∀ channel result, (b.setCall i c (.returned channel result)).work + 1 ≤
        b.work := by
      intro channel result
      have hone := work_setCall hc (.returned channel result)
      have hzero : (Call.mk c.method (.returned channel result)).work = 0 := rfl
      omega
    split at hstep
    · split at hstep
      · cases hstep
        exact hset _ _
      · cases hstep
    · split at hstep
      · cases hstep
        exact hset _ _
      · cases hstep
  · cases hstep

variable [KeyboardDriver D] [BackgroundTasks D]

theorem submit_spends {table : DriverTable W D} {b b' : Bus D} {i : Nat} {c : Call}
    (hc : b.calls[i]? = some c) (hstep : b.submit table i c = some b') :
    b'.work + 1 ≤ b.work := by
  rw [submit] at hstep
  split at hstep
  · rename_i hphase
    have hwork : c.work = CALL_WORK + 3 := by rw [Call.work, hphase]
    split at hstep
    · cases hstep
      have hone := work_setCall hc (.returned none (.error ENGINE_CLOSED))
      have hzero : (Call.mk c.method (.returned none (.error ENGINE_CLOSED))).work = 0 := rfl
      omega
    · obtain ⟨s, hs, rfl⟩ := Option.map_eq_some_iff.1 hstep
      have hone := work_setCall (b := { b with engine := s }) hc (.awaiting b.engine.next_reply)
      have hawaiting : (Call.mk c.method (.awaiting b.engine.next_reply)).work = 1 := rfl
      have hengine := Sys.step_spends hs
      have hbrings : (Label.enqueue (c.method.command b.engine.next_reply) : Label W).pays =
          CALL_WORK + 1 := (command_asks c.method b.engine.next_reply).2.2
      have hbefore : b.work = b.engine.work + (b.calls.map Call.work).sum := rfl
      have hafter : ({ b with engine := s } : Bus D).work = s.work + (b.calls.map Call.work).sum :=
        rfl
      omega
  · cases hstep

/-- Every step of the daemon's own lowers the work that is left. -/
theorem step_spends {table : DriverTable W D} {b b' : Bus D} {l : BusLabel W}
    (hstep : b.step render table l = some b') :
    b'.work + (if l.isOwn = true then 1 else 0) ≤ b.work + l.pays := by
  cases l with
  | call method =>
      cases hstep
      show b.engine.work + ((b.calls ++ [_]).map Call.work).sum + 0 ≤ _
      rw [sum_map_snoc]
      show _ + (_ + (CALL_WORK + 3)) + 0 ≤ b.engine.work + _ + (CALL_WORK + 3)
      omega
  | submit i =>
      obtain ⟨c, hc, hsubmit⟩ := Option.bind_eq_some_iff.1 hstep
      exact submit_spends hc hsubmit
  | receive i =>
      obtain ⟨c, hc, hreceive⟩ := Option.bind_eq_some_iff.1 hstep
      exact receive_spends hc hreceive
  | engine l =>
      rw [step] at hstep
      split at hstep
      · cases hstep
      · obtain ⟨s, hs, rfl⟩ := Option.map_eq_some_iff.1 hstep
        have hengine := Sys.step_spends hs
        show s.work + (b.calls.map Call.work).sum + (if l.isOwn = true then 1 else 0) ≤
          b.engine.work + (b.calls.map Call.work).sum + l.pays
        omega

/-- Where nothing is due, a call has returned. -/
theorem rested_call [Nonempty W] {table : DriverTable W D} {b : Bus D} (h : Sound render b)
    (hrest : Settled (step render table) BusLabel.isDue b) {i : Nat} {c : Call}
    (hc : b.calls[i]? = some c) : ∃ channel result, c.phase = .returned channel result := by
  have hengine : Settled (Sys.step table) Label.isDue b.engine := by
    intro l hl
    have hnone := hrest (.engine l) hl
    have hclients : isClients l = false := by
      cases l with
      | enqueue cmd => cases hl
      | _ => rfl
    rw [step, hclients] at hnone
    exact Option.map_eq_none_iff.1 hnone
  cases hphase : c.phase with
  | sending =>
      have hnone := hrest (.submit i) rfl
      rw [step, hc] at hnone
      change b.submit table i c = none at hnone
      rw [submit, hphase] at hnone
      dsimp only at hnone
      split at hnone
      · cases hnone
      · rename_i hopen
        -- The engine channel is empty, so the command would go through.
        have hroom : b.engine.queue.length < ENGINE_CHANNEL_CAPACITY := by
          rw [Sys.rested_queue h.tidy hengine]
          decide
        have hcmd := command_asks c.method b.engine.next_reply
        have hreply := command_reply c.method b.engine.next_reply
        rw [Option.map_eq_none_iff, Sys.step, Sys.enqueue, hcmd.1, hreply] at hnone
        simp [Sys.send, hopen, hroom] at hnone
  | awaiting reply =>
      have hnone := hrest (.receive i) rfl
      rw [step, hc] at hnone
      change b.receive render i c = none at hnone
      have hown : b.engine.Pertains reply (c.method.command reply) :=
        (h.honest c (List.mem_of_getElem? hc)).pertains (by rw [Call.channel, hphase])
      rw [receive, hphase] at hnone
      dsimp only at hnone
      split at hnone
      · rename_i r hfound
        have hasks := hown.replied r (mem_of_findSome hfound)
        rw [(command_asks c.method reply).2.1] at hasks
        have hkind := (Prod.mk.inj (Option.some.inj hasks)).2
        rw [if_pos hkind.symm] at hnone
        cases hnone
      · rw [if_pos (Sys.rested h.tidy hengine reply)] at hnone
        cases hnone
  | returned channel result => exact ⟨channel, result, rfl⟩

/-- Some schedule of due steps leads to a state where none is left. -/
theorem exists_rest [Nonempty W] (render : Rendering) (table : DriverTable W D) (b : Bus D) :
    ∃ ms b', (∀ l ∈ ms, BusLabel.isDue l = true) ∧ run (step render table) b ms = some b' ∧
      Settled (step render table) BusLabel.isDue b' :=
  exists_settled_of_imp work BusLabel.isOwn BusLabel.pays (fun _ _ _ => step_spends)
    (fun _ => BusLabel.pays_of_own) (fun _ => BusLabel.own_of_due) b

/-- **Every call returns.**  In every run, the daemon's own steps are paid for by the calls
and the commands that came in.  From every state some schedule of them leads to one where
none is left, and some schedule of steps that only wait to be scheduled to one where none
of these is left.  Where none is due, every method call has returned. -/
theorem calls_return [Nonempty W] (render : Rendering) (table : DriverTable W D)
    {ls : List (BusLabel W)} {b : Bus D} (hrun : run (step render table) start ls = some b) :
    ls.countP BusLabel.isOwn + b.work ≤
        SupervisorStatus.running.work + (ls.map BusLabel.pays).sum ∧
      (∃ ms b', (∀ l ∈ ms, BusLabel.isOwn l = true) ∧
        run (step render table) b ms = some b' ∧
          Settled (step render table) BusLabel.isOwn b') ∧
      (∃ ms b', (∀ l ∈ ms, BusLabel.isDue l = true) ∧
        run (step render table) b ms = some b' ∧
          Settled (step render table) BusLabel.isDue b') ∧
      (Settled (step render table) BusLabel.isDue b →
        ∀ c ∈ b.calls, ∃ channel result, c.phase = .returned channel result) := by
  refine ⟨?_, ?_, ?_, ?_⟩
  · have hpaid := own_moves_paid work BusLabel.isOwn BusLabel.pays (fun _ _ _ => step_spends) hrun
    have hstart : (start : Bus D).work = SupervisorStatus.running.work := rfl
    omega
  · exact exists_settled work BusLabel.isOwn BusLabel.pays (fun _ _ _ => step_spends)
      (fun _ => BusLabel.pays_of_own) b
  · exact exists_rest render table b
  · intro hrest c hc
    obtain ⟨i, hlt, hget⟩ := List.getElem_of_mem hc
    exact rested_call (sound_run hrun) hrest (List.getElem?_eq_some_iff.2 ⟨hlt, hget⟩)

/-- A call that has returned and one that is on its way: steps that are due bring both
back. -/
theorem calls_return_absent : ∃ ms b, (∀ l ∈ ms, BusLabel.isDue l = true) ∧
    run (step plainRendering mockTable) start (absentRun.take 6 ++ ms) = some b ∧
      ∀ c ∈ b.calls, ∃ channel result, c.phase = .returned channel result := by
  have hrun : (run (step plainRendering mockTable) start (absentRun.take 6)).map
      (fun b => b.calls.map fun c => c.phase) =
        some [.returned (some 0) (.error (.unknownObject "dev1")), .awaiting 1] := by
    decide +kernel
  obtain ⟨b, hb, -⟩ := Option.map_eq_some_iff.1 hrun
  have hworld : Nonempty (Except DaemonError MockDriver) := ⟨.ok (mockDriver [])⟩
  obtain ⟨-, -, ⟨ms, b', hdue, hms, hsettled⟩, -⟩ := calls_return plainRendering mockTable hb
  have hwhole := run_append_some.2 ⟨b, hb, hms⟩
  exact ⟨ms, b', hdue, hwhole, (calls_return plainRendering mockTable hwhole).2.2.2 hsettled⟩

end Bus

end Clackd.Ipc
