import Clackd.Engine.Serial
import Clackd.Ipc.Calls

/-!
# Method calls are linearizable

Any number of clients call the interface at the same time, over any number of devices.
There is one order of all the driver calls that were made, such that each answer from a
device is the one its driver gives when the calls are made one after the other in that
order.  A call that had returned before another sent its command is before it.

## Main results

* `place_within`: the place of a call is between its coming in and its return.
* `calls_linearizable`: the order, its answers, and that it never contradicts real time.
-/

namespace Clackd.Ipc

open Clackd.Foundation Clackd.Hal Clackd.Engine

/-- The device whose driver answers a method; the supervisor answers the others. -/
def Method.device : Method → Option String
  | .list_devices => none
  | .get_device_info _ => none
  | .get_device_identity _ => none
  | method => (method.command 0).forwarded.map Prod.fst

namespace Bus

variable {W D : Type} {render : Rendering} [KeyboardDriver D] [BackgroundTasks D]

/-- The deeds of a step. -/
def deeds (b : Bus D) (l : BusLabel W) (b' : Bus D) : List (Deed D) :=
  match l with
  | .call _ => []
  | .submit _ => []
  | .receive _ => []
  | .engine l => b.engine.deeds l b'.engine

/-- The history of a run. -/
def history (render : Rendering) (table : DriverTable W D) (ls : List (BusLabel W)) :
    List (Deed D) :=
  observed (step render table) deeds start ls

/-- A call was answered by the driver call at this place of the history: the driver is
that of the device the method names, and the answer, or the driver's error, is what the
history gives. -/
inductive AnsweredAt (render : Rendering) (history : List (Deed D)) (b : Bus D) (c : Call)
    (n : Nat) : Prop
  | intro (reply : ReplyId) (id : String) (w : WorkerId) (turn : Turn) (op : WorkerOp) (r : Reply)
      (hphase : c.phase = .returned (some reply)
        ((received r).mapError (FdoError.fromDaemon render)))
      (hdeed : history[n]? = some (.did w turn (.op op)))
      (hcmd : (c.method.command reply).forwarded = some (id, op)) (hid : b.engine.sup.Serves w id)
      (hgiven : Sys.given history n = some (reply, r))

/-- What a call has returned came from a device: the reply it took was not one of the
supervisor's own. -/
def FromDevice (b : Bus D) (c : Call) : Prop :=
  ∃ reply result r, c.phase = .returned (some reply) result ∧
    .replied reply r ∈ b.engine.sup.log ∧ r.isSupervisors = false

/-! ## The history and the calls -/

omit [BackgroundTasks D] in
/-- A deed that answers is the end of an operation. -/
theorem deed_of_answer {devices : List (String × D)} {deed : Deed D} {reply : ReplyId} {r : Reply}
    (h : deed.answer devices = some (reply, r)) :
    ∃ w turn op, deed = .did w turn (.op op) ∧ op.reply = reply := by
  cases deed with
  | did w turn job =>
      cases job with
      | op op =>
          obtain ⟨device, -, hanswer⟩ := Option.map_eq_some_iff.1 h
          cases hanswer
          exact ⟨w, turn, op, rfl, rfl⟩
      | debounced => cases h
      | final => cases h
  | opened id driver => cases h
  | woke w turn dropped wakeup => cases h

omit [KeyboardDriver D] [BackgroundTasks D] in
theorem device_of_command {method : Method} {reply : ReplyId} {id : String} {op : WorkerOp}
    (h : (method.command reply).forwarded = some (id, op)) : method.device = some id := by
  cases method with
  | list_devices => cases h
  | get_device_info device_id => cases h
  | get_device_identity device_id => cases h
  | _ =>
      cases h
      rfl

omit [KeyboardDriver D] [BackgroundTasks D] in
/-- The answer to a request that goes to a device is not the supervisor's. -/
theorem supervisors_of_answer {method : Method} {r : Reply} {answer : Answer}
    (hkind : r.kind = method.kind) (hanswer : received r = .ok answer)
    (hdevice : method.device.isSome = true) : r.isSupervisors = false := by
  cases r with
  | keycode result =>
      cases result with
      | ok keycode => rfl
      | error err => cases hanswer
  | done result =>
      cases result with
      | ok _ => rfl
      | error err => cases hanswer
  | bytes result =>
      cases result with
      | ok data => rfl
      | error err => cases hanswer
  | devices ids =>
      cases method with
      | list_devices => cases hdevice
      | _ => cases hkind
  | info result =>
      cases method with
      | get_device_info device_id => cases hdevice
      | _ => cases hkind
  | identity result =>
      cases method with
      | get_device_identity device_id => cases hdevice
      | _ => cases hkind

/-- What holds of the history of a run and the state it ends in. -/
structure Replayed (render : Rendering) (history : List (Deed D)) (b : Bus D) : Prop where
  sound : Sound render b
  serial : b.engine.Serial history
  placed : ∀ c ∈ b.calls, ∀ reply, c.channel = some reply → ∀ w turn op,
    .did w turn (.op op) ∈ history → op.reply = reply →
      ∃ id, (c.method.command reply).forwarded = some (id, op) ∧ b.engine.sup.Serves w id
  answers : ∀ n w turn op, history[n]? = some (.did w turn (.op op)) →
    ∃ r, Sys.given history n = some (op.reply, r)

theorem replayed_start : Replayed render [] (start : Bus D) where
  sound := sound_start
  serial := Sys.serial_start
  placed := fun _ hc => absurd hc List.not_mem_nil
  answers := fun _ _ _ _ h => by cases h

/-- A driver call in the history was for a request that came in. -/
theorem Replayed.opened {history : List (Deed D)} {b : Bus D} (h : Replayed render history b)
    {w : WorkerId} {turn : Turn} {op : WorkerOp} (hmem : .did w turn (.op op) ∈ history) :
    op.reply < b.engine.next_reply := by
  obtain ⟨n, hlt, hget⟩ := List.getElem_of_mem hmem
  obtain ⟨r, hr⟩ := h.answers n w turn op (List.getElem?_eq_some_iff.2 ⟨hlt, hget⟩)
  have hpos := Sys.answered_of_mem (h.serial.answered n op.reply r hr)
  refine Nat.lt_of_not_le fun hle => ?_
  have hnone := h.sound.engine.fresh op.reply hle
  omega

/-- A step of the engine, with its deeds. -/
theorem Replayed.engineStep {table : DriverTable W D} {history : List (Deed D)} {b : Bus D}
    {s : Sys D} {l : Label W} (h : Replayed render history b)
    (hstep : b.engine.step table l = some s) :
    Replayed render (history ++ b.engine.deeds l s) { b with engine := s } := by
  have hserves : ∀ {w : WorkerId} {id : String}, b.engine.sup.Serves w id → s.sup.Serves w id :=
    fun hw => Sys.serves_step hstep hw
  have hserial : s.Serial (history ++ b.engine.deeds l s) :=
    Sys.serial_step h.serial h.sound.engine hstep
  -- The one deed that may be new is that of a worker whose job is at its end.
  have hnew : ∀ {w : WorkerId} {turn : Turn} {op : WorkerOp},
      .did w turn (.op op) ∈ b.engine.deeds l s →
        b.engine.deeds l s = [.did w turn (.op op)] ∧
          ∃ x, b.engine.sup.workers[w]? = some x ∧ x.phase = .running (.op op) := by
    intro w turn op hmem
    generalize hdeeds : b.engine.deeds l s = deeds at hmem
    have hhappened := Sys.happened_step hstep
    rw [hdeeds] at hhappened
    cases hhappened with
    | nothing hdevices hown => cases hmem
    | opened id driver hdevices hown => cases List.mem_singleton.1 hmem
    | did v turn' job x hx hjob hdevices hreplies =>
        cases List.mem_singleton.1 hmem
        exact ⟨rfl, x, hx, hjob⟩
    | woke v turn' dropped wakeup hdevices hown => cases List.mem_singleton.1 hmem
  refine ⟨h.sound.engineStep hstep, hserial, ?_, ?_⟩
  · intro c hc reply hchannel w turn op hmem hreply
    rcases List.mem_append.1 hmem with hold | hlast
    · obtain ⟨id, hcmd, hid⟩ := h.placed c hc reply hchannel w turn op hold hreply
      exact ⟨id, hcmd, hserves hid⟩
    · obtain ⟨-, x, hx, hjob⟩ := hnew hlast
      have hown := (h.sound.honest c hc).pertains hchannel
      exact ⟨x.device_id, hown.running x (List.mem_of_getElem? hx) op hjob hreply,
        hserves ⟨x, hx, rfl⟩⟩
  · intro n w turn op hn
    by_cases hlt : n < history.length
    · rw [List.getElem?_append_left hlt] at hn
      obtain ⟨r, hr⟩ := h.answers n w turn op hn
      refine ⟨r, ?_⟩
      rw [Sys.given, answerAt_append hlt]
      exact hr
    · rw [List.getElem?_append_right (by omega)] at hn
      obtain ⟨hdeeds, x, hx, hjob⟩ := hnew (List.mem_of_getElem? hn)
      rw [hdeeds] at hn ⊢
      have hlast : n = history.length := by
        have hfirst := (List.getElem?_eq_some_iff.1 hn).1
        rw [List.length_singleton] at hfirst
        omega
      have hdevice : b.engine.devices[w]? = some (x.device_id, x.driver) := by
        rw [Sys.devices, List.getElem?_map, hx]
        rfl
      rw [hlast, Sys.given, answerAt_length, ← h.serial.devices, Deed.answer, hdevice]
      exact ⟨_, rfl⟩

omit [KeyboardDriver D] [BackgroundTasks D] in
/-- A call that moved on is one of the calls there were, or the one that moved. -/
theorem mem_setCall {b : Bus D} {i : Nat} {c d : Call} {phase : CallPhase}
    (hd : d ∈ (b.setCall i c phase).calls) : d ∈ b.calls ∨ d = { c with phase := phase } := by
  rcases List.mem_or_eq_of_mem_set hd with hold | hnew
  · exact .inl hold
  · exact .inr hnew

theorem replayed_submit {table : DriverTable W D} {history : List (Deed D)} {b b' : Bus D}
    {i : Nat} {c : Call} (h : Replayed render history b) (hc : b.calls[i]? = some c)
    (hstep : b.submit table i c = some b') : Replayed render history b' := by
  have hsound := sound_submit h.sound hc hstep
  rw [submit] at hstep
  split at hstep
  · split at hstep
    · cases hstep
      refine ⟨hsound, h.serial, ?_, h.answers⟩
      intro d hd reply hchannel
      rcases mem_setCall hd with hold | rfl
      · exact h.placed d hold reply hchannel
      · cases hchannel
    · obtain ⟨s, hs, rfl⟩ := Option.map_eq_some_iff.1 hstep
      have hmoved := h.engineStep hs
      have hnone : b.engine.deeds (.enqueue (c.method.command b.engine.next_reply) : Label W) s =
          [] := by
        obtain ⟨hsup, -⟩ := Sys.enqueue_queue hs
        rw [Sys.deeds_of_kept (by rw [hsup])]
        rfl
      rw [hnone, List.append_nil] at hmoved
      refine ⟨hsound, hmoved.serial, ?_, hmoved.answers⟩
      intro d hd reply hchannel w turn op hmem hreply
      rcases mem_setCall hd with hold | rfl
      · exact hmoved.placed d hold reply hchannel w turn op hmem hreply
      · -- The channel has just been opened, so no driver call was made for it.
        cases hchannel
        have hlt := h.opened hmem
        rw [hreply] at hlt
        exact absurd hlt (Nat.lt_irrefl _)
  · cases hstep

omit [KeyboardDriver D] [BackgroundTasks D] in
/-- A call that takes its reply keeps its channel, and the engine is not touched. -/
theorem receive_cases {b b' : Bus D} {i : Nat} {c : Call}
    (hstep : b.receive render i c = some b') :
    ∃ reply result, c.phase = .awaiting reply ∧
      b' = b.setCall i c (.returned (some reply) result) := by
  rw [receive] at hstep
  split at hstep
  · rename_i reply hphase
    split at hstep
    · split at hstep
      · cases hstep
        exact ⟨reply, _, hphase, rfl⟩
      · cases hstep
    · split at hstep
      · cases hstep
        exact ⟨reply, _, hphase, rfl⟩
      · cases hstep
  · cases hstep

/-- Every step keeps the calls in agreement with the history. -/
theorem replayed_step {table : DriverTable W D} {history : List (Deed D)} {b b' : Bus D}
    {l : BusLabel W} (h : Replayed render history b) (hstep : b.step render table l = some b') :
    Replayed render (history ++ b.deeds l b') b' := by
  have hsound := sound_step h.sound hstep
  cases l with
  | call method =>
      cases hstep
      rw [deeds, List.append_nil]
      refine ⟨hsound, h.serial, ?_, h.answers⟩
      intro d hd reply hchannel
      rcases List.mem_append.1 hd with hold | hnew
      · exact h.placed d hold reply hchannel
      · rw [List.mem_singleton.1 hnew] at hchannel
        cases hchannel
  | submit i =>
      obtain ⟨c, hc, hsubmit⟩ := Option.bind_eq_some_iff.1 hstep
      rw [deeds, List.append_nil]
      exact replayed_submit h hc hsubmit
  | receive i =>
      obtain ⟨c, hc, hreceive⟩ := Option.bind_eq_some_iff.1 hstep
      obtain ⟨reply, result, hphase, rfl⟩ := receive_cases hreceive
      rw [deeds, List.append_nil]
      refine ⟨hsound, h.serial, ?_, h.answers⟩
      intro d hd reply' hchannel
      rcases mem_setCall hd with hold | rfl
      · exact h.placed d hold reply' hchannel
      · cases hchannel
        exact h.placed c (List.mem_of_getElem? hc) reply (by rw [Call.channel, hphase])
  | engine l =>
      rw [step] at hstep
      split at hstep
      · cases hstep
      · obtain ⟨s, hs, rfl⟩ := Option.map_eq_some_iff.1 hstep
        exact h.engineStep hs

theorem replayed_run {table : DriverTable W D} {ls : List (BusLabel W)} {b : Bus D}
    (hrun : run (step render table) start ls = some b) :
    Replayed render (history render table ls) b := by
  have hstep : ∀ (history : List (Deed D)) (b : Bus D) (l : BusLabel W) (b' : Bus D),
      Replayed render history b → b.step render table l = some b' →
        Replayed render (history ++ deeds b l b') b' :=
    fun _ _ _ _ h hstep => replayed_step h hstep
  exact run_observed hstep replayed_start hrun

/-! ## Real time -/

/-- What a step does to the calls. -/
inductive Moved (b b' : Bus D) : Prop
  | stayed (hcalls : b'.calls = b.calls)
  | came (method : Method) (hcalls : b'.calls = b.calls ++ [⟨method, .sending⟩])
  | moved (i : Nat) (c : Call) (phase : CallPhase) (hc : b.calls[i]? = some c)
      (hcalls : b'.calls = b.calls.set i { c with phase := phase })
      (hlive : ∀ channel result, c.phase ≠ .returned channel result)
      (hchannel : ∀ reply, (Call.mk c.method phase).channel = some reply →
        c.channel = some reply ∨ reply = b.engine.next_reply)

theorem moved_step {table : DriverTable W D} {b b' : Bus D} {l : BusLabel W}
    (hstep : b.step render table l = some b') :
    b.engine.next_reply ≤ b'.engine.next_reply ∧ Moved b b' := by
  cases l with
  | call method =>
      cases hstep
      exact ⟨Nat.le_refl _, .came method rfl⟩
  | submit i =>
      obtain ⟨c, hc, hsubmit⟩ := Option.bind_eq_some_iff.1 hstep
      rw [submit] at hsubmit
      split at hsubmit
      · rename_i hphase
        have hlive : ∀ channel result, c.phase ≠ .returned channel result := by
          intro channel result hcon
          rw [hphase] at hcon
          cases hcon
        split at hsubmit
        · cases hsubmit
          exact ⟨Nat.le_refl _, .moved i c _ hc rfl hlive fun _ hcon => by cases hcon⟩
        · obtain ⟨s, hs, rfl⟩ := Option.map_eq_some_iff.1 hsubmit
          have hnext : b.engine.next_reply ≤ s.next_reply := by
            rw [Sys.step_next_reply hs]
            exact Nat.le_add_right _ _
          refine ⟨hnext, .moved i c _ hc rfl hlive ?_⟩
          intro reply hreply
          cases hreply
          exact .inr rfl
      · cases hsubmit
  | receive i =>
      obtain ⟨c, hc, hreceive⟩ := Option.bind_eq_some_iff.1 hstep
      obtain ⟨reply, result, hphase, rfl⟩ := receive_cases hreceive
      refine ⟨Nat.le_refl _, .moved i c _ hc rfl ?_ ?_⟩
      · intro channel result hcon
        rw [hphase] at hcon
        cases hcon
      · intro reply' hreply
        cases hreply
        left
        rw [Call.channel, hphase]
  | engine l =>
      rw [step] at hstep
      split at hstep
      · cases hstep
      · obtain ⟨s, hs, rfl⟩ := Option.map_eq_some_iff.1 hstep
        refine ⟨?_, .stayed rfl⟩
        show b.engine.next_reply ≤ s.next_reply
        rw [Sys.step_next_reply hs]
        exact Nat.le_add_right _ _

/-- A call that has returned stays so. -/
theorem returned_step {table : DriverTable W D} {b b' : Bus D} {l : BusLabel W} {i : Nat}
    {c : Call} {channel : Option ReplyId} {result : Except FdoError Answer}
    (hreturned : c.phase = .returned channel result) (hc : b.calls[i]? = some c)
    (hstep : b.step render table l = some b') : b'.calls[i]? = some c := by
  obtain ⟨-, hmoved⟩ := moved_step hstep
  cases hmoved with
  | stayed hcalls =>
      rw [hcalls]
      exact hc
  | came method hcalls =>
      rw [hcalls, List.getElem?_append_left (List.getElem?_eq_some_iff.1 hc).1]
      exact hc
  | moved k d phase hd hcalls hlive hchannel =>
      rw [hcalls, List.getElem?_set]
      split
      · rename_i hki
        subst hki
        rw [hc] at hd
        cases hd
        exact absurd hreturned (hlive channel result)
      · exact hc

/-- So it does to the end. -/
theorem returned_run {table : DriverTable W D} {b b' : Bus D} {ls : List (BusLabel W)} {i : Nat}
    {c : Call} {channel : Option ReplyId} {result : Except FdoError Answer}
    (hreturned : c.phase = .returned channel result) (hc : b.calls[i]? = some c)
    (hrun : run (step render table) b ls = some b') : b'.calls[i]? = some c :=
  run_preserves (I := fun b : Bus D => b.calls[i]? = some c)
    (fun _ _ _ hd hstep => returned_step hreturned hd hstep) hc hrun

/-- The call at this place has no channel, or one that was opened later. -/
structure Unsent (next : ReplyId) (i : Nat) (b : Bus D) : Prop where
  opened : next ≤ b.engine.next_reply
  later : ∀ c reply, b.calls[i]? = some c → c.channel = some reply → next ≤ reply

theorem unsent_step {table : DriverTable W D} {b b' : Bus D} {l : BusLabel W} {next : ReplyId}
    {i : Nat} (h : Unsent next i b) (hstep : b.step render table l = some b') :
    Unsent next i b' := by
  obtain ⟨hnext, hmoved⟩ := moved_step hstep
  refine ⟨Nat.le_trans h.opened hnext, ?_⟩
  intro c reply hc hreply
  cases hmoved with
  | stayed hcalls =>
      rw [hcalls] at hc
      exact h.later c reply hc hreply
  | came method hcalls =>
      rw [hcalls] at hc
      by_cases hlt : i < b.calls.length
      · rw [List.getElem?_append_left hlt] at hc
        exact h.later c reply hc hreply
      · rw [List.getElem?_append_right (Nat.le_of_not_lt hlt)] at hc
        rw [List.mem_singleton.1 (List.mem_of_getElem? hc)] at hreply
        cases hreply
  | moved k d phase hd hcalls hlive hchannel =>
      rw [hcalls, List.getElem?_set] at hc
      split at hc
      · rename_i hki
        split at hc
        · cases hc
          rcases hchannel reply hreply with hsame | hnew
          · exact h.later d reply (by rw [← hki]; exact hd) hsame
          · rw [hnew]
            exact h.opened
        · cases hc
      · exact h.later c reply hc hreply

/-! ## The order of the calls -/

omit [KeyboardDriver D] [BackgroundTasks D] in
/-- A reply that carries an answer is read as that answer. -/
theorem received_ok {r : Reply} {answer : Answer}
    (h : (received r).mapError (FdoError.fromDaemon render) = .ok answer) :
    received r = .ok answer := by
  cases hr : received r with
  | ok answer' =>
      rw [hr] at h
      cases h
      rfl
  | error err =>
      rw [hr] at h
      cases h

omit [KeyboardDriver D] [BackgroundTasks D] in
theorem replied_of_pos {s : Sys D} {reply : ReplyId} (h : 0 < s.answered reply) :
    ∃ r, .replied reply r ∈ s.sup.log := by
  obtain ⟨x, hx, hanswers⟩ := List.countP_pos_iff.1 h
  cases x with
  | replied reply' r =>
      obtain rfl : reply' = reply := by simpa [Effect.answers] using hanswers
      exact ⟨r, hx⟩
  | _ => cases hanswers

omit [KeyboardDriver D] [BackgroundTasks D] in
/-- On a channel that carried one reply, that one is all there is. -/
theorem reply_unique {s : Sys D} {reply : ReplyId} {r r' : Reply} (honce : s.answered reply = 1)
    (h : .replied reply r ∈ s.sup.log) (h' : .replied reply r' ∈ s.sup.log) : r = r' := by
  rw [Sys.answered, List.countP_eq_length_filter] at honce
  obtain ⟨x, hx⟩ := List.length_eq_one_iff.1 honce
  have hmem : ∀ r, .replied reply r ∈ s.sup.log → Effect.replied reply r = x := by
    intro r hr
    have hfiltered : Effect.replied reply r ∈ s.sup.log.filter (Effect.answers reply) :=
      List.mem_filter.2 ⟨hr, by simp [Effect.answers]⟩
    rw [hx] at hfiltered
    exact List.mem_singleton.1 hfiltered
  cases (hmem r h).trans (hmem r' h').symm
  rfl

/-- A reply that came from a worker has a place in the history. -/
theorem Replayed.exists_place {history : List (Deed D)} {b : Bus D}
    (h : Replayed render history b) {c : Call} (hc : c ∈ b.calls) (hdevice : FromDevice b c) :
    ∃ n, AnsweredAt render history b c n := by
  obtain ⟨reply, result, r, hphase, hreplied, hworkers⟩ := hdevice
  have hpos := Sys.answered_of_mem hreplied
  cases h.sound.honest c hc with
  | sending hphase' =>
      rw [hphase] at hphase'
      cases hphase'
  | awaiting reply' hphase' hopened hown =>
      rw [hphase] at hphase'
      cases hphase'
  | closed hphase' hreturned =>
      rw [hphase] at hphase'
      cases hphase'
  | dropped reply' hopened hown hgone hphase' =>
      rw [hphase] at hphase'
      cases hphase'
      omega
  | answered reply' r' hopened hown honce hreplied' hkind hphase' =>
      rw [hphase] at hphase'
      obtain ⟨heq, rfl⟩ := CallPhase.returned.inj hphase'
      cases heq
      rcases h.serial.earned reply r hreplied with hcon | ⟨n, hn⟩
      · rw [hworkers] at hcon
        cases hcon
      · obtain ⟨deed, hdeed, hgives⟩ := Option.bind_eq_some_iff.1 hn
        obtain ⟨w, turn, op, rfl, hreply⟩ := deed_of_answer hgives
        obtain ⟨id, hcmd, hid⟩ := h.placed c hc reply (by rw [Call.channel, hphase]) w turn op
          (List.mem_of_getElem? hdeed) hreply
        have hsame : r = r' := reply_unique honce hreplied hreplied'
        subst hsame
        exact ⟨n, .intro reply id w turn op r hphase hdeed hcmd hid hn⟩

/-- An answer to a method of a device came from the device. -/
theorem Replayed.fromDevice {history : List (Deed D)} {b : Bus D}
    (h : Replayed render history b) {c : Call} (hc : c ∈ b.calls) {channel : Option ReplyId}
    {answer : Answer} (hphase : c.phase = .returned channel (.ok answer))
    (hdevice : c.method.device.isSome = true) : FromDevice b c := by
  cases h.sound.honest c hc with
  | sending hphase' =>
      rw [hphase] at hphase'
      cases hphase'
  | awaiting reply hphase' hopened hown =>
      rw [hphase] at hphase'
      cases hphase'
  | closed hphase' hreturned =>
      rw [hphase] at hphase'
      cases hphase'
  | dropped reply hopened hown hgone hphase' =>
      rw [hphase] at hphase'
      cases hphase'
  | answered reply r hopened hown honce hreplied hkind hphase' =>
      rw [hphase] at hphase'
      obtain ⟨rfl, hresult⟩ := CallPhase.returned.inj hphase'
      exact ⟨reply, _, r, hphase, hreplied,
        supervisors_of_answer hkind (received_ok hresult.symm) hdevice⟩
/-- Where the engine is after a step of the bus. -/
theorem engine_step {table : DriverTable W D} {b b' : Bus D} {l : BusLabel W}
    (hstep : b.step render table l = some b') :
    b'.engine = b.engine ∨ ∃ l', b.engine.step table l' = some b'.engine := by
  cases l with
  | call method =>
      cases hstep
      exact .inl rfl
  | submit i =>
      obtain ⟨c, -, hsubmit⟩ := Option.bind_eq_some_iff.1 hstep
      rw [submit] at hsubmit
      split at hsubmit
      · split at hsubmit
        · cases hsubmit
          exact .inl rfl
        · obtain ⟨s, hs, rfl⟩ := Option.map_eq_some_iff.1 hsubmit
          exact .inr ⟨_, hs⟩
      · cases hsubmit
  | receive i =>
      obtain ⟨c, -, hreceive⟩ := Option.bind_eq_some_iff.1 hstep
      obtain ⟨reply, result, -, rfl⟩ := receive_cases hreceive
      exact .inl rfl
  | engine l =>
      rw [step] at hstep
      split at hstep
      · cases hstep
      · obtain ⟨s, hs, rfl⟩ := Option.map_eq_some_iff.1 hstep
        exact .inr ⟨l, hs⟩

/-- A request that is nowhere outstanding, with so many answers. -/
structure Settled (reply : ReplyId) (answers : Nat) (b : Bus D) : Prop where
  accounted : b.engine.Accounted
  opened : reply < b.engine.next_reply
  outstanding : b.engine.outstanding reply = 0
  answered : b.engine.answered reply = answers

theorem settled_step {table : DriverTable W D} {reply : ReplyId} {answers : Nat} {b b' : Bus D}
    {l : BusLabel W} (h : Settled reply answers b) (hstep : b.step render table l = some b') :
    Settled reply answers b' := by
  rcases engine_step hstep with hsame | ⟨l', hs⟩
  · exact ⟨hsame ▸ h.accounted, hsame ▸ h.opened, hsame ▸ h.outstanding, hsame ▸ h.answered⟩
  · obtain ⟨houtstanding, hanswered⟩ := Sys.settled_stays h.accounted h.opened h.outstanding hs
    refine ⟨Sys.accounted_step h.accounted hs, ?_, houtstanding, hanswered.trans h.answered⟩
    rw [Sys.step_next_reply hs]
    exact Nat.lt_add_right _ h.opened

omit [KeyboardDriver D] [BackgroundTasks D] in
/-- The request of a call that has returned is nowhere outstanding. -/
theorem Sound.settled {b : Bus D} (h : Sound render b) {c : Call} (hc : c ∈ b.calls)
    {reply : ReplyId} {result : Except FdoError Answer}
    (hphase : c.phase = .returned (some reply) result) :
    Settled reply (b.engine.answered reply) b := by
  have honce := h.engine.once reply
  cases h.honest c hc with
  | sending hphase' =>
      rw [hphase] at hphase'
      cases hphase'
  | awaiting reply' hphase' hopened hown =>
      rw [hphase] at hphase'
      cases hphase'
  | closed hphase' hreturned =>
      rw [hphase] at hphase'
      cases hphase'
  | dropped reply' hopened hown hgone hphase' =>
      rw [hphase] at hphase'
      cases hphase'
      exact ⟨h.engine, hopened, by omega, rfl⟩
  | answered reply' r hopened hown hanswered hreplied hkind hphase' =>
      rw [hphase] at hphase'
      cases (CallPhase.returned.inj hphase').1
      exact ⟨h.engine, hopened, by omega, rfl⟩

section Places

variable {table : DriverTable W D} {xs ys : List (BusLabel W)} {a b : Bus D}
  (hxs : run (step render table) start xs = some a) (hys : run (step render table) a ys = some b)
  {c : Call} {n : Nat} (hplace : AnsweredAt render (history render table (xs ++ ys)) b c n)
include hxs hys hplace

/-- The answer of a call that has returned has its place by then. -/
theorem place_before (hc : c ∈ a.calls) : n < (history render table xs).length := by
  obtain ⟨reply, id, w, turn, op, r, hphase, hdeed, hcmd, hid, hgiven⟩ := hplace
  have hfirst : Replayed render (history render table xs) a := replayed_run hxs
  have hwhole : Replayed render (history render table (xs ++ ys)) b :=
    replayed_run (run_append_some.2 ⟨a, hxs, hys⟩)
  have hmore : history render table (xs ++ ys) =
      history render table xs ++ observed (step render table) deeds a ys := observed_append hxs ys
  rw [hmore] at hgiven hwhole
  have hreplied := hwhole.serial.answered n reply r hgiven
  have hsettled : Settled reply (a.engine.answered reply) b :=
    run_preserves (fun _ _ _ => settled_step) (hfirst.sound.settled hc hphase) hys
  -- No answer has been added since, so there was one then, and it is the one given.
  have hpos := Sys.answered_of_mem hreplied
  rw [hsettled.answered] at hpos
  obtain ⟨r', hr'⟩ := replied_of_pos hpos
  have hkept : .replied reply r' ∈ b.engine.sup.log := by
    refine run_preserves (I := fun b : Bus D => .replied reply r' ∈ b.engine.sup.log) ?_ hr' hys
    intro b l b' hmem hstep
    rcases engine_step hstep with hsame | ⟨l', hs⟩
    · rw [hsame]
      exact hmem
    · obtain ⟨more, hlog⟩ := (Sys.step_cases hs).log
      rw [hlog]
      exact List.mem_append_left _ hmem
  have honce := hwhole.sound.engine.once reply
  have hanswered := Sys.answered_of_mem hreplied
  have hsame : r' = r := reply_unique (by omega) hkept hreplied
  subst hsame
  rcases hfirst.serial.earned reply r' hr' with hcon | ⟨k, hk⟩
  · rw [Sys.given_isSupervisors hgiven] at hcon
    cases hcon
  · have hlt := lt_of_answerAt hk
    have hthere : Sys.given (history render table xs ++
        observed (step render table) deeds a ys) k = some (reply, r') := by
      rw [Sys.given, answerAt_append hlt]
      exact hk
    rw [hwhole.serial.alone n k reply r' r' hgiven hthere]
    exact hlt

/-- The answer of a call that has not sent its command has no place yet. -/
theorem place_after {i : Nat} (hunsent : ∀ d, a.calls[i]? = some d → d.phase = .sending)
    (hc : b.calls[i]? = some c) : (history render table xs).length ≤ n := by
  obtain ⟨reply, id, w, turn, op, r, hphase, hdeed, hcmd, hid, hgiven⟩ := hplace
  have hfirst : Replayed render (history render table xs) a := replayed_run hxs
  have hmore : history render table (xs ++ ys) =
      history render table xs ++ observed (step render table) deeds a ys := observed_append hxs ys
  rw [hmore] at hgiven
  have hunopened : Unsent a.engine.next_reply i b := by
    refine run_preserves (fun _ _ _ => unsent_step) ⟨Nat.le_refl _, ?_⟩ hys
    intro d reply hd hdreply
    rw [Call.channel, hunsent d hd] at hdreply
    cases hdreply
  exact hfirst.serial.later hfirst.sound.engine
    (hunopened.later c reply hc (by rw [Call.channel, hphase])) hgiven

end Places

/-- A place is between the coming in of a call and its return: nothing that was done before
its command was sent comes after it, and nothing that was done after its return before it. -/
def Within (render : Rendering) (table : DriverTable W D) (ls : List (BusLabel W)) (i n : Nat) :
    Prop :=
  ∀ (xs ys : List (BusLabel W)) (a : Bus D), ls = xs ++ ys →
    run (step render table) start xs = some a →
      ((∀ d, a.calls[i]? = some d → d.phase = .sending) → (history render table xs).length ≤ n) ∧
        ∀ d channel result, a.calls[i]? = some d → d.phase = .returned channel result →
          n < (history render table xs).length

theorem place_within {table : DriverTable W D} {ls : List (BusLabel W)} {b : Bus D}
    (hrun : run (step render table) start ls = some b) {i : Nat} {c : Call} {n : Nat}
    (hc : b.calls[i]? = some c) (hplace : AnsweredAt render (history render table ls) b c n) :
    Within render table ls i n := by
  rintro xs ys a rfl hxs
  have hys := run_suffix hxs hrun
  refine ⟨fun hunsent => place_after hxs hys hplace hunsent hc, ?_⟩
  intro d channel result hd hreturned
  have hkept := returned_run hreturned hd hys
  rw [hc] at hkept
  cases hkept
  exact place_before hxs hys hplace (List.mem_of_getElem? hd)

/-- A call that a device has answered has a place. -/
theorem exists_place_of_ok {table : DriverTable W D} {ls : List (BusLabel W)} {b : Bus D}
    (hrun : run (step render table) start ls = some b) {c : Call} (hc : c ∈ b.calls)
    {channel : Option ReplyId} {answer : Answer} (hphase : c.phase = .returned channel (.ok answer))
    (hdevice : c.method.device.isSome = true) :
    ∃ n, AnsweredAt render (history render table ls) b c n := by
  have hreplayed : Replayed render (history render table ls) b := replayed_run hrun
  exact hreplayed.exists_place hc (hreplayed.fromDevice hc hphase hdevice)

/-- A call that had returned before another sent its command has an earlier place. -/
theorem place_lt {table : DriverTable W D} {xs ys : List (BusLabel W)} {a b : Bus D}
    (hrun : run (step render table) start (xs ++ ys) = some b)
    (hxs : run (step render table) start xs = some a) {i j : Nat} {c c' : Call}
    {channel : Option ReplyId} {result : Except FdoError Answer} {n m : Nat}
    (hc : a.calls[i]? = some c) (hreturned : c.phase = .returned channel result)
    (hunsent : ∀ d, a.calls[j]? = some d → d.phase = .sending) (hc' : b.calls[j]? = some c')
    (hn : AnsweredAt render (history render table (xs ++ ys)) b c n)
    (hm : AnsweredAt render (history render table (xs ++ ys)) b c' m) : n < m := by
  -- The first call had its answer by then, and the second asked for its own later.
  have hkept := returned_run hreturned hc (run_suffix hxs hrun)
  have hsooner := (place_within hrun hkept hn xs ys a rfl hxs).2 c channel result hc hreturned
  have hlater := (place_within hrun hc' hm xs ys a rfl hxs).1 hunsent
  omega

/-- **Calls are linearizable.**  In every run there is one order of the driver calls that
were made.  The drivers are where this order leaves them.  What a call got from a device,
an answer or the driver's error, is what the driver of the device its method names gives
at one place in the order, which is no other call's.  And the order never contradicts real
time: a call that had returned before another sent its command comes before it. -/
theorem calls_linearizable (render : Rendering) (table : DriverTable W D)
    {ls : List (BusLabel W)} {b : Bus D} (hrun : run (step render table) start ls = some b) :
    b.engine.devices = play Deed.act [] (history render table ls) ∧
      (∀ c ∈ b.calls, FromDevice b c → ∃ n, AnsweredAt render (history render table ls) b c n) ∧
      (∀ c ∈ b.calls, ∀ channel answer, c.phase = .returned channel (.ok answer) →
        c.method.device.isSome = true →
          ∃ n, AnsweredAt render (history render table ls) b c n) ∧
      (∀ (i j : Nat) (c c' : Call) (n m : Nat), b.calls[i]? = some c → b.calls[j]? = some c' →
        AnsweredAt render (history render table ls) b c n →
        AnsweredAt render (history render table ls) b c' m → (n = m ↔ i = j)) ∧
      ∀ (xs ys : List (BusLabel W)) (a : Bus D), ls = xs ++ ys →
        run (step render table) start xs = some a →
        ∀ (i j : Nat) (c c' : Call) (channel : Option ReplyId)
          (result : Except FdoError Answer) (n m : Nat),
          a.calls[i]? = some c → c.phase = .returned channel result →
          (∀ d, a.calls[j]? = some d → d.phase = .sending) → b.calls[j]? = some c' →
          AnsweredAt render (history render table ls) b c n →
          AnsweredAt render (history render table ls) b c' m → n < m := by
  have hreplayed : Replayed render (history render table ls) b := replayed_run hrun
  refine ⟨hreplayed.serial.devices, ?_, ?_, ?_, ?_⟩
  · intro c hc hdevice
    exact hreplayed.exists_place hc hdevice
  · intro c hc channel answer hphase hdevice
    exact exists_place_of_ok hrun hc hphase hdevice
  · rintro i j c c' n m hc hc' ⟨reply, id, w, turn, op, r, hphase, hdeed, hcmd, hid, hgiven⟩
      ⟨reply', id', w', turn', op', r', hphase', hdeed', hcmd', hid', hgiven'⟩
    constructor
    · intro hnm
      subst hnm
      rw [hgiven] at hgiven'
      cases hgiven'
      exact hreplayed.sound.apart i j c c' reply hc hc' (by rw [Call.channel, hphase])
        (by rw [Call.channel, hphase'])
    · intro hij
      subst hij
      rw [hc] at hc'
      cases hc'
      rw [hphase] at hphase'
      cases (CallPhase.returned.inj hphase').1
      exact hreplayed.serial.alone n m reply r r' hgiven hgiven'
  · rintro xs ys a rfl hxs i j c c' channel result n m hc hreturned hunsent hc' hn hm
    exact place_lt hrun hxs hc hreturned hunsent hc' hn hm

/-- Attach a device, and let the calls with these numbers be answered one after the
other. -/
def attachRun : List (BusLabel (Except DaemonError MockDriver)) :=
  [.engine (.enqueue (.deviceConnected "dev1" 0x05AC 0x024F "/dev/hidraw7")),
    .engine (.supervise HashOrder.sorted
      (.ok (mockDriver [.error (.protocolViolation "short read")])))]

/-- A call, its driver call, and its return. -/
def callRun (i : Nat) (method : Method) : List (BusLabel (Except DaemonError MockDriver)) :=
  [.call method, .submit i, .engine (.supervise HashOrder.sorted (.ok (mockDriver []))),
    .engine (.worker 0 .recv), .engine (.worker 0 (.finish HashOrder.sorted)), .receive i]

/-- Two calls, the second after the first. -/
def pairRun : List (BusLabel (Except DaemonError MockDriver)) :=
  (attachRun ++ callRun 0 (.set_keycode "dev1" 0 1 1 4)) ++
    callRun 1 (.get_keycode "dev1" 0 1 1)

/-- The first call has its place before the second, which got an error from the driver. -/
theorem calls_linearizable_pair : ∃ (b : Bus MockDriver) (c c' : Call) (n m : Nat),
    run (step plainRendering mockTable) start pairRun = some b ∧ b.calls = [c, c'] ∧
      c.phase = .returned (some 1) (.ok .done) ∧ (∃ err, c'.phase = .returned (some 2) (.error err)) ∧
      AnsweredAt plainRendering (history plainRendering mockTable pairRun) b c n ∧
      AnsweredAt plainRendering (history plainRendering mockTable pairRun) b c' m ∧ n < m := by
  have hfirst : (run (step plainRendering mockTable) start
      (attachRun ++ callRun 0 (.set_keycode "dev1" 0 1 1 4))).map (fun b => b.calls) =
        some [⟨.set_keycode "dev1" 0 1 1 4, .returned (some 1) (.ok .done)⟩] := by
    decide +kernel
  have hboth : (run (step plainRendering mockTable) start pairRun).map (fun b =>
      (b.calls, (b.engine.sup.log.findSome? (replyOn 2)).map Reply.isSupervisors)) =
      some ([⟨.set_keycode "dev1" 0 1 1 4, .returned (some 1) (.ok .done)⟩,
        ⟨.get_keycode "dev1" 0 1 1, .returned (some 2)
          (.error (.failed "driver error: hidraw protocol violation: short read"))⟩],
            some false) := by
    decide +kernel
  obtain ⟨a, ha, hacalls⟩ := Option.map_eq_some_iff.1 hfirst
  obtain ⟨b, hb, heq⟩ := Option.map_eq_some_iff.1 hboth
  obtain ⟨hcalls, hreply⟩ := Prod.mk.inj heq
  obtain ⟨r, hr, hworkers⟩ := Option.map_eq_some_iff.1 hreply
  obtain ⟨-, herrors, hplaces, -, hrealtime⟩ := calls_linearizable plainRendering mockTable hb
  obtain ⟨n, hn⟩ := hplaces ⟨.set_keycode "dev1" 0 1 1 4, .returned (some 1) (.ok .done)⟩
    (by rw [hcalls]; exact List.mem_cons_self) (some 1) .done rfl rfl
  obtain ⟨m, hm⟩ := herrors ⟨.get_keycode "dev1" 0 1 1, .returned (some 2)
      (.error (.failed "driver error: hidraw protocol violation: short read"))⟩
    (by rw [hcalls]; exact List.mem_cons_of_mem _ List.mem_cons_self)
    ⟨2, _, r, rfl, mem_of_findSome hr, hworkers⟩
  refine ⟨b, _, _, n, m, hb, hcalls, rfl, ⟨_, rfl⟩, hn, hm, ?_⟩
  refine hrealtime _ _ a rfl ha 0 1 _ _ (some 1) (.ok .done) n m (by rw [hacalls]; rfl) rfl ?_
    (by rw [hcalls]; rfl) hn hm
  intro d hd
  rw [hacalls] at hd
  cases hd

end Bus

end Clackd.Ipc
