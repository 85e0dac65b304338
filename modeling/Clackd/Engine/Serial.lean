import Clackd.Engine.Channels
import Clackd.Foundation.Serial

/-!
# The engine is serial

Workers run side by side, and clients see them through queues.  Yet a run of the engine
has one history: the devices it opened, the driver calls its workers finished and the
wake-ups of their drivers' tasks, in the order in which they happened.  The drivers are
in the state this history leaves when it is replayed call by call on one thread, and what
a worker answers is what the replay answers at that place.

## Main results

* `serial_step`: every step keeps the engine in agreement with its history.
* `Serial.later`: what is asked later is answered later.
-/

namespace Clackd.Engine

open Clackd.Foundation Clackd.Hal

namespace Sys

variable {W D : Type} [KeyboardDriver D] [BackgroundTasks D]

/-! ## The history of a run -/

/-- The answer at a place of the history, when it is replayed. -/
def given (history : List (Deed D)) (n : Nat) : Option (ReplyId × Reply) :=
  answerAt Deed.act Deed.answer [] history n

/-- The engine agrees with a history: its drivers are where the history leaves them, and
what it answered, the history answers, once. -/
structure Serial (history : List (Deed D)) (s : Sys D) : Prop where
  devices : s.devices = play Deed.act [] history
  answered : ∀ n reply r, given history n = some (reply, r) → .replied reply r ∈ s.sup.log
  earned : ∀ reply r, .replied reply r ∈ s.sup.log →
    r.isSupervisors = true ∨ ∃ n, given history n = some (reply, r)
  alone : ∀ n m reply r r', given history n = some (reply, r) →
    given history m = some (reply, r') → n = m

omit [BackgroundTasks D] in
/-- What a driver call is answered with is not one of the supervisor's replies. -/
theorem call_isSupervisors (turn : Turn) (driver : D) (op : WorkerOp) :
    (Worker.call turn driver op).reply.isSupervisors = false := by
  have hkeycode : ∀ r : Except DriverError UInt16 × D,
      (Worker.outcome .keycode r).reply.isSupervisors = false := by
    rintro ⟨result, d⟩
    cases result <;> rfl
  have hdone : ∀ r : Except DriverError Unit × D,
      (Worker.outcome .done r).reply.isSupervisors = false := by
    rintro ⟨result, d⟩
    cases result <;> rfl
  have hbytes : ∀ r : Except DriverError (List UInt8) × D,
      (Worker.outcome .bytes r).reply.isSupervisors = false := by
    rintro ⟨result, d⟩
    cases result <;> rfl
  cases op with
  | getKeycode layer row col reply => exact hkeycode _
  | setKeycode layer row col keycode reply => exact hdone _
  | commit reply => exact hdone _
  | getMacro offset length reply => exact hbytes _
  | setMacro offset data reply => exact hdone _
  | getLighting channel value_id reply => exact hbytes _
  | setLighting channel value_id data reply => exact hdone _

/-- Nor is what a history answers. -/
theorem given_isSupervisors {history : List (Deed D)} {n : Nat} {reply : ReplyId} {r : Reply}
    (h : given history n = some (reply, r)) : r.isSupervisors = false := by
  obtain ⟨deed, -, hgives⟩ := Option.bind_eq_some_iff.1 h
  cases deed with
  | did w turn job =>
      cases job with
      | op op =>
          obtain ⟨device, -, hanswer⟩ := Option.map_eq_some_iff.1 hgives
          cases hanswer
          exact call_isSupervisors turn device.2 op
      | debounced => cases hgives
      | final => cases hgives
  | opened id driver => cases hgives
  | woke w turn dropped wakeup => cases hgives

omit [KeyboardDriver D] [BackgroundTasks D] in
/-- A request in hand is outstanding. -/
theorem outstanding_of_job {s : Sys D} {w : WorkerId} {x : Worker D} {op : WorkerOp}
    (hx : s.sup.workers[w]? = some x) (hjob : x.phase = .running (.op op)) :
    0 < s.outstanding op.reply := by
  have howed : 0 < x.owed op.reply := by
    rw [Worker.owed, hjob]
    simp [WorkerPhase.serves]
  have hle : x.owed op.reply ≤ (s.sup.workers.map (Worker.owed op.reply)).sum :=
    List.single_le_sum (fun _ _ => Nat.zero_le _) _
      (List.mem_map.2 ⟨x, List.mem_of_getElem? hx, rfl⟩)
  rw [outstanding]
  omega

theorem serial_start : (start : Sys D).Serial [] where
  devices := rfl
  answered := fun n reply r h => by cases h
  earned := fun reply r h => absurd h List.not_mem_nil
  alone := fun n m reply r r' h => by cases h

/-- A deed that answers nothing. -/
theorem Serial.silent {s s' : Sys D} {history : List (Deed D)} (h : s.Serial history)
    {deed : Deed D} (hdevices : s'.devices = Deed.act s.devices deed) (hown : s.sup.Own s'.sup)
    (hkept : ∀ reply r, .replied reply r ∈ s.sup.log → .replied reply r ∈ s'.sup.log)
    (hsilent : ∀ devices, deed.answer devices = none) : s'.Serial (history ++ [deed]) := by
  have hsame : ∀ n answer, given (history ++ [deed]) n = some answer →
      given history n = some answer := by
    intro n answer hn
    rcases answerAt_snoc hn with hold | ⟨-, hnew⟩
    · exact hold
    · rw [hsilent] at hnew
      cases hnew
  refine ⟨?_, ?_, ?_, ?_⟩
  · rw [hdevices, h.devices, play_append]
    rfl
  · intro n reply r hn
    exact hkept reply r (h.answered n reply r (hsame n _ hn))
  · intro reply r hr
    rcases hown reply r hr with hold | hsupervisors
    · rcases h.earned reply r hold with hsupervisors | ⟨n, hn⟩
      · exact .inl hsupervisors
      · refine .inr ⟨n, ?_⟩
        rw [given, answerAt_append (lt_of_answerAt hn)]
        exact hn
    · exact .inl hsupervisors
  · intro n m reply r r' hn hm
    exact h.alone n m reply r r' (hsame n _ hn) (hsame m _ hm)

/-- A driver call that was finished. -/
theorem Serial.did {s s' : Sys D} {history : List (Deed D)} (h : s.Serial history)
    (haccounted : s.Accounted) {w : WorkerId} {turn : Turn} {job : Job} {x : Worker D}
    (hx : s.sup.workers[w]? = some x) (hjob : x.phase = .running job)
    (hdevices : s'.devices = Deed.act s.devices (.did w turn job))
    (hreplies : ∀ reply a, .replied reply a ∈ s'.sup.log ↔ .replied reply a ∈ s.sup.log ∨
      ∃ op, job = .op op ∧ reply = op.reply ∧ a = (Worker.call turn x.driver op).reply) :
    s'.Serial (history ++ [.did w turn job]) := by
  have hdevice : s.devices[w]? = some (x.device_id, x.driver) := by
    rw [Sys.devices, List.getElem?_map, hx]
    rfl
  -- The answer of the new deed is the one that was just sent.
  have hnew : ∀ reply r, Deed.answer (play Deed.act [] history) (.did w turn job) =
      some (reply, r) ↔
        ∃ op, job = .op op ∧ reply = op.reply ∧ r = (Worker.call turn x.driver op).reply := by
    intro reply r
    rw [← h.devices]
    cases job with
    | op op =>
        rw [Deed.answer, hdevice]
        constructor
        · intro heq
          cases heq
          exact ⟨op, rfl, rfl, rfl⟩
        · rintro ⟨op', hop, rfl, rfl⟩
          cases hop
          rfl
    | debounced =>
        constructor
        · intro heq
          cases heq
        · rintro ⟨op, hop, -⟩
          cases hop
    | final =>
        constructor
        · intro heq
          cases heq
        · rintro ⟨op, hop, -⟩
          cases hop
  -- Nobody has answered that request before.
  have hfresh : ∀ op, job = .op op → ∀ n r, given history n ≠ some (op.reply, r) := by
    intro op hop n r hn
    subst hop
    have hout := outstanding_of_job hx hjob
    have hans := answered_of_mem (h.answered n op.reply r hn)
    have honce := haccounted.once op.reply
    omega
  refine ⟨?_, ?_, ?_, ?_⟩
  · rw [hdevices, h.devices, play_append]
    rfl
  · intro n reply r hn
    rw [hreplies]
    rcases answerAt_snoc hn with hold | ⟨-, hthis⟩
    · exact .inl (h.answered n reply r hold)
    · exact .inr ((hnew reply r).1 hthis)
  · intro reply r hr
    rcases (hreplies reply r).1 hr with hold | hthis
    · rcases h.earned reply r hold with hsupervisors | ⟨n, hn⟩
      · exact .inl hsupervisors
      · refine .inr ⟨n, ?_⟩
        rw [given, answerAt_append (lt_of_answerAt hn)]
        exact hn
    · refine .inr ⟨history.length, ?_⟩
      rw [given, answerAt_length]
      exact (hnew reply r).2 hthis
  · intro n m reply r r' hn hm
    rcases answerAt_snoc hn with hold | ⟨hlast, hthis⟩
    · rcases answerAt_snoc hm with hold' | ⟨hlast', hthis'⟩
      · exact h.alone n m reply r r' hold hold'
      · obtain ⟨op, hop, rfl, -⟩ := (hnew reply r').1 hthis'
        exact absurd hold (hfresh op hop n r)
    · rcases answerAt_snoc hm with hold' | ⟨hlast', hthis'⟩
      · obtain ⟨op, hop, rfl, -⟩ := (hnew reply r).1 hthis
        exact absurd hold' (hfresh op hop m r')
      · rw [hlast, hlast']

/-- Every step keeps the engine in agreement with its history. -/
theorem serial_step {table : DriverTable W D} {s s' : Sys D} {l : Label W}
    {history : List (Deed D)} (h : s.Serial history) (haccounted : s.Accounted)
    (hstep : s.step table l = some s') : s'.Serial (history ++ s.deeds l s') := by
  have hkept : ∀ reply r, .replied reply r ∈ s.sup.log → .replied reply r ∈ s'.sup.log := by
    intro reply r hr
    obtain ⟨more, hlog⟩ := (step_cases hstep).log
    rw [hlog]
    exact List.mem_append_left _ hr
  generalize hdeeds : s.deeds l s' = deeds
  have hhappened := happened_step hstep
  rw [hdeeds] at hhappened
  cases hhappened with
  | nothing hdevices hown =>
      rw [List.append_nil]
      refine ⟨by rw [hdevices, h.devices], ?_, ?_, h.alone⟩
      · intro n reply r hn
        exact hkept reply r (h.answered n reply r hn)
      · intro reply r hr
        rcases hown reply r hr with hold | hsupervisors
        · exact h.earned reply r hold
        · exact .inl hsupervisors
  | opened id driver hdevices hown => exact h.silent hdevices hown hkept fun _ => rfl
  | did w turn job x hx hjob hdevices hreplies =>
      exact h.did haccounted hx hjob hdevices hreplies
  | woke w turn dropped wakeup hdevices hown => exact h.silent hdevices hown hkept fun _ => rfl

/-- What is asked after a part of a run is answered after that part. -/
theorem Serial.later {m : Sys D} {history more : List (Deed D)} (h : m.Serial history)
    (haccounted : m.Accounted) {n : Nat} {reply : ReplyId} {r : Reply}
    (hunasked : m.next_reply ≤ reply) (hgiven : given (history ++ more) n = some (reply, r)) :
    history.length ≤ n := by
  refine Nat.le_of_not_lt fun hlt => ?_
  rw [given, answerAt_append hlt] at hgiven
  have hpos := answered_of_mem (h.answered n reply r hgiven)
  have hnone := haccounted.fresh reply hunasked
  omega

end Sys

end Clackd.Engine
