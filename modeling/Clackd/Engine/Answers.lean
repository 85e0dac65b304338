import Clackd.Engine.Entries
import Clackd.Engine.Interference
import Clackd.Engine.Watched
import Clackd.Foundation.Tally

/-!
# Every request is accounted for

A request that came in is on the engine channel, on the channel of a worker, with the
driver, answered, or dropped with the receiver it was on.  Receivers are dropped in
three places: a worker panics, a worker leaves after a fatal failure, the supervisor
returns.  The final commit of a worker drops nothing: it starts once nobody can send
on its channel any more, and nobody ever can again.

## Main results

* `handle_command_disposed`: a turn hands its request on or answers it, once and with
  the kind of reply the request asks for.
* `senderAlive_step`: a channel that lost its last sender gets no new one.
* `requests_accounted`: over every run, what came in is outstanding, answered or
  dropped.
-/

namespace Clackd.Engine

open Clackd.Foundation Clackd.Hal
open Std (ExtTreeMap)

/-! ## Kinds of replies -/

/-- The type of a reply channel, by what is sent on it when all goes well. -/
inductive ReplyKind where
  | keycode
  | done
  | bytes
  | devices
  | info
  | identity
  deriving DecidableEq, Repr

def Reply.kind : Reply → ReplyKind
  | .keycode _ => .keycode
  | .done _ => .done
  | .bytes _ => .bytes
  | .devices _ => .devices
  | .info _ => .info
  | .identity _ => .identity

def WorkerOp.kind : WorkerOp → ReplyKind
  | .getKeycode _ _ _ _ => .keycode
  | .setKeycode _ _ _ _ _ => .done
  | .commit _ => .done
  | .getMacro _ _ _ => .bytes
  | .setMacro _ _ _ => .done
  | .getLighting _ _ _ => .bytes
  | .setLighting _ _ _ _ => .done

/-- The reply channel of a request, with its type. -/
def EngineCommand.asks : EngineCommand → Option (ReplyId × ReplyKind)
  | .getKeycode _ _ _ _ reply => some (reply, .keycode)
  | .setKeycode _ _ _ _ _ reply => some (reply, .done)
  | .commitToNvram _ reply => some (reply, .done)
  | .getMacro _ _ _ reply => some (reply, .bytes)
  | .setMacro _ _ _ reply => some (reply, .done)
  | .getLighting _ _ _ reply => some (reply, .bytes)
  | .setLighting _ _ _ _ reply => some (reply, .done)
  | .listDevices reply => some (reply, .devices)
  | .getDeviceInfo _ reply => some (reply, .info)
  | .getDeviceIdentity _ reply => some (reply, .identity)
  | _ => none

theorem asks_reply (cmd : EngineCommand) : cmd.replyTo = cmd.asks.map (·.1) := by
  cases cmd <;> rfl

theorem asks_of_forwarded {cmd : EngineCommand} {id : String} {op : WorkerOp}
    (h : cmd.forwarded = some (id, op)) : cmd.asks = some (op.reply, op.kind) := by
  cases cmd with
  | deviceConnected id v p path => cases h
  | deviceDisconnected id => cases h
  | deviceError id err => cases h
  | deviceReattached id handle token => cases h
  | listDevices reply => cases h
  | getDeviceInfo id reply => cases h
  | getDeviceIdentity id reply => cases h
  | shutdown => cases h
  | _ =>
      cases h
      rfl

theorem refusal_kind (err : DaemonError) (op : WorkerOp) : (op.refusal err).kind = op.kind := by
  cases op <;> rfl

/-- An answer on this reply channel. -/
def Effect.answers (reply : ReplyId) : Effect → Bool
  | .replied reply' _ => reply' == reply
  | _ => false

/-- Whether an entry is an answer. -/
def Effect.isAnswer : Effect → Bool
  | .replied _ _ => true
  | _ => false

theorem countP_answers_of_silent {effects : List Effect} (reply : ReplyId)
    (h : ∀ x ∈ effects, x.isAnswer = false) : effects.countP (Effect.answers reply) = 0 := by
  rw [List.countP_eq_zero]
  intro x hx
  have hsilent := h x hx
  cases x with
  | replied reply' r => cases hsilent
  | _ => exact Bool.false_ne_true

/-! ## What becomes of the request of a turn -/

namespace Supervisor

variable {W D : Type}

/-- A turn answers its request, hands it on, or has none. -/
inductive Disposed (cmd : EngineCommand) (e e' : Supervisor D) : Prop
  | answered (reply : ReplyId) (r : Reply) (before : List Effect)
      (hcmd : cmd.asks = some (reply, r.kind)) (hworkers : e'.workers = e.workers)
      (hlog : e'.log = e.log ++ (before ++ [.replied reply r]))
      (hbefore : ∀ x ∈ before, x.isAnswer = false)
  | pushed (id : String) (op : WorkerOp) (handle : DeviceHandle)
      (hcmd : cmd.forwarded = some (id, op))
      (hpresent : e.registry.devices[id]? = some handle)
      (hopen : e.closed handle.tx = false)
      (hroom : e.queued handle.tx < WORKER_CHANNEL_CAPACITY)
      (heq : e' = e.push handle.tx op)
  | silent (effects : List Effect) (hcmd : cmd.asks = none)
      (hworkers : e'.workers = e.workers ∨
        ∃ id driver, e'.workers = e.workers ++ [Worker.spawn id driver])
      (hlog : e'.log = e.log ++ effects) (hsilent : ∀ x ∈ effects, x.isAnswer = false)

/-- A turn that only answers. -/
theorem disposed_of_answer {cmd : EngineCommand} {e : Supervisor D} {reply : ReplyId} {r : Reply}
    (hcmd : cmd.asks = some (reply, r.kind)) : Disposed cmd e (e.emit [.replied reply r]) :=
  .answered reply r [] hcmd rfl rfl (by simp)

theorem dispatch_disposed {cmd : EngineCommand} {device_id : String}
    (check : DeviceTopology → Option DaemonError) {op : WorkerOp} (e : Supervisor D)
    (hcmd : cmd.forwarded = some (device_id, op)) :
    Disposed cmd e (e.dispatch device_id check op) := by
  have hrefused : ∀ err, cmd.asks = some (op.reply, (op.refusal err).kind) := by
    intro err
    rw [refusal_kind, asks_of_forwarded hcmd]
  unfold dispatch
  split
  · exact disposed_of_answer (hrefused _)
  · rename_i handle hpresent
    split
    · exact disposed_of_answer (hrefused _)
    · by_cases hclosed : e.closed handle.tx = true
      · rw [try_send, if_pos hclosed]
        exact .answered op.reply _ [.detached device_id handle.tx] (hrefused _) rfl
          (List.append_assoc _ _ _) (by simp [Effect.isAnswer])
      · by_cases hroom : e.queued handle.tx < WORKER_CHANNEL_CAPACITY
        · rw [try_send, if_neg hclosed, if_pos hroom]
          exact .pushed device_id op handle hcmd hpresent (Bool.not_eq_true _ ▸ hclosed) hroom rfl
        · rw [try_send, if_neg hclosed, if_neg hroom]
          exact disposed_of_answer (hrefused _)

variable [KeyboardDriver D]

theorem device_connected_disposed (table : DriverTable W D) (turn : Turn) (world : W) (id : String)
    (vendor_id product_id : UInt16) (path : String) (e : Supervisor D) :
    Disposed (.deviceConnected id vendor_id product_id path) e
      (e.device_connected table turn world id vendor_id product_id path) := by
  have hcancelled : Disposed (.deviceConnected id vendor_id product_id path) e (e.cancel id) :=
    .silent [] rfl (.inl rfl) (List.append_nil _).symm (by simp)
  unfold device_connected
  by_cases hmem : (e.cancel id).registry.devices.contains id = true
  · rw [if_pos hmem]
    exact hcancelled
  · rw [if_neg hmem]
    unfold connect
    split
    · exact hcancelled
    · split
      · rename_i topology driver _
        exact .silent _ rfl (.inr ⟨id, driver, rfl⟩) rfl (by simp [Effect.isAnswer])
      · split
        · exact .silent [.started id e.tasks.length] rfl (.inl rfl) rfl (by simp [Effect.isAnswer])
        · exact hcancelled

/-- What becomes of the request of a turn. -/
theorem handle_command_disposed (table : DriverTable W D) (turn : Turn) (world : W)
    (envelope : Envelope) (e : Supervisor D) :
    Disposed envelope.cmd e (e.handle_command table turn world envelope) := by
  obtain ⟨sender, cmd⟩ := envelope
  cases cmd with
  | deviceConnected id vendor_id product_id path =>
      exact device_connected_disposed table turn world id vendor_id product_id path e
  | deviceDisconnected id =>
      change Disposed _ e (e.device_disconnected id)
      unfold device_disconnected
      dsimp only
      split
      · rename_i handle _
        exact .silent [.detached id handle.tx, .lifecycle (.deviceRemoved id)] rfl (.inl rfl)
          (List.append_assoc _ _ _) (by simp [Effect.isAnswer])
      · exact .silent [] rfl (.inl rfl) (List.append_nil _).symm (by simp)
  | deviceError id err =>
      change Disposed _ e (e.device_error turn id err)
      unfold device_error
      split
      · rename_i handle _
        by_cases herr : err = .driver .disconnected
        · rw [if_pos herr]
          exact .silent [.detached id handle.tx, .lifecycle (.deviceRemoved id),
            .started id e.tasks.length] rfl (.inl rfl)
            ((List.append_assoc _ _ _).trans (List.append_assoc _ _ _)) (by simp [Effect.isAnswer])
        · rw [if_neg herr]
          exact .silent [.detached id handle.tx, .lifecycle (.deviceRemoved id)] rfl (.inl rfl)
            (List.append_assoc _ _ _) (by simp [Effect.isAnswer])
      · exact .silent [] rfl (.inl rfl) (List.append_nil _).symm (by simp)
  | deviceReattached id handle token =>
      change Disposed _ e (e.device_reattached sender id handle token)
      have hignored : Disposed (.deviceReattached id handle token) e e :=
        .silent [] rfl (.inl rfl) (List.append_nil _).symm (by simp)
      unfold device_reattached
      split
      · split
        · exact .silent [.accepted id sender, .attached id handle.tx, .lifecycle (.deviceAdded id)]
            rfl (.inl rfl) (List.append_assoc _ _ _) (by simp [Effect.isAnswer])
        · exact hignored
      · exact hignored
  | listDevices reply => exact disposed_of_answer rfl
  | getDeviceInfo id reply => exact disposed_of_answer rfl
  | getDeviceIdentity id reply => exact disposed_of_answer rfl
  | shutdown => exact .silent [] rfl (.inl rfl) (List.append_nil _).symm (by simp)
  | getKeycode id layer row col reply =>
      exact dispatch_disposed (bounded id layer row col) e rfl
  | setKeycode id layer row col keycode reply =>
      exact dispatch_disposed (bounded id layer row col) e rfl
  | commitToNvram id reply => exact dispatch_disposed unchecked e rfl
  | getMacro id offset length reply => exact dispatch_disposed unchecked e rfl
  | setMacro id offset data reply => exact dispatch_disposed unchecked e rfl
  | getLighting id channel value_id reply => exact dispatch_disposed unchecked e rfl
  | setLighting id channel value_id data reply => exact dispatch_disposed unchecked e rfl

end Supervisor

/-! ## Requests with a worker -/

/-- Whether the worker is on this request. -/
def WorkerPhase.serves (reply : ReplyId) : WorkerPhase → Bool
  | .running (.op op) => op.reply == reply
  | _ => false

namespace Worker

variable {D : Type}

/-- How often a worker has this request, queued or in hand. -/
def owed (reply : ReplyId) (x : Worker D) : Nat :=
  x.rx.countP (fun op => op.reply == reply) + if x.phase.serves reply then 1 else 0

/-- The requests a move of a worker drops with its receiver. -/
def drops (reply : ReplyId) (x : Worker D) : WorkerMove → Nat
  | .exit => x.owed reply
  | .panic => x.owed reply
  | _ => 0

@[simp] theorem owed_leave (reply : ReplyId) (x : Worker D) : x.leave.owed reply = 0 := rfl

@[simp] theorem owed_spawn (reply : ReplyId) (id : String) (driver : D) :
    (spawn id driver).owed reply = 0 := rfl

/-- The final commit is under way, and nothing is queued any more. -/
def Deaf (x : Worker D) : Prop := x.phase = .running .final → x.rx = []

/-- A move of a worker, for the requests it has: what it had, it still has or it
answered. -/
def Accounts (reply : ReplyId) (x : Worker D) (r : Worker D × List Effect) : Prop :=
  r.1.owed reply + r.2.countP (Effect.answers reply) = x.owed reply

theorem recv_accounts {w : WorkerId} {senders : Bool} {x : Worker D} {r : Worker D × List Effect}
    (reply : ReplyId) (h : recv w senders x = some r) : Accounts reply x r := by
  obtain ⟨hidle, ⟨op, rest, hrx, rfl⟩ | ⟨hrx, -, -, rfl⟩ | ⟨hrx, -, -, rfl⟩⟩ := recv_cases h
  · simp [Accounts, Worker.owed, start, hidle, hrx, WorkerPhase.serves, List.countP_cons,
      Effect.answers]
  · simp [Accounts, Worker.owed, start, hidle, hrx, WorkerPhase.serves, Effect.answers]
  · simp [Accounts, Worker.owed, leave, hidle, hrx, WorkerPhase.serves]

theorem debounce_accounts {w : WorkerId} {senders : Bool} {now : Nat} {x : Worker D}
    {r : Worker D × List Effect} (reply : ReplyId) (h : debounce w senders now x = some r) :
    Accounts reply x r := by
  obtain ⟨hidle, -, rfl⟩ := debounce_cases h
  simp [Accounts, Worker.owed, start, hidle, WorkerPhase.serves, Effect.answers]

variable [KeyboardDriver D]

theorem finish_accounts {w : WorkerId} {turn : Turn} {x : Worker D} {r : Worker D × List Effect}
    (reply : ReplyId) (hdeaf : x.Deaf) (h : finish w turn x = some r) : Accounts reply x r := by
  obtain ⟨op, hphase, rfl⟩ | ⟨hphase, rfl⟩ | ⟨hphase, rfl⟩ := finish_cases h
  · obtain ⟨deadline, hmoved, hannounced⟩ := aftermath_cases turn op (call turn x.driver op).ok
      (after (call turn x.driver op) x)
    have hsilent : (aftermath turn op (call turn x.driver op).ok
        (after (call turn x.driver op) x)).2.countP (Effect.answers reply) = 0 := by
      refine countP_answers_of_silent reply ?_
      intro y hy
      rw [hannounced y hy]
      rfl
    have hphase' : (after (call turn x.driver op) x).phase.serves reply = false := by
      simp only [after]
      split <;> rfl
    have howed : (aftermath turn op (call turn x.driver op).ok
        (after (call turn x.driver op) x)).1.owed reply =
          x.rx.countP fun op => op.reply == reply := by
      rw [hmoved]
      show x.rx.countP _ + (if (after (call turn x.driver op) x).phase.serves reply = true
        then 1 else 0) = _
      rw [hphase']
      rfl
    show (aftermath turn op _ _).1.owed reply + (Effect.called w (.op op) _ ::
      Effect.replied op.reply _ :: (aftermath turn op _ _).2).countP (Effect.answers reply) = _
    rw [howed, List.countP_cons, List.countP_cons, hsilent]
    simp [Worker.owed, hphase, WorkerPhase.serves, Effect.answers]
  · have hphase' : (after (commit turn x.driver) x).phase.serves reply = false := by
      simp only [after]
      split <;> rfl
    have hsilent : (finishDebounced w turn x).2.countP (Effect.answers reply) = 0 := by
      refine countP_answers_of_silent reply ?_
      simp only [finishDebounced]
      split <;> simp [announce, Effect.isAnswer]
    show (finishDebounced w turn x).1.owed reply + _ = _
    rw [hsilent]
    show x.rx.countP _ + (if (after (commit turn x.driver) x).phase.serves reply = true
      then 1 else 0) = _
    rw [hphase']
    simp [Worker.owed, hphase, WorkerPhase.serves]
  · simp [Accounts, finishFinal, Worker.owed, leave, hphase, hdeaf hphase, WorkerPhase.serves,
      Effect.answers]

end Worker

/-! ## Requests in the system -/

/-- The new requests a move brings. -/
def Label.issues {W : Type} (reply : ReplyId) : Label W → Nat
  | .enqueue cmd => if cmd.replyTo = some reply then 1 else 0
  | _ => 0

namespace Supervisor

variable {D : Type}

/-- How often a request is with a worker or answered. -/
def taken (reply : ReplyId) (e : Supervisor D) : Nat :=
  (e.workers.map (Worker.owed reply)).sum + e.log.countP (Effect.answers reply)

/-- A turn takes on its request and no other. -/
theorem Disposed.taken {cmd : EngineCommand} {e e' : Supervisor D} (h : Disposed cmd e e')
    (reply : ReplyId) :
    e'.taken reply = e.taken reply + if cmd.replyTo = some reply then 1 else 0 := by
  cases h with
  | answered reply' r before hcmd hworkers hlog hbefore =>
      have hreply : cmd.replyTo = some reply' := by rw [asks_reply, hcmd]; rfl
      rw [Supervisor.taken, hworkers, hlog, List.countP_append, List.countP_append,
        countP_answers_of_silent reply hbefore, hreply, Supervisor.taken]
      by_cases hsame : reply' = reply
      · simp [hsame, Effect.answers]
        omega
      · simp [hsame, Effect.answers]
  | pushed id op handle hcmd hpresent hopen hroom heq =>
      have hreply : cmd.replyTo = some op.reply := forwarded_reply hcmd
      obtain ⟨x, hx⟩ : ∃ x, e.workers[handle.tx]? = some x := by
        unfold Supervisor.closed at hopen
        split at hopen
        · rename_i x hx
          exact ⟨x, hx⟩
        · cases hopen
      have hset := sum_map_set (Worker.owed reply) hx { x with rx := x.rx ++ [op] }
      have howed : ({ x with rx := x.rx ++ [op] } : Worker D).owed reply =
          x.owed reply + if op.reply = reply then 1 else 0 := by
        simp only [Worker.owed, List.countP_append, List.countP_singleton, beq_iff_eq]
        omega
      have hworkers : e'.workers = e.workers.set handle.tx { x with rx := x.rx ++ [op] } := by
        rw [heq]
        exact Sys.push_workers hx op
      have hlog : e'.log = e.log := by rw [heq]; rfl
      rw [howed] at hset
      rw [Supervisor.taken, Supervisor.taken, hworkers, hlog, hreply]
      simp only [Option.some.injEq]
      omega
  | silent effects hcmd hworkers hlog hsilent =>
      have hreply : cmd.replyTo = none := by rw [asks_reply, hcmd]; rfl
      rw [Supervisor.taken, Supervisor.taken, hlog, List.countP_append,
        countP_answers_of_silent reply hsilent, hreply]
      rcases hworkers with hworkers | ⟨id, driver, hworkers⟩
      · rw [hworkers]
        rfl
      · rw [hworkers, sum_map_snoc, Worker.owed_spawn]
        rfl

end Supervisor

namespace Sys

section Senders

variable {W D : Type} [KeyboardDriver D] [BackgroundTasks D] {table : DriverTable W D}
  {s s' : Sys D} {l : Label W} {w : WorkerId}

omit [KeyboardDriver D] [BackgroundTasks D] in
/-- Who can send on a channel has a handle of its worker. -/
theorem senderAlive_handed : s.senderAlive w = true ↔ ∃ handle, s.Handed handle ∧ handle.tx = w := by
  rw [senderAlive_iff]
  constructor
  · rintro (⟨id, handle, hpresent, htx⟩ | ⟨envelope, hmem, hcarries⟩ | ⟨t, hmem, hholds⟩)
    · exact ⟨handle, .inl ⟨id, hpresent⟩, htx⟩
    · obtain ⟨id, handle, token, hcmd, htx⟩ := carries_eq_some hcarries
      exact ⟨handle, .inr (.inl ⟨envelope, hmem, id, token, hcmd⟩), htx⟩
    · obtain ⟨handle, hphase, htx⟩ := holds_eq_some hholds
      exact ⟨handle, .inr (.inr ⟨t, hmem, hphase⟩), htx⟩
  · rintro ⟨handle, ⟨id, hpresent⟩ | ⟨envelope, hmem, id, token, hcmd⟩ | ⟨t, hmem, hphase⟩, rfl⟩
    · exact .inl ⟨id, handle, hpresent, rfl⟩
    · exact .inr (.inl ⟨envelope, hmem, by rw [hcmd]; rfl⟩)
    · exact .inr (.inr ⟨t, hmem, by rw [ReconnectTask.holds, hphase]⟩)

/-- A handle after a step was there before, or is that of a worker just spawned. -/
theorem handed_or_spawned (hstep : s.step table l = some s') {handle : DeviceHandle}
    (h : s'.Handed handle) : s.Handed handle ∨ handle.tx = s.sup.workers.length := by
  cases step_progressed hstep with
  | turned envelope rest hturned hsupplied hreply =>
      cases hsupplied with
      | kept effects hworkers hlog hquiet hrefused hdevices =>
          exact .inl (handed_turned hturned h fun id hid => hdevices id handle hid)
      | pushed id op handle' hcmd hpresent hadmitted hopen heq =>
          refine .inl (handed_turned hturned h fun id hid => .inl ?_)
          rw [heq] at hid
          exact hid
      | spawned id driver topology handle' hcmd hprobe hworkers hdevices htx htopology hlog =>
          by_cases hnew : handle = handle'
          · rw [hnew]
            exact .inr htx
          · refine .inl (handed_turned hturned h fun id' hid => .inl ?_)
            rw [hdevices, lookup_insert] at hid
            split at hid
            · cases hid
              exact absurd rfl hnew
            · exact hid
  | stopped envelope rest hstops hworkers hreply =>
      rcases h with ⟨id, hid⟩ | ⟨message, hmem, id, token, hcmd⟩ | ⟨t, hmem, hphase⟩
      · rw [hstops.registry] at hid
        simp at hid
      · rw [hstops.queue'] at hmem
        exact .inl (.inr (.inl ⟨message, by rw [hstops.queue]; exact List.mem_cons_of_mem _ hmem,
          id, token, hcmd⟩))
      · rw [hstops.tasks] at hmem
        exact .inl (.inr (.inr ⟨t, hmem, hphase⟩))
  | returned hreturns hworkers hreply =>
      rcases h with ⟨id, hid⟩ | ⟨message, hmem, id, token, hcmd⟩ | ⟨t, hmem, hphase⟩
      · rw [hreturns.registry] at hid
        simp at hid
      · rw [hreturns.queue'] at hmem
        cases hmem
      · rw [hreturns.tasks] at hmem
        exact .inl (.inr (.inr ⟨t, hmem, hphase⟩))
  | entered envelope hsup hstatus hqueue hreply hfresh hplain =>
      exact .inl (handed_of_message (by rw [hsup]) (by rw [hsup]) (.inr ⟨envelope, hqueue, hplain⟩) h)
  | worker v x r hx hprogress hdriven hsup hstatus hreply hqueue =>
      refine .inl (handed_of_message (by rw [hsup]; rfl) (by rw [hsup]; rfl) ?_ h)
      exact hqueue.imp_right fun hsent => hsent.imp fun _ hboth => ⟨hboth.1, hboth.2.2⟩
  | idled hworkers hregistry hlog hstatus hreply hqueue hhanded => exact .inl (hhanded handle h)
  | opened id driver topology handle' hprobe hworkers hregistry hlog hstatus hreply hqueue htx
      htopology hhanded =>
      rcases hhanded handle h with hold | rfl
      · exact .inl hold
      · exact .inr htx

/-- A channel that lost its last sender gets no new one. -/
theorem senderAlive_step (hstep : s.step table l = some s') (hlt : w < s.sup.workers.length)
    (hdead : s.senderAlive w = false) : s'.senderAlive w = false := by
  rw [Bool.eq_false_iff] at hdead ⊢
  intro halive
  obtain ⟨handle, hhanded, htx⟩ := senderAlive_handed.1 halive
  rcases handed_or_spawned hstep hhanded with hold | hnew
  · exact hdead (senderAlive_handed.2 ⟨handle, hold, htx⟩)
  · exact Nat.ne_of_lt hlt (htx.symm.trans hnew)

/-- Nothing is queued for a worker that is gone, or that nobody can send to. -/
theorem rx_step (hstep : s.step table l = some s') {x x' : Worker D}
    (hx : s.sup.workers[w]? = some x) (hx' : s'.sup.workers[w]? = some x') :
    x'.rx.Sublist x.rx ∨ (s.senderAlive w = true ∧ x.phase ≠ .gone) := by
  -- Where the workers are the same but for new ones, so is the queue.
  have hlt : w < s.sup.workers.length := (List.getElem?_eq_some_iff.1 hx).1
  have hsame : s'.sup.workers = s.sup.workers →
      x'.rx.Sublist x.rx ∨ (s.senderAlive w = true ∧ x.phase ≠ .gone) := by
    intro hworkers
    rw [hworkers, hx] at hx'
    cases hx'
    exact .inl (List.Sublist.refl _)
  have hmore : ∀ y, s'.sup.workers = s.sup.workers ++ [y] →
      x'.rx.Sublist x.rx ∨ (s.senderAlive w = true ∧ x.phase ≠ .gone) := by
    intro y hworkers
    rw [hworkers, List.getElem?_append_left hlt, hx] at hx'
    cases hx'
    exact .inl (List.Sublist.refl _)
  cases step_progressed hstep with
  | turned envelope rest hturned hsupplied hreply =>
      cases hsupplied with
      | kept effects hworkers hlog hquiet hrefused hdevices => exact hsame hworkers
      | pushed id op handle hcmd hpresent hadmitted hopen heq =>
          by_cases hw : handle.tx = w
          · refine .inr ⟨senderAlive_handed.2 ⟨handle, .inl ⟨id, hpresent⟩, hw⟩, ?_⟩
            intro hgone
            have hclosed : s.sup.closed w = true := by
              rw [Supervisor.closed, hx]
              exact decide_eq_true hgone
            rw [hw] at hopen
            change s.sup.closed w = false at hopen
            rw [hclosed] at hopen
            cases hopen
          · have hworkers : s'.sup.workers[w]? = s.sup.workers[w]? := by
              rw [heq]
              show (s.sup.workers.modify handle.tx _)[w]? = _
              rw [List.getElem?_modify]
              simp [hw]
            rw [hworkers, hx] at hx'
            cases hx'
            exact .inl (List.Sublist.refl _)
      | spawned id driver topology handle hcmd hprobe hworkers hdevices htx htopology hlog =>
          exact hmore _ hworkers
  | stopped envelope rest hstops hworkers hreply => exact hsame hworkers
  | returned hreturns hworkers hreply => exact hsame hworkers
  | entered envelope hsup hstatus hqueue hreply hfresh hplain => exact hsame (by rw [hsup])
  | worker v y r hy hprogress hdriven hsup hstatus hreply hqueue =>
      have hworkers : s'.sup.workers = s.sup.workers.set v r.1 := by rw [hsup]; rfl
      by_cases hv : v = w
      · subst hv
        rw [hx] at hy
        cases hy
        rw [hworkers, List.getElem?_set_self hlt] at hx'
        cases hx'
        left
        cases hprogress with
        | took op rest hrx hrx' hlog =>
            rw [hrx', hrx]
            exact List.sublist_cons_self op rest
        | other hrx hinert =>
            rcases hrx with hrx | hrx
            · rw [hrx]
            · rw [hrx]
              exact List.nil_sublist _
      · rw [hworkers, List.getElem?_set_ne hv, hx] at hx'
        cases hx'
        exact .inl (List.Sublist.refl _)
  | idled hworkers hregistry hlog hstatus hreply hqueue hhanded => exact hsame hworkers
  | opened id driver topology handle hprobe hworkers hregistry hlog hstatus hreply hqueue htx
      htopology hhanded => exact hmore _ hworkers

/-- Every worker on its final commit has an empty queue nobody can send on. -/
def Deaf (s : Sys D) : Prop :=
  ∀ (w : WorkerId) (x : Worker D), s.sup.workers[w]? = some x → x.phase = .running .final →
    x.rx = [] ∧ s.senderAlive w = false

omit [KeyboardDriver D] [BackgroundTasks D] in
theorem deaf_start : (start : Sys D).Deaf := by
  intro w x hx
  cases hx

theorem deaf_step (h : s.Deaf) (hstep : s.step table l = some s') : s'.Deaf := by
  intro w x' hx' hfinal
  -- It was so before, or it is so from this step on.
  have hkept : ∀ x : Worker D, s.sup.workers[w]? = some x → x.phase = .running .final →
      x'.rx = [] ∧ s'.senderAlive w = false := by
    intro x hx hphase
    obtain ⟨hrx, hdead⟩ := h w x hx hphase
    refine ⟨?_, senderAlive_step hstep (List.getElem?_eq_some_iff.1 hx).1 hdead⟩
    rcases rx_step hstep hx hx' with hsub | ⟨halive, -⟩
    · rw [hrx] at hsub
      exact List.sublist_nil.1 hsub
    · rw [hdead] at halive
      cases halive
  cases at_step hstep w with
  | absent before after log =>
      rw [hx'] at after
      cases after
  | spawned id driver before after opened log =>
      rw [hx'] at after
      cases after
      cases hfinal
  | kept x rx before after log =>
      rw [hx'] at after
      cases after
      exact hkept x before hfinal
  | woke x driver order wakeup label before wake after log =>
      rw [hx'] at after
      cases after
      exact hkept x before hfinal
  | moved x m r label before move after log =>
      rw [hx'] at after
      cases after
      cases m with
      | recv =>
          obtain ⟨-, ⟨op, rest, -, rfl⟩ | ⟨hrx, hsenders, -, rfl⟩ | ⟨-, -, -, rfl⟩⟩ :=
            Worker.recv_cases move
          · cases hfinal
          · exact ⟨hrx, senderAlive_step hstep (List.getElem?_eq_some_iff.1 before).1 hsenders⟩
          · cases hfinal
      | debounce =>
          obtain ⟨-, -, rfl⟩ := Worker.debounce_cases move
          cases hfinal
      | finish order =>
          obtain ⟨op, -, rfl⟩ | ⟨-, rfl⟩ | ⟨-, rfl⟩ := Worker.finish_cases move
          · rw [Worker.finishOp_phase] at hfinal
            split at hfinal <;> cases hfinal
          · simp only [Worker.finishDebounced, Worker.after] at hfinal
            split at hfinal <;> cases hfinal
          · cases hfinal
      | report =>
          obtain ⟨y, hy, rfl⟩ := Option.map_eq_some_iff.1 move
          obtain ⟨-, rfl⟩ := Worker.reportDone_cases hy
          cases hfinal
      | exit =>
          obtain ⟨y, hy, rfl⟩ := Option.map_eq_some_iff.1 move
          obtain ⟨-, rfl⟩ := Worker.exitTask_cases hy
          cases hfinal
      | panic =>
          obtain ⟨y, hy, rfl⟩ := Option.map_eq_some_iff.1 move
          obtain ⟨-, rfl⟩ := Worker.panicked_cases hy
          cases hfinal

end Senders

/-! ## The balance of a run -/

section Balance

variable {W D : Type}

/-- How often a request waits on the engine channel. -/
def waits (reply : ReplyId) (s : Sys D) : Nat :=
  s.queue.countP fun envelope => envelope.cmd.replyTo == some reply

/-- How often a request is somewhere between its arrival and its answer. -/
def outstanding (reply : ReplyId) (s : Sys D) : Nat :=
  s.waits reply + (s.sup.workers.map (Worker.owed reply)).sum

/-- How often a request was answered. -/
def answered (reply : ReplyId) (s : Sys D) : Nat := s.sup.log.countP (Effect.answers reply)

/-- How often a step drops the request with the receiver it is on. -/
def drops (reply : ReplyId) (s : Sys D) : Label W → Nat
  | .superviseReturn => s.waits reply
  | .worker w move => s.sup.workers[w]?.elim 0 fun x => x.drops reply move
  | _ => 0

/-- What a step does to one request. -/
def Accounts (reply : ReplyId) (s s' : Sys D) (dropped issued : Nat) : Prop :=
  s'.outstanding reply + s'.answered reply + dropped =
    s.outstanding reply + s.answered reply + issued

theorem accounts_iff {reply : ReplyId} {s s' : Sys D} {dropped issued : Nat} :
    Accounts reply s s' dropped issued ↔
      s'.waits reply + s'.sup.taken reply + dropped =
        s.waits reply + s.sup.taken reply + issued := by
  unfold Accounts outstanding answered Supervisor.taken
  omega

theorem waits_snoc {reply : ReplyId} {s s' : Sys D} {envelope : Envelope}
    (h : s'.queue = s.queue ++ [envelope]) :
    s'.waits reply = s.waits reply + if envelope.cmd.replyTo = some reply then 1 else 0 := by
  rw [waits, h, List.countP_append, List.countP_singleton, waits]
  simp only [beq_iff_eq]

theorem waits_cons {reply : ReplyId} {s s' : Sys D} {envelope : Envelope}
    (h : s.queue = envelope :: s'.queue) :
    s.waits reply = s'.waits reply + if envelope.cmd.replyTo = some reply then 1 else 0 := by
  rw [waits, h, List.countP_cons, waits]
  simp only [beq_iff_eq]

/-- A message of the engine's own is no request. -/
theorem sendOrDrop_waits {s s' : Sys D} {envelope : Envelope} (reply : ReplyId)
    (hnone : envelope.cmd.replyTo = none) (h : s.sendOrDrop envelope = some s') :
    s'.waits reply = s.waits reply := by
  obtain ⟨-, -, -, hqueue | hqueue⟩ := sendOrDrop_cases h
  · rw [waits, hqueue, waits]
  · rw [waits_snoc hqueue, hnone]
    rfl

/-- A worker is replaced, and something is recorded. -/
theorem taken_setWorker {s : Sys D} {w : WorkerId} {x : Worker D} {r : Worker D × List Effect}
    (hx : s.sup.workers[w]? = some x) (reply : ReplyId) :
    (s.setWorker w r).sup.taken reply + x.owed reply =
      s.sup.taken reply + r.1.owed reply + r.2.countP (Effect.answers reply) := by
  have hset := sum_map_set (Worker.owed reply) hx r.1
  show ((s.sup.workers.set w r.1).map (Worker.owed reply)).sum +
    (s.sup.log ++ r.2).countP (Effect.answers reply) + _ = _
  rw [List.countP_append, Supervisor.taken]
  omega

variable [KeyboardDriver D]

theorem workerStep_accounts {s s' : Sys D} {w : WorkerId} {x : Worker D} {move : WorkerMove}
    (hdeaf : s.Deaf) (hx : s.sup.workers[w]? = some x) (h : s.workerStep w x move = some s')
    (reply : ReplyId) : Accounts reply s s' (x.drops reply move) 0 := by
  -- What a worker has, it still has or it answered: the other moves drop what they had.
  have hmoved : ∀ {r : Worker D × List Effect}, x.Accounts reply r →
      Accounts reply s (s.setWorker w r) 0 0 := by
    intro r hr
    have htaken := taken_setWorker (r := r) hx reply
    rw [Worker.Accounts] at hr
    rw [accounts_iff]
    show s.waits reply + _ + 0 = _
    omega
  have hleft : Accounts reply s (s.setWorker w (x.leave, [])) (x.owed reply) 0 := by
    have htaken := taken_setWorker (r := (x.leave, [])) hx reply
    rw [accounts_iff]
    show s.waits reply + _ + x.owed reply = _
    rw [Worker.owed_leave, List.countP_nil] at htaken
    omega
  cases move with
  | recv =>
      obtain ⟨r, hr, rfl⟩ := Option.map_eq_some_iff.1 h
      exact hmoved (Worker.recv_accounts reply hr)
  | debounce =>
      obtain ⟨r, hr, rfl⟩ := Option.map_eq_some_iff.1 h
      exact hmoved (Worker.debounce_accounts reply hr)
  | finish order =>
      obtain ⟨r, hr, rfl⟩ := Option.map_eq_some_iff.1 h
      exact hmoved (Worker.finish_accounts reply (fun hfinal => (hdeaf w x hx hfinal).1) hr)
  | report =>
      obtain ⟨x', hx', hsend⟩ := Option.bind_eq_some_iff.1 h
      obtain ⟨hphase, rfl⟩ := Worker.reportDone_cases hx'
      have hreported : Accounts reply s (s.setWorker w ({ x with phase := .reported }, [])) 0 0 := by
        refine hmoved ?_
        simp [Worker.Accounts, Worker.owed, hphase, WorkerPhase.serves]
      have hwaits : s'.waits reply = (s.setWorker w ({ x with phase := .reported }, [])).waits reply :=
        sendOrDrop_waits reply rfl hsend
      obtain ⟨hsup, -⟩ := sendOrDrop_cases hsend
      rw [accounts_iff] at hreported ⊢
      rw [hsup, hwaits]
      exact hreported
  | exit =>
      obtain ⟨x', hx', rfl⟩ := Option.map_eq_some_iff.1 h
      obtain ⟨-, rfl⟩ := Worker.exitTask_cases hx'
      exact hleft
  | panic =>
      obtain ⟨x', hx', rfl⟩ := Option.map_eq_some_iff.1 h
      obtain ⟨-, rfl⟩ := Worker.panicked_cases hx'
      exact hleft

variable [BackgroundTasks D]

/-- The balance of one step. -/
theorem step_accounts {table : DriverTable W D} {s s' : Sys D} {l : Label W} (hdeaf : s.Deaf)
    (hstep : s.step table l = some s') (reply : ReplyId) :
    Accounts reply s s' (s.drops reply l) (l.issues reply) := by
  cases l with
  | tick ms =>
      cases hstep
      rfl
  | enqueue cmd =>
      rw [step, enqueue] at hstep
      split at hstep
      · cases hstep
      · rename_i origin _
        split at hstep
        · rw [send] at hstep
          split at hstep
          · cases hstep
            rw [accounts_iff]
            dsimp only [drops, Label.issues]
            rw [@waits_snoc _ reply s _ ⟨origin, cmd⟩ rfl]
            show s.waits reply + (if cmd.replyTo = some reply then 1 else 0) + s.sup.taken reply +
              0 = s.waits reply + s.sup.taken reply + _
            omega
          · cases hstep
        · cases hstep
  | supervise order world =>
      rw [accounts_iff]
      dsimp only [drops, Label.issues]
      obtain ⟨envelope, rest, hturned | hstops⟩ := supervise_cases (s := s) hstep
      · have hdisposed : Supervisor.Disposed envelope.cmd (s.sup.emit [.handled envelope])
            s'.sup := by
          rw [step, supervise, hturned.running, hturned.queue] at hstep
          dsimp only at hstep
          split at hstep
          · cases hstep
            cases hturned.status'
          · cases hstep
            exact Supervisor.handle_command_disposed table _ world envelope _
        have htaken := hdisposed.taken reply
        have hemit : (s.sup.emit [.handled envelope]).taken reply = s.sup.taken reply := by
          show _ + (s.sup.log ++ [_]).countP _ = _
          rw [List.countP_append]
          rfl
        have hqueue : s.queue = envelope :: s'.queue := by rw [hturned.queue, hturned.queue']
        rw [hemit] at htaken
        rw [htaken, waits_cons hqueue]
        omega
      · have hqueue : s.queue = envelope :: s'.queue := by rw [hstops.queue, hstops.queue']
        have hworkers : s'.sup.workers = s.sup.workers := by
          rw [step, supervise, hstops.running, hstops.queue] at hstep
          dsimp only at hstep
          rw [if_pos hstops.cmd] at hstep
          cases hstep
          rfl
        have htaken : s'.sup.taken reply = s.sup.taken reply := by
          rw [Supervisor.taken, hworkers, hstops.log, List.countP_append]
          rfl
        rw [htaken, waits_cons hqueue, hstops.cmd]
        rfl
  | superviseReturn =>
      rw [step, superviseReturn] at hstep
      split at hstep
      · cases hstep
        rw [accounts_iff]
        show 0 + s.sup.taken reply + s.waits reply = _
        dsimp only [Label.issues]
        omega
      · cases hstep
  | worker w move =>
      obtain ⟨x, hx, hmove⟩ := Option.bind_eq_some_iff.1 hstep
      have haccounts := workerStep_accounts hdeaf hx hmove reply
      rw [drops, hx]
      exact haccounts
  | background w order wakeup =>
      obtain ⟨x, hx, hwake⟩ := Option.bind_eq_some_iff.1 hstep
      obtain ⟨driver, hdriver, rfl⟩ := Option.map_eq_some_iff.1 hwake
      have htaken := taken_setWorker (r := ({ x with driver := driver }, [.woke w wakeup])) hx reply
      have howed : ({ x with driver := driver } : Worker D).owed reply = x.owed reply := rfl
      rw [howed] at htaken
      rw [accounts_iff]
      show s.waits reply + _ + 0 = s.waits reply + s.sup.taken reply + 0
      simp only [List.countP_cons, List.countP_nil, Effect.answers, Bool.false_eq_true,
        if_false] at htaken
      omega
  | task k move =>
      obtain ⟨t, ht, hmove⟩ := Option.bind_eq_some_iff.1 hstep
      rw [accounts_iff]
      dsimp only [drops, Label.issues]
      cases move with
      | cancel =>
          rw [taskStep] at hmove
          split at hmove
          · split at hmove
            · cases hmove
              rfl
            · cases hmove
          · cases hmove
      | attempt order world =>
          rw [taskStep] at hmove
          split at hmove
          · split at hmove
            · cases hmove
              have htaken : (s.sup.attempt table ⟨s.now, order⟩ world k t).taken reply =
                  s.sup.taken reply := by
                unfold Supervisor.attempt
                dsimp only
                split
                · rfl
                · split
                  · show ((s.sup.workers ++ [_]).map _).sum + _ = _
                    rw [sum_map_snoc, Worker.owed_spawn]
                    rfl
                  · rfl
              show s.waits reply + _ + 0 = _
              rw [htaken]
            · cases hmove
          · cases hmove
      | send =>
          rw [taskStep] at hmove
          split at hmove
          · obtain ⟨hsup, -⟩ := sendOrDrop_cases hmove
            rw [hsup, sendOrDrop_waits reply rfl hmove]
            rfl
          · cases hmove

/-- The new requests of a schedule. -/
def issued (reply : ReplyId) (ls : List (Label W)) : Nat := (ls.map (Label.issues reply)).sum

/-- The requests a run drops with their receivers. -/
def dropped (table : DriverTable W D) (reply : ReplyId) (s : Sys D) (ls : List (Label W)) : Nat :=
  tally (step table) (drops reply) s ls

omit [KeyboardDriver D] [BackgroundTasks D] in
theorem issued_cons (reply : ReplyId) (l : Label W) (ls : List (Label W)) :
    issued reply (l :: ls) = l.issues reply + issued reply ls := by
  rw [issued, List.map_cons, List.sum_cons, issued]

/-- A request comes in on the channel whose turn it is. -/
theorem issues_step {table : DriverTable W D} {s s' : Sys D} {l : Label W}
    (hstep : s.step table l = some s') (reply : ReplyId) :
    l.issues reply = 0 ∨
      (l.issues reply = 1 ∧ reply = s.next_reply ∧ s'.next_reply = s.next_reply + 1) := by
  cases l with
  | enqueue cmd =>
      by_cases hcmd : cmd.replyTo = some reply
      · right
        rw [step, enqueue] at hstep
        split at hstep
        · cases hstep
        · split at hstep
          · rename_i hfresh
            rw [send] at hstep
            split at hstep
            · cases hstep
              rw [hcmd] at hfresh
              exact ⟨if_pos hcmd, of_decide_eq_true hfresh, rfl⟩
            · cases hstep
          · cases hstep
      · exact .inl (if_neg hcmd)
  | _ => exact .inl rfl

/-- Every reply channel serves one request at most. -/
theorem issued_le_one {table : DriverTable W D} {ls : List (Label W)} {s s' : Sys D}
    (hrun : run (step table) s ls = some s') (reply : ReplyId) :
    issued reply ls ≤ 1 ∧ (reply < s.next_reply → issued reply ls = 0) := by
  induction ls generalizing s with
  | nil => exact ⟨Nat.zero_le _, fun _ => rfl⟩
  | cons l ls ih =>
      obtain ⟨m, hm, hrest⟩ := run_cons_some.1 hrun
      obtain ⟨hle, hpast⟩ := ih hrest
      have hmono : s.next_reply ≤ m.next_reply := by
        rw [step_next_reply hm]
        exact Nat.le_add_right _ _
      rw [issued_cons]
      rcases issues_step hm reply with hnone | ⟨hone, hreply, hnext⟩
      · rw [hnone, Nat.zero_add]
        exact ⟨hle, fun hlt => hpast (Nat.lt_of_lt_of_le hlt hmono)⟩
      · subst hreply
        rw [hone, hpast (by rw [hnext]; exact Nat.lt_succ_self _)]
        exact ⟨Nat.le_refl _, fun hlt => absurd hlt (Nat.lt_irrefl _)⟩

/-- Over every run, what came in is what is outstanding, answered or dropped. -/
theorem balanced {table : DriverTable W D} {ls : List (Label W)} {s : Sys D}
    (hrun : run (step table) start ls = some s) (reply : ReplyId) :
    s.outstanding reply + s.answered reply + dropped table reply start ls = issued reply ls := by
  have hone : ∀ (s : Sys D) (l : Label W) (s' : Sys D), s.Deaf → s.step table l = some s' →
      s'.outstanding reply + s'.answered reply + s.drops reply l =
        s.outstanding reply + s.answered reply + l.issues reply :=
    fun _ _ _ hdeaf hstep => step_accounts hdeaf hstep reply
  have hbalance := tally_balances (fun s : Sys D => s.outstanding reply + s.answered reply)
    (fun _ l => l.issues reply) (drops reply) (fun _ _ _ => deaf_step) hone deaf_start hrun
  rw [tally_of_label hrun] at hbalance
  show _ = (ls.map (Label.issues reply)).sum
  rw [dropped, hbalance]
  show 0 + 0 + _ = _
  omega

/-- **Every request is accounted for.**  In every run, a request that came in is
outstanding, answered, or dropped with the receiver it was on, and one of these only. -/
theorem requests_accounted (table : DriverTable W D) {ls : List (Label W)} {s : Sys D}
    (hrun : run (step table) start ls = some s) (reply : ReplyId) :
    s.outstanding reply + s.answered reply + dropped table reply start ls = issued reply ls ∧
      issued reply ls ≤ 1 :=
  ⟨balanced hrun reply, (issued_le_one hrun reply).1⟩

end Balance

/-- A worker panics over the request it has in hand. -/
def droppedRun : List (Label (Except DaemonError MockDriver)) :=
  [.enqueue (.deviceConnected "dev1" 0x05AC 0x024F "/dev/hidraw7"),
    .supervise HashOrder.sorted (.ok (mockDriver [])), .enqueue (.getKeycode "dev1" 0 1 1 1),
    .supervise HashOrder.sorted (.ok (mockDriver [])), .worker 0 .recv, .worker 0 .panic]

/-- Its request is neither outstanding nor answered, so it is among those dropped. -/
theorem requests_accounted_dropped : ∃ s : Sys MockDriver,
    run (step mockTable) start droppedRun = some s ∧ s.outstanding 1 = 0 ∧ s.answered 1 = 0 ∧
      dropped mockTable 1 start droppedRun = 1 := by
  have hrun : (run (step mockTable) start droppedRun).map
      (fun s => (s.outstanding 1, s.answered 1)) = some (0, 0) := by
    decide +kernel
  obtain ⟨s, hs, heq⟩ := Option.map_eq_some_iff.1 hrun
  obtain ⟨houtstanding, hanswered⟩ := Prod.mk.inj heq
  refine ⟨s, hs, houtstanding, hanswered, ?_⟩
  have hbalance := (requests_accounted mockTable hs 1).1
  rw [houtstanding, hanswered, Nat.zero_add] at hbalance
  exact hbalance

end Sys

end Clackd.Engine
