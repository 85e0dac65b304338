import Clackd.Engine.View

/-!
# Turns as updates of one device

A turn of the supervisor on a command is some updates of the command's device, and
a turn of a reconnect task some updates of the task's.

## Main results

* `turn_updates`: the turn, for every command but `Shutdown`.
* `attempt_updates`: a turn of a reconnect task.
-/

namespace Clackd.Engine

open Clackd.Foundation Clackd.Hal

namespace Supervisor

variable {W D : Type} {owner : ReplyId → Option String} {f : Supervisor D} {id : Option String}
  {e e' e'' : Supervisor D}

variable (owner) in
/-- What is known of a message on the engine channel. -/
structure Vouched (e : Supervisor D) (envelope : Envelope) : Prop where
  live : envelope.cmd ≠ .shutdown
  reply : ∀ reply, envelope.cmd.replyTo = some reply → owner reply = envelope.cmd.device
  reattached : ∀ (id : String) (handle : DeviceHandle) (token : UInt64),
    envelope.cmd = .deviceReattached id handle token →
      e.Serves handle.tx id ∧ ∃ k, e.Tries k id ∧ token = UInt64.ofNat k

theorem Vouched.mono {envelope : Envelope} (h : Vouched owner e envelope) (hext : Extends e e') :
    Vouched owner e' envelope where
  live := h.live
  reply := h.reply
  reattached := by
    intro id handle token hcmd
    obtain ⟨hserves, k, htries, htoken⟩ := h.reattached id handle token hcmd
    exact ⟨hserves.mono hext, k, htries.mono hext, htoken⟩

theorem vouched_deviceError (w : WorkerId) (id : String) (err : DaemonError) (e : Supervisor D) :
    Vouched owner e ⟨.worker w, .deviceError id err⟩ where
  live := fun h => by cases h
  reply := fun reply h => by cases h
  reattached := fun id handle token h => by cases h

theorem vouched_deviceReattached {k : TaskId} {id : String} {handle : DeviceHandle}
    (hserves : e.Serves handle.tx id) (htries : e.Tries k id) :
    Vouched owner e ⟨.task k, .deviceReattached id handle (UInt64.ofNat k)⟩ where
  live := fun h => by cases h
  reply := fun reply h => by cases h
  reattached := by
    intro id' handle' token h
    cases h
    exact ⟨hserves, k, htries, rfl⟩

theorem Updates.nil (e : Supervisor D) : Updates owner f id e e := Relation.ReflTransGen.refl

theorem Update.once (h : Update owner f e id e') : Updates owner f id e e' :=
  Relation.ReflTransGen.single h

theorem Updates.snoc (h : Updates owner f id e e') (h' : Update owner f e' id e'') :
    Updates owner f id e e'' := Relation.ReflTransGen.tail h h'

/-! ## The handlers -/

theorem updates_reply_with_error {id : String} {op : WorkerOp} (hop : owner op.reply = some id)
    (err : DaemonError) (e : Supervisor D) :
    Update owner f e (some id) (e.reply_with_error op err) := by
  apply Update.emit
  intro x hx
  rw [List.mem_singleton.1 hx]
  exact hop

theorem updates_dispatch (hr : e.Rooted) {id : String} (check : DeviceTopology → Option DaemonError)
    (op : WorkerOp) (hop : owner op.reply = some id) :
    Updates owner f (some id) e (e.dispatch id check op) := by
  unfold dispatch
  split
  · exact (updates_reply_with_error hop _ e).once
  · rename_i handle hhandle
    split
    · exact (updates_reply_with_error hop _ e).once
    · unfold try_send
      by_cases hclosed : e.closed handle.tx = true
      · rw [if_pos hclosed]
        exact (Update.detach id handle).once.snoc (updates_reply_with_error hop _ _)
      · rw [if_neg hclosed]
        by_cases hroom : e.queued handle.tx < WORKER_CHANNEL_CAPACITY
        · rw [if_pos hroom]
          obtain ⟨x, hx, rfl⟩ := hr.device id handle hhandle
          show Updates owner f _ e (e.push handle.tx op)
          rw [push_of_serves hx]
          refine (Update.setWorker handle.tx x { x with rx := x.rx ++ [op] } hx rfl ?_).once
          -- The operation is queued after those that were.
          intro howned
          refine ⟨?_, howned.running⟩
          intro op' hop'
          rcases List.mem_append.1 hop' with hold | hnew
          · exact howned.queued op' hold
          · rw [List.mem_singleton.1 hnew]
            exact hop
        · rw [if_neg hroom]
          exact (updates_reply_with_error hop _ e).once

theorem updates_lifecycle (event : LifecycleEvent) (e : Supervisor D) :
    Update owner f e (some event.device) (e.emit [.lifecycle event]) := by
  apply Update.emit
  intro x hx
  rw [List.mem_singleton.1 hx]
  rfl

theorem updates_device_disconnected (id : String) (e : Supervisor D) :
    Updates owner f (some id) e (e.device_disconnected id) := by
  have hcancel : Updates owner f (some id) e (e.cancel id) := (Update.cancel id).once
  unfold device_disconnected
  dsimp only
  split
  · rename_i handle _
    exact (hcancel.snoc (.detach id handle)).snoc (updates_lifecycle (.deviceRemoved id) _)
  · exact hcancel

theorem updates_device_error (turn : Turn) (id : String) (err : DaemonError) (e : Supervisor D) :
    Updates owner f (some id) e (e.device_error turn id err) := by
  unfold device_error
  split
  · rename_i handle _
    have hlost : Updates owner f (some id) e
        ((e.detach id handle).emit [.lifecycle (.deviceRemoved id)]) :=
      (Update.detach id handle).once.snoc (updates_lifecycle (.deviceRemoved id) _)
    dsimp only
    split
    · exact hlost.snoc
        (.start turn ⟨id, handle.vendor_id, handle.product_id, handle.hidraw_path, 0⟩)
    · exact hlost
  · exact Updates.nil e

theorem updates_device_reattached (sender : Origin) {id : String} {handle : DeviceHandle}
    (hserves : e.Serves handle.tx id) (token : UInt64) :
    Updates owner f (some id) e (e.device_reattached sender id handle token) := by
  unfold device_reattached
  split
  · split
    · have hcancel : Updates owner f (some id) e (e.cancel id) := (Update.cancel id).once
      have haccepted : Updates owner f (some id) e
          ((e.cancel id).emit [.accepted id sender]) := by
        refine hcancel.snoc (.emit _ ?_)
        intro x hx
        rw [List.mem_singleton.1 hx]
        rfl
      exact haccepted.snoc (.attach id handle (hserves.mono haccepted.extends))
    · exact Updates.nil e
  · exact Updates.nil e

theorem updates_answer {cmd : EngineCommand} {reply : ReplyId} (r : Reply)
    (hreply : owner reply = cmd.device) (e : Supervisor D) :
    Updates owner f cmd.device e (e.emit [.replied reply r]) := by
  refine (Update.emit _ ?_).once
  intro x hx
  rw [List.mem_singleton.1 hx]
  exact hreply

variable [KeyboardDriver D]

/-- The worker that is spawned next serves its device. -/
theorem serves_spawned (id : String) (topology : DeviceTopology) (driver : D)
    (vendor_id product_id : UInt16) (path : String) (e : Supervisor D) :
    (e.spawnWorker id driver).Serves
      (e.handleOf topology driver vendor_id product_id path).tx id :=
  ⟨Worker.spawn id driver, List.getElem?_concat_length, rfl⟩

theorem updates_device_connected (table : DriverTable W D) (turn : Turn) (world : W) (id : String)
    (vendor_id product_id : UInt16) (path : String) (e : Supervisor D) :
    Updates owner f (some id) e
      (e.device_connected table turn world id vendor_id product_id path) := by
  have hcancel : Updates owner f (some id) e (e.cancel id) := (Update.cancel id).once
  unfold device_connected
  dsimp only
  split
  · exact hcancel
  · unfold connect
    split
    · exact hcancel
    · split
      · exact (hcancel.snoc (.spawnWorker id _)).snoc
          (.attach id _ (serves_spawned id _ _ vendor_id product_id path (e.cancel id)))
      · split
        · exact hcancel.snoc (.start turn ⟨id, vendor_id, product_id, path, 0⟩)
        · exact hcancel

section Attempt

variable {table : DriverTable W D} {turn : Turn} {world : W} {k : TaskId} {t : ReconnectTask}
  {factory : DriverFactory W D}

/-- The task at the head of its next turn. -/
def nextAttempt (t : ReconnectTask) : ReconnectTask := { t with attempts := t.attempts + 1 }

theorem attempt_unknown (hfactory : table.factory t.ctx.vendor_id t.ctx.product_id = none) :
    e.attempt table turn world k t = e.setTask k (nextAttempt t).abandon := by
  simp only [attempt, hfactory]
  rfl

theorem attempt_opened {r : DeviceTopology × D}
    (hfactory : table.factory t.ctx.vendor_id t.ctx.product_id = some factory)
    (hopen : openDevice turn world factory t.ctx.hidraw_path = .ok r) :
    e.attempt table turn world k t = e.reattach k (nextAttempt t) r.1 r.2 := by
  simp only [attempt, hfactory, hopen]
  rfl

theorem attempt_failed {err : DaemonError}
    (hfactory : table.factory t.ctx.vendor_id t.ctx.product_id = some factory)
    (hopen : openDevice turn world factory t.ctx.hidraw_path = .error err) :
    e.attempt table turn world k t =
      e.setTask k (if is_transient_attach_error err then (nextAttempt t).retry turn.now
        else (nextAttempt t).abandon) := by
  simp only [attempt, hfactory, hopen]
  rfl

theorem retry_not_sending (now : Nat) (t : ReconnectTask) (handle : DeviceHandle) :
    (t.retry now).phase ≠ .sending handle := by
  rw [ReconnectTask.retry]
  dsimp only
  split <;> nofun

theorem abandon_not_sending (t : ReconnectTask) (handle : DeviceHandle) :
    t.abandon.phase ≠ .sending handle := by
  rw [ReconnectTask.abandon]
  nofun

/-- A turn of a reconnect task is some updates of its device. -/
theorem attempt_updates (ht : e.tasks[k]? = some t) :
    Updates owner f (some t.ctx.device_id) e (e.attempt table turn world k t) := by
  -- A task that returns or sleeps on sends no handle.
  have hquiet : ∀ t' : ReconnectTask, t'.ctx = t.ctx → (∀ handle, t'.phase ≠ .sending handle) →
      Updates owner f (some t.ctx.device_id) e (e.setTask k t') := by
    intro t' hctx hphase
    exact (Update.setTask k t t' ht hctx fun handle h => absurd h (hphase handle)).once
  cases hfactory : table.factory t.ctx.vendor_id t.ctx.product_id with
  | none =>
      rw [attempt_unknown hfactory]
      exact hquiet _ rfl (abandon_not_sending _)
  | some factory =>
      cases hopen : openDevice turn world factory t.ctx.hidraw_path with
      | ok r =>
          rw [attempt_opened hfactory hopen]
          have hspawn : Updates owner f (some t.ctx.device_id) e
              (e.spawnWorker t.ctx.device_id r.2) := (Update.spawnWorker _ r.2).once
          refine hspawn.snoc (.setTask k t _ ht ?_ ?_)
          · split <;> rfl
          · intro handle hphase
            split at hphase
            · cases hphase
            · cases hphase
              exact serves_spawned _ _ _ _ _ _ e
      | error err =>
          rw [attempt_failed hfactory hopen]
          split
          · exact hquiet _ rfl (retry_not_sending _ _)
          · exact hquiet _ rfl (abandon_not_sending _)

end Attempt

/-- A turn is some updates of the command's device. -/
theorem turn_updates (table : DriverTable W D) (turn : Turn) (world : W) {envelope : Envelope}
    (hr : e.Rooted) (hv : Vouched owner e envelope) :
    Updates owner f envelope.cmd.device e (e.handle_command table turn world envelope) := by
  obtain ⟨sender, cmd⟩ := envelope
  cases cmd with
  | getKeycode id layer row col reply =>
      exact updates_dispatch hr _ (.getKeycode layer row col reply) (hv.reply reply rfl)
  | setKeycode id layer row col keycode reply =>
      exact updates_dispatch hr _ (.setKeycode layer row col keycode reply) (hv.reply reply rfl)
  | commitToNvram id reply =>
      exact updates_dispatch hr unchecked (.commit reply) (hv.reply reply rfl)
  | getMacro id offset length reply =>
      exact updates_dispatch hr unchecked (.getMacro offset length reply) (hv.reply reply rfl)
  | setMacro id offset data reply =>
      exact updates_dispatch hr unchecked (.setMacro offset data reply) (hv.reply reply rfl)
  | getLighting id channel value_id reply =>
      exact updates_dispatch hr unchecked (.getLighting channel value_id reply) (hv.reply reply rfl)
  | setLighting id channel value_id data reply =>
      exact updates_dispatch hr unchecked (.setLighting channel value_id data reply)
        (hv.reply reply rfl)
  | deviceConnected id vendor_id product_id path =>
      exact updates_device_connected table turn world id vendor_id product_id path e
  | deviceDisconnected id => exact updates_device_disconnected id e
  | deviceError id err => exact updates_device_error turn id err e
  | deviceReattached id handle token =>
      exact updates_device_reattached sender (hv.reattached id handle token rfl).1 token
  | listDevices reply => exact updates_answer _ (hv.reply reply rfl) e
  | getDeviceInfo id reply => exact updates_answer _ (hv.reply reply rfl) e
  | getDeviceIdentity id reply => exact updates_answer _ (hv.reply reply rfl) e
  | shutdown => exact absurd rfl hv.live

end Supervisor

end Clackd.Engine
