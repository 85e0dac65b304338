import Clackd.Engine.Part
import Clackd.Foundation.Projection

/-!
# The engine of one device

The part of a device in the engine: its share of the engine channel, its workers and
tasks, and what the supervisor holds for it.  Every step of the engine concerns one
device at most, and a step that concerns another device leaves the part alone.

## Main results

* `step_moved`: a step is some updates of the device it concerns.
* `part_step`: a step of the device is a step of its part.
-/

namespace Clackd.Engine

open Clackd.Foundation Clackd.Hal

/-! ## Moves of a worker -/

namespace Worker

variable {D : Type} {owner : ReplyId → Option String} {f : Supervisor D}

variable (owner f) in
/-- What every move of a worker keeps, with respect to its device. -/
structure Kept (x : Worker D) (r : Worker D × List Effect) : Prop where
  device_id : r.1.device_id = x.device_id
  owned : r.1.Owned owner
  about : ∀ y ∈ r.2, f.about owner y = some x.device_id

theorem owned_leave (x : Worker D) : x.leave.Owned owner :=
  ⟨fun _ h => absurd h List.not_mem_nil, nofun⟩

section Moves

variable {w : WorkerId} {x : Worker D} {r : Worker D × List Effect} (hx : x.Owned owner)
  (hw : f.served w = some x.device_id)
include hx hw

theorem start_kept (job : Job) {y : Worker D} (hdevice : y.device_id = x.device_id)
    (hrx : ∀ op ∈ y.rx, op ∈ x.rx) (hjob : ∀ op, job = .op op → op ∈ x.rx) :
    Kept owner f x (start w job y) where
  device_id := hdevice
  owned := by
    refine ⟨?_, ?_⟩
    · intro op hop
      show owner op.reply = some y.device_id
      rw [hdevice]
      exact hx.queued op (hrx op hop)
    · intro op hop
      injection hop with hop
      show owner op.reply = some y.device_id
      rw [hdevice]
      exact hx.queued op (hjob op hop)
  about := by
    intro e he
    rw [List.mem_singleton.1 he]
    exact hw

theorem recv_kept {senders : Bool} (h : recv w senders x = some r) : Kept owner f x r := by
  obtain ⟨-, hcases⟩ := recv_cases h
  rcases hcases with ⟨op, rest, hrx, rfl⟩ | ⟨-, -, -, rfl⟩ | ⟨-, -, -, rfl⟩
  · refine start_kept hx hw _ rfl ?_ ?_
    · intro op' hop'
      rw [hrx]
      exact List.mem_cons_of_mem _ hop'
    · intro op' hop'
      cases hop'
      rw [hrx]
      exact List.mem_cons_self
  · exact start_kept hx hw _ rfl (fun _ h => h) nofun
  · exact ⟨rfl, owned_leave x, fun _ h => absurd h List.not_mem_nil⟩

theorem debounce_kept {senders : Bool} {now : Nat} (h : debounce w senders now x = some r) :
    Kept owner f x r := by
  obtain ⟨-, -, rfl⟩ := debounce_cases h
  exact start_kept hx hw _ rfl (fun _ h => h) nofun

theorem finish_kept [KeyboardDriver D] {turn : Turn} (h : finish w turn x = some r) :
    Kept owner f x r := by
  -- After a driver call no operation is running.
  have hafter : ∀ o : Outcome D, (after o x).Owned owner := by
    intro o
    refine ⟨hx.queued, ?_⟩
    intro op hop
    simp only [after] at hop
    split at hop <;> cases hop
  rcases finish_cases h with ⟨op, hphase, rfl⟩ | ⟨-, rfl⟩ | ⟨-, rfl⟩
  · obtain ⟨deadline, hmoved, hannounced⟩ := aftermath_cases turn op (call turn x.driver op).ok
      (after (call turn x.driver op) x)
    have howned := hafter (call turn x.driver op)
    refine ⟨(congrArg Worker.device_id hmoved :), ?_, ?_⟩
    · show (aftermath turn op _ _).1.Owned owner
      rw [hmoved]
      exact ⟨howned.queued, howned.running⟩
    · intro e he
      rcases List.mem_cons.1 he with rfl | he
      · exact hw
      rcases List.mem_cons.1 he with rfl | he
      · exact hx.running op hphase
      rw [hannounced e he]
      rfl
  · refine ⟨rfl, hafter _, ?_⟩
    intro e he
    rcases List.mem_cons.1 he with rfl | he
    · exact hw
    split at he
    · rw [List.mem_singleton.1 he]
      rfl
    · exact absurd he List.not_mem_nil
  · refine ⟨rfl, owned_leave _, ?_⟩
    intro e he
    rw [List.mem_singleton.1 he]
    exact hw

end Moves

/-! ## Moves under another number -/

section Renamed

variable (n : Names) (w : WorkerId) (x : Worker D)

/-- What a move emits, in other numbers. -/
def renamed (r : Worker D × List Effect) : Worker D × List Effect := (r.1, r.2.map n.effect)

theorem recv_renamed (senders : Bool) :
    recv (n.worker w) senders x = (recv w senders x).map (renamed n) := by
  unfold recv
  split
  · split
    · rfl
    · split
      · rfl
      · split <;> rfl
  · rfl

theorem debounce_renamed (senders : Bool) (now : Nat) :
    debounce (n.worker w) senders now x = (debounce w senders now x).map (renamed n) := by
  unfold debounce
  split <;> rfl

theorem finish_renamed [KeyboardDriver D] (turn : Turn) :
    finish (n.worker w) turn x = (finish w turn x).map (renamed n) := by
  unfold finish
  split
  · rename_i op _
    -- What follows the reply announces the layout at most, which has no number.
    obtain ⟨deadline, -, hannounced⟩ := aftermath_cases turn op (call turn x.driver op).ok
      (after (call turn x.driver op) x)
    have hmap : (aftermath turn op (call turn x.driver op).ok
        (after (call turn x.driver op) x)).2.map n.effect = (aftermath turn op
          (call turn x.driver op).ok (after (call turn x.driver op) x)).2 := by
      rw [List.map_congr_left, List.map_id]
      intro e he
      rw [hannounced e he]
      rfl
    simp only [finishOp, Option.map_some, renamed, List.map_cons, hmap]
    rfl
  · simp only [finishDebounced, Option.map_some, renamed, List.map_cons]
    split <;> rfl
  · rfl
  · rfl

end Renamed

end Worker

/-! ## The part of the system -/

/-- A step, in other numbers. -/
def Names.label {W : Type} (n : Names) : Label W → Label W
  | .worker w move => .worker (n.worker w) move
  | .background w order wakeup => .background (n.worker w) order wakeup
  | .task k move => .task (n.task k) move
  | l => l

namespace Sys

variable {W D : Type}

/-- One step, if the reply channels are whatever the clients choose. -/
def advance [KeyboardDriver D] [BackgroundTasks D] (table : DriverTable W D) (s : Sys D) :
    Label W → Option (Sys D)
  | .enqueue cmd => cmd.sender.bind fun origin => s.send ⟨origin, cmd⟩
  | l => s.step table l

/-- The device a step concerns. -/
def concerned (s : Sys D) : Label W → Option String
  | .enqueue cmd => cmd.device
  | .supervise _ _ => s.queue.head?.bind fun envelope => envelope.cmd.device
  | .worker w _ => s.sup.served w
  | .background w _ _ => s.sup.served w
  | .task k _ => s.sup.tried k
  | .tick _ => none
  | .superviseReturn => none

/-- Whether a step is one of a device's part: it concerns the device, or time
passes. -/
def keeps (b : String) (s : Sys D) : Label W → Bool
  | .tick _ => true
  | l => s.concerned l = some b

section Part

variable (owner : ReplyId → Option String) (b : String) (f : Supervisor D)

/-- The messages about the device. -/
def messages (queue : List Envelope) : List Envelope :=
  (queue.filter fun envelope => envelope.cmd.device = some b).map (f.names b).envelope

/-- The part of a device.  Its clients choose the reply channels. -/
def part (s : Sys D) : Sys D where
  now := s.now
  queue := messages b f s.queue
  status := s.status
  sup := f.part owner b s.sup
  next_reply := 0

variable {b f}

theorem messages_append (queue more : List Envelope) :
    messages b f (queue ++ more) = messages b f queue ++ messages b f more := by
  rw [messages, List.filter_append, List.map_append]
  rfl

theorem messages_cons (envelope : Envelope) (rest : List Envelope) :
    messages b f (envelope :: rest) =
      if envelope.cmd.device = some b then (f.names b).envelope envelope :: messages b f rest
      else messages b f rest := by
  rw [messages, List.filter_cons]
  by_cases h : envelope.cmd.device = some b
  · simp [h, messages]
  · simp [h, messages]

theorem messages_length_le (queue : List Envelope) :
    (messages b f queue).length ≤ queue.length := by
  rw [messages, List.length_map]
  exact List.length_filter_le _ _

end Part

/-! ## Steps as updates of one device -/

section Moved

variable {owner : ReplyId → Option String} {f : Supervisor D} {b : String} {s s' : Sys D}

variable (owner) in
/-- What holds of every state of a run without `Shutdown`. -/
structure Filed (s : Sys D) : Prop where
  running : s.status = .running
  rooted : s.sup.Rooted
  owned : s.sup.Owned owner
  vouched : ∀ envelope ∈ s.queue, Supervisor.Vouched owner s.sup envelope

variable (owner f) in
/-- A step that concerns a device, or none. -/
structure Moved (id : Option String) (s s' : Sys D) : Prop where
  now : s'.now = s.now
  status : s'.status = s.status
  updates : Supervisor.Updates owner f id s.sup s'.sup
  queue : s'.queue = s.queue ∨
    (∃ envelope, s'.queue = s.queue ++ [envelope] ∧ envelope.cmd.device = id ∧
      Supervisor.Vouched owner s'.sup envelope) ∨
        ∃ envelope, s.queue = envelope :: s'.queue ∧ envelope.cmd.device = id

theorem Filed.of_moved {id : Option String} (h : s.Filed owner) (hmoved : Moved owner f id s s')
    (hbound : s'.sup.tasks.length < 2 ^ 64) : s'.Filed owner where
  running := hmoved.status.trans h.running
  rooted := hmoved.updates.rooted h.rooted hbound
  owned := hmoved.updates.owned h.owned
  vouched := by
    have hold : ∀ envelope ∈ s.queue, Supervisor.Vouched owner s'.sup envelope := by
      intro envelope hmem
      exact (h.vouched envelope hmem).mono hmoved.updates.extends
    intro envelope hmem
    rcases hmoved.queue with hsame | ⟨new, hnew, -, hvouched⟩ | ⟨head, hhead, -⟩
    · rw [hsame] at hmem
      exact hold envelope hmem
    · rw [hnew] at hmem
      rcases List.mem_append.1 hmem with hmem | hmem
      · exact hold envelope hmem
      · rw [List.mem_singleton.1 hmem]
        exact hvouched
    · apply hold
      rw [hhead]
      exact List.mem_cons_of_mem _ hmem

/-- A step that does not concern the device leaves its part alone. -/
theorem part_of_moved {id : Option String} (h : s.Filed owner) (hmoved : Moved owner f id s s')
    (hid : id ≠ some b) : part owner b f s' = part owner b f s := by
  have hqueue : messages b f s'.queue = messages b f s.queue := by
    rcases hmoved.queue with hsame | ⟨new, hnew, hdevice, -⟩ | ⟨head, hhead, hdevice⟩
    · rw [hsame]
    · rw [hnew, messages_append, messages_cons, if_neg (by rw [hdevice]; exact hid)]
      exact List.append_nil _
    · rw [hhead, messages_cons, if_neg (by rw [hdevice]; exact hid)]
  rw [part, hqueue, hmoved.now, hmoved.status, hmoved.updates.part h.rooted hid]
  rfl

/-- A message is sent after a move. -/
theorem Moved.sent {id : Option String} {m : Sys D} {envelope : Envelope}
    (h : Moved owner f id s m) (hqueue : m.queue = s.queue)
    (hdevice : envelope.cmd.device = id) (hvouched : Supervisor.Vouched owner m.sup envelope)
    (hsend : m.send envelope = some s') : Moved owner f id s s' := by
  rw [send] at hsend
  split at hsend
  · cases hsend
    exact ⟨h.now, h.status, h.updates,
      .inr (.inl ⟨envelope, by rw [← hqueue], hdevice, hvouched⟩)⟩
  · cases hsend

theorem sendOrDrop_running {m : Sys D} {envelope : Envelope} (hrunning : m.status = .running) :
    m.sendOrDrop envelope = m.send envelope := by
  rw [sendOrDrop, hrunning]
  rfl

theorem setWorker_moved {w : WorkerId} {x : Worker D} {r : Worker D × List Effect}
    (hx : s.sup.workers[w]? = some x) (hkept : x.Kept owner f r) :
    Moved owner f (some x.device_id) s (s.setWorker w r) where
  now := rfl
  status := rfl
  updates := by
    have hset : Supervisor.Updates owner f (some x.device_id) s.sup
        { s.sup with workers := s.sup.workers.set w r.1 } :=
      (Supervisor.Update.setWorker w x r.1 hx hkept.device_id fun _ => hkept.owned).once
    exact hset.snoc (.emit r.2 hkept.about)
  queue := .inl rfl

theorem setTask_moved {k : TaskId} {t t' : ReconnectTask} (ht : s.sup.tasks[k]? = some t)
    (hctx : t'.ctx = t.ctx) (hphase : ∀ handle, t'.phase ≠ .sending handle) :
    Moved owner f (some t.ctx.device_id) s { s with sup := s.sup.setTask k t' } where
  now := rfl
  status := rfl
  updates := (Supervisor.Update.setTask k t t' ht hctx
    fun handle h => absurd h (hphase handle)).once
  queue := .inl rfl

section Steps

variable [KeyboardDriver D]

omit [KeyboardDriver D] in
/-- A worker of such a state, with what is known of it. -/
theorem Filed.worker (h : s.Filed owner) (hf : Supervisor.Extends s.sup f) {w : WorkerId}
    {x : Worker D} (hx : s.sup.workers[w]? = some x) :
    x.Owned owner ∧ f.served w = some x.device_id := by
  have hserves : s.sup.Serves w x.device_id := ⟨x, hx, rfl⟩
  exact ⟨h.owned w x hx, Supervisor.serves_iff.1 (hserves.mono hf)⟩

theorem workerStep_moved (h : s.Filed owner) (hf : Supervisor.Extends s.sup f) {w : WorkerId}
    {x : Worker D} (hx : s.sup.workers[w]? = some x) {move : WorkerMove}
    (hstep : s.workerStep w x move = some s') : Moved owner f (some x.device_id) s s' := by
  obtain ⟨howned, hserved⟩ := h.worker hf hx
  cases move with
  | recv =>
      obtain ⟨r, hr, rfl⟩ := Option.map_eq_some_iff.1 hstep
      exact setWorker_moved hx (Worker.recv_kept howned hserved hr)
  | debounce =>
      obtain ⟨r, hr, rfl⟩ := Option.map_eq_some_iff.1 hstep
      exact setWorker_moved hx (Worker.debounce_kept howned hserved hr)
  | finish order =>
      obtain ⟨r, hr, rfl⟩ := Option.map_eq_some_iff.1 hstep
      exact setWorker_moved hx (Worker.finish_kept howned hserved hr)
  | report =>
      obtain ⟨x', hx', hsend⟩ := Option.bind_eq_some_iff.1 hstep
      obtain ⟨-, rfl⟩ := Worker.reportDone_cases hx'
      have hkept : x.Kept owner f ({ x with phase := .reported }, []) :=
        ⟨rfl, ⟨howned.queued, nofun⟩, fun _ h => absurd h List.not_mem_nil⟩
      rw [sendOrDrop_running (show (s.setWorker w _).status = _ from h.running)] at hsend
      exact (setWorker_moved hx hkept).sent rfl rfl
        (Supervisor.vouched_deviceError w x.device_id _ _) hsend
  | exit =>
      obtain ⟨x', hx', rfl⟩ := Option.map_eq_some_iff.1 hstep
      obtain ⟨-, rfl⟩ := Worker.exitTask_cases hx'
      exact setWorker_moved hx ⟨rfl, Worker.owned_leave x, fun _ h => absurd h List.not_mem_nil⟩
  | panic =>
      obtain ⟨x', hx', rfl⟩ := Option.map_eq_some_iff.1 hstep
      obtain ⟨-, rfl⟩ := Worker.panicked_cases hx'
      exact setWorker_moved hx ⟨rfl, Worker.owned_leave x, fun _ h => absurd h List.not_mem_nil⟩

theorem taskStep_moved (h : s.Filed owner) {table : DriverTable W D} {k : TaskId}
    {t : ReconnectTask} (ht : s.sup.tasks[k]? = some t) {move : TaskMove W}
    (hstep : s.taskStep table k t move = some s') : Moved owner f (some t.ctx.device_id) s s' := by
  have habandon : Moved owner f (some t.ctx.device_id) s
      { s with sup := s.sup.setTask k t.abandon } :=
    setTask_moved ht rfl (Supervisor.abandon_not_sending t)
  cases move with
  | cancel =>
      rw [taskStep] at hstep
      split at hstep
      · split at hstep
        · cases hstep
          exact habandon
        · cases hstep
      · cases hstep
  | attempt order world =>
      rw [taskStep] at hstep
      split at hstep
      · split at hstep
        · cases hstep
          exact ⟨rfl, rfl, Supervisor.attempt_updates ht, .inl rfl⟩
        · cases hstep
      · cases hstep
  | send =>
      rw [taskStep] at hstep
      split at hstep
      · rename_i handle hphase
        rw [sendOrDrop_running (habandon.status.trans h.running)] at hstep
        rw [h.rooted.token k t ht] at hstep
        have hextends := habandon.updates.extends
        have htries : s.sup.Tries k t.ctx.device_id := ⟨t, ht, rfl⟩
        have hserves := h.rooted.sending k t handle ht hphase
        exact habandon.sent rfl rfl (Supervisor.vouched_deviceReattached (hserves.mono hextends)
          (htries.mono hextends)) hstep
      · cases hstep

variable [BackgroundTasks D]

/-- A step is some updates of the device it concerns, with a message about it. -/
theorem step_moved {table : DriverTable W D} {l : Label W} (h : s.Filed owner)
    (hf : Supervisor.Extends s.sup f) (hl : ∀ ms, l ≠ .tick ms)
    (hcmd : ∀ cmd, l = .enqueue cmd → cmd ≠ .shutdown ∧ owner s.next_reply = cmd.device)
    (hstep : s.step table l = some s') : Moved owner f (s.concerned l) s s' := by
  cases l with
  | tick ms => exact absurd rfl (hl ms)
  | enqueue cmd =>
      obtain ⟨hlive, howner⟩ := hcmd cmd rfl
      rw [step, enqueue] at hstep
      split at hstep
      · cases hstep
      · rename_i origin horigin
        split at hstep
        · rename_i hfresh
          have hnumbered : Moved owner f cmd.device s { s with next_reply := s.next_reply + 1 } :=
            ⟨rfl, rfl, Supervisor.Updates.nil s.sup, .inl rfl⟩
          refine hnumbered.sent rfl rfl ⟨hlive, ?_, ?_⟩ hstep
          · intro reply hreply
            have heq : reply = s.next_reply := by simpa [hreply] using hfresh
            rw [heq]
            exact howner
          · intro id handle token hreattached
            change cmd = _ at hreattached
            rw [hreattached] at horigin
            cases horigin
        · cases hstep
  | supervise order world =>
      rw [step, supervise] at hstep
      split at hstep
      · rename_i envelope rest _ hqueue
        have hvouched := h.vouched envelope (by rw [hqueue]; exact List.mem_cons_self)
        have hemit : Supervisor.Updates owner f envelope.cmd.device s.sup
            (s.sup.emit [.handled envelope]) := by
          refine (Supervisor.Update.emit _ ?_).once
          intro x hx
          rw [List.mem_singleton.1 hx]
          rfl
        have hturn : Supervisor.Updates owner f envelope.cmd.device _ _ :=
          Supervisor.turn_updates table ⟨s.now, order⟩ world
            (Supervisor.rooted_emit h.rooted [.handled envelope]) (hvouched.mono hemit.extends)
        dsimp only at hstep
        rw [if_neg hvouched.live] at hstep
        cases hstep
        have hconcerned : s.concerned (.supervise order world : Label W) = envelope.cmd.device := by
          rw [concerned, hqueue]
          rfl
        rw [hconcerned]
        exact ⟨rfl, rfl, Relation.ReflTransGen.trans hemit hturn,
          .inr (.inr ⟨envelope, hqueue, rfl⟩)⟩
      · cases hstep
  | superviseReturn =>
      rw [step, superviseReturn, if_neg (by simp [h.running])] at hstep
      cases hstep
  | worker w move =>
      obtain ⟨x, hx, hmove⟩ := Option.bind_eq_some_iff.1 hstep
      have hconcerned : s.concerned (.worker w move : Label W) = some x.device_id := by
        rw [concerned, Supervisor.served, hx]
        rfl
      rw [hconcerned]
      exact workerStep_moved h hf hx hmove
  | background w order wakeup =>
      obtain ⟨x, hx, hwake⟩ := Option.bind_eq_some_iff.1 hstep
      obtain ⟨driver, -, rfl⟩ := Option.map_eq_some_iff.1 hwake
      have hconcerned : s.concerned (.background w order wakeup : Label W) = some x.device_id := by
        rw [concerned, Supervisor.served, hx]
        rfl
      obtain ⟨howned, hserved⟩ := h.worker hf hx
      rw [hconcerned]
      refine setWorker_moved hx ⟨rfl, ⟨howned.queued, howned.running⟩, ?_⟩
      intro y hy
      rw [List.mem_singleton.1 hy]
      exact hserved
  | task k move =>
      obtain ⟨t, ht, hmove⟩ := Option.bind_eq_some_iff.1 hstep
      have hconcerned : s.concerned (.task k move : Label W) = some t.ctx.device_id := by
        rw [concerned, Supervisor.tried, ht]
        rfl
      rw [hconcerned]
      exact taskStep_moved h ht hmove

end Steps

end Moved

end Sys

end Clackd.Engine
