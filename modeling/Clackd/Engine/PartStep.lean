import Clackd.Engine.Isolation

/-!
# Steps of the part of one device

The part of a device makes the steps of the engine that concern the device, in its
own numbers.  What a worker or a task reads of the rest of the engine it finds in the
part as well: whether anybody can still send to it, and whether it is cancelled.

## Main results

* `part_senderAlive`: the part knows who can send to a worker of the device.
* `part_step`: a step of the device is a step of its part.
-/

namespace Clackd.Engine

open Clackd.Foundation Clackd.Hal
open Std (ExtTreeMap)

namespace Sys

variable {W D : Type} {owner : ReplyId → Option String} {f : Supervisor D} {b : String}
  {s s' : Sys D}

/-! ## Senders -/

/-- A worker's channel has a sender in the registry, on the engine channel, or in a
task. -/
theorem senderAlive_iff {w : WorkerId} :
    s.senderAlive w = true ↔
      (∃ (id : String) (handle : DeviceHandle),
        s.sup.registry.devices[id]? = some handle ∧ handle.tx = w) ∨
        (∃ envelope ∈ s.queue, envelope.cmd.carries = some w) ∨
          ∃ t ∈ s.sup.tasks, t.holds = some w := by
  have hdevices : s.sup.registry.devices.toList.any (fun e => e.2.tx = w) = true ↔
      ∃ (id : String) (handle : DeviceHandle),
        s.sup.registry.devices[id]? = some handle ∧ handle.tx = w := by
    rw [List.any_eq_true]
    constructor
    · intro h
      obtain ⟨⟨id, handle⟩, hmem, htx⟩ := h
      exact ⟨id, handle, ExtTreeMap.mem_toList_iff_getElem?_eq_some.1 hmem, of_decide_eq_true htx⟩
    · intro h
      obtain ⟨id, handle, hlookup, htx⟩ := h
      exact ⟨(id, handle), ExtTreeMap.mem_toList_iff_getElem?_eq_some.2 hlookup,
        decide_eq_true htx⟩
  rw [senderAlive, Bool.or_eq_true, Bool.or_eq_true, hdevices, List.any_eq_true, List.any_eq_true,
    or_assoc]
  simp only [decide_eq_true_eq]

/-- A worker serves one device. -/
theorem serves_unique {e : Supervisor D} {w : WorkerId} {id id' : String} (h : e.Serves w id)
    (h' : e.Serves w id') : id = id' := by
  have hsome := (Supervisor.serves_iff.1 h).symm.trans (Supervisor.serves_iff.1 h')
  exact Option.some.inj hsome

theorem carries_eq_some {cmd : EngineCommand} {w : WorkerId} (h : cmd.carries = some w) :
    ∃ id handle token, cmd = .deviceReattached id handle token ∧ handle.tx = w := by
  cases cmd with
  | deviceReattached id handle token => exact ⟨id, handle, token, rfl, Option.some.inj h⟩
  | _ => cases h

theorem holds_eq_some {t : ReconnectTask} {w : WorkerId} (h : t.holds = some w) :
    ∃ handle, t.phase = .sending handle ∧ handle.tx = w := by
  rw [ReconnectTask.holds] at h
  split at h
  · rename_i handle hphase
    exact ⟨handle, hphase, Option.some.inj h⟩
  · cases h

/-- A worker of the device has a sender in the part when it has one in the whole. -/
theorem part_senderAlive (h : s.Filed owner) (hf : Supervisor.Extends s.sup f) {w : WorkerId}
    (hw : s.sup.Serves w b) :
    (part owner b f s).senderAlive ((f.names b).worker w) = s.senderAlive w := by
  -- A worker of the device has its number, and no other worker has.
  have hnumber : ∀ v : WorkerId, s.sup.Serves v b →
      ((f.names b).worker v = (f.names b).worker w ↔ v = w) := by
    intro v hv
    rw [Supervisor.names_worker hf (Nat.le_of_lt hv.lt),
      Supervisor.names_worker hf (Nat.le_of_lt hw.lt)]
    exact ⟨fun heq => Supervisor.names_worker_injective hv hw heq, fun heq => by rw [heq]⟩
  rw [Bool.eq_iff_iff, senderAlive_iff, senderAlive_iff]
  apply or_congr _ (or_congr _ _)
  · -- the registry
    constructor
    · intro hsender
      obtain ⟨id, handle, hlookup, htx⟩ := hsender
      by_cases hid : b = id
      · subst hid
        change (f.part owner b s.sup).registry.devices[b]? = _ at hlookup
        rw [Supervisor.part_device h.rooted hf, Option.map_eq_some_iff] at hlookup
        obtain ⟨old, hold, rfl⟩ := hlookup
        exact ⟨b, old, hold, (hnumber old.tx (h.rooted.device b old hold)).1 htx⟩
      · change (entry b _)[id]? = _ at hlookup
        rw [lookup_entry_ne b _ hid] at hlookup
        cases hlookup
    · intro hsender
      obtain ⟨id, handle, hlookup, htx⟩ := hsender
      have hserves := h.rooted.device id handle hlookup
      rw [htx] at hserves
      obtain rfl := serves_unique hserves hw
      refine ⟨id, (f.names id).handle handle, ?_, congrArg (f.names id).worker htx⟩
      show (f.part owner id s.sup).registry.devices[id]? = _
      rw [Supervisor.part_device h.rooted hf, hlookup]
      rfl
  · -- the engine channel
    constructor
    · intro hsender
      obtain ⟨envelope, hmem, hcarries⟩ := hsender
      obtain ⟨old, hold, rfl⟩ := List.mem_map.1 hmem
      obtain ⟨hqueued, hdevice⟩ := List.mem_filter.1 hold
      obtain ⟨id, handle, token, hcmd, htx⟩ := carries_eq_some hcarries
      obtain ⟨origin, cmd⟩ := old
      cases cmd with
      | deviceReattached id' handle' token' =>
          cases hcmd
          obtain rfl : id = b := by simpa [EngineCommand.device] using hdevice
          have hserves := ((h.vouched _ hqueued).reattached id handle' token' rfl).1
          exact ⟨_, hqueued, congrArg some ((hnumber handle'.tx hserves).1 htx)⟩
      | _ => cases hcmd
    · intro hsender
      obtain ⟨envelope, hqueued, hcarries⟩ := hsender
      obtain ⟨id, handle, token, hcmd, htx⟩ := carries_eq_some hcarries
      have hserves := ((h.vouched envelope hqueued).reattached id handle token hcmd).1
      rw [htx] at hserves
      obtain rfl := serves_unique hserves hw
      refine ⟨(f.names id).envelope envelope, List.mem_map_of_mem (List.mem_filter.2 ⟨hqueued, ?_⟩),
        ?_⟩
      · simp [hcmd, EngineCommand.device]
      · obtain ⟨origin, cmd⟩ := envelope
        change cmd = _ at hcmd
        subst hcmd
        exact congrArg (fun v => some ((f.names id).worker v)) htx
  · -- the reconnect tasks
    constructor
    · intro hsender
      obtain ⟨t, hmem, hholds⟩ := hsender
      obtain ⟨old, hold, rfl⟩ := List.mem_map.1 hmem
      obtain ⟨htask, hdevice⟩ := List.mem_filter.1 hold
      obtain ⟨k, hk⟩ := List.getElem?_of_mem htask
      rw [← Supervisor.names_reconnect h.rooted hf hk] at hholds
      obtain ⟨handle, hphase, htx⟩ := holds_eq_some hholds
      change (f.names b).phase old.phase = _ at hphase
      cases hp : old.phase with
      | sending handle' =>
          rw [hp] at hphase
          cases hphase
          have hserves := h.rooted.sending k old handle' hk hp
          have hb : old.ctx.device_id = b := of_decide_eq_true hdevice
          rw [hb] at hserves
          refine ⟨old, htask, ?_⟩
          rw [ReconnectTask.holds, hp]
          exact congrArg some ((hnumber handle'.tx hserves).1 htx)
      | sleeping wake_at =>
          rw [hp] at hphase
          cases hphase
      | returned =>
          rw [hp] at hphase
          cases hphase
    · intro hsender
      obtain ⟨t, htask, hholds⟩ := hsender
      obtain ⟨k, hk⟩ := List.getElem?_of_mem htask
      obtain ⟨handle, hphase, htx⟩ := holds_eq_some hholds
      have hserves := h.rooted.sending k t handle hk hphase
      rw [htx] at hserves
      have hb : t.ctx.device_id = b := serves_unique hserves hw
      refine ⟨(f.names b).reconnect t, ?_, ?_⟩
      · rw [Supervisor.names_reconnect h.rooted hf hk]
        exact List.mem_map_of_mem (List.mem_filter.2 ⟨htask, decide_eq_true hb⟩)
      · rw [ReconnectTask.holds]
        have hrenamed : ((f.names b).reconnect t).phase = (f.names b).phase t.phase := rfl
        rw [hrenamed, hphase]
        exact congrArg (fun v => some ((f.names b).worker v)) htx

/-! ## Steps of the part -/

section Steps

/-- A message about the device is sent in the part as well. -/
theorem part_send {envelope : Envelope} (hb : envelope.cmd.device = some b)
    (hsend : s.send envelope = some s') :
    (part owner b f s).send ((f.names b).envelope envelope) = some (part owner b f s') := by
  rw [send] at hsend
  split at hsend
  · rename_i hroom
    cases hsend
    have hroom' : (part owner b f s).status ≠ .returned ∧
        (part owner b f s).queue.length < ENGINE_CHANNEL_CAPACITY :=
      ⟨hroom.1, Nat.lt_of_le_of_lt (messages_length_le s.queue) hroom.2⟩
    have hqueue : messages b f (s.queue ++ [envelope]) =
        messages b f s.queue ++ [(f.names b).envelope envelope] := by
      rw [messages_append, messages_cons, if_pos hb]
      rfl
    rw [send, if_pos hroom', part, part, hqueue]
  · cases hsend

theorem part_sendOrDrop {envelope : Envelope} (hrunning : s.status = .running)
    (hsend : s.sendOrDrop envelope = some s') (hb : envelope.cmd.device = some b) :
    (part owner b f s).sendOrDrop ((f.names b).envelope envelope) =
      some (part owner b f s') := by
  have hrunning' : (part owner b f s).status = .running := hrunning
  rw [sendOrDrop_running hrunning] at hsend
  rw [sendOrDrop_running hrunning']
  exact part_send hb hsend

theorem part_sys_setWorker (h : s.Filed owner) (hf : Supervisor.Extends s.sup f) {w : WorkerId}
    {x : Worker D} {r : Worker D × List Effect} (hx : s.sup.workers[w]? = some x)
    (hb : x.device_id = b) (hkept : x.Kept owner f r) :
    (part owner b f s).setWorker ((f.names b).worker w) (Worker.renamed (f.names b) r) =
      part owner b f (s.setWorker w r) := by
  have hset : f.part owner b { s.sup with workers := s.sup.workers.set w r.1 } =
      { f.part owner b s.sup with
        workers := (f.part owner b s.sup).workers.set ((f.names b).worker w) r.1 } :=
    Supervisor.part_setWorker h.rooted hf hx hb hkept.device_id
  have habout : ∀ y ∈ r.2, f.about owner y = some b := by
    rw [← hb]
    exact hkept.about
  have hsup : ({ f.part owner b s.sup with
      workers := (f.part owner b s.sup).workers.set ((f.names b).worker w) r.1 } :
        Supervisor D).emit (r.2.map (f.names b).effect) =
      f.part owner b (s.setWorker w r).sup := by
    rw [← hset]
    exact Supervisor.part_emit habout
  exact congrArg (fun sup => ({ part owner b f s with sup := sup } : Sys D)) hsup

variable [KeyboardDriver D]

theorem part_workerStep (h : s.Filed owner) {w : WorkerId} {x : Worker D}
    (hx : s.sup.workers[w]? = some x) (hb : x.device_id = b) {move : WorkerMove}
    (hstep : s.workerStep w x move = some s') (hf : Supervisor.Extends s.sup f) :
    (part owner b f s).workerStep ((f.names b).worker w) x move = some (part owner b f s') := by
  obtain ⟨howned, hserved⟩ := h.worker hf hx
  have hsenders := part_senderAlive h hf ⟨x, hx, hb⟩
  cases move with
  | recv =>
      obtain ⟨r, hr, rfl⟩ := Option.map_eq_some_iff.1 hstep
      rw [workerStep, hsenders, Worker.recv_renamed, hr]
      exact congrArg some (part_sys_setWorker h hf hx hb (Worker.recv_kept howned hserved hr))
  | debounce =>
      obtain ⟨r, hr, rfl⟩ := Option.map_eq_some_iff.1 hstep
      rw [workerStep, hsenders, Worker.debounce_renamed]
      show ((x.debounce w (s.senderAlive w) s.now).map _).map _ = _
      rw [hr]
      exact congrArg some (part_sys_setWorker h hf hx hb (Worker.debounce_kept howned hserved hr))
  | finish order =>
      obtain ⟨r, hr, rfl⟩ := Option.map_eq_some_iff.1 hstep
      rw [workerStep, Worker.finish_renamed]
      show ((x.finish w ⟨s.now, order⟩).map _).map _ = _
      rw [hr]
      exact congrArg some (part_sys_setWorker h hf hx hb (Worker.finish_kept howned hserved hr))
  | report =>
      obtain ⟨x', hx', hsend⟩ := Option.bind_eq_some_iff.1 hstep
      rw [workerStep, hx', Option.bind_some]
      obtain ⟨-, rfl⟩ := Worker.reportDone_cases hx'
      have hkept : x.Kept owner f ({ x with phase := .reported }, []) :=
        ⟨rfl, ⟨howned.queued, nofun⟩, fun _ h => absurd h List.not_mem_nil⟩
      have hset := part_sys_setWorker h hf hx hb hkept
      have hrunning : (s.setWorker w ({ x with phase := .reported }, [])).status = .running :=
        h.running
      change (part owner b f s).setWorker _ ({ x with phase := .reported }, []) = _ at hset
      rw [hset]
      exact part_sendOrDrop hrunning hsend (congrArg some hb)
  | exit =>
      obtain ⟨x', hx', rfl⟩ := Option.map_eq_some_iff.1 hstep
      rw [workerStep, hx']
      obtain ⟨-, rfl⟩ := Worker.exitTask_cases hx'
      have hkept : x.Kept owner f (x.leave, []) :=
        ⟨rfl, Worker.owned_leave x, fun _ h => absurd h List.not_mem_nil⟩
      exact congrArg some (part_sys_setWorker h hf hx hb hkept)
  | panic =>
      obtain ⟨x', hx', rfl⟩ := Option.map_eq_some_iff.1 hstep
      rw [workerStep, hx']
      obtain ⟨-, rfl⟩ := Worker.panicked_cases hx'
      have hkept : x.Kept owner f (x.leave, []) :=
        ⟨rfl, Worker.owned_leave x, fun _ h => absurd h List.not_mem_nil⟩
      exact congrArg some (part_sys_setWorker h hf hx hb hkept)

theorem part_taskStep (h : s.Filed owner) {table : DriverTable W D} {k : TaskId}
    {t : ReconnectTask} (ht : s.sup.tasks[k]? = some t) (hb : t.ctx.device_id = b)
    {move : TaskMove W} (hstep : s.taskStep table k t move = some s')
    (hf : Supervisor.Extends s'.sup f) :
    (part owner b f s).taskStep table ((f.names b).task k) ((f.names b).reconnect t) move =
      some (part owner b f s') := by
  have hext : Supervisor.Extends s.sup f :=
    (taskStep_moved (f := f) h ht hstep).updates.extends.trans hf
  have habandon : (f.part owner b s.sup).setTask ((f.names b).task k)
      ((f.names b).reconnect t.abandon) = f.part owner b (s.sup.setTask k t.abandon) :=
    Supervisor.part_setTask h.rooted hext ht hb rfl
      fun handle hphase => absurd hphase (Supervisor.abandon_not_sending t handle)
  cases hphase : t.phase with
  | returned => cases move <;> simp [taskStep, hphase] at hstep
  | sleeping wake_at =>
      have hphase' : ((f.names b).reconnect t).phase = .sleeping wake_at :=
        congrArg (f.names b).phase hphase
      cases move with
      | cancel =>
          have hcancelled : (part owner b f s).sup.cancelled _ _ = s.sup.cancelled k t :=
            Supervisor.part_cancelled h.rooted hext ⟨t, ht, hb⟩ hb
          simp only [taskStep, hphase] at hstep
          split at hstep
          · rename_i hfired
            cases hstep
            simp only [taskStep, hphase']
            rw [if_pos (hcancelled.trans hfired)]
            exact congrArg (fun sup => some ({ part owner b f s with sup := sup } : Sys D)) habandon
          · cases hstep
      | attempt order world =>
          simp only [taskStep, hphase] at hstep
          split at hstep
          · rename_i hawake
            cases hstep
            have hawake' : wake_at ≤ (part owner b f s).now := hawake
            have hattempt : (f.part owner b s.sup).attempt table ⟨s.now, order⟩ world _ _ = _ :=
              Supervisor.part_attempt h.rooted table ⟨s.now, order⟩ world ht hb hf
            simp only [taskStep, hphase']
            rw [if_pos hawake']
            exact congrArg (fun sup => some ({ part owner b f s with sup := sup } : Sys D)) hattempt
          · cases hstep
      | send =>
          simp only [taskStep, hphase] at hstep
          cases hstep
  | sending handle =>
      have hphase' : ((f.names b).reconnect t).phase = .sending ((f.names b).handle handle) :=
        congrArg (f.names b).phase hphase
      cases move with
      | cancel =>
          simp only [taskStep, hphase] at hstep
          cases hstep
      | attempt order world =>
          simp only [taskStep, hphase] at hstep
          cases hstep
      | send =>
          simp only [taskStep, hphase] at hstep
          simp only [taskStep, hphase']
          have hrunning : ({ s with sup := s.sup.setTask k t.abandon } : Sys D).status = .running :=
            h.running
          rw [← part_sendOrDrop hrunning hstep (congrArg some hb)]
          exact congrArg (fun sup => ({ part owner b f s with sup := sup } : Sys D).sendOrDrop _)
            habandon

variable [BackgroundTasks D]

/-- A step of the device is a step of its part. -/
theorem part_step {table : DriverTable W D} {l : Label W} (h : s.Filed owner)
    (hcmd : ∀ cmd, l = .enqueue cmd → cmd ≠ .shutdown ∧ owner s.next_reply = cmd.device)
    (hstep : s.step table l = some s') (hf : Supervisor.Extends s'.sup f)
    (hkeeps : s.keeps b l = true) :
    advance table (part owner b f s) ((f.names b).label l) = some (part owner b f s') := by
  -- What there is before the step is there at the end of the run.
  have hext : (∀ ms, l ≠ .tick ms) → Supervisor.Extends s.sup f := by
    intro hl
    have hmoved : Moved owner s.sup _ s s' :=
      step_moved h (Supervisor.Extends.of_eq rfl rfl) hl hcmd hstep
    exact hmoved.updates.extends.trans hf
  cases l with
  | tick ms =>
      cases hstep
      rfl
  | superviseReturn => simp [keeps, concerned] at hkeeps
  | enqueue cmd =>
      have hb : cmd.device = some b := of_decide_eq_true hkeeps
      rw [step, enqueue] at hstep
      split at hstep
      · cases hstep
      · rename_i origin horigin
        split at hstep
        · have hsent : (part owner b f _).send ((f.names b).envelope ⟨origin, cmd⟩) = _ :=
            part_send hb hstep
          -- A client knows no worker and no task.
          have hplain : (f.names b).envelope ⟨origin, cmd⟩ = ⟨origin, cmd⟩ := by
            cases cmd <;> cases horigin <;> rfl
          rw [hplain] at hsent
          show cmd.sender.bind _ = _
          rw [horigin]
          exact hsent
        · cases hstep
  | supervise order world =>
      rw [step, supervise] at hstep
      split at hstep
      · rename_i envelope rest hrunning hqueue
        have hvouched := h.vouched envelope (by rw [hqueue]; exact List.mem_cons_self)
        have hb : s.queue.head?.bind (fun envelope => envelope.cmd.device) = some b :=
          of_decide_eq_true hkeeps
        rw [hqueue] at hb
        have hlive : ((f.names b).envelope envelope).cmd ≠ .shutdown := by
          obtain ⟨origin, cmd⟩ := envelope
          cases cmd with
          | shutdown => cases hb
          | _ =>
              intro hcon
              cases hcon
        dsimp only at hstep
        rw [if_neg hvouched.live] at hstep
        cases hstep
        have habout : ∀ x ∈ [Effect.handled envelope], f.about owner x = some b := by
          intro x hx
          rw [List.mem_singleton.1 hx]
          exact hb
        have hemit : (f.part owner b s.sup).emit [.handled ((f.names b).envelope envelope)] =
            f.part owner b (s.sup.emit [.handled envelope]) := Supervisor.part_emit habout
        have hturn := Supervisor.part_turn table ⟨s.now, order⟩ world
          (Supervisor.rooted_emit h.rooted [.handled envelope])
          (hvouched.mono (Supervisor.Extends.of_eq rfl rfl)) hb hf
        have hqueue' : (part owner b f s).queue =
            (f.names b).envelope envelope :: messages b f rest := by
          show messages b f s.queue = _
          rw [hqueue, messages_cons, if_pos (show envelope.cmd.device = some b from hb)]
        have hrunning' : (part owner b f s).status = .running := hrunning
        show (part owner b f s).supervise table order world = _
        rw [supervise, hrunning', hqueue']
        dsimp only
        rw [if_neg hlive]
        show some ({ part owner b f s with
          queue := messages b f rest
          status := .running
          sup := ((f.part owner b s.sup).emit
            [.handled ((f.names b).envelope envelope)]).handle_command table ⟨s.now, order⟩ world
              ((f.names b).envelope envelope) } : Sys D) = _
        rw [hemit, hturn, ← hrunning]
        rfl
      · cases hstep
  | worker w move =>
      have hext := hext (by simp)
      obtain ⟨x, hx, hmove⟩ := Option.bind_eq_some_iff.1 hstep
      have hb : s.sup.served w = some b := of_decide_eq_true hkeeps
      rw [Supervisor.served, hx] at hb
      have hpart := part_workerStep h hx (Option.some.inj hb) hmove hext
      show ((f.part owner b s.sup).workers[_]?).bind _ = _
      rw [Supervisor.part_worker hext hx (Option.some.inj hb)]
      exact hpart
  | background w order wakeup =>
      have hext := hext (by simp)
      obtain ⟨x, hx, hwake⟩ := Option.bind_eq_some_iff.1 hstep
      obtain ⟨driver, hdriver, rfl⟩ := Option.map_eq_some_iff.1 hwake
      have hb : s.sup.served w = some b := of_decide_eq_true hkeeps
      rw [Supervisor.served, hx] at hb
      obtain ⟨howned, hserved⟩ := h.worker hext hx
      have hkept : x.Kept owner f ({ x with driver := driver }, [.woke w wakeup]) := by
        refine ⟨rfl, ⟨howned.queued, howned.running⟩, ?_⟩
        intro y hy
        rw [List.mem_singleton.1 hy]
        exact hserved
      have hset := part_sys_setWorker h hext hx (Option.some.inj hb) hkept
      show ((f.part owner b s.sup).workers[_]?).bind _ = _
      rw [Supervisor.part_worker hext hx (Option.some.inj hb), Option.bind_some]
      show (BackgroundTasks.wake ⟨s.now, order⟩ _ wakeup x.driver).map _ = _
      rw [hdriver]
      exact congrArg some hset
  | task k move =>
      have hext := hext (by simp)
      obtain ⟨t, ht, hmove⟩ := Option.bind_eq_some_iff.1 hstep
      have hb : s.sup.tried k = some b := of_decide_eq_true hkeeps
      rw [Supervisor.tried, ht] at hb
      have hpart := part_taskStep h ht (Option.some.inj hb) hmove hf
      show ((f.part owner b s.sup).tasks[_]?).bind _ = _
      rw [Supervisor.part_task h.rooted hext ht (Option.some.inj hb)]
      exact hpart

end Steps

end Sys

end Clackd.Engine
