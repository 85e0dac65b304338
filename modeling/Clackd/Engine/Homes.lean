import Clackd.Engine.Deeds

/-!
# Handles keep to their devices

The handle of a worker goes from the task that opened the device over the engine channel
into the registry.  All that way it is under the name of the device the worker serves.

## Main results

* `homed_step`: every step keeps the handles with their devices.
-/

namespace Clackd.Engine

open Clackd.Foundation Clackd.Hal
open Std (ExtTreeMap)

namespace Supervisor

variable {W D : Type}

/-- A turn starts no task that is about to send a handle. -/
theorem Handled.sending {cmd : EngineCommand} {sender : Origin} {e e' : Supervisor D}
    (h : e.Handled cmd sender e') {t : ReconnectTask} (ht : t ∈ e'.tasks) {handle : DeviceHandle}
    (hphase : t.phase = .sending handle) : t ∈ e.tasks := by
  have hfresh : ∀ {id : String} {token : UInt64} {u : ReconnectTask}, Fresh id token u →
      e'.tasks = e.tasks ++ [u] → t ∈ e.tasks := by
    intro id token u hu htasks
    rw [htasks] at ht
    rcases List.mem_append.1 ht with hold | hnew
    · exact hold
    · obtain ⟨wake_at, hsleeping⟩ := hu.sleeping
      rw [List.mem_singleton.1 hnew, hsleeping] at hphase
      cases hphase
  cases h with
  | retried id vendor_id product_id path u hcmd habsent hu hregistry htasks hlog =>
      exact hfresh hu htasks
  | lost id handle' u hcmd hpresent hu hregistry htasks hlog => exact hfresh hu htasks
  | quiet effects hregistry htasks => exact htasks ▸ ht
  | cancelled id hcmd hregistry htasks => exact htasks ▸ ht
  | connected id vendor_id product_id path handle' hcmd habsent htx hregistry htasks =>
      exact htasks ▸ ht
  | disconnected id handle' hcmd hpresent hregistry htasks => exact htasks ▸ ht
  | failed id err handle' hcmd herr hpresent hregistry htasks => exact htasks ▸ ht
  | reattached id handle' token k hcmd hcurrent hregistry htasks => exact htasks ▸ ht
  | evicted id op handle' hcmd hpresent hadmitted hclosed hregistry htasks => exact htasks ▸ ht

/-- An attempt moves its task on; if the task is about to send a handle then, the worker
serves its device. -/
theorem attempt_sending [KeyboardDriver D] (table : DriverTable W D) (turn : Turn) (world : W)
    (k : TaskId) (t : ReconnectTask) (e : Supervisor D) :
    ∃ t', (e.attempt table turn world k t).tasks = e.tasks.set k t' ∧ t'.ctx = t.ctx ∧
      ∀ handle, t'.phase = .sending handle →
        (e.attempt table turn world k t).Serves handle.tx t.ctx.device_id := by
  cases hfactory : table.factory t.ctx.vendor_id t.ctx.product_id with
  | none =>
      rw [attempt_unknown hfactory]
      exact ⟨_, rfl, rfl, fun _ hcon => by cases hcon⟩
  | some factory =>
      cases hopen : openDevice turn world factory t.ctx.hidraw_path with
      | ok r =>
          rw [attempt_opened hfactory hopen]
          refine ⟨_, rfl, ?_, ?_⟩
          · split <;> rfl
          · intro handle hsending
            split at hsending
            · cases hsending
            · cases hsending
              refine ⟨Worker.spawn t.ctx.device_id r.2, ?_, rfl⟩
              show (e.workers ++ [_])[e.workers.length]? = _
              rw [List.getElem?_append_right (Nat.le_refl _), Nat.sub_self]
              rfl
      | error err =>
          rw [attempt_failed hfactory hopen]
          refine ⟨_, rfl, ?_, ?_⟩
          · split <;> rfl
          · intro handle hsending
            split at hsending
            · exact absurd hsending (retry_not_sending _ _ _)
            · cases hsending

end Supervisor

namespace Sys

variable {W D : Type}

/-- Handles are with the devices their workers serve. -/
structure Homed (s : Sys D) : Prop where
  registered : ∀ (id : String) (handle : DeviceHandle),
    s.sup.registry.devices[id]? = some handle → s.sup.Serves handle.tx id
  queued : ∀ envelope ∈ s.queue, ∀ id handle token,
    envelope.cmd = .deviceReattached id handle token → s.sup.Serves handle.tx id
  sending : ∀ t ∈ s.sup.tasks, ∀ handle, t.phase = .sending handle →
    s.sup.Serves handle.tx t.ctx.device_id

theorem homed_start : (start : Sys D).Homed where
  registered := by
    intro id handle h
    change (∅ : ExtTreeMap String DeviceHandle)[id]? = some handle at h
    rw [ExtTreeMap.getElem?_empty] at h
    cases h
  queued := fun _ h => absurd h List.not_mem_nil
  sending := fun _ h => absurd h List.not_mem_nil

variable [KeyboardDriver D] [BackgroundTasks D] {table : DriverTable W D} {s s' : Sys D}

/-- A step that keeps the registry and the tasks, and sends at most a message without a
handle. -/
theorem Homed.of_kept {l : Label W} (h : s.Homed) (hstep : s.step table l = some s')
    (hregistry : s'.sup.registry = s.sup.registry) (htasks : s'.sup.tasks = s.sup.tasks)
    (hqueue : ∀ envelope ∈ s'.queue, envelope ∈ s.queue ∨ envelope.cmd.carries = none) :
    s'.Homed where
  registered := by
    intro id handle hid
    rw [hregistry] at hid
    exact serves_step hstep (h.registered id handle hid)
  queued := by
    intro envelope hmem id handle token hcmd
    rcases hqueue envelope hmem with hold | hplain
    · exact serves_step hstep (h.queued envelope hold id handle token hcmd)
    · rw [hcmd] at hplain
      cases hplain
  sending := by
    intro t ht handle hphase
    rw [htasks] at ht
    exact serves_step hstep (h.sending t ht handle hphase)

theorem homed_supervise {order : HashOrder} {world : W} (h : s.Homed)
    (hstep : s.step table (.supervise order world) = some s') : s'.Homed := by
  have hserves : ∀ {w : WorkerId} {id : String}, s.sup.Serves w id → s'.sup.Serves w id :=
    fun hw => serves_step hstep hw
  have hsup : s.supervise table order world = some s' := hstep
  obtain ⟨envelope, rest, hcases⟩ := supervise_cases hsup
  have hrest : ∀ other ∈ rest, s.queue = envelope :: rest → ∀ id handle token,
      other.cmd = .deviceReattached id handle token → s'.sup.Serves handle.tx id := by
    intro other hmem hqueue id handle token hcmd
    refine hserves (h.queued other ?_ id handle token hcmd)
    rw [hqueue]
    exact List.mem_cons_of_mem _ hmem
  rcases hcases with hturned | hstops
  · have hsupplied : Supervisor.Supplied envelope.cmd (s.sup.emit [.handled envelope]) s'.sup := by
      rw [supervise, hturned.running, hturned.queue] at hsup
      dsimp only at hsup
      split at hsup
      · cases hsup
        cases hturned.status'
      · cases hsup
        exact Supervisor.handle_command_supplied table _ world envelope _
    refine ⟨?_, ?_, ?_⟩
    · intro id handle hid
      cases hsupplied with
      | kept effects hworkers hlog hquiet hrefused hdevices =>
          rcases hdevices id handle hid with hold | ⟨token, hcmd⟩
          · exact hserves (h.registered id handle hold)
          · refine hserves (h.queued envelope ?_ id handle token hcmd)
            rw [hturned.queue]
            exact List.mem_cons_self
      | pushed id' op handle' hcmd hpresent hadmitted hopen heq =>
          rw [heq] at hid
          exact hserves (h.registered id handle hid)
      | spawned id' driver topology handle' hcmd hprobe hworkers hdevices htx htopology hlog =>
          rw [hdevices, lookup_insert] at hid
          split at hid
          · rename_i hsame
            cases hid
            rw [htx, ← hsame]
            refine ⟨Worker.spawn id' driver, ?_, rfl⟩
            rw [hworkers, List.getElem?_append_right (Nat.le_refl _), Nat.sub_self]
            rfl
          · exact hserves (h.registered id handle hid)
    · intro other hmem
      rw [hturned.queue'] at hmem
      exact hrest other hmem hturned.queue
    · intro t ht handle hphase
      exact hserves (h.sending t (hturned.handled.sending ht hphase) handle hphase)
  · refine ⟨?_, ?_, ?_⟩
    · intro id handle hid
      rw [hstops.registry] at hid
      change (∅ : ExtTreeMap String DeviceHandle)[id]? = some handle at hid
      rw [ExtTreeMap.getElem?_empty] at hid
      cases hid
    · intro other hmem
      rw [hstops.queue'] at hmem
      exact hrest other hmem hstops.queue
    · intro t ht handle hphase
      rw [hstops.tasks] at ht
      exact hserves (h.sending t ht handle hphase)

theorem homed_worker {w : WorkerId} {move : WorkerMove} (h : s.Homed)
    (hstep : s.step table (.worker w move) = some s') : s'.Homed := by
  obtain ⟨x, hx, hmove⟩ := Option.bind_eq_some_iff.1 hstep
  have hset : ∀ r : Worker D × List Effect, s' = s.setWorker w r → s'.Homed := by
    intro r hr
    subst hr
    exact h.of_kept hstep rfl rfl fun _ hmem => .inl hmem
  cases move with
  | report =>
      obtain ⟨x', hx', hsend⟩ := Option.bind_eq_some_iff.1 hmove
      obtain ⟨hsup, -, -, hqueue⟩ := sendOrDrop_cases hsend
      refine h.of_kept hstep (by rw [hsup]; rfl) (by rw [hsup]; rfl) ?_
      intro envelope hmem
      rcases hqueue with hqueue | hqueue
      · rw [hqueue] at hmem
        exact .inl hmem
      · rw [hqueue] at hmem
        rcases List.mem_append.1 hmem with hold | hnew
        · exact .inl hold
        · rw [List.mem_singleton.1 hnew]
          exact .inr rfl
  | recv =>
      obtain ⟨r, -, hr⟩ := Option.map_eq_some_iff.1 hmove
      exact hset r hr.symm
  | debounce =>
      obtain ⟨r, -, hr⟩ := Option.map_eq_some_iff.1 hmove
      exact hset r hr.symm
  | finish order =>
      obtain ⟨r, -, hr⟩ := Option.map_eq_some_iff.1 hmove
      exact hset r hr.symm
  | exit =>
      obtain ⟨x', -, hr⟩ := Option.map_eq_some_iff.1 hmove
      exact hset (x', []) hr.symm
  | panic =>
      obtain ⟨x', -, hr⟩ := Option.map_eq_some_iff.1 hmove
      exact hset (x', []) hr.symm

omit [KeyboardDriver D] [BackgroundTasks D] in
/-- A task that moves on keeps its context; if it is about to send a handle then, the
worker serves its device. -/
theorem Homed.of_setTask {k : TaskId} {t t' : ReconnectTask} (h : s.Homed)
    (hserves : ∀ {w : WorkerId} {id : String}, s.sup.Serves w id → s'.sup.Serves w id)
    (hqueue : s'.queue = s.queue) (hregistry : s'.sup.registry = s.sup.registry)
    (htasks : s'.sup.tasks = s.sup.tasks.set k t') (hctx : t'.ctx = t.ctx)
    (hphase : ∀ handle, t'.phase = .sending handle → s'.sup.Serves handle.tx t.ctx.device_id) :
    s'.Homed where
  registered := by
    intro id handle hid
    rw [hregistry] at hid
    exact hserves (h.registered id handle hid)
  queued := by
    intro envelope hmem id handle token hcmd
    rw [hqueue] at hmem
    exact hserves (h.queued envelope hmem id handle token hcmd)
  sending := by
    intro u hu handle hsending
    rw [htasks] at hu
    rcases List.mem_or_eq_of_mem_set hu with hold | rfl
    · exact hserves (h.sending u hold handle hsending)
    · rw [hctx]
      exact hphase handle hsending

theorem homed_task {k : TaskId} {move : TaskMove W} (h : s.Homed)
    (hstep : s.step table (.task k move) = some s') : s'.Homed := by
  have hserves : ∀ {w : WorkerId} {id : String}, s.sup.Serves w id → s'.sup.Serves w id :=
    fun hw => serves_step hstep hw
  obtain ⟨t, ht, hmove⟩ := Option.bind_eq_some_iff.1 hstep
  cases move with
  | cancel =>
      rw [taskStep] at hmove
      split at hmove
      · split at hmove
        · cases hmove
          exact h.of_setTask (t := t) hserves rfl rfl rfl rfl fun _ hcon => by cases hcon
        · cases hmove
      · cases hmove
  | attempt order world =>
      rw [taskStep] at hmove
      split at hmove
      · split at hmove
        · cases hmove
          obtain ⟨hmoved, -⟩ := Supervisor.attempt_attempted table ⟨s.now, order⟩ world k t s.sup
          obtain ⟨t', htasks, hctx, hphase⟩ :=
            Supervisor.attempt_sending table ⟨s.now, order⟩ world k t s.sup
          exact h.of_setTask hserves rfl hmoved.registry htasks hctx hphase
        · cases hmove
      · cases hmove
  | send =>
      rw [taskStep] at hmove
      split at hmove
      · rename_i handle hphase
        have habandoned : ({ s with sup := s.sup.setTask k t.abandon } : Sys D).Homed :=
          h.of_setTask (t := t) (k := k) (fun hw => hw) rfl rfl rfl rfl
            fun _ hcon => by cases hcon
        obtain ⟨hsup, -, -, hqueue⟩ := sendOrDrop_cases hmove
        refine ⟨by rw [hsup]; exact habandoned.registered, ?_,
          by rw [hsup]; exact habandoned.sending⟩
        intro envelope hmem id handle' token hcmd
        rcases hqueue with hqueue | hqueue
        · rw [hqueue] at hmem
          exact hserves (h.queued envelope hmem id handle' token hcmd)
        · rw [hqueue] at hmem
          rcases List.mem_append.1 hmem with hold | hnew
          · exact hserves (h.queued envelope hold id handle' token hcmd)
          · rw [List.mem_singleton.1 hnew] at hcmd
            cases hcmd
            exact hserves (h.sending t (List.mem_of_getElem? ht) handle hphase)
      · cases hmove

/-- Handles stay with their devices. -/
theorem homed_step {l : Label W} (h : s.Homed) (hstep : s.step table l = some s') :
    s'.Homed := by
  cases l with
  | tick ms =>
      cases hstep
      exact ⟨h.registered, h.queued, h.sending⟩
  | enqueue cmd =>
      obtain ⟨hsup, envelope, hcmd, hqueue⟩ := enqueue_queue hstep
      refine h.of_kept hstep (by rw [hsup]) (by rw [hsup]) ?_
      intro other hmem
      rw [hqueue] at hmem
      rcases List.mem_append.1 hmem with hold | hnew
      · exact .inl hold
      · right
        rw [List.mem_singleton.1 hnew, hcmd]
        cases cmd with
        | deviceReattached id handle token => cases hstep
        | _ => rfl
  | supervise order world => exact homed_supervise h hstep
  | superviseReturn =>
      have hreturns := superviseReturn_cases hstep
      refine ⟨?_, ?_, ?_⟩
      · intro id handle hid
        rw [hreturns.registry] at hid
        change (∅ : ExtTreeMap String DeviceHandle)[id]? = some handle at hid
        rw [ExtTreeMap.getElem?_empty] at hid
        cases hid
      · intro other hmem
        rw [hreturns.queue'] at hmem
        cases hmem
      · intro t ht handle hphase
        rw [hreturns.tasks] at ht
        exact serves_step hstep (h.sending t ht handle hphase)
  | worker w move => exact homed_worker h hstep
  | background w order wakeup =>
      obtain ⟨x, hx, hwake⟩ := Option.bind_eq_some_iff.1 hstep
      obtain ⟨driver, -, rfl⟩ := Option.map_eq_some_iff.1 hwake
      exact h.of_kept hstep rfl rfl fun _ hmem => .inl hmem
  | task k move => exact homed_task h hstep

end Sys

end Clackd.Engine
