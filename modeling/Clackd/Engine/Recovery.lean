import Clackd.Engine.Eviction

/-!
# Recovery from a fatal worker failure

A worker that fails fatally reports it, and the supervisor takes the handle out
and starts a reconnect task.  Between the failure and the handling of the report
other messages are handled.  As long as nothing but reports and reattaches touch
the device, it is registered or being reconnected; once a request finds the
channel closed and evicts the handle, the device is neither, and the report finds
nothing to recover.

## Main results

* `watched_step`: a turn keeps a watched device registered or reconnecting, or
  evicts it.
* `watched_run`: over a run without plug events it stays so exactly if it is not
  evicted.
* `fatal_failure_recovers_iff`: after the report is handled the device is being
  reconnected by a task started since the failure exactly if it was not evicted
  in between.
-/

namespace Clackd.Engine

open Clackd.Foundation Clackd.Hal
open Std (ExtTreeMap)

namespace Supervisor

variable {W D : Type}

/-- The device is registered, or being reconnected by a task started as the
`n`-th or later. -/
def Recovering (n : Nat) (id : String) (e : Supervisor D) : Prop :=
  e.Registered id ∨
    ∃ k token, e.registry.reconnecting[id]? = some (k, token) ∧ n ≤ k

/-- The device is neither registered nor being reconnected. -/
def Abandoned (id : String) (e : Supervisor D) : Prop :=
  e.registry.devices[id]? = none ∧ e.registry.reconnecting[id]? = none

/-- What is true of the tables at one device before a turn that leaves it alone
is true after. -/
theorem Recovering.of_same {n : Nat} {id : String} {e e' : Supervisor D}
    (h : e.Recovering n id) (hdevices : e'.registry.devices[id]? = e.registry.devices[id]?)
    (hreconnecting : e'.registry.reconnecting[id]? = e.registry.reconnecting[id]?) :
    e'.Recovering n id := by
  unfold Recovering Registered
  rw [hdevices, hreconnecting]
  exact h

theorem Abandoned.of_same {id : String} {e e' : Supervisor D}
    (h : e.Abandoned id) (hdevices : e'.registry.devices[id]? = e.registry.devices[id]?)
    (hreconnecting : e'.registry.reconnecting[id]? = e.registry.reconnecting[id]?) :
    e'.Abandoned id := by
  unfold Abandoned
  rw [hdevices, hreconnecting]
  exact h

/-- The tables at one device after a turn that does not plug it. -/
inductive TurnAt (id : String) (cmd : EngineCommand) (e e' : Supervisor D) : Prop
  | same (hdevices : e'.registry.devices[id]? = e.registry.devices[id]?)
      (hreconnecting : e'.registry.reconnecting[id]? = e.registry.reconnecting[id]?)
      (hopen : ¬ e.MeetsClosed cmd id)
  | lost (hpresent : e.Registered id) (hopen : ¬ e.MeetsClosed cmd id)
      (hstarted : ∃ token, e'.registry.reconnecting[id]? = some (e.tasks.length, token))
  | reattached (hwaiting : e.registry.reconnecting[id]? ≠ none)
      (hopen : ¬ e.MeetsClosed cmd id) (hattached : e'.Registered id)
  | evicted (hclosed : e.MeetsClosed cmd id) (hgone : e'.registry.devices[id]? = none)
      (hreconnecting : e'.registry.reconnecting[id]? = e.registry.reconnecting[id]?)

theorem not_meetsClosed_of_forwarded {cmd : EngineCommand} {id : String} {e : Supervisor D}
    (h : cmd.forwarded = none) : ¬ e.MeetsClosed cmd id := by
  rintro ⟨op, handle, hcon, -⟩
  rw [h] at hcon
  cases hcon

/-- A turn at one device that its command does not plug. -/
theorem turnAt_handled {cmd : EngineCommand} {sender : Origin} {e e' : Supervisor D}
    (hhandled : e.Handled cmd sender e') (id : String) (hplug : cmd.plugged ≠ some id)
    (herror : ∀ id err, cmd = .deviceError id err → err = .driver .disconnected) :
    TurnAt id cmd e e' := by
  -- A command about another device.
  have hother : ∀ {id' : String}, cmd.plugged = some id' → id' ≠ id := by
    rintro id' hcmd rfl
    exact hplug hcmd
  cases hhandled with
  | quiet effects hregistry _ _ _ _ hopen _ _ =>
      exact .same (by rw [hregistry]) (by rw [hregistry]) (hopen id)
  | cancelled id' hcmd hregistry _ _ _ =>
      refine .same (by rw [hregistry]) ?_ ?_
      · rw [hregistry]
        exact lookup_erase_ne _ (hother hcmd)
      · refine not_meetsClosed_of_forwarded ?_
        cases cmd <;> first | rfl | cases hcmd
  | connected id' vendor_id product_id path handle hcmd _ _ hregistry _ _ =>
      have hid := hother (show cmd.plugged = some id' by rw [hcmd]; rfl)
      refine .same ?_ ?_ (not_meetsClosed_of_forwarded (by rw [hcmd]; rfl))
      · rw [hregistry]
        exact lookup_insert_ne _ _ hid
      · rw [hregistry]
        exact lookup_erase_ne _ hid
  | retried id' vendor_id product_id path t hcmd _ _ hregistry _ _ =>
      have hid := hother (show cmd.plugged = some id' by rw [hcmd]; rfl)
      refine .same (by rw [hregistry]) ?_ (not_meetsClosed_of_forwarded (by rw [hcmd]; rfl))
      rw [hregistry]
      exact (lookup_insert_ne _ _ hid).trans (lookup_erase_ne _ hid)
  | disconnected id' handle hcmd _ hregistry _ _ =>
      have hid := hother (show cmd.plugged = some id' by rw [hcmd]; rfl)
      refine .same ?_ ?_ (not_meetsClosed_of_forwarded (by rw [hcmd]; rfl))
      · rw [hregistry]
        exact lookup_erase_ne _ hid
      · rw [hregistry]
        exact lookup_erase_ne _ hid
  | lost id' handle t hcmd hpresent _ hregistry _ _ =>
      have hopen : ¬ e.MeetsClosed cmd id := not_meetsClosed_of_forwarded (by rw [hcmd]; rfl)
      by_cases hid : id' = id
      · subst hid
        refine .lost ⟨handle, hpresent⟩ hopen ⟨e.registry.next_reconnect_token, ?_⟩
        rw [hregistry]
        exact lookup_insert_self _ _ _
      · refine .same ?_ ?_ hopen
        · rw [hregistry]
          exact lookup_erase_ne _ hid
        · rw [hregistry]
          exact lookup_insert_ne _ _ hid
  | failed id' err handle hcmd herr _ _ _ _ => exact absurd (herror id' err hcmd) herr
  | reattached id' handle token k hcmd hcurrent hregistry _ _ =>
      have hopen : ¬ e.MeetsClosed cmd id := not_meetsClosed_of_forwarded (by rw [hcmd]; rfl)
      by_cases hid : id' = id
      · subst hid
        refine .reattached (by rw [hcurrent]; nofun) hopen ⟨handle, ?_⟩
        rw [hregistry]
        exact lookup_insert_self _ _ _
      · refine .same ?_ ?_ hopen
        · rw [hregistry]
          exact lookup_insert_ne _ _ hid
        · rw [hregistry]
          exact lookup_erase_ne _ hid
  | evicted id' op handle hcmd hpresent hadmitted hclosed hregistry _ _ =>
      by_cases hid : id' = id
      · subst hid
        refine .evicted ⟨op, handle, hcmd, hpresent, hadmitted, hclosed⟩ ?_ (by rw [hregistry])
        rw [hregistry]
        exact lookup_erase_self _ _
      · refine .same ?_ (by rw [hregistry]) ?_
        · rw [hregistry]
          exact lookup_erase_ne _ hid
        · rintro ⟨op', handle', hcmd', -⟩
          rw [hcmd] at hcmd'
          cases hcmd'
          exact hid rfl

end Supervisor

namespace Sys

open Supervisor

variable {W D : Type}

/-- What holds in every state from the `n`-th reconnect start on: no device is
registered and reconnecting at once, and the reports in flight say
`Disconnected`. -/
structure Sound (n : Nat) (s : Sys D) : Prop where
  disjoint : s.sup.Disjoint
  started : n ≤ s.sup.tasks.length
  reports : ∀ envelope ∈ s.queue, ∀ id err, envelope.cmd = .deviceError id err →
    err = .driver .disconnected

/-- A worker's report always says `Disconnected`. -/
theorem report_of_sent {s : Sys D} {envelope : Envelope} (h : Sent s envelope) {id : String}
    {err : DaemonError} (hcmd : envelope.cmd = .deviceError id err) :
    err = .driver .disconnected := by
  cases h with
  | outside hsender =>
      rw [hcmd] at hsender
      cases hsender
  | worker w x _ heq =>
      rw [heq] at hcmd
      cases hcmd
      rfl
  | task k t handle _ heq =>
      rw [heq] at hcmd
      cases hcmd

theorem sound_step {n : Nat} {s s' : Sys D} (hstep : Stepped s s') (h : Sound n s) :
    Sound n s' where
  disjoint := disjoint_step hstep h.disjoint
  started := Nat.le_trans h.started hstep.tasks_length_le
  reports := by
    cases hstep with
    | turned envelope rest hturn =>
        rw [hturn.queue']
        intro other hother
        exact h.reports other (by rw [hturn.queue]; exact List.mem_cons_of_mem _ hother)
    | stopped envelope rest hstop =>
        rw [hstop.queue']
        intro other hother
        exact h.reports other (by rw [hstop.queue]; exact List.mem_cons_of_mem _ hother)
    | returned hreturn =>
        rw [hreturn.queue']
        exact fun _ hother => absurd hother List.not_mem_nil
    | aside haside =>
        rcases haside.queue with hqueue | ⟨envelope, hqueue, hsent⟩
        · rw [hqueue]
          exact h.reports
        · rw [hqueue]
          intro other hother id err hcmd
          rcases List.mem_append.1 hother with hother | hother
          · exact h.reports other hother id err hcmd
          · rw [List.mem_singleton.1 hother] at hcmd
            exact report_of_sent hsent hcmd

section Runs

variable [KeyboardDriver D] [BackgroundTasks D]

/-- The step does not handle a plug event of the device, nor `Shutdown`. -/
def NotPlugged (id : String) (s : Sys D) : Label W → Prop
  | .supervise _ _ => ∀ envelope ∈ s.queue.head?,
      envelope.cmd.plugged ≠ some id ∧ envelope.cmd ≠ .shutdown
  | _ => True

instance (id : String) (s : Sys D) (l : Label W) : Decidable (NotPlugged id s l) := by
  unfold NotPlugged
  split <;> infer_instance

/-- The step does not forward an operation to the device's registered worker when
its channel is closed. -/
def NotEvicted (id : String) (s : Sys D) : Label W → Prop
  | .supervise _ _ => ∀ envelope rest, s.queue = envelope :: rest →
      ¬ s.sup.MeetsClosed envelope.cmd id
  | _ => True

/-- A step that does not plug the device, seen at the device: either the tables
there are as they were, or the supervisor handled a message about it. -/
theorem step_at {table : DriverTable W D} {n : Nat} {id : String} {s s' : Sys D} {l : Label W}
    (h : Sound n s) (hrunning : s.status = .running) (hplug : NotPlugged id s l)
    (hstep : step table s l = some s') :
    s'.status = .running ∧
      ((NotEvicted id s l ∧ s'.sup.registry = s.sup.registry) ∨
        ∃ cmd, TurnAt id cmd s.sup s'.sup ∧
          (NotEvicted id s l ↔ ¬ s.sup.MeetsClosed cmd id)) := by
  by_cases hl : l.bySupervisor = false
  · have haside := step_aside hl hstep
    refine ⟨haside.status.trans hrunning, .inl ⟨?_, haside.registry⟩⟩
    cases l <;> trivial
  · cases l with
    | supervise order world =>
        obtain ⟨envelope, rest, hturn | hstop⟩ := supervise_cases hstep
        · refine ⟨hturn.status', .inr ⟨envelope.cmd, ?_, ?_⟩⟩
          · have hhead : envelope ∈ s.queue := by
              rw [hturn.queue]
              exact List.mem_cons_self
            have hat := turnAt_handled hturn.handled id
              (hplug envelope (by rw [hturn.queue]; rfl)).1 (h.reports envelope hhead)
            -- Recording the command changes neither table nor workers.
            cases hat with
            | same hdevices hreconnecting hopen => exact .same hdevices hreconnecting hopen
            | lost hpresent hopen hstarted => exact .lost hpresent hopen hstarted
            | reattached hwaiting hopen hattached => exact .reattached hwaiting hopen hattached
            | evicted hclosed hgone hreconnecting => exact .evicted hclosed hgone hreconnecting
          · constructor
            · intro hne
              exact hne envelope rest hturn.queue
            · intro hopen envelope' rest' hqueue
              rw [hturn.queue] at hqueue
              cases hqueue
              exact hopen
        · exact absurd hstop.cmd (hplug envelope (by rw [hstop.queue]; rfl)).2
    | superviseReturn =>
        have hstopping := (superviseReturn_cases hstep).stopping
        rw [hrunning] at hstopping
        cases hstopping
    | tick ms => exact absurd rfl hl
    | enqueue cmd => exact absurd rfl hl
    | worker w move => exact absurd rfl hl
    | background w order wakeup => exact absurd rfl hl
    | task k move => exact absurd rfl hl

/-- One step keeps a watched device registered or reconnecting exactly if it does
not evict it; then the device is abandoned. -/
theorem watched_step {table : DriverTable W D} {n : Nat} {id : String} {s s' : Sys D}
    {l : Label W} (h : Sound n s) (hrunning : s.status = .running)
    (hplug : NotPlugged id s l) (hrecovering : s.sup.Recovering n id)
    (hstep : step table s l = some s') :
    (NotEvicted id s l ∧ s'.sup.Recovering n id) ∨
      (¬ NotEvicted id s l ∧ s'.sup.Abandoned id) := by
  obtain ⟨-, ⟨hkept, hregistry⟩ | ⟨cmd, hat, hiff⟩⟩ := step_at h hrunning hplug hstep
  · exact .inl ⟨hkept, hrecovering.of_same (by rw [hregistry]) (by rw [hregistry])⟩
  · cases hat with
    | same hdevices hreconnecting hopen =>
        exact .inl ⟨hiff.2 hopen, hrecovering.of_same hdevices hreconnecting⟩
    | lost hpresent hopen hstarted =>
        obtain ⟨token, hstarted⟩ := hstarted
        exact .inl ⟨hiff.2 hopen, .inr ⟨_, token, hstarted, h.started⟩⟩
    | reattached hwaiting hopen hattached => exact .inl ⟨hiff.2 hopen, .inl hattached⟩
    | evicted hclosed hgone hreconnecting =>
        refine .inr ⟨fun hcon => hiff.1 hcon hclosed, hgone, ?_⟩
        -- An evicted device was registered, hence not being reconnected.
        obtain ⟨op, handle, -, hpresent, -⟩ := hclosed
        rw [hreconnecting]
        rcases h.disjoint id with hnone | hnone
        · rw [hpresent] at hnone
          cases hnone
        · exact hnone

/-- An abandoned device stays abandoned until it is plugged in again. -/
theorem abandoned_step {table : DriverTable W D} {n : Nat} {id : String} {s s' : Sys D}
    {l : Label W} (h : Sound n s) (hrunning : s.status = .running)
    (hplug : NotPlugged id s l) (habandoned : s.sup.Abandoned id)
    (hstep : step table s l = some s') : s'.sup.Abandoned id := by
  obtain ⟨-, ⟨-, hregistry⟩ | ⟨cmd, hat, -⟩⟩ := step_at h hrunning hplug hstep
  · exact habandoned.of_same (by rw [hregistry]) (by rw [hregistry])
  · cases hat with
    | same hdevices hreconnecting _ => exact habandoned.of_same hdevices hreconnecting
    | lost hpresent _ _ =>
        obtain ⟨handle, hcon⟩ := hpresent
        rw [habandoned.1] at hcon
        cases hcon
    | reattached hwaiting _ _ => exact absurd habandoned.2 hwaiting
    | evicted hclosed _ _ =>
        obtain ⟨op, handle, -, hcon, -⟩ := hclosed
        rw [habandoned.1] at hcon
        cases hcon

/-- Over a run without plug events a watched device stays registered or
reconnecting exactly if it is never evicted; otherwise it ends abandoned. -/
theorem watched_run {table : DriverTable W D} {n : Nat} {id : String} {ls : List (Label W)}
    {s s' : Sys D} (h : Sound n s) (hrunning : s.status = .running)
    (hplug : EveryStep (step table) (NotPlugged id) s ls)
    (hrecovering : s.sup.Recovering n id) (hrun : run (step table) s ls = some s') :
    (EveryStep (step table) (NotEvicted id) s ls ∧ s'.sup.Recovering n id) ∨
      (¬ EveryStep (step table) (NotEvicted id) s ls ∧ s'.sup.Abandoned id) := by
  induction ls generalizing s with
  | nil =>
      cases hrun
      exact .inl ⟨trivial, hrecovering⟩
  | cons l ls ih =>
      obtain ⟨m, hm, hrest⟩ := run_cons_some.1 hrun
      obtain ⟨hl, hls⟩ := hplug m hm
      have hsound := sound_step (step_cases hm) h
      have hstatus := (step_at h hrunning hl hm).1
      rcases watched_step h hrunning hl hrecovering hm with ⟨hkept, hm'⟩ | ⟨hevicted, hm'⟩
      · rcases ih hsound hstatus hls hm' hrest with ⟨hall, hend⟩ | ⟨hnot, hend⟩
        · refine .inl ⟨?_, hend⟩
          intro m' hm''
          rw [hm] at hm''
          cases hm''
          exact ⟨hkept, hall⟩
        · exact .inr ⟨fun hcon => hnot (hcon m hm).2, hend⟩
      · refine .inr ⟨fun hcon => hevicted (hcon m hm).1, ?_⟩
        have hend : Sound n s' ∧ s'.status = .running ∧ s'.sup.Abandoned id := by
          refine run_preserves_of_everyStep (Q := NotPlugged id)
            (I := fun s => Sound n s ∧ s.status = .running ∧ s.sup.Abandoned id) ?_
            ⟨hsound, hstatus, hm'⟩ hls hrest
          rintro t l' t' ⟨ht, hrunning', habandoned⟩ hl' ht'
          exact ⟨sound_step (step_cases ht') ht, (step_at ht hrunning' hl' ht').1,
            abandoned_step ht hrunning' hl' habandoned ht'⟩
        exact hend.2.2

/-- Worker `w`, registered for the device, fails fatally between `s₀` and `s₁`,
the schedule `ls` follows, and between `s₂` and `s₃` its report is handled. -/
structure FatalFailure (table : DriverTable W D) (id : String) (w : WorkerId)
    (ls : List (Label W)) (s₀ s₁ s₂ s₃ : Sys D) : Prop where
  reachable : Reachable (step table) start s₀
  registered : ∃ handle, s₀.sup.registry.devices[id]? = some handle ∧ handle.tx = w
  failed : ∃ order, step table s₀ (.worker w (.finish order)) = some s₁
  fatal : ∃ x, s₁.sup.workers[w]? = some x ∧ x.phase = .reporting
  unplugged : EveryStep (step table) (NotPlugged id) s₁ ls
  reached : run (step table) s₁ ls = some s₂
  report : ∃ err rest, s₂.queue = ⟨.worker w, .deviceError id err⟩ :: rest
  handled : ∃ order world, step table s₂ (.supervise order world) = some s₃

/-- The device is being reconnected by a task started as the `n`-th or later. -/
def Restarted (n : Nat) (id : String) (s : Sys D) : Prop :=
  ∃ k token, s.sup.registry.reconnecting[id]? = some (k, token) ∧ n ≤ k

omit [KeyboardDriver D] [BackgroundTasks D] in
/-- Once the supervisor has left its loop it does not return to it. -/
theorem stopped_step {s s' : Sys D} (hstep : Stepped s s') (h : s.status ≠ .running) :
    s'.status ≠ .running := by
  cases hstep with
  | turned envelope rest hturn => exact absurd hturn.running h
  | stopped envelope rest hstop => exact absurd hstop.running h
  | returned hreturn =>
      rw [hreturn.status']
      nofun
  | aside haside =>
      rw [haside.status]
      exact h

/-- In every interleaving of requests, worker steps and supervisor steps: once
the report of a fatal failure is handled, the device is being reconnected by a
task started since the failure exactly if no request since then was forwarded to
its registered worker over a closed channel. -/
theorem fatal_failure_recovers_iff {table : DriverTable W D} {id : String} {w : WorkerId}
    {ls : List (Label W)} {s₀ s₁ s₂ s₃ : Sys D} (h : FatalFailure table id w ls s₀ s₁ s₂ s₃) :
    Restarted s₁.sup.tasks.length id s₃ ↔ EveryStep (step table) (NotEvicted id) s₁ ls := by
  obtain ⟨pre, hpre⟩ := h.reachable
  obtain ⟨order, hfailed⟩ := h.failed
  obtain ⟨err, rest, hqueue⟩ := h.report
  obtain ⟨order', world, hhandled⟩ := h.handled
  have hturn := supervise_turned hhandled hqueue (by nofun)
  -- The failing step leaves the registry to the supervisor.
  have haside : Aside s₀ s₁ := step_aside rfl hfailed
  have hsound₀ : Sound 0 s₀ := by
    refine run_preserves (fun s l s' hs hstep => sound_step (step_cases hstep) hs)
      ⟨?_, Nat.zero_le _, ?_⟩ hpre
    · intro id'
      exact .inl ExtTreeMap.getElem?_empty
    · exact fun _ hcon => absurd hcon List.not_mem_nil
  have hsound : Sound s₁.sup.tasks.length s₁ :=
    ⟨(sound_step (.aside haside) hsound₀).disjoint, Nat.le_refl _,
      (sound_step (.aside haside) hsound₀).reports⟩
  have hrunning : s₁.status = .running := by
    by_contra hcon
    exact run_preserves (I := fun s => s.status ≠ .running)
      (fun s l s' hs hstep => stopped_step (step_cases hstep) hs) hcon h.reached hturn.running
  have hregistered : s₁.sup.Recovering s₁.sup.tasks.length id := by
    obtain ⟨handle, hpresent, -⟩ := h.registered
    exact .inl ⟨handle, by rw [haside.registry]; exact hpresent⟩
  have hsound₂ : Sound s₁.sup.tasks.length s₂ :=
    run_preserves (fun s l s' hs hstep => sound_step (step_cases hstep) hs) hsound h.reached
  have herr : err = .driver .disconnected :=
    hsound₂.reports _ (by rw [hqueue]; exact List.mem_cons_self) id err rfl
  have hcases := Supervisor.report_cases hturn.handled
  rcases watched_run hsound hrunning h.unplugged hregistered h.reached with
    ⟨hkept, hrecovering⟩ | ⟨hevicted, habandoned⟩
  · refine ⟨fun _ => hkept, fun _ => ?_⟩
    rcases hcases with ⟨habsent, hregistry⟩ | ⟨handle, -, -, hstarted⟩
    · -- An earlier report has already started the task.
      rcases hrecovering with ⟨handle, hcon⟩ | ⟨k, token, hreconnecting, hk⟩
      · rw [show s₂.sup.registry.devices[id]? = none from habsent] at hcon
        cases hcon
      · refine ⟨k, token, ?_, hk⟩
        rw [hregistry]
        exact hreconnecting
    · exact ⟨_, _, hstarted herr, hsound₂.started⟩
  · refine ⟨?_, fun hcon => absurd hcon hevicted⟩
    rintro ⟨k, token, hreconnecting, -⟩
    rcases hcases with ⟨-, hregistry⟩ | ⟨handle, hpresent, -, -⟩
    · rw [hregistry] at hreconnecting
      exact absurd (hreconnecting.symm.trans habandoned.2) (by nofun)
    · exact absurd (hpresent.symm.trans habandoned.1) (by nofun)

/-- A device is attached and a first request is on its worker. -/
def failingRun : List (Label (Except DaemonError MockDriver)) :=
  [.enqueue (.deviceConnected "dev1" 0x05AC 0x024F "/dev/hidraw7"),
    .supervise HashOrder.sorted (.ok (mockDriver [.error .disconnected])),
    .enqueue (.getKeycode "dev1" 0 0 0 1), .supervise HashOrder.sorted (.ok (mockDriver [])),
    .worker 0 .recv]

/-- The request fails; nothing else happens before the report is handled. -/
def quietSchedule : List (Label (Except DaemonError MockDriver)) :=
  [.worker 0 .report, .worker 0 .exit]

/-- The request fails; another request is ahead of the report. -/
def busySchedule : List (Label (Except DaemonError MockDriver)) :=
  [.enqueue (.getKeycode "dev1" 0 0 0 2), .worker 0 .report, .worker 0 .exit,
    .supervise HashOrder.sorted (.ok (mockDriver []))]

/-- The failure that follows `failingRun`, then the given schedule and the
handling of the report. -/
theorem fatalFailure_of (ls : List (Label (Except DaemonError MockDriver)))
    {P : Sys MockDriver → Sys MockDriver → Bool}
    (h : ((run (step mockTable) start failingRun).any fun s₀ =>
      (step mockTable s₀ (.worker 0 (.finish HashOrder.sorted))).any fun s₁ =>
      (run (step mockTable) s₁ ls).any fun s₂ =>
      (step mockTable s₂ (.supervise HashOrder.sorted (.ok (mockDriver [])))).any fun s₃ =>
        s₀.sup.registry.devices["dev1"]?.any (fun handle => handle.tx = 0) &&
        s₁.sup.workers[0]?.any (fun x => x.phase = .reporting) &&
        decide (EveryStep (step mockTable) (NotPlugged "dev1") s₁ ls) &&
        decide (s₂.queue = [⟨.worker 0, .deviceError "dev1" (.driver .disconnected)⟩]) &&
        P s₁ s₃) = true) :
    ∃ s₀ s₁ s₂ s₃, FatalFailure mockTable "dev1" 0 ls s₀ s₁ s₂ s₃ ∧ P s₁ s₃ = true := by
  obtain ⟨s₀, hpre, h⟩ := (Option.any_eq_true _ _).1 h
  obtain ⟨s₁, hfailed, h⟩ := (Option.any_eq_true _ _).1 h
  obtain ⟨s₂, hreached, h⟩ := (Option.any_eq_true _ _).1 h
  obtain ⟨s₃, hhandled, h⟩ := (Option.any_eq_true _ _).1 h
  simp only [Bool.and_eq_true, decide_eq_true_eq] at h
  obtain ⟨⟨⟨⟨hregistered, hfatal⟩, hunplugged⟩, hqueue⟩, hP⟩ := h
  obtain ⟨handle, hpresent, htx⟩ := (Option.any_eq_true _ _).1 hregistered
  obtain ⟨x, hx, hphase⟩ := (Option.any_eq_true _ _).1 hfatal
  exact ⟨s₀, s₁, s₂, s₃,
    ⟨⟨failingRun, hpre⟩, ⟨handle, hpresent, of_decide_eq_true htx⟩, ⟨_, hfailed⟩,
      ⟨x, hx, of_decide_eq_true hphase⟩, hunplugged, hreached, ⟨_, _, hqueue⟩, ⟨_, _, hhandled⟩⟩,
    hP⟩

/-- With nothing ahead of the report the device is being reconnected. -/
theorem fatal_failure_recovers_iff_quiet : ∃ s₀ s₁ s₂ s₃,
    FatalFailure mockTable "dev1" 0 quietSchedule s₀ s₁ s₂ s₃ ∧
      EveryStep (step mockTable) (NotEvicted "dev1") s₁ quietSchedule := by
  obtain ⟨s₀, s₁, s₂, s₃, h, hP⟩ := fatalFailure_of quietSchedule
    (P := fun s₁ s₃ => s₃.sup.registry.reconnecting["dev1"]?.any
      fun e => s₁.sup.tasks.length ≤ e.1) (by decide +kernel)
  obtain ⟨⟨k, token⟩, hreconnecting, hk⟩ := (Option.any_eq_true _ _).1 hP
  exact ⟨s₀, s₁, s₂, s₃, h,
    (fatal_failure_recovers_iff h).1 ⟨k, token, hreconnecting, of_decide_eq_true hk⟩⟩

/-- With a request ahead of the report the device is lost. -/
theorem queued_request_escapes_recovery : ¬ ∀ s₀ s₁ s₂ s₃,
    FatalFailure mockTable "dev1" 0 busySchedule s₀ s₁ s₂ s₃ →
      Restarted s₁.sup.tasks.length "dev1" s₃ := by
  intro hclaim
  obtain ⟨s₀, s₁, s₂, s₃, h, hP⟩ := fatalFailure_of busySchedule
    (P := fun _ s₃ => s₃.sup.registry.reconnecting["dev1"]?.isNone) (by decide +kernel)
  obtain ⟨k, token, hcon, -⟩ := hclaim s₀ s₁ s₂ s₃ h
  rw [hcon] at hP
  cases hP

end Runs

end Sys

end Clackd.Engine
