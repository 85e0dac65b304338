import Clackd.Engine.Lifecycle

/-!
# Whom a failure report evicts

`DeviceError` names a device, not a worker.  A worker whose handle was dropped
may still fail on an operation it has queued, and its report may be handled
after another worker was attached under the same name.

The record tells which worker was attached last under a name and whether it was
taken out since; while the supervisor runs, that is the registered one.

## Main results

* `attachments_step`: the registry is what the record says of attachments.
* `report_evicts_own_iff`: over a run, every report evicts at most the worker
  that sent it exactly if no report is handled while another worker, attached
  last under its name, is still there.
-/

namespace Clackd.Engine

open Clackd.Foundation Clackd.Hal
open Std (ExtTreeMap)

/-- Whether an entry changes who is attached under a name. -/
def Effect.Touches (id : String) : Effect → Prop
  | .attached id' _ => id' = id
  | .detached id' _ => id' = id
  | _ => False

/-- The worker was attached last under the name, and is not taken out since. -/
def AttachedLast (id : String) (w : WorkerId) (log : List Effect) : Prop :=
  Since (fun x => x = .attached id w) (Effect.Touches id) log

theorem attachedLast_append_of_untouched {id : String} {w : WorkerId} {log more : List Effect}
    (h : ∀ x ∈ more, ¬ x.Touches id) :
    AttachedLast id w (log ++ more) ↔ AttachedLast id w log := by
  refine since_append_of_irrelevant ?_
  intro x hx
  refine ⟨?_, h x hx⟩
  rintro rfl
  exact h _ hx rfl

/-- A batch that attaches one worker. -/
theorem attachedLast_attach {id : String} {v w : WorkerId} {log before after : List Effect}
    (hafter : ∀ x ∈ after, ¬ x.Touches id) :
    AttachedLast id w (log ++ (before ++ .attached id v :: after)) ↔ v = w := by
  have hsplit : log ++ (before ++ Effect.attached id v :: after) =
      (log ++ before ++ [.attached id v]) ++ after := by
    simp only [List.append_assoc, List.cons_append, List.nil_append]
  rw [hsplit, attachedLast_append_of_untouched hafter, AttachedLast, since_snoc]
  constructor
  · rintro (heq | ⟨-, hcon⟩)
    · injection heq
    · exact absurd rfl hcon
  · rintro rfl
    exact .inl rfl

/-- A batch that takes a worker out. -/
theorem not_attachedLast_detach {id : String} {v w : WorkerId} {log before after : List Effect}
    (hafter : ∀ x ∈ after, ¬ x.Touches id) :
    ¬ AttachedLast id w (log ++ (before ++ .detached id v :: after)) := by
  have hsplit : log ++ (before ++ Effect.detached id v :: after) =
      (log ++ before ++ [.detached id v]) ++ after := by
    simp only [List.append_assoc, List.cons_append, List.nil_append]
  rw [hsplit, attachedLast_append_of_untouched hafter, AttachedLast, since_snoc]
  rintro (heq | ⟨-, hcon⟩)
  · cases heq
  · exact hcon rfl

namespace Supervisor

variable {W D : Type}

/-- The registered worker of every device is the one the record says. -/
def Attachments (e : Supervisor D) : Prop :=
  ∀ (id : String) (w : WorkerId),
    (∃ handle, e.registry.devices[id]? = some handle ∧ handle.tx = w) ↔ AttachedLast id w e.log

theorem Attachments.of_same {e e' : Supervisor D} (h : e.Attachments) {more : List Effect}
    (hdevices : e'.registry.devices = e.registry.devices) (hlog : e'.log = e.log ++ more)
    (hmore : ∀ id, ∀ x ∈ more, ¬ x.Touches id) : e'.Attachments := by
  intro id w
  rw [hdevices, hlog, attachedLast_append_of_untouched (hmore id)]
  exact h id w

theorem Attachments.attach {e e' : Supervisor D} (h : e.Attachments) {id : String}
    {handle : DeviceHandle} {before after : List Effect}
    (hdevices : e'.registry.devices = e.registry.devices.insert id handle)
    (hlog : e'.log = e.log ++ (before ++ .attached id handle.tx :: after))
    (hbefore : ∀ id, ∀ x ∈ before, ¬ x.Touches id)
    (hafter : ∀ id, ∀ x ∈ after, ¬ x.Touches id) : e'.Attachments := by
  intro id' w
  rw [hdevices, hlog, lookup_insert]
  by_cases hid : id = id'
  · subst hid
    rw [if_pos rfl, attachedLast_attach (hafter id)]
    constructor
    · rintro ⟨other, heq, htx⟩
      cases heq
      exact htx
    · intro htx
      exact ⟨handle, rfl, htx⟩
  · rw [if_neg hid, attachedLast_append_of_untouched]
    · exact h id' w
    · intro x hx
      rcases List.mem_append.1 hx with hx | hx
      · exact hbefore id' x hx
      · rcases List.mem_cons.1 hx with rfl | hx
        · exact hid
        · exact hafter id' x hx

theorem Attachments.detach {e e' : Supervisor D} (h : e.Attachments) {id : String}
    {handle : DeviceHandle} {before after : List Effect}
    (hdevices : e'.registry.devices = e.registry.devices.erase id)
    (hlog : e'.log = e.log ++ (before ++ .detached id handle.tx :: after))
    (hbefore : ∀ id, ∀ x ∈ before, ¬ x.Touches id)
    (hafter : ∀ id, ∀ x ∈ after, ¬ x.Touches id) : e'.Attachments := by
  intro id' w
  rw [hdevices, hlog, lookup_erase]
  by_cases hid : id = id'
  · subst hid
    rw [if_pos rfl]
    refine ⟨?_, fun hcon => absurd hcon (not_attachedLast_detach (hafter id))⟩
    rintro ⟨other, hcon, -⟩
    cases hcon
  · rw [if_neg hid, attachedLast_append_of_untouched]
    · exact h id' w
    · intro x hx
      rcases List.mem_append.1 hx with hx | hx
      · exact hbefore id' x hx
      · rcases List.mem_cons.1 hx with rfl | hx
        · exact hid
        · exact hafter id' x hx

theorem attachments_handled {envelope : Envelope} {e e' : Supervisor D} (h : e.Attachments)
    (hhandled : (e.emit [.handled envelope]).Handled envelope.cmd envelope.origin e') :
    e'.Attachments := by
  have hfirst : ∀ id, ∀ x ∈ [Effect.handled envelope], ¬ x.Touches id := by
    intro id x hx
    rw [List.mem_singleton.1 hx]
    exact fun hcon => hcon
  cases hhandled with
  | quiet effects hregistry _ hlog hreplies _ _ _ _ =>
      refine h.of_same (congrArg DeviceRegistry.devices hregistry)
        (hlog.trans (List.append_assoc _ _ _)) ?_
      intro id x hx
      rcases List.mem_append.1 hx with hx | hx
      · exact hfirst id x hx
      · obtain ⟨reply, r, rfl⟩ := hreplies x hx
        exact fun hcon => hcon
  | cancelled id _ hregistry _ hlog _ =>
      exact h.of_same (by rw [hregistry]; rfl) hlog hfirst
  | connected id vendor_id product_id path handle _ _ _ hregistry _ hlog =>
      refine h.attach (congrArg DeviceRegistry.devices hregistry)
        (hlog.trans (List.append_assoc _ _ _)) hfirst ?_
      simp [Effect.Touches]
  | retried id vendor_id product_id path t _ _ _ hregistry _ hlog =>
      refine h.of_same (by rw [hregistry]; rfl) (hlog.trans (List.append_assoc _ _ _)) ?_
      simp [Effect.Touches]
  | disconnected id handle _ _ hregistry _ hlog =>
      refine h.detach (congrArg DeviceRegistry.devices hregistry)
        (hlog.trans (List.append_assoc _ _ _)) hfirst ?_
      simp [Effect.Touches]
  | lost id handle t _ _ _ hregistry _ hlog =>
      refine h.detach (congrArg DeviceRegistry.devices hregistry)
        (hlog.trans (List.append_assoc _ _ _)) hfirst ?_
      simp [Effect.Touches]
  | failed id err handle _ _ _ hregistry _ hlog =>
      refine h.detach (congrArg DeviceRegistry.devices hregistry)
        (hlog.trans (List.append_assoc _ _ _)) hfirst ?_
      simp [Effect.Touches]
  | reattached id handle token k _ _ hregistry _ hlog =>
      have hlog' : e'.log = e.log ++ ([.handled envelope, .accepted id envelope.origin] ++
          .attached id handle.tx :: [.lifecycle (.deviceAdded id)]) := by
        rw [hlog]
        simp only [emit, List.append_assoc, List.cons_append, List.nil_append]
      refine h.attach (congrArg DeviceRegistry.devices hregistry) hlog' ?_ ?_
      · simp [Effect.Touches]
      · simp [Effect.Touches]
  | evicted id op handle _ _ _ _ hregistry _ hlog =>
      refine h.detach (congrArg DeviceRegistry.devices hregistry)
        (hlog.trans (List.append_assoc _ _ _)) hfirst ?_
      simp [Effect.Touches]

/-- What handling a report does: nothing without a registered handle; otherwise
the handle is taken out and, if the report says `Disconnected`, a reconnect task
is started. -/
theorem report_cases {id : String} {err : DaemonError} {sender : Origin}
    {e e' : Supervisor D} (h : e.Handled (.deviceError id err) sender e') :
    (e.registry.devices[id]? = none ∧ e'.registry = e.registry) ∨
      ∃ handle, e.registry.devices[id]? = some handle ∧
        e'.registry.devices = e.registry.devices.erase id ∧
        (err = .driver .disconnected → e'.registry.reconnecting[id]? =
          some (e.tasks.length, e.registry.next_reconnect_token)) := by
  cases h with
  | quiet effects hregistry _ _ _ _ _ herror _ => exact .inl ⟨herror id err rfl, hregistry⟩
  | lost id' handle t hcmd hpresent _ hregistry _ _ =>
      cases hcmd
      refine .inr ⟨handle, hpresent, congrArg DeviceRegistry.devices hregistry, fun _ => ?_⟩
      rw [hregistry]
      exact lookup_insert_self _ _ _
  | failed id' err' handle hcmd herr hpresent hregistry _ _ =>
      cases hcmd
      exact .inr ⟨handle, hpresent, congrArg DeviceRegistry.devices hregistry,
        fun hcon => absurd hcon herr⟩
  | cancelled id' hcmd _ _ _ _ => cases hcmd
  | connected id' vendor_id product_id path handle hcmd _ _ _ _ _ => cases hcmd
  | retried id' vendor_id product_id path t hcmd _ _ _ _ _ => cases hcmd
  | disconnected id' handle hcmd _ _ _ _ => cases hcmd
  | reattached id' handle token k hcmd _ _ _ _ => cases hcmd
  | evicted id' op handle hcmd _ _ _ _ _ _ => cases hcmd

end Supervisor

namespace Sys

variable {W D : Type}

/-- While the supervisor runs, the registry is what the record says. -/
def AttachmentsKept (s : Sys D) : Prop := s.status = .running → s.sup.Attachments

theorem attachments_step {s s' : Sys D} (hstep : Stepped s s') (h : AttachmentsKept s) :
    AttachmentsKept s' := by
  intro hrunning
  cases hstep with
  | turned envelope rest hturn =>
      exact Supervisor.attachments_handled (h hturn.running) hturn.handled
  | stopped envelope rest hstop =>
      rw [hstop.status'] at hrunning
      cases hrunning
  | returned hreturn =>
      rw [hreturn.status'] at hrunning
      cases hrunning
  | aside haside =>
      rw [haside.status] at hrunning
      obtain ⟨more, hlog, hquiet⟩ := haside.log
      refine (h hrunning).of_same (congrArg DeviceRegistry.devices haside.registry) hlog ?_
      intro id x hx
      have hq := hquiet x hx
      cases x with
      | attached id' w => cases hq
      | detached id' w => cases hq
      | _ => exact fun hcon => hcon

section Runs

variable [KeyboardDriver D] [BackgroundTasks D]

/-- A report that is handled takes out only the handle of the worker that sent
it; with another worker registered under the name, the registry and the events
stay as they are and no reconnect is started. -/
def EvictsOwn (table : DriverTable W D) (s : Sys D) : Label W → Prop
  | .supervise order world =>
      ∀ (envelope : Envelope) (rest : List Envelope) (w : WorkerId) (id : String)
        (err : DaemonError) (s' : Sys D),
        s.queue = envelope :: rest → envelope.origin = .worker w →
        envelope.cmd = .deviceError id err →
        step table s (.supervise order world) = some s' →
        (∀ (id' : String) (handle : DeviceHandle),
          s.sup.registry.devices[id']? = some handle →
          s'.sup.registry.devices[id']? = none → handle.tx = w) ∧
        ∀ handle : DeviceHandle, s.sup.registry.devices[id]? = some handle → handle.tx ≠ w →
          s'.sup.registry = s.sup.registry ∧ s'.sup.tasks = s.sup.tasks ∧
            lifecycleEvents s'.sup.log = lifecycleEvents s.sup.log
  | _ => True

/-- The report at the head of the queue comes from the worker attached last under
its name, or that worker is taken out since. -/
def ReportsCurrent (s : Sys D) : Label W → Prop
  | .supervise _ _ =>
      ∀ (envelope : Envelope) (rest : List Envelope) (w : WorkerId) (id : String)
        (err : DaemonError),
        s.status = .running → s.queue = envelope :: rest → envelope.origin = .worker w →
        envelope.cmd = .deviceError id err →
        ∀ v, AttachedLast id v s.sup.log → v = w
  | _ => True

theorem evictsOwn_iff (table : DriverTable W D) (s : Sys D) (l : Label W) (s' : Sys D)
    (h : AttachmentsKept s) (hstep : step table s l = some s') :
    EvictsOwn table s l ↔ ReportsCurrent s l := by
  cases l with
  | supervise order world =>
      -- The turn on a report, at the registry.
      have hturn : ∀ {envelope : Envelope} {rest : List Envelope} {id : String}
          {err : DaemonError} {t : Sys D}, s.queue = envelope :: rest →
          envelope.cmd = .deviceError id err → step table s (.supervise order world) = some t →
          (s.sup.emit [.handled envelope]).Handled (.deviceError id err) envelope.origin t.sup := by
        intro envelope rest id err t hqueue hcmd hstep
        have hhandled := (supervise_turned hstep hqueue (by rw [hcmd]; nofun)).handled
        rw [hcmd] at hhandled
        exact hhandled
      constructor
      · intro hown envelope rest w id err hrunning hqueue horigin hcmd v hattached
        obtain ⟨handle, hpresent, rfl⟩ := (h hrunning id v).2 hattached
        refine (hown envelope rest w id err s' hqueue horigin hcmd hstep).1 id handle hpresent ?_
        rcases Supervisor.report_cases (hturn hqueue hcmd hstep) with
          ⟨habsent, -⟩ | ⟨other, -, hdevices, -⟩
        · rw [show s.sup.registry.devices[id]? = none from habsent] at hpresent
          cases hpresent
        · rw [hdevices]
          exact lookup_erase_self _ _
      · intro hcurrent envelope rest w id err t hqueue horigin hcmd hstep'
        have hrunning := (supervise_turned hstep' hqueue (by rw [hcmd]; nofun)).running
        have hown : ∀ handle : DeviceHandle, s.sup.registry.devices[id]? = some handle →
            handle.tx = w := by
          intro handle hpresent
          exact hcurrent envelope rest w id err hrunning hqueue horigin hcmd handle.tx
            ((h hrunning id handle.tx).1 ⟨handle, hpresent, rfl⟩)
        refine ⟨?_, fun handle hpresent hne => absurd (hown handle hpresent) hne⟩
        intro id' handle hpresent hgone
        rcases Supervisor.report_cases (hturn hqueue hcmd hstep') with
          ⟨-, hregistry⟩ | ⟨other, -, hdevices, -⟩
        · rw [hregistry, show (s.sup.emit [.handled envelope]).registry.devices[id']? =
            some handle from hpresent] at hgone
          cases hgone
        · rw [hdevices, lookup_erase] at hgone
          by_cases hid : id = id'
          · subst hid
            exact hown handle hpresent
          · rw [if_neg hid, show (s.sup.emit [.handled envelope]).registry.devices[id']? =
              some handle from hpresent] at hgone
            cases hgone
  | _ => exact Iff.rfl

/-- Over any run and any order of reports and plug events: every report evicts at
most the worker that sent it exactly if no report is handled while another worker,
attached last under its name, is still registered. -/
theorem report_evicts_own_iff (table : DriverTable W D) (ls : List (Label W)) :
    EveryStep (step table) (EvictsOwn table) start ls ↔
      EveryStep (step table) ReportsCurrent start ls := by
  refine everyStep_congr (J := AttachmentsKept)
    (fun s l s' h hstep => attachments_step (step_cases hstep) h) (evictsOwn_iff table) ?_ ls
  intro _ id w
  constructor
  · rintro ⟨handle, hcon, -⟩
    change (∅ : ExtTreeMap String DeviceHandle)[id]? = _ at hcon
    rw [ExtTreeMap.getElem?_empty] at hcon
    cases hcon
  · intro hcon
    exact absurd hcon not_since_nil

/-- A worker fails, its device is replugged, and only then it reports. -/
def staleReportRun : List (Label (Except DaemonError MockDriver)) :=
  [.enqueue (.deviceConnected "dev1" 0x05AC 0x024F "/dev/hidraw7"),
    .supervise HashOrder.sorted (.ok (mockDriver [.error .disconnected])),
    .enqueue (.getKeycode "dev1" 0 0 0 1), .supervise HashOrder.sorted (.ok (mockDriver [])),
    .worker 0 .recv, .worker 0 (.finish HashOrder.sorted),
    .enqueue (.deviceDisconnected "dev1"),
    .enqueue (.deviceConnected "dev1" 0x05AC 0x024F "/dev/hidraw8"), .worker 0 .report,
    .supervise HashOrder.sorted (.ok (mockDriver [])),
    .supervise HashOrder.sorted (.ok (mockDriver []))]

/-- The report takes out the handle of the worker that was attached at the
replug. -/
theorem stale_report_evicts_other : ¬ EveryStep (step mockTable) (EvictsOwn mockTable) start
    (staleReportRun ++ [.supervise HashOrder.sorted (.ok (mockDriver []))]) := by
  intro h
  have hend : (run (step mockTable) start staleReportRun).map
      (fun s => (s.queue, s.sup.registry.devices["dev1"]?.map DeviceHandle.tx,
        (step mockTable s (.supervise HashOrder.sorted (.ok (mockDriver [])))).map
          fun s' => s'.sup.registry.devices["dev1"]?)) =
      some ([⟨.worker 0, .deviceError "dev1" (.driver .disconnected)⟩], some 1, some none) := by
    decide +kernel
  obtain ⟨s, hrun, heq⟩ := Option.map_eq_some_iff.1 hend
  obtain ⟨hqueue, heq⟩ := Prod.mk.inj heq
  obtain ⟨hhandle, heq⟩ := Prod.mk.inj heq
  obtain ⟨handle, hpresent, htx⟩ := Option.map_eq_some_iff.1 hhandle
  obtain ⟨s', hstep, hgone⟩ := Option.map_eq_some_iff.1 heq
  have hown := ((h.right hrun) s' hstep).1 _ [] 0 "dev1" _ s' hqueue rfl rfl hstep
  have hcon := hown.1 "dev1" handle hpresent hgone
  rw [htx] at hcon
  cases hcon

end Runs

end Sys

end Clackd.Engine
