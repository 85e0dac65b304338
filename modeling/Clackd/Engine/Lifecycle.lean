import Clackd.Engine.Tokens

/-!
# The lifecycle events mirror the registry

`DeviceAdded` and `DeviceRemoved` are sent where `registry.devices` changes, with
one exception: the eviction of a handle whose channel is closed, met when a
request is forwarded to a dead worker, sends nothing.  A worker is dead and
still registered between its exit and the handling of its report, and after a
panic until a request finds it.

## Main results

* `disjoint_step`: no device is registered and reconnecting at once.
* `mirrored_step`: one step keeps the mirror exactly if it is not such an
  eviction.
* `lifecycle_mirrors_iff`: the same for whole runs.
-/

namespace Clackd.Engine

open Clackd.Foundation Clackd.Hal
open Std (ExtTreeMap)

/-- The marks that the lifecycle events of a device leave: `true` for
`DeviceAdded`, `false` for `DeviceRemoved`. -/
def presence (id : String) (log : List Effect) : List Bool :=
  log.filterMap fun x =>
    match x with
    | .lifecycle (.deviceAdded id') => if id' = id then some true else none
    | .lifecycle (.deviceRemoved id') => if id' = id then some false else none
    | _ => none

theorem presence_append (id : String) (log more : List Effect) :
    presence id (log ++ more) = presence id log ++ presence id more := List.filterMap_append

theorem presence_of_quiet {id : String} {effects : List Effect}
    (h : ∀ x ∈ effects, x.isQuiet = true) : presence id effects = [] := by
  rw [presence, List.filterMap_eq_nil_iff]
  intro x hx
  have hquiet := h x hx
  cases x with
  | lifecycle event =>
      cases event with
      | deviceAdded id' => cases hquiet
      | deviceRemoved id' => cases hquiet
      | layoutUpdated id' => rfl
  | _ => rfl

/-- The events of a device alternate, and it is present exactly if the last of
them is `DeviceAdded`. -/
structure MirroredBy (marks : List Bool) (present : Prop) : Prop where
  alternating : Alternating true marks
  last : present ↔ marks.getLast? = some true

theorem MirroredBy.added {marks : List Bool} {present : Prop} (h : MirroredBy marks present)
    (habsent : ¬ present) {present' : Prop} (hpresent : present') :
    MirroredBy (marks ++ [true]) present' where
  alternating := by
    refine (alternating_snoc true marks true).2 ⟨h.alternating, ?_⟩
    have hlast : marks.getLast? ≠ some true := fun hcon => habsent (h.last.2 hcon)
    cases hmarks : marks.getLast? with
    | none => rfl
    | some mark =>
        cases mark with
        | true => exact absurd hmarks hlast
        | false => rfl
  last := by
    rw [List.getLast?_concat]
    exact ⟨fun _ => rfl, fun _ => hpresent⟩

theorem MirroredBy.removed {marks : List Bool} {present : Prop} (h : MirroredBy marks present)
    (hpresent : present) {present' : Prop} (habsent : ¬ present') :
    MirroredBy (marks ++ [false]) present' where
  alternating := by
    refine (alternating_snoc true marks false).2 ⟨h.alternating, ?_⟩
    rw [h.last.1 hpresent]
    rfl
  last := by
    rw [List.getLast?_concat]
    exact ⟨fun hcon => absurd hcon habsent, fun hcon => by cases hcon⟩

namespace Supervisor

variable {W D : Type}

/-- No device is registered and reconnecting at once. -/
def Disjoint (e : Supervisor D) : Prop :=
  ∀ id : String, e.registry.devices[id]? = none ∨ e.registry.reconnecting[id]? = none

/-- The registry at one device after a table of it changes there. -/
theorem disjoint_of_insert_devices {e e' : Supervisor D} (h : e.Disjoint) {id : String}
    {handle : DeviceHandle}
    (hdevices : e'.registry.devices = e.registry.devices.insert id handle)
    (hreconnecting : e'.registry.reconnecting = e.registry.reconnecting.erase id) :
    e'.Disjoint := by
  intro id'
  rw [hdevices, hreconnecting, lookup_insert, lookup_erase]
  by_cases hid : id = id'
  · rw [if_pos hid, if_pos hid]
    exact .inr rfl
  · rw [if_neg hid, if_neg hid]
    exact h id'

theorem disjoint_of_insert_reconnecting {e e' : Supervisor D} (h : e.Disjoint) {id : String}
    (hdevice : e'.registry.devices[id]? = none)
    (hdevices : ∀ id' : String, id ≠ id' →
      e'.registry.devices[id']? = e.registry.devices[id']?)
    (hreconnecting : ∀ id' : String, id ≠ id' →
      e'.registry.reconnecting[id']? = e.registry.reconnecting[id']?) : e'.Disjoint := by
  intro id'
  by_cases hid : id = id'
  · subst hid
    exact .inl hdevice
  · rw [hdevices id' hid, hreconnecting id' hid]
    exact h id'

/-- Entries that are only taken away leave the tables disjoint. -/
theorem disjoint_of_erase {e e' : Supervisor D} (h : e.Disjoint)
    (hdevices : ∀ id : String, e.registry.devices[id]? = none →
      e'.registry.devices[id]? = none)
    (hreconnecting : ∀ id : String, e.registry.reconnecting[id]? = none →
      e'.registry.reconnecting[id]? = none) : e'.Disjoint := by
  intro id
  rcases h id with hnone | hnone
  · exact .inl (hdevices id hnone)
  · exact .inr (hreconnecting id hnone)

theorem disjoint_handled {cmd : EngineCommand} {sender : Origin} {e e' : Supervisor D}
    (hhandled : e.Handled cmd sender e') (h : e.Disjoint) : e'.Disjoint := by
  have hsame : e'.registry = e.registry → e'.Disjoint := by
    intro hregistry
    refine disjoint_of_erase h ?_ ?_ <;> rw [hregistry] <;> exact fun _ hnone => hnone
  have hkeep : ∀ {V : Type} (m : ExtTreeMap String V) (id id' : String),
      m[id']? = none → (m.erase id)[id']? = none := by
    intro V m id id' hnone
    rw [lookup_erase]
    split
    · rfl
    · exact hnone
  cases hhandled with
  | quiet effects hregistry _ _ _ _ _ _ _ => exact hsame hregistry
  | cancelled id _ hregistry _ _ _ =>
      refine disjoint_of_erase h ?_ ?_ <;> rw [hregistry]
      · exact fun _ hnone => hnone
      · exact fun id' hnone => hkeep _ id id' hnone
  | connected id vendor_id product_id path handle _ _ _ hregistry _ _ =>
      exact disjoint_of_insert_devices h (by rw [hregistry]) (by rw [hregistry])
  | retried id vendor_id product_id path t _ habsent _ hregistry _ _ =>
      have hdevice : e'.registry.devices[id]? = none := by rw [hregistry]; exact habsent
      refine disjoint_of_insert_reconnecting h hdevice ?_ ?_ <;> rw [hregistry]
      · exact fun _ _ => rfl
      · intro id' hid
        exact (lookup_insert_ne _ _ hid).trans (lookup_erase_ne _ hid)
  | disconnected id handle _ _ hregistry _ _ =>
      refine disjoint_of_erase h ?_ ?_ <;> rw [hregistry]
      · exact fun id' hnone => hkeep _ id id' hnone
      · exact fun id' hnone => hkeep _ id id' hnone
  | lost id handle t _ _ _ hregistry _ _ =>
      have hdevice : e'.registry.devices[id]? = none := by
        rw [hregistry]
        exact lookup_erase_self _ _
      refine disjoint_of_insert_reconnecting h hdevice ?_ ?_ <;> rw [hregistry]
      · exact fun id' hid => lookup_erase_ne _ hid
      · exact fun id' hid => lookup_insert_ne _ _ hid
  | failed id err handle _ _ _ hregistry _ _ =>
      refine disjoint_of_erase h ?_ ?_ <;> rw [hregistry]
      · exact fun id' hnone => hkeep _ id id' hnone
      · exact fun _ hnone => hnone
  | reattached id handle token k _ _ hregistry _ _ =>
      exact disjoint_of_insert_devices h (by rw [hregistry]) (by rw [hregistry])
  | evicted id op handle _ _ _ _ hregistry _ _ =>
      refine disjoint_of_erase h ?_ ?_ <;> rw [hregistry]
      · exact fun id' hnone => hkeep _ id id' hnone
      · exact fun _ hnone => hnone

/-- Whether a device is in `registry.devices`. -/
def Registered (e : Supervisor D) (id : String) : Prop :=
  ∃ handle, e.registry.devices[id]? = some handle

/-- The lifecycle events of every device mirror the registry. -/
def Mirrors (e : Supervisor D) : Prop :=
  ∀ id, MirroredBy (presence id e.log) (e.Registered id)

/-- A turn that leaves the registered devices, and emits no such event. -/
theorem Mirrors.of_same {e e' : Supervisor D} (h : e.Mirrors) {more : List Effect}
    (hdevices : e'.registry.devices = e.registry.devices) (hlog : e'.log = e.log ++ more)
    (hmore : ∀ id, presence id more = []) : e'.Mirrors := by
  intro id
  have hregistered : e'.Registered id ↔ e.Registered id := by
    unfold Registered
    rw [hdevices]
  rw [hlog, presence_append, hmore, List.append_nil]
  exact ⟨(h id).alternating, hregistered.trans (h id).last⟩

/-- A device is attached and announced. -/
theorem Mirrors.attach {e e' : Supervisor D} (h : e.Mirrors) {id : String}
    {handle : DeviceHandle} {more : List Effect} (habsent : e.registry.devices[id]? = none)
    (hdevices : e'.registry.devices = e.registry.devices.insert id handle)
    (hlog : e'.log = e.log ++ more)
    (hmore : ∀ id', presence id' more = if id = id' then [true] else []) : e'.Mirrors := by
  intro id'
  rw [hlog, presence_append, hmore]
  by_cases hid : id = id'
  · subst hid
    rw [if_pos rfl]
    refine (h id).added ?_ ⟨handle, ?_⟩
    · rintro ⟨other, hcon⟩
      rw [habsent] at hcon
      cases hcon
    · rw [hdevices]
      exact lookup_insert_self _ _ _
  · rw [if_neg hid, List.append_nil]
    have hregistered : e'.Registered id' ↔ e.Registered id' := by
      unfold Registered
      rw [hdevices, lookup_insert_ne _ _ hid]
    exact ⟨(h id').alternating, hregistered.trans (h id').last⟩

/-- A device is taken out and announced. -/
theorem Mirrors.detach {e e' : Supervisor D} (h : e.Mirrors) {id : String}
    {handle : DeviceHandle} {more : List Effect}
    (hpresent : e.registry.devices[id]? = some handle)
    (hdevices : e'.registry.devices = e.registry.devices.erase id)
    (hlog : e'.log = e.log ++ more)
    (hmore : ∀ id', presence id' more = if id = id' then [false] else []) : e'.Mirrors := by
  intro id'
  rw [hlog, presence_append, hmore]
  by_cases hid : id = id'
  · subst hid
    rw [if_pos rfl]
    refine (h id).removed ⟨handle, hpresent⟩ ?_
    rintro ⟨other, hcon⟩
    rw [hdevices, lookup_erase_self] at hcon
    cases hcon
  · rw [if_neg hid, List.append_nil]
    have hregistered : e'.Registered id' ↔ e.Registered id' := by
      unfold Registered
      rw [hdevices, lookup_erase_ne _ hid]
    exact ⟨(h id').alternating, hregistered.trans (h id').last⟩

/-- One turn keeps the mirror exactly if it does not meet a closed channel. -/
theorem mirrors_handled {envelope : Envelope} {e e' : Supervisor D}
    (hhandled : (e.emit [.handled envelope]).Handled envelope.cmd envelope.origin e')
    (hdisjoint : e.Disjoint) (h : e.Mirrors) :
    e'.Mirrors ↔ ∀ id, ¬ e.MeetsClosed envelope.cmd id := by
  -- A command that is not forwarded meets no channel.
  have hsafe : envelope.cmd.forwarded = none → ∀ id, ¬ e.MeetsClosed envelope.cmd id := by
    rintro hforwarded id ⟨op, handle, hcon, -⟩
    rw [hforwarded] at hcon
    cases hcon
  cases hhandled with
  | quiet effects hregistry _ hlog hreplies _ hopen _ _ =>
      refine ⟨fun _ => hopen, fun _ => ?_⟩
      refine h.of_same (by rw [hregistry]; rfl) (hlog.trans (List.append_assoc _ _ _)) ?_
      intro id
      have hnone : presence id effects = [] := by
        refine presence_of_quiet ?_
        intro x hx
        obtain ⟨reply, r, rfl⟩ := hreplies x hx
        rfl
      rw [presence_append, hnone]
      rfl
  | cancelled id hcmd hregistry _ hlog _ =>
      refine ⟨fun _ => hsafe ?_, fun _ => ?_⟩
      · cases hc : envelope.cmd <;> rw [hc] at hcmd <;> first | rfl | cases hcmd
      · exact h.of_same (by rw [hregistry]; rfl) hlog fun _ => rfl
  | connected id vendor_id product_id path handle hcmd habsent _ hregistry _ hlog =>
      refine ⟨fun _ => hsafe (by rw [hcmd]; rfl), fun _ => ?_⟩
      refine h.attach habsent (congrArg DeviceRegistry.devices hregistry)
        (hlog.trans (List.append_assoc _ _ _)) ?_
      intro id'
      by_cases hid : id = id' <;> simp [presence, hid]
  | retried id vendor_id product_id path t hcmd _ _ hregistry _ hlog =>
      refine ⟨fun _ => hsafe (by rw [hcmd]; rfl), fun _ => ?_⟩
      exact h.of_same (by rw [hregistry]; rfl) (hlog.trans (List.append_assoc _ _ _))
        fun _ => rfl
  | disconnected id handle hcmd hpresent hregistry _ hlog =>
      refine ⟨fun _ => hsafe (by rw [hcmd]; rfl), fun _ => ?_⟩
      refine h.detach hpresent (congrArg DeviceRegistry.devices hregistry)
        (hlog.trans (List.append_assoc _ _ _)) ?_
      intro id'
      by_cases hid : id = id' <;> simp [presence, hid]
  | lost id handle t hcmd hpresent _ hregistry _ hlog =>
      refine ⟨fun _ => hsafe (by rw [hcmd]; rfl), fun _ => ?_⟩
      refine h.detach hpresent (congrArg DeviceRegistry.devices hregistry)
        (hlog.trans (List.append_assoc _ _ _)) ?_
      intro id'
      by_cases hid : id = id' <;> simp [presence, hid]
  | failed id err handle hcmd _ hpresent hregistry _ hlog =>
      refine ⟨fun _ => hsafe (by rw [hcmd]; rfl), fun _ => ?_⟩
      refine h.detach hpresent (congrArg DeviceRegistry.devices hregistry)
        (hlog.trans (List.append_assoc _ _ _)) ?_
      intro id'
      by_cases hid : id = id' <;> simp [presence, hid]
  | reattached id handle token k hcmd hcurrent hregistry _ hlog =>
      refine ⟨fun _ => hsafe (by rw [hcmd]; rfl), fun _ => ?_⟩
      -- A device that is being reconnected is not registered.
      have habsent : e.registry.devices[id]? = none := by
        rcases hdisjoint id with hnone | hnone
        · exact hnone
        · rw [show e.registry.reconnecting[id]? = some (k, token) from hcurrent] at hnone
          cases hnone
      refine h.attach habsent (congrArg DeviceRegistry.devices hregistry)
        (hlog.trans (List.append_assoc _ _ _)) ?_
      intro id'
      by_cases hid : id = id' <;> simp [presence, hid]
  | evicted id op handle hcmd hpresent hadmitted hclosed hregistry _ hlog =>
      constructor
      · intro hnew
        have hmarks : presence id e'.log = presence id e.log := by
          rw [hlog, presence_append]
          exact (List.append_nil _).trans
            ((presence_append id e.log _).trans (List.append_nil _))
        obtain ⟨other, hcon⟩ : e'.Registered id := by
          refine (hnew id).last.2 ?_
          rw [hmarks]
          exact (h id).last.1 ⟨handle, hpresent⟩
        rw [hregistry] at hcon
        change (e.registry.devices.erase id)[id]? = _ at hcon
        rw [lookup_erase_self] at hcon
        cases hcon
      · intro hopen
        exact absurd ⟨op, handle, hcmd, hpresent, hadmitted, hclosed⟩ (hopen id)

end Supervisor

namespace Sys

variable {W D : Type}

/-- The lifecycle events of every device alternate and, as long as the supervisor
has not handled `Shutdown`, tell which devices are registered. -/
def Mirrored (s : Sys D) : Prop :=
  ∀ id, Alternating true (presence id s.sup.log) ∧
    (s.status = .running → (s.sup.Registered id ↔ (presence id s.sup.log).getLast? = some true))

theorem mirrored_iff {s : Sys D} (hrunning : s.status = .running) :
    Mirrored s ↔ s.sup.Mirrors :=
  ⟨fun h id => ⟨(h id).1, (h id).2 hrunning⟩,
    fun h id => ⟨(h id).alternating, fun _ => (h id).last⟩⟩

/-- Once the supervisor is out of its loop, only the order of the events
matters. -/
theorem Mirrored.of_marks {s s' : Sys D} (h : Mirrored s) (hstatus : s'.status ≠ .running)
    (hmarks : ∀ id, presence id s'.sup.log = presence id s.sup.log) : Mirrored s' := by
  intro id
  rw [hmarks]
  exact ⟨(h id).1, fun hcon => absurd hcon hstatus⟩

theorem Mirrored.aside {s s' : Sys D} (h : Mirrored s) (haside : Aside s s') :
    Mirrored s' := by
  obtain ⟨more, hlog, hquiet⟩ := haside.log
  intro id
  have hregistered : s'.sup.Registered id ↔ s.sup.Registered id := by
    unfold Supervisor.Registered
    rw [haside.registry]
  rw [hlog, presence_append, presence_of_quiet hquiet, List.append_nil, haside.status,
    hregistered]
  exact h id

theorem disjoint_step {s s' : Sys D} (hstep : Stepped s s') (h : s.sup.Disjoint) :
    s'.sup.Disjoint := by
  cases hstep with
  | turned envelope rest hturn => exact Supervisor.disjoint_handled hturn.handled h
  | stopped envelope rest hstop =>
      intro id
      rw [hstop.registry]
      exact .inl ExtTreeMap.getElem?_empty
  | returned hreturn =>
      intro id
      rw [hreturn.registry]
      exact .inl ExtTreeMap.getElem?_empty
  | aside haside =>
      intro id
      rw [haside.registry]
      exact h id

section Runs

variable [KeyboardDriver D] [BackgroundTasks D]

/-- The supervisor does not forward an operation to a registered worker whose
channel is closed. -/
def ForwardsToLiveWorkers (s : Sys D) : Label W → Prop
  | .supervise _ _ => ∀ envelope rest, s.status = .running → s.queue = envelope :: rest →
      ∀ id, ¬ s.sup.MeetsClosed envelope.cmd id
  | _ => True

omit [KeyboardDriver D] [BackgroundTasks D] in
theorem forwardsToLive_iff {s : Sys D} {order : HashOrder} {world : W} :
    ForwardsToLiveWorkers s (.supervise order world) ↔ (s.status = .running →
      ∀ envelope ∈ s.queue.head?, ∀ target ∈ envelope.cmd.forwarded,
        ∀ handle ∈ s.sup.registry.devices[target.1]?,
          target.2.admitted handle.topology = true → s.sup.closed handle.tx = false) := by
  constructor
  · intro h hrunning envelope hhead target htarget handle hpresent hadmitted
    obtain ⟨rest, hqueue⟩ := List.head?_eq_some_iff.1 hhead
    apply Bool.eq_false_of_not_eq_true
    intro hclosed
    exact h envelope rest hrunning hqueue target.1
      ⟨target.2, handle, htarget, hpresent, hadmitted, hclosed⟩
  · rintro h envelope rest hrunning hqueue id ⟨op, handle, hforwarded, hpresent, hadmitted, hclosed⟩
    have hopen := h hrunning envelope (List.head?_eq_some_iff.2 ⟨rest, hqueue⟩) (id, op) hforwarded
      handle hpresent hadmitted
    rw [hclosed] at hopen
    cases hopen

instance (s : Sys D) : ∀ l : Label W, Decidable (ForwardsToLiveWorkers s l)
  | .supervise _ _ => decidable_of_iff _ forwardsToLive_iff.symm
  | .tick _ => isTrue trivial
  | .enqueue _ => isTrue trivial
  | .superviseReturn => isTrue trivial
  | .worker _ _ => isTrue trivial
  | .background _ _ _ => isTrue trivial
  | .task _ _ => isTrue trivial

/-- One step keeps the mirror exactly if it does not evict a handle whose channel
is closed. -/
theorem mirrored_step (table : DriverTable W D) (s : Sys D) (l : Label W) (s' : Sys D)
    (hdisjoint : s.sup.Disjoint) (h : Mirrored s) (hstep : step table s l = some s') :
    Mirrored s' ↔ ForwardsToLiveWorkers s l := by
  by_cases hl : l.bySupervisor = false
  · refine ⟨fun _ => ?_, fun _ => h.aside (step_aside hl hstep)⟩
    cases l <;> trivial
  · cases l with
    | supervise order world =>
        obtain ⟨envelope, rest, hturn | hstop⟩ := supervise_cases hstep
        · rw [mirrored_iff hturn.status', Supervisor.mirrors_handled hturn.handled hdisjoint
            ((mirrored_iff hturn.running).1 h)]
          constructor
          · intro hopen envelope' rest' _ hqueue
            rw [hturn.queue] at hqueue
            cases hqueue
            exact hopen
          · intro hopen
            exact hopen envelope rest hturn.running hturn.queue
        · refine ⟨fun _ => ?_, fun _ => ?_⟩
          · rintro envelope' rest' _ hqueue id ⟨op, handle, hforwarded, -⟩
            rw [hstop.queue] at hqueue
            cases hqueue
            rw [hstop.cmd] at hforwarded
            cases hforwarded
          · refine h.of_marks (by rw [hstop.status']; nofun) ?_
            intro id
            rw [hstop.log, presence_append]
            exact List.append_nil _
    | superviseReturn =>
        have hreturn := superviseReturn_cases hstep
        refine ⟨fun _ => trivial, fun _ => ?_⟩
        refine h.of_marks (by rw [hreturn.status']; nofun) ?_
        intro id
        rw [hreturn.log]
    | tick ms => exact absurd rfl hl
    | enqueue cmd => exact absurd rfl hl
    | worker w move => exact absurd rfl hl
    | background w order wakeup => exact absurd rfl hl
    | task k move => exact absurd rfl hl

/-- Over any run of the supervisor, any order of commands, worker deaths and
reconnect results, and for every device: the events alternate and mirror the
registry throughout exactly if no operation is ever forwarded to a registered
worker whose channel is closed. -/
theorem lifecycle_mirrors_iff (table : DriverTable W D) (ls : List (Label W)) :
    Always (step table) Mirrored start ls ↔
      EveryStep (step table) ForwardsToLiveWorkers start ls := by
  refine always_iff_everyStep (J := fun s => s.sup.Disjoint)
    (fun s l s' h hstep => disjoint_step (step_cases hstep) h) (mirrored_step table) ls ?_ ?_
  · intro id
    exact .inl ExtTreeMap.getElem?_empty
  · intro id
    refine ⟨trivial, fun _ => ⟨?_, fun hcon => by cases hcon⟩⟩
    rintro ⟨handle, hcon⟩
    change (∅ : ExtTreeMap String DeviceHandle)[id]? = _ at hcon
    rw [ExtTreeMap.getElem?_empty] at hcon
    cases hcon

/-- A device that is attached and lost on its first request.  A second request is
queued before the worker reports. -/
def deadWorkerRun : List (Label (Except DaemonError MockDriver)) :=
  [.enqueue (.deviceConnected "dev1" 0x05AC 0x024F "/dev/hidraw7"),
    .supervise HashOrder.sorted (.ok (mockDriver [.error .disconnected])),
    .enqueue (.getKeycode "dev1" 0 0 0 1), .supervise HashOrder.sorted (.ok (mockDriver [])),
    .worker 0 .recv, .worker 0 (.finish HashOrder.sorted), .enqueue (.getKeycode "dev1" 0 0 0 2),
    .worker 0 .report, .worker 0 .exit]

/-- The second request evicts the handle and the stream still says the device is
there. -/
theorem eviction_emits_nothing : ¬ Always (step mockTable) Mirrored start
    (deadWorkerRun ++ [.supervise HashOrder.sorted (.ok (mockDriver []))]) := by
  intro h
  have hend : (run (step mockTable) start
      (deadWorkerRun ++ [.supervise HashOrder.sorted (.ok (mockDriver []))])).map
      (fun s => (s.status, s.sup.registry.devices["dev1"]?,
        (presence "dev1" s.sup.log).getLast?)) = some (.running, none, some true) := by
    decide +kernel
  obtain ⟨s, hrun, heq⟩ := Option.map_eq_some_iff.1 hend
  obtain ⟨hrunning, heq⟩ := Prod.mk.inj heq
  obtain ⟨habsent, hlast⟩ := Prod.mk.inj heq
  obtain ⟨handle, hpresent⟩ := (((h.last hrun) "dev1").2 hrunning).2 hlast
  rw [habsent] at hpresent
  cases hpresent

end Runs

end Sys

end Clackd.Engine
