import Clackd.Engine.Requests

/-!
# Requests stay inside what a driver reported

`Watched` is a driver with a record of the calls it has had and of what it has
reported of its topology.  The supervisor checks requests against the topology of the
handle, the worker hands them to the driver unchecked; so it matters that every handle
carries what the driver of its worker reported.

## Main results

* `Watched.probe_reported`: what a driver has reported and been asked once it is
  probed.
* `checked_step`: handles and queues agree with the reports.
-/

namespace Clackd.Engine

open Clackd.Foundation Clackd.Hal
open Std (ExtTreeMap)

/-! ## Watched drivers -/

/-- A call of a driver method. -/
inductive DriverCall where
  | get_matrix_dimensions
  | get_layer_count
  | get_keycode (layer row col : UInt8)
  | set_keycode (layer row col : UInt8) (keycode : UInt16)
  | get_macro_buffer (offset : UInt16) (length : UInt8)
  | set_macro_buffer (offset : UInt16) (data : List UInt8)
  | get_lighting (channel value_id : UInt8)
  | set_lighting (channel value_id : UInt8) (data : List UInt8)
  | commit_to_nvram
  deriving DecidableEq, Repr

/-- A driver, with the calls it has had, in order, and what it has last reported of
its topology. -/
structure Watched (D : Type) where
  driver : D
  calls : List DriverCall
  matrix : Option (UInt8 × UInt8)
  layers : Option UInt8

namespace Watched

variable {W D : Type}

/-- A driver that nobody has called yet. -/
def opened (driver : D) : Watched D := ⟨driver, [], none, none⟩

/-- The topology the driver has reported. -/
def reported (x : Watched D) : Option DeviceTopology :=
  match x.matrix, x.layers with
  | some (rows, cols), some layer_count => some ⟨⟨rows, cols⟩, layer_count⟩
  | _, _ => none

/-- The driver after a call. -/
def noted (x : Watched D) (driver : D) (call : DriverCall) : Watched D :=
  { x with driver := driver, calls := x.calls ++ [call] }

/-- Run a method of the driver, and note the call. -/
def onDriver {α : Type} (call : DriverCall) (method : DriverM D α) : DriverM (Watched D) α :=
  primitive fun x =>
    let r := exec method x.driver
    (r.1, x.noted r.2 call)

instance [KeyboardDriver D] : KeyboardDriver (Watched D) where
  get_matrix_dimensions turn := primitive fun x =>
    let r := exec (KeyboardDriver.get_matrix_dimensions turn) x.driver
    (r.1, { x.noted r.2 .get_matrix_dimensions with matrix := r.1.toOption })
  get_layer_count turn := primitive fun x =>
    let r := exec (KeyboardDriver.get_layer_count turn) x.driver
    (r.1, { x.noted r.2 .get_layer_count with layers := r.1.toOption })
  get_keycode turn layer row col := onDriver (.get_keycode layer row col)
    (KeyboardDriver.get_keycode turn layer row col)
  set_keycode turn layer row col keycode := onDriver (.set_keycode layer row col keycode)
    (KeyboardDriver.set_keycode turn layer row col keycode)
  get_macro_buffer turn offset length := onDriver (.get_macro_buffer offset length)
    (KeyboardDriver.get_macro_buffer turn offset length)
  set_macro_buffer turn offset data := onDriver (.set_macro_buffer offset data)
    (KeyboardDriver.set_macro_buffer turn offset data)
  get_lighting turn channel value_id := onDriver (.get_lighting channel value_id)
    (KeyboardDriver.get_lighting turn channel value_id)
  set_lighting turn channel value_id data := onDriver (.set_lighting channel value_id data)
    (KeyboardDriver.set_lighting turn channel value_id data)
  commit_to_nvram turn := onDriver .commit_to_nvram (KeyboardDriver.commit_to_nvram turn)
  emits_layout_event_per_set x := KeyboardDriver.emits_layout_event_per_set x.driver
  model_name x := KeyboardDriver.model_name x.driver

instance [BackgroundTasks D] : BackgroundTasks (Watched D) where
  wake turn dropped wakeup x :=
    (BackgroundTasks.wake turn dropped wakeup x.driver).map fun driver => { x with driver := driver }

/-- A factory whose drivers are watched. -/
def factory (open_node : DriverFactory W D) : DriverFactory W (Watched D) := fun world path =>
  (open_node world path).map opened

end Watched

/-- The drivers of a table, each watched from the moment its node is opened. -/
def DriverTable.watched {W D : Type} (table : DriverTable W D) : DriverTable W (Watched D) where
  by_vid_pid ids := (table.by_vid_pid ids).map Watched.factory
  via_fallback := table.via_fallback.map Watched.factory

namespace Watched

variable {W D : Type}

/-- Only the topology queries change what is reported. -/
theorem call_reported [KeyboardDriver D] (turn : Turn) (x : Watched D) (op : WorkerOp) :
    (Worker.call turn x op).driver.reported = x.reported := by
  cases op <;> rfl

theorem wake_kept [BackgroundTasks D] {turn : Turn} {dropped : Bool} {wakeup : Background}
    {x x' : Watched D} (h : BackgroundTasks.wake turn dropped wakeup x = some x') :
    x'.reported = x.reported ∧ x'.calls = x.calls := by
  obtain ⟨driver, -, rfl⟩ := Option.map_eq_some_iff.1 h
  exact ⟨rfl, rfl⟩

theorem matrix_reported [KeyboardDriver D] {turn : Turn} {x x' : Watched D} {dims : UInt8 × UInt8}
    (h : exec (KeyboardDriver.get_matrix_dimensions turn) x = (.ok dims, x')) :
    x'.matrix = some dims ∧ x'.calls = x.calls ++ [.get_matrix_dimensions] := by
  obtain ⟨hresult, rfl⟩ := Prod.mk.inj h
  exact ⟨congrArg Except.toOption hresult, rfl⟩

theorem layers_reported [KeyboardDriver D] {turn : Turn} {x x' : Watched D} {layer_count : UInt8}
    (h : exec (KeyboardDriver.get_layer_count turn) x = (.ok layer_count, x')) :
    x'.layers = some layer_count ∧ x'.matrix = x.matrix ∧
      x'.calls = x.calls ++ [.get_layer_count] := by
  obtain ⟨hresult, rfl⟩ := Prod.mk.inj h
  exact ⟨congrArg Except.toOption hresult, rfl, rfl⟩

/-- After a probe the driver has reported what the probe returns, and has been asked
for it. -/
theorem probe_reported [KeyboardDriver D] {turn : Turn} {fresh driver : Watched D}
    {topology : DeviceTopology} (h : Supervisor.probe turn fresh = .ok (topology, driver)) :
    driver.reported = some topology ∧
      driver.calls = fresh.calls ++ [.get_matrix_dimensions, .get_layer_count] := by
  unfold Supervisor.probe at h
  split at h
  · cases h
  · rename_i rows cols mid hmatrix
    split at h
    · cases h
    · rename_i layer_count last hlayers
      cases h
      obtain ⟨hrows, hfirst⟩ := matrix_reported hmatrix
      obtain ⟨hlayers', hkept, hsecond⟩ := layers_reported hlayers
      constructor
      · rw [reported, hlayers', hkept, hrows]
      · rw [hsecond, hfirst, List.append_assoc]
        rfl

end Watched

namespace Sys

variable {W D : Type} [KeyboardDriver D] [BackgroundTasks D]

/-- A worker that a handle is handed out for has reported the topology of the
handle, and what it was given passes the check against what it has reported. -/
structure Checked (s : Sys (Watched D)) : Prop where
  handed : ∀ handle, s.Handed handle → ∃ x, s.sup.workers[handle.tx]? = some x ∧
    x.driver.reported = some handle.topology
  given : ∀ (w : WorkerId) (x : Worker (Watched D)), s.sup.workers[w]? = some x →
    ∀ op ∈ executed w s.sup.log ++ x.rx, ∃ topology, x.driver.reported = some topology ∧
      op.admitted topology = true

omit [KeyboardDriver D] [BackgroundTasks D] in
theorem checked_start : (start : Sys (Watched D)).Checked where
  handed := by
    rintro handle (⟨id, hdevice⟩ | ⟨envelope, hmem, -⟩ | ⟨t, hmem, -⟩)
    · simp [start, Supervisor.new] at hdevice
    · cases hmem
    · cases hmem
  given := by
    intro w x hx
    cases hx

omit [KeyboardDriver D] [BackgroundTasks D] in
/-- Nothing about the workers changes, and no handle is new. -/
theorem Checked.kept {s s' : Sys (Watched D)} (h : s.Checked) (more : List Effect)
    (hworkers : s'.sup.workers = s.sup.workers) (hlog : s'.sup.log = s.sup.log ++ more)
    (hquiet : ∀ x ∈ more, x.isBegan = false)
    (hhanded : ∀ handle, s'.Handed handle → s.Handed handle) : s'.Checked where
  handed := by
    intro handle hhandle
    rw [hworkers]
    exact h.handed handle (hhanded handle hhandle)
  given := by
    intro w x hx
    rw [hworkers] at hx
    rw [hlog, executed_append, executed_of_not_began hquiet, List.append_nil]
    exact h.given w x hx

omit [BackgroundTasks D] in
/-- A worker is spawned with a driver that was just probed. -/
theorem Checked.spawned {s s' : Sys (Watched D)} (h : s.Checked) (hinOrder : s.InOrder)
    {id : String} {driver : Watched D} {handle : DeviceHandle} (more : List Effect)
    (hprobe : ∃ turn fresh, Supervisor.probe turn fresh = .ok (handle.topology, driver))
    (hworkers : s'.sup.workers = s.sup.workers ++ [Worker.spawn id driver])
    (hlog : s'.sup.log = s.sup.log ++ more) (hquiet : ∀ x ∈ more, x.isBegan = false)
    (htx : handle.tx = s.sup.workers.length)
    (hhanded : ∀ other, s'.Handed other → s.Handed other ∨ other = handle) : s'.Checked where
  handed := by
    intro other hother
    rw [hworkers]
    rcases hhanded other hother with hold | rfl
    · obtain ⟨x, hx, hreported⟩ := h.handed other hold
      obtain ⟨hlt, -⟩ := List.getElem?_eq_some_iff.1 hx
      exact ⟨x, by rw [List.getElem?_append_left hlt, hx], hreported⟩
    · obtain ⟨turn, fresh, hprobe⟩ := hprobe
      refine ⟨Worker.spawn id driver, ?_, (Watched.probe_reported hprobe).1⟩
      rw [htx]
      simp
  given := by
    intro w x hx
    rw [hlog, executed_append, executed_of_not_began hquiet, List.append_nil]
    by_cases hlt : w < s.sup.workers.length
    · rw [hworkers, List.getElem?_append_left hlt] at hx
      exact h.given w x hx
    · have hnone : s.sup.workers[w]? = none := List.getElem?_eq_none (Nat.le_of_not_lt hlt)
      rw [hworkers, List.getElem?_append_right (Nat.le_of_not_lt hlt)] at hx
      obtain ⟨-, rfl⟩ := List.getElem?_eq_some_iff.1 hx
      rw [hinOrder.absent w hnone]
      simp [Worker.spawn]

omit [KeyboardDriver D] [BackgroundTasks D] in
/-- One worker changes, and its driver's report does not. -/
theorem Checked.set {s s' : Sys (Watched D)} (h : s.Checked) {w : WorkerId}
    {x : Worker (Watched D)} (x' : Worker (Watched D)) (hx : s.sup.workers[w]? = some x)
    (hreported : x'.driver.reported = x.driver.reported)
    (hworkers : s'.sup.workers = s.sup.workers.set w x')
    (hothers : ∀ v, v ≠ w → executed v s'.sup.log = executed v s.sup.log)
    (hgiven : ∀ op ∈ executed w s'.sup.log ++ x'.rx, op ∈ executed w s.sup.log ++ x.rx ∨
      ∃ topology, x.driver.reported = some topology ∧ op.admitted topology = true)
    (hhanded : ∀ handle, s'.Handed handle → s.Handed handle) : s'.Checked where
  handed := by
    intro handle hhandle
    obtain ⟨y, hy, hyreported⟩ := h.handed handle (hhanded handle hhandle)
    rw [hworkers, List.getElem?_set]
    by_cases hw : w = handle.tx
    · subst hw
      rw [hx] at hy
      cases hy
      obtain ⟨hlt, -⟩ := List.getElem?_eq_some_iff.1 hx
      rw [if_pos rfl, if_pos hlt]
      exact ⟨x', rfl, by rw [hreported, hyreported]⟩
    · rw [if_neg hw]
      exact ⟨y, hy, hyreported⟩
  given := by
    intro v y hy op hop
    rw [hworkers, List.getElem?_set] at hy
    by_cases hv : w = v
    · subst hv
      rw [if_pos rfl] at hy
      split at hy
      · cases hy
        rw [hreported]
        rcases hgiven op hop with hold | hnew
        · exact h.given w x hx op hold
        · exact hnew
      · cases hy
    · rw [if_neg hv] at hy
      rw [hothers v (Ne.symm hv)] at hop
      exact h.given v y hy op hop

omit [KeyboardDriver D] [BackgroundTasks D] in
/-- The tasks a turn starts send nothing yet. -/
theorem sending_of_handled {cmd : EngineCommand} {sender : Origin} {e e' : Supervisor D}
    (h : e.Handled cmd sender e') {t : ReconnectTask} {handle : DeviceHandle}
    (hmem : t ∈ e'.tasks) (hsending : t.phase = .sending handle) : t ∈ e.tasks := by
  have hstarted : ∀ {id : String} {token : UInt64} {u : ReconnectTask},
      Supervisor.Fresh id token u → e'.tasks = e.tasks ++ [u] → t ∈ e.tasks := by
    intro id token u hfresh htasks
    rw [htasks] at hmem
    rcases List.mem_append.1 hmem with hold | hnew
    · exact hold
    · obtain ⟨wake_at, hphase⟩ := hfresh.sleeping
      rw [List.mem_singleton.1 hnew, hphase] at hsending
      cases hsending
  cases h with
  | quiet effects hregistry htasks hlog hreplies hplug hopen herror hreattached =>
      rwa [htasks] at hmem
  | cancelled id hcmd hregistry htasks hlog habsent => rwa [htasks] at hmem
  | connected id vendor_id product_id path handle hcmd habsent htx hregistry htasks hlog =>
      rwa [htasks] at hmem
  | retried id vendor_id product_id path u hcmd habsent hu hregistry htasks hlog =>
      exact hstarted hu htasks
  | disconnected id handle hcmd hpresent hregistry htasks hlog => rwa [htasks] at hmem
  | lost id handle u hcmd hpresent hu hregistry htasks hlog => exact hstarted hu htasks
  | failed id err handle hcmd herr hpresent hregistry htasks hlog => rwa [htasks] at hmem
  | reattached id handle token k hcmd hcurrent hregistry htasks hlog => rwa [htasks] at hmem
  | evicted id op handle hcmd hpresent hadmitted hclosed hregistry htasks hlog =>
      rwa [htasks] at hmem

omit [KeyboardDriver D] [BackgroundTasks D] in
/-- After a turn, a handle is where one was before, or in the registry. -/
theorem handed_turned {s s' : Sys D} {envelope : Envelope} {rest : List Envelope}
    (h : Turned s s' envelope rest) {handle : DeviceHandle} (hhanded : s'.Handed handle)
    (hdevices : ∀ id : String, s'.sup.registry.devices[id]? = some handle →
      s.sup.registry.devices[id]? = some handle ∨
        ∃ token, envelope.cmd = .deviceReattached id handle token) : s.Handed handle := by
  rcases hhanded with ⟨id, hdevice⟩ | ⟨message, hmessage, id, token, hcmd⟩ | ⟨t, ht, hsending⟩
  · rcases hdevices id hdevice with hold | ⟨token, hcmd⟩
    · exact .inl ⟨id, hold⟩
    · exact .inr (.inl ⟨envelope, by rw [h.queue]; exact List.mem_cons_self, id, token, hcmd⟩)
  · rw [h.queue'] at hmessage
    exact .inr (.inl ⟨message, by rw [h.queue]; exact List.mem_cons_of_mem _ hmessage, id, token,
      hcmd⟩)
  · exact .inr (.inr ⟨t, sending_of_handled h.handled ht hsending, hsending⟩)

omit [KeyboardDriver D] [BackgroundTasks D] in
/-- A message without a handle hands on nothing new. -/
theorem handed_of_message {s s' : Sys D} (hregistry : s'.sup.registry = s.sup.registry)
    (htasks : s'.sup.tasks = s.sup.tasks)
    (hqueue : s'.queue = s.queue ∨ ∃ envelope, s'.queue = s.queue ++ [envelope] ∧
      envelope.cmd.carries = none) {handle : DeviceHandle} (h : s'.Handed handle) :
    s.Handed handle := by
  rcases h with ⟨id, hdevice⟩ | ⟨message, hmessage, id, token, hcmd⟩ | ⟨t, ht, hsending⟩
  · rw [hregistry] at hdevice
    exact .inl ⟨id, hdevice⟩
  · rcases hqueue with hqueue | ⟨envelope, hqueue, hplain⟩
    · rw [hqueue] at hmessage
      exact .inr (.inl ⟨message, hmessage, id, token, hcmd⟩)
    · rw [hqueue] at hmessage
      rcases List.mem_append.1 hmessage with hold | hnew
      · exact .inr (.inl ⟨message, hold, id, token, hcmd⟩)
      · rw [← List.mem_singleton.1 hnew, hcmd] at hplain
        cases hplain
  · rw [htasks] at ht
    exact .inr (.inr ⟨t, ht, hsending⟩)

theorem checked_step {table : DriverTable W (Watched D)} {s s' : Sys (Watched D)} {l : Label W}
    (h : s.Checked) (hinOrder : s.InOrder) (hstep : s.step table l = some s') : s'.Checked := by
  cases step_progressed hstep with
  | turned envelope rest hturned hsupplied hreply =>
      cases hsupplied with
      | kept effects hworkers hlog hquiet hrefused hdevices =>
          refine h.kept (.handled envelope :: effects) hworkers
            (hlog.trans (List.append_assoc _ _ _)) ?_ ?_
          · intro x hx
            rcases List.mem_cons.1 hx with rfl | hx
            · rfl
            · exact hquiet x hx
          · intro handle hhandle
            exact handed_turned hturned hhandle fun id hdevice => hdevices id handle hdevice
      | pushed id op handle hcmd hpresent hadmitted hopen heq =>
          obtain ⟨x, hx, hreported⟩ := h.handed handle (.inl ⟨id, hpresent⟩)
          have hexecuted : ∀ v, executed v s'.sup.log = executed v s.sup.log := by
            intro v
            have hlog : s'.sup.log = s.sup.log ++ [.handled envelope] := by rw [heq]; rfl
            rw [hlog, executed_append]
            exact List.append_nil _
          refine h.set { x with rx := x.rx ++ [op] } hx rfl ?_ (fun v _ => hexecuted v) ?_ ?_
          · rw [heq]
            exact push_workers (e := s.sup.emit [.handled envelope]) hx op
          · intro op' hop'
            rw [hexecuted, ← List.append_assoc] at hop'
            rcases List.mem_append.1 hop' with hold | hnew
            · exact .inl hold
            · rw [List.mem_singleton.1 hnew]
              exact .inr ⟨_, hreported, hadmitted⟩
          · intro other hother
            refine handed_turned hturned hother ?_
            intro id' hdevice
            rw [heq] at hdevice
            exact .inl hdevice
      | spawned id driver topology handle hcmd hprobe hworkers hdevices htx htopology hlog =>
          subst htopology
          refine h.spawned hinOrder (.handled envelope :: _) hprobe hworkers
            (hlog.trans (List.append_assoc _ _ _)) (by simp [Effect.isBegan]) htx ?_
          intro other hother
          by_cases hsame : other = handle
          · exact .inr hsame
          · refine .inl (handed_turned hturned hother ?_)
            intro id' hdevice
            rw [hdevices, lookup_insert] at hdevice
            split at hdevice
            · exact absurd (Option.some.inj hdevice).symm hsame
            · exact .inl hdevice
  | stopped envelope rest hstops hworkers hreply =>
      refine h.kept _ hworkers hstops.log (by simp [Effect.isBegan]) ?_
      rintro handle (⟨id, hdevice⟩ | ⟨message, hmessage, id, token, hcmd⟩ | ⟨t, ht, hsending⟩)
      · rw [hstops.registry] at hdevice
        simp at hdevice
      · rw [hstops.queue'] at hmessage
        exact .inr (.inl ⟨message, by rw [hstops.queue]; exact List.mem_cons_of_mem _ hmessage, id,
          token, hcmd⟩)
      · rw [hstops.tasks] at ht
        exact .inr (.inr ⟨t, ht, hsending⟩)
  | returned hreturns hworkers hreply =>
      refine h.kept [] hworkers (hreturns.log.trans (List.append_nil _).symm) (by simp) ?_
      rintro handle (⟨id, hdevice⟩ | ⟨message, hmessage, id, token, hcmd⟩ | ⟨t, ht, hsending⟩)
      · rw [hreturns.registry] at hdevice
        simp at hdevice
      · rw [hreturns.queue'] at hmessage
        cases hmessage
      · rw [hreturns.tasks] at ht
        exact .inr (.inr ⟨t, ht, hsending⟩)
  | entered envelope hsup hstatus hqueue hreply hfresh hplain =>
      refine h.kept [] (by rw [hsup]) (by rw [hsup, List.append_nil]) (by simp) ?_
      intro handle hhandle
      exact handed_of_message (by rw [hsup]) (by rw [hsup]) (.inr ⟨envelope, hqueue, hplain⟩)
        hhandle
  | worker w x r hx hprogress hdriven hsup hstatus hreply hqueue =>
      have hlog : s'.sup.log = s.sup.log ++ r.2 := by rw [hsup]; rfl
      have hreported : r.1.driver.reported = x.driver.reported := by
        rcases hdriven with (hsame | ⟨turn, op, hcall⟩) | ⟨turn, wakeup, dropped, hwake⟩
        · rw [hsame]
        · rw [hcall, Watched.call_reported]
        · exact (Watched.wake_kept hwake).1
      refine h.set r.1 hx hreported (by rw [hsup]; rfl) ?_ ?_ ?_
      · intro v hv
        rw [hlog, executed_append, hprogress.executed_other hv, List.append_nil]
      · intro op hop
        rw [hlog, executed_append, List.append_assoc] at hop
        left
        rcases hprogress.executed_self with hleft | hleft
        · rw [hleft] at hop
          exact hop
        · rw [hleft, List.append_nil] at hop
          exact List.mem_append_left _ hop
      · intro handle hhandle
        exact handed_of_message (by rw [hsup]; rfl) (by rw [hsup]; rfl)
          (hqueue.imp_right fun hsent => hsent.imp fun _ h => ⟨h.1, h.2.2⟩) hhandle
  | idled hworkers hregistry hlog hstatus hreply hqueue hhanded =>
      exact h.kept [] hworkers (hlog.trans (List.append_nil _).symm) (by simp) hhanded
  | opened id driver topology handle hprobe hworkers hregistry hlog hstatus hreply hqueue htx
      htopology hhanded =>
      subst htopology
      exact h.spawned hinOrder [] hprobe hworkers (hlog.trans (List.append_nil _).symm)
        (by simp) htx hhanded

end Sys

end Clackd.Engine
