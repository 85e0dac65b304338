import Clackd.Engine.Boxed
import Clackd.Engine.Entries
import Clackd.Engine.Watched
import Clackd.Hal.Legacy.Board

/-!
# The dimensions of an entry

An entry of `devices.toml` names a device, its rows and columns, and possibly its number
of layers.  `build_driver_table` turns the entry into a factory, which knows none of
them: it constructs its driver with dimensions of its own.  The driver reports these, the
handle keeps what it reported, and the dispatchers check requests against the handle.

## Main results

* `handed_step`: every handle, wherever it is, was opened by the factory of its device.
* `reports_ceiling`: a driver reports the dimensions that its factory has for all
  devices.
* `configured_bounds_iff`: in every state of every run, a device keeps to the dimensions
  of its entry if and only if those of its factory do not exceed them.
-/

namespace Clackd.Engine

open Clackd.Foundation Clackd.Hal Clackd.Hal.Via Clackd.Hal.Legacy
open Std (ExtTreeMap)

/-! ## Where handles come from -/

section Provided

variable {W D : Type} [KeyboardDriver D]

/-- The handle describes a device that the factory for its ids has opened. -/
def Provided (table : DriverTable W D) (handle : DeviceHandle) : Prop :=
  ∃ (turn : Turn) (world : W) (path : String) (factory : DriverFactory W D) (driver : D),
    table.factory handle.vendor_id handle.product_id = some factory ∧
      Supervisor.openDevice turn world factory path = .ok (handle.topology, driver)

namespace Supervisor

theorem device_connected_devices (table : DriverTable W D) (turn : Turn) (world : W) (id : String)
    (vendor_id product_id : UInt16) (path : String) (e : Supervisor D) {other : String}
    {handle : DeviceHandle}
    (h : (e.device_connected table turn world id vendor_id product_id path).registry.devices[other]? =
      some handle) :
    e.registry.devices[other]? = some handle ∨ Provided table handle := by
  unfold device_connected at h
  dsimp only at h
  split at h
  · exact .inl h
  · unfold connect at h
    split at h
    · exact .inl h
    · rename_i factory hfactory
      split at h
      · rename_i topology driver hopen
        change (e.registry.devices.insert id _)[other]? = some handle at h
        rw [lookup_insert] at h
        split at h
        · cases h
          exact .inr ⟨turn, world, path, factory, driver, hfactory, hopen⟩
        · exact .inl h
      · split at h
        · exact .inl h
        · exact .inl h

/-- A handle that a turn puts into the registry comes with the command, or was just
opened. -/
theorem handle_command_devices (table : DriverTable W D) (turn : Turn) (world : W)
    (envelope : Envelope) (e : Supervisor D) {other : String} {handle : DeviceHandle}
    (h : (e.handle_command table turn world envelope).registry.devices[other]? = some handle) :
    e.registry.devices[other]? = some handle ∨
      (∃ token, envelope.cmd = .deviceReattached other handle token) ∨ Provided table handle := by
  obtain ⟨sender, cmd⟩ := envelope
  by_cases hconnected : ∃ id vendor_id product_id path,
      cmd = .deviceConnected id vendor_id product_id path
  · obtain ⟨id, vendor_id, product_id, path, rfl⟩ := hconnected
    rcases device_connected_devices table turn world id vendor_id product_id path e h with
      hold | hnew
    · exact .inl hold
    · exact .inr (.inr hnew)
  · cases handle_command_cases table turn world ⟨sender, cmd⟩ e with
    | quiet effects hregistry =>
        rw [hregistry] at h
        exact .inl h
    | cancelled id hcmd hregistry =>
        rw [hregistry] at h
        exact .inl h
    | connected id vendor_id product_id path handle' hcmd =>
        exact absurd ⟨id, vendor_id, product_id, path, hcmd⟩ hconnected
    | retried id vendor_id product_id path t hcmd habsent ht hregistry =>
        rw [hregistry] at h
        exact .inl h
    | disconnected id handle' hcmd hpresent hregistry =>
        rw [hregistry] at h
        exact .inl (devices_of_erase h)
    | lost id handle' t hcmd hpresent ht hregistry =>
        rw [hregistry] at h
        exact .inl (devices_of_erase h)
    | failed id err handle' hcmd herr hpresent hregistry =>
        rw [hregistry] at h
        exact .inl (devices_of_erase h)
    | reattached id handle' token k hcmd hcurrent hregistry =>
        rw [hregistry] at h
        change (e.registry.devices.insert id handle')[other]? = some handle at h
        rw [lookup_insert] at h
        split at h
        · rename_i hid
          cases h
          exact .inr (.inl ⟨token, by rw [← hid]; exact hcmd⟩)
        · exact .inl h
    | evicted id op handle' hcmd hpresent hadmitted hclosed hregistry =>
        rw [hregistry] at h
        exact .inl (devices_of_erase h)

end Supervisor

namespace Sys

variable [BackgroundTasks D] {table : DriverTable W D} {s s' : Sys D}

omit [BackgroundTasks D] in
/-- A worker puts no handle on the queue. -/
theorem workerStep_queue {w : WorkerId} {x : Worker D} {m : WorkerMove}
    (h : s.workerStep w x m = some s') :
    s'.queue = s.queue ∨ ∃ envelope, s'.queue = s.queue ++ [envelope] ∧
      envelope.cmd.carries = none := by
  cases m with
  | report =>
      obtain ⟨x', -, hsend⟩ := Option.bind_eq_some_iff.1 h
      obtain ⟨-, -, -, hqueue⟩ := sendOrDrop_cases hsend
      rcases hqueue with hsame | hsent
      · exact .inl hsame
      · exact .inr ⟨_, hsent, rfl⟩
  | recv =>
      obtain ⟨r, -, rfl⟩ := Option.map_eq_some_iff.1 h
      exact .inl rfl
  | debounce =>
      obtain ⟨r, -, rfl⟩ := Option.map_eq_some_iff.1 h
      exact .inl rfl
  | finish order =>
      obtain ⟨r, -, rfl⟩ := Option.map_eq_some_iff.1 h
      exact .inl rfl
  | exit =>
      obtain ⟨x', -, rfl⟩ := Option.map_eq_some_iff.1 h
      exact .inl rfl
  | panic =>
      obtain ⟨x', -, rfl⟩ := Option.map_eq_some_iff.1 h
      exact .inl rfl

omit [BackgroundTasks D] in
/-- An attempt hands on what it has just opened, at most. -/
theorem handed_of_attempt {turn : Turn} {world : W} {k : TaskId} {t : ReconnectTask}
    {handle : DeviceHandle}
    (h : ({ s with sup := s.sup.attempt table turn world k t } : Sys D).Handed handle) :
    s.Handed handle ∨ Provided table handle := by
  unfold Supervisor.attempt at h
  dsimp only at h
  split at h
  · obtain hold | hphase := handed_of_setTask (s := s) h rfl rfl rfl
    · exact .inl hold
    · cases hphase
  · rename_i factory hfactory
    split at h
    · rename_i topology driver hopen
      obtain hold | hphase := handed_of_setTask (s := s) h rfl rfl rfl
      · exact .inl hold
      · split at hphase
        · cases hphase
        · cases hphase
          exact .inr ⟨turn, world, _, factory, driver, hfactory, hopen⟩
    · obtain hold | hphase := handed_of_setTask (s := s) h rfl rfl rfl
      · exact .inl hold
      · split at hphase
        · simp only [ReconnectTask.retry] at hphase
          split at hphase <;> cases hphase
        · cases hphase

/-- Every handle is where one was before, or was just opened by the factory of its
device. -/
theorem handed_step {l : Label W} (hstep : s.step table l = some s') {handle : DeviceHandle}
    (h : s'.Handed handle) : s.Handed handle ∨ Provided table handle := by
  cases l with
  | tick ms =>
      cases hstep
      exact .inl h
  | enqueue cmd =>
      rw [step, enqueue] at hstep
      split at hstep
      · cases hstep
      · rename_i origin horigin
        split at hstep
        · rw [send] at hstep
          split at hstep
          · cases hstep
            have hplain : cmd.carries = none := by
              cases cmd with
              | deviceReattached id handle token => cases horigin
              | _ => rfl
            refine .inl (handed_of_message ?_ ?_ ?_ h)
            · rfl
            · rfl
            · exact .inr ⟨⟨origin, cmd⟩, rfl, hplain⟩
          · cases hstep
        · cases hstep
  | supervise order world =>
      obtain ⟨envelope, rest, hturned | hstops⟩ := supervise_cases (s := s) hstep
      · by_cases hprovided : Provided table handle
        · exact .inr hprovided
        · left
          refine handed_turned hturned h ?_
          intro id hdevice
          rw [step, supervise, hturned.running, hturned.queue] at hstep
          dsimp only at hstep
          split at hstep
          · cases hstep
            cases hturned.status'
          · cases hstep
            obtain hold | hcmd | hnew :=
              Supervisor.handle_command_devices table _ world envelope _ hdevice
            · exact .inl hold
            · exact .inr hcmd
            · exact absurd hnew hprovided
      · left
        rcases h with ⟨id, hdevice⟩ | ⟨message, hmessage, hcmd⟩ | ⟨t, ht, hphase⟩
        · rw [hstops.registry] at hdevice
          simp at hdevice
        · rw [hstops.queue'] at hmessage
          have hold : message ∈ s.queue := by
            rw [hstops.queue]
            exact List.mem_cons_of_mem _ hmessage
          exact .inr (.inl ⟨message, hold, hcmd⟩)
        · rw [hstops.tasks] at ht
          exact .inr (.inr ⟨t, ht, hphase⟩)
  | superviseReturn =>
      have hreturns := superviseReturn_cases (s := s) hstep
      left
      rcases h with ⟨id, hdevice⟩ | ⟨message, hmessage, hcmd⟩ | ⟨t, ht, hphase⟩
      · rw [hreturns.registry] at hdevice
        simp at hdevice
      · rw [hreturns.queue'] at hmessage
        cases hmessage
      · rw [hreturns.tasks] at ht
        exact .inr (.inr ⟨t, ht, hphase⟩)
  | worker w move =>
      obtain ⟨x, -, hmove⟩ := Option.bind_eq_some_iff.1 hstep
      obtain ⟨r, -, hsup⟩ := workerStep_move hmove
      exact .inl (handed_of_message (by rw [hsup]; rfl) (by rw [hsup]; rfl)
        (workerStep_queue hmove) h)
  | background w order wakeup =>
      obtain ⟨x, -, hwake⟩ := Option.bind_eq_some_iff.1 hstep
      obtain ⟨driver, -, rfl⟩ := Option.map_eq_some_iff.1 hwake
      exact .inl (handed_of_message (s := s) rfl rfl (.inl rfl) h)
  | task k move =>
      obtain ⟨t, ht, hmove⟩ := Option.bind_eq_some_iff.1 hstep
      cases move with
      | cancel =>
          rw [taskStep] at hmove
          split at hmove
          · split at hmove
            · cases hmove
              obtain hold | hphase := handed_of_setTask (s := s) h rfl rfl rfl
              · exact .inl hold
              · cases hphase
            · cases hmove
          · cases hmove
      | attempt order world =>
          rw [taskStep] at hmove
          split at hmove
          · split at hmove
            · cases hmove
              exact handed_of_attempt h
            · cases hmove
          · cases hmove
      | send =>
          rw [taskStep] at hmove
          split at hmove
          · rename_i sent hphase
            exact .inl (handed_of_sent ht hphase hmove h)
          · cases hmove

end Sys

end Provided

/-! ## What a driver reports -/

section Reports

variable {T I Text : Type}

namespace BoxedDriver

/-- The dimensions that the driver was constructed with. -/
def matrix : BoxedDriver T I Text → UInt8 × UInt8
  | .via d => d.matrix
  | .gmk67 d => d.matrix

variable [CoalescerTransport T]

theorem keeps_matrix_ask {α : Type} (read : CoalescerReply → Except DriverError α) (turn : Turn)
    (op : CoalescerOp) :
    Keeps (fun d d' => d'.matrix = d.matrix)
      (ViaDriver.ask read turn op : DriverM (ViaDriver T) α) := by
  intro d
  rw [ViaDriver.ask, exec_primitive]
  split
  · rfl
  · dsimp only
    split <;> rfl

theorem keeps_matrix_ensure (turn : Turn) :
    Keeps (fun d d' => d'.matrix = d.matrix)
      (ViaDriver.ensure_protocol_version turn : DriverM (ViaDriver T) UInt16) := by
  have htrans : ∀ a b c : ViaDriver T, b.matrix = a.matrix → c.matrix = b.matrix →
      c.matrix = a.matrix := fun a b c hab hbc => hbc.trans hab
  refine Keeps.bind htrans (fun _ => rfl) fun d => ?_
  cases d.protocol_version with
  | some version => exact fun _ => rfl
  | none =>
      refine Keeps.bind htrans (keeps_matrix_ask _ turn _) fun version => ?_
      exact Keeps.bind htrans (fun _ => rfl) fun _ _ => rfl

variable [Gmk67Io I] [SerdeJson Text]

omit [CoalescerTransport T] in
theorem keeps_matrix_sync :
    Keeps (fun d d' => d'.matrix = d.matrix)
      (Gmk67Driver.maybe_sync_on_attach : DriverM (Gmk67Driver I Text) Unit) := by
  have htrans : ∀ a b c : Gmk67Driver I Text, b.matrix = a.matrix → c.matrix = b.matrix →
      c.matrix = a.matrix := fun a b c hab hbc => hbc.trans hab
  have hsync : Keeps (fun d d' => d'.matrix = d.matrix)
      (Gmk67Driver.sync_eeprom : DriverM (Gmk67Driver I Text) Unit) :=
    Keeps.bind htrans (fun _ => rfl) fun _ => Keeps.bind htrans (fun _ => rfl) fun _ _ => rfl
  refine Keeps.bind htrans (fun _ => rfl) fun d => ?_
  split
  · exact fun _ => rfl
  · exact Keeps.bind htrans (fun _ => rfl) fun _ => Keeps.bind htrans (Keeps.attempt hsync)
      fun _ _ => rfl

/-- A driver reports the dimensions it was constructed with. -/
theorem probe_matrix {turn : Turn} {d d' : BoxedDriver T I Text} {topology : DeviceTopology}
    (h : Supervisor.probe turn d = .ok (topology, d')) :
    topology.matrix = ⟨d.matrix.1, d.matrix.2⟩ := by
  have hdims : ∀ {dims : UInt8 × UInt8} {m : BoxedDriver T I Text},
      exec (KeyboardDriver.get_matrix_dimensions turn) d = (.ok dims, m) → dims = d.matrix := by
    intro dims m hexec
    cases d with
    | via d =>
        obtain ⟨hresult, -⟩ := Prod.mk.inj hexec
        have hvia : exec (KeyboardDriver.get_matrix_dimensions turn) d =
            (.ok dims, (exec (KeyboardDriver.get_matrix_dimensions turn) d).2) :=
          Prod.ext hresult rfl
        obtain ⟨version, last, hensure, hread⟩ := exec_bind_ok.1 hvia
        have hkept := keeps_matrix_ensure turn d
        rw [hensure] at hkept
        obtain ⟨hdims, -⟩ := Prod.mk.inj hread
        cases hdims
        exact hkept
    | gmk67 d =>
        obtain ⟨hresult, -⟩ := Prod.mk.inj hexec
        have hlegacy : exec (KeyboardDriver.get_matrix_dimensions turn) d =
            (.ok dims, (exec (KeyboardDriver.get_matrix_dimensions turn) d).2) :=
          Prod.ext hresult rfl
        obtain ⟨_, last, hsync, hread⟩ :=
          (exec_bind_ok (x := Gmk67Driver.maybe_sync_on_attach)).1 hlegacy
        have hkept := keeps_matrix_sync d
        rw [hsync] at hkept
        obtain ⟨hdims, -⟩ := Prod.mk.inj hread
        cases hdims
        exact hkept
  unfold Supervisor.probe at h
  split at h
  · cases h
  · rename_i rows cols m hmatrix
    split at h
    · cases h
    · cases h
      have heq := hdims hmatrix
      rw [← heq]

end BoxedDriver

/-- The entry that counts for a device: of several, the last. -/
def configured (devices : List DeviceConfig) (vendor_id product_id : UInt16) :
    Option DeviceConfig :=
  devices.reverse.find? fun dev => (dev.vid, dev.pid) = (vendor_id, product_id)

/-- The dimensions that the factory of an entry constructs its driver with. -/
def DeviceConfig.ceiling (dev : DeviceConfig) : UInt8 × UInt8 :=
  match dev.driver.getD "via" with
  | "gmk67" => EK68_MATRIX
  | "epomaker" => EK68_MATRIX
  | _ => (16, 16)

variable [SerdeJson Text]

variable (T I Text) in
theorem factory_ceiling (interval : Option Nat) (sync : Bool) (dev : DeviceConfig) :
    ((dev.factory interval sync : DriverFactory (DeviceNode T I Text) (BoxedDriver T I Text)) =
        gmk67_factory sync ∧ dev.ceiling = EK68_MATRIX) ∨
      ((dev.factory interval sync : DriverFactory (DeviceNode T I Text) (BoxedDriver T I Text)) =
        via_fallback_factory interval ∧ dev.ceiling = (16, 16)) := by
  unfold DeviceConfig.factory DeviceConfig.ceiling
  generalize dev.driver.getD "via" = backend
  by_cases hvendor : backend = "gmk67" ∨ backend = "epomaker"
  · left
    rcases hvendor with rfl | rfl
    · exact ⟨rfl, rfl⟩
    · exact ⟨rfl, rfl⟩
  · right
    obtain ⟨hgmk67, hepomaker⟩ := not_or.1 hvendor
    constructor
    · split
      · exact absurd rfl hgmk67
      · exact absurd rfl hepomaker
      · rfl
    · split
      · exact absurd rfl hgmk67
      · exact absurd rfl hepomaker
      · rfl

theorem factory_matrix {interval : Option Nat} {sync : Bool} {dev : DeviceConfig}
    {node : DeviceNode T I Text} {path : String} {d : BoxedDriver T I Text}
    (h : dev.factory interval sync node path = .ok d) : d.matrix = dev.ceiling := by
  rcases factory_ceiling T I Text interval sync dev with
    ⟨hfactory, hceiling⟩ | ⟨hfactory, hceiling⟩
  · rw [hfactory, gmk67_factory] at h
    rw [hceiling]
    split at h
    · cases h
    · cases h
      rfl
  · rw [hfactory, via_fallback_factory] at h
    rw [hceiling]
    split at h
    · cases h
    · split at h
      · cases h
        rfl
      · cases h
        rfl

variable [CoalescerTransport T] [Gmk67Io I]

/-- The handle of a configured device has the dimensions of the factory. -/
theorem reports_ceiling {interval : Option Nat} {devices : List DeviceConfig}
    {handle : DeviceHandle} {dev : DeviceConfig}
    (h : Provided (build_driver_table interval devices : DriverTable (DeviceNode T I Text)
      (BoxedDriver T I Text)) handle)
    (hdev : configured devices handle.vendor_id handle.product_id = some dev) :
    handle.topology.matrix = ⟨dev.ceiling.1, dev.ceiling.2⟩ := by
  obtain ⟨turn, node, path, factory, driver, hfactory, hopen⟩ := h
  have hown : (build_driver_table interval devices : DriverTable (DeviceNode T I Text)
      (BoxedDriver T I Text)).factory handle.vendor_id handle.product_id =
        some (dev.factory interval (gmk67_sync_on_attach devices)) := by
    show ((configured devices handle.vendor_id handle.product_id).map _).or _ = _
    rw [hdev]
    rfl
  rw [hown, Option.some_inj] at hfactory
  rw [Supervisor.openDevice] at hopen
  cases hfresh : factory node path with
  | error err =>
      rw [hfresh] at hopen
      cases hopen
  | ok fresh =>
      rw [hfresh] at hopen
      rw [← hfactory] at hfresh
      rw [BoxedDriver.probe_matrix hopen, factory_matrix hfresh]

/-! ## Requests -/

/-- The request lies within the dimensions of the entry. -/
def DeviceConfig.admits (dev : DeviceConfig) (layer row col : UInt8) : Bool :=
  row < dev.rows && col < dev.cols && dev.layer_count_override.all (layer < ·)

/-- The dimensions of the entry are at least those that its factory has for all devices,
and at least the layers that the driver has reported, if it has reported any. -/
def DeviceConfig.Covers (dev : DeviceConfig) (layer_count : UInt8) : Prop :=
  layer_count = 0 ∨ (dev.ceiling.1 ≤ dev.rows ∧ dev.ceiling.2 ≤ dev.cols ∧
    ∀ layers, dev.layer_count_override = some layers → layer_count ≤ layers)

/-- The request for a key, and the key. -/
def EngineCommand.keyOf : EngineCommand → Option (UInt8 × UInt8 × UInt8)
  | .getKeycode _ layer row col _ => some (layer, row, col)
  | .setKeycode _ layer row col _ _ => some (layer, row, col)
  | _ => none

namespace Sys

/-- Whatever request for a key of the device comes next: it is handed to the worker only
within the dimensions of the entry, and refused as out of bounds outside of them. -/
def Confined {W D : Type} [KeyboardDriver D] (table : DriverTable W D) (s : Sys D) (id : String)
    (handle : DeviceHandle) (dev : DeviceConfig) : Prop :=
  ∀ (turn : Turn) (world : W) (envelope : Envelope) (op : WorkerOp) (layer row col : UInt8),
    envelope.cmd.forwarded = some (id, op) → envelope.cmd.keyOf = some (layer, row, col) →
      (s.sup.handle_command table turn world envelope = s.sup.push handle.tx op →
        dev.admits layer row col = true) ∧
      (dev.admits layer row col = false → s.sup.handle_command table turn world envelope =
        s.sup.reply_with_error op (Supervisor.out_of_bounds id layer row col))

end Sys

namespace Supervisor

variable {W D : Type}

/-- A request for a key is one dispatch with the check of its key. -/
theorem handle_command_key [KeyboardDriver D] (table : DriverTable W D) (turn : Turn) (world : W)
    (e : Supervisor D) {envelope : Envelope} {id : String} {op : WorkerOp} {layer row col : UInt8}
    (hforward : envelope.cmd.forwarded = some (id, op))
    (hkey : envelope.cmd.keyOf = some (layer, row, col)) :
    e.handle_command table turn world envelope = e.dispatch id (bounded id layer row col) op := by
  obtain ⟨origin, cmd⟩ := envelope
  cases cmd with
  | getKeycode id' layer' row' col' reply =>
      cases hforward
      cases hkey
      rfl
  | setKeycode id' layer' row' col' keycode reply =>
      cases hforward
      cases hkey
      rfl
  | _ => cases hkey

theorem dispatch_outside {e : Supervisor D} {id : String} {handle : DeviceHandle}
    (hdevice : e.registry.devices[id]? = some handle) {layer row col : UInt8}
    (h : handle.topology.contains layer row col = false) (op : WorkerOp) :
    e.dispatch id (bounded id layer row col) op =
      e.reply_with_error op (out_of_bounds id layer row col) := by
  simp only [dispatch, hdevice, bounded, h, Bool.false_eq_true, if_false]

theorem busy_ne_out_of_bounds (id : String) (layer row col : UInt8) :
    DaemonError.dbusRouting s!"device `{id}` is busy" ≠ out_of_bounds id layer row col := by
  intro h
  have htext := congrArg (fun e => match e with
    | DaemonError.dbusRouting detail => detail.toList.head?
    | _ => none) h
  have hbusy : (toString "device `").toList.head? = some 'd' := by decide
  have hbounds : (toString "(layer=").toList.head? = some '(' := by decide
  simp only [out_of_bounds, String.toList_append, List.head?_append, hbusy, hbounds,
    Option.some_or] at htext
  cases htext

/-- A request within the reported topology is not refused as out of bounds. -/
theorem dispatch_inside {e : Supervisor D} {id : String} {handle : DeviceHandle}
    (hdevice : e.registry.devices[id]? = some handle) {layer row col : UInt8}
    (h : handle.topology.contains layer row col = true) (op : WorkerOp) :
    e.dispatch id (bounded id layer row col) op ≠
      e.reply_with_error op (out_of_bounds id layer row col) := by
  have hrefusal : ∀ err err' : DaemonError, op.refusal err = op.refusal err' → err = err' := by
    intro err err' hsame
    cases op <;> cases hsame <;> rfl
  intro hsame
  have hlog := congrArg Supervisor.log hsame
  simp only [dispatch, hdevice, bounded, h, if_true, try_send] at hlog
  by_cases hclosed : e.closed handle.tx = true
  · rw [if_pos hclosed] at hlog
    have hlen := congrArg List.length hlog
    simp [surface_worker_send_failure, reply_with_error, detach, emit] at hlen
  · rw [if_neg hclosed] at hlog
    by_cases hroom : e.queued handle.tx < WORKER_CHANNEL_CAPACITY
    · rw [if_pos hroom] at hlog
      have hlen := congrArg List.length hlog
      simp [push, reply_with_error, emit] at hlen
    · rw [if_neg hroom] at hlog
      have hreply := List.append_cancel_left hlog
      rw [List.singleton_inj, Effect.replied.injEq] at hreply
      exact busy_ne_out_of_bounds id layer row col (hrefusal _ _ hreply.2)

/-- What is handed to the worker is within the reported topology. -/
theorem contains_of_push {e : Supervisor D} {id : String} {handle : DeviceHandle}
    (hdevice : e.registry.devices[id]? = some handle) {layer row col : UInt8} {op : WorkerOp}
    (h : e.dispatch id (bounded id layer row col) op = e.push handle.tx op) :
    handle.topology.contains layer row col = true := by
  by_contra houtside
  rw [dispatch_outside hdevice (Bool.not_eq_true _ ▸ houtside)] at h
  have hlen := congrArg (fun e => e.log.length) h
  simp [push, reply_with_error, emit] at hlen

end Supervisor

namespace Sys

omit [SerdeJson Text] [CoalescerTransport T] [Gmk67Io I] in
/-- A device keeps to the dimensions of its entry exactly if what it has reported does not
exceed them. -/
theorem confined_iff {D : Type} [KeyboardDriver D]
    {table : DriverTable (DeviceNode T I Text) D} {s : Sys D} {id : String} {handle : DeviceHandle}
    (hdevice : s.sup.registry.devices[id]? = some handle) (dev : DeviceConfig) :
    s.Confined table id handle dev ↔ ∀ layer row col,
      handle.topology.contains layer row col = true → dev.admits layer row col = true := by
  constructor
  · intro h layer row col hinside
    by_contra houtside
    let node : DeviceNode T I Text :=
      ⟨0, .error .disconnected, .error .disconnected, ⟨fun _ => none, fun _ => none, 0, fun _ => [], []⟩,
        none⟩
    obtain ⟨-, hrefused⟩ := h ⟨0, HashOrder.sorted⟩ node ⟨.client, .getKeycode id layer row col 0⟩
      _ layer row col rfl rfl
    have hrefused := hrefused (Bool.not_eq_true _ ▸ houtside)
    rw [Supervisor.handle_command_key table _ node s.sup rfl rfl] at hrefused
    exact Supervisor.dispatch_inside hdevice hinside _ hrefused
  · intro h turn world envelope op layer row col hforward hkey
    rw [Supervisor.handle_command_key table turn world s.sup hforward hkey]
    constructor
    · intro hpush
      exact h layer row col (Supervisor.contains_of_push hdevice hpush)
    · intro houtside
      refine Supervisor.dispatch_outside hdevice ?_ op
      by_contra hinside
      have hadmits := h layer row col (Bool.not_eq_false _ ▸ hinside)
      rw [houtside] at hadmits
      cases hadmits

end Sys

/-- The factories have at least one row and one column. -/
theorem ceiling_pos (dev : DeviceConfig) : 0 < dev.ceiling.1 ∧ 0 < dev.ceiling.2 := by
  unfold DeviceConfig.ceiling
  split
  · decide
  · decide
  · decide

theorem covers_iff (dev : DeviceConfig) (layer_count : UInt8) :
    (∀ layer row col,
      (⟨⟨dev.ceiling.1, dev.ceiling.2⟩, layer_count⟩ : DeviceTopology).contains layer row col = true →
        dev.admits layer row col = true) ↔ dev.Covers layer_count := by
  obtain ⟨hrows, hcols⟩ := ceiling_pos dev
  simp only [DeviceTopology.contains, KeyMatrix.contains, DeviceConfig.admits, Bool.and_eq_true,
    decide_eq_true_eq]
  constructor
  · intro h
    by_cases hnone : layer_count = 0
    · exact .inl hnone
    · have hlayers : 0 < layer_count := UInt8.pos_iff_ne_zero.mpr hnone
      refine .inr ⟨?_, ?_, ?_⟩
      · by_contra hmore
        have hrow := (h 0 dev.rows 0 ⟨hlayers, UInt8.not_le.mp hmore, hcols⟩).1.1
        exact UInt8.lt_irrefl _ hrow
      · by_contra hmore
        have hcol := (h 0 0 dev.cols ⟨hlayers, hrows, UInt8.not_le.mp hmore⟩).1.2
        exact UInt8.lt_irrefl _ hcol
      · intro layers hoverride
        by_contra hmore
        have hlayer := (h layers 0 0 ⟨UInt8.not_le.mp hmore, hrows, hcols⟩).2
        rw [hoverride, Option.all_some, decide_eq_true_eq] at hlayer
        exact UInt8.lt_irrefl _ hlayer
  · rintro (rfl | ⟨hrow, hcol, hlayer⟩) layer row col ⟨hl, hr, hc⟩
    · exact absurd hl (UInt8.not_lt.mpr UInt8.zero_le)
    · refine ⟨⟨UInt8.lt_of_lt_of_le hr hrow, UInt8.lt_of_lt_of_le hc hcol⟩, ?_⟩
      cases hoverride : dev.layer_count_override with
      | none => rfl
      | some layers =>
          rw [Option.all_some, decide_eq_true_eq]
          exact UInt8.lt_of_lt_of_le hl (hlayer layers hoverride)

namespace Sys

/-- For every list of entries and every run: in every state, a registered device that has
an entry keeps to its dimensions, whatever request comes next, if and only if the entry
covers those of the factory and the layers that the driver has reported. -/
theorem configured_bounds_iff (interval : Option Nat) (devices : List DeviceConfig)
    (labels : List (Label (DeviceNode T I Text))) :
    Always (step (build_driver_table interval devices))
      (fun s : Sys (BoxedDriver T I Text) =>
        ∀ (id : String) (handle : DeviceHandle) (dev : DeviceConfig),
          s.sup.registry.devices[id]? = some handle →
            configured devices handle.vendor_id handle.product_id = some dev →
              (s.Confined (W := DeviceNode T I Text) (build_driver_table interval devices) id handle
                  dev ↔
                dev.Covers handle.topology.layer_count))
      start labels := by
  refine always_of_preserves (I := fun s : Sys (BoxedDriver T I Text) => ∀ handle, s.Handed handle →
    Provided (W := DeviceNode T I Text) (build_driver_table interval devices) handle) ?_ ?_ ?_ labels
  · intro s l s' h hstep handle hhanded
    rcases handed_step hstep hhanded with hold | hnew
    · exact h handle hold
    · exact hnew
  · intro s h id handle dev hdevice hdev
    have hmatrix := reports_ceiling (h handle (.inl ⟨id, hdevice⟩)) hdev
    rw [confined_iff hdevice, ← covers_iff, ← hmatrix]
  · rintro handle (⟨id, hdevice⟩ | ⟨envelope, hmem, -⟩ | ⟨t, hmem, -⟩)
    · simp [start, Supervisor.new] at hdevice
    · cases hmem
    · cases hmem

end Sys

end Reports

/-! ## A board of five rows -/

/-- An entry for a VIA board of five rows and fifteen columns. -/
def smallBoard : DeviceConfig where
  vid := 0x05AC
  pid := 0x024F
  rows := 5
  cols := 15
  layer_count_override := none
  driver := none
  sync_on_attach := false

/-- The daemon with that entry. -/
def smallTable : DriverTable (DeviceNode MockTransport Board ShadowFile)
    (BoxedDriver MockTransport Board ShadowFile) := build_driver_table none [smallBoard]

/-- The node of the board. -/
def smallNode : DeviceNode MockTransport Board ShadowFile where
  now := 0
  open_transport := .ok (MockTransport.empty none, "hidraw7")
  vendor := .error .disconnected
  disk := ⟨fun _ => none, fun _ => none, 0, fun _ => [], []⟩
  data_path := none

/-- The board is attached. -/
def smallRun : List (Label (DeviceNode MockTransport Board ShadowFile)) :=
  [.enqueue (.deviceConnected "dev1" 0x05AC 0x024F "/dev/hidraw7"),
    .supervise HashOrder.sorted smallNode]

/-- A request for row 10 of the board is not refused as out of bounds. -/
theorem small_board_exceeded : ¬ Always (Sys.step smallTable)
    (fun s => ∀ (id : String) (handle : DeviceHandle) (dev : DeviceConfig),
      s.sup.registry.devices[id]? = some handle →
        configured [smallBoard] handle.vendor_id handle.product_id = some dev →
          s.Confined smallTable id handle dev) Sys.start smallRun := by
  have hattached : ((run (Sys.step smallTable) Sys.start smallRun).any fun s =>
      (s.sup.registry.devices["dev1"]?).any fun handle =>
        (handle.vendor_id, handle.product_id) = (0x05AC, 0x024F) ∧
          handle.topology.contains 0 10 10 = true) = true := by decide +kernel
  obtain ⟨s, hrun, hattached⟩ := (Option.any_eq_true _ _).1 hattached
  obtain ⟨handle, hdevice, hattached⟩ := (Option.any_eq_true _ _).1 hattached
  obtain ⟨hids, hinside⟩ := of_decide_eq_true hattached
  intro hclaim
  have hconfined := hclaim.last hrun "dev1" handle smallBoard hdevice (by
    rw [configured, hids]
    rfl)
  have hadmits := (Sys.confined_iff hdevice smallBoard).1 hconfined 0 10 10 hinside
  exact absurd hadmits (by decide)

end Clackd.Engine
