import Clackd.Engine.Wear
import Clackd.Hal.Legacy.Gmk67
import Clackd.Hal.Via.Held

/-!
# The drivers of the daemon

A worker owns a `Box<dyn KeyboardDriver>`, which is a `ViaDriver` in either mode or
a `Gmk67Driver`.  A method of the box is that method of the driver in it.  Which one
it is for a device is decided by the driver table that `main` builds.

## Main results

* `BoxedDriver.perform_actor`: a job of the worker is one operation of the actor, if
  there is one.
* `BoxedDriver.perform_emits`, `BoxedDriver.wake_cases`: no call and no wake-up
  changes which driver it is, or its mode.
* `clean_opened`: a driver that was just attached holds no edit.
-/

namespace Clackd.Engine

open Clackd.Foundation Clackd.Hal Clackd.Hal.Via Clackd.Hal.Legacy

/-- `Box<dyn KeyboardDriver>`. -/
inductive BoxedDriver (T I Text : Type) where
  | via (driver : ViaDriver T)
  | gmk67 (driver : Gmk67Driver I Text)

namespace BoxedDriver

variable {T I Text : Type}

/-- A method of the driver in the box. -/
def on {α : Type} (via : DriverM (ViaDriver T) α) (gmk67 : DriverM (Gmk67Driver I Text) α) :
    DriverM (BoxedDriver T I Text) α :=
  primitive fun d =>
    match d with
    | .via d => ((exec via d).1, .via (exec via d).2)
    | .gmk67 d => ((exec gmk67 d).1, .gmk67 (exec gmk67 d).2)

/-- The actor of the driver, with its arguments. -/
def actor : BoxedDriver T I Text → Option (CoalescerArgs × Coalescer T)
  | .via d =>
      match d.inner with
      | .direct _ => none
      | .coalesced args actor => some (args, actor)
  | .gmk67 _ => none

/-- A driver with an actor is a coalescing VIA driver. -/
theorem exists_via {d : BoxedDriver T I Text} {args : CoalescerArgs} {a : Coalescer T}
    (h : d.actor = some (args, a)) :
    ∃ e : ViaDriver T, d = .via e ∧ e.inner = .coalesced args a := by
  cases d with
  | gmk67 d => cases h
  | via d =>
      rw [actor] at h
      split at h
      · cases h
      · rename_i hinner
        cases h
        exact ⟨d, rfl, hinner⟩

variable [CoalescerTransport T] [Gmk67Io I] [SerdeJson Text]

instance : KeyboardDriver (BoxedDriver T I Text) where
  get_matrix_dimensions turn :=
    on (KeyboardDriver.get_matrix_dimensions turn) (KeyboardDriver.get_matrix_dimensions turn)
  get_layer_count turn :=
    on (KeyboardDriver.get_layer_count turn) (KeyboardDriver.get_layer_count turn)
  get_keycode turn layer row col :=
    on (KeyboardDriver.get_keycode turn layer row col) (KeyboardDriver.get_keycode turn layer row col)
  set_keycode turn layer row col keycode :=
    on (KeyboardDriver.set_keycode turn layer row col keycode)
      (KeyboardDriver.set_keycode turn layer row col keycode)
  get_macro_buffer turn offset length :=
    on (KeyboardDriver.get_macro_buffer turn offset length)
      (KeyboardDriver.get_macro_buffer turn offset length)
  set_macro_buffer turn offset data :=
    on (KeyboardDriver.set_macro_buffer turn offset data)
      (KeyboardDriver.set_macro_buffer turn offset data)
  get_lighting turn channel value_id :=
    on (KeyboardDriver.get_lighting turn channel value_id)
      (KeyboardDriver.get_lighting turn channel value_id)
  set_lighting turn channel value_id data :=
    on (KeyboardDriver.set_lighting turn channel value_id data)
      (KeyboardDriver.set_lighting turn channel value_id data)
  commit_to_nvram turn :=
    on (KeyboardDriver.commit_to_nvram turn) (KeyboardDriver.commit_to_nvram turn)
  emits_layout_event_per_set
    | .via d => KeyboardDriver.emits_layout_event_per_set d
    | .gmk67 d => KeyboardDriver.emits_layout_event_per_set d
  model_name
    | .via d => KeyboardDriver.model_name d
    | .gmk67 d => KeyboardDriver.model_name d

instance : BackgroundTasks (BoxedDriver T I Text) where
  wake turn dropped wakeup
    | .via d => (BackgroundTasks.wake turn dropped wakeup d).map .via
    | .gmk67 d => (BackgroundTasks.wake turn dropped wakeup d).map .gmk67

/-! ## Which driver it is -/

/-- A request in direct mode is served by the transport. -/
theorem exec_ask_direct {α : Type} (read : CoalescerReply → Except DriverError α) (turn : Turn)
    (op : CoalescerOp) {d : ViaDriver T} {inner : ViaDirect T} (h : d.inner = .direct inner) :
    exec (ViaDriver.ask read turn op) d =
      (read (inner.serve turn.order op).1,
        { d with inner := .direct (inner.serve turn.order op).2 }) := by
  simp only [ViaDriver.ask, exec_primitive, h]

/-- A job on a driver in direct mode is one operation of its transport. -/
theorem perform_direct (turn : Turn) {d : ViaDriver T} {inner : ViaDirect T}
    (h : d.inner = .direct inner) (job : Job) :
    (Worker.perform turn (.via d : BoxedDriver T I Text) job).driver =
      .via { d with inner := .direct (inner.serve turn.order job.relayed).2 } := by
  have hask : ∀ {α : Type} (read : CoalescerReply → Except DriverError α) (op : CoalescerOp),
      (.via (exec (ViaDriver.ask read turn op) d).2 : BoxedDriver T I Text) =
        .via { d with inner := .direct (inner.serve turn.order op).2 } :=
    fun read op => congrArg (fun r => BoxedDriver.via r.2) (exec_ask_direct read turn op h)
  cases job with
  | op op => cases op <;> exact hask _ _
  | debounced => exact hask CoalescerReply.toDone .flush
  | final => exact hask CoalescerReply.toDone .flush

/-- A job on a coalescing driver is one operation of its actor. -/
theorem perform_coalesced (turn : Turn) {d : ViaDriver T} {args : CoalescerArgs}
    {actor : Coalescer T} (h : d.inner = .coalesced args actor) (hlive : actor.exited = none)
    (job : Job) :
    (Worker.perform turn (.via d : BoxedDriver T I Text) job).driver =
      .via { d with inner := .coalesced args (actor.answer args turn job.relayed).2 } := by
  have hask : ∀ {α : Type} (read : CoalescerReply → Except DriverError α) (op : CoalescerOp),
      (.via (exec (ViaDriver.ask read turn op) d).2 : BoxedDriver T I Text) =
        .via { d with inner := .coalesced args (actor.answer args turn op).2 } :=
    fun read op => congrArg (fun r => BoxedDriver.via r.2) (ViaDriver.exec_ask read turn op h hlive)
  cases job with
  | op op => cases op <;> exact hask _ _
  | debounced => exact hask CoalescerReply.toDone .flush
  | final => exact hask CoalescerReply.toDone .flush

/-- A job on a legacy driver leaves a legacy driver. -/
theorem perform_gmk67 (turn : Turn) (d : Gmk67Driver I Text) (job : Job) : ∃ d',
    (Worker.perform turn (.gmk67 d : BoxedDriver T I Text) job).driver = .gmk67 d' := by
  cases job with
  | op op => cases op <;> exact ⟨_, rfl⟩
  | debounced => exact ⟨_, rfl⟩
  | final => exact ⟨_, rfl⟩

/-- The actor after a job: one operation on. -/
theorem perform_actor (turn : Turn) {d : BoxedDriver T I Text} (job : Job)
    (hlive : ∀ args actor, d.actor = some (args, actor) → actor.exited = none) :
    (Worker.perform turn d job).driver.actor =
      d.actor.map fun a => (a.1, (a.2.answer a.1 turn job.relayed).2) := by
  cases d with
  | via d =>
      cases h : d.inner with
      | direct inner =>
          rw [perform_direct turn h, actor, actor, h]
          rfl
      | coalesced args a =>
          have hactor : (BoxedDriver.via d : BoxedDriver T I Text).actor = some (args, a) := by
            rw [actor, h]
          rw [perform_coalesced turn h (hlive args a hactor), hactor]
          rfl
  | gmk67 d =>
      obtain ⟨d', hdriver⟩ := perform_gmk67 (T := T) turn d job
      rw [hdriver]
      rfl

/-- A job does not change the mode. -/
theorem perform_emits (turn : Turn) {d : BoxedDriver T I Text} (job : Job)
    (hlive : ∀ args actor, d.actor = some (args, actor) → actor.exited = none) :
    KeyboardDriver.emits_layout_event_per_set (Worker.perform turn d job).driver =
      KeyboardDriver.emits_layout_event_per_set d := by
  cases d with
  | via d =>
      cases h : d.inner with
      | direct inner =>
          rw [perform_direct turn h]
          simp only [KeyboardDriver.emits_layout_event_per_set, h]
      | coalesced args a =>
          have hactor : (BoxedDriver.via d : BoxedDriver T I Text).actor = some (args, a) := by
            rw [actor, h]
          rw [perform_coalesced turn h (hlive args a hactor)]
          simp only [KeyboardDriver.emits_layout_event_per_set, h]
  | gmk67 d =>
      obtain ⟨d', hdriver⟩ := perform_gmk67 (T := T) turn d job
      rw [hdriver]
      rfl

/-- A keycode edit on a coalescing driver succeeds. -/
theorem set_keycode_ok (turn : Turn) {d : BoxedDriver T I Text} {args : CoalescerArgs}
    {a : Coalescer T} (h : d.actor = some (args, a)) (hlive : a.exited = none)
    (layer row col : UInt8) (keycode : UInt16) (reply : ReplyId) :
    (Worker.perform turn d (.op (.setKeycode layer row col keycode reply))).ok = true := by
  obtain ⟨d, rfl, hinner⟩ := exists_via h
  show ((exec (ViaDriver.ask CoalescerReply.toDone turn (.setKeycode layer row col keycode)) d).1.mapError
    DaemonError.driver).isOk = true
  rw [ViaDriver.exec_ask _ turn _ hinner hlive]
  rfl

/-- A lighting edit on a coalescing driver succeeds as that of its actor. -/
theorem set_lighting_ok (turn : Turn) {d : BoxedDriver T I Text} {args : CoalescerArgs}
    {a : Coalescer T} (h : d.actor = some (args, a)) (hlive : a.exited = none)
    (channel value_id : UInt8) (data : List UInt8) (reply : ReplyId) :
    (Worker.perform turn d (.op (.setLighting channel value_id data reply))).ok =
      (Coalescer.setLighting channel value_id data a).1.isOk := by
  obtain ⟨d, rfl, hinner⟩ := exists_via h
  show ((exec (ViaDriver.ask CoalescerReply.toDone turn (.setLighting channel value_id data)) d).1.mapError
    DaemonError.driver).isOk = _
  rw [ViaDriver.exec_ask _ turn _ hinner hlive]
  show ((Coalescer.setLighting channel value_id data a).1.mapError DaemonError.driver).isOk = _
  cases (Coalescer.setLighting channel value_id data a).1 with
  | ok _ => rfl
  | error _ => rfl

/-! ## Wake-ups -/

/-- A wake-up is one of the actor, for its deadline or its closed channel. -/
theorem wake_cases {turn : Turn} {dropped : Bool} {wakeup : Background} {d d' : BoxedDriver T I Text}
    (hwake : BackgroundTasks.wake turn dropped wakeup d = some d') :
    KeyboardDriver.emits_layout_event_per_set d' = KeyboardDriver.emits_layout_event_per_set d ∧
      ∃ args a a', d.actor = some (args, a) ∧ d'.actor = some (args, a') ∧
        ((wakeup = .timer ∧ a.exited = none ∧
            a' = { a.autoFlush args turn.order turn.now with clock := turn.now }) ∨
          (wakeup = .closed ∧ dropped = true ∧
            a' = { a.shutdown args turn.order with clock := turn.now })) := by
  cases d with
  | gmk67 d => cases hwake
  | via d =>
      obtain ⟨e, hvia, rfl⟩ := Option.map_eq_some_iff.1 hwake
      cases h : d.inner with
      | direct inner =>
          simp only [BackgroundTasks.wake, h] at hvia
          cases hvia
      | coalesced args a =>
          obtain ⟨a', hinner, hwoke⟩ := ViaDriver.wake_cases h hvia
          refine ⟨?_, args, a, a', by rw [actor, h], by rw [actor, hinner], ?_⟩
          · simp only [KeyboardDriver.emits_layout_event_per_set, h, hinner]
          · rcases hwoke with ⟨htimer, -, hexited, heq⟩ | hclosed
            · exact .inl ⟨htimer, hexited, heq⟩
            · exact .inr hclosed

/-! ## Attaching -/

/-- Nothing has been asked of the actor that it would have to write. -/
def Clean (d : BoxedDriver T I Text) : Prop :=
  ∀ args a, d.actor = some (args, a) →
    a.exited = none ∧ a.buffer.isEmpty = true ∧ a.touched_channels.isEmpty = true

omit [CoalescerTransport T] [Gmk67Io I] [SerdeJson Text] in
theorem clean_of_actor {d d' : BoxedDriver T I Text} (h : d'.actor = d.actor) (hd : d.Clean) :
    d'.Clean := by
  intro args a hactor
  rw [h] at hactor
  exact hd args a hactor

omit [CoalescerTransport T] [Gmk67Io I] [SerdeJson Text] in
/-- A driver without an actor has nothing to write. -/
theorem clean_of_none {d : BoxedDriver T I Text} (h : d.actor = none) : d.Clean := by
  intro args a hactor
  rw [h] at hactor
  cases hactor

omit [CoalescerTransport T] [Gmk67Io I] [SerdeJson Text] in
/-- A coalescing driver that was just constructed is clean. -/
theorem clean_with_coalescing (transport : T) (matrix : UInt8 × UInt8) (args : CoalescerArgs)
    (now : Nat) :
    (.via (ViaDriver.with_coalescing transport matrix args now) : BoxedDriver T I Text).Clean := by
  intro args' a hactor
  cases hactor
  exact ⟨rfl, rfl, rfl⟩

variable (I Text) in
omit [CoalescerTransport T] [Gmk67Io I] [SerdeJson Text] in
/-- A VIA driver that was clean still is. -/
def StaysClean (d d' : ViaDriver T) : Prop :=
  (.via d : BoxedDriver T I Text).Clean → (.via d' : BoxedDriver T I Text).Clean

omit [CoalescerTransport T] [Gmk67Io I] [SerdeJson Text] in
theorem StaysClean.trans (d m d' : ViaDriver T) (h : StaysClean I Text d m)
    (h' : StaysClean I Text m d') : StaysClean I Text d d' := fun hd => h' (h hd)

omit [Gmk67Io I] [SerdeJson Text] in
/-- Questions leave a driver clean. -/
theorem keeps_ask {α : Type} (read : CoalescerReply → Except DriverError α) (turn : Turn)
    {op : CoalescerOp} (hset : ∀ layer row col kc, op ≠ .setKeycode layer row col kc)
    (hflush : op ≠ .flush)
    (hlight : ∀ channel value_id data, op ≠ .setLighting channel value_id data) :
    Keeps (StaysClean I Text) (ViaDriver.ask read turn op : DriverM (ViaDriver T) α) := by
  intro d hd
  cases h : d.inner with
  | direct inner =>
      rw [exec_ask_direct read turn op h]
      intro args a hactor
      cases hactor
  | coalesced args a =>
      have hactor : (BoxedDriver.via d : BoxedDriver T I Text).actor = some (args, a) := by
        rw [actor, h]
      obtain ⟨hlive, hbuffer, htouched⟩ := hd args a hactor
      rw [ViaDriver.exec_ask read turn op h hlive]
      intro args' a' hactor'
      cases hactor'
      obtain ⟨hbuffer', htouched'⟩ := Coalescer.answer_other args turn a hset hflush hlight
      rw [Coalescer.answer_exited, hbuffer', htouched']
      exact ⟨hlive, hbuffer, htouched⟩

omit [Gmk67Io I] [SerdeJson Text] in
theorem keeps_ensure (turn : Turn) :
    Keeps (StaysClean I Text)
      (ViaDriver.ensure_protocol_version turn : DriverM (ViaDriver T) UInt16) := by
  refine Keeps.bind StaysClean.trans (fun d hd => hd) fun d => ?_
  cases d.protocol_version with
  | some version => exact Keeps.pure (fun _ hd => hd) version
  | none =>
      refine Keeps.bind StaysClean.trans (keeps_ask _ turn (by simp) (by simp) (by simp)) ?_
      intro version
      exact Keeps.bind StaysClean.trans (fun d hd => clean_of_actor rfl hd) fun _ =>
        Keeps.pure (fun _ hd => hd) version

/-- A probed driver is as clean as it was before. -/
theorem clean_probe {turn : Turn} {d d' : BoxedDriver T I Text} {topology : DeviceTopology}
    (h : Supervisor.probe turn d = .ok (topology, d')) (hd : d.Clean) : d'.Clean := by
  have hmatrix : ∀ e : BoxedDriver T I Text, e.Clean →
      (exec (KeyboardDriver.get_matrix_dimensions turn) e).2.Clean := by
    intro e he
    cases e with
    | gmk67 e => exact clean_of_none rfl
    | via e =>
        have hkept : Keeps (StaysClean I Text)
            (KeyboardDriver.get_matrix_dimensions turn : DriverM (ViaDriver T) _) :=
          Keeps.bind StaysClean.trans (keeps_ensure turn) fun _ =>
            Keeps.bind StaysClean.trans (fun d hd => hd) fun _ => Keeps.pure (fun _ hd => hd) _
        exact hkept e he
  have hlayers : ∀ e : BoxedDriver T I Text, e.Clean →
      (exec (KeyboardDriver.get_layer_count turn) e).2.Clean := by
    intro e he
    cases e with
    | gmk67 e => exact clean_of_none rfl
    | via e =>
        have hkept : Keeps (StaysClean I Text)
            (KeyboardDriver.get_layer_count turn : DriverM (ViaDriver T) UInt8) :=
          Keeps.bind StaysClean.trans (keeps_ensure turn) fun _ =>
            keeps_ask _ turn (by simp) (by simp) (by simp)
        exact hkept e he
  unfold Supervisor.probe at h
  split at h
  · cases h
  · rename_i rows cols m hm
    split at h
    · cases h
    · rename_i layer_count last hlast
      cases h
      have hmid := hmatrix d hd
      rw [hm] at hmid
      have hend := hlayers m hmid
      rw [hlast] at hend
      exact hend

/-! ## The driver table -/

end BoxedDriver

/-- EK68 matrix bounds. -/
def EK68_MATRIX : UInt8 × UInt8 := (5, 15)

/-- The two layers of the EK68: base and Fn. -/
def EK68_LAYERS : UInt8 := 2

/-- What opening a device node yields, through either interface, and when. -/
structure DeviceNode (T I Text : Type) where
  now : Nat
  /-- The transport of a VIA node, with the name of the node. -/
  open_transport : Except DriverError (T × String)
  /-- The vendor interface. -/
  vendor : Except DriverError I
  disk : Disk Text
  data_path : Option String

/-- Per-device configuration entry from `devices.toml`. -/
structure DeviceConfig where
  vid : UInt16
  pid : UInt16
  rows : UInt8
  cols : UInt8
  layer_count_override : Option UInt8
  driver : Option String
  sync_on_attach : Bool

section Factories

variable {T I Text : Type}

/-- Factory for the permissive VIA fallback. -/
def via_fallback_factory (coalesce_interval : Option Nat) :
    DriverFactory (DeviceNode T I Text) (BoxedDriver T I Text) := fun node _ =>
  match node.open_transport with
  | .error e => .error (.driver e)
  | .ok (transport, device_id) =>
      match coalesce_interval with
      | some interval =>
          .ok (.via (.with_coalescing transport (16, 16) ⟨interval, device_id, false⟩ node.now))
      | none => .ok (.via (.new transport (16, 16)))

variable [SerdeJson Text]

/-- Factory for the GMK67-family vendor driver. -/
def gmk67_factory (sync : Bool) : DriverFactory (DeviceNode T I Text) (BoxedDriver T I Text) :=
  fun node _ =>
    match node.vendor with
    | .error e => .error (.driver e)
    | .ok io =>
        .ok (.gmk67 (.new io node.disk node.data_path EK68_MATRIX EK68_LAYERS sync))

/-- The backend of an entry: VIA, unless it names the vendor driver. -/
def DeviceConfig.factory (coalesce_interval : Option Nat) (sync : Bool) (dev : DeviceConfig) :
    DriverFactory (DeviceNode T I Text) (BoxedDriver T I Text) :=
  match dev.driver.getD "via" with
  | "gmk67" => gmk67_factory sync
  | "epomaker" => gmk67_factory sync
  | _ => via_fallback_factory coalesce_interval

/-- An entry names one of the two factories. -/
theorem DeviceConfig.factory_cases (coalesce_interval : Option Nat) (sync : Bool)
    (dev : DeviceConfig) {f : DriverFactory (DeviceNode T I Text) (BoxedDriver T I Text)}
    (h : dev.factory coalesce_interval sync = f) :
    f = gmk67_factory sync ∨ f = via_fallback_factory coalesce_interval := by
  subst h
  unfold factory
  split
  · exact .inl rfl
  · exact .inl rfl
  · exact .inr rfl

/-- `GMK67_SYNC_ON_ATTACH`: set by any entry of the vendor driver, under its
current name, that asks for it. -/
def gmk67_sync_on_attach (devices : List DeviceConfig) : Bool :=
  devices.any fun dev => dev.driver.getD "via" = "gmk67" && dev.sync_on_attach

/-- Constructs the daemon's driver dispatch table.  Of two entries for one device
the later counts. -/
def build_driver_table (coalesce_interval : Option Nat) (devices : List DeviceConfig) :
    DriverTable (DeviceNode T I Text) (BoxedDriver T I Text) where
  by_vid_pid key :=
    (devices.reverse.find? fun dev => (dev.vid, dev.pid) = key).map
      (DeviceConfig.factory coalesce_interval (gmk67_sync_on_attach devices))
  via_fallback := some (via_fallback_factory coalesce_interval)

omit [SerdeJson Text] in
theorem clean_via_fallback {interval : Option Nat} {node : DeviceNode T I Text} {path : String}
    {d : BoxedDriver T I Text} (h : via_fallback_factory interval node path = .ok d) : d.Clean := by
  unfold via_fallback_factory at h
  split at h
  · cases h
  · split at h
    · cases h
      exact BoxedDriver.clean_with_coalescing _ _ _ _
    · cases h
      exact BoxedDriver.clean_of_none rfl

theorem clean_gmk67 {sync : Bool} {node : DeviceNode T I Text} {path : String}
    {d : BoxedDriver T I Text} (h : gmk67_factory sync node path = .ok d) : d.Clean := by
  unfold gmk67_factory at h
  split at h
  · cases h
  · cases h
    exact BoxedDriver.clean_of_none rfl

/-- The factories of the daemon give clean drivers. -/
theorem clean_factory {interval : Option Nat} {devices : List DeviceConfig}
    {vendor_id product_id : UInt16} {node : DeviceNode T I Text} {path : String}
    {factory : DriverFactory (DeviceNode T I Text) (BoxedDriver T I Text)}
    {d : BoxedDriver T I Text}
    (hfactory : (build_driver_table interval devices).factory vendor_id product_id = some factory)
    (h : factory node path = .ok d) : d.Clean := by
  rcases Option.or_eq_some_iff.1 hfactory with hown | ⟨-, hfallback⟩
  · obtain ⟨dev, -, hdev⟩ := Option.map_eq_some_iff.1 hown
    obtain rfl | rfl := dev.factory_cases interval _ hdev
    · exact clean_gmk67 h
    · exact clean_via_fallback h
  · cases hfallback
    exact clean_via_fallback h

variable [CoalescerTransport T] [Gmk67Io I]

/-- What the daemon attaches is clean. -/
theorem clean_opened {interval : Option Nat} {devices : List DeviceConfig}
    {d : BoxedDriver T I Text} (h : Supervisor.Opens (build_driver_table interval devices) d) :
    d.Clean := by
  obtain ⟨turn, node, vendor_id, product_id, path, factory, topology, hfactory, hopened⟩ := h
  rw [Supervisor.openDevice] at hopened
  split at hopened
  · rename_i fresh hfresh
    exact BoxedDriver.clean_probe hopened (clean_factory hfactory hfresh)
  · cases hopened

end Factories

end Clackd.Engine
