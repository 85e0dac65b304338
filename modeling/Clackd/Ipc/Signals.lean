import Clackd.Engine.Channels
import Clackd.Engine.Lifecycle
import Clackd.Foundation.Broadcast

/-!
# The signals

`run_signal_pump` receives the lifecycle events of the engine from a broadcast channel
and emits a signal for each.  It may fall behind: the channel keeps the last 64 events,
and a pump that is further behind is told how many it has missed.  A signal that cannot
be emitted is logged and not tried again.

Everybody in the engine may send: the supervisor and the workers, whose events are in the
record of the engine, and the tasks of drivers.

## Main results

* `signals_faithful`: what the signals say of the events, in every run.
-/

namespace Clackd.Engine

open Clackd.Foundation Clackd.Hal

/-- The event that an entry of the record sends. -/
def Effect.event : Effect → Option LifecycleEvent
  | .lifecycle event => some event
  | _ => none

/-- What an event says of a device: it came, or it went. -/
def mark (id : String) : LifecycleEvent → Option Bool
  | .deviceAdded device_id => if device_id = id then some true else none
  | .deviceRemoved device_id => if device_id = id then some false else none
  | .layoutUpdated _ => none

theorem presence_eq (id : String) (log : List Effect) :
    presence id log = (log.filterMap Effect.event).filterMap (mark id) := by
  rw [List.filterMap_filterMap, presence]
  congr 1
  funext x
  cases x with
  | lifecycle event => cases event <;> rfl
  | _ => rfl

end Clackd.Engine

namespace Clackd.Ipc

open Clackd.Foundation Clackd.Hal Clackd.Engine
open Std (ExtTreeMap)

/-- The capacity of the lifecycle broadcast channel. -/
def LIFECYCLE_CHANNEL_CAPACITY : Nat := 64

/-- A signal of the interface. -/
inductive Signal where
  | layout_updated (device_id : String)
  | device_added (device_id : String)
  | device_removed (device_id : String)
  deriving DecidableEq, Repr

/-- The signal for an event. -/
def signalOf : LifecycleEvent → Signal
  | .deviceAdded device_id => .device_added device_id
  | .deviceRemoved device_id => .device_removed device_id
  | .layoutUpdated device_id => .layout_updated device_id

/-- What a signal says of a device: it came, or it went. -/
def Signal.mark (id : String) : Signal → Option Bool
  | .device_added device_id => if device_id = id then some true else none
  | .device_removed device_id => if device_id = id then some false else none
  | .layout_updated _ => none

theorem marks_map (id : String) (events : List LifecycleEvent) :
    (events.map signalOf).filterMap (Signal.mark id) = events.filterMap (mark id) := by
  rw [List.filterMap_map]
  congr 1
  funext event
  cases event <;> rfl

/-- The engine, the lifecycle channel with the pump's receiver, the signals emitted so
far, and how many events have none. -/
structure Feed (D : Type) where
  engine : Sys D
  channel : Broadcast LifecycleEvent
  signals : List Signal
  missed : Nat

/-- One step: the engine moves, a driver's task sends `LayoutUpdated`, or the pump takes
a turn of its loop, where emitting a signal works or fails. -/
inductive FeedLabel (W : Type) where
  | engine (l : Label W)
  | announce (device_id : String)
  | pump (emits : Bool)

namespace Feed

variable {W D : Type}

def start : Feed D := ⟨Sys.start, .empty, [], 0⟩

/-- A turn of `run_signal_pump`, once there is something to receive. -/
def pump (emits : Bool) (f : Feed D) : Option (Feed D) :=
  (f.channel.recv LIFECYCLE_CHANNEL_CAPACITY).map fun r =>
    match r.1 with
    | .value event =>
        if emits then { f with channel := r.2, signals := f.signals ++ [signalOf event] }
        else { f with channel := r.2, missed := f.missed + 1 }
    | .lagged skipped => { f with channel := r.2, missed := f.missed + skipped }

/-- The events that a step of the engine sends. -/
def sends (s s' : Sys D) : List LifecycleEvent :=
  (s'.sup.log.drop s.sup.log.length).filterMap Effect.event

variable [KeyboardDriver D] [BackgroundTasks D]

/-- One step, or `none` if that party cannot move so. -/
def step (table : DriverTable W D) (f : Feed D) : FeedLabel W → Option (Feed D)
  | .engine l => (f.engine.step table l).map fun engine =>
      { f with engine := engine, channel := f.channel.send (sends f.engine engine) }
  | .announce device_id => some { f with channel := f.channel.send [.layoutUpdated device_id] }
  | .pump emits => f.pump emits

/-! ## The account of the pump -/

/-- What holds of the signals in every state. -/
structure Kept (f : Feed D) : Prop where
  /-- All events of the engine are sent, in order. -/
  sent : (f.engine.sup.log.filterMap Effect.event).Sublist f.channel.sent
  /-- Nobody else says of a device that it came or went. -/
  marks : ∀ id, f.channel.sent.filterMap (mark id) = presence id f.engine.sup.log
  follows : ∃ events, f.signals = events.map signalOf ∧ f.channel.Follows events f.missed

omit [KeyboardDriver D] [BackgroundTasks D] in
theorem kept_start : (start : Feed D).Kept where
  sent := List.Sublist.refl _
  marks := fun _ => rfl
  follows := ⟨[], rfl, Broadcast.follows_empty⟩

omit [KeyboardDriver D] [BackgroundTasks D] in
/-- The cases of a turn of the pump. -/
theorem pump_cases {emits : Bool} {f f' : Feed D} (h : f.pump emits = some f') :
    f'.engine = f.engine ∧ f'.channel.sent = f.channel.sent ∧
      ((∃ event, f.channel.recv LIFECYCLE_CHANNEL_CAPACITY = some (.value event, f'.channel) ∧
          ((emits = true ∧ f'.signals = f.signals ++ [signalOf event] ∧ f'.missed = f.missed) ∨
            (emits = false ∧ f'.signals = f.signals ∧ f'.missed = f.missed + 1))) ∨
        ∃ skipped, f.channel.recv LIFECYCLE_CHANNEL_CAPACITY = some (.lagged skipped, f'.channel) ∧
          f'.signals = f.signals ∧ f'.missed = f.missed + skipped) := by
  obtain ⟨⟨got, channel⟩, hrecv, heq⟩ := Option.map_eq_some_iff.1 h
  have hsent := Broadcast.recv_sent hrecv
  cases got with
  | value event =>
      dsimp only at heq
      split at heq
      · rename_i hemits
        cases heq
        exact ⟨rfl, hsent, .inl ⟨event, hrecv, .inl ⟨hemits, rfl, rfl⟩⟩⟩
      · rename_i hemits
        cases heq
        exact ⟨rfl, hsent, .inl ⟨event, hrecv, .inr ⟨Bool.not_eq_true _ ▸ hemits, rfl, rfl⟩⟩⟩
  | lagged skipped =>
      cases heq
      exact ⟨rfl, hsent, .inr ⟨skipped, hrecv, rfl, rfl⟩⟩

/-- Every step keeps the account. -/
theorem kept_step {table : DriverTable W D} {f f' : Feed D} {l : FeedLabel W} (h : f.Kept)
    (hstep : f.step table l = some f') : f'.Kept := by
  obtain ⟨events, hsignals, hfollows⟩ := h.follows
  cases l with
  | engine l =>
      obtain ⟨s, hs, rfl⟩ := Option.map_eq_some_iff.1 hstep
      obtain ⟨more, hlog⟩ := (Sys.step_cases hs).log
      have hsends : sends f.engine s = more.filterMap Effect.event := by
        rw [sends, hlog, List.drop_left' rfl]
      refine ⟨?_, ?_, events, hsignals, hfollows.send _⟩
      · show (s.sup.log.filterMap Effect.event).Sublist (f.channel.sent ++ sends f.engine s)
        rw [hsends, hlog, List.filterMap_append]
        exact h.sent.append (List.Sublist.refl _)
      · intro id
        show (f.channel.sent ++ sends f.engine s).filterMap (mark id) = presence id s.sup.log
        rw [hsends, hlog, List.filterMap_append, h.marks, presence_append, presence_eq id more]
  | announce device_id =>
      cases hstep
      refine ⟨?_, ?_, events, hsignals, hfollows.send _⟩
      · exact h.sent.trans (List.sublist_append_left _ _)
      · intro id
        show (f.channel.sent ++ [LifecycleEvent.layoutUpdated device_id]).filterMap (mark id) = _
        rw [List.filterMap_append, h.marks]
        exact List.append_nil _
  | pump emits =>
      obtain ⟨hengine, hsent, hcases⟩ := pump_cases hstep
      refine ⟨by rw [hengine, hsent]; exact h.sent,
        fun id => by rw [hengine, hsent]; exact h.marks id, ?_⟩
      rcases hcases with ⟨event, hrecv, ⟨-, hsignals', hmissed⟩ | ⟨-, hsignals', hmissed⟩⟩ |
        ⟨skipped, hrecv, hsignals', hmissed⟩
      · refine ⟨events ++ [event], ?_, ?_⟩
        · rw [hsignals', hsignals, List.map_append]
          rfl
        · rw [hmissed]
          exact hfollows.recv_value hrecv
      · refine ⟨events, hsignals'.trans hsignals, ?_⟩
        rw [hmissed]
        exact hfollows.recv_lost hrecv
      · refine ⟨events, hsignals'.trans hsignals, ?_⟩
        rw [hmissed]
        exact hfollows.recv_lagged hrecv

omit [KeyboardDriver D] [BackgroundTasks D] in
theorem disjoint_start : (Sys.start : Sys D).sup.Disjoint :=
  fun _ => .inl ExtTreeMap.getElem?_empty

omit [KeyboardDriver D] [BackgroundTasks D] in
theorem mirrored_start : Sys.Mirrored (Sys.start : Sys D) := by
  intro id
  refine ⟨trivial, fun _ => ⟨?_, fun hcon => by cases hcon⟩⟩
  rintro ⟨handle, hcon⟩
  change (∅ : ExtTreeMap String DeviceHandle)[id]? = _ at hcon
  rw [ExtTreeMap.getElem?_empty] at hcon
  cases hcon

/-- The step of the engine, if it is one, forwards no operation to a worker that is
gone. -/
def Live (f : Feed D) : FeedLabel W → Prop
  | .engine l => f.engine.ForwardsToLiveWorkers l
  | _ => True

instance (f : Feed D) : ∀ l : FeedLabel W, Decidable (Live f l)
  | .engine l => inferInstanceAs (Decidable (f.engine.ForwardsToLiveWorkers l))
  | .announce _ => isTrue trivial
  | .pump _ => isTrue trivial

/-- As long as no operation is forwarded to a worker that is gone, the events mirror the
registry. -/
theorem mirrored_run {table : DriverTable W D} {ls : List (FeedLabel W)} {f : Feed D}
    (hlive : EveryStep (step table) Live start ls) (hrun : run (step table) start ls = some f) :
    f.engine.sup.Disjoint ∧ Sys.Mirrored f.engine := by
  refine run_preserves_of_everyStep (I := fun f : Feed D => f.engine.sup.Disjoint ∧
    Sys.Mirrored f.engine) ?_
    ⟨disjoint_start, mirrored_start⟩ hlive hrun
  intro f l f' h hl hstep
  cases l with
  | engine l =>
      obtain ⟨s, hs, rfl⟩ := Option.map_eq_some_iff.1 hstep
      exact ⟨Sys.disjoint_step (Sys.step_cases hs) h.1,
        (Sys.mirrored_step table f.engine l s h.1 h.2 hs).2 hl⟩
  | announce device_id =>
      cases hstep
      exact h
  | pump emits =>
      rw [(pump_cases hstep).1]
      exact h

/-- **The signals follow the events.**  In every run, with any number of events sent
between the turns of the pump: the signals are those of a part of the events, in order
and none twice, and the events without a signal are exactly as many as were counted.  A
turn counts events as missed only if it could not emit one, or the pump was more than 64
events behind.  A pump that missed nothing has emitted every event up to where it is; if
it has caught up, and no operation was forwarded to a worker that is gone, then the last
signals of the devices tell which of them are registered. -/
theorem signals_faithful (table : DriverTable W D) {ls : List (FeedLabel W)} {f : Feed D}
    (hrun : run (step table) start ls = some f) :
    (∃ events : List LifecycleEvent, f.signals = events.map signalOf ∧
      events.Sublist (f.channel.sent.take f.channel.next) ∧
        events.length + f.missed = f.channel.next ∧ f.channel.next ≤ f.channel.sent.length) ∧
      (f.engine.sup.log.filterMap Effect.event).Sublist f.channel.sent ∧
      (∀ emits f', f.pump emits = some f' →
        (f.missed < f'.missed ↔ emits = false ∨ LIFECYCLE_CHANNEL_CAPACITY < f.channel.backlog)) ∧
      (f.missed = 0 → f.signals = (f.channel.sent.take f.channel.next).map signalOf) ∧
      (f.missed = 0 → f.channel.backlog = 0 → EveryStep (step table) Live start ls → ∀ id,
        Alternating true (f.signals.filterMap (Signal.mark id)) ∧
          (f.engine.status = .running → (f.engine.sup.Registered id ↔
            (f.signals.filterMap (Signal.mark id)).getLast? = some true))) := by
  have hkept : f.Kept := run_preserves (fun _ _ _ => kept_step) kept_start hrun
  obtain ⟨events, hsignals, hfollows⟩ := hkept.follows
  have hexact : f.missed = 0 → f.signals = (f.channel.sent.take f.channel.next).map signalOf := by
    intro hnone
    rw [hnone] at hfollows
    rw [hsignals, hfollows.exact]
  refine ⟨⟨events, hsignals, hfollows.sublist, hfollows.count, hfollows.le⟩, hkept.sent, ?_, hexact,
    ?_⟩
  · intro emits f' hpump
    obtain ⟨-, -, hcases⟩ := pump_cases hpump
    have hlag : (∃ skipped channel,
        f.channel.recv LIFECYCLE_CHANNEL_CAPACITY = some (.lagged skipped, channel)) ↔
          LIFECYCLE_CHANNEL_CAPACITY < f.channel.backlog := Broadcast.recv_lagged_iff
    rcases hcases with ⟨event, hrecv, hmissed⟩ | ⟨skipped, hrecv, -, hmissed⟩
    · have hnear : ¬ LIFECYCLE_CHANNEL_CAPACITY < f.channel.backlog := by
        intro hbehind
        obtain ⟨skipped, channel, hcon⟩ := hlag.2 hbehind
        rw [hcon] at hrecv
        cases hrecv
      rcases hmissed with ⟨hemits, -, hmissed⟩ | ⟨hemits, -, hmissed⟩
      · simp [hmissed, hemits, hnear]
      · simp [hmissed, hemits]
    · have hbehind := hlag.1 ⟨skipped, f'.channel, hrecv⟩
      have hpos := Broadcast.lagged_pos hrecv
      constructor
      · intro _
        exact .inr hbehind
      · intro _
        omega
  · intro hnone hcaught hlive id
    have hmirrored := (mirrored_run hlive hrun).2 id
    have hall : f.channel.sent.take f.channel.next = f.channel.sent := by
      refine List.take_of_length_le ?_
      rw [Broadcast.backlog] at hcaught
      omega
    rw [hexact hnone, hall, marks_map, hkept.marks]
    exact hmirrored

/-- A device is attached, asked for a key and unplugged, and the pump emits both signals. -/
def plugRun : List (FeedLabel (Except DaemonError MockDriver)) :=
  [.engine (.enqueue (.deviceConnected "dev1" 0x05AC 0x024F "/dev/hidraw7")),
    .engine (.supervise HashOrder.sorted (.ok (mockDriver []))), .pump true,
    .engine (.enqueue (.getKeycode "dev1" 0 0 0 1)),
    .engine (.supervise HashOrder.sorted (.ok (mockDriver []))),
    .engine (.enqueue (.deviceDisconnected "dev1")),
    .engine (.supervise HashOrder.sorted (.ok (mockDriver []))), .pump true]

/-- The two signals are all that was sent, and by the last of them the device is gone. -/
theorem signals_faithful_plug : ∃ f : Feed MockDriver,
    run (step mockTable) start plugRun = some f ∧
      f.signals = [.device_added "dev1", .device_removed "dev1"] ∧
        f.signals = (f.channel.sent.take f.channel.next).map signalOf ∧
          ¬ f.engine.sup.Registered "dev1" := by
  have hrun : (run (step mockTable) start plugRun).map
      (fun f => (f.signals, f.missed, f.channel.backlog, f.engine.status)) =
        some ([.device_added "dev1", .device_removed "dev1"], 0, 0, .running) := by
    decide +kernel
  have hlive : EveryStep (step mockTable) Live start plugRun := by decide +kernel
  obtain ⟨f, hf, heq⟩ := Option.map_eq_some_iff.1 hrun
  obtain ⟨hsignals, heq⟩ := Prod.mk.inj heq
  obtain ⟨hmissed, heq⟩ := Prod.mk.inj heq
  obtain ⟨hcaught, hrunning⟩ := Prod.mk.inj heq
  obtain ⟨-, -, -, hexact, hpresent⟩ := signals_faithful mockTable hf
  refine ⟨f, hf, hsignals, hexact hmissed, fun hregistered => ?_⟩
  have hlast := ((hpresent hmissed hcaught hlive "dev1").2 hrunning).1 hregistered
  rw [hsignals] at hlast
  revert hlast
  decide

end Feed

end Clackd.Ipc
