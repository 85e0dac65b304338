import Clackd.Engine.System
import Clackd.Hal.Via.Mock
import Clackd.Hal.Via.Writes

/-!
# What makes a coalescing keyboard write

Two timers act on a coalescing driver.  The actor of the driver flushes its
buffer when its own deadline expires; the worker commits once keycode edits have
settled for `LEGACY_COMMIT_DEBOUNCE`, because the driver does not announce a
layout per set.  `Bench` is a worker with the clock and the senders of its
channel around it, and any requests may be queued on it at any time.

A write is `Triggered` if it has one of the reasons the coalescing mode gives
for writing: the actor's deadline, an explicit commit, or a closed channel.

## Main results

* `triggered_step`: a move writes for another reason exactly if it is the end of
  a debounced commit that finds something to write.
* `writes_triggered_iff`: so a run writes for these reasons only exactly if its
  debounced commits find nothing.
-/

namespace Clackd.Engine

open Clackd.Foundation Clackd.Hal Clackd.Hal.Via

/-! ## The operation behind a driver call -/

section Relay

variable {T : Type} [CoalescerTransport T]

/-- The operation a driver call is relayed as. -/
def WorkerOp.relayed : WorkerOp → CoalescerOp
  | .getKeycode layer row col _ => .getKeycode layer row col
  | .setKeycode layer row col keycode _ => .setKeycode layer row col keycode
  | .commit _ => .flush
  | .getMacro offset length _ => .getMacro offset length
  | .setMacro offset data _ => .setMacro offset data
  | .getLighting channel value_id _ => .getLighting channel value_id
  | .setLighting channel value_id data _ => .setLighting channel value_id data

/-- The operation behind a job. -/
def Job.relayed : Job → CoalescerOp
  | .op request => request.relayed
  | .debounced => .flush
  | .final => .flush

/-- A commit is relayed as a flush. -/
theorem Job.relayed_of_commit {job : Job} (h : job.isCommit = true) : job.relayed = .flush := by
  cases job with
  | op op =>
      cases op with
      | commit reply => rfl
      | _ => cases h
  | debounced => rfl
  | final => rfl

/-- The driver after an operation is the driver after one answer of its actor. -/
theorem Worker.call_relayed (turn : Turn) {d : ViaDriver T} {args : CoalescerArgs} {actor : Coalescer T}
    (h : d.inner = .coalesced args actor) (hlive : actor.exited = none) (op : WorkerOp) :
    (Worker.call turn d op).driver =
      { d with inner := .coalesced args (actor.answer args turn op.relayed).2 } := by
  cases op <;> exact congrArg Prod.snd (ViaDriver.exec_ask _ turn _ h hlive)

/-- A job ends with one answer of the actor. -/
theorem Worker.finish_relayed {w : WorkerId} {turn : Turn} {x : Worker (ViaDriver T)} {job : Job}
    {args : CoalescerArgs} {actor : Coalescer T} (hphase : x.phase = .running job)
    (h : x.driver.inner = .coalesced args actor) (hlive : actor.exited = none)
    {r : Worker (ViaDriver T) × List Effect} (hfinish : x.finish w turn = some r) :
    r.1.driver =
      { x.driver with inner := .coalesced args (actor.answer args turn job.relayed).2 } := by
  have hcommit : (Worker.commit turn x.driver).driver =
      { x.driver with inner := .coalesced args (actor.answer args turn .flush).2 } :=
    congrArg Prod.snd (ViaDriver.exec_ask _ turn _ h hlive)
  rw [finish, hphase] at hfinish
  cases job with
  | op op =>
      cases hfinish
      exact (aftermath_driver turn op _ _).trans (call_relayed turn h hlive op)
  | debounced =>
      cases hfinish
      exact hcommit
  | final =>
      cases hfinish
      exact hcommit

end Relay

/-- A worker, the clock, and whether anybody can send on its channel. -/
structure Bench (D : Type) where
  now : Nat
  senders : Bool
  worker : Worker D
  log : List Effect

/-- What can happen around a worker. -/
inductive BenchMove where
  | tick (ms : Nat)
  | request (op : WorkerOp)
  /-- The last sender is dropped. -/
  | close
  | worker (move : WorkerMove)
  | background (order : HashOrder) (wakeup : Background)

namespace Bench

section Steps

variable {D : Type}

/-- A worker as it is spawned. -/
def start (device_id : String) (driver : D) (now : Nat) : Bench D where
  now := now
  senders := true
  worker := Worker.spawn device_id driver
  log := []

/-- A worker after a move, with what the move emitted. -/
def setWorker (r : Worker D × List Effect) (s : Bench D) : Bench D :=
  { s with worker := r.1, log := s.log ++ r.2 }

variable [KeyboardDriver D]

/-- A move of the worker.  The engine channel takes its report. -/
def workerStep (s : Bench D) : WorkerMove → Option (Bench D)
  | .recv => (s.worker.recv 0 s.senders).map fun r => s.setWorker r
  | .debounce => (s.worker.debounce 0 s.senders s.now).map fun r => s.setWorker r
  | .finish order => (s.worker.finish 0 ⟨s.now, order⟩).map fun r => s.setWorker r
  | .report => s.worker.reportDone.map fun x => s.setWorker (x, [])
  | .exit => s.worker.exitTask.map fun x => s.setWorker (x, [])
  | .panic => s.worker.panicked.map fun x => s.setWorker (x, [])

variable [BackgroundTasks D]

/-- One move, or `none` if it cannot happen. -/
def step (s : Bench D) : BenchMove → Option (Bench D)
  | .tick ms => some { s with now := s.now + ms }
  | .request op =>
      if s.senders ∧ s.worker.phase ≠ .gone ∧ s.worker.rx.length < WORKER_CHANNEL_CAPACITY then
        some { s with worker := { s.worker with rx := s.worker.rx ++ [op] } }
      else
        none
  | .close => some { s with senders := false }
  | .worker move => s.workerStep move
  | .background order wakeup =>
      (BackgroundTasks.wake ⟨s.now, order⟩ (s.worker.phase = .gone) wakeup s.worker.driver).map
        fun driver => s.setWorker ({ s.worker with driver := driver }, [.woke 0 wakeup])

end Steps

/-! ## Reasons to write -/

section Reasons

variable {T : Type} [CoalescerTransport T] {args : CoalescerArgs}

/-- What the coalescing mode gives as a reason for a write, in the state before
the move: keycodes are written when the deadline of the actor has expired, and
everything is written by an explicit commit, by the final commit of a worker
whose channel is closed, and once the driver is dropped. -/
def Triggered (s : Bench (ViaDriver (Metered T))) (write : Write) : BenchMove → Prop
  | .worker (.finish _) =>
      (∃ reply, s.worker.phase = .running (.op (.commit reply))) ∨
        (s.worker.phase = .running .final ∧ s.senders = false)
  | .background _ .timer =>
      write.isKeycode = true ∧ ∃ args actor, s.worker.driver.inner = .coalesced args actor ∧
        actor.deadline.any (· ≤ s.now) = true
  | .background _ .closed => s.worker.phase = .gone
  | _ => False

/-- All writes of the move have a reason. -/
def WritesTriggered (s : Bench (ViaDriver (Metered T))) (move : BenchMove) : Prop :=
  ∀ s', s.step move = some s' →
    ∃ ws, s'.worker.driver.writes = s.worker.driver.writes ++ ws ∧
      ∀ write ∈ ws, s.Triggered write move

/-- If the move is the end of a debounced commit, nothing is buffered and no
lighting channel is touched. -/
def DebounceFindsNothing (s : Bench (ViaDriver (Metered T))) : BenchMove → Prop
  | .worker (.finish _) => s.worker.phase = .running .debounced →
      ∀ args actor, s.worker.driver.inner = .coalesced args actor →
        actor.buffer.isEmpty = true ∧ actor.touched_channels.isEmpty = true
  | _ => True

/-- The driver is a coalescing one, its actor is there as long as the worker, and
a worker makes its final commit only on a closed channel. -/
structure Coalescing (args : CoalescerArgs) (s : Bench (ViaDriver (Metered T))) : Prop where
  actor : ∃ actor, s.worker.driver.inner = .coalesced args actor ∧
    (s.worker.phase ≠ .gone → actor.exited = none)
  final : s.worker.phase = .running .final → s.senders = false

omit [CoalescerTransport T] in
/-- A worker that was not gone moves, and its driver stays as it was. -/
theorem Coalescing.moved {s : Bench (ViaDriver (Metered T))} (h : s.Coalescing args)
    {r : Worker (ViaDriver (Metered T)) × List Effect} (hlive : s.worker.phase ≠ .gone)
    (hdriver : r.1.driver = s.worker.driver)
    (hfinal : r.1.phase = .running .final → s.senders = false) :
    (s.setWorker r).Coalescing args where
  actor := by
    obtain ⟨actor, hinner, hexited⟩ := h.actor
    exact ⟨actor, by rw [← hinner, ← hdriver]; rfl, fun _ => hexited hlive⟩
  final := hfinal

/-- What a worker move does to the driver of a coalescing bench. -/
theorem workerStep_cases {s s' : Bench (ViaDriver (Metered T))} (h : s.Coalescing args)
    {move : WorkerMove} (hstep : s.workerStep move = some s') : s'.Coalescing args ∧
      (s'.worker.driver = s.worker.driver ∧ (∀ order, move ≠ .finish order) ∨
        ∃ order job actor, move = .finish order ∧ s.worker.phase = .running job ∧
          s.worker.driver.inner = .coalesced args actor ∧ actor.exited = none ∧
          s'.worker.driver = { s.worker.driver with
            inner := .coalesced args (actor.answer args ⟨s.now, order⟩ job.relayed).2 }) := by
  cases move with
  | recv =>
      obtain ⟨r, hr, rfl⟩ := Option.map_eq_some_iff.1 hstep
      have hlive := (Worker.recv_moves hr).live
      obtain ⟨hidle, ⟨op, rest, -, rfl⟩ | ⟨-, hclosed, -, rfl⟩ | ⟨-, -, -, rfl⟩⟩ :=
        Worker.recv_cases hr
      · exact ⟨h.moved hlive rfl (fun hcon => by cases hcon), .inl ⟨rfl, by simp⟩⟩
      · exact ⟨h.moved hlive rfl fun _ => hclosed, .inl ⟨rfl, by simp⟩⟩
      · exact ⟨h.moved hlive rfl (fun hcon => by cases hcon), .inl ⟨rfl, by simp⟩⟩
  | debounce =>
      obtain ⟨r, hr, rfl⟩ := Option.map_eq_some_iff.1 hstep
      have hlive := (Worker.debounce_moves hr).live
      obtain ⟨-, -, rfl⟩ := Worker.debounce_cases hr
      exact ⟨h.moved hlive rfl (fun hcon => by cases hcon), .inl ⟨rfl, by simp⟩⟩
  | finish order =>
      obtain ⟨r, hr, rfl⟩ := Option.map_eq_some_iff.1 hstep
      have hlive := (Worker.finish_moves hr).live
      obtain ⟨actor, hinner, hexited⟩ := h.actor
      have hdriver : ∀ job, s.worker.phase = .running job → r.1.driver = { s.worker.driver with
          inner := .coalesced args (actor.answer args ⟨s.now, order⟩ job.relayed).2 } :=
        fun job hphase => Worker.finish_relayed hphase hinner (hexited hlive) hr
      have hdone : ∀ job, s.worker.phase = .running job → r.1.phase ≠ .running .final →
          (s.setWorker r).Coalescing args := by
        intro job hphase hfinal
        refine ⟨⟨_, congrArg ViaDriver.inner (hdriver job hphase), fun _ => ?_⟩,
          fun hcon => absurd hcon hfinal⟩
        rw [Coalescer.answer_exited]
        exact hexited hlive
      obtain ⟨op, hphase, rfl⟩ | ⟨hphase, rfl⟩ | ⟨hphase, rfl⟩ := Worker.finish_cases hr
      · refine ⟨hdone _ hphase ?_, .inr ⟨order, _, actor, rfl, hphase, hinner, hexited hlive,
          hdriver _ hphase⟩⟩
        rw [Worker.finishOp_phase]
        split <;> simp
      · refine ⟨hdone _ hphase ?_, .inr ⟨order, _, actor, rfl, hphase, hinner, hexited hlive,
          hdriver _ hphase⟩⟩
        simp only [Worker.finishDebounced, Worker.after]
        split <;> simp
      · exact ⟨hdone _ hphase (fun hcon => by cases hcon), .inr ⟨order, _, actor, rfl, hphase,
          hinner, hexited hlive, hdriver _ hphase⟩⟩
  | report =>
      obtain ⟨x, hx, rfl⟩ := Option.map_eq_some_iff.1 hstep
      obtain ⟨hphase, rfl⟩ := Worker.reportDone_cases hx
      exact ⟨h.moved (by simp [hphase]) rfl (fun hcon => by cases hcon), .inl ⟨rfl, by simp⟩⟩
  | exit =>
      obtain ⟨x, hx, rfl⟩ := Option.map_eq_some_iff.1 hstep
      obtain ⟨hphase, rfl⟩ := Worker.exitTask_cases hx
      exact ⟨h.moved (by simp [hphase]) rfl (fun hcon => by cases hcon), .inl ⟨rfl, by simp⟩⟩
  | panic =>
      obtain ⟨x, hx, rfl⟩ := Option.map_eq_some_iff.1 hstep
      obtain ⟨⟨job, hphase⟩, rfl⟩ := Worker.panicked_cases hx
      exact ⟨h.moved (by simp [hphase]) rfl (fun hcon => by cases hcon), .inl ⟨rfl, by simp⟩⟩

/-- The invariant of a coalescing bench. -/
theorem coalescing_step {s s' : Bench (ViaDriver (Metered T))} {move : BenchMove}
    (h : s.Coalescing args) (hstep : s.step move = some s') : s'.Coalescing args := by
  cases move with
  | tick ms =>
      cases hstep
      exact ⟨h.actor, h.final⟩
  | request op =>
      rw [step] at hstep
      split at hstep
      · cases hstep
        exact ⟨h.actor, h.final⟩
      · cases hstep
  | close =>
      cases hstep
      exact ⟨h.actor, fun _ => rfl⟩
  | worker move => exact (workerStep_cases h hstep).1
  | background order wakeup =>
      obtain ⟨d, hwake, rfl⟩ := Option.map_eq_some_iff.1 hstep
      obtain ⟨actor, hinner, hexited⟩ := h.actor
      obtain ⟨actor', hinner', hwoke⟩ := ViaDriver.wake_cases hinner hwake
      refine ⟨⟨actor', hinner', ?_⟩, h.final⟩
      intro hlive
      rcases hwoke with ⟨-, -, hrunning, rfl⟩ | ⟨-, hdropped, -⟩
      · rw [← hrunning]
        exact Coalescer.autoFlush_exited args order s.now actor
      · exact absurd (of_decide_eq_true hdropped) hlive

/-- The end of a driver call: what it writes has a reason, unless the call is a
debounced commit. -/
theorem finish_triggered {s : Bench (ViaDriver (Metered T))} (h : s.Coalescing args)
    {order : HashOrder} {job : Job} {actor : Coalescer (Metered T)}
    (hphase : s.worker.phase = .running job) (hinner : s.worker.driver.inner = .coalesced args actor) :
    (∃ ws, (actor.answer args ⟨s.now, order⟩ job.relayed).2.writes = actor.writes ++ ws ∧
        ∀ write ∈ ws, s.Triggered write (.worker (.finish order))) ↔
      s.DebounceFindsNothing (.worker (.finish order)) := by
  have hvacuous : job ≠ .debounced → s.DebounceFindsNothing (.worker (.finish order)) := by
    intro hjob hcon
    rw [hphase] at hcon
    cases hcon
    exact absurd rfl hjob
  have hcommit : ∃ ws,
      (actor.answer args ⟨s.now, order⟩ .flush).2.writes = actor.writes ++ ws ∧
        (ws = [] ↔ actor.buffer.isEmpty = true ∧ actor.touched_channels.isEmpty = true) :=
    Coalescer.commit_writes args order actor
  obtain ⟨ws, hlog, hnothing⟩ := hcommit
  cases job with
  | op op =>
      refine ⟨fun _ => hvacuous (by simp), fun _ => ?_⟩
      by_cases hop : op.relayed = .flush
      · refine ⟨ws, by rw [Job.relayed, hop, hlog], fun _ _ => .inl ?_⟩
        cases op with
        | commit reply => exact ⟨reply, hphase⟩
        | _ => cases hop
      · exact ⟨[], by rw [List.append_nil]; exact Coalescer.serve_writes args order s.now actor hop,
          by simp⟩
  | debounced =>
      constructor
      · rintro ⟨ws', hlog', htriggered⟩ - args' actor' hinner'
        rw [hinner] at hinner'
        cases hinner'
        obtain rfl : ws' = ws := List.append_cancel_left (hlog'.symm.trans hlog)
        apply hnothing.1
        apply List.eq_nil_iff_forall_not_mem.2
        intro write hwrite
        rcases htriggered write hwrite with ⟨reply, hcon⟩ | ⟨hcon, -⟩
        · rw [hphase] at hcon
          cases hcon
        · rw [hphase] at hcon
          cases hcon
      · intro hfinds
        exact ⟨ws, hlog, by simp [hnothing.2 (hfinds hphase args actor hinner)]⟩
  | final =>
      exact ⟨fun _ => hvacuous (by simp), fun _ => ⟨ws, hlog, fun _ _ => .inr ⟨hphase, h.final hphase⟩⟩⟩

/-- A move writes for another reason exactly if it is the end of a debounced
commit that finds something to write. -/
theorem triggered_step {s s' : Bench (ViaDriver (Metered T))} {move : BenchMove}
    (h : s.Coalescing args) (hstep : s.step move = some s') :
    s.WritesTriggered move ↔ s.DebounceFindsNothing move := by
  have hexact : s.WritesTriggered move ↔
      ∃ ws, s'.worker.driver.writes = s.worker.driver.writes ++ ws ∧
        ∀ write ∈ ws, s.Triggered write move := by
    constructor
    · intro hall
      exact hall s' hstep
    · intro hone s'' hstep''
      rw [hstep] at hstep''
      cases hstep''
      exact hone
  have hquiet : s'.worker.driver.writes = s.worker.driver.writes → s.WritesTriggered move := by
    intro heq
    exact hexact.2 ⟨[], by simp [heq], by simp⟩
  cases move with
  | tick ms =>
      cases hstep
      exact ⟨fun _ => trivial, fun _ => hquiet rfl⟩
  | request op =>
      rw [step] at hstep
      split at hstep
      · cases hstep
        exact ⟨fun _ => trivial, fun _ => hquiet rfl⟩
      · cases hstep
  | close =>
      cases hstep
      exact ⟨fun _ => trivial, fun _ => hquiet rfl⟩
  | worker move =>
      obtain ⟨-, ⟨hdriver, hother⟩ | ⟨order, job, actor, rfl, hphase, hinner, hlive, hdriver⟩⟩ :=
        workerStep_cases h hstep
      · refine ⟨fun _ => ?_, fun _ => hquiet (by rw [hdriver])⟩
        cases move with
        | finish order => exact absurd rfl (hother order)
        | _ => trivial
      · rw [hexact, ViaDriver.writes_coalesced hinner, hdriver]
        exact finish_triggered h hphase hinner
  | background order wakeup =>
      refine ⟨fun _ => trivial, fun _ => hexact.2 ?_⟩
      obtain ⟨d, hwake, rfl⟩ := Option.map_eq_some_iff.1 hstep
      obtain ⟨actor, hinner, -⟩ := h.actor
      obtain ⟨actor', hinner', hwoke⟩ := ViaDriver.wake_cases hinner hwake
      show ∃ ws, d.writes = _ ∧ _
      rw [ViaDriver.writes_coalesced hinner, ViaDriver.writes_coalesced hinner']
      rcases hwoke with ⟨rfl, hdue, -, rfl⟩ | ⟨rfl, hdropped, rfl⟩
      · obtain ⟨ws, hlog, hkeycodes⟩ := Coalescer.autoFlush_writes args order s.now actor
        exact ⟨ws, hlog, fun write hwrite => ⟨hkeycodes write hwrite, args, actor, hinner, hdue⟩⟩
      · obtain ⟨ws, hlog⟩ := Coalescer.shutdown_writes args order actor
        have hgone : s.worker.phase = .gone := of_decide_eq_true hdropped
        exact ⟨ws, hlog, fun _ _ => hgone⟩

/-- Over any run of a worker on a coalescing driver, for any flush interval, any
transport and any requests at any times: all writes have a reason exactly if
every debounced commit of the run finds nothing buffered and no lighting channel
touched. -/
theorem writes_triggered_iff (args : CoalescerArgs) (device_id : String) (transport : T)
    (matrix : UInt8 × UInt8) (protocol_version : Option UInt16) (now : Nat)
    (moves : List BenchMove) :
    EveryStep step WritesTriggered
        (start device_id
          { ViaDriver.with_coalescing (⟨transport, []⟩ : Metered T) matrix args now with
            protocol_version := protocol_version } now) moves ↔
      EveryStep step DebounceFindsNothing
        (start device_id
          { ViaDriver.with_coalescing (⟨transport, []⟩ : Metered T) matrix args now with
            protocol_version := protocol_version } now) moves := by
  refine everyStep_congr (J := Coalescing args) (fun _ _ _ hs hstep => coalescing_step hs hstep)
    (fun s move s' hs hstep => triggered_step hs hstep) ?_ moves
  exact ⟨⟨_, rfl, fun _ => rfl⟩, nofun⟩

end Reasons

/-- A keyboard with a flush interval of a second, a lighting value and a keycode
set, and half a second later the worker's commit. -/
def settlingEdit : List BenchMove :=
  [.request (.setLighting 3 1 [255] 0), .worker .recv, .worker (.finish .sorted),
    .request (.setKeycode 0 0 0 4 1), .worker .recv, .worker (.finish .sorted),
    .tick 500, .worker .debounce]

/-- The commit that the settled keycode edit causes writes the keycode before the
flush deadline, and saves the lighting. -/
theorem settled_edit_writes :
    ¬ EveryStep step WritesTriggered
      (start "hidraw0"
        (ViaDriver.with_coalescing (⟨MockTransport.empty none, []⟩ : Metered MockTransport) (1, 1)
          ⟨1000, "hidraw0", false⟩ 0) 0)
      (settlingEdit ++ [.worker (.finish .sorted)]) := by
  intro h
  obtain ⟨s, hrun, hwritten⟩ : ∃ s, run step
      (start "hidraw0"
        (ViaDriver.with_coalescing (⟨MockTransport.empty none, []⟩ : Metered MockTransport) (1, 1)
          ⟨1000, "hidraw0", false⟩ 0) 0) settlingEdit = some s ∧
      s.worker.phase = .running .debounced ∧ s.worker.driver.writes = [] ∧
      (s.step (.worker (.finish .sorted))).map (fun s' => s'.worker.driver.writes) =
        some [.keycode (0, 0, 0) 4, .save 3] :=
    ⟨_, rfl, rfl, rfl, by decide +kernel⟩
  obtain ⟨hphase, hnone, hwrites⟩ := hwritten
  obtain ⟨s', hstep, hwrites⟩ := Option.map_eq_some_iff.1 hwrites
  obtain ⟨ws, hlog, htriggered⟩ := ((h.right hrun) s' hstep).1 s' hstep
  rw [hnone, hwrites, List.nil_append] at hlog
  subst hlog
  rcases htriggered (.save 3) (by simp) with ⟨reply, hcon⟩ | ⟨hcon, -⟩
  · rw [hphase] at hcon
    cases hcon
  · rw [hphase] at hcon
    cases hcon

end Bench

end Clackd.Engine
