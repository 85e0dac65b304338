import Clackd.Engine.Tokens
import Clackd.Engine.Wear

/-!
# Who announces a flush

Two tasks send `LayoutUpdated` for a coalescing keyboard.  Its actor does after a
flush, if it was started with a sender; the worker does after an explicit or
debounced commit that succeeded, whatever the driver.  Such a commit is a flush of
the actor and then its lighting saves, and neither task knows of the other's event.

## Main results

* `flush_announced`: a flush that writes a keycode is announced once by each of the
  two that speaks.
* `layout_updated_once_iff`: so in a run every such flush is announced exactly once
  exactly if at each of them one of the two speaks and the other does not.
-/

namespace Clackd.Hal.Via

open Clackd.Foundation Clackd.Hal

variable {T : Type} [CoalescerTransport T]

/-! ## What the actor sends -/

/-- What `emit_layout_updated` sends. -/
def CoalescerArgs.updates (args : CoalescerArgs) : List LifecycleEvent :=
  if args.lifecycle_tx then [.layoutUpdated args.device_id] else []

/-- What the actor of a driver has sent. -/
def ViaDriver.emitted (d : ViaDriver T) : List LifecycleEvent :=
  match d.inner with
  | .direct _ => []
  | .coalesced _ actor => actor.emitted

omit [CoalescerTransport T] in
theorem ViaDriver.emitted_coalesced {d : ViaDriver T} {args : CoalescerArgs} {actor : Coalescer T}
    (h : d.inner = .coalesced args actor) : d.emitted = actor.emitted := by
  rw [emitted, h]

namespace Coalescer

variable {args : CoalescerArgs} {order : HashOrder} {c : Coalescer T}

omit [CoalescerTransport T] in
@[simp] theorem emit_layout_updated_emitted (args : CoalescerArgs) (c : Coalescer T) :
    (emit_layout_updated args c).emitted = c.emitted ++ args.updates := by
  unfold emit_layout_updated CoalescerArgs.updates
  split
  · rfl
  · exact (List.append_nil _).symm

/-- A flush that succeeds, and what it leaves. -/
theorem flush_ok (hok : (flush order c).1 = .ok ()) :
    flush order c = (.ok (), (flush order c).2) ∧ (flush order c).2.emitted = c.emitted :=
  ⟨Prod.ext hok rfl, rfl⟩

/-- A commit whose flush succeeds announces it. -/
theorem commit_emitted (hok : (flush order c).1 = .ok ()) :
    (commit args order c).2.emitted = c.emitted ++ args.updates := by
  obtain ⟨hflush, hemitted⟩ := flush_ok hok
  rw [commit_of_ok hflush, ← hemitted]
  exact emit_layout_updated_emitted args _

/-- Its result is then that of the lighting saves. -/
theorem commit_result (hok : (flush order c).1 = .ok ()) :
    (commit args order c).1 = (save order (flush order c).2).1 := by
  obtain ⟨hflush, -⟩ := flush_ok hok
  obtain ⟨emitted, hemit⟩ := emit_layout_updated_eq args (flush order c).2
  rw [commit_of_ok hflush, hemit]
  rfl

/-- So does an automatic flush that succeeds. -/
theorem autoFlush_emitted {finish : Nat} (hok : (flush order c).1 = .ok ()) :
    (autoFlush args order finish c).emitted = c.emitted ++ args.updates := by
  obtain ⟨hflush, hemitted⟩ := flush_ok hok
  rw [autoFlush_of_ok hflush, ← hemitted]
  exact emit_layout_updated_emitted args _

/-- So does the final flush, if there is anything to write. -/
theorem shutdown_emitted (hpending : c.buffer.isEmpty = false) (hok : (flush order c).1 = .ok ()) :
    (shutdown args order c).emitted = c.emitted ++ args.updates := by
  obtain ⟨hflush, hemitted⟩ := flush_ok hok
  have hsave : ∀ m : Coalescer T, (finalSave order m).2.emitted = m.emitted := by
    intro m
    unfold finalSave
    split <;> rfl
  show (finalSave order (finalFlush args order c).2).2.emitted = _
  rw [hsave, finalFlush_of_ok (by simp [hpending]) hflush, ← hemitted]
  exact emit_layout_updated_emitted args _

end Coalescer

end Clackd.Hal.Via

namespace Clackd.Engine

open Clackd.Foundation Clackd.Hal Clackd.Hal.Via

/-! ## What the worker sends -/

/-- Whether the worker announces the job when it has succeeded. -/
def Job.announced : Job → Bool
  | .op (.commit _) => true
  | .debounced => true
  | _ => false

/-- What the end of a commit sends. -/
theorem Worker.finish_events {D : Type} [KeyboardDriver D] {w : WorkerId} {turn : Turn}
    {x : Worker D} {job : Job} (hphase : x.phase = .running job) (hcommit : job.isCommit = true)
    {r : Worker D × List Effect} (hfinish : x.finish w turn = some r) :
    lifecycleEvents r.2 =
      if job.announced && (Worker.commit turn x.driver).ok then [.layoutUpdated x.device_id]
      else [] := by
  rw [finish, hphase] at hfinish
  cases job with
  | op op =>
      cases op with
      | commit reply =>
          cases hfinish
          show lifecycleEvents (_ :: _ :: if (Worker.commit turn x.driver).ok then _ else _) = _
          cases (Worker.commit turn x.driver).ok with
          | true => rfl
          | false => rfl
      | _ => cases hcommit
  | debounced =>
      cases hfinish
      show lifecycleEvents (_ :: if (Worker.commit turn x.driver).ok then _ else _) = _
      cases (Worker.commit turn x.driver).ok with
      | true => rfl
      | false => rfl
  | final =>
      cases hfinish
      rfl

theorem Worker.finish_device {D : Type} [KeyboardDriver D] {w : WorkerId} {turn : Turn}
    {x : Worker D} {r : Worker D × List Effect} (hfinish : x.finish w turn = some r) :
    r.1.device_id = x.device_id :=
  (finish_moves hfinish).device_id

/-- A commit on a coalescing driver succeeds as the commit of its actor does. -/
theorem Worker.commit_ok {T : Type} [CoalescerTransport T] (turn : Turn) {d : ViaDriver T}
    {args : CoalescerArgs} {actor : Coalescer T} (h : d.inner = .coalesced args actor)
    (hlive : actor.exited = none) :
    (Worker.commit turn d).ok = (Coalescer.commit args turn.order actor).1.isOk := by
  have hexec : (exec (KeyboardDriver.commit_to_nvram turn) d).1 =
      (Coalescer.commit args turn.order actor).1 :=
    congrArg Prod.fst (ViaDriver.exec_ask CoalescerReply.toDone turn .flush h hlive)
  show ((exec (KeyboardDriver.commit_to_nvram turn) d).1.mapError DaemonError.driver).isOk = _
  rw [hexec]
  cases (Coalescer.commit args turn.order actor).1 with
  | ok _ => rfl
  | error _ => rfl

namespace Bench

section Announce

variable {T : Type} [CoalescerTransport T]

/-! ## One flush -/

omit [CoalescerTransport T] in
/-- How many `LayoutUpdated` events for the device are on the lifecycle channel. -/
def layoutUpdates (s : Bench (ViaDriver T)) : Nat :=
  (lifecycleEvents s.log).count (.layoutUpdated s.worker.device_id) +
    s.worker.driver.emitted.count (.layoutUpdated s.worker.device_id)

omit [CoalescerTransport T] in
/-- The order in which a move drains the buffer of the actor, if it does: the end of
a commit, the deadline of the actor, and its closed channel. -/
def drains (s : Bench (ViaDriver T)) : BenchMove → Option HashOrder
  | .worker (.finish order) =>
      match s.worker.phase with
      | .running job => if job.isCommit then some order else none
      | _ => none
  | .background order _ => some order
  | _ => none

/-- The move is a flush that writes what is buffered, and something is. -/
structure Flushes (s : Bench (ViaDriver T)) (move : BenchMove) (args : CoalescerArgs)
    (order : HashOrder) (actor : Coalescer T) : Prop where
  inner : s.worker.driver.inner = .coalesced args actor
  drains : s.drains move = some order
  pending : actor.buffer.isEmpty = false
  drained : (Coalescer.flush order actor).1 = .ok ()

/-- Every flush that writes a keycode puts one `LayoutUpdated` for the device on the
lifecycle channel. -/
def LayoutUpdatedOnce (s : Bench (ViaDriver T)) (move : BenchMove) : Prop :=
  ∀ s', s.step move = some s' → (∃ args order actor, s.Flushes move args order actor) →
    s'.layoutUpdates = s.layoutUpdates + 1

omit [CoalescerTransport T] in
/-- The actor was started with a sender, under the name of the device. -/
def actorSpeaks (s : Bench (ViaDriver T)) (args : CoalescerArgs) : Bool :=
  args.lifecycle_tx && args.device_id = s.worker.device_id

/-- The move is the worker's explicit or debounced commit, and once the buffer is
drained the lighting channels are saved as well. -/
def workerSpeaks (s : Bench (ViaDriver T)) (order : HashOrder) (actor : Coalescer T) :
    BenchMove → Bool
  | .worker _ =>
      match s.worker.phase with
      | .running job =>
          job.announced && (Coalescer.save order (Coalescer.flush order actor).2).1.isOk
      | _ => false
  | _ => false

/-- At a flush that writes a keycode, one of the two speaks and the other does
not. -/
def OneSpeaker (s : Bench (ViaDriver T)) (move : BenchMove) : Prop :=
  ∀ args order actor, s.Flushes move args order actor →
    s.actorSpeaks args = !s.workerSpeaks order actor move

omit [CoalescerTransport T] in
theorem count_updates (s : Bench (ViaDriver T)) (args : CoalescerArgs) :
    args.updates.count (.layoutUpdated s.worker.device_id) = (s.actorSpeaks args).toNat := by
  unfold CoalescerArgs.updates actorSpeaks
  cases args.lifecycle_tx with
  | false => rfl
  | true =>
      rw [if_pos rfl, List.count_singleton]
      by_cases hdevice : args.device_id = s.worker.device_id
      · simp [hdevice]
      · simp [hdevice]

omit [CoalescerTransport T] in
/-- The events of a move: what the worker logged and what the actor sent. -/
theorem layoutUpdates_eq (s s' : Bench (ViaDriver T)) {more : List LifecycleEvent}
    (effects : List Effect) (hdevice : s'.worker.device_id = s.worker.device_id)
    (hlog : s'.log = s.log ++ effects)
    (hemitted : s'.worker.driver.emitted = s.worker.driver.emitted ++ more) :
    s'.layoutUpdates = s.layoutUpdates + more.count (.layoutUpdated s.worker.device_id) +
      (lifecycleEvents effects).count (.layoutUpdated s.worker.device_id) := by
  rw [layoutUpdates, layoutUpdates, hdevice, hlog, hemitted, lifecycleEvents_append,
    List.count_append, List.count_append]
  omega

/-- A flush that writes a keycode is announced once by each of the two that
speaks. -/
theorem flush_announced {args args' : CoalescerArgs} {s s' : Bench (ViaDriver (Metered T))}
    {move : BenchMove} {order : HashOrder} {actor : Coalescer (Metered T)}
    (h : s.Coalescing args') (hflush : s.Flushes move args order actor)
    (hstep : s.step move = some s') :
    s'.layoutUpdates = s.layoutUpdates + (s.actorSpeaks args).toNat +
      (s.workerSpeaks order actor move).toNat := by
  obtain ⟨hinner, hdrains, hpending, hdrained⟩ := hflush
  have hfrom := ViaDriver.emitted_coalesced hinner
  cases move with
  | tick ms => cases hdrains
  | request op => cases hdrains
  | close => cases hdrains
  | worker move =>
      cases move with
      | finish order' =>
          obtain ⟨r, hr, rfl⟩ := Option.map_eq_some_iff.1 hstep
          have hlive : actor.exited = none := by
            obtain ⟨actor', hinner', hexited⟩ := h.actor
            rw [hinner] at hinner'
            cases hinner'
            exact hexited (Worker.finish_moves hr).live
          obtain ⟨job, hphase, hcommit, rfl⟩ : ∃ job, s.worker.phase = .running job ∧
              job.isCommit = true ∧ order' = order := by
            unfold drains at hdrains
            dsimp only at hdrains
            split at hdrains
            · rename_i job hphase
              split at hdrains
              · rename_i hcommit
                exact ⟨job, hphase, hcommit, Option.some.inj hdrains⟩
              · cases hdrains
            · cases hdrains
          have hemitted : r.1.driver.emitted = s.worker.driver.emitted ++ args.updates := by
            rw [Worker.finish_relayed hphase hinner hlive hr, Job.relayed_of_commit hcommit, hfrom]
            exact Coalescer.commit_emitted hdrained
          have hspeaks : s.workerSpeaks order' actor (.worker (.finish order')) =
              (job.announced && (Worker.commit ⟨s.now, order'⟩ s.worker.driver).ok) := by
            rw [Worker.commit_ok ⟨s.now, order'⟩ hinner hlive, Coalescer.commit_result hdrained]
            simp only [workerSpeaks, hphase]
          rw [layoutUpdates_eq s _ r.2 (Worker.finish_device hr) rfl hemitted, count_updates, hspeaks,
            Worker.finish_events hphase hcommit hr]
          cases job.announced && (Worker.commit ⟨s.now, order'⟩ s.worker.driver).ok with
          | true => simp
          | false => rfl
      | _ => cases hdrains
  | background order' wakeup =>
      obtain ⟨d, hwake, rfl⟩ := Option.map_eq_some_iff.1 hstep
      cases hdrains
      obtain ⟨actor', hinner', hwoke⟩ := ViaDriver.wake_cases hinner hwake
      have hemitted : d.emitted = s.worker.driver.emitted ++ args.updates := by
        rw [ViaDriver.emitted_coalesced hinner', hfrom]
        rcases hwoke with ⟨-, -, -, rfl⟩ | ⟨-, -, rfl⟩
        · exact Coalescer.autoFlush_emitted hdrained
        · exact Coalescer.shutdown_emitted hpending hdrained
      rw [layoutUpdates_eq s (s.setWorker ({ s.worker with driver := d }, [.woke 0 wakeup]))
        [.woke 0 wakeup] rfl rfl hemitted, count_updates]
      rfl

/-! ## Runs -/

/-- A flush is announced once exactly if one of the two speaks. -/
theorem layoutUpdatedOnce_iff {args : CoalescerArgs} {s s' : Bench (ViaDriver (Metered T))}
    {move : BenchMove} (h : s.Coalescing args) (hstep : s.step move = some s') :
    s.LayoutUpdatedOnce move ↔ s.OneSpeaker move := by
  have hone : ∀ a w : Bool, a.toNat + w.toNat = 1 ↔ a = !w := by decide
  constructor
  · intro honce args order actor hflush
    have hcount := flush_announced h hflush hstep
    rw [honce s' hstep ⟨args, order, actor, hflush⟩] at hcount
    apply (hone _ _).1
    omega
  · rintro hspeaker s'' hstep'' ⟨args, order, actor, hflush⟩
    have hcount := flush_announced h hflush hstep''
    have hsum := (hone _ _).2 (hspeaker args order actor hflush)
    omega

/-- Over any run of a worker on a coalescing driver, started with or without a
sender, with any flush interval and transport: every flush that writes a keycode is
announced exactly once exactly if at each of them one of the two speaks. -/
theorem layout_updated_once_iff (args : CoalescerArgs) (device_id : String) (transport : T)
    (matrix : UInt8 × UInt8) (protocol_version : Option UInt16) (now : Nat)
    (moves : List BenchMove) :
    EveryStep step LayoutUpdatedOnce
        (start device_id
          { ViaDriver.with_coalescing (⟨transport, []⟩ : Metered T) matrix args now with
            protocol_version := protocol_version } now) moves ↔
      EveryStep step OneSpeaker
        (start device_id
          { ViaDriver.with_coalescing (⟨transport, []⟩ : Metered T) matrix args now with
            protocol_version := protocol_version } now) moves := by
  refine everyStep_congr (J := Coalescing args) (fun _ _ _ hs hstep => coalescing_step hs hstep)
    (fun s move s' hs hstep => layoutUpdatedOnce_iff hs hstep) ?_ moves
  exact ⟨⟨_, rfl, fun _ => rfl⟩, nofun⟩

end Announce

/-- A keyboard with a flush interval of `ms`, and a keycode set on it. -/
def editedKeyboard (ms : Nat) (lifecycle_tx : Bool) : Bench (ViaDriver (Metered MockTransport)) :=
  start "hidraw0"
    (ViaDriver.with_coalescing (⟨MockTransport.empty none, []⟩ : Metered MockTransport) (1, 1)
      ⟨ms, "hidraw0", lifecycle_tx⟩ 0) 0

/-- A run whose last step breaks it. -/
theorem not_everyStep_of_last {s m s' : Bench (ViaDriver (Metered MockTransport))}
    {moves : List BenchMove} {move : BenchMove} (hrun : run step s moves = some m)
    (hstep : m.step move = some s')
    (hflush : ∃ args order actor, m.Flushes move args order actor)
    (hcount : s'.layoutUpdates ≠ m.layoutUpdates + 1) :
    ¬ EveryStep step LayoutUpdatedOnce s (moves ++ [move]) := by
  intro h
  exact hcount (((h.right hrun) s' hstep).1 s' hstep hflush)

/-- With a sender, an explicit commit is announced twice; without one, the flush at
the deadline of the actor is never announced. -/
theorem flush_announced_twice_or_never :
    ¬ EveryStep step LayoutUpdatedOnce (editedKeyboard 1000 true)
        ([.request (.setKeycode 0 0 0 4 0), .worker .recv, .worker (.finish .sorted),
          .request (.commit 1), .worker .recv] ++ [.worker (.finish .sorted)]) ∧
      ¬ EveryStep step LayoutUpdatedOnce (editedKeyboard 400 false)
        ([.request (.setKeycode 0 0 0 4 0), .worker .recv, .worker (.finish .sorted),
          .tick 400] ++ [.background .sorted .timer]) := by
  constructor
  · refine not_everyStep_of_last rfl rfl ⟨_, _, _, rfl, rfl, ?_, ?_⟩ ?_
    · decide +kernel
    · decide +kernel
    · decide +kernel
  · refine not_everyStep_of_last rfl rfl ⟨_, _, _, rfl, rfl, ?_, ?_⟩ ?_
    · decide +kernel
    · decide +kernel
    · decide +kernel

end Bench

end Clackd.Engine
