import Clackd.Engine.Homes

/-!
# Reply channels keep to their commands

Whatever bears the number of a reply channel comes from the command the channel was
opened for: the command on the queue, the operation on the channel of a worker of the
device it names or with its driver, the answer.  The type of a reply channel is part of
that: an answer is of the kind its command asks for.

## Main results

* `Pertains.of_fresh`: a channel that has not been opened keeps to any command.
* `pertains_step`: a channel that was opened keeps to the command it came with.
-/

namespace Clackd.Engine

open Clackd.Foundation Clackd.Hal
open Std (ExtTreeMap)

namespace Worker

variable {D : Type} [KeyboardDriver D]

/-- The driver call of an operation gives the kind of reply it asks for. -/
theorem call_kind (turn : Turn) (driver : D) (op : WorkerOp) :
    (call turn driver op).reply.kind = op.kind := by
  cases op <;> rfl

end Worker

namespace Sys

variable {W D : Type}

/-- Everything that bears the number of a reply channel comes from this command. -/
structure Pertains (reply : ReplyId) (cmd : EngineCommand) (s : Sys D) : Prop where
  queued : ∀ envelope ∈ s.queue, envelope.cmd.replyTo = some reply → envelope.cmd = cmd
  waiting : ∀ x ∈ s.sup.workers, ∀ op ∈ x.rx, op.reply = reply →
    cmd.forwarded = some (x.device_id, op)
  running : ∀ x ∈ s.sup.workers, ∀ op, x.phase = .running (.op op) → op.reply = reply →
    cmd.forwarded = some (x.device_id, op)
  replied : ∀ r, .replied reply r ∈ s.sup.log → cmd.asks = some (reply, r.kind)

variable {reply : ReplyId} {cmd : EngineCommand} {s s' : Sys D}

theorem answered_of_mem {r : Reply} (h : .replied reply r ∈ s.sup.log) : 0 < s.answered reply :=
  List.countP_pos_iff.2 ⟨_, h, by simp [Effect.answers]⟩

/-- Nothing bears the number of a channel that has not been opened. -/
theorem Pertains.of_fresh (h : s.outstanding reply = 0) (hanswered : s.answered reply = 0)
    (cmd : EngineCommand) : s.Pertains reply cmd := by
  have hsum : s.waits reply = 0 ∧ (s.sup.workers.map (Worker.owed reply)).sum = 0 := by
    rw [outstanding] at h
    omega
  have howed : ∀ x ∈ s.sup.workers, x.owed reply = 0 := by
    intro x hx
    exact List.sum_eq_zero_iff.1 hsum.2 _ (List.mem_map.2 ⟨x, hx, rfl⟩)
  constructor
  · intro envelope hmem hreply
    have hnone := List.countP_eq_zero.1 hsum.1 envelope hmem
    simp [hreply] at hnone
  · intro x hx op hop hreply
    have hrx : x.rx.countP (fun op => op.reply == reply) = 0 := by
      have hzero := howed x hx
      rw [Worker.owed] at hzero
      omega
    have hnone := List.countP_eq_zero.1 hrx op hop
    simp [hreply] at hnone
  · intro x hx op hphase hreply
    have hzero := howed x hx
    rw [Worker.owed, hphase] at hzero
    simp [WorkerPhase.serves, hreply] at hzero
  · intro r hr
    have hnone := List.countP_eq_zero.1 hanswered _ hr
    simp [Effect.answers] at hnone

/-- A step that keeps the workers and answers nothing. -/
theorem Pertains.of_same (h : s.Pertains reply cmd)
    (hqueue : ∀ envelope ∈ s'.queue, envelope ∈ s.queue ∨ envelope.cmd.replyTo ≠ some reply)
    (hworkers : s'.sup.workers = s.sup.workers)
    (hlog : ∀ r, .replied reply r ∈ s'.sup.log → .replied reply r ∈ s.sup.log) :
    s'.Pertains reply cmd where
  queued := by
    intro envelope hmem hreply
    rcases hqueue envelope hmem with hold | hother
    · exact h.queued envelope hold hreply
    · exact absurd hreply hother
  waiting := by
    rw [hworkers]
    exact h.waiting
  running := by
    rw [hworkers]
    exact h.running
  replied := fun r hr => h.replied r (hlog r hr)

/-- A message of the engine's own bears no number. -/
theorem Pertains.sendOrDrop (h : s.Pertains reply cmd) {envelope : Envelope}
    (hnone : envelope.cmd.replyTo = none) (hsend : s.sendOrDrop envelope = some s') :
    s'.Pertains reply cmd := by
  obtain ⟨hsup, -, -, hqueue⟩ := sendOrDrop_cases hsend
  refine h.of_same ?_ (by rw [hsup]) (fun r hr => by rwa [hsup] at hr)
  intro other hmem
  rcases hqueue with hqueue | hqueue
  · rw [hqueue] at hmem
    exact .inl hmem
  · rw [hqueue] at hmem
    rcases List.mem_append.1 hmem with hold | hnew
    · exact .inl hold
    · rw [List.mem_singleton.1 hnew, hnone]
      exact .inr fun hcon => by cases hcon

/-- A worker takes its next operation, answers the one it has, or does neither. -/
theorem Pertains.setWorker (h : s.Pertains reply cmd) {w : WorkerId} {x : Worker D}
    {r : Worker D × List Effect} (hx : s.sup.workers[w]? = some x)
    (hid : r.1.device_id = x.device_id) (hrx : ∀ op ∈ r.1.rx, op ∈ x.rx)
    (hphase : ∀ op, r.1.phase = .running (.op op) → op ∈ x.rx ∨ x.phase = .running (.op op))
    (hlog : ∀ reply' a, .replied reply' a ∈ r.2 →
      ∃ op, x.phase = .running (.op op) ∧ reply' = op.reply ∧ a.kind = op.kind) :
    (s.setWorker w r).Pertains reply cmd := by
  have hmem : x ∈ s.sup.workers := List.mem_of_getElem? hx
  refine ⟨h.queued, ?_, ?_, ?_⟩
  · intro y hy op hop hreply
    rcases List.mem_or_eq_of_mem_set hy with hold | rfl
    · exact h.waiting y hold op hop hreply
    · rw [hid]
      exact h.waiting x hmem op (hrx op hop) hreply
  · intro y hy op hop hreply
    rcases List.mem_or_eq_of_mem_set hy with hold | rfl
    · exact h.running y hold op hop hreply
    · rw [hid]
      rcases hphase op hop with hqueued | hheld
      · exact h.waiting x hmem op hqueued hreply
      · exact h.running x hmem op hheld hreply
  · intro a ha
    rcases List.mem_append.1 ha with hold | hnew
    · exact h.replied a hold
    · obtain ⟨op, hop, hreply, hkind⟩ := hlog reply a hnew
      rw [asks_of_forwarded (h.running x hmem op hop hreply.symm), hkind, hreply]

variable [KeyboardDriver D]

theorem Pertains.workerStep (h : s.Pertains reply cmd) {w : WorkerId} {x : Worker D}
    {move : WorkerMove} (hx : s.sup.workers[w]? = some x)
    (hmove : s.workerStep w x move = some s') : s'.Pertains reply cmd := by
  -- A move that answers nothing and takes up nothing.
  have hplain : ∀ r : Worker D × List Effect, r.1.device_id = x.device_id →
      (∀ op ∈ r.1.rx, op ∈ x.rx) → (∀ op, r.1.phase ≠ .running (.op op)) →
      (∀ y ∈ r.2, y.isAnswer = false) → (s.setWorker w r).Pertains reply cmd := by
    intro r hid hrx hphase hsilent
    refine h.setWorker hx hid hrx (fun op hop => absurd hop (hphase op)) ?_
    intro reply' a ha
    cases hsilent _ ha
  have hleave : (s.setWorker w (x.leave, [])).Pertains reply cmd :=
    hplain _ rfl (fun op hop => absurd hop List.not_mem_nil) (fun op hop => by cases hop)
      (fun y hy => absurd hy List.not_mem_nil)
  cases move with
  | recv =>
      obtain ⟨r, hr, rfl⟩ := Option.map_eq_some_iff.1 hmove
      obtain ⟨-, ⟨op, rest, hrx, rfl⟩ | ⟨-, -, -, rfl⟩ | ⟨-, -, -, rfl⟩⟩ := Worker.recv_cases hr
      · refine h.setWorker hx rfl ?_ ?_ ?_
        · intro other hother
          rw [hrx]
          exact List.mem_cons_of_mem _ hother
        · intro other hother
          left
          cases hother
          rw [hrx]
          exact List.mem_cons_self
        · intro reply' a ha
          cases List.mem_singleton.1 ha
      · exact hplain _ rfl (fun op hop => hop) (fun op hop => by cases hop)
          (fun y hy => by rw [List.mem_singleton.1 hy]; rfl)
      · exact hleave
  | debounce =>
      obtain ⟨r, hr, rfl⟩ := Option.map_eq_some_iff.1 hmove
      obtain ⟨-, -, rfl⟩ := Worker.debounce_cases hr
      exact hplain _ rfl (fun op hop => hop) (fun op hop => by cases hop)
        (fun y hy => by rw [List.mem_singleton.1 hy]; rfl)
  | finish order =>
      obtain ⟨r, hr, rfl⟩ := Option.map_eq_some_iff.1 hmove
      obtain ⟨op, hphase, rfl⟩ | ⟨hphase, rfl⟩ | ⟨hphase, rfl⟩ := Worker.finish_cases hr
      · obtain ⟨deadline, hmoved, hannounced⟩ := Worker.aftermath_cases ⟨s.now, order⟩ op
          (Worker.call ⟨s.now, order⟩ x.driver op).ok
          (Worker.after (Worker.call ⟨s.now, order⟩ x.driver op) x)
        refine h.setWorker hx (congrArg Worker.device_id hmoved :) ?_ ?_ ?_
        · intro other hother
          change other ∈ (Worker.aftermath _ op _ _).1.rx at hother
          rw [hmoved] at hother
          exact hother
        · intro other hother
          rw [Worker.finishOp_phase] at hother
          split at hother <;> cases hother
        · intro reply' a ha
          rcases List.mem_cons.1 ha with hcalled | ha
          · cases hcalled
          rcases List.mem_cons.1 ha with hreplied | ha
          · cases hreplied
            exact ⟨op, hphase, rfl, Worker.call_kind _ _ _⟩
          · cases hannounced _ ha
      · refine hplain _ rfl (fun op hop => hop) ?_ ?_
        · intro op hop
          simp only [Worker.finishDebounced, Worker.after] at hop
          split at hop <;> cases hop
        · simp only [Worker.finishDebounced]
          split <;> simp [Worker.announce, Effect.isAnswer]
      · exact hplain _ rfl (fun op hop => absurd hop List.not_mem_nil) (fun op hop => by cases hop)
          (fun y hy => by rw [List.mem_singleton.1 hy]; rfl)
  | report =>
      obtain ⟨x', hx', hsend⟩ := Option.bind_eq_some_iff.1 hmove
      obtain ⟨-, rfl⟩ := Worker.reportDone_cases hx'
      refine Pertains.sendOrDrop (s := s.setWorker w ({ x with phase := .reported }, [])) ?_ rfl
        hsend
      exact hplain _ rfl (fun op hop => hop) (fun op hop => by cases hop)
        (fun y hy => absurd hy List.not_mem_nil)
  | exit =>
      obtain ⟨x', hx', rfl⟩ := Option.map_eq_some_iff.1 hmove
      obtain ⟨-, rfl⟩ := Worker.exitTask_cases hx'
      exact hleave
  | panic =>
      obtain ⟨x', hx', rfl⟩ := Option.map_eq_some_iff.1 hmove
      obtain ⟨-, rfl⟩ := Worker.panicked_cases hx'
      exact hleave

omit [KeyboardDriver D] in
/-- A turn on the command of a channel keeps to it. -/
theorem Pertains.disposed {e e' : Supervisor D} {taken : EngineCommand}
    (h : Supervisor.Disposed taken e e') (htaken : taken.replyTo = some reply → taken = cmd)
    (hhomes : ∀ (id : String) (handle : DeviceHandle),
      e.registry.devices[id]? = some handle → e.Serves handle.tx id)
    (hwaiting : ∀ x ∈ e.workers, ∀ op ∈ x.rx, op.reply = reply →
      cmd.forwarded = some (x.device_id, op))
    (hrunning : ∀ x ∈ e.workers, ∀ op, x.phase = .running (.op op) → op.reply = reply →
      cmd.forwarded = some (x.device_id, op))
    (hreplied : ∀ r, .replied reply r ∈ e.log → cmd.asks = some (reply, r.kind)) :
    (∀ x ∈ e'.workers, ∀ op ∈ x.rx, op.reply = reply → cmd.forwarded = some (x.device_id, op)) ∧
      (∀ x ∈ e'.workers, ∀ op, x.phase = .running (.op op) → op.reply = reply →
        cmd.forwarded = some (x.device_id, op)) ∧
      ∀ r, .replied reply r ∈ e'.log → cmd.asks = some (reply, r.kind) := by
  cases h with
  | answered reply' r before hcmd hworkers hlog hbefore =>
      rw [hworkers, hlog]
      refine ⟨hwaiting, hrunning, ?_⟩
      intro a ha
      rcases List.mem_append.1 ha with hold | hnew
      · exact hreplied a hold
      rcases List.mem_append.1 hnew with hfirst | hlast
      · cases hbefore _ hfirst
      · cases List.mem_singleton.1 hlast
        rw [← htaken (by rw [asks_reply, hcmd]; rfl), hcmd]
  | pushed id op handle hcmd hpresent hopen hroom heq =>
      obtain ⟨x, hx, hid⟩ := hhomes id handle hpresent
      have hworkers : e'.workers = e.workers.set handle.tx { x with rx := x.rx ++ [op] } := by
        rw [heq]
        exact push_workers hx op
      have hlog : e'.log = e.log := by rw [heq]; rfl
      have hmem : x ∈ e.workers := List.mem_of_getElem? hx
      rw [hworkers, hlog]
      refine ⟨?_, ?_, hreplied⟩
      · intro y hy other hother hreply
        rcases List.mem_or_eq_of_mem_set hy with hold | rfl
        · exact hwaiting y hold other hother hreply
        · rcases List.mem_append.1 hother with hold | hnew
          · exact hwaiting x hmem other hold hreply
          · obtain rfl := List.mem_singleton.1 hnew
            rw [← htaken (by rw [forwarded_reply hcmd, hreply]), hcmd]
            exact congrArg (fun id => some (id, other)) hid.symm
      · intro y hy other hother hreply
        rcases List.mem_or_eq_of_mem_set hy with hold | rfl
        · exact hrunning y hold other hother hreply
        · exact hrunning x hmem other hother hreply
  | silent effects hcmd hworkers hlog hsilent =>
      have hfresh : ∀ x ∈ e'.workers, x ∈ e.workers ∨ ∃ id driver, x = Worker.spawn id driver := by
        intro x hx
        rcases hworkers with hworkers | ⟨id, driver, hworkers⟩
        · rw [hworkers] at hx
          exact .inl hx
        · rw [hworkers] at hx
          rcases List.mem_append.1 hx with hold | hnew
          · exact .inl hold
          · exact .inr ⟨id, driver, List.mem_singleton.1 hnew⟩
      refine ⟨?_, ?_, ?_⟩
      · intro x hx op hop hreply
        rcases hfresh x hx with hold | ⟨id, driver, rfl⟩
        · exact hwaiting x hold op hop hreply
        · cases hop
      · intro x hx op hop hreply
        rcases hfresh x hx with hold | ⟨id, driver, rfl⟩
        · exact hrunning x hold op hop hreply
        · cases hop
      · intro r hr
        rw [hlog] at hr
        rcases List.mem_append.1 hr with hold | hnew
        · exact hreplied r hold
        · cases hsilent _ hnew

variable [BackgroundTasks D]

/-- A reply channel that was opened keeps to the command it came with. -/
theorem pertains_step {table : DriverTable W D} {l : Label W} (h : s.Pertains reply cmd)
    (hhomed : s.Homed) (hopened : reply < s.next_reply) (hstep : s.step table l = some s') :
    s'.Pertains reply cmd := by
  cases l with
  | tick ms =>
      cases hstep
      exact ⟨h.queued, h.waiting, h.running, h.replied⟩
  | enqueue other =>
      rw [step, enqueue] at hstep
      split at hstep
      · cases hstep
      · split at hstep
        · rename_i hfresh
          rw [send] at hstep
          split at hstep
          · cases hstep
            refine h.of_same ?_ rfl (fun r hr => hr)
            intro envelope hmem
            rcases List.mem_append.1 hmem with hold | hnew
            · exact .inl hold
            · right
              rw [List.mem_singleton.1 hnew]
              intro hreply
              rw [show (Envelope.mk _ other).cmd = other from rfl] at hreply
              rw [hreply] at hfresh
              exact Nat.ne_of_lt hopened (of_decide_eq_true hfresh)
          · cases hstep
        · cases hstep
  | supervise order world =>
      obtain ⟨envelope, rest, hturned | hstops⟩ := supervise_cases (s := s) hstep
      · have hdisposed : Supervisor.Disposed envelope.cmd (s.sup.emit [.handled envelope])
            s'.sup := by
          rw [step, supervise, hturned.running, hturned.queue] at hstep
          dsimp only at hstep
          split at hstep
          · cases hstep
            cases hturned.status'
          · cases hstep
            exact Supervisor.handle_command_disposed table _ world envelope _
        have htaken : envelope.cmd.replyTo = some reply → envelope.cmd = cmd :=
          h.queued envelope (by rw [hturned.queue]; exact List.mem_cons_self)
        obtain ⟨hwaiting, hrunning, hreplied⟩ := Pertains.disposed hdisposed htaken
          hhomed.registered h.waiting h.running (by
            intro r hr
            rcases List.mem_append.1 hr with hold | hnew
            · exact h.replied r hold
            · cases List.mem_singleton.1 hnew)
        refine ⟨?_, hwaiting, hrunning, hreplied⟩
        intro other hmem
        rw [hturned.queue'] at hmem
        exact h.queued other (by rw [hturned.queue]; exact List.mem_cons_of_mem _ hmem)
      · have hworkers : s'.sup.workers = s.sup.workers := by
          rw [step, supervise, hstops.running, hstops.queue] at hstep
          dsimp only at hstep
          rw [if_pos hstops.cmd] at hstep
          cases hstep
          rfl
        refine h.of_same ?_ hworkers ?_
        · intro other hmem
          rw [hstops.queue'] at hmem
          exact .inl (by rw [hstops.queue]; exact List.mem_cons_of_mem _ hmem)
        · intro r hr
          rw [hstops.log] at hr
          rcases List.mem_append.1 hr with hold | hnew
          · exact hold
          · cases List.mem_singleton.1 hnew
  | superviseReturn =>
      rw [step, superviseReturn] at hstep
      split at hstep
      · cases hstep
        exact ⟨fun _ hmem => absurd hmem List.not_mem_nil, h.waiting, h.running, h.replied⟩
      · cases hstep
  | worker w move =>
      obtain ⟨x, hx, hmove⟩ := Option.bind_eq_some_iff.1 hstep
      exact h.workerStep hx hmove
  | background w order wakeup =>
      obtain ⟨x, hx, hwake⟩ := Option.bind_eq_some_iff.1 hstep
      obtain ⟨driver, -, rfl⟩ := Option.map_eq_some_iff.1 hwake
      refine h.setWorker hx rfl (fun op hop => hop) (fun op hop => .inr hop) ?_
      intro reply' a ha
      cases List.mem_singleton.1 ha
  | task k move =>
      obtain ⟨t, -, hmove⟩ := Option.bind_eq_some_iff.1 hstep
      cases move with
      | cancel =>
          rw [taskStep] at hmove
          split at hmove
          · split at hmove
            · cases hmove
              exact ⟨h.queued, h.waiting, h.running, h.replied⟩
            · cases hmove
          · cases hmove
      | attempt order world =>
          rw [taskStep] at hmove
          split at hmove
          · split at hmove
            · cases hmove
              obtain ⟨hmoved, -⟩ := Supervisor.attempt_attempted table ⟨s.now, order⟩ world k t
                s.sup
              have hworkers : (s.sup.attempt table ⟨s.now, order⟩ world k t).workers =
                  s.sup.workers ∨ ∃ id driver,
                    (s.sup.attempt table ⟨s.now, order⟩ world k t).workers =
                      s.sup.workers ++ [Worker.spawn id driver] := by
                rcases Supervisor.attempt_workers table ⟨s.now, order⟩ world k t s.sup with
                  hsame | ⟨driver, hspawned⟩
                · exact .inl hsame
                · exact .inr ⟨t.ctx.device_id, driver, hspawned⟩
              have hsilent : Supervisor.Disposed .shutdown s.sup
                  (s.sup.attempt table ⟨s.now, order⟩ world k t) :=
                .silent [] rfl hworkers (hmoved.log.trans (List.append_nil _).symm) (by simp)
              obtain ⟨hwaiting, hrunning, hreplied⟩ := Pertains.disposed hsilent
                (fun hcon => by cases hcon) hhomed.registered h.waiting h.running h.replied
              exact ⟨h.queued, hwaiting, hrunning, hreplied⟩
            · cases hmove
          · cases hmove
      | send =>
          rw [taskStep] at hmove
          split at hmove
          · exact Pertains.sendOrDrop (s := { s with sup := s.sup.setTask k t.abandon })
              ⟨h.queued, h.waiting, h.running, h.replied⟩ rfl hmove
          · cases hmove

omit [KeyboardDriver D] [BackgroundTasks D] in
/-- A channel keeps to its command when that comes in. -/
theorem pertains_enqueue (h : s.Pertains reply cmd) (hstep : s.enqueue cmd = some s') :
    s'.Pertains reply cmd := by
  obtain ⟨hsup, envelope, hcmd, hqueue⟩ := enqueue_queue hstep
  refine ⟨?_, by rw [hsup]; exact h.waiting, by rw [hsup]; exact h.running,
    by rw [hsup]; exact h.replied⟩
  intro other hmem hreply
  rw [hqueue] at hmem
  rcases List.mem_append.1 hmem with hold | hnew
  · exact h.queued other hold hreply
  · rw [List.mem_singleton.1 hnew, hcmd]

/-! ## What the engine keeps for those who wait -/

omit [KeyboardDriver D] [BackgroundTasks D] in
/-- The record only grows. -/
theorem Stepped.log (h : Stepped s s') : ∃ more, s'.sup.log = s.sup.log ++ more := by
  cases h with
  | turned envelope rest hturned =>
      obtain ⟨more, hlog, -⟩ := Supervisor.handled_log hturned.handled
      exact ⟨.handled envelope :: more, hlog.trans (List.append_assoc _ _ _)⟩
  | stopped envelope rest hstops => exact ⟨_, hstops.log⟩
  | returned hreturns => exact ⟨[], hreturns.log.trans (List.append_nil _).symm⟩
  | aside haside =>
      obtain ⟨effects, hlog, -⟩ := haside.log
      exact ⟨effects, hlog⟩

omit [KeyboardDriver D] [BackgroundTasks D] in
/-- A supervisor that has returned stays so. -/
theorem Stepped.returned_stays (h : Stepped s s') (hreturned : s.status = .returned) :
    s'.status = .returned := by
  cases h with
  | turned envelope rest hturned =>
      rw [hturned.running] at hreturned
      cases hreturned
  | stopped envelope rest hstops =>
      rw [hstops.running] at hreturned
      cases hreturned
  | returned hreturns => exact hreturns.status'
  | aside haside => exact haside.status.trans hreturned

/-- What holds of requests in every state the engine reaches. -/
structure Accounted (s : Sys D) : Prop where
  deaf : s.Deaf
  homed : s.Homed
  once : ∀ reply, s.outstanding reply + s.answered reply ≤ 1
  fresh : ∀ reply, s.next_reply ≤ reply → s.outstanding reply + s.answered reply = 0

omit [KeyboardDriver D] [BackgroundTasks D] in
theorem accounted_start : (start : Sys D).Accounted where
  deaf := deaf_start
  homed := homed_start
  once := fun _ => Nat.zero_le 1
  fresh := fun _ _ => rfl

theorem accounted_step {table : DriverTable W D} {l : Label W} (h : s.Accounted)
    (hstep : s.step table l = some s') : s'.Accounted := by
  have hnext : s.next_reply ≤ s'.next_reply := by
    rw [step_next_reply hstep]
    exact Nat.le_add_right _ _
  refine ⟨deaf_step h.deaf hstep, homed_step h.homed hstep, ?_, ?_⟩
  · intro reply
    have hbalance := step_accounts h.deaf hstep reply
    rw [Accounts] at hbalance
    rcases issues_step hstep reply with hnone | ⟨hone, hreply, -⟩
    · have honce := h.once reply
      omega
    · have hfresh := h.fresh reply (Nat.le_of_eq hreply.symm)
      omega
  · intro reply hle
    have hbalance := step_accounts h.deaf hstep reply
    rw [Accounts] at hbalance
    have hfresh := h.fresh reply (Nat.le_trans hnext hle)
    rcases issues_step hstep reply with hnone | ⟨-, hreply, hmore⟩
    · omega
    · rw [hmore, hreply] at hle
      exact absurd hle (Nat.not_succ_le_self _)

/-- A request that was answered stays answered, once. -/
theorem answered_stays {table : DriverTable W D} {l : Label W} (h : s.Accounted)
    (hanswered : s.answered reply = 1) (hstep : s.step table l = some s') :
    s'.answered reply = 1 := by
  obtain ⟨more, hlog⟩ := (step_cases hstep).log
  have hmore : s.answered reply ≤ s'.answered reply := by
    rw [answered, answered, hlog, List.countP_append]
    exact Nat.le_add_right _ _
  have honce := (accounted_step h hstep).once reply
  omega

/-- A request that is nowhere outstanding stays so, and the answers to it are what they
are. -/
theorem settled_stays {table : DriverTable W D} {l : Label W} (h : s.Accounted)
    (hopened : reply < s.next_reply) (hsettled : s.outstanding reply = 0)
    (hstep : s.step table l = some s') :
    s'.outstanding reply = 0 ∧ s'.answered reply = s.answered reply := by
  obtain ⟨more, hlog⟩ := (step_cases hstep).log
  have hmore : s.answered reply ≤ s'.answered reply := by
    rw [answered, answered, hlog, List.countP_append]
    exact Nat.le_add_right _ _
  have hbalance := step_accounts h.deaf hstep reply
  rw [Accounts] at hbalance
  rcases issues_step hstep reply with hnone | ⟨-, hreply, -⟩
  · omega
  · exact absurd hreply (Nat.ne_of_lt hopened)

/-- A request that was dropped stays so. -/
theorem dropped_stays {table : DriverTable W D} {l : Label W} (h : s.Accounted)
    (hopened : reply < s.next_reply) (hgone : s.outstanding reply + s.answered reply = 0)
    (hstep : s.step table l = some s') : s'.outstanding reply + s'.answered reply = 0 := by
  have hsettled := settled_stays h hopened (by omega) hstep
  omega

end Sys

end Clackd.Engine
