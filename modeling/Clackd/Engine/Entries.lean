import Clackd.Engine.Debounce
import Clackd.Engine.Progress

/-!
# The entries of one worker

The record of the engine is one list, in which an entry of a worker carries its
number.  Seen from one worker a step of the system is a move of its own, a wake-up of
its driver, its spawning, or at most a queued operation; only the first two add
entries of the worker.

## Main results

* `Worker.move_driver`: the driver and the entries after a move, one call at most.
* `Sys.at_step`: what a step does to one worker.
-/

namespace Clackd.Engine

open Clackd.Foundation Clackd.Hal

/-! ## The entries of a worker -/

/-- The entries about a worker. -/
def ofWorker (w : WorkerId) (log : List Effect) : List Effect :=
  log.filter fun e => e.worker = some w

theorem ofWorker_append (w : WorkerId) (log more : List Effect) :
    ofWorker w (log ++ more) = ofWorker w log ++ ofWorker w more := List.filter_append _ _

theorem ofWorker_of_others {w : WorkerId} {log : List Effect} (h : ∀ e ∈ log, e.worker ≠ some w) :
    ofWorker w log = [] := by
  rw [ofWorker, List.filter_eq_nil_iff]
  intro e he
  simpa using h e he

theorem Bystanders.ofWorker {es : List Effect} (h : Bystanders es) (w : WorkerId) :
    Bystanders (ofWorker w es) := fun e he => h e (List.mem_of_mem_filter he)

/-! ## A move of a worker -/

namespace Worker

variable {D : Type} [KeyboardDriver D]

/-- The driver and the own entries after a move: those of a driver call, or nothing
but the start of a job. -/
theorem move_driver {w : WorkerId} {senders : Bool} {now : Nat} {x : Worker D} {m : WorkerMove}
    {r : Worker D × List Effect} (h : x.move w senders now m = some r) :
    (∀ e ∈ r.2, e.worker = none ∨ e.worker = some w) ∧
      ((r.1.driver = x.driver ∧ ∀ e ∈ ofWorker w r.2, ∃ job, e = .began w job) ∨
        ∃ order job, m = .finish order ∧ x.phase = .running job ∧
          r.1.driver = (perform ⟨now, order⟩ x.driver job).driver ∧
          ofWorker w r.2 = [.called w job (perform ⟨now, order⟩ x.driver job).ok]) := by
  have hstart : ∀ job (y : Worker D), y.driver = x.driver →
      (∀ e ∈ (start w job y).2, e.worker = none ∨ e.worker = some w) ∧
        (start w job y).1.driver = x.driver ∧
          ∀ e ∈ ofWorker w (start w job y).2, ∃ job, e = .began w job := by
    intro job y hdriver
    refine ⟨?_, hdriver, ?_⟩
    · intro e he
      rw [List.mem_singleton.1 he]
      exact .inr rfl
    · intro e he
      exact ⟨job, List.mem_singleton.1 (List.mem_of_mem_filter he)⟩
  have hquiet : (∀ e ∈ ([] : List Effect), e.worker = none ∨ e.worker = some w) ∧
      ∀ e ∈ ofWorker w [], ∃ job, e = .began w job := by
    constructor
    · intro e he
      cases he
    · intro e he
      cases he
  cases m with
  | recv =>
      obtain ⟨-, ⟨op, rest, -, rfl⟩ | ⟨-, -, -, rfl⟩ | ⟨-, -, -, rfl⟩⟩ := recv_cases h
      · exact ⟨(hstart _ _ rfl).1, .inl (hstart _ _ rfl).2⟩
      · exact ⟨(hstart _ _ rfl).1, .inl (hstart _ _ rfl).2⟩
      · exact ⟨hquiet.1, .inl ⟨rfl, hquiet.2⟩⟩
  | debounce =>
      obtain ⟨-, -, rfl⟩ := debounce_cases h
      exact ⟨(hstart _ _ rfl).1, .inl (hstart _ _ rfl).2⟩
  | finish order =>
      obtain ⟨op, hphase, rfl⟩ | ⟨hphase, rfl⟩ | ⟨hphase, rfl⟩ := finish_cases h
      · obtain ⟨-, -, hannounced⟩ := aftermath_cases ⟨now, order⟩ op
          (call ⟨now, order⟩ x.driver op).ok (after (call ⟨now, order⟩ x.driver op) x)
        have hothers : ∀ e ∈ .replied op.reply (call ⟨now, order⟩ x.driver op).reply ::
            (aftermath ⟨now, order⟩ op (call ⟨now, order⟩ x.driver op).ok
              (after (call ⟨now, order⟩ x.driver op) x)).2, e.worker = none := by
          intro e he
          rcases List.mem_cons.1 he with rfl | he
          · rfl
          · rw [hannounced e he]
            rfl
        refine ⟨?_, .inr ⟨order, .op op, rfl, hphase, aftermath_driver _ _ _ _, ?_⟩⟩
        · intro e he
          rcases List.mem_cons.1 he with rfl | he
          · exact .inr rfl
          · exact .inl (hothers e he)
        · have hrest : ofWorker w _ = [] :=
            ofWorker_of_others fun e he => by rw [hothers e he]; nofun
          show ofWorker w ([.called w (.op op) (call ⟨now, order⟩ x.driver op).ok] ++ _) = _
          rw [ofWorker_append, hrest, List.append_nil]
          simp [ofWorker, Effect.worker, perform]
      · refine ⟨?_, .inr ⟨order, .debounced, rfl, hphase, rfl, ?_⟩⟩
        · simp only [finishDebounced]
          split <;> simp [Effect.worker, announce]
        · simp only [finishDebounced]
          split <;> simp [ofWorker, Effect.worker, announce, perform]
      · refine ⟨?_, .inr ⟨order, .final, rfl, hphase, rfl, ?_⟩⟩
        · simp [finishFinal, Effect.worker]
        · simp [finishFinal, ofWorker, Effect.worker, perform]
  | report =>
      obtain ⟨x', hx', rfl⟩ := Option.map_eq_some_iff.1 h
      obtain ⟨-, rfl⟩ := reportDone_cases hx'
      exact ⟨hquiet.1, .inl ⟨rfl, hquiet.2⟩⟩
  | exit =>
      obtain ⟨x', hx', rfl⟩ := Option.map_eq_some_iff.1 h
      obtain ⟨-, rfl⟩ := exitTask_cases hx'
      exact ⟨hquiet.1, .inl ⟨rfl, hquiet.2⟩⟩
  | panic =>
      obtain ⟨x', hx', rfl⟩ := Option.map_eq_some_iff.1 h
      obtain ⟨-, rfl⟩ := panicked_cases hx'
      exact ⟨hquiet.1, .inl ⟨rfl, hquiet.2⟩⟩

end Worker

/-! ## A step, for one worker -/

/-- A turn of the supervisor records nothing about workers. -/
theorem Supervisor.handled_workerless {D : Type} {cmd : EngineCommand} {sender : Origin}
    {e e' : Supervisor D} (h : e.Handled cmd sender e') :
    ∃ more, e'.log = e.log ++ more ∧ ∀ x ∈ more, x.worker = none := by
  cases h with
  | quiet effects _ _ hlog hreplies _ _ _ _ =>
      refine ⟨effects, hlog, ?_⟩
      intro x hx
      obtain ⟨reply, r, rfl⟩ := hreplies x hx
      rfl
  | cancelled id _ _ _ hlog _ => exact ⟨[], by simp [hlog], by simp⟩
  | connected id vendor_id product_id path handle _ _ _ _ _ hlog =>
      exact ⟨_, hlog, by simp [Effect.worker]⟩
  | retried id vendor_id product_id path t _ _ _ _ _ hlog =>
      exact ⟨_, hlog, by simp [Effect.worker]⟩
  | disconnected id handle _ _ _ _ hlog => exact ⟨_, hlog, by simp [Effect.worker]⟩
  | lost id handle t _ _ _ _ _ hlog => exact ⟨_, hlog, by simp [Effect.worker]⟩
  | failed id err handle _ _ _ _ _ hlog => exact ⟨_, hlog, by simp [Effect.worker]⟩
  | reattached id handle token k _ _ _ _ hlog => exact ⟨_, hlog, by simp [Effect.worker]⟩
  | evicted id op handle _ _ _ _ _ _ hlog => exact ⟨_, hlog, by simp [Effect.worker]⟩

namespace Sys

section AtWorker

variable {W D : Type} [KeyboardDriver D] [BackgroundTasks D]

/-- What a step does to a worker. -/
inductive AtWorker (table : DriverTable W D) (w : WorkerId) (s s' : Sys D) (l : Label W) : Prop
  | absent (before : s.sup.workers[w]? = none) (after : s'.sup.workers[w]? = none)
      (log : ofWorker w s'.sup.log = ofWorker w s.sup.log)
  | spawned (id : String) (driver : D) (before : s.sup.workers[w]? = none)
      (after : s'.sup.workers[w]? = some (Worker.spawn id driver))
      (opened : Supervisor.Opens table driver)
      (log : ofWorker w s'.sup.log = ofWorker w s.sup.log)
  /-- At most, operations are queued. -/
  | kept (x : Worker D) (rx : List WorkerOp) (before : s.sup.workers[w]? = some x)
      (after : s'.sup.workers[w]? = some { x with rx := rx })
      (log : ofWorker w s'.sup.log = ofWorker w s.sup.log)
  | moved (x : Worker D) (m : WorkerMove) (r : Worker D × List Effect) (label : l = .worker w m)
      (before : s.sup.workers[w]? = some x) (move : x.move w (s.senderAlive w) s.now m = some r)
      (after : s'.sup.workers[w]? = some r.1)
      (log : ofWorker w s'.sup.log = ofWorker w s.sup.log ++ ofWorker w r.2)
  /-- A task of its driver wakes up. -/
  | woke (x : Worker D) (driver : D) (order : HashOrder) (wakeup : Background)
      (label : l = .background w order wakeup) (before : s.sup.workers[w]? = some x)
      (wake : BackgroundTasks.wake ⟨s.now, order⟩ (x.phase = .gone) wakeup x.driver = some driver)
      (after : s'.sup.workers[w]? = some { x with driver := driver })
      (log : ofWorker w s'.sup.log = ofWorker w s.sup.log ++ [.woke w wakeup])

variable {table : DriverTable W D} {s s' : Sys D} {l : Label W}

omit [BackgroundTasks D] in
theorem AtWorker.of_grows [BackgroundTasks D] {w : WorkerId}
    (hgrows : Supervisor.Grows (Supervisor.Opens table) s.sup s'.sup)
    (hlog : ofWorker w s'.sup.log = ofWorker w s.sup.log) : AtWorker table w s s' l := by
  cases hbefore : s.sup.workers[w]? with
  | none =>
      cases hafter : s'.sup.workers[w]? with
      | none => exact .absent hbefore hafter hlog
      | some x =>
          obtain ⟨id, driver, rfl, hopened⟩ := hgrows.fresh w x hbefore hafter
          exact .spawned id driver hbefore hafter hopened hlog
  | some x =>
      obtain ⟨rx, hafter⟩ := hgrows.kept w x hbefore
      exact .kept x rx hbefore hafter hlog

/-- A step that moves another worker, or none. -/
theorem AtWorker.of_set {w v : WorkerId} {r : Worker D × List Effect} (hv : v ≠ w)
    (hsup : s'.sup = (s.setWorker v r).sup)
    (hown : ∀ e ∈ r.2, e.worker = none ∨ e.worker = some v) : AtWorker table w s s' l := by
  have hworkers : s'.sup.workers[w]? = s.sup.workers[w]? := by
    rw [hsup]
    exact List.getElem?_set_ne hv
  have hrest : ofWorker w r.2 = [] := by
    refine ofWorker_of_others fun e he => ?_
    rcases hown e he with hnone | hother
    · rw [hnone]
      nofun
    · rw [hother]
      exact fun hcon => hv (Option.some.inj hcon)
  have hlog : ofWorker w s'.sup.log = ofWorker w s.sup.log := by
    rw [hsup]
    show ofWorker w (s.sup.log ++ r.2) = _
    rw [ofWorker_append, hrest, List.append_nil]
  cases hbefore : s.sup.workers[w]? with
  | none => exact .absent hbefore (hworkers.trans hbefore) hlog
  | some x => exact .kept x x.rx hbefore (hworkers.trans hbefore) hlog

omit [BackgroundTasks D] in
/-- A move of a worker in the system is a move of the worker, and a message at
most. -/
theorem workerStep_move {w : WorkerId} {x : Worker D} {m : WorkerMove}
    (h : s.workerStep w x m = some s') : ∃ r, x.move w (s.senderAlive w) s.now m = some r ∧
      s'.sup = (s.setWorker w r).sup := by
  cases m with
  | report =>
      obtain ⟨x', hx', hsend⟩ := Option.bind_eq_some_iff.1 h
      exact ⟨(x', []), by rw [Worker.move, hx']; rfl, (sendOrDrop_cases hsend).1⟩
  | exit =>
      obtain ⟨x', hx', rfl⟩ := Option.map_eq_some_iff.1 h
      exact ⟨(x', []), by rw [Worker.move, hx']; rfl, rfl⟩
  | panic =>
      obtain ⟨x', hx', rfl⟩ := Option.map_eq_some_iff.1 h
      exact ⟨(x', []), by rw [Worker.move, hx']; rfl, rfl⟩
  | recv =>
      obtain ⟨r, hr, rfl⟩ := Option.map_eq_some_iff.1 h
      exact ⟨r, hr, rfl⟩
  | debounce =>
      obtain ⟨r, hr, rfl⟩ := Option.map_eq_some_iff.1 h
      exact ⟨r, hr, rfl⟩
  | finish order =>
      obtain ⟨r, hr, rfl⟩ := Option.map_eq_some_iff.1 h
      exact ⟨r, hr, rfl⟩

/-- What a step does to one worker. -/
theorem at_step (hstep : s.step table l = some s') (w : WorkerId) : AtWorker table w s s' l := by
  have hsame : s'.sup = s.sup → AtWorker table w s s' l := by
    intro heq
    exact .of_grows (.of_eq (by rw [heq])) (by rw [heq])
  cases l with
  | tick ms =>
      cases hstep
      exact hsame rfl
  | enqueue cmd =>
      rw [step, enqueue] at hstep
      split at hstep
      · cases hstep
      · split at hstep
        · rw [send] at hstep
          split at hstep
          · cases hstep
            exact hsame rfl
          · cases hstep
        · cases hstep
  | supervise order world =>
      obtain ⟨envelope, rest, hturned | hstops⟩ := supervise_cases (s := s) hstep
      · have hfirst : ofWorker w [.handled envelope] = [] :=
          ofWorker_of_others fun e he => by rw [List.mem_singleton.1 he]; simp [Effect.worker]
        obtain ⟨more, hlog, hnone⟩ := Supervisor.handled_workerless hturned.handled
        have hmore : ofWorker w more = [] :=
          ofWorker_of_others fun e he => by simp [hnone e he]
        have hgrows : Supervisor.Grows (Supervisor.Opens table) s.sup s'.sup := by
          rw [step, supervise, hturned.running, hturned.queue] at hstep
          dsimp only at hstep
          split at hstep
          · cases hstep
            cases hturned.status'
          · cases hstep
            have hhandled := Supervisor.handle_command_grows table ⟨s.now, order⟩ world envelope
              (s.sup.emit [.handled envelope])
            exact ⟨hhandled.kept, hhandled.fresh⟩
        refine .of_grows hgrows ?_
        rw [hlog]
        show ofWorker w ((s.sup.log ++ [.handled envelope]) ++ more) = _
        rw [ofWorker_append, ofWorker_append, hfirst, hmore, List.append_nil, List.append_nil]
      · refine .of_grows (.of_eq ?_) ?_
        · rw [step, supervise, hstops.running, hstops.queue] at hstep
          dsimp only at hstep
          rw [if_pos hstops.cmd] at hstep
          cases hstep
          rfl
        · have hfirst : ofWorker w [.handled envelope] = [] :=
            ofWorker_of_others fun e he => by rw [List.mem_singleton.1 he]; simp [Effect.worker]
          rw [hstops.log, ofWorker_append, hfirst, List.append_nil]
  | superviseReturn =>
      rw [step, superviseReturn] at hstep
      split at hstep
      · cases hstep
        exact .of_grows (.of_eq rfl) rfl
      · cases hstep
  | worker v m =>
      obtain ⟨x, hx, hmove⟩ := Option.bind_eq_some_iff.1 hstep
      obtain ⟨r, hr, hsup⟩ := workerStep_move hmove
      obtain ⟨hown, -⟩ := Worker.move_driver hr
      by_cases hv : v = w
      · subst hv
        obtain ⟨hlt, -⟩ := List.getElem?_eq_some_iff.1 hx
        refine .moved x m r rfl hx hr ?_ ?_
        · rw [hsup]
          exact List.getElem?_set_self hlt
        · rw [hsup]
          exact ofWorker_append v s.sup.log r.2
      · exact .of_set hv hsup hown
  | background v order wakeup =>
      obtain ⟨x, hx, hwake⟩ := Option.bind_eq_some_iff.1 hstep
      obtain ⟨driver, hdriver, rfl⟩ := Option.map_eq_some_iff.1 hwake
      by_cases hv : v = w
      · subst hv
        obtain ⟨hlt, -⟩ := List.getElem?_eq_some_iff.1 hx
        refine .woke x driver order wakeup rfl hx hdriver (List.getElem?_set_self hlt) ?_
        show ofWorker v (s.sup.log ++ [.woke v wakeup]) = _
        rw [ofWorker_append]
        simp [ofWorker, Effect.worker]
      · refine .of_set hv rfl ?_
        intro e he
        rw [List.mem_singleton.1 he]
        exact .inr rfl
  | task k move =>
      obtain ⟨t, ht, hmove⟩ := Option.bind_eq_some_iff.1 hstep
      cases move with
      | cancel =>
          rw [taskStep] at hmove
          split at hmove
          · split at hmove
            · cases hmove
              exact .of_grows (.of_eq rfl) rfl
            · cases hmove
          · cases hmove
      | attempt order world =>
          rw [taskStep] at hmove
          split at hmove
          · split at hmove
            · cases hmove
              obtain ⟨hmoved, hgrows⟩ :=
                Supervisor.attempt_attempted table ⟨s.now, order⟩ world k t s.sup
              exact .of_grows hgrows (congrArg (ofWorker w) hmoved.log)
            · cases hmove
          · cases hmove
      | send =>
          rw [taskStep] at hmove
          split at hmove
          · obtain ⟨hsup, -⟩ := sendOrDrop_cases hmove
            exact .of_grows (.of_eq (by rw [hsup]; rfl)) (by rw [hsup]; rfl)
          · cases hmove

end AtWorker

end Sys

end Clackd.Engine
