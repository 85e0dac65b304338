import Clackd.Engine.Boxed
import Clackd.Engine.Entries
import Clackd.Hal.Legacy.Transport
import Clackd.Hal.Via.Failing

/-!
# Nodes that go away

A board is unplugged while its worker runs an operation: the next call on the node fails.
The driver classes the error, the worker takes some classes as the loss of its device, and
then it reports to the engine and returns.

The calls are the reads and writes of a `ViaDriver` in direct mode, and the frames of the
transactions of a `Gmk67Driver`.

## Main results

* `leaving_of_reporting`: a worker that is about to report does nothing else any more.
* `perform_refused`: the class of a call that fails is the result of its operation.
* `vanished_node_retires_iff`: in every run, every call that fails because its node is gone
  retires the worker if and only if none of them fails with `ENODEV`, or unnoticed.
-/

namespace Clackd.Engine

open Clackd.Foundation Clackd.Hal Clackd.Hal.Via Clackd.Hal.Legacy
open Std (ExtTreeMap)

/-! ## Workers that leave -/

namespace Sys

section Leaving

variable {W D : Type} [KeyboardDriver D] [BackgroundTasks D]

omit [KeyboardDriver D] [BackgroundTasks D] in
/-- Where a worker is in its loop. -/
def phaseOf (s : Sys D) (w : WorkerId) : Option WorkerPhase := s.sup.workers[w]?.map Worker.phase

/-- In a schedule from `s` the worker has put its report on the engine channel, if that
still had a receiver. -/
def Reported (table : DriverTable W D) (w : WorkerId) (s : Sys D) (labels : List (Label W)) : Prop :=
  ∃ before after m m' x, labels = before ++ .worker w .report :: after ∧
    run (step table) s before = some m ∧ m.sup.workers[w]? = some x ∧
      m.step table (.worker w .report) = some m' ∧
        (m.status = .returned ∨
          m'.queue = m.queue ++ [⟨.worker w, .deviceError x.device_id (.driver .disconnected)⟩])

/-- How far the worker is on its way out, in the state after a schedule from `s`, and that
it can go on. -/
inductive Leaving (table : DriverTable W D) (w : WorkerId) (s : Sys D) (labels : List (Label W))
    (t : Sys D) : Prop
  | reporting (phase : t.phaseOf w = some .reporting)
      (next : t.status = .returned ∨ t.queue.length < ENGINE_CHANNEL_CAPACITY →
        (t.step table (.worker w .report)).isSome)
  | reported (phase : t.phaseOf w = some .reported) (sent : Reported table w s labels)
      (next : (t.step table (.worker w .exit)).isSome)
  | gone (phase : t.phaseOf w = some .gone) (sent : Reported table w s labels)

/-- The worker reports the loss of its device and returns, and does nothing else. -/
def Retires (table : DriverTable W D) (w : WorkerId) (s : Sys D) : Prop :=
  ∀ labels t, run (step table) s labels = some t → Leaving table w s labels t

variable {table : DriverTable W D} {s s' : Sys D} {l : Label W} {w : WorkerId}

/-- What a step does to a worker on its way out. -/
theorem phase_step (hstep : s.step table l = some s') {p : WorkerPhase}
    (hphase : s.phaseOf w = some p) (hleaving : p = .reporting ∨ p = .reported ∨ p = .gone) :
    s'.phaseOf w = some p ∨
      (p = .reporting ∧ l = .worker w .report ∧ s'.phaseOf w = some .reported) ∨
        (p = .reported ∧ l = .worker w .exit ∧ s'.phaseOf w = some .gone) := by
  obtain ⟨x, hx, rfl⟩ := Option.map_eq_some_iff.1 hphase
  cases at_step hstep w with
  | absent before after log =>
      rw [hx] at before
      cases before
  | spawned id driver before after opened log =>
      rw [hx] at before
      cases before
  | kept y rx before after log =>
      rw [hx] at before
      cases before
      exact .inl (by rw [phaseOf, after]; rfl)
  | woke y driver order wakeup label before wake after log =>
      rw [hx] at before
      cases before
      exact .inl (by rw [phaseOf, after]; rfl)
  | moved y m r label before move after log =>
      rw [hx] at before
      cases before
      have hafter : s'.phaseOf w = some r.1.phase := by rw [phaseOf, after]; rfl
      cases m with
      | report =>
          obtain ⟨x', hx', rfl⟩ := Option.map_eq_some_iff.1 move
          obtain ⟨hreporting, rfl⟩ := Worker.reportDone_cases hx'
          exact .inr (.inl ⟨hreporting, label, hafter⟩)
      | exit =>
          obtain ⟨x', hx', rfl⟩ := Option.map_eq_some_iff.1 move
          obtain ⟨hreported, rfl⟩ := Worker.exitTask_cases hx'
          exact .inr (.inr ⟨hreported, label, hafter⟩)
      | recv =>
          obtain ⟨hidle, -⟩ := Worker.recv_cases move
          simp [hidle] at hleaving
      | debounce =>
          obtain ⟨hidle, -⟩ := Worker.debounce_cases move
          simp [hidle] at hleaving
      | finish order =>
          obtain ⟨op, hrunning, -⟩ | ⟨hrunning, -⟩ | ⟨hrunning, -⟩ := Worker.finish_cases move
          · simp [hrunning] at hleaving
          · simp [hrunning] at hleaving
          · simp [hrunning] at hleaving
      | panic =>
          obtain ⟨x', hx', rfl⟩ := Option.map_eq_some_iff.1 move
          obtain ⟨⟨job, hrunning⟩, -⟩ := Worker.panicked_cases hx'
          simp [hrunning] at hleaving

/-- A worker that is about to report can, as soon as there is room on the channel. -/
theorem report_enabled (hphase : s.phaseOf w = some .reporting)
    (hroom : s.status = .returned ∨ s.queue.length < ENGINE_CHANNEL_CAPACITY) :
    (s.step table (.worker w .report)).isSome := by
  obtain ⟨x, hx, hreporting⟩ := Option.map_eq_some_iff.1 hphase
  rw [step, hx, Option.bind_some, workerStep, Worker.reportDone, if_pos hreporting,
    Option.bind_some, sendOrDrop]
  by_cases hreturned : s.status = .returned
  · rw [if_pos (show (s.setWorker w _).status = .returned from hreturned)]
    rfl
  · rw [if_neg (show ¬ (s.setWorker w _).status = .returned from hreturned), send,
      if_pos ⟨hreturned, hroom.resolve_left hreturned⟩]
    rfl

theorem exit_enabled (hphase : s.phaseOf w = some .reported) :
    (s.step table (.worker w .exit)).isSome := by
  obtain ⟨x, hx, hreported⟩ := Option.map_eq_some_iff.1 hphase
  rw [step, hx, Option.bind_some, workerStep, Worker.exitTask, if_pos hreported]
  rfl

/-- A report is put on the channel, unless nobody reads it. -/
theorem report_sends (hstep : s.step table (.worker w .report) = some s') :
    ∃ x, s.sup.workers[w]? = some x ∧ (s.status = .returned ∨
      s'.queue = s.queue ++ [⟨.worker w, .deviceError x.device_id (.driver .disconnected)⟩]) := by
  obtain ⟨x, hx, hmove⟩ := Option.bind_eq_some_iff.1 hstep
  obtain ⟨x', hx', hsend⟩ := Option.bind_eq_some_iff.1 hmove
  obtain ⟨-, rfl⟩ := Worker.reportDone_cases hx'
  refine ⟨x, hx, ?_⟩
  by_cases hreturned : s.status = .returned
  · exact .inl hreturned
  · rw [sendOrDrop, if_neg (show ¬ (s.setWorker w _).status = .returned from hreturned),
      send] at hsend
    split at hsend
    · cases hsend
      exact .inr rfl
    · cases hsend

theorem Reported.snoc {labels : List (Label W)} (h : Reported table w s labels) (l : Label W) :
    Reported table w s (labels ++ [l]) := by
  obtain ⟨before, after, m, m', x, rfl, hrest⟩ := h
  exact ⟨before, after ++ [l], m, m', x, by simp, hrest⟩

/-- A worker that is about to report does nothing else any more. -/
theorem leaving_of_reporting (hphase : s.phaseOf w = some .reporting) : Retires table w s := by
  intro labels
  induction labels using List.reverseRecOn with
  | nil =>
      intro t hrun
      cases hrun
      exact .reporting hphase (report_enabled hphase)
  | append_singleton labels l ih =>
      intro t hrun
      obtain ⟨m, hm, hlast⟩ := run_append_some.1 hrun
      rw [run_singleton] at hlast
      cases ih m hm with
      | reporting hphase next =>
          obtain hsame | ⟨-, rfl, hreported⟩ | ⟨hcon, -⟩ := phase_step hlast hphase (.inl rfl)
          · exact .reporting hsame (report_enabled hsame)
          · obtain ⟨x, hx, hsent⟩ := report_sends hlast
            exact .reported hreported ⟨labels, [], m, t, x, rfl, hm, hx, hlast, hsent⟩
              (exit_enabled hreported)
          · cases hcon
      | reported hphase sent next =>
          obtain hsame | ⟨hcon, -⟩ | ⟨-, -, hgone⟩ := phase_step hlast hphase (.inr (.inl rfl))
          · exact .reported hsame (sent.snoc l) (exit_enabled hsame)
          · cases hcon
          · exact .gone hgone (sent.snoc l)
      | gone hphase sent =>
          obtain hsame | ⟨hcon, -⟩ | ⟨hcon, -⟩ := phase_step hlast hphase (.inr (.inr rfl))
          · exact .gone hsame (sent.snoc l)
          · cases hcon
          · cases hcon

end Leaving

end Sys

/-! ## Results of jobs -/

/-- An error, as the result of a job. -/
def Job.refusal (err : DaemonError) : Job → Reply
  | .op request => request.refusal err
  | .debounced => .done (.error err)
  | .final => .done (.error err)

theorem Job.refusal_injective {job : Job} {err err' : DaemonError}
    (h : job.refusal err = job.refusal err') : err = err' := by
  cases job with
  | op op =>
      cases op <;> cases h <;> rfl
  | debounced =>
      cases h
      rfl
  | final =>
      cases h
      rfl

/-- The job has failed, with this error. -/
structure Outcome.Refused {D : Type} (o : Outcome D) (job : Job) (err : DriverError) : Prop where
  reply : o.reply = job.refusal (.driver err)
  fatal : o.fatal = is_fatal_driver_error (.error (.driver err) : Except DaemonError Unit)

theorem Outcome.refused_of_error {D α : Type} {wrap : Except DaemonError α → Reply}
    {r : Except DriverError α × D} {job : Job} {err : DriverError} (hr : r.1 = .error err)
    (hwrap : ∀ e, wrap (.error e) = job.refusal e) : (Worker.outcome wrap r).Refused job err := by
  obtain ⟨r, d⟩ := r
  cases hr
  exact ⟨hwrap _, by cases err <;> rfl⟩

/-- Each of the failures is the result of the job. -/
def Outcome.Answers {D : Type} (o : Outcome D) (job : Job) (classify : IoError → DriverError)
    (failures : List Failure) : Prop :=
  ∀ f ∈ failures, ∃ err, o.Refused job err ∧ f.StandsFor classify err

theorem Outcome.Answers.of_error {D α : Type} {wrap : Except DaemonError α → Reply}
    {r : Except DriverError α × D} {job : Job} {classify : IoError → DriverError}
    {failures : List Failure} (hwrap : ∀ e, wrap (.error e) = job.refusal e)
    (hr : ∀ f ∈ failures, ∃ err, r.1 = .error err ∧ f.StandsFor classify err) :
    (Worker.outcome wrap r).Answers job classify failures := by
  intro f hf
  obtain ⟨err, herror, hclass⟩ := hr f hf
  exact ⟨err, Outcome.refused_of_error herror hwrap, hclass⟩

namespace BoxedDriver

variable {N F Text : Type}

/-- A driver on a node whose failures are recorded. -/
abbrev Recorded (N F Text : Type) : Type :=
  BoxedDriver (ViaTransport (Hal.Recorded N)) (Gmk67Transport (Hal.Recorded F)) Text

/-- The failures of the calls that an operation has made, given the driver before and after
it: all of a driver in direct mode, and of a transaction only the first, since it is the
abort frame that comes after. -/
def issued : Recorded N F Text → Recorded N F Text → List Failure
  | .via d, .via d' =>
      match d.inner, d'.inner with
      | .direct inner, .direct inner' => inner'.failures.drop inner.failures.length
      | _, _ => []
  | .gmk67 d, .gmk67 d' => (d'.io.failures.drop d.io.failures.length).take 1
  | _, _ => []

variable [HidrawNode N] [FeatureNode F] [SerdeJson Text]

variable (F Text) in
/-- Whatever call fails while a driver in direct mode does a job, its class is the
result. -/
theorem perform_via (turn : Turn) {d : ViaDriver (ViaTransport (Hal.Recorded N))}
    {inner : ViaDirect (ViaTransport (Hal.Recorded N))} (h : d.inner = .direct inner) (job : Job) :
    ∃ ws, (inner.serve turn.order job.relayed).2.failures = inner.failures ++ ws ∧
      (Worker.perform turn (.via d : Recorded N F Text) job).Answers job
        Via.classify_io_error ws := by
  obtain ⟨ws, hlog, hstands⟩ := serve_stops turn.order inner job.relayed
  refine ⟨ws, hlog, ?_⟩
  have hask : ∀ {α : Type} {read : CoalescerReply → Except DriverError α}
      {wrap : Except DaemonError α → Reply},
      (∀ err, read (job.relayed.refusal err) = .error err) →
        (∀ e, wrap (.error e) = job.refusal e) →
          (Worker.outcome wrap
            ((exec (ViaDriver.ask read turn job.relayed) d).map id .via) :
              Outcome (Recorded N F Text)).Answers job Via.classify_io_error ws := by
    intro α read wrap hread hwrap
    refine .of_error hwrap ?_
    intro f hf
    obtain ⟨err, hreply, hclass⟩ := hstands f hf
    refine ⟨err, ?_, hclass⟩
    rw [exec_ask_direct read turn _ h]
    show read (inner.serve turn.order job.relayed).1 = _
    rw [hreply, hread]
  cases job with
  | op op => cases op <;> exact hask (fun _ => rfl) (fun _ => rfl)
  | debounced => exact hask (fun _ => rfl) (fun _ => rfl)
  | final => exact hask (fun _ => rfl) (fun _ => rfl)

omit [HidrawNode N] [FeatureNode F] [SerdeJson Text] in
/-- An operation of a legacy driver that stands for its first frame to fail, as a job. -/
theorem answers_legacy {α : Type}
    {x : DriverM (Gmk67Driver (Gmk67Transport (Hal.Recorded F)) Text) α}
    {wrap : Except DaemonError α → Reply} {job : Job} (hx : FirstBlamed x)
    (hwrap : ∀ e, wrap (.error e) = job.refusal e)
    (d : Gmk67Driver (Gmk67Transport (Hal.Recorded F)) Text) :
    ∃ d' ws,
      (Worker.outcome wrap ((exec x d).map id .gmk67) : Outcome (Recorded N F Text)).driver =
          .gmk67 d' ∧
        d'.io.failures = d.io.failures ++ ws ∧
          (Worker.outcome wrap ((exec x d).map id .gmk67) : Outcome (Recorded N F Text)).Answers
            job Legacy.classify_io_error (ws.take 1) := by
  obtain ⟨ws, hlog, hblamed⟩ := hx d
  exact ⟨_, ws, rfl, hlog, .of_error hwrap hblamed⟩

/-- What the first frame that fails stands for is the result of the job that a legacy driver
does. -/
theorem perform_legacy (turn : Turn) (d : Gmk67Driver (Gmk67Transport (Hal.Recorded F)) Text)
    (job : Job) :
    ∃ d' ws, (Worker.perform turn (.gmk67 d : Recorded N F Text) job).driver = .gmk67 d' ∧
      d'.io.failures = d.io.failures ++ ws ∧
        (Worker.perform turn (.gmk67 d : Recorded N F Text) job).Answers job
          Legacy.classify_io_error (ws.take 1) := by
  cases job with
  | op op =>
      cases op with
      | getKeycode layer row col reply =>
          exact answers_legacy (.of_kept fun _ => rfl) (fun _ => rfl) d
      | setKeycode layer row col keycode reply =>
          refine answers_legacy (x := Gmk67Driver.set_keycode layer row col keycode) (.of_kept ?_)
            (fun _ => rfl) d
          intro d
          by_cases hphysical : Gmk67Driver.Physical (layer, row, col)
          · rw [Gmk67Driver.set_keycode_accepted hphysical]
          · obtain ⟨e, hrefused⟩ := Gmk67Driver.set_keycode_refused (d := d) hphysical keycode
            rw [hrefused]
      | commit reply => exact answers_legacy firstBlamed_commit (fun _ => rfl) d
      | getMacro offset length reply =>
          exact answers_legacy (.of_kept fun _ => rfl) (fun _ => rfl) d
      | setMacro offset data reply =>
          exact answers_legacy (.of_kept fun _ => rfl) (fun _ => rfl) d
      | getLighting channel value_id reply =>
          refine answers_legacy (x := Gmk67Driver.get_lighting channel value_id) (.of_kept ?_)
            (fun _ => rfl) d
          intro d
          rw [Gmk67Driver.get_lighting, exec_bind_of_ok (exec_get d)]
          repeat' split
          all_goals rfl
      | setLighting channel value_id data reply =>
          exact answers_legacy (firstBlamed_set_lighting channel value_id data) (fun _ => rfl) d
  | debounced => exact answers_legacy firstBlamed_commit (fun _ => rfl) d
  | final => exact answers_legacy firstBlamed_commit (fun _ => rfl) d

/-- Whatever call of an operation fails, what it stands for is the result. -/
theorem perform_refused (turn : Turn) (d : Recorded N F Text) (job : Job) {f : Failure}
    (hf : f ∈ d.issued (Worker.perform turn d job).driver) :
    ∃ err, (Worker.perform turn d job).Refused job err ∧
      f.StandsFor Via.classify_io_error err := by
  cases d with
  | via d =>
      cases hinner : d.inner with
      | direct inner =>
          obtain ⟨ws, hlog, hrefused⟩ := perform_via F Text turn hinner job
          rw [perform_direct turn hinner] at hf
          simp only [issued, hinner, hlog, List.drop_left] at hf
          exact hrefused f hf
      | coalesced args actor =>
          cases hdriver : (Worker.perform turn (.via d : Recorded N F Text) job).driver with
          | via d' => simp [hdriver, issued, hinner] at hf
          | gmk67 d' => simp [hdriver, issued] at hf
  | gmk67 d =>
      obtain ⟨d', ws, hdriver, hlog, hrefused⟩ := perform_legacy (N := N) turn d job
      rw [hdriver] at hf
      simp only [issued, hlog, List.drop_left] at hf
      exact hrefused f hf

end BoxedDriver

/-! ## Steps that end a job -/

/-- The end of a job: the worker before it, and the call. -/
structure Ending (D : Type) where
  w : WorkerId
  worker : Worker D
  job : Job
  turn : Turn

/-- How the call ends. -/
def Ending.outcome {D : Type} [KeyboardDriver D] (e : Ending D) : Outcome D :=
  Worker.perform e.turn e.worker.driver e.job

namespace Sys

section Endings

variable {W D : Type}

/-- The job that a step ends. -/
def ends (s : Sys D) : Label W → Option (Ending D)
  | .worker w (.finish order) => s.sup.workers[w]?.bind fun x =>
      match x.phase with
      | .running job => some ⟨w, x, job, ⟨s.now, order⟩⟩
      | _ => none
  | _ => none

theorem ends_cases {s : Sys D} {l : Label W} {e : Ending D} (h : s.ends l = some e) :
    ∃ order, l = .worker e.w (.finish order) ∧ s.sup.workers[e.w]? = some e.worker ∧
      e.worker.phase = .running e.job ∧ e.turn = ⟨s.now, order⟩ := by
  unfold ends at h
  split at h
  · rename_i w order
    obtain ⟨x, hx, hjob⟩ := Option.bind_eq_some_iff.1 h
    split at hjob
    · rename_i job hphase
      cases hjob
      exact ⟨order, rfl, hx, hphase, rfl⟩
    · cases hjob
  · cases h

variable [KeyboardDriver D]

/-- The worker after a job: gone after its last one, and otherwise about to report if the
result was fatal. -/
theorem finish_phase {w : WorkerId} {turn : Turn} {x : Worker D} {job : Job}
    (hphase : x.phase = .running job) {r : Worker D × List Effect}
    (h : x.finish w turn = some r) :
    r.1.phase = if job = .final then .gone
      else if (Worker.perform turn x.driver job).fatal then .reporting else .idle := by
  obtain ⟨op, hrunning, rfl⟩ | ⟨hrunning, rfl⟩ | ⟨hrunning, rfl⟩ := Worker.finish_cases h
  · rw [hphase] at hrunning
    cases hrunning
    rw [if_neg nofun, Worker.finishOp_phase]
    rfl
  · rw [hphase] at hrunning
    cases hrunning
    rw [if_neg nofun]
    rfl
  · rw [hphase] at hrunning
    cases hrunning
    rw [if_pos rfl]
    rfl

theorem phaseOf_ends [BackgroundTasks D] {table : DriverTable W D} {s s' : Sys D} {l : Label W}
    {e : Ending D} (hends : s.ends l = some e) (hstep : s.step table l = some s') :
    s'.phaseOf e.w = some (if e.job = .final then .gone
      else if e.outcome.fatal then .reporting else .idle) := by
  obtain ⟨order, rfl, hx, hphase, hturn⟩ := ends_cases hends
  obtain ⟨x, hx', hmove⟩ := Option.bind_eq_some_iff.1 hstep
  obtain rfl := Option.some.inj (hx.symm.trans hx')
  obtain ⟨r, hr, rfl⟩ := Option.map_eq_some_iff.1 hmove
  rw [← hturn] at hr
  obtain ⟨hlt, -⟩ := List.getElem?_eq_some_iff.1 hx
  have hafter : (s.setWorker e.w r).sup.workers[e.w]? = some r.1 := List.getElem?_set_self hlt
  rw [phaseOf, hafter, Option.map_some, finish_phase hphase hr]
  rfl

end Endings

/-! ## Every run -/

section Runs

variable {W N F Text : Type} [HidrawNode N] [FeatureNode F] [SerdeJson Text]

/-- The calls for a job that have failed because the node is gone. -/
def losses (e : Ending (BoxedDriver.Recorded N F Text)) : List Failure :=
  (e.worker.driver.issued e.outcome.driver).filter fun f => f.Vanished

/-- The result of the job that the step ends is a lost device, and the worker reports it and
returns; or it has just done its last job, for nobody, and is gone. -/
def RetiredBy (table : DriverTable W (BoxedDriver.Recorded N F Text))
    (s : Sys (BoxedDriver.Recorded N F Text)) (l : Label W)
    (e : Ending (BoxedDriver.Recorded N F Text)) : Prop :=
  e.outcome.reply = e.job.refusal (.driver .disconnected) ∧
    ∀ s', s.step table l = some s' →
      if e.job = .final then s'.phaseOf e.w = some .gone else Retires table e.w s'

/-- A call that fails because the node is gone retires the worker. -/
def LossRetires (table : DriverTable W (BoxedDriver.Recorded N F Text))
    (s : Sys (BoxedDriver.Recorded N F Text)) (l : Label W) : Prop :=
  ∀ e ∈ s.ends l, ∀ _ ∈ losses e, s.RetiredBy table l e

/-- A call that fails because the node is gone does so while the driver waits for it, and not
with `ENODEV`. -/
def LossNoticed (s : Sys (BoxedDriver.Recorded N F Text)) (l : Label W) : Prop :=
  ∀ e ∈ s.ends l, ∀ f ∈ losses e, f.noticed = true ∧ f.errno ≠ some ENODEV

instance (s : Sys (BoxedDriver.Recorded N F Text)) (l : Label W) : Decidable (s.LossNoticed l) :=
  inferInstanceAs (Decidable (∀ e ∈ s.ends l, ∀ f ∈ losses e, _ ∧ _))

/-- A call that fails because the node is gone retires the worker exactly if the driver
notices, and the error is not `ENODEV`. -/
theorem retiredBy_iff (table : DriverTable W (BoxedDriver.Recorded N F Text))
    {s : Sys (BoxedDriver.Recorded N F Text)} {l : Label W}
    {e : Ending (BoxedDriver.Recorded N F Text)} (he : s.ends l = some e) {f : Failure}
    (hf : f ∈ losses e) :
    s.RetiredBy table l e ↔ f.noticed = true ∧ f.errno ≠ some ENODEV := by
  obtain ⟨hissued, hgone⟩ := List.mem_filter.1 hf
  obtain ⟨err, hrefused, hstands⟩ := BoxedDriver.perform_refused e.turn e.worker.driver e.job hissued
  rw [← hstands.disconnected_iff (of_decide_eq_true hgone) rfl rfl rfl]
  constructor
  · intro h
    have hreply := hrefused.reply.symm.trans h.1
    exact DaemonError.driver.inj (Job.refusal_injective hreply)
  · rintro rfl
    refine ⟨hrefused.reply, ?_⟩
    intro s' hstep
    have hphase := phaseOf_ends he hstep
    rw [show e.outcome.fatal = true from hrefused.fatal, if_pos rfl] at hphase
    by_cases hfinal : e.job = .final
    · rw [if_pos hfinal] at hphase ⊢
      exact hphase
    · rw [if_neg hfinal] at hphase ⊢
      exact leaving_of_reporting hphase

theorem lossRetires_iff (table : DriverTable W (BoxedDriver.Recorded N F Text))
    (s : Sys (BoxedDriver.Recorded N F Text)) (l : Label W) :
    s.LossRetires table l ↔ s.LossNoticed l :=
  forall₂_congr fun _ he => forall₂_congr fun _ hf => retiredBy_iff table he hf

/-- In every run, of any workers with any drivers: a read, a write or a frame of a
transaction that fails with `ENODEV`, `ENOENT` or `EPIPE` always makes a lost device the
result of its operation, and the worker report it and exit, if and only if all of these
failures are noticed and none is `ENODEV`; each of them does so exactly on that condition.
And of the errors that both know, the class at `open` and the class of a call agree for all
but `ENODEV`. -/
theorem vanished_node_retires_iff (table : DriverTable W (BoxedDriver.Recorded N F Text))
    (labels : List (Label W)) :
    (EveryStep (step table) (LossRetires table) start labels ↔
      EveryStep (step table) LossNoticed start labels) ∧
    EveryStep (step table) (fun s l => ∀ e ∈ s.ends l, ∀ f ∈ losses e,
      (s.RetiredBy table l e ↔ f.noticed = true ∧ f.errno ≠ some ENODEV)) start labels ∧
    ∀ errno ∈ [ENODEV, ENOENT, EACCES, EPERM], ∀ path : String,
      ((Via.classify_io_error (Via.io_from_errno errno)).pathless =
          (Via.classify_open_errno errno path).pathless ↔ errno ≠ ENODEV) ∧
        ((Legacy.classify_io_error (Legacy.io_from_errno errno)).pathless =
          (Legacy.classify_open_errno errno path).pathless ↔ errno ≠ ENODEV) := by
  refine ⟨?_, ?_, ?_⟩
  · exact everyStep_congr (J := fun _ => True) (fun _ _ _ _ _ => trivial)
      (fun s l _ _ _ => lossRetires_iff table s l) trivial labels
  · exact everyStep_of (J := fun _ => True) (fun _ _ _ _ _ => trivial)
      (fun _ _ _ _ _ _ he _ hf => retiredBy_iff table he hf) trivial labels
  · intro errno hmem path
    have hpipe : errno ≠ EPIPE := by
      rintro rfl
      exact absurd hmem (by decide)
    have hagrees := Via.classify_agrees_iff errno path
    rw [and_iff_left hpipe] at hagrees
    exact ⟨hagrees, hagrees⟩

end Runs

end Sys

/-! ## A board that is pulled out -/

/-- A node that answers a number of requests, each with the command and the byte 4, and then
is gone. -/
structure Pulled where
  answers : Nat
  request : List UInt8

instance : HidrawNode Pulled where
  now _ := 0
  write _ buf n :=
    if n.answers = 0 then (.ready (.error (.os ENODEV)), n)
    else (.ready (.ok buf.length), { n with request := buf })
  read _ n :=
    (.ready (.ok (n.request.getD 1 0 :: 4 :: List.replicate 30 0)),
      { n with answers := n.answers - 1 })

instance : FeatureNode Pulled where
  hidiocsfeature _ _ n := (.finished (.error ENODEV), n)
  hidiocgfeature _ _ n := (.finished (.error ENODEV), n)

/-- The transports of such a board. -/
abbrev PulledNode : Type :=
  DeviceNode (ViaTransport (Hal.Recorded Pulled)) (Gmk67Transport (Hal.Recorded Pulled)) ShadowFile

/-- The daemon without entries and without coalescing. -/
def pulledTable : DriverTable PulledNode (BoxedDriver.Recorded Pulled Pulled ShadowFile) :=
  build_driver_table none []

/-- The board answers the two requests of the attachment. -/
def pulledNode : PulledNode where
  now := 0
  open_transport := .ok (⟨⟨⟨2, []⟩, []⟩, "hidraw7", Via.DEFAULT_TIMEOUT, none⟩, "hidraw7")
  vendor := .error .disconnected
  disk := ⟨fun _ => none, fun _ => none, 0, fun _ => [], []⟩
  data_path := none

/-- The board is attached, pulled out, and asked for a keycode. -/
def pulledRun : List (Label PulledNode) :=
  [.enqueue (.deviceConnected "dev1" 0x05AC 0x024F "/dev/hidraw7"),
    .supervise HashOrder.sorted pulledNode,
    .enqueue (.getKeycode "dev1" 0 0 0 1),
    .supervise HashOrder.sorted pulledNode,
    .worker 0 .recv,
    .worker 0 (.finish HashOrder.sorted)]

/-- The write fails with `ENODEV`, and the worker goes on. -/
theorem nodev_keeps_worker :
    ¬ EveryStep (Sys.step pulledTable) (Sys.LossRetires pulledTable) Sys.start pulledRun := by
  intro h
  have hnoticed : EveryStep (Sys.step pulledTable) Sys.LossNoticed Sys.start pulledRun :=
    (everyStep_congr (J := fun _ => True) (fun _ _ _ _ _ => trivial)
      (fun s l _ _ _ => Sys.lossRetires_iff pulledTable s l) trivial pulledRun).1 h
  exact absurd hnoticed (by decide +kernel)

end Clackd.Engine
