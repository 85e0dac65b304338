import Clackd.Engine.Entries
import Clackd.Engine.Watched

/-!
# What drivers are called for

A driver that is watched from the moment its node is opened has every call of its
methods on record.  These are the two topology queries of the attach, and then one
call for each job that its worker has finished, in the order in which the worker
began them.  A job that was begun and not finished is the last: its call is still
running, or the driver panicked in it.

## Main results

* `Worker.move_jobs`: a move begins a job, finishes the one in hand, or does neither.
* `noted_step`: the calls on record are those of the jobs.
* `requests_sound`: over every run, the calls of a driver are made for requests, each
  at most once, by the worker registered for the device, in order, inside the
  reported matrix, and never for a request that the engine has answered with an error.
* `Orderly.commits`: the commits that a worker attempts are calls of `commit_to_nvram`.
-/

namespace Clackd.Engine

open Clackd.Foundation Clackd.Hal

/-! ## Calls and jobs -/

/-- Whether a call that names a key is inside a topology. -/
def DriverCall.inside (t : DeviceTopology) : DriverCall → Bool
  | .get_keycode layer row col => t.contains layer row col
  | .set_keycode layer row col _ => t.contains layer row col
  | _ => true

/-- The call that an operation asks for. -/
def WorkerOp.driver_call : WorkerOp → DriverCall
  | .getKeycode layer row col _ => .get_keycode layer row col
  | .setKeycode layer row col keycode _ => .set_keycode layer row col keycode
  | .commit _ => .commit_to_nvram
  | .getMacro offset length _ => .get_macro_buffer offset length
  | .setMacro offset data _ => .set_macro_buffer offset data
  | .getLighting channel value_id _ => .get_lighting channel value_id
  | .setLighting channel value_id data _ => .set_lighting channel value_id data

/-- The call of a job. -/
def Job.driver_call : Job → DriverCall
  | .op request => request.driver_call
  | .debounced => .commit_to_nvram
  | .final => .commit_to_nvram

/-- The request that a job carries out, if it is not a commit of the worker's own. -/
def Job.request : Job → Option WorkerOp
  | .op request => some request
  | _ => none

/-- The calls of an attach. -/
def attach_calls : List DriverCall := [.get_matrix_dimensions, .get_layer_count]

theorem inside_driver_call (t : DeviceTopology) (op : WorkerOp) :
    op.driver_call.inside t = op.admitted t := by
  cases op <;> rfl

theorem isCommit_iff (job : Job) : job.isCommit = true ↔ job.driver_call = .commit_to_nvram := by
  cases job with
  | op op => cases op <;> simp [Job.isCommit, Job.driver_call, WorkerOp.driver_call]
  | debounced => simp [Job.isCommit, Job.driver_call]
  | final => simp [Job.isCommit, Job.driver_call]

namespace Watched

variable {W D : Type} [KeyboardDriver D]

/-- A job is one call of the driver. -/
theorem perform_calls (turn : Turn) (x : Watched D) (job : Job) :
    (Worker.perform turn x job).driver.calls = x.calls ++ [job.driver_call] := by
  cases job with
  | op op => cases op <;> rfl
  | debounced => rfl
  | final => rfl

theorem perform_reported (turn : Turn) (x : Watched D) (job : Job) :
    (Worker.perform turn x job).driver.reported = x.reported := by
  cases job with
  | op op => exact call_reported turn x op
  | debounced => exact call_reported turn x (.commit 0)
  | final => exact call_reported turn x (.commit 0)

/-- What an attach opens from a watched table has had the calls of the attach. -/
theorem opens_watched {table : DriverTable W D} {driver : Watched D}
    (h : Supervisor.Opens table.watched driver) :
    driver.calls = attach_calls ∧ ∃ topology, driver.reported = some topology := by
  obtain ⟨turn, world, vendor_id, product_id, path, open_node, topology, hfactory, hopen⟩ := h
  obtain ⟨plain, rfl⟩ : ∃ plain : DriverFactory W D, open_node = factory plain := by
    rw [DriverTable.factory, Option.or_eq_some_iff] at hfactory
    rcases hfactory with hown | ⟨-, hfallback⟩
    · obtain ⟨plain, -, rfl⟩ := Option.map_eq_some_iff.1 hown
      exact ⟨plain, rfl⟩
    · obtain ⟨plain, -, rfl⟩ := Option.map_eq_some_iff.1 hfallback
      exact ⟨plain, rfl⟩
  unfold Supervisor.openDevice factory at hopen
  cases hplain : plain world path with
  | error err =>
      rw [hplain] at hopen
      cases hopen
  | ok fresh =>
      rw [hplain] at hopen
      obtain ⟨hreported, hcalls⟩ := probe_reported hopen
      exact ⟨hcalls, topology, hreported⟩

end Watched

/-! ## The jobs of a worker -/

/-- The job that a worker begins with an entry. -/
def Effect.beginsJob (w : WorkerId) : Effect → Option Job
  | .began w' job => if w' = w then some job else none
  | _ => none

/-- The job that a worker has done with an entry. -/
def Effect.endsJob (w : WorkerId) : Effect → Option Job
  | .called w' job _ => if w' = w then some job else none
  | _ => none

/-- The jobs a worker has begun, in order. -/
def begun (w : WorkerId) (log : List Effect) : List Job := log.filterMap (Effect.beginsJob w)

/-- The jobs a worker has finished, in order. -/
def finished (w : WorkerId) (log : List Effect) : List Job := log.filterMap (Effect.endsJob w)

theorem begun_ofWorker (w : WorkerId) (log : List Effect) :
    begun w (ofWorker w log) = begun w log := by
  rw [begun, ofWorker, List.filterMap_filter, begun]
  apply List.filterMap_congr
  intro e _
  cases e with
  | began w' job => simp [Effect.worker, Effect.beginsJob]
  | _ => simp [Effect.beginsJob]

theorem finished_ofWorker (w : WorkerId) (log : List Effect) :
    finished w (ofWorker w log) = finished w log := by
  rw [finished, ofWorker, List.filterMap_filter, finished]
  apply List.filterMap_congr
  intro e _
  cases e with
  | called w' job ok => simp [Effect.worker, Effect.endsJob]
  | _ => simp [Effect.endsJob]

/-- What a worker adds to the record, it adds to its jobs. -/
theorem jobs_append {w : WorkerId} {log log' es : List Effect}
    (h : ofWorker w log' = ofWorker w log ++ es) :
    begun w log' = begun w log ++ begun w es ∧
      finished w log' = finished w log ++ finished w es := by
  constructor
  · rw [← begun_ofWorker, h, begun, List.filterMap_append, ← begun, begun_ofWorker]
    rfl
  · rw [← finished_ofWorker, h, finished, List.filterMap_append, ← finished, finished_ofWorker]
    rfl

/-- What a worker has started on are the requests among its jobs. -/
theorem executed_eq (w : WorkerId) (log : List Effect) :
    executed w log = (begun w log).filterMap Job.request := by
  rw [executed, begun, List.filterMap_filterMap]
  apply List.filterMap_congr
  intro e _
  cases e with
  | began w' job =>
      by_cases hw : w' = w
      · cases job <;> simp [Effect.starts, Effect.beginsJob, Job.request, hw]
      · cases job <;> simp [Effect.starts, Effect.beginsJob, hw]
  | _ => rfl

theorem mem_begun {w : WorkerId} {log : List Effect} {job : Job} :
    job ∈ begun w log ↔ .began w job ∈ log := by
  simp only [begun, List.mem_filterMap]
  constructor
  · rintro ⟨e, he, hbegins⟩
    unfold Effect.beginsJob at hbegins
    split at hbegins
    · split at hbegins
      · rename_i hw
        cases hbegins
        rw [← hw]
        exact he
      · cases hbegins
    · cases hbegins
  · intro hmem
    exact ⟨_, hmem, if_pos rfl⟩

/-! ## A move of a worker -/

namespace Worker

variable {D : Type} [KeyboardDriver D]

/-- What a move does to the job in hand, the driver and the own entries. -/
inductive JobMove (w : WorkerId) (now : Nat) (x : Worker D) (r : Worker D × List Effect) : Prop
  | begins (job : Job) (idle : x.phase = .idle) (phase : r.1.phase = .running job)
      (driver : r.1.driver = x.driver) (entries : ofWorker w r.2 = [.began w job])
  | finishes (order : HashOrder) (job : Job) (ok : Bool) (hand : x.phase = .running job)
      (phase : ∀ other, r.1.phase ≠ .running other)
      (driver : r.1.driver = (perform ⟨now, order⟩ x.driver job).driver)
      (entries : ofWorker w r.2 = [.called w job ok])
  | neither (driver : r.1.driver = x.driver) (entries : ofWorker w r.2 = [])
      (phase : r.1.phase = .gone ∨ x.phase = .reporting ∧ r.1.phase = .reported)

/-- The end of a driver call puts it on record, and there is no job in hand after
it. -/
theorem finish_ends {w : WorkerId} {turn : Turn} {x : Worker D} {r : Worker D × List Effect}
    (h : finish w turn x = some r) : (∃ job ok, Effect.called w job ok ∈ r.2) ∧
      ∀ other, r.1.phase ≠ .running other := by
  obtain ⟨op, -, rfl⟩ | ⟨-, rfl⟩ | ⟨-, rfl⟩ := finish_cases h
  · refine ⟨⟨.op op, _, List.mem_cons_self⟩, ?_⟩
    intro other
    rw [finishOp_phase]
    split <;> nofun
  · refine ⟨⟨.debounced, _, List.mem_cons_self⟩, ?_⟩
    intro other
    show (if _ then _ else _) ≠ _
    split <;> nofun
  · exact ⟨⟨.final, _, List.mem_cons_self⟩, nofun⟩

theorem move_jobs {w : WorkerId} {senders : Bool} {now : Nat} {x : Worker D} {m : WorkerMove}
    {r : Worker D × List Effect} (h : x.move w senders now m = some r) : JobMove w now x r := by
  have hbegan : ∀ job, ofWorker w [.began w job] = [.began w job] := by
    intro job
    simp [ofWorker, Effect.worker]
  cases m with
  | recv =>
      obtain ⟨hidle, ⟨op, rest, -, rfl⟩ | ⟨-, -, -, rfl⟩ | ⟨-, -, -, rfl⟩⟩ := recv_cases h
      · exact .begins (.op op) hidle rfl rfl (hbegan _)
      · exact .begins .final hidle rfl rfl (hbegan _)
      · exact .neither rfl rfl (.inl rfl)
  | debounce =>
      obtain ⟨hidle, -, rfl⟩ := debounce_cases h
      exact .begins .debounced hidle rfl rfl (hbegan _)
  | finish order =>
      obtain ⟨⟨called, ok, hcalled⟩, hphase⟩ := finish_ends h
      obtain ⟨-, ⟨-, hstarts⟩ | ⟨order', job, hm, hhand, hdriver, hentries⟩⟩ := move_driver h
      · obtain ⟨job, hcon⟩ := hstarts (.called w called ok)
          (List.mem_filter.2 ⟨hcalled, by simp [Effect.worker]⟩)
        cases hcon
      · exact .finishes order' job _ hhand hphase hdriver hentries
  | report =>
      obtain ⟨x', hx', rfl⟩ := Option.map_eq_some_iff.1 h
      obtain ⟨hreporting, rfl⟩ := reportDone_cases hx'
      exact .neither rfl rfl (.inr ⟨hreporting, rfl⟩)
  | exit =>
      obtain ⟨x', hx', rfl⟩ := Option.map_eq_some_iff.1 h
      obtain ⟨hreported, rfl⟩ := exitTask_cases hx'
      exact .neither rfl rfl (.inl rfl)
  | panic =>
      obtain ⟨x', hx', rfl⟩ := Option.map_eq_some_iff.1 h
      obtain ⟨⟨job, hrunning⟩, rfl⟩ := panicked_cases hx'
      exact .neither rfl rfl (.inl rfl)

end Worker

/-! ## The calls of every driver -/

/-- What a worker has begun, by where it is in its loop: what it has finished, and
the job in hand. -/
def InHand (phase : WorkerPhase) (begun finished : List Job) : Prop :=
  match phase with
  | .running job => begun = finished ++ [job]
  | .gone => begun = finished ∨ ∃ job, begun = finished ++ [job]
  | _ => begun = finished

theorem InHand.cases {phase : WorkerPhase} {begun finished : List Job}
    (h : InHand phase begun finished) :
    begun = finished ∨ ∃ job, begun = finished ++ [job] := by
  cases phase with
  | running job => exact .inr ⟨job, h⟩
  | gone => exact h
  | _ => exact .inl h

/-- The driver of a worker has been asked for its topology and reported it, and it
has been called for the jobs that the worker finished. -/
structure Noted {D : Type} (w : WorkerId) (log : List Effect) (x : Worker (Watched D)) : Prop where
  reported : ∃ topology, x.driver.reported = some topology
  calls : x.driver.calls = attach_calls ++ (finished w log).map Job.driver_call
  hand : InHand x.phase (begun w log) (finished w log)

/-- Neither the driver's notes nor the jobs of its worker change. -/
theorem Noted.kept {D : Type} {w : WorkerId} {log log' : List Effect} {x x' : Worker (Watched D)}
    (h : Noted w log x) (hreported : x'.driver.reported = x.driver.reported)
    (hcalls : x'.driver.calls = x.driver.calls) (hphase : x'.phase = x.phase)
    (hbegun : begun w log' = begun w log) (hfinished : finished w log' = finished w log) :
    Noted w log' x' where
  reported := by
    rw [hreported]
    exact h.reported
  calls := by
    rw [hcalls, hfinished]
    exact h.calls
  hand := by
    rw [hphase, hbegun, hfinished]
    exact h.hand

theorem Noted.moved {D : Type} [KeyboardDriver D] {w : WorkerId} {now : Nat}
    {log log' : List Effect} {x : Worker (Watched D)} {r : Worker (Watched D) × List Effect}
    (h : Noted w log x) (hmove : x.JobMove w now r)
    (hlog : ofWorker w log' = ofWorker w log ++ ofWorker w r.2) : Noted w log' r.1 := by
  obtain ⟨hbegun, hfinished⟩ := jobs_append hlog
  have hhand := h.hand
  cases hmove with
  | begins job idle phase driver entries =>
      rw [entries] at hbegun hfinished
      have hone : begun w [.began w job] = [job] := by simp [begun, Effect.beginsJob]
      rw [hone] at hbegun
      rw [show finished w [.began w job] = [] from rfl, List.append_nil] at hfinished
      rw [idle] at hhand
      refine ⟨by rw [driver]; exact h.reported, by rw [driver, hfinished]; exact h.calls, ?_⟩
      rw [phase, hbegun, hfinished]
      exact congrArg (· ++ [job]) hhand
  | finishes order job ok hand phase driver entries =>
      rw [entries] at hbegun hfinished
      have hone : finished w [.called w job ok] = [job] := by simp [finished, Effect.endsJob]
      rw [hone] at hfinished
      rw [show begun w [.called w job ok] = [] from rfl, List.append_nil] at hbegun
      rw [hand] at hhand
      have hall : begun w log' = finished w log' := by
        rw [hbegun, hfinished]
        exact hhand
      refine ⟨?_, ?_, ?_⟩
      · rw [driver, Watched.perform_reported]
        exact h.reported
      · rw [driver, Watched.perform_calls, hfinished, h.calls, List.map_append, List.append_assoc]
        rfl
      · cases hphase : r.1.phase with
        | running other => exact absurd hphase (phase other)
        | gone => exact .inl hall
        | _ => exact hall
  | neither driver entries phase =>
      rw [entries] at hlog
      obtain ⟨hbegun, hfinished⟩ := jobs_append hlog
      rw [show begun w [] = [] from rfl, List.append_nil] at hbegun
      rw [show finished w [] = [] from rfl, List.append_nil] at hfinished
      refine ⟨by rw [driver]; exact h.reported, by rw [driver, hfinished]; exact h.calls, ?_⟩
      rw [hbegun, hfinished]
      rcases phase with hgone | ⟨hreporting, hreported⟩
      · rw [hgone]
        exact hhand.cases
      · rw [hreporting] at hhand
        rw [hreported]
        exact hhand

namespace Sys

section Noted

variable {W D : Type} [KeyboardDriver D] [BackgroundTasks D]

/-- Every driver is noted, and who is not there yet has done nothing. -/
structure AllNoted (s : Sys (Watched D)) : Prop where
  noted : ∀ (w : WorkerId) (x : Worker (Watched D)), s.sup.workers[w]? = some x →
    Noted w s.sup.log x
  absent : ∀ w : WorkerId, s.sup.workers[w]? = none →
    begun w s.sup.log = [] ∧ finished w s.sup.log = []

omit [KeyboardDriver D] [BackgroundTasks D] in
theorem allNoted_start : (start : Sys (Watched D)).AllNoted where
  noted := by
    intro w x hx
    cases hx
  absent := fun _ _ => ⟨rfl, rfl⟩

theorem noted_step {table : DriverTable W D} {s s' : Sys (Watched D)} {l : Label W}
    (h : s.AllNoted) (hstep : s.step table.watched l = some s') : s'.AllNoted := by
  -- Nothing about the jobs of the worker is recorded.
  have hquiet : ∀ {w : WorkerId} {es : List Effect}, begun w es = [] → finished w es = [] →
      ofWorker w s'.sup.log = ofWorker w s.sup.log ++ es →
        begun w s'.sup.log = begun w s.sup.log ∧ finished w s'.sup.log = finished w s.sup.log := by
    intro w es hbegun hfinished hlog
    obtain ⟨hb, hf⟩ := jobs_append hlog
    rw [hb, hf, hbegun, hfinished, List.append_nil, List.append_nil]
    exact ⟨rfl, rfl⟩
  have hsame : ∀ {w : WorkerId}, ofWorker w s'.sup.log = ofWorker w s.sup.log →
      begun w s'.sup.log = begun w s.sup.log ∧ finished w s'.sup.log = finished w s.sup.log :=
    fun hlog => hquiet rfl rfl (hlog.trans (List.append_nil _).symm)
  constructor
  · intro w y hy
    cases at_step hstep w with
    | absent before after log =>
        rw [after] at hy
        cases hy
    | spawned id driver before after opened log =>
        rw [after] at hy
        obtain rfl := Option.some.inj hy
        obtain ⟨hcalls, hreported⟩ := Watched.opens_watched opened
        obtain ⟨hbegun, hfinished⟩ := h.absent w before
        obtain ⟨hb, hf⟩ := hsame log
        refine ⟨hreported, ?_, ?_⟩
        · rw [hf, hfinished]
          exact hcalls
        · rw [hb, hf, hbegun, hfinished]
          rfl
    | kept x rx before after log =>
        rw [after] at hy
        obtain rfl := Option.some.inj hy
        obtain ⟨hb, hf⟩ := hsame log
        exact (h.noted w x before).kept rfl rfl rfl hb hf
    | moved x m r label before move after log =>
        rw [after] at hy
        obtain rfl := Option.some.inj hy
        exact (h.noted w x before).moved (Worker.move_jobs move) log
    | woke x driver order wakeup label before wake after log =>
        rw [after] at hy
        obtain rfl := Option.some.inj hy
        obtain ⟨hreported, hcalls⟩ := Watched.wake_kept wake
        obtain ⟨hb, hf⟩ := hquiet rfl rfl log
        exact (h.noted w x before).kept hreported hcalls rfl hb hf
  · intro w hnone
    cases at_step hstep w with
    | absent before after log =>
        obtain ⟨hbegun, hfinished⟩ := h.absent w before
        obtain ⟨hb, hf⟩ := hsame log
        exact ⟨hb.trans hbegun, hf.trans hfinished⟩
    | spawned id driver before after opened log =>
        rw [after] at hnone
        cases hnone
    | kept x rx before after log =>
        rw [after] at hnone
        cases hnone
    | moved x m r label before move after log =>
        rw [after] at hnone
        cases hnone
    | woke x driver order wakeup label before wake after log =>
        rw [after] at hnone
        cases hnone

end Noted

/-! ## Runs -/

section Runs

variable {W D : Type}

/-- What holds of the requests, in terms of the record and the calls that the watched
drivers had. -/
structure Orderly (s : Sys (Watched D)) : Prop where
  /-- The registered workers of the record are those of the registry. -/
  recorded : s.status = .running → registeredAfter s.sup.log = txs s.sup.registry.devices
  /-- A driver was called for its topology, and then once for each job that its worker
  has finished, in order; of the jobs a worker has begun all are finished, or all but the
  last. -/
  called : ∀ (w : WorkerId) (x : Worker (Watched D)), s.sup.workers[w]? = some x →
    x.driver.calls = attach_calls ++ (finished w s.sup.log).map Job.driver_call ∧
      (begun w s.sup.log = finished w s.sup.log ∨
        ∃ job, begun w s.sup.log = finished w s.sup.log ++ [job])
  /-- No request is begun twice, be it by different workers. -/
  once : ∀ reply, s.sup.log.countP (Effect.executes reply) ≤ 1
  /-- The requests a worker begins were dequeued while it was registered for their
  device, and it begins them in the order they were dequeued. -/
  ordered : ∀ w, ((begun w s.sup.log).filterMap Job.request).Sublist (assignedTo w s.sup.log)
  /-- What is answered with an error of the engine is not begun. -/
  refused : ∀ reply r, Effect.replied reply r ∈ s.sup.log → r.isRefusal = true →
    ∀ w op, .op op ∈ begun w s.sup.log → op.reply ≠ reply
  /-- A driver has reported a topology, and every call it had or is having is inside. -/
  inside : ∀ (w : WorkerId) (x : Worker (Watched D)), s.sup.workers[w]? = some x →
    ∃ topology, x.driver.reported = some topology ∧
      (∀ call ∈ x.driver.calls, call.inside topology = true) ∧
        ∀ job ∈ begun w s.sup.log, job.driver_call.inside topology = true

/-- What a worker has begun is inside what its driver reported. -/
theorem Checked.begun_inside {s : Sys (Watched D)} (h : s.Checked) {w : WorkerId}
    {x : Worker (Watched D)} (hx : s.sup.workers[w]? = some x) {topology : DeviceTopology}
    (hreported : x.driver.reported = some topology) :
    ∀ job ∈ begun w s.sup.log, job.driver_call.inside topology = true := by
  intro job hjob
  cases job with
  | op op =>
      have hexecuted : op ∈ executed w s.sup.log := by
        rw [executed_eq]
        exact List.mem_filterMap.2 ⟨.op op, hjob, rfl⟩
      obtain ⟨topology', hreported', hadmitted⟩ := h.given w x hx op
        (List.mem_append_left _ hexecuted)
      rw [hreported] at hreported'
      obtain rfl := Option.some.inj hreported'
      exact (inside_driver_call topology op).trans hadmitted
  | debounced => rfl
  | final => rfl

theorem orderly_of {s : Sys (Watched D)} (hlinear : s.Linear) (hinOrder : s.InOrder)
    (hchecked : s.Checked) (hnoted : s.AllNoted) : s.Orderly where
  recorded := hinOrder.registered
  called := fun w x hx => ⟨(hnoted.noted w x hx).calls, (hnoted.noted w x hx).hand.cases⟩
  once := by
    intro reply
    have honce := hlinear.once reply
    unfold held at honce
    omega
  ordered := by
    intro w
    rw [← executed_eq]
    cases hx : s.sup.workers[w]? with
    | none =>
        rw [hinOrder.absent w hx]
        exact List.nil_sublist _
    | some x => exact (List.sublist_append_left _ _).trans (hinOrder.queued w x hx)
  refused := by
    intro reply r hreplied hrefusal w op hbegan hreply
    have hexecutes : 0 < s.sup.log.countP (Effect.executes reply) := by
      rw [List.countP_pos_iff]
      exact ⟨_, mem_begun.1 hbegan, by simp [Effect.executes, hreply]⟩
    have hrefuses : 0 < s.sup.log.countP (Effect.refuses reply) := by
      rw [List.countP_pos_iff]
      exact ⟨_, hreplied, by simp [Effect.refuses, hrefusal]⟩
    have honce := hlinear.once reply
    unfold held at honce
    omega
  inside := by
    intro w x hx
    obtain ⟨⟨topology, hreported⟩, hcalls, hhand⟩ := hnoted.noted w x hx
    have hbegun := hchecked.begun_inside hx hreported
    refine ⟨topology, hreported, ?_, hbegun⟩
    intro call hcall
    rw [hcalls] at hcall
    rcases List.mem_append.1 hcall with hattach | hmade
    · rcases List.mem_pair.1 hattach with rfl | rfl <;> rfl
    · obtain ⟨job, hjob, rfl⟩ := List.mem_map.1 hmade
      apply hbegun
      rcases hhand.cases with hall | ⟨last, hall⟩
      · rw [hall]
        exact hjob
      · rw [hall]
        exact List.mem_append_left _ hjob

/-- What a worker attempts is begun with an attempt on record. -/
theorem countP_begun (w : WorkerId) (log : List Effect) :
    (begun w log).countP Job.isCommit = (ofWorker w log).countP Effect.isAttempt := by
  rw [begun, ofWorker, List.countP_filterMap, List.countP_filter]
  apply List.countP_congr
  intro e _
  cases e with
  | began w' job =>
      by_cases hw : w' = w <;> simp [Effect.beginsJob, Effect.worker, Effect.isAttempt, hw]
  | _ => simp [Effect.beginsJob, Effect.isAttempt]

/-- The commits that a worker attempts are calls of `commit_to_nvram`, but for one that is
still running or in which the driver panicked. -/
theorem Orderly.commits {s : Sys (Watched D)} (h : s.Orderly) {w : WorkerId}
    {x : Worker (Watched D)} (hx : s.sup.workers[w]? = some x) :
    x.driver.calls.count .commit_to_nvram ≤ (ofWorker w s.sup.log).countP Effect.isAttempt ∧
      (ofWorker w s.sup.log).countP Effect.isAttempt ≤
        x.driver.calls.count .commit_to_nvram + 1 := by
  obtain ⟨hcalls, hhand⟩ := h.called w x hx
  have hcount : x.driver.calls.count .commit_to_nvram =
      (finished w s.sup.log).countP Job.isCommit := by
    rw [hcalls, List.count_append, List.count_eq_countP, List.count_eq_countP, List.countP_map]
    have hattach : attach_calls.countP (· == .commit_to_nvram) = 0 := by decide
    rw [hattach, Nat.zero_add]
    apply List.countP_congr
    intro job _
    rw [isCommit_iff]
    simp
  rw [hcount, ← countP_begun]
  rcases hhand with hall | ⟨job, hall⟩
  · rw [hall]
    omega
  · rw [hall, List.countP_append, List.countP_singleton]
    split <;> omega

/-- For every table of drivers, and every interleaving of requests with attach,
detach, failures and reattach: in every state, the calls that a driver had are, after
its topology queries, one for each job that its worker finished.  A request is begun
at most once, only by the worker registered for its device when it was dequeued, and in
the order in which that worker's requests were dequeued; a request answered with
`DeviceNotFound` or `DbusRouting` is never begun; and every call of a keycode method
lies inside the matrix and layer count that the driver reported. -/
theorem requests_sound [KeyboardDriver D] [BackgroundTasks D] (table : DriverTable W D)
    (ls : List (Label W)) : Always (step table.watched) Orderly start ls := by
  refine always_of_preserves (I := fun s => s.Linear ∧ s.InOrder ∧ s.Checked ∧ s.AllNoted) ?_ ?_
    ⟨linear_start, inOrder_start, checked_start, allNoted_start⟩ ls
  · rintro s l s' ⟨hlinear, hinOrder, hchecked, hnoted⟩ hstep
    exact ⟨linear_step hlinear hstep, in_order_step hinOrder hstep,
      checked_step hchecked hinOrder hstep, noted_step hnoted hstep⟩
  · rintro s ⟨hlinear, hinOrder, hchecked, hnoted⟩
    exact orderly_of hlinear hinOrder hchecked hnoted

end Runs

end Sys

end Clackd.Engine
