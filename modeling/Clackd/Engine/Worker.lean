import Clackd.Engine.Messages

/-!
# The device worker

`run_device_worker` owns a driver, the receiving end of a command channel and
the deadline of the debounced commit.  Its loop is cut at the awaits: a worker
is idle at the head of its `select!`, running a driver call, handing its failure
report to the engine channel, or gone.  Each move is a function of the worker
alone; who else can send on its channel is passed in.

The `select!` is biased: while an operation is queued or the channel is closed,
the debounce branch is not taken.
-/

namespace Clackd.Engine

open Clackd.Foundation Clackd.Hal

/-- Debounce window for the legacy compile-and-push, in milliseconds. -/
def LEGACY_COMMIT_DEBOUNCE : Nat := 500

/-- Where a worker is in its loop. -/
inductive WorkerPhase where
  /-- At the head of the loop. -/
  | idle
  /-- Awaiting a driver call. -/
  | running (job : Job)
  /-- Awaiting a free slot of the engine channel for its `DeviceError`. -/
  | reporting
  /-- Done with the report, its receiver not dropped yet. -/
  | reported
  /-- Returned or panicked: its receiver and driver are dropped. -/
  | gone
  deriving DecidableEq, Repr

/-- A per-device worker task. -/
structure Worker (D : Type) where
  device_id : String
  driver : D
  rx : List WorkerOp
  commit_deadline : Option Nat
  phase : WorkerPhase

/-- How a driver call ended. -/
structure Outcome (D : Type) where
  driver : D
  reply : Reply
  ok : Bool
  fatal : Bool

namespace Worker

variable {D : Type}

/-- A worker as it is spawned. -/
def spawn (device_id : String) (driver : D) : Worker D where
  device_id := device_id
  driver := driver
  rx := []
  commit_deadline := none
  phase := .idle

/-- Return from the task. -/
def leave (x : Worker D) : Worker D :=
  { x with rx := [], commit_deadline := none, phase := .gone }

/-- The outcome of a driver call, `map_err(DaemonError::from)` included. -/
def outcome {α : Type} (wrap : Except DaemonError α → Reply) (r : Except DriverError α × D) :
    Outcome D :=
  let result := r.1.mapError DaemonError.driver
  { driver := r.2
    reply := wrap result
    ok := result.isOk
    fatal := is_fatal_driver_error result }

section Calls

variable [KeyboardDriver D]

/-- The `commit_to_nvram` call. -/
def commit (turn : Turn) (driver : D) : Outcome D :=
  outcome .done (exec (KeyboardDriver.commit_to_nvram turn) driver)

/-- The driver call of an operation. -/
def call (turn : Turn) (driver : D) : WorkerOp → Outcome D
  | .getKeycode layer row col _ =>
      outcome .keycode (exec (KeyboardDriver.get_keycode turn layer row col) driver)
  | .setKeycode layer row col keycode _ =>
      outcome .done (exec (KeyboardDriver.set_keycode turn layer row col keycode) driver)
  | .commit _ => commit turn driver
  | .getMacro offset length _ =>
      outcome .bytes (exec (KeyboardDriver.get_macro_buffer turn offset length) driver)
  | .setMacro offset data _ =>
      outcome .done (exec (KeyboardDriver.set_macro_buffer turn offset data) driver)
  | .getLighting channel value_id _ =>
      outcome .bytes (exec (KeyboardDriver.get_lighting turn channel value_id) driver)
  | .setLighting channel value_id data _ =>
      outcome .done (exec (KeyboardDriver.set_lighting turn channel value_id data) driver)

/-- The driver call of a job. -/
def perform (turn : Turn) (driver : D) : Job → Outcome D
  | .op op => call turn driver op
  | .debounced => commit turn driver
  | .final => commit turn driver

/-- The worker after a driver call: a fatal result sends it to its report. -/
def after (o : Outcome D) (x : Worker D) : Worker D :=
  { x with driver := o.driver, phase := if o.fatal then .reporting else .idle }

/-- The `LayoutUpdated` event of a worker's device. -/
def announce (x : Worker D) : Effect := .lifecycle (.layoutUpdated x.device_id)

/-- What follows the reply: a `SetKeycode` that succeeded announces the layout
or arms the debounce, a `Commit` that succeeded announces the layout. -/
def aftermath (turn : Turn) (op : WorkerOp) (ok : Bool) (x : Worker D) :
    Worker D × List Effect :=
  match op with
  | .setKeycode _ _ _ _ _ =>
      if ok then
        if KeyboardDriver.emits_layout_event_per_set x.driver then (x, [announce x])
        else ({ x with commit_deadline := some (turn.now + LEGACY_COMMIT_DEBOUNCE) }, [])
      else
        (x, [])
  | .commit _ => (x, if ok then [announce x] else [])
  | _ => (x, [])

/-- The rest of an operation's arm: the driver call, the reply, and what
follows from it. -/
def finishOp (w : WorkerId) (turn : Turn) (op : WorkerOp) (x : Worker D) :
    Worker D × List Effect :=
  let o := call turn x.driver op
  let r := aftermath turn op o.ok (after o x)
  (r.1, .called w (.op op) o.ok :: .replied op.reply o.reply :: r.2)

/-- The rest of the debounce branch. -/
def finishDebounced (w : WorkerId) (turn : Turn) (x : Worker D) : Worker D × List Effect :=
  let o := commit turn x.driver
  (after o x, .called w .debounced o.ok :: if o.ok then [announce x] else [])

/-- The rest of the exit on a closed channel: the final flush, whose error is
logged only. -/
def finishFinal (w : WorkerId) (turn : Turn) (x : Worker D) : Worker D × List Effect :=
  let o := commit turn x.driver
  ({ x with driver := o.driver }.leave, [.called w .final o.ok])

/-- The end of a driver call. -/
def finish (w : WorkerId) (turn : Turn) (x : Worker D) : Option (Worker D × List Effect) :=
  match x.phase with
  | .running (.op op) => some (finishOp w turn op x)
  | .running .debounced => some (finishDebounced w turn x)
  | .running .final => some (finishFinal w turn x)
  | _ => none

end Calls

/-- Start a job.  A commit disarms the deadline before the driver is called. -/
def start (w : WorkerId) (job : Job) (x : Worker D) : Worker D × List Effect :=
  ({ x with
      commit_deadline := if job.isCommit then none else x.commit_deadline
      phase := .running job }, [.began w job])

/-- `rx.recv()`: the next operation or, once nobody can send any more, the
exit, with a final flush if a debounced commit is pending. -/
def recv (w : WorkerId) (senders : Bool) (x : Worker D) : Option (Worker D × List Effect) :=
  if x.phase = .idle then
    match x.rx with
    | op :: rest => some (start w (.op op) { x with rx := rest })
    | [] =>
        if senders then none
        else if x.commit_deadline.isSome then some (start w .final x)
        else some (x.leave, [])
  else
    none

/-- The expiry of the debounce deadline. -/
def debounce (w : WorkerId) (senders : Bool) (now : Nat) (x : Worker D) :
    Option (Worker D × List Effect) :=
  if x.phase = .idle ∧ x.rx = [] ∧ senders = true ∧ x.commit_deadline.any (· ≤ now) then
    some (start w .debounced x)
  else
    none

/-- A panic inside a driver call. -/
def panicked (x : Worker D) : Option (Worker D) :=
  match x.phase with
  | .running _ => some x.leave
  | _ => none

/-- The `DeviceError` is on the engine channel, or the channel is closed. -/
def reportDone (x : Worker D) : Option (Worker D) :=
  if x.phase = .reporting then some { x with phase := .reported } else none

/-- The return after the report. -/
def exitTask (x : Worker D) : Option (Worker D) :=
  if x.phase = .reported then some x.leave else none

/-! ## What a move leaves -/

@[simp] theorem leave_device_id (x : Worker D) : x.leave.device_id = x.device_id := rfl
@[simp] theorem leave_driver (x : Worker D) : x.leave.driver = x.driver := rfl
@[simp] theorem leave_phase (x : Worker D) : x.leave.phase = .gone := rfl
@[simp] theorem leave_commit_deadline (x : Worker D) : x.leave.commit_deadline = none := rfl

/-- What every move of a worker has in common: it keeps its device, it was not
gone, and nothing the registry announces is emitted. -/
structure Moves (x x' : Worker D) (effects : List Effect) : Prop where
  device_id : x'.device_id = x.device_id
  live : x.phase ≠ .gone
  quiet : ∀ e ∈ effects, e.isQuiet = true

theorem start_moves (w : WorkerId) (job : Job) {x y : Worker D}
    (hdevice : y.device_id = x.device_id) (hlive : x.phase ≠ .gone) :
    Moves x (start w job y).1 (start w job y).2 where
  device_id := hdevice
  live := hlive
  quiet := by
    intro e he
    rw [List.mem_singleton.1 he]
    rfl

/-- What `rx.recv()` can lead to. -/
theorem recv_cases {w : WorkerId} {senders : Bool} {x : Worker D} {r : Worker D × List Effect}
    (h : recv w senders x = some r) : x.phase = .idle ∧
      ((∃ op rest, x.rx = op :: rest ∧ r = start w (.op op) { x with rx := rest }) ∨
        (x.rx = [] ∧ senders = false ∧ x.commit_deadline.isSome ∧ r = start w .final x) ∨
          (x.rx = [] ∧ senders = false ∧ x.commit_deadline = none ∧ r = (x.leave, []))) := by
  unfold recv at h
  split at h
  · rename_i hidle
    refine ⟨hidle, ?_⟩
    split at h
    · rename_i op rest hrx
      cases h
      exact .inl ⟨op, rest, hrx, rfl⟩
    · rename_i hrx
      right
      split at h
      · cases h
      · rename_i hsenders
        split at h
        · rename_i hdeadline
          cases h
          exact .inl ⟨hrx, by simpa using hsenders, hdeadline, rfl⟩
        · rename_i hdeadline
          cases h
          exact .inr ⟨hrx, by simpa using hsenders, by simpa using hdeadline, rfl⟩
  · cases h

/-- What the expiry of the deadline finds, and starts. -/
theorem debounce_cases {w : WorkerId} {senders : Bool} {now : Nat} {x : Worker D}
    {r : Worker D × List Effect} (h : debounce w senders now x = some r) :
    x.phase = .idle ∧ x.commit_deadline.any (· ≤ now) = true ∧ r = start w .debounced x := by
  rw [debounce] at h
  split at h
  · rename_i hready
    cases h
    exact ⟨hready.1, hready.2.2.2, rfl⟩
  · cases h

theorem panicked_cases {x x' : Worker D} (h : x.panicked = some x') :
    (∃ job, x.phase = .running job) ∧ x' = x.leave := by
  rw [panicked] at h
  split at h
  · rename_i job hphase
    cases h
    exact ⟨⟨job, hphase⟩, rfl⟩
  · cases h

theorem reportDone_cases {x x' : Worker D} (h : x.reportDone = some x') :
    x.phase = .reporting ∧ x' = { x with phase := .reported } := by
  rw [reportDone] at h
  split at h
  · rename_i hphase
    cases h
    exact ⟨hphase, rfl⟩
  · cases h

theorem exitTask_cases {x x' : Worker D} (h : x.exitTask = some x') :
    x.phase = .reported ∧ x' = x.leave := by
  rw [exitTask] at h
  split at h
  · rename_i hphase
    cases h
    exact ⟨hphase, rfl⟩
  · cases h

theorem recv_moves {w : WorkerId} {senders : Bool} {x : Worker D} {r : Worker D × List Effect}
    (h : recv w senders x = some r) : Moves x r.1 r.2 := by
  obtain ⟨hidle, hcases⟩ := recv_cases h
  have hlive : x.phase ≠ .gone := by simp [hidle]
  rcases hcases with ⟨op, rest, -, rfl⟩ | ⟨-, -, -, rfl⟩ | ⟨-, -, -, rfl⟩
  · exact start_moves w _ rfl hlive
  · exact start_moves w _ rfl hlive
  · exact ⟨rfl, hlive, by simp⟩

theorem debounce_moves {w : WorkerId} {senders : Bool} {now : Nat} {x : Worker D}
    {r : Worker D × List Effect} (h : debounce w senders now x = some r) : Moves x r.1 r.2 := by
  obtain ⟨hidle, -, rfl⟩ := debounce_cases h
  exact start_moves w _ rfl (by simp [hidle])

section Finish

variable [KeyboardDriver D]

/-- What follows a reply moves the deadline at most, and announces the layout at
most. -/
theorem aftermath_cases (turn : Turn) (op : WorkerOp) (ok : Bool) (x : Worker D) :
    ∃ deadline, (aftermath turn op ok x).1 = { x with commit_deadline := deadline } ∧
      ∀ e ∈ (aftermath turn op ok x).2, e = announce x := by
  unfold aftermath
  split
  · split
    · split
      · exact ⟨x.commit_deadline, rfl, by simp⟩
      · exact ⟨_, rfl, by simp⟩
    · exact ⟨x.commit_deadline, rfl, by simp⟩
  · refine ⟨x.commit_deadline, rfl, ?_⟩
    split <;> simp
  · exact ⟨x.commit_deadline, rfl, by simp⟩

theorem aftermath_driver (turn : Turn) (op : WorkerOp) (ok : Bool) (x : Worker D) :
    (aftermath turn op ok x).1.driver = x.driver := by
  obtain ⟨deadline, h, -⟩ := aftermath_cases turn op ok x
  rw [h]

theorem finishOp_phase (w : WorkerId) (turn : Turn) (op : WorkerOp) (x : Worker D) :
    (finishOp w turn op x).1.phase =
      if (call turn x.driver op).fatal then .reporting else .idle := by
  obtain ⟨deadline, h, -⟩ := aftermath_cases turn op (call turn x.driver op).ok
    (after (call turn x.driver op) x)
  exact congrArg Worker.phase h

/-- What the end of a driver call can be. -/
theorem finish_cases {w : WorkerId} {turn : Turn} {x : Worker D} {r : Worker D × List Effect}
    (h : finish w turn x = some r) :
    (∃ op, x.phase = .running (.op op) ∧ r = finishOp w turn op x) ∨
      (x.phase = .running .debounced ∧ r = finishDebounced w turn x) ∨
        (x.phase = .running .final ∧ r = finishFinal w turn x) := by
  unfold finish at h
  split at h
  · rename_i op hphase
    cases h
    exact .inl ⟨op, hphase, rfl⟩
  · rename_i hphase
    cases h
    exact .inr (.inl ⟨hphase, rfl⟩)
  · rename_i hphase
    cases h
    exact .inr (.inr ⟨hphase, rfl⟩)
  · cases h

theorem finish_moves {w : WorkerId} {turn : Turn} {x : Worker D} {r : Worker D × List Effect}
    (h : finish w turn x = some r) : Moves x r.1 r.2 := by
  obtain ⟨op, hphase, rfl⟩ | ⟨hphase, rfl⟩ | ⟨hphase, rfl⟩ := finish_cases h
  · obtain ⟨deadline, hmoved, hannounced⟩ := aftermath_cases turn op (call turn x.driver op).ok
      (after (call turn x.driver op) x)
    refine ⟨(congrArg Worker.device_id hmoved :), by rw [hphase]; nofun, ?_⟩
    intro e he
    rcases List.mem_cons.1 he with rfl | he
    · rfl
    rcases List.mem_cons.1 he with rfl | he
    · rfl
    rw [hannounced e he]
    rfl
  · refine ⟨rfl, by rw [hphase]; nofun, ?_⟩
    simp only [finishDebounced]
    split <;> simp [announce, Effect.isQuiet]
  · refine ⟨rfl, by rw [hphase]; nofun, ?_⟩
    simp [finishFinal, Effect.isQuiet]

end Finish

end Worker

end Clackd.Engine
