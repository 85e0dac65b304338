import Clackd.Engine.PartStep
import Clackd.Engine.Progress

/-!
# Devices do not interfere

Deleting from a run everything that concerns other devices leaves a run, in which the
device fares as before: it is registered and reconnecting at the same moments, the
events about it, the answers to its requests and the calls of its driver are the same.
Only the numbers differ, those of workers, tasks and tokens, because the other devices
are not counted any more.

## Main results

* `filed_run`: along a run everything stays filed under its device.
* `devices_isolated`: the run that is left, and what the device sees of it.
-/

namespace Clackd.Engine

open Clackd.Foundation Clackd.Hal
open Std (ExtTreeMap)

namespace Sys

variable {W D : Type} {owner : ReplyId → Option String} {f : Supervisor D} {b : String}
  {s s' : Sys D}

/-! ## Commands and their reply channels -/

/-- The commands from outside, in order. -/
def enqueued (ls : List (Label W)) : List EngineCommand :=
  ls.filterMap fun l =>
    match l with
    | .enqueue cmd => some cmd
    | _ => none

/-- The device that the request on a reply channel is about: the channels are numbered
in the order of the commands. -/
def requested (ls : List (Label W)) (reply : ReplyId) : Option String :=
  (enqueued ls)[reply]?.bind EngineCommand.device

/-- The commands of a schedule are not `Shutdown`, and their reply channels, from `n`
on, belong to their devices. -/
def Named (owner : ReplyId → Option String) (n : Nat) (ls : List (Label W)) : Prop :=
  ∀ (i : Nat) (cmd : EngineCommand), (enqueued ls)[i]? = some cmd →
    cmd ≠ .shutdown ∧ owner (n + i) = cmd.device

theorem enqueued_append (xs ys : List (Label W)) :
    enqueued (xs ++ ys) = enqueued xs ++ enqueued ys := List.filterMap_append

theorem named_requested {ls : List (Label W)} (h : EngineCommand.shutdown ∉ enqueued ls) :
    Named (requested ls) 0 ls := by
  intro i cmd hcmd
  constructor
  · intro heq
    rw [heq] at hcmd
    exact h (List.mem_of_getElem? hcmd)
  · rw [Nat.zero_add, requested, hcmd]
    rfl

theorem Named.left {n : Nat} {xs ys : List (Label W)} (h : Named owner n (xs ++ ys)) :
    Named owner n xs := by
  intro i cmd hcmd
  apply h i cmd
  rw [enqueued_append, List.getElem?_append_left (List.getElem?_eq_some_iff.1 hcmd).1]
  exact hcmd

theorem Named.right {n : Nat} {xs ys : List (Label W)} (h : Named owner n (xs ++ ys)) :
    Named owner (n + (enqueued xs).length) ys := by
  intro i cmd hcmd
  have hlater : (enqueued (xs ++ ys))[(enqueued xs).length + i]? = some cmd := by
    rw [enqueued_append, List.getElem?_append_right (Nat.le_add_right _ _),
      Nat.add_sub_cancel_left]
    exact hcmd
  rw [Nat.add_assoc]
  exact h _ cmd hlater

theorem Named.head {n : Nat} {l : Label W} {ls : List (Label W)} (h : Named owner n (l :: ls)) :
    ∀ cmd, l = .enqueue cmd → cmd ≠ .shutdown ∧ owner n = cmd.device := by
  intro cmd hl
  subst hl
  exact h 0 cmd rfl

section Runs

variable [KeyboardDriver D] {table : DriverTable W D}

theorem workerStep_next_reply {w : WorkerId} {x : Worker D} {move : WorkerMove}
    (h : s.workerStep w x move = some s') : s'.next_reply = s.next_reply := by
  cases move with
  | report =>
      obtain ⟨x', -, hsend⟩ := Option.bind_eq_some_iff.1 h
      exact (sendOrDrop_cases hsend).2.2.1
  | recv =>
      obtain ⟨r, -, rfl⟩ := Option.map_eq_some_iff.1 h
      rfl
  | debounce =>
      obtain ⟨r, -, rfl⟩ := Option.map_eq_some_iff.1 h
      rfl
  | finish order =>
      obtain ⟨r, -, rfl⟩ := Option.map_eq_some_iff.1 h
      rfl
  | exit =>
      obtain ⟨x', -, rfl⟩ := Option.map_eq_some_iff.1 h
      rfl
  | panic =>
      obtain ⟨x', -, rfl⟩ := Option.map_eq_some_iff.1 h
      rfl

theorem taskStep_next_reply {k : TaskId} {t : ReconnectTask} {move : TaskMove W}
    (h : s.taskStep table k t move = some s') : s'.next_reply = s.next_reply := by
  cases move with
  | send =>
      rw [taskStep] at h
      split at h
      · exact (sendOrDrop_cases h).2.2.1
      · cases h
  | cancel =>
      rw [taskStep] at h
      split at h
      · split at h
        · cases h
          rfl
        · cases h
      · cases h
  | attempt order world =>
      rw [taskStep] at h
      split at h
      · split at h
        · cases h
          rfl
        · cases h
      · cases h

omit [KeyboardDriver D] in
theorem filed_start : (start : Sys D).Filed owner where
  running := rfl
  rooted := by
    refine ⟨Nat.two_pow_pos 64, rfl, nofun, nofun, ?_, ?_⟩
    · intro id handle h
      change (∅ : ExtTreeMap String DeviceHandle)[id]? = _ at h
      rw [ExtTreeMap.getElem?_empty] at h
      cases h
    · intro id k token h
      change (∅ : ExtTreeMap String (TaskId × UInt64))[id]? = _ at h
      rw [ExtTreeMap.getElem?_empty] at h
      cases h
  owned := nofun
  vouched := fun _ h => absurd h List.not_mem_nil

variable [BackgroundTasks D]

/-- Every command from outside takes a reply channel. -/
theorem step_next_reply {l : Label W} (h : s.step table l = some s') :
    s'.next_reply = s.next_reply + (enqueued [l]).length := by
  cases l with
  | tick ms =>
      cases h
      rfl
  | enqueue cmd =>
      rw [step, enqueue] at h
      split at h
      · cases h
      · split at h
        · rw [send] at h
          split at h
          · cases h
            rfl
          · cases h
        · cases h
  | supervise order world =>
      rw [step, supervise] at h
      split at h
      · dsimp only at h
        split at h <;> cases h <;> rfl
      · cases h
  | superviseReturn =>
      rw [step, superviseReturn] at h
      split at h
      · cases h
        rfl
      · cases h
  | worker w move =>
      obtain ⟨x, -, hmove⟩ := Option.bind_eq_some_iff.1 h
      exact workerStep_next_reply hmove
  | background w order wakeup =>
      obtain ⟨x, -, hwake⟩ := Option.bind_eq_some_iff.1 h
      obtain ⟨driver, -, rfl⟩ := Option.map_eq_some_iff.1 hwake
      rfl
  | task k move =>
      obtain ⟨t, -, hmove⟩ := Option.bind_eq_some_iff.1 h
      exact taskStep_next_reply hmove

/-! ## Whole runs -/

theorem filed_step {l : Label W} (h : s.Filed owner)
    (hcmd : ∀ cmd, l = .enqueue cmd → cmd ≠ .shutdown ∧ owner s.next_reply = cmd.device)
    (hstep : s.step table l = some s') (hbound : s'.sup.tasks.length < 2 ^ 64) :
    s'.Filed owner ∧ Supervisor.Extends s.sup s'.sup := by
  have hrest : (∀ ms, l ≠ .tick ms) → s'.Filed owner ∧ Supervisor.Extends s.sup s'.sup := by
    intro hl
    have hmoved : Moved owner s.sup _ s s' :=
      step_moved h (Supervisor.Extends.of_eq rfl rfl) hl hcmd hstep
    exact ⟨h.of_moved hmoved hbound, hmoved.updates.extends⟩
  cases l with
  | tick ms =>
      cases hstep
      exact ⟨⟨h.running, h.rooted, h.owned, h.vouched⟩, Supervisor.Extends.of_eq rfl rfl⟩
  | enqueue cmd => exact hrest nofun
  | supervise order world => exact hrest nofun
  | superviseReturn => exact hrest nofun
  | worker w move => exact hrest nofun
  | background w order wakeup => exact hrest nofun
  | task k move => exact hrest nofun

theorem run_tasks_length_le {ls : List (Label W)} (hrun : run (step table) s ls = some s') :
    s.sup.tasks.length ≤ s'.sup.tasks.length := by
  induction ls generalizing s with
  | nil =>
      cases hrun
      exact Nat.le_refl _
  | cons l ls ih =>
      obtain ⟨m, hm, hrest⟩ := run_cons_some.1 hrun
      exact Nat.le_trans (step_cases hm).tasks_length_le (ih hrest)

/-- Along a run everything stays filed under its device and keeps its number. -/
theorem filed_run {ls : List (Label W)} (h : s.Filed owner) (hnamed : Named owner s.next_reply ls)
    (hrun : run (step table) s ls = some s') (hbound : s'.sup.tasks.length < 2 ^ 64) :
    s'.Filed owner ∧ Supervisor.Extends s.sup s'.sup ∧
      s'.next_reply = s.next_reply + (enqueued ls).length := by
  induction ls generalizing s with
  | nil =>
      cases hrun
      exact ⟨h, Supervisor.Extends.of_eq rfl rfl, rfl⟩
  | cons l ls ih =>
      obtain ⟨m, hm, hrest⟩ := run_cons_some.1 hrun
      have hmbound : m.sup.tasks.length < 2 ^ 64 :=
        Nat.lt_of_le_of_lt (run_tasks_length_le hrest) hbound
      obtain ⟨hfiled, hextends⟩ := filed_step h hnamed.head hm hmbound
      have hnext := step_next_reply hm
      have hsplit : Named owner s.next_reply ([l] ++ ls) := hnamed
      have hlater : Named owner m.next_reply ls := by
        rw [hnext]
        exact hsplit.right
      obtain ⟨hfiled', hextends', hnext'⟩ := ih hfiled hlater hrest
      refine ⟨hfiled', hextends.trans hextends', ?_⟩
      have hlength : (enqueued (l :: ls)).length =
          (enqueued [l]).length + (enqueued ls).length := by
        rw [← List.length_append, ← enqueued_append]
        rfl
      rw [hnext', hnext, hlength]
      exact Nat.add_assoc _ _ _

/-! ## The run that is left -/

variable (table) in
/-- The schedule without the steps of other devices. -/
def alone (b : String) (f : Supervisor D) (ls : List (Label W)) : List (Label W) :=
  project (step table) (keeps b) (f.names b).label start ls

omit [KeyboardDriver D] [BackgroundTasks D] in
theorem part_start : part owner b f (start : Sys D) = start := by
  have hempty : f.part owner b (Supervisor.new : Supervisor D) = Supervisor.new := by
    simp [Supervisor.part, Supervisor.only, Supervisor.new, Supervisor.view, slice, entry]
  rw [part]
  show ({ (start : Sys D) with sup := f.part owner b Supervisor.new } : Sys D) = start
  rw [hempty]
  rfl

omit [KeyboardDriver D] [BackgroundTasks D] in
theorem keeps_of_concerned {l : Label W} (h : s.concerned l = some b) : s.keeps b l = true := by
  cases l with
  | tick ms => rfl
  | _ => exact decide_eq_true h

/-- The part of the device makes a run of its own. -/
theorem part_run {ls : List (Label W)} (hrun : run (step table) start ls = some s)
    (hnamed : Named owner 0 ls) (hf : Supervisor.Extends s.sup f)
    (hbound : s.sup.tasks.length < 2 ^ 64) :
    run (advance table) start (alone table b f ls) = some (part owner b f s) := by
  have hpart : run (advance table) (part owner b f start) (alone table b f ls) =
      some (part owner b f s) := by
    apply run_project hrun
    intro xs l ys n n' hsplit hxs hl
    subst hsplit
    -- The states before and after the step are part of the run.
    have hrest := run_suffix hxs hrun
    obtain ⟨n₂, hn₂, hys⟩ := run_cons_some.1 hrest
    rw [hl] at hn₂
    cases hn₂
    have hbound' : n'.sup.tasks.length < 2 ^ 64 :=
      Nat.lt_of_le_of_lt (run_tasks_length_le hys) hbound
    have hbound'' : n.sup.tasks.length < 2 ^ 64 :=
      Nat.lt_of_le_of_lt (step_cases hl).tasks_length_le hbound'
    obtain ⟨hfiled, -, hnext⟩ := filed_run filed_start hnamed.left hxs hbound''
    have hrest' : Named owner n.next_reply (l :: ys) := by
      rw [hnext]
      exact hnamed.right
    obtain ⟨hfiled', hstepped⟩ := filed_step hfiled hrest'.head hl hbound'
    have hlater : Named owner n'.next_reply ys := by
      have hsplit : Named owner n.next_reply ([l] ++ ys) := hrest'
      rw [step_next_reply hl]
      exact hsplit.right
    have hextends : Supervisor.Extends n'.sup f :=
      (filed_run hfiled' hlater hys hbound).2.1.trans hf
    by_cases hkeeps : n.keeps b l = true
    · rw [if_pos hkeeps]
      exact part_step hfiled hrest'.head hl hextends hkeeps
    · rw [if_neg hkeeps]
      have hl' : ∀ ms, l ≠ .tick ms := by
        intro ms htick
        rw [htick] at hkeeps
        exact hkeeps rfl
      have hmoved : Moved owner f (n.concerned l) n n' :=
        step_moved hfiled (hstepped.trans hextends) hl' hrest'.head hl
      exact part_of_moved hfiled hmoved fun hcon => hkeeps (keeps_of_concerned hcon)
  rw [part_start] at hpart
  exact hpart

/-- The commands that are left are those of the device. -/
theorem enqueued_alone {ls : List (Label W)} (hrun : run (step table) start ls = some s) :
    enqueued (alone table b f ls) =
      (enqueued ls).filter fun cmd => cmd.device = some b := by
  have hfrom : ∀ m : Sys D, run (step table) m ls = some s →
      enqueued (project (step table) (keeps b) (f.names b).label m ls) =
        (enqueued ls).filter fun cmd => cmd.device = some b := by
    clear hrun
    induction ls with
    | nil => exact fun _ _ => rfl
    | cons l ls ih =>
        intro m hrun
        obtain ⟨m', hm', hrest⟩ := run_cons_some.1 hrun
        rw [project_cons hm']
        cases l with
        | enqueue cmd =>
            by_cases hb : cmd.device = some b
            · have hkeeps : m.keeps b (.enqueue cmd : Label W) = true := decide_eq_true hb
              rw [if_pos hkeeps]
              show cmd :: enqueued _ = (cmd :: enqueued ls).filter _
              rw [ih m' hrest, List.filter_cons_of_pos (by simpa using hb)]
            · have hkeeps : ¬ m.keeps b (.enqueue cmd : Label W) = true :=
                fun hcon => hb (of_decide_eq_true hcon)
              rw [if_neg hkeeps]
              show _ = (cmd :: enqueued ls).filter _
              rw [ih m' hrest, List.filter_cons_of_neg (by simpa using hb)]
        | tick ms => exact ih m' hrest
        | supervise order world =>
            split
            · exact ih m' hrest
            · exact ih m' hrest
        | superviseReturn =>
            split
            · exact ih m' hrest
            · exact ih m' hrest
        | worker w move =>
            split
            · exact ih m' hrest
            · exact ih m' hrest
        | background w order wakeup =>
            split
            · exact ih m' hrest
            · exact ih m' hrest
        | task k move =>
            split
            · exact ih m' hrest
            · exact ih m' hrest
  exact hfrom start hrun

end Runs

/-! ## What is observed -/

/-- The answers to requests, in order. -/
def answers (log : List Effect) : List (ReplyId × Reply) :=
  log.filterMap fun x =>
    match x with
    | .replied reply r => some (reply, r)
    | _ => none

/-- The driver calls that were made, in order, with the worker and whether they
succeeded. -/
def driverCalls (log : List Effect) : List (WorkerId × Job × Bool) :=
  log.filterMap fun x =>
    match x with
    | .called w job ok => some (w, job, ok)
    | _ => none

/-- What is read off the entries of a record is read off a view of it, in other
numbers, if it says which device it is about. -/
theorem filterMap_view {β : Type} {observe : Effect → Option β} (rename : β → β)
    (keep : β → Bool) (hrename : ∀ x, observe ((f.names b).effect x) = (observe x).map rename)
    (hkeep : ∀ x y, observe x = some y → (keep y = true ↔ f.about owner x = some b))
    (log : List Effect) :
    (f.view owner b log).filterMap observe =
      ((log.filterMap observe).filter keep).map rename := by
  induction log with
  | nil => rfl
  | cons x log ih =>
      have hview : f.view owner b (x :: log) = if f.about owner x = some b then
          (f.names b).effect x :: f.view owner b log else f.view owner b log := by
        by_cases habout : f.about owner x = some b
        · simp [Supervisor.view, habout]
        · simp [Supervisor.view, habout]
      rw [hview]
      cases hx : observe x with
      | none =>
          have hnone : observe ((f.names b).effect x) = none := by rw [hrename, hx]; rfl
          rw [List.filterMap_cons_none hx, ← ih]
          split
          · exact List.filterMap_cons_none hnone
          · rfl
      | some y =>
          have hsome : observe ((f.names b).effect x) = some (rename y) := by rw [hrename, hx]; rfl
          rw [List.filterMap_cons_some hx]
          by_cases habout : f.about owner x = some b
          · rw [if_pos habout, List.filterMap_cons_some hsome, ih,
              List.filter_cons_of_pos ((hkeep x y hx).2 habout)]
            rfl
          · rw [if_neg habout, ih,
              List.filter_cons_of_neg fun hcon => habout ((hkeep x y hx).1 hcon)]

variable (owner f b) in
/-- A state of the whole run and one of the run that is left, as the device sees
them. -/
structure Alike (m m' : Sys D) : Prop where
  registered : m'.sup.registry.devices[b]? =
    m.sup.registry.devices[b]?.map (f.names b).handle
  reconnecting : m'.sup.registry.reconnecting[b]? = m.sup.registry.reconnecting[b]?.map
    fun r => ((f.names b).task r.1, (f.names b).token r.2)
  /-- Its workers have the same drivers, operations and deadlines. -/
  workers : m'.sup.workers = slice Worker.device_id b m.sup.workers
  events : lifecycleEvents m'.sup.log =
    (lifecycleEvents m.sup.log).filter fun event => event.device = b
  answers : answers m'.sup.log =
    (answers m.sup.log).filter fun r => owner r.1 = some b
  calls : driverCalls m'.sup.log =
    ((driverCalls m.sup.log).filter fun c => f.served c.1 = some b).map fun c =>
      ((f.names b).worker c.1, c.2)

theorem alike_part (h : s.Filed owner) (hf : Supervisor.Extends s.sup f) :
    Alike owner f b s (part owner b f s) where
  registered := Supervisor.part_device h.rooted hf
  reconnecting := Supervisor.part_reconnecting h.rooted hf
  workers := rfl
  events := by
    show (f.view owner b s.sup.log).filterMap _ = _
    rw [filterMap_view id fun event => event.device = b, List.map_id]
    · rfl
    · intro x
      cases x <;> rfl
    · intro x y hy
      cases x <;> cases hy
      simp [Supervisor.about]
  answers := by
    show (f.view owner b s.sup.log).filterMap _ = _
    rw [filterMap_view id fun r => owner r.1 = some b, List.map_id]
    · rfl
    · intro x
      cases x <;> rfl
    · intro x y hy
      cases x <;> cases hy
      simp [Supervisor.about]
  calls := by
    show (f.view owner b s.sup.log).filterMap _ = _
    rw [filterMap_view (fun c => ((f.names b).worker c.1, c.2)) fun c => f.served c.1 = some b]
    · rfl
    · intro x
      cases x <;> rfl
    · intro x y hy
      cases x <;> cases hy
      simp [Supervisor.about]

/-- Devices do not interfere.  In a run without `Shutdown` and with fewer than `2 ^ 64`
reconnect starts, delete what concerns other devices than `b`: the commands that are
left are those about `b`, and what is left is a run, in which after every initial part
the device is registered and reconnecting, has seen the same events, has got the same
answers on the same channels and has had the same driver calls as in the whole run.
Workers, tasks and with them the tokens are numbered anew. -/
theorem devices_isolated [KeyboardDriver D] [BackgroundTasks D] (table : DriverTable W D)
    (b : String) (ls : List (Label W)) (s : Sys D) (hrun : run (step table) start ls = some s)
    (hcommands : EngineCommand.shutdown ∉ enqueued ls) (hstarts : s.sup.tasks.length < 2 ^ 64) :
    enqueued (alone table b s.sup ls) = (enqueued ls).filter (fun cmd => cmd.device = some b) ∧
      ∀ (xs ys : List (Label W)) (m : Sys D), ls = xs ++ ys →
        run (step table) start xs = some m →
        ∃ m', run (advance table) start (alone table b s.sup xs) = some m' ∧
          Alike (requested ls) s.sup b m m' ∧
          ∃ zs, alone table b s.sup ls = alone table b s.sup xs ++ zs := by
  refine ⟨enqueued_alone hrun, ?_⟩
  intro xs ys m hsplit hxs
  subst hsplit
  have hnamed := named_requested hcommands
  have hys := run_suffix hxs hrun
  have hbound : m.sup.tasks.length < 2 ^ 64 :=
    Nat.lt_of_le_of_lt (run_tasks_length_le hys) hstarts
  obtain ⟨hfiled, -, hnext⟩ := filed_run filed_start hnamed.left hxs hbound
  have hlater : Named (requested (xs ++ ys)) m.next_reply ys := by
    rw [hnext]
    exact hnamed.right
  have hextends := (filed_run hfiled hlater hys hstarts).2.1
  exact ⟨part _ b s.sup m, part_run hxs hnamed.left hextends hbound, alike_part hfiled hextends,
    _, project_append hxs ys⟩

/-- Two devices fail to open and are left to tasks.  The second is reattached, with
the second token, and a key of it is read. -/
def twoDeviceRun : List (Label (Except DaemonError MockDriver)) :=
  [.enqueue (.deviceConnected "dev2" 0x05AC 0x024F "/dev/hidraw8"),
    .supervise HashOrder.sorted (.error (.driver .disconnected)),
    .enqueue (.deviceConnected "dev1" 0x05AC 0x024F "/dev/hidraw7"),
    .supervise HashOrder.sorted (.error (.driver .disconnected)), .tick 100,
    .task 1 (.attempt HashOrder.sorted (.ok (mockDriver [.ok 4]))), .task 1 .send,
    .supervise HashOrder.sorted (.error (.driver .disconnected)),
    .enqueue (.getKeycode "dev1" 0 0 0 2),
    .supervise HashOrder.sorted (.error (.driver .disconnected)), .worker 0 .recv,
    .worker 0 (.finish HashOrder.sorted)]

/-- Without the first device the second takes the first token, and is attached and
answered as before. -/
theorem devices_isolated_renumbered : ∃ s m' : Sys MockDriver,
    run (step mockTable) start twoDeviceRun = some s ∧
      s.sup.registry.next_reconnect_token = 2 ∧ (answers s.sup.log).map Prod.fst = [2] ∧
      run (advance mockTable) start (alone mockTable "dev1" s.sup twoDeviceRun) = some m' ∧
      Alike (requested twoDeviceRun) s.sup "dev1" s m' := by
  have hrun : (run (step mockTable) start twoDeviceRun).map
      (fun s => (s.sup.tasks.length, s.sup.registry.next_reconnect_token,
        (answers s.sup.log).map Prod.fst)) = some (2, 2, [2]) := by
    decide +kernel
  obtain ⟨s, hs, heq⟩ := Option.map_eq_some_iff.1 hrun
  obtain ⟨htasks, heq⟩ := Prod.mk.inj heq
  obtain ⟨htoken, hanswers⟩ := Prod.mk.inj heq
  have hstarts : s.sup.tasks.length < 2 ^ 64 := by
    rw [htasks]
    decide
  obtain ⟨m', hm', halike, -⟩ := (devices_isolated mockTable "dev1" twoDeviceRun s hs (by decide)
    hstarts).2 twoDeviceRun [] s (List.append_nil _).symm hs
  exact ⟨s, m', hs, htoken, hanswers, hm', halike⟩

end Sys

end Clackd.Engine
