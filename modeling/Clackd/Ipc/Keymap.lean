import Clackd.Engine.Keys
import Clackd.Engine.Shutdown
import Clackd.Ipc.Linear

/-!
# The keymap over the bus

The drivers of the daemon each have a keymap, and calls are linearizable.  So what the
clients of the interface see is a keymap too, whoever else calls at the same time: each
call is one job in the order of the driver calls, and each job does to the keymap of its
device what it is there for.

## Main results

* `served_at`, `served_in_order`: a call that succeeded as a job at its place, and two of
  them one after the other.
* `keymap_served`: what the answers to keycode calls and commits say of the keymap.
* `reads_own_write`: what a client reads after it has written.
-/

namespace Clackd.Engine

open Clackd.Foundation Clackd.Hal Clackd.Hal.Via Clackd.Hal.Legacy

/-! ## The keymaps of a history -/

namespace Deed

variable {D : Type}

/-- The device that a deed opens. -/
def opening : Deed D → Option (String × D)
  | .opened device_id driver => some (device_id, driver)
  | _ => none

/-- The job that a deed is for a worker, and whether it succeeded. -/
def done [KeyboardDriver D] (w : WorkerId) (devices : List (String × D)) :
    Deed D → List (Job × Bool)
  | .did v turn job =>
      if v = w then
        (devices[v]?.map fun device => (job, (Worker.perform turn device.2 job).ok)).toList
      else []
  | _ => []

end Deed

section Keymaps

variable {T I Text : Type} [CoalescerTransport T] [Gmk67Io I] [SerdeJson Text]

/-- The jobs of a worker in a history. -/
def jobsOf (w : WorkerId) (history : List (Deed (BoxedDriver T I Text))) : List (Job × Bool) :=
  noted Deed.act (Deed.done w) [] history

/-- The keymap of a worker's device after a history. -/
def keysAfter (R : KeymapStore T) (w : WorkerId)
    (history : List (Deed (BoxedDriver T I Text))) : Option Keys :=
  (history.filterMap Deed.opening)[w]?.map fun device =>
    (Keys.fresh (device.2.reads R)).afterAll device.2.staged (jobsOf w history)

/-- The drivers that a history leaves, and what clients know of their keymaps. -/
structure Displays (R : KeymapStore T) (history : List (Deed (BoxedDriver T I Text)))
    (devices : List (String × BoxedDriver T I Text)) : Prop where
  opened : devices.length = (history.filterMap Deed.opening).length
  idle : ∀ w, devices.length ≤ w → jobsOf w history = []
  shows : ∀ (w : WorkerId) id d, devices[w]? = some (id, d) → ∃ d₀ k,
    (history.filterMap Deed.opening)[w]? = some (id, d₀) ∧ d.staged = d₀.staged ∧
      keysAfter R w history = some k ∧ d.Shows R k

theorem displays_nil (R : KeymapStore T) :
    Displays R ([] : List (Deed (BoxedDriver T I Text))) [] where
  opened := rfl
  idle := fun _ _ => rfl
  shows := fun w id d h => by cases h

theorem jobsOf_snoc (w : WorkerId) (history : List (Deed (BoxedDriver T I Text)))
    (deed : Deed (BoxedDriver T I Text)) :
    jobsOf w (history ++ [deed]) =
      jobsOf w history ++ deed.done w (play Deed.act [] history) :=
  noted_snoc _ _ _ _

/-- A deed that does no job for a worker leaves the keymap of its device. -/
theorem keysAfter_snoc {R : KeymapStore T} {w : WorkerId}
    {history : List (Deed (BoxedDriver T I Text))} {deed : Deed (BoxedDriver T I Text)} {k : Keys}
    (h : keysAfter R w history = some k)
    (hnone : deed.done w (play Deed.act [] history) = []) :
    keysAfter R w (history ++ [deed]) = some k := by
  obtain ⟨device, hdevice, rfl⟩ := Option.map_eq_some_iff.1 h
  rw [keysAfter, List.filterMap_append, List.getElem?_append_left
    (List.getElem?_eq_some_iff.1 hdevice).1, hdevice, jobsOf_snoc, hnone, List.append_nil]
  rfl

variable {R : KeymapStore T} {history : List (Deed (BoxedDriver T I Text))}

/-- A device is opened. -/
theorem Displays.opening (h : Displays R history (play Deed.act [] history)) {id : String}
    {d : BoxedDriver T I Text} (hd : d.Unedited) :
    Displays R (history ++ [.opened id d]) (play Deed.act [] history ++ [(id, d)]) := by
  have hopening : (history ++ [Deed.opened id d]).filterMap Deed.opening =
      history.filterMap Deed.opening ++ [(id, d)] := by
    rw [List.filterMap_append]
    rfl
  have hjobs : ∀ w, jobsOf w (history ++ [.opened id d]) = jobsOf w history := by
    intro w
    rw [jobsOf_snoc]
    exact List.append_nil _
  refine ⟨?_, ?_, ?_⟩
  · rw [hopening, List.length_append, List.length_append, h.opened]
  · intro w hw
    rw [List.length_append] at hw
    rw [hjobs]
    exact h.idle w (by omega)
  · intro w id' d' hd'
    by_cases hlt : w < (play Deed.act [] history).length
    · rw [List.getElem?_append_left hlt] at hd'
      obtain ⟨d₀, k, hd₀, hstaged, hkeys, hshows⟩ := h.shows w id' d' hd'
      refine ⟨d₀, k, ?_, hstaged, keysAfter_snoc hkeys rfl, hshows⟩
      rw [hopening, List.getElem?_append_left (by rw [← h.opened]; exact hlt)]
      exact hd₀
    · have hle := (List.getElem?_eq_some_iff.1 hd').1
      rw [List.length_append, List.length_singleton] at hle
      obtain rfl : w = (play Deed.act [] history).length :=
        Nat.le_antisymm (by omega) (Nat.le_of_not_lt hlt)
      rw [List.getElem?_append_right (Nat.le_refl _), Nat.sub_self] at hd'
      cases hd'
      have hlast : (history.filterMap Deed.opening ++ [(id, d)])[
          (play Deed.act [] history).length]? = some (id, d) := by
        rw [h.opened, List.getElem?_append_right (Nat.le_refl _), Nat.sub_self]
        rfl
      refine ⟨d, .fresh (d.reads R), by rw [hopening]; exact hlast, rfl, ?_, hd.shows R⟩
      rw [keysAfter, hopening, hlast, hjobs, h.idle _ (Nat.le_refl _)]
      rfl

/-- Drivers that change keep their places. -/
theorem Displays.modified (h : Displays R history (play Deed.act [] history))
    {deed : Deed (BoxedDriver T I Text)} {v : WorkerId} {f : BoxedDriver T I Text → BoxedDriver T I Text}
    (hact : Deed.act (play Deed.act [] history) deed =
      (play Deed.act [] history).modify v fun device => (device.1, f device.2))
    (hopening : deed.opening = none)
    (hothers : ∀ w, w ≠ v → deed.done w (play Deed.act [] history) = [])
    (hout : (play Deed.act [] history)[v]? = none → deed.done v (play Deed.act [] history) = [])
    (hthis : ∀ id d k, (play Deed.act [] history)[v]? = some (id, d) → d.Shows R k →
      (f d).staged = d.staged ∧ (f d).Shows R
        (k.afterAll d.staged (deed.done v (play Deed.act [] history)))) :
    Displays R (history ++ [deed]) (Deed.act (play Deed.act [] history) deed) := by
  have hopened : (history ++ [deed]).filterMap Deed.opening = history.filterMap Deed.opening := by
    have hnone : [deed].filterMap Deed.opening = [] := by simp [hopening]
    rw [List.filterMap_append, hnone, List.append_nil]
  have hlength : (Deed.act (play Deed.act [] history) deed).length =
      (play Deed.act [] history).length := by
    rw [hact, List.length_modify]
  refine ⟨by rw [hlength, hopened, h.opened], ?_, ?_⟩
  · intro w hw
    rw [hlength] at hw
    rw [jobsOf_snoc, h.idle w hw, List.nil_append]
    by_cases hv : w = v
    · subst hv
      exact hout (List.getElem?_eq_none hw)
    · exact hothers w hv
  · intro w id d' hd'
    rw [hact, List.getElem?_modify] at hd'
    obtain ⟨⟨id', d⟩, hd, heq⟩ := Option.map_eq_some_iff.1 hd'
    obtain ⟨d₀, k, hd₀, hstaged, hkeys, hshows⟩ := h.shows w id' d hd
    by_cases hv : v = w
    · subst hv
      rw [if_pos rfl] at heq
      cases heq
      obtain ⟨hkept, hafter⟩ := hthis _ d k hd hshows
      refine ⟨d₀, _, by rw [hopened]; exact hd₀, hkept.trans hstaged, ?_, hafter⟩
      obtain ⟨device, hdevice, rfl⟩ := Option.map_eq_some_iff.1 hkeys
      rw [hd₀] at hdevice
      cases hdevice
      rw [keysAfter, hopened, hd₀, jobsOf_snoc, hstaged, Option.map_some]
      congr 1
      exact List.foldl_append
    · rw [if_neg hv] at heq
      cases heq
      exact ⟨d₀, k, by rw [hopened]; exact hd₀, hstaged,
        keysAfter_snoc hkeys (hothers w (Ne.symm hv)), hshows⟩

/-- After any history of drivers without edits, every driver has the keymap that the jobs
of its worker make of the first one. -/
theorem displays_play (R : KeymapStore T) (history : List (Deed (BoxedDriver T I Text)))
    (hopened : ∀ id d, .opened id d ∈ history → d.Unedited) :
    Displays R history (play Deed.act [] history) := by
  induction history using List.reverseRecOn with
  | nil => exact displays_nil R
  | append_singleton history deed ih =>
      have h := ih fun id d hmem => hopened id d (List.mem_append_left _ hmem)
      rw [play_append]
      show Displays R (history ++ [deed]) (Deed.act (play Deed.act [] history) deed)
      cases deed with
      | opened id d => exact h.opening (hopened id d (by simp))
      | did v turn job =>
          refine h.modified (f := fun d => (Worker.perform turn d job).driver) rfl rfl ?_ ?_ ?_
          · intro w hw
            exact if_neg (Ne.symm hw)
          · intro hnone
            rw [Deed.done, if_pos rfl, hnone]
            rfl
          · intro id d k hd hshows
            have hdone := BoxedDriver.performed R turn hshows job
            refine ⟨hdone.staged, ?_⟩
            rw [Deed.done, if_pos rfl, hd]
            exact hdone.shows
      | woke v turn dropped wakeup =>
          refine h.modified (f := fun d => (BackgroundTasks.wake turn dropped wakeup d).getD d)
            rfl rfl (fun _ _ => rfl) (fun _ => rfl) ?_
          intro id d k hd hshows
          cases hwake : BackgroundTasks.wake turn dropped wakeup d with
          | none => exact ⟨rfl, hshows⟩
          | some d' =>
              obtain ⟨hafter, hstaged⟩ := BoxedDriver.shows_wake R hshows hwake
              exact ⟨hstaged, hafter⟩

omit [CoalescerTransport T] [Gmk67Io I] [SerdeJson Text] in
/-- The job of a worker at a place of the history, and the one after it. -/
theorem take_place {history : List (Deed (BoxedDriver T I Text))} {n : Nat}
    {deed : Deed (BoxedDriver T I Text)} (h : history[n]? = some deed) :
    history.take (n + 1) = history.take n ++ [deed] := by
  rw [List.take_add_one, h]
  rfl

/-- A job at a place of a history: the driver and its keymap, before and after. -/
theorem displays_place (R : KeymapStore T) {history : List (Deed (BoxedDriver T I Text))}
    (hopened : ∀ id d, .opened id d ∈ history → d.Unedited) {n : Nat} {w : WorkerId} {turn : Turn}
    {op : WorkerOp} {reply : ReplyId} {r : Reply} (hdeed : history[n]? = some (.did w turn (.op op)))
    (hgiven : Sys.given history n = some (reply, r)) :
    ∃ id d k, (play Deed.act [] (history.take n))[w]? = some (id, d) ∧
      r = (Worker.call turn d op).reply ∧ keysAfter R w (history.take n) = some k ∧
        BoxedDriver.Performed R d k (.op op) (Worker.call turn d op) ∧
          keysAfter R w (history.take (n + 1)) =
            some (k.after d.staged (.op op) (Worker.call turn d op).ok) ∧
              (play Deed.act [] (history.take (n + 1)))[w]? =
                some (id, (Worker.call turn d op).driver) := by
  have hbefore := displays_play R (history.take n) fun id d hmem =>
    hopened id d (List.mem_of_mem_take hmem)
  rw [Sys.given, answerAt, hdeed, Option.bind_some] at hgiven
  obtain ⟨⟨id, d⟩, hd, hanswer⟩ := Option.map_eq_some_iff.1 hgiven
  obtain ⟨-, rfl⟩ := Prod.mk.inj hanswer
  obtain ⟨d₀, k, hd₀, hstaged, hkeys, hshows⟩ := hbefore.shows w id d hd
  refine ⟨id, d, k, hd, rfl, hkeys, BoxedDriver.performed R turn hshows (.op op), ?_, ?_⟩
  · obtain ⟨device, hdevice, rfl⟩ := Option.map_eq_some_iff.1 hkeys
    rw [hd₀] at hdevice
    cases hdevice
    rw [take_place hdeed, keysAfter, List.filterMap_append, List.getElem?_append_left
      (List.getElem?_eq_some_iff.1 hd₀).1, hd₀, jobsOf_snoc, Deed.done, if_pos rfl, hd, hstaged,
      Option.map_some]
    congr 1
    exact List.foldl_append
  · rw [take_place hdeed, play_append]
    show ((play Deed.act [] (history.take n)).modify w _)[w]? = _
    rw [List.getElem?_modify, hd]
    simp
    rfl

namespace Sys

variable {interval : Option Nat} {configs : List DeviceConfig} {s s' : Sys (BoxedDriver T I Text)}
  {l : Label (DeviceNode T I Text)}

/-- What the daemon opens has no edits. -/
theorem unedited_deeds (hstep : s.step (build_driver_table interval configs) l = some s')
    {id : String} {d : BoxedDriver T I Text} (hmem : .opened id d ∈ s.deeds l s') : d.Unedited := by
  rw [deeds, List.mem_append] at hmem
  rcases hmem with hown | hspawned
  · rw [Option.mem_toList] at hown
    cases l with
    | worker w m =>
        cases m with
        | finish order =>
            obtain ⟨x, -, hphase⟩ := Option.bind_eq_some_iff.1 hown
            unfold WorkerPhase.deed at hphase
            split at hphase <;> cases hphase
        | _ => cases hown
    | background w order wakeup =>
        obtain ⟨x, -, hwoke⟩ := Option.map_eq_some_iff.1 hown
        cases hwoke
    | _ => cases hown
  · obtain ⟨x, hx, heq⟩ := List.mem_map.1 hspawned
    cases heq
    obtain ⟨i, hi⟩ := List.mem_iff_getElem?.1 hx
    rw [List.getElem?_drop] at hi
    have hbefore : s.sup.workers[s.sup.workers.length + i]? = none :=
      List.getElem?_eq_none (Nat.le_add_right _ _)
    cases at_step hstep (s.sup.workers.length + i) with
    | absent before after log =>
        rw [after] at hi
        cases hi
    | spawned id driver before after opened log =>
        rw [after] at hi
        cases hi
        exact unedited_opened opened
    | kept x rx before after log =>
        rw [hbefore] at before
        cases before
    | moved x m r label before move after log =>
        rw [hbefore] at before
        cases before
    | woke x driver order wakeup label before wake after log =>
        rw [hbefore] at before
        cases before

end Sys

end Keymaps

end Clackd.Engine

namespace Clackd.Ipc

open Clackd.Foundation Clackd.Hal Clackd.Hal.Via Clackd.Hal.Legacy Clackd.Engine

/-! ## What the calls say -/

/-- What a call that succeeds says of the keymap before and after it. -/
def Method.tells (before after : Keys) (answer : Answer) : Method → Prop
  | .get_keycode _ layer row col =>
      answer = .keycode (before.current (layer, row, col)) ∧ after = before
  | .set_keycode _ layer row col keycode =>
      after = { before with current := Function.update before.current (layer, row, col) keycode }
  | .commit _ => after = .fresh before.current
  | _ => after = before

namespace Bus

variable {T I Text : Type} [CoalescerTransport T] [Gmk67Io I] [SerdeJson Text]

/-- A call was one job of the worker that serves its device, at this place of the
history. -/
structure JobAt (R : KeymapStore T) (render : Rendering)
    (history : List (Deed (BoxedDriver T I Text))) (b : Bus (BoxedDriver T I Text)) (c : Call)
    (n : Nat) (w : WorkerId) (before after : Keys) : Prop where
  place : AnsweredAt render history b c n
  serves : ∃ id, c.method.device = some id ∧ b.engine.sup.Serves w id
  before : keysAfter R w (history.take n) = some before
  after : keysAfter R w (history.take (n + 1)) = some after

omit [CoalescerTransport T] [Gmk67Io I] [SerdeJson Text] in
/-- A call that succeeds has a driver call that succeeded. -/
theorem ok_of_received {D : Type} [KeyboardDriver D] {turn : Turn} {d : D} {op : WorkerOp}
    {answer : Answer} (h : received (Worker.call turn d op).reply = .ok answer) :
    (Worker.call turn d op).ok = true := by
  have hmap : ∀ {α β : Type} {x : Except DaemonError α} {f : α → β} {y : β},
      x.map f = .ok y → x.isOk = true := by
    intro α β x f y hx
    cases x with
    | ok _ => rfl
    | error err => cases hx
  cases op <;> exact hmap h

variable {render : Rendering} {interval : Option Nat} {configs : List DeviceConfig}
  {ls : List (BusLabel (DeviceNode T I Text))} {b : Bus (BoxedDriver T I Text)}

theorem unedited_run (hrun : run (step render (build_driver_table interval configs)) start ls = some b) :
    ∀ id d, .opened id d ∈ history render (build_driver_table interval configs) ls → d.Unedited := by
  have hstep : ∀ (history : List (Deed (BoxedDriver T I Text))) (b : Bus (BoxedDriver T I Text))
      (l : BusLabel (DeviceNode T I Text)) (b' : Bus (BoxedDriver T I Text)),
      (∀ id d, .opened id d ∈ history → d.Unedited) →
        b.step render (build_driver_table interval configs) l = some b' →
          ∀ id d, .opened id d ∈ history ++ deeds b l b' → d.Unedited := by
    intro history b l b' h hstep id d hmem
    rcases List.mem_append.1 hmem with hold | hnew
    · exact h id d hold
    · cases l with
      | engine l =>
          rw [step] at hstep
          split at hstep
          · cases hstep
          · obtain ⟨s, hs, rfl⟩ := Option.map_eq_some_iff.1 hstep
            exact Sys.unedited_deeds hs hnew
      | _ => cases hnew
  exact run_observed hstep (fun id d hmem => absurd hmem List.not_mem_nil) hrun

/-- A call that succeeded was, at its place, a job of the worker of its device, and its
answer tells what the job did to the keymap. -/
theorem served_at (R : KeymapStore T)
    (hrun : run (step render (build_driver_table interval configs)) start ls = some b) {c : Call}
    {channel : Option ReplyId} {answer : Answer} {n : Nat}
    (hphase : c.phase = .returned channel (.ok answer)) (hdevice : c.method.device.isSome = true)
    (hplace : AnsweredAt render (history render (build_driver_table interval configs) ls) b c n) :
    ∃ w before after,
      JobAt R render (history render (build_driver_table interval configs) ls) b c n w before after ∧
        c.method.tells before after answer ∧
          ∀ id, c.method = .commit id →
            ((play Deed.act [] ((history render (build_driver_table interval configs) ls).take
              (n + 1)))[w]?.map fun device => device.2.kept R) = some before.current := by
  have hwhere := hplace
  obtain ⟨reply, id, w, turn, op, r, hphase', hdeed, hcmd, hid, hgiven⟩ := hplace
  rw [hphase] at hphase'
  have hanswer := received_ok (CallPhase.returned.inj hphase').2.symm
  obtain ⟨id', d, k, hd, rfl, hbefore, hdone, hafter, hd'⟩ :=
    displays_place R (unedited_run hrun) hdeed hgiven
  have hok := ok_of_received hanswer
  rw [hok] at hafter
  refine ⟨w, k, _, ⟨hwhere, ⟨id, device_of_command hcmd, hid⟩, hbefore, hafter⟩, ?_, ?_⟩
  · generalize c.method = method at hcmd hdevice
    cases method with
    | get_keycode device_id layer row col =>
        cases hcmd
        have hread := hdone.read layer row col reply
        cases hresult : (Worker.call turn d (.getKeycode layer row col reply)).reply with
        | keycode result =>
            rw [hresult] at hanswer hread
            cases result with
            | ok keycode =>
                cases hanswer
                exact ⟨congrArg Answer.keycode (hread keycode rfl rfl), rfl⟩
            | error err => cases hanswer
        | _ => cases hresult
    | list_devices => cases hdevice
    | get_device_info device_id => cases hdevice
    | get_device_identity device_id => cases hdevice
    | _ =>
        cases hcmd
        rfl
  · intro id hcommit
    rw [hcommit] at hcmd
    cases hcmd
    rw [hd']
    exact congrArg some (hdone.kept rfl hok)

/-- **One keymap for all clients.**  In every run of the interface over the engine and
its drivers, each call to a device that succeeded was one job of the worker of the device,
at a place of the one order of driver calls.  A read gives the keycode that is in the
keymap there; an edit changes it at its position and nowhere else; a commit settles all
edits before it and leaves them in the device; and no other call touches the keymap.  The
keymap at a place is the one the device was opened with, after the jobs of the worker
before that place: those of other calls, of clients that have gone away, and the commits
of the worker itself. -/
theorem keymap_served (R : KeymapStore T)
    (hrun : run (step render (build_driver_table interval configs)) start ls = some b) {c : Call}
    (hc : c ∈ b.calls) {channel : Option ReplyId} {answer : Answer}
    (hphase : c.phase = .returned channel (.ok answer)) (hdevice : c.method.device.isSome = true) :
    ∃ n w before after,
      JobAt R render (history render (build_driver_table interval configs) ls) b c n w before after ∧
        c.method.tells before after answer ∧
          ∀ id, c.method = .commit id →
            ((play Deed.act [] ((history render (build_driver_table interval configs) ls).take
              (n + 1)))[w]?.map fun device => device.2.kept R) = some before.current := by
  obtain ⟨n, hplace⟩ := exists_place_of_ok hrun hc hphase hdevice
  obtain ⟨w, before, after, hjob⟩ := served_at R hrun hphase hdevice hplace
  exact ⟨n, w, before, after, hjob⟩

/-- A call to the coalescing keyboard, its driver call, and its return. -/
def keyboardCall (i : Nat) (method : Method) :
    List (BusLabel (DeviceNode MockTransport Board ShadowFile)) :=
  [.call method, .submit i, .engine (.supervise HashOrder.sorted Sys.viaNode),
    .engine (.worker 0 .recv), .engine (.worker 0 (.finish HashOrder.sorted)), .receive i]

/-- A keycode is set. -/
def setRun : List (BusLabel (DeviceNode MockTransport Board ShadowFile)) :=
  [.engine (.enqueue (.deviceConnected "dev1" 0x05AC 0x024F "/dev/hidraw7")),
    .engine (.supervise HashOrder.sorted Sys.viaNode)] ++
      keyboardCall 0 (.set_keycode "dev1" 0 0 0 4)

/-- Then it is read. -/
def getRun : List (BusLabel (DeviceNode MockTransport Board ShadowFile)) :=
  setRun ++ keyboardCall 1 (.get_keycode "dev1" 0 0 0)

/-- The read gives what is in the keymap at its place. -/
theorem keymap_served_pair : ∃ (b : Bus (BoxedDriver MockTransport Board ShadowFile)) (c : Call)
    (n : Nat) (w : WorkerId) (before after : Keys),
      run (step plainRendering Sys.coalescingTable) start getRun = some b ∧
        c.phase = .returned (some 2) (.ok (.keycode 4)) ∧
        JobAt MockTransport.keymapStore plainRendering
          (history plainRendering Sys.coalescingTable getRun) b c n w before after ∧
        before.current (0, 0, 0) = 4 := by
  have hrun : (run (step plainRendering Sys.coalescingTable) start getRun).map
      (fun b => b.calls) = some [⟨.set_keycode "dev1" 0 0 0 4, .returned (some 1) (.ok .done)⟩,
        ⟨.get_keycode "dev1" 0 0 0, .returned (some 2) (.ok (.keycode 4))⟩] := by
    decide +kernel
  obtain ⟨b, hb, hcalls⟩ := Option.map_eq_some_iff.1 hrun
  obtain ⟨n, w, before, after, hjob, htells, -⟩ := keymap_served MockTransport.keymapStore hb
    (c := ⟨.get_keycode "dev1" 0 0 0, .returned (some 2) (.ok (.keycode 4))⟩)
    (by rw [hcalls]; simp) rfl rfl
  exact ⟨b, _, n, w, before, after, hb, rfl, hjob, (Answer.keycode.inj htells.1).symm⟩

/-- Of two calls that succeeded, the second made after the first had returned, each was a job
at a place of its own.  If both were jobs of one worker, the second finds every key as the
first left it, unless a job of the worker in between set it or was a commit that failed. -/
theorem served_in_order (R : KeymapStore T) {xs ys : List (BusLabel (DeviceNode T I Text))}
    {a : Bus (BoxedDriver T I Text)}
    (hrun : run (step render (build_driver_table interval configs)) start (xs ++ ys) = some b)
    (hxs : run (step render (build_driver_table interval configs)) start xs = some a)
    {i j : Nat} {channel channel' : Option ReplyId} {answer answer' : Answer} {c c' : Call}
    (hphase : c.phase = .returned channel (.ok answer))
    (hphase' : c'.phase = .returned channel' (.ok answer'))
    (hdevice : c.method.device.isSome = true) (hdevice' : c'.method.device.isSome = true)
    (hfirst : a.calls[i]? = some c) (hlater : ∀ d, a.calls[j]? = some d → d.phase = .sending)
    (hsecond : b.calls[j]? = some c') :
    let seen := history render (build_driver_table interval configs) (xs ++ ys)
    ∃ n m v w before between after after',
      JobAt R render seen b c n v before between ∧ JobAt R render seen b c' m w after after' ∧
        n < m ∧ c.method.tells before between answer ∧ c'.method.tells after after' answer' ∧
          (v = w → ∀ slot, after.current slot = between.current slot ∨
            ∃ d, (seen.filterMap Deed.opening)[v]? = some d ∧
              ∃ done ∈ (jobsOf v (seen.take m)).drop (jobsOf v (seen.take (n + 1))).length,
                Keys.Disturbs d.2.staged slot done) := by
  intro seen
  have hkept := returned_run hphase hfirst (run_suffix hxs hrun)
  obtain ⟨n, hn⟩ := exists_place_of_ok hrun (List.mem_of_getElem? hkept) hphase hdevice
  obtain ⟨m, hm⟩ := exists_place_of_ok hrun (List.mem_of_getElem? hsecond) hphase' hdevice'
  obtain ⟨v, before, between, hjob, htells, -⟩ := served_at R hrun hphase hdevice hn
  obtain ⟨w, after, after', hjob', htells', -⟩ := served_at R hrun hphase' hdevice' hm
  have hnm : n < m := place_lt hrun hxs hfirst hphase hlater hsecond hn hm
  refine ⟨n, m, v, w, before, between, after, after', hjob, hjob', hnm, htells, htells', ?_⟩
  rintro rfl slot
  -- What was done between the two places.
  have hsplit : seen.take m = seen.take (n + 1) ++ (seen.take m).drop (n + 1) := by
    conv_lhs => rw [← List.take_append_drop (n + 1) (seen.take m)]
    rw [List.take_take, Nat.min_eq_left hnm]
  obtain ⟨later, hjobs⟩ : ∃ later,
      jobsOf v (seen.take m) = jobsOf v (seen.take (n + 1)) ++ later :=
    ⟨_, by rw [hsplit]; exact noted_append _ _ _ _⟩
  obtain ⟨d, hd, hbetween⟩ := Option.map_eq_some_iff.1 hjob.after
  have hopened : ∀ more, ((seen.take (n + 1) ++ more).filterMap Deed.opening)[v]? = some d := by
    intro more
    rw [List.filterMap_append, List.getElem?_append_left (List.getElem?_eq_some_iff.1 hd).1, hd]
  have hafter : between.afterAll d.2.staged later = after := by
    have hkeys := hjob'.before
    rw [keysAfter, hjobs, hsplit, hopened, Option.map_some, Keys.afterAll_append, hbetween] at hkeys
    exact Option.some.inj hkeys
  rw [hjobs, List.drop_left' rfl]
  by_cases hdisturbed : ∃ done ∈ later, Keys.Disturbs d.2.staged slot done
  · have hfirst := hopened (seen.drop (n + 1))
    rw [List.take_append_drop] at hfirst
    exact .inr ⟨d, hfirst, hdisturbed⟩
  · left
    rw [← hafter]
    exact Keys.afterAll_of_undisturbed (fun done hdone hcon => hdisturbed ⟨done, hdone, hcon⟩)
      between

/-- **Clients read their own writes.**  A client that has set a keycode and then reads it
gets what it has set, unless the device was attached anew in between, or a job of the same
worker came in between that set the same position, or a commit that failed. -/
theorem reads_own_write (R : KeymapStore T)
    (hrun : run (step render (build_driver_table interval configs)) start ls = some b)
    {xs ys : List (BusLabel (DeviceNode T I Text))} {a : Bus (BoxedDriver T I Text)}
    (hls : ls = xs ++ ys)
    (hxs : run (step render (build_driver_table interval configs)) start xs = some a)
    {i j : Nat} {id : String} {layer row col : UInt8} {keycode got : UInt16}
    {channel channel' : Option ReplyId} {c c' : Call}
    (hset : c = ⟨.set_keycode id layer row col keycode, .returned channel (.ok .done)⟩)
    (hget : c' = ⟨.get_keycode id layer row col, .returned channel' (.ok (.keycode got))⟩)
    (hfirst : a.calls[i]? = some c) (hlater : ∀ d, a.calls[j]? = some d → d.phase = .sending)
    (hsecond : b.calls[j]? = some c') :
    let seen := history render (build_driver_table interval configs) ls
    ∃ n m v w before between after after',
      JobAt R render seen b c n v before between ∧ JobAt R render seen b c' m w after after' ∧
        n < m ∧
        (v = w → got = keycode ∨
          ∃ d, (seen.filterMap Deed.opening)[v]? = some d ∧
            ∃ done ∈ (jobsOf v (seen.take m)).drop (jobsOf v (seen.take (n + 1))).length,
              Keys.Disturbs d.2.staged (layer, row, col) done) := by
  intro seen
  subst hls
  obtain ⟨n, m, v, w, before, between, after, after', hjob, hjob', hnm, htells, htells', hsame⟩ :=
    served_in_order R hrun hxs (by rw [hset]) (by rw [hget]) (by rw [hset]; rfl)
      (by rw [hget]; rfl) hfirst hlater hsecond
  refine ⟨n, m, v, w, before, between, after, after', hjob, hjob', hnm, fun hvw => ?_⟩
  rw [hset] at htells
  rw [hget] at htells'
  obtain ⟨hgot, -⟩ := htells'
  have hnow : between.current (layer, row, col) = keycode := by
    rw [show between = _ from htells]
    exact Function.update_self _ _ _
  rw [Answer.keycode.inj hgot, ← hnow]
  exact hsame hvw (layer, row, col)

omit [CoalescerTransport T] [Gmk67Io I] [SerdeJson Text] in
/-- Where there has been one worker only, it is the one that serves. -/
theorem serves_first (hworkers : b.engine.sup.workers.length = 1) {w : WorkerId} {id : String}
    (hserves : b.engine.sup.Serves w id) : w = 0 := by
  obtain ⟨x, hx, -⟩ := hserves
  have hlt := (List.getElem?_eq_some_iff.1 hx).1
  rw [hworkers] at hlt
  exact Nat.lt_one_iff.1 hlt

/-- The read comes after the edit, at the same worker, and gives what was set unless a job in
between disturbed it. -/
theorem reads_own_write_pair : ∃ (b : Bus (BoxedDriver MockTransport Board ShadowFile))
    (c c' : Call) (got : UInt16) (n m : Nat) (w : WorkerId) (before between after after' : Keys),
      run (step plainRendering Sys.coalescingTable) start getRun = some b ∧ b.calls = [c, c'] ∧
        c'.phase = .returned (some 2) (.ok (.keycode got)) ∧
        JobAt MockTransport.keymapStore plainRendering
          (history plainRendering Sys.coalescingTable getRun) b c n w before between ∧
        JobAt MockTransport.keymapStore plainRendering
          (history plainRendering Sys.coalescingTable getRun) b c' m w after after' ∧ n < m ∧
        (got = 4 ∨ ∃ d, ((history plainRendering Sys.coalescingTable getRun).filterMap
            Deed.opening)[w]? = some d ∧
          ∃ done ∈ (jobsOf w ((history plainRendering Sys.coalescingTable getRun).take m)).drop
            (jobsOf w ((history plainRendering Sys.coalescingTable getRun).take (n + 1))).length,
              Keys.Disturbs d.2.staged (0, 0, 0) done) := by
  have hset : (run (step plainRendering Sys.coalescingTable) start setRun).map
      (fun b => b.calls) = some [⟨.set_keycode "dev1" 0 0 0 4, .returned (some 1) (.ok .done)⟩] := by
    decide +kernel
  have hget : (run (step plainRendering Sys.coalescingTable) start getRun).map
      (fun b => (b.calls, b.engine.sup.workers.length)) =
        some ([⟨.set_keycode "dev1" 0 0 0 4, .returned (some 1) (.ok .done)⟩,
          ⟨.get_keycode "dev1" 0 0 0, .returned (some 2) (.ok (.keycode 4))⟩], 1) := by
    decide +kernel
  obtain ⟨a, ha, hfirst⟩ := Option.map_eq_some_iff.1 hset
  obtain ⟨b, hb, heq⟩ := Option.map_eq_some_iff.1 hget
  obtain ⟨hcalls, hworkers⟩ := Prod.mk.inj heq
  have hlater : ∀ d, a.calls[1]? = some d → d.phase = .sending := by
    intro d hd
    rw [hfirst] at hd
    cases hd
  obtain ⟨n, m, v, w, before, between, after, after', hjob, hjob', hnm, hsame⟩ :=
    reads_own_write MockTransport.keymapStore hb rfl ha rfl rfl
      (show a.calls[0]? = _ by rw [hfirst]; rfl) hlater (by rw [hcalls]; rfl)
  obtain ⟨id, -, hserves⟩ := hjob.serves
  obtain ⟨id', -, hserves'⟩ := hjob'.serves
  obtain rfl := serves_first hworkers hserves
  obtain rfl := serves_first hworkers hserves'
  exact ⟨b, _, _, 4, n, m, 0, before, between, after, after', hb, hcalls, rfl, hjob, hjob', hnm,
    hsame rfl⟩

end Bus

end Clackd.Ipc
