import Clackd.Cli.Runs
import Clackd.Cli.Session
import Clackd.Ipc.Keymap

/-!
# Commands on the one keymap

The interface serves one keymap to all its clients, and the commands are clients.  So what a
command tells its user is so, whatever other commands and clients do at the same time.

## Main results

* `keymap_commands`: what `get` and `keymap` print and what `set` and `commit` have done.
* `get_after_set`: what `get` prints after `set`.
-/

namespace Clackd.Cli

open Clackd.Foundation Clackd.Hal Clackd.Hal.Via Clackd.Hal.Legacy Clackd.Engine Clackd.Ipc

section Served

variable {T I Text : Type} [CoalescerTransport T] [Gmk67Io I] [SerdeJson Text]

/-- An exchange of a command is a call that it made itself, and this call was a job of the
worker that serves its device, at a place of the one order of driver calls that lies between
the coming in of the call and its return. -/
def Process.Job (R : KeymapStore T) (render : Rendering)
    (table : DriverTable (DeviceNode T I Text) (BoxedDriver T I Text))
    (ls : List (BusLabel (DeviceNode T I Text))) (b : Bus (BoxedDriver T I Text)) (c : Process)
    (k : Nat) (method : Method) (answer : Answer) (n : Nat) (w : WorkerId) (before after : Keys) :
    Prop :=
  ∃ (i : Nat) (call : Call), c.Asked b k i method answer ∧ b.calls[i]? = some call ∧
    b.JobAt R render (Bus.history render table ls) call n w before after ∧
      Bus.Within render table ls i n

/-- A command has read this keycode: its device's keymap had it at the place of the read. -/
def Process.Shows (R : KeymapStore T) (render : Rendering)
    (table : DriverTable (DeviceNode T I Text) (BoxedDriver T I Text))
    (ls : List (BusLabel (DeviceNode T I Text))) (b : Bus (BoxedDriver T I Text)) (c : Process)
    (id : String) (layer row col : UInt8) (code : UInt16) : Prop :=
  ∃ k n w keys, c.Job R render table ls b k (.get_keycode id layer row col) (.keycode code) n w
    keys keys ∧ keys.current (layer, row, col) = code

/-- What a command that has succeeded says of the keymap. -/
def Process.Tells (R : KeymapStore T) (render : Rendering)
    (table : DriverTable (DeviceNode T I Text) (BoxedDriver T I Text))
    (ls : List (BusLabel (DeviceNode T I Text))) (b : Bus (BoxedDriver T I Text)) (c : Process) :
    Prop :=
  match c.command with
  | .get device layer row col => ∃ id code, Picked device id c.exchanges ∧
      c.Shows R render table ls b id layer row col code ∧ c.out = [describe code ++ "\n"]
  | .keymap device layer => ∃ id model rows cols layer_count grids,
      Picked device id c.exchanges ∧
        (.get_device_info id, .ok (.info model rows cols layer_count)) ∈ c.exchanges ∧
        List.Forall₂ (fun layer => List.Forall₂ (fun row => List.Forall₂
          (c.Shows R render table ls b id layer row) (upTo cols)) (upTo rows))
          (layer.elim (upTo layer_count) fun l => [l]) grids ∧
        c.out = (List.zipWith (layer_text id (upTo cols))
          (layer.elim (upTo layer_count) fun l => [l]) grids).flatten ++ [LEGEND ++ "\n"]
  | .set device layer row col key => ∃ id code k n w before after,
      Picked device id c.exchanges ∧ parse_key key = .ok code ∧
        c.Job R render table ls b k (.set_keycode id layer row col code) .done n w before after ∧
        after = { before with
          current := Function.update before.current (layer, row, col) code }
  | .commit device => ∃ id k n w before after, Picked device id c.exchanges ∧
      c.Job R render table ls b k (.commit id) .done n w before after ∧
        after = .fresh before.current ∧
        ((play Deed.act [] ((Bus.history render table ls).take (n + 1)))[w]?.map
          fun device => device.2.kept R) = some before.current
  | _ => True

variable {display : BusError → String} {render : Rendering} {interval : Option Nat}
  {configs : List DeviceConfig} {ls : List (SessionLabel (DeviceNode T I Text))}
  {s : Session (BoxedDriver T I Text)} (R : KeymapStore T)
  (hrun : Foundation.run (Session.step display render (build_driver_table interval configs))
    Session.start ls = some s)
  {c : Process} (hc : c ∈ s.processes)

include hrun hc

/-- An answer to a command was a job on the keymap. -/
theorem job_of_answer {method : Method} {answer : Answer}
    (hmem : (method, .ok answer) ∈ c.exchanges) (hdevice : method.device.isSome = true) :
    ∃ k n w before after, c.Job R render (build_driver_table interval configs)
        (ls.filterMap SessionLabel.onBus) s.bus k method answer n w before after ∧
      method.tells before after answer ∧
      ∀ id, method = .commit id →
        ((play Deed.act [] ((Bus.history render (build_driver_table interval configs)
          (ls.filterMap SessionLabel.onBus)).take (n + 1)))[w]?.map
            fun device => device.2.kept R) = some before.current := by
  obtain ⟨p, hp⟩ := List.mem_iff_getElem?.1 hc
  obtain ⟨k, hk⟩ := List.mem_iff_getElem?.1 hmem
  obtain ⟨i, -, hasked⟩ :=
    ((Session.sound_run hrun).processes p c (Nat.zero_le p) hp).served k method answer hk
  obtain ⟨call, channel, hcall, rfl, hphase⟩ := hasked.2.2
  have hbus := Session.bus_run hrun
  obtain ⟨n, hplace⟩ :=
    Bus.exists_place_of_ok hbus (List.mem_of_getElem? hcall) hphase hdevice
  obtain ⟨w, before, after, hjob, htells, hkept⟩ := Bus.served_at R hbus hphase hdevice hplace
  exact ⟨k, n, w, before, after, ⟨i, call, hasked, hcall, hjob,
    Bus.place_within hbus hcall hplace⟩, htells, hkept⟩

theorem shows_of_read {id : String} {layer row col : UInt8} {code : UInt16}
    (hmem : ReadIn c.exchanges id layer row col code) :
    c.Shows R render (build_driver_table interval configs) (ls.filterMap SessionLabel.onBus)
      s.bus id layer row col code := by
  obtain ⟨k, n, w, before, after, hjob, ⟨hanswer, rfl⟩, -⟩ := job_of_answer R hrun hc hmem rfl
  exact ⟨k, n, w, after, hjob, (Answer.keycode.inj hanswer).symm⟩

/-- **Commands tell the truth.**  In every run of commands and other clients against the
daemon and its drivers, with any interleaving, a command that has succeeded has told or done
on the one keymap what it says, by calls of its own, each at a place of the one order of
driver calls that lies between the call and its return.  `get` prints the name of the
keycode that its device had at that position there; `keymap` prints all keys of the layers
so, each as it was when it was read; `set` has changed the position that it names, to the
key that it names, and nothing else; and `commit` has settled all edits before it, and left
them in the device. -/
theorem keymap_commands (hsucceeded : c.succeeded = true) :
    c.Tells R render (build_driver_table interval configs) (ls.filterMap SessionLabel.onBus)
      s.bus := by
  obtain ⟨p, hp⟩ := List.mem_iff_getElem?.1 hc
  have hfinished :=
    ((Session.sound_run hrun).processes p c (Nat.zero_le p) hp).finished hsucceeded
  rw [Process.Tells]
  split
  · rename_i device layer row col hcommand
    rw [hcommand] at hfinished
    obtain ⟨id, code, hpicked, hread, hout⟩ := finished_get hfinished
    exact ⟨id, code, hpicked, shows_of_read R hrun hc hread, hout⟩
  · rename_i device layer hcommand
    rw [hcommand] at hfinished
    obtain ⟨id, model, rows, cols, layer_count, grids, hpicked, hinfo, hgrids, hout⟩ :=
      finished_keymap hfinished
    refine ⟨id, model, rows, cols, layer_count, grids, hpicked, hinfo, ?_, hout⟩
    exact hgrids.imp fun _ _ hrows => hrows.imp fun _ _ hcols =>
      hcols.imp fun _ _ hread => shows_of_read R hrun hc hread
  · rename_i device layer row col key hcommand
    rw [hcommand] at hfinished
    obtain ⟨id, code, hpicked, hkey, hmem⟩ := finished_set hfinished
    obtain ⟨k, n, w, before, after, hjob, htells, -⟩ := job_of_answer R hrun hc hmem rfl
    exact ⟨id, code, k, n, w, before, after, hpicked, hkey, hjob, htells⟩
  · rename_i device hcommand
    rw [hcommand] at hfinished
    obtain ⟨id, hpicked, hmem⟩ := finished_commit hfinished
    obtain ⟨k, n, w, before, after, hjob, htells, hkept⟩ := job_of_answer R hrun hc hmem rfl
    exact ⟨id, k, n, w, before, after, hpicked, hjob, htells, hkept id rfl⟩
  · trivial

end Served

/-- The devices are listed for a command. -/
def listed (p i : Nat) : List (SessionLabel (DeviceNode MockTransport Board ShadowFile)) :=
  [.ask p .list_devices, .bus (.submit i),
    .bus (.engine (.supervise HashOrder.sorted Sys.viaNode)), .bus (.receive i), .hear p]

/-- A call of a command to the keyboard. -/
def served (p i : Nat) (method : Method) :
    List (SessionLabel (DeviceNode MockTransport Board ShadowFile)) :=
  [.ask p method, .bus (.submit i), .bus (.engine (.supervise HashOrder.sorted Sys.viaNode)),
    .bus (.engine (.worker 0 .recv)), .bus (.engine (.worker 0 (.finish HashOrder.sorted))),
    .bus (.receive i), .hear p]

/-- A key is set. -/
def keySet : List (SessionLabel (DeviceNode MockTransport Board ShadowFile)) :=
  [.bus (.engine (.enqueue (.deviceConnected "dev1" 0x05AC 0x024F "/dev/hidraw7"))),
    .bus (.engine (.supervise HashOrder.sorted Sys.viaNode)),
    .launch (.set "dev1" 0 0 0 "KC_A")] ++ listed 0 0 ++
      served 0 1 (.set_keycode "dev1" 0 0 0 4) ++ [.print 0]

/-- Then it is read. -/
def keyGot : List (SessionLabel (DeviceNode MockTransport Board ShadowFile)) :=
  [.launch (.get "0" 0 0 0)] ++ listed 1 2 ++ served 1 3 (.get_keycode "dev1" 0 0 0) ++
    [.print 1]

/-- Then all edits are committed. -/
def keysCommitted : List (SessionLabel (DeviceNode MockTransport Board ShadowFile)) :=
  [.launch (.commit "dev1")] ++ listed 2 4 ++ served 2 5 (.commit "dev1") ++ [.print 2]

/-- What the three commands tell. -/
theorem keymap_commands_get : ∃ s : Session (BoxedDriver MockTransport Board ShadowFile),
    Foundation.run (Session.step (fun _ => "") Bus.plainRendering Sys.coalescingTable)
        Session.start (keySet ++ keyGot ++ keysCommitted) = some s ∧
      s.processes.map (fun c => (c.command, c.calls)) =
        [(.set "dev1" 0 0 0 "KC_A", [0, 1]), (.get "0" 0 0 0, [2, 3]), (.commit "dev1", [4, 5])] ∧
      ∀ c ∈ s.processes, c.Tells MockTransport.keymapStore Bus.plainRendering Sys.coalescingTable
        ((keySet ++ keyGot ++ keysCommitted).filterMap SessionLabel.onBus) s.bus := by
  have hrun : (Foundation.run (Session.step (fun _ => "") Bus.plainRendering Sys.coalescingTable)
      Session.start (keySet ++ keyGot ++ keysCommitted)).map
        (fun s => (s.processes.map (fun c => (c.command, c.calls)),
          s.processes.all Process.succeeded)) =
        some ([(.set "dev1" 0 0 0 "KC_A", [0, 1]), (.get "0" 0 0 0, [2, 3]),
          (.commit "dev1", [4, 5])], true) := by
    decide +kernel
  obtain ⟨s, hs, heq⟩ := Option.map_eq_some_iff.1 hrun
  obtain ⟨hprocesses, hall⟩ := Prod.mk.inj heq
  refine ⟨s, hs, hprocesses, ?_⟩
  intro c hc
  exact keymap_commands MockTransport.keymapStore hs hc (List.all_eq_true.1 hall c hc)

section Later

variable {T I Text : Type} [CoalescerTransport T] [Gmk67Io I] [SerdeJson Text]

/-- Between two places, a job of the worker set the same position, or a commit failed. -/
def DisturbedBetween (history : List (Deed (BoxedDriver T I Text))) (v : WorkerId) (n m : Nat)
    (slot : Slot) : Prop :=
  ∃ d, (history.filterMap Deed.opening)[v]? = some d ∧
    ∃ done ∈ (jobsOf v (history.take m)).drop (jobsOf v (history.take (n + 1))).length,
      Keys.Disturbs d.2.staged slot done

variable {display : BusError → String} {render : Rendering} {interval : Option Nat}
  {configs : List DeviceConfig} {xs ys : List (SessionLabel (DeviceNode T I Text))}
  {a s : Session (BoxedDriver T I Text)}

/-- **What was set is what is shown.**  When `set` has succeeded, and then a `get` of the
same position of the same device is started and succeeds, it prints the name of the key that
was set; unless the device was attached anew in between, so that the two calls they made are
jobs of two workers, or between the places of these two calls a job of the worker set the
same position or was a commit that failed. -/
theorem get_after_set (R : KeymapStore T)
    (hxs : Foundation.run (Session.step display render (build_driver_table interval configs))
      Session.start xs = some a)
    (hys : Foundation.run (Session.step display render (build_driver_table interval configs))
      a ys = some s)
    {p q : Nat} {c c' : Process} {device device' key : String} {layer row col : UInt8}
    (hset : a.processes[p]? = some c) (hsucceeded : c.succeeded = true)
    (hcommand : c.command = .set device layer row col key)
    (hlater : a.processes.length ≤ q) (hget : s.processes[q]? = some c')
    (hsucceeded' : c'.succeeded = true) (hcommand' : c'.command = .get device' layer row col) :
    let table := build_driver_table interval configs
    let all := (xs ++ ys).filterMap SessionLabel.onBus
    ∃ id id' code shown, Picked device id c.exchanges ∧ Picked device' id' c'.exchanges ∧
      parse_key key = .ok code ∧ c'.out = [describe shown ++ "\n"] ∧
        (id' = id → ∃ k n v before between k' m w after after', n < m ∧
          c.Job R render table all s.bus k (.set_keycode id layer row col code) .done
            n v before between ∧
          c'.Job R render table all s.bus k' (.get_keycode id layer row col) (.keycode shown)
            m w after after' ∧
          (v = w → shown = code ∨
            DisturbedBetween (Bus.history render table all) v n m (layer, row, col))) := by
  intro table all
  have hsound := (Session.sound_run hxs).processes p c (Nat.zero_le p) hset
  have hsound' := (Session.sound_run hys).processes q c' hlater hget
  have hfinished := hsound.finished hsucceeded
  have hfinished' := hsound'.finished hsucceeded'
  rw [hcommand] at hfinished
  rw [hcommand'] at hfinished'
  obtain ⟨id, code, hpicked, hkey, hmem⟩ := finished_set hfinished
  obtain ⟨id', shown, hpicked', hread, hout⟩ := finished_get hfinished'
  refine ⟨id, id', code, shown, hpicked, hpicked', hkey, hout, ?_⟩
  rintro rfl
  obtain ⟨k, hk⟩ := List.mem_iff_getElem?.1 hmem
  obtain ⟨k', hk'⟩ := List.mem_iff_getElem?.1 hread
  obtain ⟨i, -, hexchange, hplace, ⟨method, phase⟩, channel, hcall, rfl, rfl⟩ :=
    hsound.served k _ _ hk
  obtain ⟨j, hj, hasked'⟩ := hsound'.served k' _ _ hk'
  obtain ⟨⟨method', phase'⟩, channel', hcall', rfl, rfl⟩ := hasked'.2.2
  have hnew : ∀ d, a.bus.calls[j]? = some d → d.phase = .sending := by
    intro d hd
    have hlt := (List.getElem?_eq_some_iff.1 hd).1
    omega
  have hrun : Foundation.run (Bus.step render table) Bus.start all = some s.bus :=
    Session.bus_run (run_append_some.2 ⟨a, hxs, hys⟩)
  have hsplit : all = xs.filterMap SessionLabel.onBus ++ ys.filterMap SessionLabel.onBus :=
    List.filterMap_append
  obtain ⟨n, m, v, w, before, between, after, after', hjob, hjob', hnm, htells, htells', hsame⟩ :=
    Bus.served_in_order R (hsplit ▸ hrun) (Session.bus_run hxs) rfl rfl rfl rfl hcall hnew hcall'
  rw [← hsplit] at hjob hjob' hsame
  have hkept := Bus.returned_run rfl hcall (Session.bus_run hys)
  have hasked : c.Asked s.bus k i _ _ := ⟨hexchange, hplace, _, channel, hkept, rfl, rfl⟩
  refine ⟨k, n, v, before, between, k', m, w, after, after', hnm,
    ⟨i, _, hasked, hkept, hjob, Bus.place_within hrun hkept hjob.place⟩,
    ⟨j, _, hasked', hcall', hjob', Bus.place_within hrun hcall' hjob'.place⟩, fun hvw => ?_⟩
  have hnow : between.current (layer, row, col) = code := by
    rw [show between = _ from htells]
    exact Function.update_self _ _ _
  rw [Answer.keycode.inj htells'.1, ← hnow]
  exact hsame hvw (layer, row, col)

end Later

/-- A spec that is an id or an index stands for that device. -/
theorem picked_direct {device id id' : String} {ids : List String}
    {exchanges : List (Method × Returned)} (hdirect : direct ids device = some id')
    (hlisted : exchanges[0]? = some (.list_devices, .ok (.devices ids)))
    (h : Picked device id exchanges) : id = id' := by
  obtain ⟨returned, lookups, rest, rfl, hresolution⟩ := h
  rw [List.getElem?_cons_zero] at hlisted
  obtain ⟨-, rfl⟩ := Prod.mk.inj (Option.some.inj hlisted)
  generalize hr : (Except.ok id : Except Failure String) = r at hresolution
  cases hresolution with
  | unlisted hcon => cases hcon
  | direct hid =>
      cases hr
      rw [hdirect] at hid
      exact (Option.some.inj hid).symm
  | searched hnone hlength =>
      rw [hdirect] at hnone
      cases hnone

/-- A command has succeeded, after this device alone was listed. -/
def listedOnly (c : Process) : Bool :=
  c.succeeded && c.exchanges[0]? = some (.list_devices, .ok (.devices ["dev1"]))

/-- What was set is read, by the same worker. -/
theorem get_after_set_pair :
    ∃ (s : Session (BoxedDriver MockTransport Board ShadowFile)) (c c' : Process)
      (code shown : UInt16) (k k' n m : Nat) (w : WorkerId) (before between after after' : Keys),
      Foundation.run (Session.step (fun _ => "") Bus.plainRendering Sys.coalescingTable)
          Session.start (keySet ++ keyGot) = some s ∧
        s.processes[1]? = some c' ∧ parse_key "KC_A" = .ok code ∧
        c'.out = [describe shown ++ "\n"] ∧ n < m ∧
        c.Job MockTransport.keymapStore Bus.plainRendering Sys.coalescingTable
          ((keySet ++ keyGot).filterMap SessionLabel.onBus) s.bus k
          (.set_keycode "dev1" 0 0 0 code) .done n w before between ∧
        c'.Job MockTransport.keymapStore Bus.plainRendering Sys.coalescingTable
          ((keySet ++ keyGot).filterMap SessionLabel.onBus) s.bus k'
          (.get_keycode "dev1" 0 0 0) (.keycode shown) m w after after' ∧
        (shown = code ∨ DisturbedBetween (Bus.history Bus.plainRendering Sys.coalescingTable
          ((keySet ++ keyGot).filterMap SessionLabel.onBus)) w n m (0, 0, 0)) := by
  have hset : (Foundation.run (Session.step (fun _ => "") Bus.plainRendering Sys.coalescingTable)
      Session.start keySet).map (fun s => s.processes.map fun c => (c.command, listedOnly c)) =
        some [(.set "dev1" 0 0 0 "KC_A", true)] := by
    decide +kernel
  have hget : (Foundation.run (Session.step (fun _ => "") Bus.plainRendering Sys.coalescingTable)
      Session.start (keySet ++ keyGot)).map
        (fun s => (s.bus.engine.sup.workers.length,
          s.processes[1]?.map fun c => (c.command, listedOnly c))) =
          some (1, some (.get "0" 0 0 0, true)) := by
    decide +kernel
  obtain ⟨a, ha, hfirst⟩ := Option.map_eq_some_iff.1 hset
  obtain ⟨s, hs, hboth⟩ := Option.map_eq_some_iff.1 hget
  have hys := run_suffix ha hs
  obtain ⟨hworkers, hsecond⟩ := Prod.mk.inj hboth
  obtain ⟨c, hprocesses, hceq⟩ := List.map_eq_singleton_iff.1 hfirst
  obtain ⟨c', hc', hceq'⟩ := Option.map_eq_some_iff.1 hsecond
  obtain ⟨hcommand, hlisted⟩ := Prod.mk.inj hceq
  obtain ⟨hcommand', hlisted'⟩ := Prod.mk.inj hceq'
  obtain ⟨hsucceeded, hfirst⟩ := Bool.and_eq_true_iff.1 hlisted
  obtain ⟨hsucceeded', hfirst'⟩ := Bool.and_eq_true_iff.1 hlisted'
  obtain ⟨id, id', code, shown, hpicked, hpicked', hkey, hout, hsame⟩ :=
    get_after_set MockTransport.keymapStore ha hys (p := 0) (q := 1) (by rw [hprocesses]; rfl)
      hsucceeded hcommand (by rw [hprocesses]; exact Nat.le_refl _) hc' hsucceeded' hcommand'
  obtain rfl : id = "dev1" :=
    picked_direct (by decide +kernel) (decide_eq_true_iff.1 hfirst) hpicked
  obtain rfl : id' = "dev1" :=
    picked_direct (by decide +kernel) (decide_eq_true_iff.1 hfirst') hpicked'
  obtain ⟨k, n, v, before, between, k', m, w, after, after', hnm, hjob, hjob', hshown⟩ := hsame rfl
  have honly : ∀ {c : Process} {k : Nat} {method : Method} {answer : Answer} {n : Nat}
      {w : WorkerId} {before after : Keys},
      c.Job MockTransport.keymapStore Bus.plainRendering Sys.coalescingTable
        ((keySet ++ keyGot).filterMap SessionLabel.onBus) s.bus k method answer n w before after →
          w = 0 := by
    rintro c k method answer n w before after ⟨i, call, -, -, hjob, -⟩
    obtain ⟨id, -, hserves⟩ := hjob.serves
    exact Bus.serves_first hworkers hserves
  obtain rfl := honly hjob
  obtain rfl := honly hjob'
  exact ⟨s, c, c', code, shown, k, k', n, m, 0, before, between, after, after', hs, hc', hkey, hout,
    hnm, hjob, hjob', hshown rfl⟩

end Clackd.Cli
