import Clackd.Engine.Messages
import Clackd.Foundation.Run
import Clackd.Foundation.Table

/-!
# Boot and hot-plug

`main` seeds the engine with the nodes that an enumeration finds, and only then
starts to listen for events.  The world does not wait: nodes are plugged and
unplugged between any two of its steps.  An event carries no attributes; they are
looked up when the pump gets to it, and by then the node may be gone or replaced.

## Main results

* `settled_pump`: delivering an event does not change what the engine will have been
  told in the end.
* `boot_misses_no_hotplug_iff`: over every run, whenever the events are drained the
  engine has been told of exactly the eligible nodes, exactly if the scan and the
  start of listening agree on the nodes that no event has settled since.
-/

namespace Clackd.Boot

open Clackd.Foundation Clackd.Engine
open Std (ExtTreeMap)

/-! ## Devices and events -/

/-- The USB attributes that are read off a parent, as far as they exist and are
text. -/
structure UsbDevice where
  idVendor : Option String
  idProduct : Option String
  deriving DecidableEq, Repr

/-- A device as udev shows it, with its USB parent if it has one. -/
structure Device where
  sysname : String
  devnode : Option String
  usb_parent : Option UsbDevice
  deriving DecidableEq, Repr

/-- `char::is_whitespace`. -/
def is_whitespace (c : Char) : Bool :=
  (0x09 ≤ c.toNat && c.toNat ≤ 0x0D) || c.toNat == 0x20 || c.toNat == 0x85 ||
    c.toNat == 0xA0 || c.toNat == 0x1680 || (0x2000 ≤ c.toNat && c.toNat ≤ 0x200A) ||
    c.toNat == 0x2028 || c.toNat == 0x2029 || c.toNat == 0x202F || c.toNat == 0x205F ||
    c.toNat == 0x3000

/-- `str::trim`. -/
def trim (s : List Char) : List Char :=
  ((s.dropWhile is_whitespace).reverse.dropWhile is_whitespace).reverse

/-- `char::to_digit(16)`. -/
def to_digit_16 (c : Char) : Option Nat :=
  if 0x30 ≤ c.toNat ∧ c.toNat ≤ 0x39 then some (c.toNat - 0x30)
  else if 0x41 ≤ c.toNat ∧ c.toNat ≤ 0x46 then some (c.toNat - 0x41 + 10)
  else if 0x61 ≤ c.toNat ∧ c.toNat ≤ 0x66 then some (c.toNat - 0x61 + 10)
  else none

/-- `u16::from_str_radix(s, 16)`: one leading plus sign is allowed, and no
overflow. -/
def u16_from_hex (s : List Char) : Option UInt16 :=
  let digits := if s.head? = some '+' then s.tail else s
  if digits.isEmpty then none
  else
    (digits.foldlM (fun n c => do
      let d ← to_digit_16 c
      if n * 16 + d < 65536 then some (n * 16 + d) else none) 0).map UInt16.ofNat

/-- Reads a 4-digit hex USB attribute. -/
def parse_usb_id (value : Option String) : Option UInt16 := do
  let raw ← value
  u16_from_hex (trim raw.toList)

/-- A session-stable identifier of the device: its sysname. -/
def stable_device_id (d : Device) : Option String := some d.sysname

/-- The connect command of a fully resolved device. -/
def device_to_connect_command (d : Device) : Option EngineCommand := do
  let devnode ← d.devnode
  let device_id ← stable_device_id d
  let usb_parent ← d.usb_parent
  let vendor_id ← parse_usb_id usb_parent.idVendor
  let product_id ← parse_usb_id usb_parent.idProduct
  some (.deviceConnected device_id vendor_id product_id devnode)

inductive EventType where
  | add
  | remove
  /-- `Change`, `Bind`, `Unbind` and the rest. -/
  | other
  deriving DecidableEq, Repr

/-- Translates a single udev event into an engine command. -/
def event_to_command (event_type : EventType) (device : Device) : Option EngineCommand :=
  match event_type with
  | .add => device_to_connect_command device
  | .remove => do
      let device_id ← stable_device_id device
      some (.deviceDisconnected device_id)
  | .other => none

/-! ## The system -/

/-- A hidraw node, with a number that tells the plugs apart. -/
structure Node where
  serial : Nat
  devnode : Option String
  usb_parent : Option UsbDevice
  deriving DecidableEq, Repr

def Node.device (sysname : String) (node : Node) : Device where
  sysname := sysname
  devnode := node.devnode
  usb_parent := node.usb_parent

/-- An event in the monitor's socket. -/
structure Event where
  event_type : EventType
  sysname : String
  serial : Nat
  deriving DecidableEq, Repr

/-- How far `main` has come. -/
inductive Stage where
  | booting
  /-- The scan is done, and these of its commands are not sent yet. -/
  | seeding (rest : List EngineCommand)
  | listening
  deriving DecidableEq, Repr

/-- The nodes that are present, by sysname. -/
abbrev Nodes : Type := ExtTreeMap String Node

/-- The machine: its nodes, `main`, the monitor's socket and the engine's queue. -/
structure World where
  nodes : Nodes
  /-- How many nodes have been plugged so far. -/
  plugs : Nat
  stage : Stage
  socket : List Event
  /-- What was sent to the engine. -/
  engine : List EngineCommand
  /-- What the scan returned. -/
  seen : Nodes
  /-- The nodes at the start of listening. -/
  heard : Nodes
  /-- The nodes unplugged since, or plugged and eligible. -/
  announced : List String

/-- What happens. -/
inductive Move where
  | plug (sysname : String) (devnode : Option String) (usb_parent : Option UsbDevice)
  | unplug (sysname : String)
  | change (sysname : String)
  | scan
  | scan_fails
  | seed
  | listen
  /-- The pump takes an event; `stale` is what it finds if the node is not the one
  the event was about. -/
  | pump (stale : Node)
  deriving DecidableEq, Repr

/-- The engine is told of this node when it is found. -/
def eligible (nodes : Nodes) (sysname : String) : Bool :=
  (nodes[sysname]?.bind fun node => device_to_connect_command (node.device sysname)).isSome

/-- The commands that the scan turns the nodes into. -/
def seeds (nodes : Nodes) : List EngineCommand :=
  nodes.toList.filterMap fun entry => device_to_connect_command (entry.2.device entry.1)

/-- The node an event is about is still the one that is present. -/
def current (nodes : Nodes) (event : Event) : Bool :=
  match nodes[event.sysname]? with
  | some node => node.serial == event.serial
  | none => false

namespace World

/-- The monitor queues an event once it listens. -/
def hear (w : World) (event : Event) : World :=
  if w.stage = .listening then { w with socket := w.socket ++ [event] } else w

/-- The record of what events have settled. -/
def announce (w : World) (sysname : String) : World :=
  if w.stage = .listening then { w with announced := sysname :: w.announced } else w

/-- The device of an event, looked up now. -/
def lookup (w : World) (event : Event) (stale : Node) : Device :=
  match w.nodes[event.sysname]? with
  | some node => if node.serial = event.serial then node.device event.sysname
      else stale.device event.sysname
  | none => stale.device event.sysname

def step (w : World) : Move → Option World
  | .plug sysname devnode usb_parent =>
      if w.nodes[sysname]?.isSome then none
      else
        let nodes := w.nodes.insert sysname ⟨w.plugs, devnode, usb_parent⟩
        let w' := { w with nodes := nodes, plugs := w.plugs + 1 }.hear ⟨.add, sysname, w.plugs⟩
        some (if eligible nodes sysname then w'.announce sysname else w')
  | .unplug sysname =>
      match w.nodes[sysname]? with
      | none => none
      | some node =>
          some ({ w with nodes := w.nodes.erase sysname }.hear
            ⟨.remove, sysname, node.serial⟩ |>.announce sysname)
  | .change sysname =>
      match w.nodes[sysname]? with
      | none => none
      | some node => some (w.hear ⟨.other, sysname, node.serial⟩)
  | .scan =>
      match w.stage with
      | .booting => some { w with stage := .seeding (seeds w.nodes), seen := w.nodes }
      | _ => none
  | .scan_fails =>
      match w.stage with
      | .booting => some { w with stage := .seeding [] }
      | _ => none
  | .seed =>
      match w.stage with
      | .seeding (command :: rest) =>
          some { w with stage := .seeding rest, engine := w.engine ++ [command] }
      | _ => none
  | .listen =>
      match w.stage with
      | .seeding [] => some { w with stage := .listening, heard := w.nodes }
      | _ => none
  | .pump stale =>
      match w.stage, w.socket with
      | .listening, event :: socket =>
          some { w with
            socket := socket
            engine := w.engine ++
              (event_to_command event.event_type (w.lookup event stale)).toList }
      | _, _ => none

/-- Before anything is plugged. -/
def start : World := ⟨∅, 0, .booting, [], [], ∅, ∅, []⟩

end World

/-! ## What the engine has been told -/

/-- A command that says whether a device is there. -/
def concerns (sysname : String) : EngineCommand → Bool
  | .deviceConnected device_id _ _ _ => device_id == sysname
  | .deviceDisconnected device_id => device_id == sysname
  | _ => false

/-- The last delivered command about a device is `DeviceConnected`. -/
def connected (engine : List EngineCommand) (sysname : String) : Bool :=
  match engine.reverse.find? (concerns sysname) with
  | some (.deviceConnected _ _ _ _) => true
  | _ => false

namespace World

/-- All events have been delivered. -/
def Drained (w : World) : Prop := w.stage = .listening ∧ w.socket = []

/-- The devices whose last command is `DeviceConnected` are the eligible nodes. -/
def Told (w : World) : Prop := ∀ sysname, connected w.engine sysname = eligible w.nodes sysname

/-- A node that no event has settled since is eligible at the scan exactly if it is
so at the start of listening.  Nodes are known by their names, as devices are to the engine:
another board that was plugged in between under the same name counts as agreeing. -/
def Agreed (w : World) : Prop :=
  ∀ sysname, sysname ∉ w.announced → eligible w.seen sysname = eligible w.heard sysname

end World

/-! ## What the engine will have been told -/

section Settling

variable {nodes : Nodes} {sysname : String}

/-- What an event makes of whether its device counts as connected, if the lookup
finds what is there now. -/
def verdict (nodes : Nodes) (sysname : String) (c : Bool) (event : Event) : Bool :=
  if event.sysname = sysname then
    match event.event_type with
    | .add => if current nodes event && eligible nodes sysname then true else c
    | .remove => false
    | .other => c
  else c

/-- The same for all that are still queued. -/
def settled (nodes : Nodes) (sysname : String) (c : Bool) (socket : List Event) : Bool :=
  socket.foldl (verdict nodes sysname) c

/-- The socket still tells of the removal of a device. -/
def Removes (sysname : String) (socket : List Event) : Prop :=
  ∃ event ∈ socket, event.event_type = .remove ∧ event.sysname = sysname

/-- What the lookup of an added device may get wrong, a later removal sets right. -/
def Resolvable (nodes : Nodes) : List Event → Prop
  | [] => True
  | event :: socket =>
      (event.event_type = .add → current nodes event = true ∨ Removes event.sysname socket) ∧
        Resolvable nodes socket

@[simp] theorem settled_nil (c : Bool) : settled nodes sysname c [] = c := rfl

@[simp] theorem settled_cons (c : Bool) (event : Event) (socket : List Event) :
    settled nodes sysname c (event :: socket) =
      settled nodes sysname (verdict nodes sysname c event) socket := rfl

@[simp] theorem settled_snoc (c : Bool) (socket : List Event) (event : Event) :
    settled nodes sysname c (socket ++ [event]) =
      verdict nodes sysname (settled nodes sysname c socket) event := by
  simp [settled]

theorem verdict_other {event : Event} (h : event.sysname ≠ sysname) (c : Bool) :
    verdict nodes sysname c event = c := if_neg h

/-- After a removal it does not matter what was told before. -/
theorem settled_of_removes {socket : List Event} (h : Removes sysname socket) (c c' : Bool) :
    settled nodes sysname c socket = settled nodes sysname c' socket := by
  induction socket generalizing c c' with
  | nil =>
      obtain ⟨event, hmem, -⟩ := h
      cases hmem
  | cons event socket ih =>
      obtain ⟨removal, hmem, htype, hname⟩ := h
      rcases List.mem_cons.1 hmem with rfl | hmem
      · simp [verdict, htype, hname]
      · rw [settled_cons, settled_cons]
        exact ih ⟨removal, hmem, htype, hname⟩ _ _

/-- Only what events can see of the nodes matters. -/
theorem settled_congr {nodes' : Nodes} {socket : List Event}
    (h : ∀ event ∈ socket, ∀ c, verdict nodes sysname c event = verdict nodes' sysname c event)
    (c : Bool) : settled nodes sysname c socket = settled nodes' sysname c socket := by
  induction socket generalizing c with
  | nil => rfl
  | cons event socket ih =>
      rw [settled_cons, settled_cons, h event List.mem_cons_self]
      exact ih (fun e he => h e (List.mem_cons_of_mem event he)) _

theorem Resolvable.snoc {socket : List Event} {event : Event} (h : Resolvable nodes socket)
    (hevent : event.event_type = .add → current nodes event = true) :
    Resolvable nodes (socket ++ [event]) := by
  induction socket with
  | nil => exact ⟨fun hadd => .inl (hevent hadd), trivial⟩
  | cons e socket ih =>
      refine ⟨?_, ih h.2⟩
      intro hadd
      rcases h.1 hadd with hcurrent | ⟨removal, hmem, hremoval⟩
      · exact .inl hcurrent
      · exact .inr ⟨removal, List.mem_append_left _ hmem, hremoval⟩

theorem Resolvable.mono {nodes' : Nodes} {socket : List Event} (h : Resolvable nodes socket)
    (hcurrent : ∀ event ∈ socket, current nodes event = true → current nodes' event = true) :
    Resolvable nodes' socket := by
  induction socket with
  | nil => trivial
  | cons event socket ih =>
      refine ⟨?_, ih h.2 fun e he => hcurrent e (List.mem_cons_of_mem event he)⟩
      intro hadd
      rcases h.1 hadd with hnow | hremoves
      · exact .inl (hcurrent event List.mem_cons_self hnow)
      · exact .inr hremoves

/-- The removal of a device settles all that its events get wrong. -/
theorem Resolvable.unplug {nodes' : Nodes} {socket : List Event} (h : Resolvable nodes socket)
    (hother : ∀ event : Event, event.sysname ≠ sysname → current nodes' event = current nodes event)
    (serial : Nat) : Resolvable nodes' (socket ++ [⟨.remove, sysname, serial⟩]) := by
  induction socket with
  | nil => exact ⟨nofun, trivial⟩
  | cons event socket ih =>
      refine ⟨?_, ih h.2⟩
      intro hadd
      by_cases hname : event.sysname = sysname
      · exact .inr ⟨⟨.remove, sysname, serial⟩, by simp, rfl, hname.symm⟩
      · rcases h.1 hadd with hnow | ⟨removal, hmem, hremoval⟩
        · exact .inl (by rw [hother event hname, hnow])
        · exact .inr ⟨removal, List.mem_append_left _ hmem, hremoval⟩

theorem eligible_congr {nodes' : Nodes} (h : nodes'[sysname]? = nodes[sysname]?) :
    eligible nodes' sysname = eligible nodes sysname := by
  simp only [eligible, h]

theorem current_congr {nodes' : Nodes} {event : Event}
    (h : nodes'[event.sysname]? = nodes[event.sysname]?) :
    current nodes' event = current nodes event := by
  simp only [current, h]

theorem verdict_congr {nodes' : Nodes} (h : nodes'[sysname]? = nodes[sysname]?) (c : Bool)
    (event : Event) : verdict nodes' sysname c event = verdict nodes sysname c event := by
  by_cases hname : event.sysname = sysname
  · subst hname
    simp only [verdict, current_congr h, eligible_congr h]
  · rw [verdict_other hname, verdict_other hname]

end Settling

/-! ## What the commands tell -/

theorem connect_command {d : Device} {command : EngineCommand}
    (h : device_to_connect_command d = some command) :
    ∃ vendor_id product_id path, command = .deviceConnected d.sysname vendor_id product_id path := by
  simp only [device_to_connect_command, stable_device_id, Option.bind_eq_bind,
    Option.bind_eq_some_iff, Option.some.injEq] at h
  obtain ⟨path, -, _, rfl, -, -, vendor_id, -, product_id, -, rfl⟩ := h
  exact ⟨vendor_id, product_id, path, rfl⟩

theorem connected_connect (engine : List EngineCommand) (device_id : String)
    (vendor_id product_id : UInt16) (path sysname : String) :
    connected (engine ++ [.deviceConnected device_id vendor_id product_id path]) sysname =
      if device_id = sysname then true else connected engine sysname := by
  by_cases h : device_id = sysname <;> simp [connected, concerns, h]

theorem connected_disconnect (engine : List EngineCommand) (device_id sysname : String) :
    connected (engine ++ [.deviceDisconnected device_id]) sysname =
      if device_id = sysname then false else connected engine sysname := by
  by_cases h : device_id = sysname <;> simp [connected, concerns, h]

theorem connected_added (engine : List EngineCommand) (d : Device) (sysname : String) :
    connected (engine ++ (device_to_connect_command d).toList) sysname =
      if d.sysname = sysname then
        ((device_to_connect_command d).isSome || connected engine sysname)
      else connected engine sysname := by
  cases hcommand : device_to_connect_command d with
  | none => simp
  | some command =>
      obtain ⟨vendor_id, product_id, path, rfl⟩ := connect_command hcommand
      rw [Option.toList_some, connected_connect]
      simp

/-- A list of connect commands tells of the devices in it. -/
theorem connected_of_connects {commands : List EngineCommand}
    (h : ∀ command ∈ commands, ∃ device_id vendor_id product_id path,
      command = .deviceConnected device_id vendor_id product_id path) (sysname : String) :
    connected commands sysname = commands.any (concerns sysname) := by
  rw [connected]
  cases hfind : commands.reverse.find? (concerns sysname) with
  | none =>
      rw [List.find?_eq_none] at hfind
      symm
      rw [List.any_eq_false]
      intro command hmem
      exact hfind command (List.mem_reverse.2 hmem)
  | some command =>
      have hmem := List.mem_reverse.1 (List.mem_of_find?_eq_some hfind)
      have hconcerns : concerns sysname command = true := List.find?_some hfind
      obtain ⟨device_id, vendor_id, product_id, path, rfl⟩ := h command hmem
      exact (List.any_eq_true.2 ⟨_, hmem, hconcerns⟩).symm

/-- The seeds tell of exactly the eligible nodes. -/
theorem connected_seeds (nodes : Nodes) (sysname : String) :
    connected (seeds nodes) sysname = eligible nodes sysname := by
  have hconnects : ∀ command ∈ seeds nodes, ∃ device_id vendor_id product_id path,
      command = .deviceConnected device_id vendor_id product_id path := by
    intro command hmem
    obtain ⟨entry, -, hcommand⟩ := List.mem_filterMap.1 hmem
    obtain ⟨vendor_id, product_id, path, rfl⟩ := connect_command hcommand
    exact ⟨_, vendor_id, product_id, path, rfl⟩
  rw [connected_of_connects hconnects, Bool.eq_iff_iff, List.any_eq_true, eligible,
    Option.isSome_iff_exists]
  constructor
  · rintro ⟨command, hmem, hconcerns⟩
    obtain ⟨⟨name, node⟩, hentry, hcommand⟩ := List.mem_filterMap.1 hmem
    obtain ⟨vendor_id, product_id, path, rfl⟩ := connect_command hcommand
    obtain rfl : name = sysname := by simpa [concerns, Node.device] using hconcerns
    rw [ExtTreeMap.mem_toList_iff_getElem?_eq_some] at hentry
    exact ⟨_, by rw [hentry, Option.bind_some, hcommand]⟩
  · rintro ⟨command, hcommand⟩
    obtain ⟨node, hnode, hconnect⟩ := Option.bind_eq_some_iff.1 hcommand
    refine ⟨command, List.mem_filterMap.2 ⟨(sysname, node), ?_, hconnect⟩, ?_⟩
    · rw [ExtTreeMap.mem_toList_iff_getElem?_eq_some]
      exact hnode
    · obtain ⟨vendor_id, product_id, path, rfl⟩ := connect_command hconnect
      simp [concerns, Node.device]

namespace World

/-- Delivering an event does not change what the engine will have been told. -/
theorem settled_pump {w : World} {event : Event} {socket : List Event}
    (h : Resolvable w.nodes (event :: socket)) (stale : Node) (sysname : String) :
    settled w.nodes sysname (connected (w.engine ++
        (event_to_command event.event_type (w.lookup event stale)).toList) sysname) socket =
      settled w.nodes sysname (connected w.engine sysname) (event :: socket) := by
  have hname : (w.lookup event stale).sysname = event.sysname := by
    unfold lookup
    split
    · split <;> rfl
    · rfl
  rw [settled_cons]
  cases htype : event.event_type with
  | remove =>
      simp only [event_to_command, stable_device_id, Option.bind_eq_bind, Option.bind_some,
        Option.toList_some, connected_disconnect, hname, verdict, htype]
  | other => simp [event_to_command, verdict, htype]
  | add =>
      simp only [event_to_command, connected_added, hname]
      by_cases hother : event.sysname = sysname
      · subst hother
        rcases h.1 htype with hnow | hremoves
        · have hlookup : (device_to_connect_command (w.lookup event stale)).isSome =
              eligible w.nodes event.sysname := by
            unfold current at hnow
            unfold lookup eligible
            cases hnode : w.nodes[event.sysname]? with
            | none => simp [hnode] at hnow
            | some node =>
                simp only [hnode, beq_iff_eq] at hnow
                simp [hnow]
          rw [hlookup]
          congr 1
          cases heligible : eligible w.nodes event.sysname <;>
            simp [verdict, htype, hnow, heligible]
        · exact settled_of_removes hremoves _ _
      · rw [if_neg hother, verdict_other hother]

end World

/-! ## Runs -/

namespace World

/-- What holds while the pump runs. -/
structure Listening (w : World) : Prop where
  resolvable : Resolvable w.nodes w.socket
  announced : ∀ sysname ∈ w.announced,
    settled w.nodes sysname (connected w.engine sysname) w.socket = eligible w.nodes sysname
  unannounced : ∀ sysname, sysname ∉ w.announced →
    settled w.nodes sysname (connected w.engine sysname) w.socket = eligible w.seen sysname ∧
      eligible w.nodes sysname = eligible w.heard sysname

/-- What holds at each stage. -/
def Staged (w : World) : Prop :=
  match w.stage with
  | .booting => w.engine = [] ∧ w.socket = [] ∧ w.announced = [] ∧ w.seen = ∅
  | .seeding rest => w.engine ++ rest = seeds w.seen ∧ w.socket = [] ∧ w.announced = []
  | .listening => w.Listening

/-- What every move keeps. -/
structure Sound (w : World) : Prop where
  numbered : ∀ (sysname : String) (node : Node), w.nodes[sysname]? = some node → node.serial < w.plugs
  queued : ∀ event ∈ w.socket, event.serial < w.plugs
  staged : w.Staged

theorem sound_start : start.Sound where
  numbered := by
    intro sysname node h
    simp [start] at h
  queued := by
    intro event h
    cases h
  staged := ⟨rfl, rfl, rfl, rfl⟩

/-- Before the monitor listens, the coming and going of nodes changes nothing else. -/
theorem Sound.quiet {w : World} (h : w.Sound) (hstage : w.stage ≠ .listening) (nodes : Nodes)
    (plugs : Nat) (hplugs : w.plugs ≤ plugs)
    (hnumbered : ∀ (sysname : String) (node : Node), nodes[sysname]? = some node → node.serial < plugs) :
    ({ w with nodes := nodes, plugs := plugs } : World).Sound where
  numbered := hnumbered
  queued := fun event hevent => (h.queued event hevent).trans_le hplugs
  staged := by
    have hstaged := h.staged
    unfold Staged at hstaged ⊢
    revert hstaged
    cases hw : w.stage with
    | booting => exact id
    | seeding rest => exact id
    | listening => exact absurd hw hstage

section Listening

variable {w : World} (h : w.Sound) (hstage : w.stage = .listening)

include h hstage

theorem Sound.listening : w.Listening := by
  have hstaged := h.staged
  simpa only [Staged, hstage] using hstaged

omit hstage in
/-- The queued events do not tell of a new node. -/
theorem settled_plug {sysname : String} (hnew : w.nodes[sysname]? = none) (node : Node)
    (hserial : node.serial = w.plugs) (name : String) (c : Bool) :
    settled (w.nodes.insert sysname node) name c w.socket = settled w.nodes name c w.socket := by
  apply settled_congr
  intro event hevent c
  by_cases hname : name = sysname
  · subst hname
    by_cases hother : event.sysname = name
    · -- No queued event is about the new node, and before it there was none.
      have hqueued := h.queued event hevent
      have hold : current w.nodes event = false := by simp [current, hother, hnew]
      have hnow : current (w.nodes.insert name node) event = false := by
        simp only [current, hother, lookup_insert_self, hserial, beq_eq_false_iff_ne]
        omega
      simp [verdict, hold, hnow]
    · rw [verdict_other hother, verdict_other hother]
  · exact verdict_congr (lookup_insert_ne _ _ (Ne.symm hname)) c event

theorem Listening.plugged {sysname : String} (hnew : w.nodes[sysname]? = none) (node : Node)
    (hserial : node.serial = w.plugs) (announced : List String)
    (hannounced : announced = if eligible (w.nodes.insert sysname node) sysname then
      sysname :: w.announced else w.announced) :
    Listening { w with
      nodes := w.nodes.insert sysname node
      plugs := w.plugs + 1
      socket := w.socket ++ [⟨.add, sysname, w.plugs⟩]
      announced := announced } := by
  have hlistening := h.listening hstage
  have hold : eligible w.nodes sysname = false := by simp [eligible, hnew]
  have hnow : current (w.nodes.insert sysname node) ⟨.add, sysname, w.plugs⟩ = true := by
    simp [current, hserial]
  have hverdict : ∀ c, verdict (w.nodes.insert sysname node) sysname c ⟨.add, sysname, w.plugs⟩ =
      (eligible (w.nodes.insert sysname node) sysname || c) := by
    intro c
    cases heligible : eligible (w.nodes.insert sysname node) sysname <;>
      simp [verdict, hnow, heligible]
  have helse : ∀ name, name ≠ sysname →
      eligible (w.nodes.insert sysname node) name = eligible w.nodes name := by
    intro name hname
    exact eligible_congr (lookup_insert_ne _ _ hname.symm)
  have hsettled : ∀ name c, settled (w.nodes.insert sysname node) name c
      (w.socket ++ [⟨.add, sysname, w.plugs⟩]) =
        if name = sysname then
          (eligible (w.nodes.insert sysname node) sysname || settled w.nodes sysname c w.socket)
        else settled w.nodes name c w.socket := by
    intro name c
    rw [settled_snoc, settled_plug h hnew node hserial]
    by_cases hname : name = sysname
    · subst hname
      rw [hverdict, if_pos rfl]
    · rw [verdict_other (Ne.symm hname), if_neg hname]
  constructor
  · apply Resolvable.snoc
    · apply hlistening.resolvable.mono
      intro event _ hcurrent
      by_cases hname : event.sysname = sysname
      · simp [current, hname, hnew] at hcurrent
      · rw [current_congr (lookup_insert_ne _ _ (Ne.symm hname)), hcurrent]
    · intro _
      exact hnow
  · intro name hmem
    show settled _ name _ _ = eligible (w.nodes.insert sysname node) name
    rw [hsettled]
    by_cases hname : name = sysname
    · subst hname
      cases heligible : eligible (w.nodes.insert name node) name with
      | true => simp
      | false =>
          simp only [hannounced, heligible, Bool.false_eq_true, if_false] at hmem
          rw [if_pos rfl, Bool.false_or, hlistening.announced name hmem, hold]
    · have hmem' : name ∈ w.announced := by
        simp only [hannounced] at hmem
        split at hmem
        · exact (List.mem_cons.1 hmem).resolve_left hname
        · exact hmem
      rw [if_neg hname, helse name hname, hlistening.announced name hmem']
  · intro name hmem
    show settled _ name _ _ = _ ∧ eligible (w.nodes.insert sysname node) name = _
    rw [hsettled]
    have hmem' : name ∉ w.announced := by
      simp only [hannounced] at hmem
      split at hmem
      · exact fun hcon => hmem (List.mem_cons_of_mem _ hcon)
      · exact hmem
    obtain ⟨htold, hsame⟩ := hlistening.unannounced name hmem'
    by_cases hname : name = sysname
    · subst hname
      cases heligible : eligible (w.nodes.insert name node) name with
      | true => simp [hannounced, heligible] at hmem
      | false =>
          rw [if_pos rfl, Bool.false_or, ← hsame, hold]
          exact ⟨htold, rfl⟩
    · rw [if_neg hname, helse name hname]
      exact ⟨htold, hsame⟩

theorem Listening.unplugged {sysname : String} (serial : Nat) :
    Listening { w with
      nodes := w.nodes.erase sysname
      socket := w.socket ++ [⟨.remove, sysname, serial⟩]
      announced := sysname :: w.announced } := by
  have hlistening := h.listening hstage
  have helse : ∀ name, name ≠ sysname →
      (w.nodes.erase sysname)[name]? = w.nodes[name]? := by
    intro name hname
    exact lookup_erase_ne _ hname.symm
  have hsettled : ∀ name c, settled (w.nodes.erase sysname) name c
      (w.socket ++ [⟨.remove, sysname, serial⟩]) =
        if name = sysname then false else settled w.nodes name c w.socket := by
    intro name c
    rw [settled_snoc]
    by_cases hname : name = sysname
    · simp [verdict, hname]
    · rw [verdict_other (Ne.symm hname), if_neg hname]
      exact settled_congr (fun event _ c => verdict_congr (helse name hname) c event) c
  constructor
  · apply hlistening.resolvable.unplug
    intro event hname
    exact current_congr (helse _ hname)
  · intro name hmem
    show settled _ name _ _ = eligible (w.nodes.erase sysname) name
    rw [hsettled]
    by_cases hname : name = sysname
    · simp [hname, eligible]
    · have hmem' := (List.mem_cons.1 hmem).resolve_left hname
      rw [if_neg hname, hlistening.announced name hmem', eligible_congr (helse name hname)]
  · intro name hmem
    show settled _ name _ _ = _ ∧ eligible (w.nodes.erase sysname) name = _
    have hname : name ≠ sysname := fun hcon => hmem (hcon ▸ List.mem_cons_self)
    rw [hsettled, if_neg hname, eligible_congr (helse name hname)]
    exact hlistening.unannounced name fun hcon => hmem (List.mem_cons_of_mem _ hcon)

theorem Listening.changed (sysname : String) (serial : Nat) :
    Listening { w with socket := w.socket ++ [⟨.other, sysname, serial⟩] } := by
  have hlistening := h.listening hstage
  have hsettled : ∀ name c, settled w.nodes name c (w.socket ++ [⟨.other, sysname, serial⟩]) =
      settled w.nodes name c w.socket := by
    intro name c
    rw [settled_snoc]
    simp [verdict]
  constructor
  · exact hlistening.resolvable.snoc nofun
  · intro name hmem
    show settled _ name _ _ = eligible w.nodes name
    rw [hsettled]
    exact hlistening.announced name hmem
  · intro name hmem
    show settled _ name _ _ = _ ∧ eligible w.nodes name = _
    rw [hsettled]
    exact hlistening.unannounced name hmem

theorem Listening.pumped {event : Event} {socket : List Event}
    (hsocket : w.socket = event :: socket) (stale : Node) :
    Listening { w with
      socket := socket
      engine := w.engine ++
        (event_to_command event.event_type (w.lookup event stale)).toList } := by
  have hlistening := h.listening hstage
  have hresolvable := hlistening.resolvable
  rw [hsocket] at hresolvable
  constructor
  · exact hresolvable.2
  · intro name hmem
    show settled w.nodes name (connected _ name) socket = eligible w.nodes name
    rw [settled_pump hresolvable, ← hsocket]
    exact hlistening.announced name hmem
  · intro name hmem
    show settled w.nodes name (connected _ name) socket = _ ∧ eligible w.nodes name = _
    rw [settled_pump hresolvable, ← hsocket]
    exact hlistening.unannounced name hmem

end Listening

/-! ### What the moves of the nodes come to, by stage -/

theorem step_plug_listening {w : World} (hstage : w.stage = .listening) {sysname : String}
    (hnew : w.nodes[sysname]? = none) (devnode : Option String) (usb_parent : Option UsbDevice) :
    w.step (.plug sysname devnode usb_parent) = some { w with
      nodes := w.nodes.insert sysname ⟨w.plugs, devnode, usb_parent⟩
      plugs := w.plugs + 1
      socket := w.socket ++ [⟨.add, sysname, w.plugs⟩]
      announced := if eligible (w.nodes.insert sysname ⟨w.plugs, devnode, usb_parent⟩) sysname then
        sysname :: w.announced else w.announced } := by
  simp only [step, hnew, hear, announce, hstage, if_true, Option.isSome_none, Bool.false_eq_true,
    if_false]
  split <;> rfl

theorem step_plug_quiet {w : World} (hstage : w.stage ≠ .listening) {sysname : String}
    (hnew : w.nodes[sysname]? = none) (devnode : Option String) (usb_parent : Option UsbDevice) :
    w.step (.plug sysname devnode usb_parent) = some { w with
      nodes := w.nodes.insert sysname ⟨w.plugs, devnode, usb_parent⟩
      plugs := w.plugs + 1 } := by
  simp [step, hnew, hear, announce, hstage]

theorem step_unplug_listening {w : World} (hstage : w.stage = .listening) {sysname : String}
    {node : Node} (hnode : w.nodes[sysname]? = some node) :
    w.step (.unplug sysname) = some { w with
      nodes := w.nodes.erase sysname
      socket := w.socket ++ [⟨.remove, sysname, node.serial⟩]
      announced := sysname :: w.announced } := by
  simp [step, hnode, hear, announce, hstage]

theorem step_unplug_quiet {w : World} (hstage : w.stage ≠ .listening) {sysname : String}
    {node : Node} (hnode : w.nodes[sysname]? = some node) :
    w.step (.unplug sysname) = some { w with nodes := w.nodes.erase sysname } := by
  simp [step, hnode, hear, announce, hstage]

theorem sound_plug {w w' : World} (h : w.Sound) {sysname : String} {devnode : Option String}
    {usb_parent : Option UsbDevice} (hstep : w.step (.plug sysname devnode usb_parent) = some w') :
    w'.Sound := by
  have hnew : w.nodes[sysname]? = none := by
    cases hnode : w.nodes[sysname]? with
    | none => rfl
    | some node => simp [step, hnode] at hstep
  have hnumbered : ∀ (name : String) (node : Node),
      (w.nodes.insert sysname ⟨w.plugs, devnode, usb_parent⟩)[name]? = some node →
        node.serial < w.plugs + 1 := by
    intro name node hnode
    by_cases hname : sysname = name
    · subst hname
      rw [lookup_insert_self] at hnode
      cases hnode
      exact Nat.lt_succ_self _
    · rw [lookup_insert_ne _ _ hname] at hnode
      exact (h.numbered name node hnode).trans (Nat.lt_succ_self _)
  by_cases hstage : w.stage = .listening
  · rw [step_plug_listening hstage hnew] at hstep
    obtain rfl := Option.some.inj hstep
    refine ⟨hnumbered, ?_, ?_⟩
    · intro event hevent
      rcases List.mem_append.1 hevent with hold | hnow
      · exact (h.queued event hold).trans (Nat.lt_succ_self _)
      · rw [List.mem_singleton.1 hnow]
        exact Nat.lt_succ_self _
    · simp only [Staged, hstage]
      rw [← hstage]
      exact Listening.plugged h hstage hnew _ rfl _ rfl
  · rw [step_plug_quiet hstage hnew] at hstep
    obtain rfl := Option.some.inj hstep
    exact h.quiet hstage _ _ (Nat.le_succ _) hnumbered

theorem sound_unplug {w w' : World} (h : w.Sound) {sysname : String}
    (hstep : w.step (.unplug sysname) = some w') : w'.Sound := by
  obtain ⟨node, hnode⟩ : ∃ node, w.nodes[sysname]? = some node := by
    cases hnode : w.nodes[sysname]? with
    | none => simp [step, hnode] at hstep
    | some node => exact ⟨node, rfl⟩
  have hnumbered : ∀ (name : String) (node : Node), (w.nodes.erase sysname)[name]? = some node →
      node.serial < w.plugs := by
    intro name node hnode
    by_cases hname : sysname = name
    · subst hname
      simp at hnode
    · rw [lookup_erase_ne _ hname] at hnode
      exact h.numbered name node hnode
  by_cases hstage : w.stage = .listening
  · rw [step_unplug_listening hstage hnode] at hstep
    obtain rfl := Option.some.inj hstep
    refine ⟨hnumbered, ?_, ?_⟩
    · intro event hevent
      rcases List.mem_append.1 hevent with hold | hnow
      · exact h.queued event hold
      · rw [List.mem_singleton.1 hnow]
        exact h.numbered sysname node hnode
    · simp only [Staged, hstage]
      rw [← hstage]
      exact Listening.unplugged h hstage node.serial
  · rw [step_unplug_quiet hstage hnode] at hstep
    obtain rfl := Option.some.inj hstep
    exact h.quiet hstage _ _ (Nat.le_refl _) hnumbered

theorem sound_change {w w' : World} (h : w.Sound) {sysname : String}
    (hstep : w.step (.change sysname) = some w') : w'.Sound := by
  cases hnode : w.nodes[sysname]? with
  | none => simp [step, hnode] at hstep
  | some node =>
      simp only [step, hnode, Option.some.injEq] at hstep
      subst hstep
      by_cases hstage : w.stage = .listening
      · simp only [hear, hstage, if_true]
        rw [← hstage]
        refine ⟨h.numbered, ?_, ?_⟩
        · intro event hevent
          rcases List.mem_append.1 hevent with hold | hnow
          · exact h.queued event hold
          · rw [List.mem_singleton.1 hnow]
            exact h.numbered sysname node hnode
        · simp only [Staged, hstage]
          rw [← hstage]
          exact Listening.changed h hstage sysname node.serial
      · simp only [hear, hstage, if_false]
        exact h

theorem sound_pump {w w' : World} (h : w.Sound) {stale : Node}
    (hstep : w.step (.pump stale) = some w') : w'.Sound := by
  simp only [step] at hstep
  split at hstep
  · rename_i event socket hstage hsocket
    obtain rfl := Option.some.inj hstep
    refine ⟨h.numbered, ?_, ?_⟩
    · intro e he
      exact h.queued e (by rw [hsocket]; exact List.mem_cons_of_mem _ he)
    · simp only [Staged, hstage]
      rw [← hstage]
      exact Listening.pumped h hstage hsocket stale
  · cases hstep

/-- The steps of `main`. -/
theorem sound_scan {w w' : World} (h : w.Sound) (hstep : w.step .scan = some w') : w'.Sound := by
  simp only [step] at hstep
  split at hstep
  · rename_i hstage
    obtain rfl := Option.some.inj hstep
    have hstaged := h.staged
    simp only [Staged, hstage] at hstaged
    obtain ⟨hengine, hsocket, hannounced, -⟩ := hstaged
    refine ⟨h.numbered, h.queued, ?_⟩
    simp only [Staged]
    exact ⟨by rw [hengine]; rfl, hsocket, hannounced⟩
  · cases hstep

theorem sound_scan_fails {w w' : World} (h : w.Sound) (hstep : w.step .scan_fails = some w') :
    w'.Sound := by
  simp only [step] at hstep
  split at hstep
  · rename_i hstage
    obtain rfl := Option.some.inj hstep
    have hstaged := h.staged
    simp only [Staged, hstage] at hstaged
    obtain ⟨hengine, hsocket, hannounced, hseen⟩ := hstaged
    refine ⟨h.numbered, h.queued, ?_⟩
    simp only [Staged]
    exact ⟨by simp [hengine, hseen, seeds], hsocket, hannounced⟩
  · cases hstep

theorem sound_seed {w w' : World} (h : w.Sound) (hstep : w.step .seed = some w') : w'.Sound := by
  simp only [step] at hstep
  split at hstep
  · rename_i command rest hstage
    obtain rfl := Option.some.inj hstep
    have hstaged := h.staged
    simp only [Staged, hstage] at hstaged
    obtain ⟨hseeds, hsocket, hannounced⟩ := hstaged
    refine ⟨h.numbered, h.queued, ?_⟩
    simp only [Staged]
    exact ⟨by simpa using hseeds, hsocket, hannounced⟩
  · cases hstep

theorem sound_listen {w w' : World} (h : w.Sound) (hstep : w.step .listen = some w') :
    w'.Sound := by
  simp only [step] at hstep
  split at hstep
  · rename_i hstage
    obtain rfl := Option.some.inj hstep
    have hstaged := h.staged
    simp only [Staged, hstage, List.append_nil] at hstaged
    obtain ⟨hengine, hsocket, hannounced⟩ := hstaged
    refine ⟨h.numbered, h.queued, ?_⟩
    simp only [Staged]
    constructor
    · simp [hsocket, Resolvable]
    · intro name hmem
      simp [hannounced] at hmem
    · intro name _
      simp [hsocket, hengine, connected_seeds]
  · cases hstep

theorem sound_step {w : World} {move : Move} {w' : World} (h : w.Sound)
    (hstep : w.step move = some w') : w'.Sound := by
  cases move with
  | plug sysname devnode usb_parent => exact sound_plug h hstep
  | unplug sysname => exact sound_unplug h hstep
  | change sysname => exact sound_change h hstep
  | scan => exact sound_scan h hstep
  | scan_fails => exact sound_scan_fails h hstep
  | seed => exact sound_seed h hstep
  | listen => exact sound_listen h hstep
  | pump stale => exact sound_pump h hstep

/-- Once the events are drained, the engine has been told the truth exactly about the
nodes on which the scan and the start of listening agree, or that events have
settled. -/
theorem Sound.told_iff {w : World} (h : w.Sound) (hdrained : w.Drained) :
    w.Told ↔ w.Agreed := by
  obtain ⟨hstage, hsocket⟩ := hdrained
  have hlistening := h.listening hstage
  have hannounced := hlistening.announced
  have hunannounced := hlistening.unannounced
  rw [hsocket] at hannounced hunannounced
  constructor
  · intro htold name hmem
    obtain ⟨hseen, hheard⟩ := hunannounced name hmem
    rw [← hseen, ← hheard]
    exact htold name
  · intro hagreed name
    by_cases hmem : name ∈ w.announced
    · exact hannounced name hmem
    · obtain ⟨hseen, hheard⟩ := hunannounced name hmem
      rw [hheard, ← hagreed name hmem]
      exact hseen

/-- For every interleaving of plugs and unplugs with the steps of `main` and of the
pump: whenever the events are drained, the devices whose last delivered command is
`DeviceConnected` are exactly the eligible nodes present, exactly if for every node
that no event has settled since the monitor listens, the scan found it eligible
exactly if it was there and eligible when the monitor began to listen. -/
theorem boot_misses_no_hotplug_iff (moves : List Move) :
    Always step (fun w => w.Drained → w.Told) start moves ↔
      Always step (fun w => w.Drained → w.Agreed) start moves := by
  apply always_congr (J := Sound) (fun _ _ _ h hstep => sound_step h hstep)
  · intro w h
    exact forall_congr' fun hdrained => h.told_iff hdrained
  · exact sound_start

/-- A keyboard is plugged in between the scan and the start of listening. -/
def lateKeyboard : List Move :=
  [.scan, .plug "hidraw0" (some "/dev/hidraw0") (some ⟨some "320f", some "5055\n"⟩), .listen]

/-- The engine is never told of it. -/
theorem late_keyboard_is_missed :
    ¬ Always step (fun w => w.Drained → w.Told) start lateKeyboard := by
  intro h
  have hend : (run step start lateKeyboard).map (fun w =>
      (decide (w.stage = .listening ∧ w.socket = []), connected w.engine "hidraw0",
        eligible w.nodes "hidraw0")) = some (true, false, true) := by
    decide +kernel
  obtain ⟨w, hrun, heq⟩ := Option.map_eq_some_iff.1 hend
  obtain ⟨hdrained, heq⟩ := Prod.mk.inj heq
  obtain ⟨hconnected, heligible⟩ := Prod.mk.inj heq
  have hdrained' : w.Drained := by simpa [Drained] using hdrained
  have htold := h.last hrun hdrained' "hidraw0"
  rw [hconnected, heligible] at htold
  cases htold

end World

end Clackd.Boot
