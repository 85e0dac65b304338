import Clackd.Cli.Client

/-!
# What commands do

A command first asks which devices there are and picks one.  Then it reads, and at the end
it may write once, and what it writes is what its arguments say.

## Main results

* `resolve_device_exact`: which device is picked, for all replies.
* `run_disciplined`: what a command calls, in every run, also one that is cut short, and
  when it succeeds.
-/

namespace Clackd.Ipc

/-- Whether a method changes something. -/
def Method.isWrite : Method → Bool
  | .set_keycode _ _ _ _ _ => true
  | .commit _ => true
  | Method.set_macro _ _ _ => true
  | .set_lighting _ _ _ _ => true
  | _ => false

/-- The device that a method names. -/
def Method.names : Method → Option String
  | .list_devices => none
  | .get_device_info id => some id
  | .get_device_identity id => some id
  | method => method.device

end Clackd.Ipc

namespace Clackd.Cli

open Clackd.Foundation Clackd.Ipc
open Dialogue (Asks Closes Earns Ends Finished Leads finished_done finished_tell finished_ask
  finished_bind)
open Client

/-! ## Single calls -/

section Calls

variable {α : Type} {method : Method} {read : Answer → Option α}
  {exchanges : List (Method × Returned)} {out : List String}

/-- What a proxy makes of what comes back. -/
def typed (read : Answer → Option α) (returned : Returned) : Except BusError α :=
  returned.bind fun answer => (read answer).elim (.error SIGNATURE_MISMATCH) .ok

theorem finished_proxy {r : Except BusError α} :
    Finished (proxy method read) exchanges out r ↔
      ∃ returned, exchanges = [(method, returned)] ∧ out = [] ∧ r = typed read returned := by
  rw [proxy, finished_ask]
  constructor
  · rintro ⟨returned, more, rfl, hdone⟩
    obtain ⟨rfl, rfl, rfl⟩ := finished_done.1 hdone
    exact ⟨returned, rfl, rfl, rfl⟩
  · rintro ⟨returned, rfl, rfl, rfl⟩
    exact ⟨returned, [], rfl, finished_done.2 ⟨rfl, rfl, rfl⟩⟩

/-- A call, and what is made of its result. -/
theorem finished_call {ρ : Type} {g : Except BusError α → ρ} {r : ρ} :
    Finished (Dialogue.bind (proxy method read) fun x => .done (g x)) exchanges out r ↔
      ∃ returned, exchanges = [(method, returned)] ∧ out = [] ∧ r = g (typed read returned) := by
  rw [finished_bind]
  constructor
  · rintro ⟨x, first, second, printed, later, hfirst, hsecond, rfl, rfl⟩
    obtain ⟨returned, rfl, rfl, rfl⟩ := finished_proxy.1 hfirst
    obtain ⟨rfl, rfl, rfl⟩ := finished_done.1 hsecond
    exact ⟨returned, rfl, rfl, rfl⟩
  · rintro ⟨returned, rfl, rfl, rfl⟩
    exact ⟨_, _, [], [], [], finished_proxy.2 ⟨returned, rfl, rfl, rfl⟩,
      finished_done.2 ⟨rfl, rfl, rfl⟩, rfl, rfl⟩

theorem finished_await {r : Except Failure α} :
    Finished (await (proxy method read)) exchanges out r ↔
      ∃ returned, exchanges = [(method, returned)] ∧ out = [] ∧
        r = (typed read returned).mapError .bus :=
  finished_call

theorem finished_attempt {r : Except Failure (Except BusError α)} :
    Finished (Client.attempt (proxy method read)) exchanges out r ↔
      ∃ returned, exchanges = [(method, returned)] ∧ out = [] ∧ r = .ok (typed read returned) :=
  finished_call

/-- A call that succeeds got a reply of its type. -/
theorem typed_ok {returned : Returned} {a : α} :
    typed read returned = .ok a ↔ ∃ answer, returned = .ok answer ∧ read answer = some a := by
  cases returned with
  | error e => simp [typed, Except.bind]
  | ok answer =>
      cases hread : read answer with
      | none => simp [typed, Except.bind, hread]
      | some b => simp [typed, Except.bind, hread]

theorem finished_await_ok {a : α} :
    Finished (await (proxy method read)) exchanges out (.ok a) ↔
      ∃ answer, exchanges = [(method, .ok answer)] ∧ out = [] ∧ read answer = some a := by
  rw [finished_await]
  constructor
  · rintro ⟨returned, rfl, rfl, h⟩
    obtain ⟨answer, rfl, hread⟩ := typed_ok.1 (mapError_ok.1 h.symm)
    exact ⟨answer, rfl, rfl, hread⟩
  · rintro ⟨answer, rfl, rfl, hread⟩
    exact ⟨.ok answer, rfl, rfl, (mapError_ok.2 (typed_ok.2 ⟨answer, rfl, hread⟩)).symm⟩

theorem finished_println {line : String} {r : Except Failure Unit} :
    Finished (println line) exchanges out r ↔
      exchanges = [] ∧ out = [line ++ "\n"] ∧ r = .ok () := by
  rw [println, finished_tell]
  constructor
  · rintro ⟨later, rfl, hdone⟩
    obtain ⟨rfl, rfl, rfl⟩ := finished_done.1 hdone
    exact ⟨rfl, rfl, rfl⟩
  · rintro ⟨rfl, rfl, rfl⟩
    exact ⟨[], rfl, finished_done.2 ⟨rfl, rfl, rfl⟩⟩

theorem finished_print_lines {lines : List String} {r : Except Failure Unit}
    (h : Finished (print_lines lines) exchanges out r) :
    exchanges = [] ∧ out = lines.map (· ++ "\n") := by
  induction lines generalizing exchanges out with
  | nil =>
      obtain ⟨rfl, rfl, -⟩ := finished_done.1 h
      exact ⟨rfl, rfl⟩
  | cons line lines ih =>
      obtain ⟨later, rfl, hrest⟩ := finished_tell.1 h
      obtain ⟨rfl, rfl⟩ := ih hrest
      exact ⟨rfl, rfl⟩

end Calls

/-! ## Which device -/

/-- The product name that a reply tells. -/
def told_name : Returned → String
  | .ok (.identity _ _ name) => name
  | _ => ""

/-- The devices that match, by what was told of their names. -/
def matched (spec : String) (devices : List String) (replies : List Returned) : List String :=
  ((devices.zip replies).filter fun x => matches_spec spec x.1 (told_name x.2)).map Prod.fst

/-- The device that is picked without asking for names. -/
def direct (devices : List String) (spec : String) : Option String :=
  if spec ∈ devices then some spec else device_at devices spec

/-- What comes of the devices that match. -/
def picked (spec : String) (devices : List String) : List String → Except Failure String
  | [only] => .ok only
  | [] => .error (.text (no_match spec devices))
  | many => .error (.text (ambiguous spec many))

theorem name_of_typed (returned : Returned) :
    ((typed as_identity returned).map fun x => x.2.2).toOption.getD "" = told_name returned := by
  cases returned with
  | error e => rfl
  | ok answer => cases answer <;> rfl

/-- The loop asks for the name of each device, once. -/
theorem finished_find_matches {spec : String} {found devices : List String}
    {exchanges : List (Method × Returned)} {out : List String}
    {r : Except Failure (List String)} :
    Finished (find_matches spec found devices) exchanges out r ↔
      ∃ replies, replies.length = devices.length ∧ out = [] ∧
        exchanges = (devices.map Method.get_device_identity).zip replies ∧
          r = .ok (found ++ matched spec devices replies) := by
  induction devices generalizing found exchanges out r with
  | nil =>
      refine finished_done.trans ⟨?_, ?_⟩
      · rintro ⟨rfl, rfl, rfl⟩
        exact ⟨[], rfl, rfl, rfl, by rw [matched, List.zip_nil_left]; simp⟩
      · rintro ⟨replies, -, rfl, rfl, rfl⟩
        exact ⟨rfl, rfl, by rw [matched, List.zip_nil_left]; simp⟩
  | cons id devices ih =>
      have hcons : ∀ (returned : Returned) (replies : List Returned),
          found ++ matched spec (id :: devices) (returned :: replies) =
            (if matches_spec spec id (told_name returned) then found ++ [id] else found) ++
              matched spec devices replies := by
        intro returned replies
        by_cases hm : matches_spec spec id (told_name returned) = true
        · simp [matched, hm]
        · simp [matched, hm]
      constructor
      · intro h
        obtain ⟨x, first, second, printed, later, hfirst, hsecond, rfl, rfl⟩ := finished_bind.1 h
        obtain ⟨returned, rfl, rfl, rfl⟩ := finished_attempt.1 hfirst
        obtain ⟨replies, hlength, rfl, rfl, rfl⟩ := ih.1 hsecond
        refine ⟨returned :: replies, by simp [hlength], rfl, rfl, ?_⟩
        rw [hcons, ← name_of_typed]
      · rintro ⟨replies, hlength, rfl, rfl, rfl⟩
        cases replies with
        | nil => cases hlength
        | cons returned replies =>
            have hlength' : replies.length = devices.length := by simpa using hlength
            have hrest := (@ih (if matches_spec spec id (told_name returned) then found ++ [id]
              else found) _ [] _).2 ⟨replies, hlength', rfl, rfl, rfl⟩
            rw [← name_of_typed returned] at hrest
            rw [hcons, ← name_of_typed returned]
            exact finished_bind.2 ⟨_, _, _, [], [], finished_attempt.2 ⟨returned, rfl, rfl, rfl⟩,
              hrest, rfl, rfl⟩

/-- How a device is picked, by what the daemon listed and what the lookups gave. -/
inductive Resolution (spec : String) :
    Returned → List (Method × Returned) → Except Failure String → Prop
  /-- The devices were not listed. -/
  | unlisted {returned : Returned} {e : BusError} (h : typed as_devices returned = .error e) :
      Resolution spec returned [] (.error (.bus e))
  /-- The exact id, or else an index. -/
  | direct {devices : List String} {id : String} (h : direct devices spec = some id) :
      Resolution spec (.ok (.devices devices)) [] (.ok id)
  /-- All names were asked for, and the devices that match were counted. -/
  | searched {devices : List String} {replies : List Returned} (h : Cli.direct devices spec = none)
      (hlength : replies.length = devices.length) :
      Resolution spec (.ok (.devices devices))
        ((devices.map Method.get_device_identity).zip replies)
        (picked spec devices (matched spec devices replies))

theorem as_devices_some {answer : Answer} {devices : List String} :
    as_devices answer = some devices ↔ answer = .devices devices := by
  cases answer <;> simp [as_devices]

/-- After the devices are listed. -/
def pick (spec : String) (devices : List String) : Client String :=
  match direct devices spec with
  | some id => pure id
  | none => find_matches spec [] devices >>= fun found =>
      (Dialogue.done (picked spec devices found) : Client String)

theorem resolve_device_eq (spec : String) :
    resolve_device spec = (await list_devices >>= pick spec) := by
  rw [resolve_device]
  congr 1
  funext devices
  rw [pick, direct]
  by_cases hmem : spec ∈ devices
  · simp only [hmem, if_true]
  · simp only [hmem, if_false]
    cases device_at devices spec with
    | some id => rfl
    | none =>
        show (find_matches spec [] devices >>= _ : Client String) = _
        dsimp only
        congr 1
        funext found
        cases found with
        | nil => rfl
        | cons id found => cases found <;> rfl

theorem finished_pick {spec : String} {devices : List String}
    {exchanges : List (Method × Returned)} {out : List String} {r : Except Failure String} :
    Finished (pick spec devices) exchanges out r ↔
      out = [] ∧ Resolution spec (.ok (.devices devices)) exchanges r := by
  rw [pick]
  constructor
  · intro h
    split at h
    · rename_i id hid
      obtain ⟨rfl, rfl, rfl⟩ := finished_done.1 h
      exact ⟨rfl, .direct hid⟩
    · rename_i hnone
      obtain ⟨x, first, second, printed, later, hfirst, hsecond, rfl, rfl⟩ := finished_bind.1 h
      obtain ⟨replies, hlength, rfl, rfl, rfl⟩ := finished_find_matches.1 hfirst
      obtain ⟨rfl, rfl, rfl⟩ := finished_done.1 hsecond
      refine ⟨rfl, ?_⟩
      rw [List.append_nil, List.nil_append]
      exact .searched hnone hlength
  · rintro ⟨rfl, h⟩
    cases h with
    | unlisted h => cases h
    | direct hid =>
        rw [hid]
        exact finished_done.2 ⟨rfl, rfl, rfl⟩
    | @searched _ replies hnone hlength =>
        rw [hnone]
        exact finished_bind.2 ⟨_, _, [], [], [], finished_find_matches.2
          ⟨replies, hlength, rfl, rfl, rfl⟩, finished_done.2 ⟨rfl, rfl, rfl⟩,
          (List.append_nil _).symm, rfl⟩

theorem finished_resolve {spec : String} {exchanges : List (Method × Returned)}
    {out : List String} {r : Except Failure String} :
    Finished (resolve_device spec) exchanges out r ↔ out = [] ∧ ∃ returned lookups,
      exchanges = (.list_devices, returned) :: lookups ∧ Resolution spec returned lookups r := by
  rw [resolve_device_eq]
  constructor
  · intro h
    obtain ⟨x, first, second, printed, later, hfirst, hsecond, rfl, rfl⟩ := finished_bind.1 h
    obtain ⟨returned, rfl, rfl, rfl⟩ := finished_await.1 hfirst
    cases hlisted : typed as_devices returned with
    | error e =>
        rw [hlisted] at hsecond
        obtain ⟨rfl, rfl, rfl⟩ := finished_done.1 hsecond
        exact ⟨rfl, returned, [], rfl, .unlisted hlisted⟩
    | ok devices =>
        rw [hlisted] at hsecond
        obtain ⟨answer, rfl, hread⟩ := typed_ok.1 hlisted
        obtain rfl := as_devices_some.1 hread
        obtain ⟨rfl, hresolution⟩ := finished_pick.1 hsecond
        exact ⟨rfl, _, second, rfl, hresolution⟩
  · rintro ⟨rfl, returned, lookups, rfl, h⟩
    have hlisted : ∀ devices, Resolution spec (.ok (.devices devices)) lookups r →
        Finished (await list_devices >>= pick spec : Client String)
          ((.list_devices, .ok (.devices devices)) :: lookups) [] r := by
      intro devices h
      exact finished_bind.2 ⟨.ok devices, _, lookups, [], [],
        finished_await.2 ⟨_, rfl, rfl, rfl⟩, finished_pick.2 ⟨rfl, h⟩, rfl, rfl⟩
    cases h with
    | @unlisted _ e h =>
        exact finished_bind.2 ⟨.error (.bus e), _, [], [], [],
          finished_await.2 ⟨returned, rfl, rfl, by rw [h]; rfl⟩, finished_done.2 ⟨rfl, rfl, rfl⟩,
          rfl, rfl⟩
    | direct h => exact hlisted _ (.direct h)
    | searched h hlength => exact hlisted _ (.searched h hlength)

/-- A device that was found matches, by its id or by the name that was told. -/
theorem mem_matched {spec id : String} {devices : List String} {replies : List Returned} :
    id ∈ matched spec devices replies ↔
      ∃ (i : Nat) (r : Returned), devices[i]? = some id ∧ replies[i]? = some r ∧
        matches_spec spec id (told_name r) = true := by
  rw [matched, List.mem_map]
  constructor
  · rintro ⟨⟨id', r⟩, hmem, rfl⟩
    obtain ⟨hzip, hmatches⟩ := List.mem_filter.1 hmem
    obtain ⟨i, hi⟩ := List.mem_iff_getElem?.1 hzip
    obtain ⟨hdevice, hreply⟩ := List.getElem?_zip_eq_some.1 hi
    exact ⟨i, r, hdevice, hreply, hmatches⟩
  · rintro ⟨i, r, hdevice, hreply, hmatches⟩
    exact ⟨(id, r), List.mem_filter.2 ⟨List.mem_iff_getElem?.2
      ⟨i, List.getElem?_zip_eq_some.2 ⟨hdevice, hreply⟩⟩, hmatches⟩, rfl⟩

/-- The id that a spec resolves to is one that was listed. -/
theorem Resolution.listed {spec : String} {returned : Returned}
    {lookups : List (Method × Returned)} {id : String}
    (h : Resolution spec returned lookups (.ok id)) :
    ∃ devices, returned = .ok (.devices devices) ∧ id ∈ devices := by
  generalize hr : (Except.ok id : Except Failure String) = r at h
  cases h with
  | unlisted h => cases hr
  | @direct devices id' h =>
      cases hr
      refine ⟨devices, rfl, ?_⟩
      rw [Cli.direct] at h
      split at h
      · rename_i hmem
        cases h
        exact hmem
      · obtain ⟨idx, -, hget⟩ := Option.bind_eq_some_iff.1 h
        exact List.mem_of_getElem? hget
  | @searched devices replies h hlength =>
      refine ⟨devices, rfl, ?_⟩
      have hmem : id ∈ matched spec devices replies := by
        rw [picked.eq_def] at hr
        split at hr
        · rename_i only honly
          cases hr
          rw [honly]
          exact List.mem_singleton.2 rfl
        · cases hr
        · cases hr
      obtain ⟨i, r, hdevice, -⟩ := mem_matched.1 hmem
      exact List.mem_of_getElem? hdevice

/-- A device that was picked by a search is the only one that matches. -/
theorem only_match {spec : String} {devices : List String} {replies : List Returned} {id : String}
    (h : picked spec devices (matched spec devices replies) = .ok id) :
    ∀ (i : Nat) (other : String) (r : Returned), devices[i]? = some other →
      replies[i]? = some r → matches_spec spec other (told_name r) = true → other = id := by
  intro i other r hother hreply hmatches
  have hmem : other ∈ matched spec devices replies := mem_matched.2 ⟨i, r, hother, hreply, hmatches⟩
  rw [picked.eq_def] at h
  split at h
  · rename_i only honly
    cases h
    rw [honly] at hmem
    exact List.mem_singleton.1 hmem
  · cases h
  · cases h

/-- **A device is picked exactly.**  The complete runs of `resolve_device` are these, for
all replies: the devices are listed, and where they are not, that is the error; a spec that
is an id is that id, and else a number in range is that index, without another call; and
else the name of each device is asked for once, in order, and the spec is the one device
that matches, where there is exactly one.  Nothing is printed.  Whatever a spec resolves to
was listed, and where there was a search, no other device matches. -/
theorem resolve_device_exact :
    (∀ (spec : String) (exchanges : List (Method × Returned)) (out : List String)
      (r : Except Failure String), Finished (resolve_device spec) exchanges out r ↔
        out = [] ∧ ∃ returned lookups, exchanges = (.list_devices, returned) :: lookups ∧
          Resolution spec returned lookups r) ∧
    (∀ (spec : String) (returned : Returned) (lookups : List (Method × Returned)) (id : String),
      Resolution spec returned lookups (.ok id) →
        ∃ devices, returned = .ok (.devices devices) ∧ id ∈ devices) ∧
    ∀ (spec id : String) (devices : List String) (replies : List Returned),
      picked spec devices (matched spec devices replies) = .ok id →
        ∀ (i : Nat) (other : String) (r : Returned), devices[i]? = some other →
          replies[i]? = some r → matches_spec spec other (told_name r) = true → other = id :=
  ⟨fun _ _ _ _ => finished_resolve, fun _ _ _ _ h => h.listed,
    fun _ _ _ _ h => only_match h⟩

/-! ## What is called -/

/-- Whether an action is there to change something. -/
def LightingAction.isWrite : LightingAction → Bool
  | .brightness _ => true
  | .effect _ => true
  | .speed _ => true
  | .color _ => true
  | .off => true
  | .setRaw _ _ _ => true
  | _ => false

/-- Whether a command is there to change something. -/
def Command.isWrite : Command → Bool
  | .set _ _ _ _ _ => true
  | .commit _ => true
  | .lighting _ (some action) => action.isWrite
  | .setMacro _ _ _ => true
  | _ => false

/-- The write that an action is for. -/
def LightingAction.write (id : String) : LightingAction → Option Method
  | .brightness value =>
      (parse_level value).toOption.map fun v => .set_lighting id CH_RGB_MATRIX VAL_BRIGHTNESS [v]
  | .speed value =>
      (parse_level value).toOption.map fun v => .set_lighting id CH_RGB_MATRIX VAL_SPEED [v]
  | .effect text =>
      (parse_effect text).toOption.map fun e => .set_lighting id CH_RGB_MATRIX VAL_EFFECT [e]
  | .off => some (.set_lighting id CH_RGB_MATRIX VAL_EFFECT [0])
  | .color text => (parse_color text).toOption.map fun (r, g, b) =>
      .set_lighting id CH_RGB_MATRIX VAL_COLOR
        [(Hal.Legacy.rgb_to_hs r g b).1, (Hal.Legacy.rgb_to_hs r g b).2]
  | .setRaw channel value_id data => do
      let channel ← (parse_u8 channel).toOption
      let value_id ← (parse_u8 value_id).toOption
      let data ← (parse_hex_bytes data).bind Except.toOption
      return .set_lighting id channel value_id data
  | _ => none

/-- The write that a command is for, if its arguments can be read. -/
def Command.write (id : String) : Command → Option Method
  | .set _ layer row col key =>
      (parse_key key).toOption.map fun code => .set_keycode id layer row col code
  | .commit _ => some (.commit id)
  | .lighting _ (some action) => action.write id
  | .setMacro _ offset data => do
      let off ← (parse_u16 offset).toOption
      let bytes ← (parse_hex_bytes data).bind Except.toOption
      return Method.set_macro id off bytes
  | _ => none

/-- A read of the device. -/
def Reads (id : String) (method : Method) : Prop :=
  method.isWrite = false ∧ method.names = some id

/-- Reads of devices that were listed, and then at most the write to one of them. -/
def Settles (write : String → Option Method) (devices : List String)
    (exchanges : List (Method × Returned)) : Prop :=
  ∃ reads last, exchanges = reads ++ last ∧
    (∀ exchange ∈ reads, ∃ id ∈ devices, Reads id exchange.1) ∧
      (last = [] ∨ ∃ exchange, last = [exchange] ∧ ∃ id ∈ devices, write id = some exchange.1)

/-- The calls of a command: the devices are listed, devices that were listed are read, and
at the end one is written to, as the arguments say. -/
def Disciplined (write : String → Option Method) (exchanges : List (Method × Returned)) : Prop :=
  exchanges = [] ∨ ∃ returned more, exchanges = (.list_devices, returned) :: more ∧
    (more = [] ∨ ∃ devices, returned = .ok (.devices devices) ∧ Settles write devices more)

section Programs

variable {α β : Type} {method : Method} {read : Answer → Option α} {P W : Method → Prop}

theorem asks_bind {p : Client α} {f : α → Client β} (hp : Asks P p) (hf : ∀ a, Asks P (f a)) :
    Asks P (p >>= f : Client β) :=
  Asks.andThen hp hf

theorem asks_await (h : P method) : Asks P (await (proxy method read)) := ⟨h, fun _ => trivial⟩

theorem asks_attempt (h : P method) : Asks P (Client.attempt (proxy method read)) :=
  ⟨h, fun _ => trivial⟩

theorem asks_println {line : String} {f : Unit → Client β} (hf : Asks P (f ())) :
    Asks P (println line >>= f : Client β) :=
  hf

theorem asks_print_lines (lines : List String) : Asks P (print_lines lines) := by
  induction lines with
  | nil => trivial
  | cons line lines ih => exact ih

/-- An argument is read first. -/
theorem closes_parsed {parse : Except String α} {f : α → Client β}
    (hf : ∀ a, parse = .ok a → Closes P W (f a)) : Closes P W (parsed parse >>= f : Client β) := by
  cases parse with
  | ok a => exact hf a rfl
  | error message => trivial

theorem closes_hex_argument {data : String} {f : List UInt8 → Client β}
    (hf : ∀ bytes, parse_hex_bytes data = some (.ok bytes) → Closes P W (f bytes)) :
    Closes P W (hex_argument data >>= f : Client β) := by
  rw [hex_argument]
  cases hdata : parse_hex_bytes data with
  | none => trivial
  | some parse =>
      refine closes_parsed fun bytes hbytes => hf bytes ?_
      rw [hdata, hbytes]

/-- The write is the last call. -/
theorem closes_write (h : W method) (line : String) :
    Closes P W (await (proxy method as_done) >>= fun _ => println line : Client Unit) := by
  refine .inr ⟨h, fun returned => ?_⟩
  show Asks _ (Dialogue.andThen (.done ((typed as_done returned).mapError Failure.bus)) _)
  cases typed as_done returned <;> trivial

/-! A list of the devices comes first. -/

variable {write : String → Option Method} {exchanges : List (Method × Returned)}
  {out : List String} {q : Client β}

theorem disciplined_listed {f : List String → Client β}
    (hf : ∀ devices exchanges out, Leads (f devices) exchanges out q →
      Settles write devices exchanges)
    (h : Leads (await list_devices >>= f : Client β) exchanges out q) :
    Disciplined write exchanges := by
  cases h with
  | here => exact .inl rfl
  | @ask _ returned _ _ more _ hmore =>
      refine .inr ⟨returned, more, rfl, ?_⟩
      replace hmore : Leads (Dialogue.andThen
        (.done ((typed as_devices returned).mapError Failure.bus)) f) more out q := hmore
      cases hlisted : typed as_devices returned with
      | error e =>
          rw [hlisted] at hmore
          cases hmore
          exact .inl rfl
      | ok devices =>
          rw [hlisted] at hmore
          obtain ⟨answer, rfl, hread⟩ := typed_ok.1 hlisted
          obtain rfl := as_devices_some.1 hread
          exact .inr ⟨devices, rfl, hf devices _ _ hmore⟩

theorem settles_reads {devices : List String} {p : Client β}
    (hp : Asks (fun method => ∃ id ∈ devices, Reads id method) p)
    (h : Leads p exchanges out q) : Settles write devices exchanges :=
  ⟨exchanges, [], (List.append_nil _).symm, (hp.leads h).1, .inl rfl⟩

theorem nothing_asked {p : Client β} (hp : Asks (fun _ => False) p)
    (h : Leads p exchanges out q) : Disciplined write exchanges := by
  refine .inl ?_
  cases exchanges with
  | nil => rfl
  | cons exchange more => exact absurd List.mem_cons_self ((hp.leads h).1 exchange)

theorem asks_find_matches {spec : String} {found devices : List String}
    (hP : ∀ id ∈ devices, P (.get_device_identity id)) :
    Asks P (find_matches spec found devices) := by
  induction devices generalizing found with
  | nil => trivial
  | cons id devices ih =>
      exact asks_bind (asks_attempt (hP id List.mem_cons_self)) fun identity =>
        ih fun id' hmem => hP id' (List.mem_cons_of_mem _ hmem)

theorem asks_pick {spec : String} {devices : List String}
    (hP : ∀ id ∈ devices, P (.get_device_identity id)) : Asks P (pick spec devices) := by
  rw [pick]
  split
  · trivial
  · exact asks_bind (asks_find_matches hP) fun found => trivial

theorem resolve_bind (spec : String) (f : String → Client β) :
    (resolve_device spec >>= f : Client β) =
      (await list_devices >>= fun devices => pick spec devices >>= f : Client β) := by
  rw [resolve_device_eq]
  exact Dialogue.andThen_assoc _ _ _

/-- A device is picked, and what follows is about that device. -/
theorem disciplined_resolved {spec : String} {f : String → Client β}
    (hf : ∀ id, Closes (Reads id) (fun method => write id = some method) (f id))
    (h : Leads (resolve_device spec >>= f : Client β) exchanges out q) :
    Disciplined write exchanges := by
  rw [resolve_bind] at h
  refine disciplined_listed (fun devices exchanges out h => ?_) h
  have hpick : Asks (fun method => ∃ id ∈ devices, Reads id method) (pick spec devices) :=
    asks_pick fun id hmem => ⟨id, hmem, rfl, rfl⟩
  rcases Leads.bind h with
    ⟨rest, hrest, -⟩ | ⟨r, first, second, printed, later, hfirst, hsecond, rfl, -⟩
  · exact settles_reads hpick hrest
  · have hreads := (hpick.leads hfirst).1
    cases r with
    | error e =>
        cases hsecond
        exact ⟨first, [], rfl, hreads, .inl rfl⟩
    | ok id =>
        obtain ⟨-, hresolution⟩ := finished_pick.1 hfirst
        obtain ⟨_, heq, hmem⟩ := hresolution.listed
        cases heq
        obtain ⟨before, last, rfl, hbefore, hlast⟩ := (hf id).leads hsecond
        have hbefore' : ∀ exchange ∈ before, ∃ id ∈ devices, Reads id exchange.1 :=
          fun exchange hexchange => ⟨id, hmem, hbefore exchange hexchange⟩
        refine ⟨first ++ before, last, (List.append_assoc _ _ _).symm,
          List.forall_mem_append.2 ⟨hreads, hbefore'⟩, ?_⟩
        rcases hlast with rfl | ⟨exchange, rfl, hwrite⟩
        · exact .inl rfl
        · exact .inr ⟨exchange, rfl, id, hmem, hwrite⟩

end Programs

section Commands

variable {P : Method → Prop} {id : String}

theorem asks_describe_device (hidentity : P (.get_device_identity id))
    (hinfo : P (.get_device_info id)) : Asks P (describe_device id) := by
  refine asks_bind (asks_attempt hidentity) fun identity => ?_
  refine asks_bind (asks_attempt hinfo) fun info => ?_
  split <;> trivial

theorem asks_list_lines {devices : List String} (idx : Nat)
    (hP : ∀ id ∈ devices, P (.get_device_identity id) ∧ P (.get_device_info id)) :
    Asks P (list_lines idx devices) := by
  induction devices generalizing idx with
  | nil => trivial
  | cons id devices ih =>
      obtain ⟨hidentity, hinfo⟩ := hP id List.mem_cons_self
      refine asks_bind (asks_describe_device hidentity hinfo) fun line => ?_
      exact ih (idx + 1) fun id' hmem => hP id' (List.mem_cons_of_mem _ hmem)

/-! The keymap is read key by key. -/

theorem asks_read_row {layer row : UInt8} (cols : List UInt8)
    (hP : ∀ col, P (.get_keycode id layer row col)) : Asks P (read_row id layer row cols) := by
  induction cols with
  | nil => trivial
  | cons col cols ih =>
      exact asks_bind (asks_await (hP col)) fun code => asks_bind ih fun codes => trivial

theorem asks_read_grid {layer : UInt8} (cols rows : List UInt8)
    (hP : ∀ row col, P (.get_keycode id layer row col)) :
    Asks P (read_grid id layer cols rows) := by
  induction rows with
  | nil => trivial
  | cons row rows ih =>
      exact asks_bind (asks_read_row cols (hP row)) fun codes => asks_bind ih fun grid => trivial

theorem asks_print_layers (rows cols layers : List UInt8)
    (hP : ∀ layer row col, P (.get_keycode id layer row col)) :
    Asks P (print_layers id rows cols layers) := by
  induction layers with
  | nil => trivial
  | cons layer layers ih =>
      refine asks_bind (asks_read_grid cols rows (hP layer)) fun grid => ?_
      exact asks_bind (asks_print_lines _) fun _ => ih

theorem asks_lighting_show (display : BusError → String)
    (hP : ∀ value_id, P (.get_lighting id CH_RGB_MATRIX value_id)) :
    Asks P (lighting_show display id) := by
  refine asks_println ?_
  refine asks_bind (asks_attempt (hP VAL_EFFECT)) fun effect => asks_println ?_
  refine asks_bind (asks_attempt (hP VAL_BRIGHTNESS)) fun brightness => asks_println ?_
  refine asks_bind (asks_attempt (hP VAL_SPEED)) fun speed => asks_println ?_
  exact asks_bind (asks_attempt (hP VAL_COLOR)) fun color => trivial

end Commands

/-- An action reads the device and at the end does its write. -/
theorem closes_act_lighting (display : BusError → String) (id : String)
    (action : LightingAction) :
    Closes (Reads id) (fun method => action.write id = some method)
      (act_lighting display id action) := by
  cases action with
  | «show» => exact (asks_lighting_show display fun value_id => ⟨rfl, rfl⟩).closes
  | brightness value =>
      refine closes_parsed fun v hv => closes_write ?_ _
      rw [LightingAction.write, hv]
      rfl
  | effect text =>
      refine closes_parsed fun e he => closes_write ?_ _
      rw [LightingAction.write, he]
      rfl
  | speed value =>
      refine closes_parsed fun v hv => closes_write ?_ _
      rw [LightingAction.write, hv]
      rfl
  | color text =>
      refine closes_parsed fun rgb hrgb => closes_write ?_ _
      rw [LightingAction.write, hrgb]
      rfl
  | off =>
      refine closes_write ?_ _
      rfl
  | effects => trivial
  | getRaw channel value_id =>
      refine closes_parsed fun c _ => closes_parsed fun v _ => ?_
      exact Asks.closes (asks_bind (asks_await ⟨rfl, rfl⟩) fun data => trivial)
  | setRaw channel value_id data =>
      refine closes_parsed fun c hc => closes_parsed fun v hv => ?_
      refine closes_hex_argument fun bytes hbytes => closes_write ?_ _
      rw [LightingAction.write, hc, hv, hbytes]
      rfl

/-- What a command calls, from the list of the devices on. -/
theorem disciplined_of_leads (display : BusError → String) (cmd : Command)
    {exchanges : List (Method × Returned)} {out : List String} {q : Client Unit}
    (h : Leads (run display cmd) exchanges out q) :
    Disciplined (fun id => cmd.write id) exchanges := by
  cases cmd with
  | list =>
      refine disciplined_listed (fun devices exchanges out h => settles_reads ?_ h) h
      split
      · trivial
      · exact asks_list_lines 0 fun id hmem => ⟨⟨id, hmem, rfl, rfl⟩, ⟨id, hmem, rfl, rfl⟩⟩
  | info device =>
      refine disciplined_resolved (fun id => ?_) h
      refine Asks.closes (asks_bind (asks_await ⟨rfl, rfl⟩) fun info => ?_)
      exact asks_bind (asks_await ⟨rfl, rfl⟩) fun identity => asks_print_lines _
  | keymap device layer =>
      refine disciplined_resolved (fun id => ?_) h
      refine Asks.closes (asks_bind (asks_await ⟨rfl, rfl⟩) fun info => ?_)
      exact asks_bind (asks_print_layers _ _ _ fun _ _ _ => ⟨rfl, rfl⟩) fun _ => trivial
  | get device layer row col =>
      refine disciplined_resolved (fun id => ?_) h
      exact Asks.closes (asks_bind (asks_await ⟨rfl, rfl⟩) fun code => trivial)
  | set device layer row col key =>
      cases hkey : parse_key key with
      | error message =>
          rw [run, cmd_set, hkey] at h
          cases h
          exact .inl rfl
      | ok code =>
          rw [run, cmd_set, hkey] at h
          refine disciplined_resolved (fun id => closes_write ?_ _) h
          rw [Command.write, hkey]
          rfl
  | keys filter =>
      have hnone : Asks (fun _ => False) (cmd_keys filter) := by
        rw [cmd_keys]
        split
        · trivial
        · exact asks_print_lines _
      exact nothing_asked hnone h
  | commit device =>
      refine disciplined_resolved (fun id => closes_write ?_ _) h
      rfl
  | lighting device action =>
      rw [run, cmd_lighting] at h
      split at h
      · exact nothing_asked (asks_print_lines _) h
      · refine disciplined_resolved (fun id => ?_) h
        cases action with
        | none => exact (asks_lighting_show display fun value_id => ⟨rfl, rfl⟩).closes
        | some action => exact closes_act_lighting display id action
  | getMacro device offset length =>
      refine disciplined_resolved (fun id => closes_parsed fun off _ => ?_) h
      exact Asks.closes (asks_bind (asks_await ⟨rfl, rfl⟩) fun bytes => asks_print_lines _)
  | setMacro device offset data =>
      refine disciplined_resolved (fun id => closes_parsed fun off hoff => ?_) h
      refine closes_hex_argument fun bytes hbytes => closes_write ?_ _
      rw [Command.write, hoff, hbytes]
      rfl

/-! ## When a command succeeds -/

/-- The write was acknowledged. -/
def Acknowledged (method : Method) (returned : Returned) : Prop :=
  method.isWrite = true ∧ returned = .ok .done

section Earned

variable {β : Type}

/-- What no read can be. -/
theorem not_acknowledged {method : Method} (h : method.isWrite = false) (returned : Returned) :
    ¬ Acknowledged method returned := by
  rintro ⟨hwrite, -⟩
  rw [h] at hwrite
  cases hwrite

theorem earns_resolved {spec : String} {f : String → Client β}
    (hf : ∀ id, Earns Acknowledged (fun r => r.isOk) (f id)) :
    Earns Acknowledged (fun r => r.isOk) (resolve_device spec >>= f : Client β) := by
  refine Earns.andThen ?_ hf
  rw [resolve_device_eq]
  refine asks_bind (asks_await (not_acknowledged rfl)) fun devices => ?_
  exact asks_pick fun id _ => not_acknowledged rfl

theorem earns_parsed {α : Type} {parse : Except String α} {f : α → Client β}
    (hf : ∀ a, Earns Acknowledged (fun r => r.isOk) (f a)) :
    Earns Acknowledged (fun r => r.isOk) (parsed parse >>= f : Client β) := by
  cases parse with
  | ok a => exact hf a
  | error message => exact Bool.false_ne_true

theorem earns_hex_argument {data : String} {f : List UInt8 → Client β}
    (hf : ∀ bytes, Earns Acknowledged (fun r => r.isOk) (f bytes)) :
    Earns Acknowledged (fun r => r.isOk) (hex_argument data >>= f : Client β) := by
  rw [hex_argument]
  cases parse_hex_bytes data with
  | none => exact Bool.false_ne_true
  | some parse => exact earns_parsed hf

theorem as_done_some {answer : Answer} : as_done answer = some () ↔ answer = .done := by
  cases answer <;> simp [as_done]

theorem earns_write {method : Method} (h : method.isWrite = true) (line : String) :
    Earns Acknowledged (fun r => r.isOk)
      (await (proxy method as_done) >>= fun _ => println line : Client Unit) := by
  intro returned
  by_cases hdone : returned = .ok .done
  · subst hdone
    exact .inl ⟨⟨h, rfl⟩, rfl⟩
  · refine .inr ⟨fun hack => hdone hack.2, ?_⟩
    show Earns _ _ (Dialogue.andThen (.done ((typed as_done returned).mapError Failure.bus)) _)
    cases htyped : typed as_done returned with
    | error e => exact Bool.false_ne_true
    | ok a =>
        obtain ⟨answer, rfl, hread⟩ := typed_ok.1 htyped
        exact absurd (congrArg Except.ok (as_done_some.1 hread)) hdone

end Earned

theorem earns_act_lighting (display : BusError → String) (id : String) {action : LightingAction}
    (h : action.isWrite = true) :
    Earns Acknowledged (fun r => r.isOk) (act_lighting display id action) := by
  cases action with
  | «show» => cases h
  | brightness value => exact earns_parsed fun v => earns_write rfl _
  | effect text => exact earns_parsed fun e => earns_write rfl _
  | speed value => exact earns_parsed fun v => earns_write rfl _
  | color text => exact earns_parsed fun rgb => earns_write rfl _
  | off => exact earns_write rfl _
  | effects => cases h
  | getRaw channel value_id => cases h
  | setRaw channel value_id data =>
      refine earns_parsed fun c => earns_parsed fun v => ?_
      exact earns_hex_argument fun bytes => earns_write rfl _

theorem earns_run (display : BusError → String) {cmd : Command} (h : cmd.isWrite = true) :
    Earns Acknowledged (fun r => r.isOk) (run display cmd) := by
  cases cmd with
  | set device layer row col key =>
      exact earns_parsed fun code => earns_resolved fun id => earns_write rfl _
  | commit device => exact earns_resolved fun id => earns_write rfl _
  | lighting device action =>
      cases action with
      | none => cases h
      | some action =>
          rw [run, cmd_lighting]
          split
          · rename_i heffects
            rw [Option.getD_some] at heffects
            subst heffects
            cases h
          · exact earns_resolved fun id => earns_act_lighting display id h
  | setMacro device offset data =>
      refine earns_resolved fun id => earns_parsed fun off => ?_
      exact earns_hex_argument fun bytes => earns_write rfl _
  | list => cases h
  | info device => cases h
  | keymap device layer => cases h
  | get device layer row col => cases h
  | keys filter => cases h
  | getMacro device offset length => cases h

/-- **Commands keep to their arguments.**  In every run of every command, also in one that
is cut short, and for all replies: the first call lists the devices, the calls after it read
devices that were listed, and at most one call writes.  It is the last one, it is to a
listed device, and it is the write that the arguments of the command say; so a command that
is not there to write writes nothing.  And a command that is there to write succeeds if and
only if it did write and the daemon acknowledged it. -/
theorem run_disciplined (display : BusError → String) :
    (∀ (cmd : Command) (exchanges : List (Method × Returned)) (out : List String)
      (q : Client Unit), Leads (run display cmd) exchanges out q →
        Disciplined (fun id => cmd.write id) exchanges) ∧
    ∀ (cmd : Command) (exchanges : List (Method × Returned)) (out : List String)
      (r : Except Failure Unit), cmd.isWrite = true → Finished (run display cmd) exchanges out r →
        (r = .ok () ↔ ∃ exchange ∈ exchanges, Acknowledged exchange.1 exchange.2) := by
  refine ⟨fun cmd _ _ _ h => disciplined_of_leads display cmd h, ?_⟩
  intro cmd exchanges out r hwrite h
  rw [← (earns_run display hwrite).finished h]
  cases r with
  | ok a => exact iff_of_true rfl rfl
  | error e => exact iff_of_false nofun Bool.false_ne_true

end Clackd.Cli
