import Clackd.Cli.Conduct

/-!
# The list of keyboards

`list` shows one line for each keyboard, whatever else is known of it, and the number in
front of a line is a way to name the keyboard to the other commands.

## Main results

* `list_indices`: what `list` prints, for all replies, and what its numbers stand for.
-/

namespace Clackd.Cli

open Clackd.Foundation Clackd.Ipc
open Dialogue (Finished finished_done finished_tell finished_bind)
open Client

section Lines

variable {α β : Type} {exchanges : List (Method × Returned)} {out : List String}

theorem finished_attempted {method : Method} {read : Answer → Option α}
    {f : Except BusError α → Client β} {r : Except Failure β} :
    Finished (Client.attempt (proxy method read) >>= f : Client β) exchanges out r ↔
      ∃ returned more, exchanges = (method, returned) :: more ∧
        Finished (f (typed read returned)) more out r := by
  refine finished_bind.trans ⟨?_, ?_⟩
  · rintro ⟨x, first, more, printed, later, hfirst, hrest, rfl, rfl⟩
    obtain ⟨returned, rfl, rfl, rfl⟩ := finished_attempt.1 hfirst
    exact ⟨returned, more, rfl, hrest⟩
  · rintro ⟨returned, more, rfl, hrest⟩
    exact ⟨_, [(method, returned)], more, [], out,
      finished_attempt.2 ⟨returned, rfl, rfl, rfl⟩, hrest, rfl, rfl⟩

/-- The summary of a keyboard, by what came of the two lookups. -/
def described (id : String) (identity : Except BusError (UInt16 × UInt16 × String))
    (info : Except BusError (String × UInt8 × UInt8 × UInt8)) : String :=
  match identity, info with
  | .ok (vid, pid, name), .ok (_, rows, cols, layers) =>
      let name := if name.isEmpty then "unnamed" else name
      id ++ " — " ++ name ++ " [" ++ hex_word vid ++ ":" ++ hex_word pid ++ "], " ++
        toString rows ++ "×" ++ toString cols ++ " keys, " ++ toString layers ++ " layers"
  | _, _ => id

theorem describe_device_eq (id : String) :
    describe_device id = (Client.attempt (get_device_identity id) >>= fun identity =>
      Client.attempt (get_device_info id) >>= fun info =>
        (Dialogue.done (.ok (described id identity info)) : Client String) : Client String) := by
  rw [describe_device]
  congr 1
  funext identity
  congr 1
  funext info
  cases identity <;> cases info <;> rfl

/-- The summary is there whatever came of the lookups. -/
theorem finished_describe_device {id : String} {r : Except Failure String} :
    Finished (describe_device id) exchanges out r ↔ ∃ identity info,
      exchanges = [(.get_device_identity id, identity), (.get_device_info id, info)] ∧
        out = [] ∧ r = .ok (described id (typed as_identity identity) (typed as_info info)) := by
  rw [describe_device_eq]
  refine finished_attempted.trans ⟨?_, ?_⟩
  · rintro ⟨identity, more, rfl, hmore⟩
    obtain ⟨info, last, rfl, hlast⟩ := finished_attempted.1 hmore
    obtain ⟨rfl, rfl, rfl⟩ := finished_done.1 hlast
    exact ⟨identity, info, rfl, rfl, rfl⟩
  · rintro ⟨identity, info, rfl, rfl, rfl⟩
    exact ⟨identity, _, rfl, finished_attempted.2 ⟨info, [], rfl, finished_done.2 ⟨rfl, rfl, rfl⟩⟩⟩

/-- The summary begins with the id, and is no more than that if a lookup failed. -/
theorem described_begins (id : String) (identity : Except BusError (UInt16 × UInt16 × String))
    (info : Except BusError (String × UInt8 × UInt8 × UInt8)) :
    ∃ rest, described id identity info = id ++ rest ∧
      (identity.isOk = false ∨ info.isOk = false → rest = "") := by
  rw [described.eq_def]
  split
  · rename_i vid pid name model rows cols layers
    dsimp only
    simp only [String.append_assoc]
    refine ⟨_, rfl, ?_⟩
    rintro (hcon | hcon) <;> cases hcon
  · exact ⟨"", String.append_empty.symm, fun _ => rfl⟩

/-- The line of a keyboard in the list: its number and id, and the summary that its two
lookups give. -/
def LineOf (more : List (Method × Returned)) (out : List String) (idx i : Nat) (id : String) :
    Prop :=
  ∃ identity info rest, more[2 * i]? = some (.get_device_identity id, identity) ∧
    more[2 * i + 1]? = some (.get_device_info id, info) ∧
    out[i]? = some (toString (idx + i) ++ ": " ++ (id ++ rest) ++ "\n") ∧
    described id (typed as_identity identity) (typed as_info info) = id ++ rest ∧
    ((typed as_identity identity).isOk = false ∨ (typed as_info info).isOk = false → rest = "")

/-- One line for each keyboard, in order. -/
theorem finished_list_lines {devices : List String} {idx : Nat} {r : Except Failure Unit}
    (h : Finished (list_lines idx devices) exchanges out r) :
    r = .ok () ∧ exchanges.length = 2 * devices.length ∧ out.length = devices.length ∧
      ∀ (i : Nat) (id : String), devices[i]? = some id → LineOf exchanges out idx i id := by
  induction devices generalizing idx exchanges out with
  | nil =>
      obtain ⟨rfl, rfl, rfl⟩ := finished_done.1 h
      exact ⟨rfl, rfl, rfl, fun i id hid => by cases hid⟩
  | cons device devices ih =>
      obtain ⟨x, first, more, printed, later, hfirst, hmore, rfl, rfl⟩ := finished_bind.1 h
      obtain ⟨identity, info, rfl, rfl, rfl⟩ := finished_describe_device.1 hfirst
      obtain ⟨lines, rfl, hlines⟩ := finished_tell.1 hmore
      obtain ⟨rfl, hcalls, hlength, hrest⟩ := ih hlines
      refine ⟨rfl, ?_, ?_, ?_⟩
      · rw [List.length_append, hcalls, List.length_cons, List.length_cons, List.length_cons]
        show 2 + 2 * devices.length = _
        omega
      · rw [List.nil_append, List.length_cons, List.length_cons, hlength]
      · intro i id hid
        cases i with
        | zero =>
            cases hid
            obtain ⟨rest, hdescribed, hfailed⟩ :=
              described_begins device (typed as_identity identity) (typed as_info info)
            refine ⟨identity, info, rest, rfl, rfl, ?_, hdescribed, hfailed⟩
            rw [hdescribed]
            rfl
        | succ i =>
            obtain ⟨identity', info', rest, hidentity, hinfo, hline, hdescribed, hfailed⟩ :=
              hrest i id hid
            refine ⟨identity', info', rest, ?_, ?_, ?_, hdescribed, hfailed⟩
            · rw [show 2 * (i + 1) = 2 * i + 1 + 1 by omega]
              exact hidentity
            · rw [show 2 * (i + 1) + 1 = 2 * i + 1 + 1 + 1 by omega]
              exact hinfo
            · rw [show idx + (i + 1) = idx + 1 + i by omega]
              exact hline

end Lines

/-- A number stands for the keyboard that was listed with it. -/
theorem device_at_index {devices : List String} {i : Nat} (h : i < 2 ^ 64) :
    device_at devices (toString i) = devices[i]? := by
  have hread : from_str_radix_10 (2 ^ 64) (toString i).toList = some i := by
    rw [Nat.toString_eq_repr, Nat.toList_repr, from_str_radix_10_iff (by decide)]
    have hdigits := unsigned_of_digits fun c hc => (to_digit_10_clean (toDigits_10_digits i c hc)).1
    rw [hdigits]
    exact ⟨Nat.toDigits_ne_nil, numeral_toDigits (by decide) digitChar_10 i, h⟩
  rw [device_at, hread, Option.bind_some]

/-- **What `list` shows can be named.**  The complete runs of `list`, for all replies: where
the daemon lists no devices that is the error; and else `list` succeeds, whatever came of
the lookups, and prints one line for each device in the order of the daemon, with the number
and the id in front; the line of a device of which a lookup failed is no more than these.
And the number of a line is a spec for its device: as long as no
device has that number for its id, it is resolved to that device without another call. -/
theorem list_indices :
    (∀ (exchanges : List (Method × Returned)) (out : List String) (r : Except Failure Unit),
      Finished cmd_list exchanges out r → ∃ returned more,
        exchanges = (.list_devices, returned) :: more ∧
          ((∃ e, typed as_devices returned = .error e ∧ more = [] ∧ out = [] ∧
            r = .error (.bus e)) ∨
          ∃ devices, returned = .ok (.devices devices) ∧ r = .ok () ∧
            (devices = [] → out = ["No keyboards connected (or none that clackd manages).\n"]) ∧
            (devices ≠ [] → more.length = 2 * devices.length ∧ out.length = devices.length ∧
              ∀ (i : Nat) (id : String), devices[i]? = some id → LineOf more out 0 i id))) ∧
    ∀ (devices : List String) (i : Nat) (id : String), devices[i]? = some id → i < 2 ^ 64 →
      toString i ∉ devices →
        Resolution (toString i) (.ok (.devices devices)) [] (.ok id) := by
  constructor
  · intro exchanges out r h
    obtain ⟨x, first, more, printed, later, hfirst, hmore, rfl, rfl⟩ := finished_bind.1 h
    obtain ⟨returned, rfl, rfl, rfl⟩ := finished_await.1 hfirst
    refine ⟨returned, more, rfl, ?_⟩
    cases hlisted : typed as_devices returned with
    | error e =>
        rw [hlisted] at hmore
        obtain ⟨rfl, rfl, rfl⟩ := finished_done.1 hmore
        exact .inl ⟨e, rfl, rfl, rfl, rfl⟩
    | ok devices =>
        rw [hlisted] at hmore
        obtain ⟨answer, rfl, hread⟩ := typed_ok.1 hlisted
        obtain rfl := as_devices_some.1 hread
        refine .inr ⟨devices, rfl, ?_⟩
        cases devices with
        | nil =>
            obtain ⟨rfl, rfl, rfl⟩ := finished_println.1 hmore
            exact ⟨rfl, fun _ => rfl, fun hne => absurd rfl hne⟩
        | cons device devices =>
            obtain ⟨rfl, hlines⟩ := finished_list_lines hmore
            exact ⟨rfl, fun hnil => (List.cons_ne_nil _ _ hnil).elim, fun _ => hlines⟩
  · intro devices i id hid hi hfree
    refine .direct ?_
    rw [direct, if_neg hfree, device_at_index hi, hid]

end Clackd.Cli
