import Clackd.Engine.Lifecycle

/-!
# Who may be in the registry

A device enters the registry when it is plugged in.  From then on it moves
between the two tables, or is dropped, by reports, reattaches and evictions, and
only unplugging it takes it out of both for sure.  The record of handled commands
says which devices are plugged in.

## Main results

* `known_handled`: one turn brings a device into the registry only if it plugs
  it in, and leaves it there only if it does not unplug it.
* `registry_sound`: in every state of every run, no device is in both tables and
  every device in one of them is plugged in.
-/

namespace Clackd.Engine

open Clackd.Foundation Clackd.Hal
open Std (ExtTreeMap)

/-- The supervisor handles a `DeviceConnected` of the device. -/
def Effect.Plugs (id : String) : Effect → Prop
  | .handled envelope =>
      ∃ vendor_id product_id path, envelope.cmd = .deviceConnected id vendor_id product_id path
  | _ => False

/-- The supervisor handles a `DeviceDisconnected` of the device. -/
def Effect.Unplugs (id : String) : Effect → Prop
  | .handled envelope => envelope.cmd = .deviceDisconnected id
  | _ => False

/-- A `DeviceConnected` was handled after the last `DeviceDisconnected`. -/
def PluggedIn (id : String) (log : List Effect) : Prop :=
  Since (Effect.Plugs id) (Effect.Unplugs id) log

/-- Whether an entry is about a command taken off the queue. -/
def Effect.isHandled : Effect → Bool
  | .handled _ => true
  | _ => false

theorem pluggedIn_append_of_unhandled {id : String} {log more : List Effect}
    (h : ∀ x ∈ more, x.isHandled = false) :
    PluggedIn id (log ++ more) ↔ PluggedIn id log := by
  apply since_append_of_irrelevant
  intro x hx
  have hplain := h x hx
  cases x with
  | handled envelope => cases hplain
  | _ => exact ⟨fun hcon => hcon, fun hcon => hcon⟩

namespace Supervisor

variable {W D : Type}

/-- The device is in one of the two tables. -/
def Known (id : String) (e : Supervisor D) : Prop :=
  e.registry.devices[id]? ≠ none ∨ e.registry.reconnecting[id]? ≠ none

/-- A turn records no command beyond the one it handles. -/
theorem handled_log {cmd : EngineCommand} {sender : Origin} {e e' : Supervisor D}
    (h : e.Handled cmd sender e') :
    ∃ more, e'.log = e.log ++ more ∧ ∀ x ∈ more, x.isHandled = false := by
  cases h with
  | quiet effects _ _ hlog hreplies _ _ _ _ =>
      refine ⟨effects, hlog, ?_⟩
      intro x hx
      obtain ⟨reply, r, rfl⟩ := hreplies x hx
      rfl
  | cancelled id _ _ _ hlog _ => exact ⟨[], by simp [hlog], by simp⟩
  | connected id vendor_id product_id path handle _ _ _ _ _ hlog =>
      exact ⟨_, hlog, by simp [Effect.isHandled]⟩
  | retried id vendor_id product_id path t _ _ _ _ _ hlog =>
      exact ⟨_, hlog, by simp [Effect.isHandled]⟩
  | disconnected id handle _ _ _ _ hlog => exact ⟨_, hlog, by simp [Effect.isHandled]⟩
  | lost id handle t _ _ _ _ _ hlog => exact ⟨_, hlog, by simp [Effect.isHandled]⟩
  | failed id err handle _ _ _ _ _ hlog => exact ⟨_, hlog, by simp [Effect.isHandled]⟩
  | reattached id handle token k _ _ _ _ hlog => exact ⟨_, hlog, by simp [Effect.isHandled]⟩
  | evicted id op handle _ _ _ _ _ _ hlog => exact ⟨_, hlog, by simp [Effect.isHandled]⟩

/-- A device that is in the registry after a turn was there before or is plugged
in by it, and is not unplugged by it. -/
theorem known_handled {cmd : EngineCommand} {sender : Origin} {e e' : Supervisor D}
    (hhandled : e.Handled cmd sender e') {id : String} (h : e'.Known id) :
    (e.Known id ∨ ∃ vendor_id product_id path,
      cmd = .deviceConnected id vendor_id product_id path) ∧ cmd ≠ .deviceDisconnected id := by
  cases hhandled with
  | quiet effects hregistry _ _ _ hplug _ _ _ =>
      refine ⟨.inl ?_, ?_⟩
      · simpa [Known, hregistry] using h
      · rintro rfl
        cases hplug
  | cancelled id' hcmd hregistry _ _ habsent =>
      simp only [Known, hregistry, lookup_erase] at h
      by_cases hid : id' = id
      · subst hid
        have hpresent : e.registry.devices[id']? ≠ none := by simpa using h
        exact ⟨.inl (.inl hpresent), fun hcon => hpresent (habsent hcon)⟩
      · refine ⟨.inl (by simpa [Known, hid] using h), ?_⟩
        rintro rfl
        exact hid (Option.some.inj hcmd).symm
  | connected id' vendor_id product_id path handle hcmd _ _ hregistry _ _ =>
      refine ⟨?_, by rw [hcmd]; nofun⟩
      by_cases hid : id' = id
      · exact .inr ⟨vendor_id, product_id, path, hid ▸ hcmd⟩
      · simp only [Known, hregistry, lookup_insert, lookup_erase, hid, if_false] at h
        exact .inl h
  | retried id' vendor_id product_id path t hcmd _ _ hregistry _ _ =>
      refine ⟨?_, by rw [hcmd]; nofun⟩
      by_cases hid : id' = id
      · exact .inr ⟨vendor_id, product_id, path, hid ▸ hcmd⟩
      · simp only [Known, hregistry, lookup_insert, lookup_erase, hid, if_false] at h
        exact .inl h
  | disconnected id' handle hcmd _ hregistry _ _ =>
      simp only [Known, hregistry, lookup_erase] at h
      by_cases hid : id' = id
      · simp [hid] at h
      · refine ⟨.inl (by simpa [Known, hid] using h), ?_⟩
        rw [hcmd]
        intro hcon
        injection hcon with hcon
        exact hid hcon
  | lost id' handle t hcmd hpresent _ hregistry _ _ =>
      refine ⟨.inl ?_, by rw [hcmd]; nofun⟩
      by_cases hid : id' = id
      · subst hid
        exact .inl (by simp [hpresent])
      · simp only [Known, hregistry, lookup_insert, lookup_erase, hid, if_false] at h
        exact h
  | failed id' err handle hcmd _ hpresent hregistry _ _ =>
      refine ⟨.inl ?_, by rw [hcmd]; nofun⟩
      by_cases hid : id' = id
      · subst hid
        exact .inl (by simp [hpresent])
      · simp only [Known, hregistry, lookup_erase, hid, if_false] at h
        exact h
  | reattached id' handle token k hcmd hcurrent hregistry _ _ =>
      refine ⟨.inl ?_, by rw [hcmd]; nofun⟩
      by_cases hid : id' = id
      · subst hid
        exact .inr (by simp [hcurrent])
      · simp only [Known, hregistry, lookup_insert, lookup_erase, hid, if_false] at h
        exact h
  | evicted id' op handle hcmd hpresent _ _ hregistry _ _ =>
      refine ⟨.inl ?_, ?_⟩
      · by_cases hid : id' = id
        · subst hid
          exact .inl (by simp [hpresent])
        · simp only [Known, hregistry, lookup_erase, hid, if_false] at h
          exact h
      · rintro rfl
        cases hcmd

end Supervisor

namespace Sys

variable {W D : Type}

/-- No device is in both tables, and a device in one of them is plugged in. -/
structure SoundRegistry (s : Sys D) : Prop where
  disjoint : ∀ id : String,
    s.sup.registry.devices[id]? = none ∨ s.sup.registry.reconnecting[id]? = none
  pluggedIn : ∀ id : String,
    s.sup.registry.devices[id]? ≠ none ∨ s.sup.registry.reconnecting[id]? ≠ none →
      PluggedIn id s.sup.log

theorem soundRegistry_step {s s' : Sys D} (hstep : Stepped s s') (h : SoundRegistry s) :
    SoundRegistry s' where
  disjoint := disjoint_step hstep h.disjoint
  pluggedIn := by
    intro id hknown
    cases hstep with
    | turned envelope rest hturn =>
        obtain ⟨more, hlog, hmore⟩ := Supervisor.handled_log hturn.handled
        obtain ⟨hbefore, hplugged⟩ := Supervisor.known_handled hturn.handled hknown
        rw [hlog, pluggedIn_append_of_unhandled hmore]
        change PluggedIn id (s.sup.log ++ [.handled envelope])
        rw [PluggedIn, since_snoc]
        rcases hbefore with hbefore | hconnected
        · exact .inr ⟨h.pluggedIn id hbefore, hplugged⟩
        · exact .inl hconnected
    | stopped envelope rest hstop =>
        have hbefore : s.sup.registry.reconnecting[id]? ≠ none := by
          simpa [hstop.registry] using hknown
        rw [hstop.log, PluggedIn, since_snoc]
        refine .inr ⟨h.pluggedIn id (.inr hbefore), ?_⟩
        show envelope.cmd ≠ .deviceDisconnected id
        rw [hstop.cmd]
        nofun
    | returned hreturn => simp [hreturn.registry] at hknown
    | aside haside =>
        obtain ⟨more, hlog, hquiet⟩ := haside.log
        rw [haside.registry] at hknown
        rw [hlog, pluggedIn_append_of_unhandled]
        · exact h.pluggedIn id hknown
        · intro x hx
          have hq := hquiet x hx
          cases x with
          | handled envelope => cases hq
          | _ => rfl

section Runs

variable [KeyboardDriver D] [BackgroundTasks D]

/-- In every state of every run, for every order of commands, every failure of a
factory or a probe and every reconnect result: no device is in both tables, and
every device in one of them has been plugged in since it was last unplugged. -/
theorem registry_sound (table : DriverTable W D) (ls : List (Label W)) :
    Always (step table) SoundRegistry start ls := by
  refine always_of_preserves (I := SoundRegistry)
    (fun s l s' h hstep => soundRegistry_step (step_cases hstep) h) (fun _ h => h) ⟨?_, ?_⟩ ls
  · intro id
    exact .inl ExtTreeMap.getElem?_empty
  · intro id hknown
    simp [start, Supervisor.new] at hknown

end Runs

end Sys

end Clackd.Engine
