import Clackd.Engine.Mock
import Clackd.Foundation.History

/-!
# Reattach messages and their tokens

A reconnect task that is cancelled may have its message on the way already, so
messages of several generations of tasks can be queued at once.  The supervisor
tells them apart by a token: the number of reconnects started before, in 64 bits.
Below `2 ^ 64` starts it determines the task.

## Main results

* `tokens_step`: one step keeps the relation between tokens, tasks, the
  reconnecting table and the record (`Tokens`).
* `stale_reattach_rejected`: a `DeviceReattached` changes the registry or emits
  an event only if its task is the one started last for the device and nothing
  has superseded it since, and each task is accepted at most once.
-/

namespace Clackd.Engine

open Clackd.Foundation Clackd.Hal
open Std (ExtTreeMap)

/-- Whether an entry of the record ends what a reconnect task of the device was
started for: a later start, a plug event, or an accepted reattach. -/
def Effect.Supersedes (id : String) : Effect → Prop
  | .started id' _ => id' = id
  | .handled envelope => envelope.cmd.plugged = some id
  | .accepted id' _ => id' = id
  | _ => False

/-- Whether an entry is the acceptance of a task's message. -/
def Effect.isAcceptanceOf (k : TaskId) : Effect → Bool
  | .accepted _ (.task k') => k' = k
  | _ => false

/-- The task is the one started last for the device, and nothing has superseded
it since. -/
def CurrentTask (id : String) (k : TaskId) (log : List Effect) : Prop :=
  Since (fun x => x = .started id k) (Effect.Supersedes id) log

/-- How often a task's message was accepted. -/
def acceptances (k : TaskId) (log : List Effect) : Nat := log.countP (Effect.isAcceptanceOf k)

/-- The events of the lifecycle channel, in order. -/
def lifecycleEvents (log : List Effect) : List LifecycleEvent :=
  log.filterMap fun x =>
    match x with
    | .lifecycle event => some event
    | _ => none

theorem lifecycleEvents_append (log more : List Effect) :
    lifecycleEvents (log ++ more) = lifecycleEvents log ++ lifecycleEvents more :=
  List.filterMap_append

theorem lifecycleEvents_of_replies {effects : List Effect}
    (h : ∀ x ∈ effects, ∃ reply r, x = .replied reply r) : lifecycleEvents effects = [] := by
  rw [lifecycleEvents, List.filterMap_eq_nil_iff]
  intro x hx
  obtain ⟨reply, r, rfl⟩ := h x hx
  rfl

/-- An entry that neither supersedes a task nor accepts its message. -/
def Effect.Neutral (x : Effect) : Prop :=
  (∀ k, x.isAcceptanceOf k = false) ∧ ∀ id, ¬ x.Supersedes id

theorem neutral_of_quiet {x : Effect} (h : x.isQuiet = true) : x.Neutral := by
  cases x with
  | handled envelope => cases h
  | started id k => cases h
  | accepted id sender => cases h
  | _ => exact ⟨fun _ => rfl, fun _ hcon => hcon⟩

theorem neutral_attached (id : String) (w : WorkerId) : (Effect.attached id w).Neutral :=
  ⟨fun _ => rfl, fun _ hcon => hcon⟩

theorem neutral_detached (id : String) (w : WorkerId) : (Effect.detached id w).Neutral :=
  ⟨fun _ => rfl, fun _ hcon => hcon⟩

theorem neutral_lifecycle (event : LifecycleEvent) : (Effect.lifecycle event).Neutral :=
  ⟨fun _ => rfl, fun _ hcon => hcon⟩

theorem neutral_replied (reply : ReplyId) (r : Reply) : (Effect.replied reply r).Neutral :=
  ⟨fun _ => rfl, fun _ hcon => hcon⟩

theorem CurrentTask.append {id : String} {k : TaskId} {log more : List Effect}
    (h : CurrentTask id k log) (hmore : ∀ x ∈ more, ¬ x.Supersedes id) :
    CurrentTask id k (log ++ more) := by
  refine (since_append_of_irrelevant ?_).2 h
  intro x hx
  refine ⟨?_, hmore x hx⟩
  rintro rfl
  exact hmore _ hx rfl

theorem acceptances_append_of_none {k : TaskId} {log more : List Effect}
    (h : ∀ x ∈ more, x.isAcceptanceOf k = false) :
    acceptances k (log ++ more) = acceptances k log := by
  have hmore : more.countP (Effect.isAcceptanceOf k) = 0 := by
    rw [List.countP_eq_zero]
    intro x hx
    rw [h x hx]
    exact Bool.false_ne_true
  rw [acceptances, List.countP_append, hmore]
  rfl

namespace Supervisor

variable {W D : Type}

/-- What is known of an entry of `registry.reconnecting`. -/
structure EntryOk (e : Supervisor D) (id : String) (k : TaskId) (token : UInt64) : Prop where
  token : token = UInt64.ofNat k
  task : ∃ t, e.tasks[k]? = some t ∧ t.ctx.device_id = id
  current : CurrentTask id k e.log
  waiting : acceptances k e.log = 0

/-- The relation between tokens, tasks, the reconnecting table and the record. -/
structure Tokens (e : Supervisor D) : Prop where
  token : ∀ (k : TaskId) (t : ReconnectTask), e.tasks[k]? = some t →
    t.ctx.token = UInt64.ofNat k
  next : e.registry.next_reconnect_token = UInt64.ofNat e.tasks.length
  entry : ∀ (id : String) (k : TaskId) (token : UInt64),
    e.registry.reconnecting[id]? = some (k, token) → e.EntryOk id k token
  once : ∀ k, acceptances k e.log ≤ 1
  unborn : ∀ k, e.tasks.length ≤ k → acceptances k e.log = 0

theorem tokens_new : Tokens (Supervisor.new : Supervisor D) where
  token := fun k t h => by cases h
  next := rfl
  entry := by
    intro id k token h
    change (∅ : ExtTreeMap String (TaskId × UInt64))[id]? = _ at h
    rw [ExtTreeMap.getElem?_empty] at h
    cases h
  once := fun _ => Nat.zero_le 1
  unborn := fun _ _ => rfl

/-- An entry stays good while its task is there and nothing supersedes or
accepts it. -/
theorem EntryOk.mono {e e' : Supervisor D} {id : String} {k : TaskId} {token : UInt64}
    (h : e.EntryOk id k token)
    (htasks : ∀ t, e.tasks[k]? = some t → ∃ t', e'.tasks[k]? = some t' ∧ t'.ctx = t.ctx)
    {more : List Effect} (hlog : e'.log = e.log ++ more)
    (hmore : ∀ x ∈ more, ¬ x.Supersedes id)
    (haccept : ∀ x ∈ more, x.isAcceptanceOf k = false) : e'.EntryOk id k token := by
  obtain ⟨t, ht, hid⟩ := h.task
  obtain ⟨t', ht', hctx⟩ := htasks t ht
  refine ⟨h.token, ⟨t', ht', by rw [hctx, hid]⟩, ?_, ?_⟩
  · rw [hlog]
    exact h.current.append hmore
  · rw [hlog, acceptances_append_of_none haccept]
    exact h.waiting

/-- The tasks after one more is started. -/
theorem getElem?_snoc {l : List ReconnectTask} {t u : ReconnectTask} {k : Nat} :
    (l ++ [t])[k]? = some u ↔ l[k]? = some u ∨ (k = l.length ∧ u = t) := by
  rw [List.getElem?_append]
  split
  · rename_i hlt
    exact ⟨.inl, fun h => h.elim id fun hcon => absurd hcon.1 (Nat.ne_of_lt hlt)⟩
  · rename_i hle
    have hnone : l[k]? = none := List.getElem?_eq_none_iff.2 (Nat.le_of_not_lt hle)
    rw [hnone]
    constructor
    · intro h
      obtain ⟨hlt, heq⟩ := List.getElem?_eq_some_iff.1 h
      have hlen : k = l.length := by
        rw [List.length_singleton] at hlt
        omega
      rw [List.getElem_singleton] at heq
      exact .inr ⟨hlen, heq.symm⟩
    · rintro (hcon | ⟨rfl, rfl⟩)
      · cases hcon
      · rw [Nat.sub_self]
        rfl

/-- A turn that starts no task and accepts no message: the entries it keeps must
not be superseded. -/
theorem Tokens.of_kept {e e' : Supervisor D} (h : Tokens e) {more : List Effect}
    (hlog : e'.log = e.log ++ more)
    (haccept : ∀ k, ∀ x ∈ more, x.isAcceptanceOf k = false)
    (htasks : e'.tasks = e.tasks)
    (hnext : e'.registry.next_reconnect_token = e.registry.next_reconnect_token)
    (hentry : ∀ (id : String) (r : TaskId × UInt64), e'.registry.reconnecting[id]? = some r →
      e.registry.reconnecting[id]? = some r ∧ ∀ x ∈ more, ¬ x.Supersedes id) : Tokens e' where
  token := by
    rw [htasks]
    exact h.token
  next := by
    rw [hnext, htasks]
    exact h.next
  entry := by
    intro id k token hk
    obtain ⟨hold, hmore⟩ := hentry id _ hk
    refine (h.entry id k token hold).mono ?_ hlog hmore (haccept k)
    intro t ht
    exact ⟨t, by rw [htasks, ht], rfl⟩
  once := by
    intro k
    rw [hlog, acceptances_append_of_none (haccept k)]
    exact h.once k
  unborn := by
    intro k hk
    rw [htasks] at hk
    rw [hlog, acceptances_append_of_none (haccept k)]
    exact h.unborn k hk

/-- A turn that starts a task for a device. -/
theorem Tokens.of_started {e e' : Supervisor D} (h : Tokens e) {id : String} {t : ReconnectTask}
    {more : List Effect} (ht : Fresh id e.registry.next_reconnect_token t)
    (hlog : e'.log = e.log ++ more ++ [.started id e.tasks.length])
    (haccept : ∀ k, ∀ x ∈ more, x.isAcceptanceOf k = false)
    (htasks : e'.tasks = e.tasks ++ [t])
    (hnext : e'.registry.next_reconnect_token = e.registry.next_reconnect_token + 1)
    (hnew : e'.registry.reconnecting[id]? =
      some (e.tasks.length, e.registry.next_reconnect_token))
    (hentry : ∀ (id' : String) (r : TaskId × UInt64), id ≠ id' →
      e'.registry.reconnecting[id']? = some r →
      e.registry.reconnecting[id']? = some r ∧ ∀ x ∈ more, ¬ x.Supersedes id') : Tokens e' := by
  have hlog' : e'.log = e.log ++ (more ++ [.started id e.tasks.length]) := by
    rw [hlog, List.append_assoc]
  have haccept' : ∀ k, ∀ x ∈ more ++ [Effect.started id e.tasks.length],
      x.isAcceptanceOf k = false := by
    intro k x hx
    rcases List.mem_append.1 hx with hx | hx
    · exact haccept k x hx
    · rw [List.mem_singleton.1 hx]
      rfl
  refine ⟨?_, ?_, ?_, ?_, ?_⟩
  · intro k u hu
    rw [htasks, getElem?_snoc] at hu
    rcases hu with hu | ⟨rfl, rfl⟩
    · exact h.token k u hu
    · rw [ht.token, h.next]
  · rw [hnext, h.next, htasks, List.length_append, List.length_singleton, UInt64.ofNat_add]
    rfl
  · intro id' k token hk
    by_cases hid : id = id'
    · subst hid
      rw [hnew] at hk
      cases hk
      refine ⟨h.next, ⟨t, ?_, ht.device_id⟩, ?_, ?_⟩
      · rw [htasks]
        exact getElem?_snoc.2 (.inr ⟨rfl, rfl⟩)
      · rw [hlog]
        exact (since_snoc _ _).2 (.inl rfl)
      · rw [hlog', acceptances_append_of_none (haccept' _)]
        exact h.unborn _ (Nat.le_refl _)
    · obtain ⟨hold, hmore⟩ := hentry id' _ hid hk
      refine (h.entry id' k token hold).mono ?_ hlog' ?_ (haccept' k)
      · intro u hu
        refine ⟨u, ?_, rfl⟩
        rw [htasks]
        exact getElem?_snoc.2 (.inl hu)
      · intro x hx
        rcases List.mem_append.1 hx with hx | hx
        · exact hmore x hx
        · rw [List.mem_singleton.1 hx]
          exact hid
  · intro k
    rw [hlog', acceptances_append_of_none (haccept' k)]
    exact h.once k
  · intro k hk
    rw [htasks, List.length_append, List.length_singleton] at hk
    rw [hlog', acceptances_append_of_none (haccept' k)]
    exact h.unborn k (by omega)

/-- Below `2 ^ 64` a token determines its task. -/
theorem token_injective {j k n : Nat} (hn : n < 2 ^ 64) (hj : j < n) (hk : k < n)
    (h : UInt64.ofNat j = UInt64.ofNat k) : j = k := by
  have hnat := congrArg UInt64.toNat h
  rw [UInt64.toNat_ofNat_of_lt' (show _ < 2 ^ 64 by omega),
    UInt64.toNat_ofNat_of_lt' (show _ < 2 ^ 64 by omega)] at hnat
  exact hnat

/-- An accepted reattach, from the task its token belongs to. -/
theorem Tokens.of_accepted {e e' : Supervisor D} (h : Tokens e) {id : String} {k : TaskId}
    {token : UInt64} {envelope : Envelope} {after : List Effect}
    (hplug : envelope.cmd.plugged = none)
    (hcurrent : e.registry.reconnecting[id]? = some (k, token))
    (hlog : e'.log = e.log ++ ([.handled envelope] ++ .accepted id (.task k) :: after))
    (hafter : ∀ x ∈ after, x.Neutral)
    (htasks : e'.tasks = e.tasks)
    (hnext : e'.registry.next_reconnect_token = e.registry.next_reconnect_token)
    (hregistry : e'.registry.reconnecting = e.registry.reconnecting.erase id) : Tokens e' := by
  obtain ⟨t, ht, hdevice⟩ := (h.entry id k token hcurrent).task
  have hlt : k < e.tasks.length := (List.getElem?_eq_some_iff.1 ht).1
  -- The acceptance counts for its own task only, and it is the first.
  have hcount : ∀ j, acceptances j e'.log =
      acceptances j e.log + if k = j then 1 else 0 := by
    intro j
    have hnone : after.countP (Effect.isAcceptanceOf j) = 0 := by
      rw [List.countP_eq_zero]
      intro x hx
      rw [(hafter x hx).1 j]
      exact Bool.false_ne_true
    have hhandled : [Effect.handled envelope].countP (Effect.isAcceptanceOf j) = 0 := rfl
    have haccepted : (Effect.accepted id (.task k) :: after).countP (Effect.isAcceptanceOf j) =
        if k = j then 1 else 0 := by
      rw [List.countP_cons, hnone, Nat.zero_add]
      simp only [Effect.isAcceptanceOf, decide_eq_true_eq]
    rw [hlog, acceptances, List.countP_append, List.countP_append, hhandled, haccepted,
      Nat.zero_add]
    rfl
  refine ⟨?_, ?_, ?_, ?_, ?_⟩
  · rw [htasks]
    exact h.token
  · rw [hnext, htasks]
    exact h.next
  · intro id' j token' hj
    rw [hregistry, lookup_erase] at hj
    split at hj
    · cases hj
    · rename_i hid
      have hold := h.entry id' j token' hj
      -- Another device's entry belongs to another task.
      obtain ⟨u, hu, hdevice'⟩ := hold.task
      have hne : k ≠ j := by
        rintro rfl
        rw [ht] at hu
        cases hu
        exact hid (hdevice.symm.trans hdevice')
      refine hold.mono ?_ hlog ?_ ?_
      · intro t' ht'
        exact ⟨t', by rw [htasks, ht'], rfl⟩
      · intro x hx
        rcases List.mem_append.1 hx with hx | hx
        · rw [List.mem_singleton.1 hx]
          change envelope.cmd.plugged ≠ some id'
          rw [hplug]
          nofun
        · rcases List.mem_cons.1 hx with rfl | hx
          · exact hid
          · exact (hafter x hx).2 id'
      · intro x hx
        rcases List.mem_append.1 hx with hx | hx
        · rw [List.mem_singleton.1 hx]
          rfl
        · rcases List.mem_cons.1 hx with rfl | hx
          · exact decide_eq_false hne
          · exact (hafter x hx).1 j
  · intro j
    rw [hcount]
    split
    · rename_i hj
      subst hj
      rw [(h.entry id k token hcurrent).waiting]
    · exact h.once j
  · intro j hj
    rw [htasks] at hj
    rw [hcount, if_neg (Nat.ne_of_lt (Nat.lt_of_lt_of_le hlt hj)), h.unborn j hj]

/-- Who sends a `DeviceReattached`: a task, with its token. -/
def FromTask (n : Nat) (envelope : Envelope) : Prop :=
  ∀ id handle token, envelope.cmd = .deviceReattached id handle token →
    ∃ k, envelope.origin = .task k ∧ k < n ∧ token = UInt64.ofNat k

/-- One turn of the supervisor keeps the relation. -/
theorem tokens_handled {e e' : Supervisor D} {envelope : Envelope} (h : Tokens e)
    (hbound : e.tasks.length < 2 ^ 64) (hfrom : FromTask e.tasks.length envelope)
    (hhandled : (e.emit [.handled envelope]).Handled envelope.cmd envelope.origin e') :
    Tokens e' := by
  -- The record of the turn: the command, and then entries that are neutral.
  have haccept : ∀ {more : List Effect}, (∀ x ∈ more, x.Neutral) →
      ∀ k, ∀ x ∈ Effect.handled envelope :: more, x.isAcceptanceOf k = false := by
    intro more hmore k x hx
    rcases List.mem_cons.1 hx with rfl | hx
    · rfl
    · exact (hmore x hx).1 k
  have hother : ∀ {more : List Effect} {id : String}, (∀ x ∈ more, x.Neutral) →
      envelope.cmd.plugged ≠ some id →
      ∀ x ∈ Effect.handled envelope :: more, ¬ x.Supersedes id := by
    intro more id hmore hplug x hx
    rcases List.mem_cons.1 hx with rfl | hx
    · exact hplug
    · exact (hmore x hx).2 id
  -- A turn that leaves the reconnecting table, on a command that is no plug event.
  have hleaves : ∀ {more : List Effect}, (∀ x ∈ more, x.Neutral) →
      envelope.cmd.plugged = none → e'.log = e.log ++ (.handled envelope :: more) →
      e'.tasks = e.tasks →
      e'.registry.next_reconnect_token = e.registry.next_reconnect_token →
      e'.registry.reconnecting = e.registry.reconnecting → Tokens e' := by
    intro more hmore hplug hlog htasks hnext hreconnecting
    refine h.of_kept hlog (haccept hmore) htasks hnext ?_
    intro id r hr
    rw [hreconnecting] at hr
    exact ⟨hr, hother hmore (by rw [hplug]; nofun)⟩
  -- A plug event that cancels the task of its device.
  have hcancels : ∀ {more : List Effect} {id : String}, (∀ x ∈ more, x.Neutral) →
      envelope.cmd.plugged = some id → e'.log = e.log ++ (.handled envelope :: more) →
      e'.tasks = e.tasks →
      e'.registry.next_reconnect_token = e.registry.next_reconnect_token →
      e'.registry.reconnecting = e.registry.reconnecting.erase id → Tokens e' := by
    intro more id hmore hplug hlog htasks hnext hreconnecting
    refine h.of_kept hlog (haccept hmore) htasks hnext ?_
    intro id' r hr
    rw [hreconnecting, lookup_erase] at hr
    split at hr
    · cases hr
    · rename_i hid
      refine ⟨hr, hother hmore ?_⟩
      rw [hplug, ne_eq, Option.some.injEq]
      exact hid
  cases hhandled with
  | quiet effects hregistry htasks hlog hreplies hplug _ _ _ =>
      refine hleaves ?_ hplug (hlog.trans (List.append_assoc _ _ _)) htasks
        (by rw [hregistry]; rfl) (by rw [hregistry]; rfl)
      intro x hx
      obtain ⟨reply, r, rfl⟩ := hreplies x hx
      exact neutral_replied reply r
  | cancelled id hcmd hregistry htasks hlog _ =>
      exact hcancels (fun _ hx => absurd hx List.not_mem_nil) hcmd hlog htasks
        (by rw [hregistry]; rfl) (by rw [hregistry]; rfl)
  | connected id vendor_id product_id path handle hcmd _ _ hregistry htasks hlog =>
      have hplug : envelope.cmd.plugged = some id := by rw [hcmd]; rfl
      refine hcancels ?_ hplug (hlog.trans (List.append_assoc _ _ _)) htasks
        (by rw [hregistry]; rfl) (by rw [hregistry]; rfl)
      simp [neutral_attached, neutral_lifecycle]
  | retried id vendor_id product_id path t hcmd _ ht hregistry htasks hlog =>
      refine h.of_started ht hlog (haccept (fun _ hx => absurd hx List.not_mem_nil)) htasks
        (by rw [hregistry]; rfl) ?_ ?_
      · rw [hregistry]
        exact lookup_insert_self _ _ _
      · intro id' r hid hr
        rw [hregistry] at hr
        change ((e.registry.reconnecting.erase id).insert id _)[id']? = some r at hr
        rw [lookup_insert_ne _ _ hid, lookup_erase_ne _ hid] at hr
        refine ⟨hr, hother (fun _ hx => absurd hx List.not_mem_nil) ?_⟩
        rw [hcmd]
        exact fun hcon => hid (Option.some.inj hcon)
  | disconnected id handle hcmd _ hregistry htasks hlog =>
      have hplug : envelope.cmd.plugged = some id := by rw [hcmd]; rfl
      refine hcancels ?_ hplug (hlog.trans (List.append_assoc _ _ _)) htasks
        (by rw [hregistry]; rfl) (by rw [hregistry]; rfl)
      simp [neutral_detached, neutral_lifecycle]
  | lost id handle t hcmd _ ht hregistry htasks hlog =>
      have hmore : ∀ x ∈ [Effect.detached id handle.tx, .lifecycle (.deviceRemoved id)],
          x.Neutral := by
        simp [neutral_detached, neutral_lifecycle]
      have hlog' : e'.log = e.log ++ (.handled envelope ::
          [.detached id handle.tx, .lifecycle (.deviceRemoved id)]) ++
          [.started id e.tasks.length] := by
        rw [hlog]
        simp only [emit, List.append_assoc, List.cons_append, List.nil_append]
      refine h.of_started ht hlog' (haccept hmore) htasks (by rw [hregistry]; rfl) ?_ ?_
      · rw [hregistry]
        exact lookup_insert_self _ _ _
      · intro id' r hid hr
        rw [hregistry] at hr
        change (e.registry.reconnecting.insert id _)[id']? = some r at hr
        rw [lookup_insert_ne _ _ hid] at hr
        exact ⟨hr, hother hmore (by rw [hcmd]; nofun)⟩
  | failed id err handle hcmd _ _ hregistry htasks hlog =>
      refine hleaves ?_ (by rw [hcmd]; rfl) (hlog.trans (List.append_assoc _ _ _)) htasks
        (by rw [hregistry]; rfl) (by rw [hregistry]; rfl)
      simp [neutral_detached, neutral_lifecycle]
  | reattached id handle token k hcmd hcurrent hregistry htasks hlog =>
      -- The sender is the task of the entry, because they have one token.
      obtain ⟨j, horigin, hj, htoken⟩ := hfrom id handle token hcmd
      have hentry := h.entry id k token hcurrent
      obtain ⟨t, ht, -⟩ := hentry.task
      have hk : k < e.tasks.length := (List.getElem?_eq_some_iff.1 ht).1
      obtain rfl : j = k := token_injective hbound hj hk (htoken.symm.trans hentry.token)
      rw [horigin] at hlog
      refine h.of_accepted (by rw [hcmd]; rfl) hcurrent (hlog.trans (List.append_assoc _ _ _)) ?_
        htasks (by rw [hregistry]; rfl) (by rw [hregistry]; rfl)
      simp [neutral_attached, neutral_lifecycle]
  | evicted id op handle hcmd _ _ _ hregistry htasks hlog =>
      refine hleaves ?_ (forwarded_plain hcmd).1 (hlog.trans (List.append_assoc _ _ _)) htasks
        (by rw [hregistry]; rfl) (by rw [hregistry]; rfl)
      simp [neutral_detached, neutral_replied]

/-- The number of tasks never goes down in a turn. -/
theorem Handled.tasks_length_le {cmd : EngineCommand} {sender : Origin} {e e' : Supervisor D}
    (h : e.Handled cmd sender e') : e.tasks.length ≤ e'.tasks.length := by
  cases h with
  | retried id vendor_id product_id path t _ _ _ _ htasks _ =>
      rw [htasks, List.length_append]
      exact Nat.le_add_right _ _
  | lost id handle t _ _ _ _ htasks _ =>
      rw [htasks, List.length_append]
      exact Nat.le_add_right _ _
  | quiet effects _ htasks _ _ _ _ _ _ => exact Nat.le_of_eq (congrArg List.length htasks.symm)
  | cancelled id _ _ htasks _ _ => exact Nat.le_of_eq (congrArg List.length htasks.symm)
  | connected id vendor_id product_id path handle _ _ _ _ htasks _ =>
      exact Nat.le_of_eq (congrArg List.length htasks.symm)
  | disconnected id handle _ _ _ htasks _ =>
      exact Nat.le_of_eq (congrArg List.length htasks.symm)
  | failed id err handle _ _ _ _ htasks _ =>
      exact Nat.le_of_eq (congrArg List.length htasks.symm)
  | reattached id handle token k _ _ _ htasks _ =>
      exact Nat.le_of_eq (congrArg List.length htasks.symm)
  | evicted id op handle _ _ _ _ _ htasks _ =>
      exact Nat.le_of_eq (congrArg List.length htasks.symm)

end Supervisor

namespace Sys

open Supervisor

variable {W D : Type}

/-- The relation, with what is known of the messages in flight. -/
structure TokensKept (s : Sys D) : Prop where
  tokens : s.sup.Tokens
  inflight : ∀ envelope ∈ s.queue, FromTask s.sup.tasks.length envelope

/-- A message a task sends carries the task's token, and nobody else sends one. -/
theorem fromTask_of_sent {s : Sys D} {envelope : Envelope} (h : s.sup.Tokens)
    (hsent : Sent s envelope) : FromTask s.sup.tasks.length envelope := by
  intro id handle token hcmd
  cases hsent with
  | outside hsender =>
      rw [hcmd] at hsender
      cases hsender
  | worker w x _ heq =>
      rw [heq] at hcmd
      cases hcmd
  | task k t handle' ht heq =>
      rw [heq] at hcmd
      cases hcmd
      rw [heq]
      exact ⟨k, rfl, (List.getElem?_eq_some_iff.1 ht).1, h.token k t ht⟩

theorem FromTask.mono {m n : Nat} {envelope : Envelope} (h : FromTask m envelope)
    (hle : m ≤ n) : FromTask n envelope := by
  intro id handle token hcmd
  obtain ⟨k, horigin, hk, htoken⟩ := h id handle token hcmd
  exact ⟨k, horigin, Nat.lt_of_lt_of_le hk hle, htoken⟩

theorem tokens_aside {s s' : Sys D} (h : s.sup.Tokens) (haside : Aside s s') :
    s'.sup.Tokens := by
  obtain ⟨more, hlog, hquiet⟩ := haside.log
  have haccept : ∀ k, ∀ x ∈ more, x.isAcceptanceOf k = false :=
    fun k x hx => (neutral_of_quiet (hquiet x hx)).1 k
  refine ⟨?_, ?_, ?_, ?_, ?_⟩
  · intro k t' ht'
    obtain ⟨t, ht, hctx⟩ := haside.ctx k t' ht'
    rw [hctx]
    exact h.token k t ht
  · rw [haside.registry, haside.tasks]
    exact h.next
  · intro id k token hk
    rw [haside.registry] at hk
    refine (h.entry id k token hk).mono ?_ hlog
      (fun x hx => (neutral_of_quiet (hquiet x hx)).2 id) (haccept k)
    intro t ht
    have hlt : k < s'.sup.tasks.length := by
      rw [haside.tasks]
      exact (List.getElem?_eq_some_iff.1 ht).1
    obtain ⟨t', ht'⟩ : ∃ t', s'.sup.tasks[k]? = some t' := ⟨_, List.getElem?_eq_getElem hlt⟩
    obtain ⟨u, hu, hctx⟩ := haside.ctx k t' ht'
    rw [ht] at hu
    cases hu
    exact ⟨t', ht', hctx⟩
  · intro k
    rw [hlog, acceptances_append_of_none (haccept k)]
    exact h.once k
  · intro k hk
    rw [haside.tasks] at hk
    rw [hlog, acceptances_append_of_none (haccept k)]
    exact h.unborn k hk

theorem Stepped.tasks_length_le {s s' : Sys D} (h : Stepped s s') :
    s.sup.tasks.length ≤ s'.sup.tasks.length := by
  cases h with
  | turned envelope rest h => exact h.handled.tasks_length_le
  | stopped envelope rest h => exact Nat.le_of_eq (congrArg List.length h.tasks.symm)
  | returned h => exact Nat.le_of_eq (congrArg List.length h.tasks.symm)
  | aside h => exact Nat.le_of_eq h.tasks.symm

/-- One step keeps the relation. -/
theorem tokens_step {s s' : Sys D} (hstep : Stepped s s') (hbound : s.sup.tasks.length < 2 ^ 64)
    (h : TokensKept s) : TokensKept s' := by
  have hle := hstep.tasks_length_le
  cases hstep with
  | turned envelope rest hturn =>
      have hfrom := h.inflight envelope (by rw [hturn.queue]; exact List.mem_cons_self)
      refine ⟨tokens_handled h.tokens hbound hfrom hturn.handled, ?_⟩
      intro other hother
      rw [hturn.queue'] at hother
      refine FromTask.mono (h.inflight other ?_) hle
      rw [hturn.queue]
      exact List.mem_cons_of_mem envelope hother
  | stopped envelope rest hstop =>
      refine ⟨?_, ?_⟩
      · refine h.tokens.of_kept hstop.log ?_ hstop.tasks (by rw [hstop.registry]) ?_
        · intro k x hx
          rw [List.mem_singleton.1 hx]
          rfl
        · intro id r hr
          rw [hstop.registry] at hr
          refine ⟨hr, ?_⟩
          intro x hx
          rw [List.mem_singleton.1 hx]
          change envelope.cmd.plugged ≠ some id
          rw [hstop.cmd]
          nofun
      · intro other hother
        rw [hstop.queue'] at hother
        refine FromTask.mono (h.inflight other ?_) hle
        rw [hstop.queue]
        exact List.mem_cons_of_mem envelope hother
  | returned hreturn =>
      refine ⟨?_, ?_⟩
      · have hlog : s'.sup.log = s.sup.log ++ [] := by rw [hreturn.log, List.append_nil]
        refine h.tokens.of_kept hlog (fun _ _ hx => absurd hx List.not_mem_nil) hreturn.tasks
          (by rw [hreturn.registry]) ?_
        intro id r hr
        rw [hreturn.registry] at hr
        change (∅ : ExtTreeMap String (TaskId × UInt64))[id]? = _ at hr
        rw [ExtTreeMap.getElem?_empty] at hr
        cases hr
      · rw [hreturn.queue']
        exact fun _ hother => absurd hother List.not_mem_nil
  | aside haside =>
      refine ⟨tokens_aside h.tokens haside, ?_⟩
      rw [haside.tasks]
      rcases haside.queue with hqueue | ⟨envelope, hqueue, hsent⟩
      · rw [hqueue]
        exact h.inflight
      · intro other hother
        rw [hqueue] at hother
        rcases List.mem_append.1 hother with hother | hother
        · exact h.inflight other hother
        · rw [List.mem_singleton.1 hother]
          exact fromTask_of_sent h.tokens hsent

section Runs

variable [KeyboardDriver D] [BackgroundTasks D]

theorem tokens_run {table : DriverTable W D} {ls : List (Label W)} {s : Sys D}
    (hrun : run (step table) start ls = some s) (hbound : s.sup.tasks.length < 2 ^ 64) :
    TokensKept s := by
  refine run_preserves (I := fun s => s.sup.tasks.length < 2 ^ 64 → TokensKept s) ?_ ?_ hrun
    hbound
  · intro s l s' h hstep hbound
    have hcases := step_cases hstep
    have hbound' := Nat.lt_of_le_of_lt hcases.tasks_length_le hbound
    exact tokens_step hcases hbound' (h hbound')
  · intro _
    exact ⟨tokens_new, fun _ h => absurd h List.not_mem_nil⟩

/-- Over any run with fewer than `2 ^ 64` reconnect starts and any delay of the
messages in flight: a `DeviceReattached` that is handled changes the registry or
emits an event only if it comes from the task started last for its device and,
since that start, the device was neither plugged, unplugged nor reattached; and
no task is accepted twice. -/
theorem stale_reattach_rejected (table : DriverTable W D) (ls : List (Label W)) (s : Sys D)
    (hrun : run (step table) start ls = some s) (hstarts : s.sup.tasks.length < 2 ^ 64) :
    (∀ (envelope : Envelope) (rest : List Envelope) (id : String) (handle : DeviceHandle)
        (token : UInt64) (order : HashOrder) (world : W) (s' : Sys D),
      s.queue = envelope :: rest → envelope.cmd = .deviceReattached id handle token →
      step table s (.supervise order world) = some s' →
      s'.sup.registry ≠ s.sup.registry ∨
        lifecycleEvents s'.sup.log ≠ lifecycleEvents s.sup.log →
      ∃ k, envelope.origin = .task k ∧ CurrentTask id k s.sup.log ∧
        acceptances k s.sup.log = 0) ∧
      ∀ k, acceptances k s.sup.log ≤ 1 := by
  have hkept := tokens_run hrun hstarts
  refine ⟨?_, hkept.tokens.once⟩
  intro envelope rest id handle token order world s' hqueue hcmd hstep hchanged
  have hturn := supervise_turned hstep hqueue (by rw [hcmd]; nofun)
  obtain ⟨j, horigin, hj, htoken⟩ :=
    hkept.inflight envelope (by rw [hqueue]; exact List.mem_cons_self) id handle token hcmd
  -- Its turn is quiet, or the message is accepted.
  cases hturn.handled with
  | quiet effects hregistry _ hlog hreplies _ _ _ _ =>
      rcases hchanged with hchanged | hchanged
      · exact absurd hregistry hchanged
      · refine absurd ?_ hchanged
        rw [hlog, lifecycleEvents_append, lifecycleEvents_of_replies hreplies, List.append_nil]
        exact (lifecycleEvents_append _ _).trans (List.append_nil _)
  | reattached id' handle' token' k hcmd' hcurrent _ _ _ =>
      rw [hcmd] at hcmd'
      cases hcmd'
      have hentry := hkept.tokens.entry id k token hcurrent
      obtain ⟨t, ht, -⟩ := hentry.task
      have hk : k < s.sup.tasks.length := (List.getElem?_eq_some_iff.1 ht).1
      obtain rfl : j = k := token_injective hstarts hj hk (htoken.symm.trans hentry.token)
      exact ⟨j, horigin, hentry.current, hentry.waiting⟩
  | cancelled id' hcmd' _ _ _ _ => rw [hcmd] at hcmd'; cases hcmd'
  | connected id' vendor_id product_id path handle' hcmd' _ _ _ _ _ =>
      rw [hcmd] at hcmd'; cases hcmd'
  | retried id' vendor_id product_id path t hcmd' _ _ _ _ _ => rw [hcmd] at hcmd'; cases hcmd'
  | disconnected id' handle' hcmd' _ _ _ _ => rw [hcmd] at hcmd'; cases hcmd'
  | lost id' handle' t hcmd' _ _ _ _ _ => rw [hcmd] at hcmd'; cases hcmd'
  | failed id' err handle' hcmd' _ _ _ _ _ => rw [hcmd] at hcmd'; cases hcmd'
  | evicted id' op handle' hcmd' _ _ _ _ _ _ => rw [hcmd] at hcmd'; cases hcmd'

/-- A device that fails to open is left to a task, whose message is queued 100 ms
later. -/
def reattachRun : List (Label (Except DaemonError MockDriver)) :=
  [.enqueue (.deviceConnected "dev1" 0x05AC 0x024F "/dev/hidraw7"),
    .supervise HashOrder.sorted (.error (.driver .disconnected)), .tick 100,
    .task 0 (.attempt HashOrder.sorted (.ok (mockDriver []))), .task 0 .send]

/-- The message of that task. -/
def reattachMessage : Envelope :=
  ⟨.task 0, .deviceReattached "dev1"
    ⟨⟨⟨2, 2⟩, 1⟩, "VIA keyboard", 0, 0x05AC, 0x024F, "/dev/hidraw7"⟩ 0⟩

/-- The message is at the head of the queue, handling it attaches the device, and
it comes from the device's current task. -/
theorem stale_reattach_rejected_current : ∃ s s' : Sys MockDriver,
    run (step mockTable) start reattachRun = some s ∧ s.queue = [reattachMessage] ∧
      step mockTable s (.supervise HashOrder.sorted (.error (.driver .disconnected))) = some s' ∧
      s'.sup.registry ≠ s.sup.registry ∧ CurrentTask "dev1" 0 s.sup.log := by
  have hrun : (run (step mockTable) start reattachRun).map
      (fun s => (s.sup.tasks.length, s.queue, s.sup.registry.devices.contains "dev1",
        (step mockTable s (.supervise HashOrder.sorted (.error (.driver .disconnected)))).map
          fun s' => s'.sup.registry.devices.contains "dev1")) =
      some (1, [reattachMessage], false, some true) := by
    decide +kernel
  obtain ⟨s, hs, heq⟩ := Option.map_eq_some_iff.1 hrun
  obtain ⟨htasks, heq⟩ := Prod.mk.inj heq
  obtain ⟨hqueue, heq⟩ := Prod.mk.inj heq
  obtain ⟨habsent, heq⟩ := Prod.mk.inj heq
  obtain ⟨s', hs', hpresent⟩ := Option.map_eq_some_iff.1 heq
  have hstarts : s.sup.tasks.length < 2 ^ 64 := by
    rw [htasks]
    decide
  have hchanged : s'.sup.registry ≠ s.sup.registry := by
    intro hcon
    rw [hcon, habsent] at hpresent
    cases hpresent
  obtain ⟨k, horigin, hcurrent, -⟩ :=
    (stale_reattach_rejected mockTable reattachRun s hs hstarts).1 reattachMessage [] "dev1" _ 0
      _ _ s' hqueue rfl hs' (.inl hchanged)
  cases horigin
  exact ⟨s, s', hs, hqueue, hs', hchanged, hcurrent⟩

end Runs

end Sys

end Clackd.Engine
