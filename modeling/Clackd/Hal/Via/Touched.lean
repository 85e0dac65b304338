import Clackd.Hal.Via.Driver
import Clackd.Hal.Via.Ledger

/-!
# Lighting that is not saved yet

A lighting value applies to RAM and is touched until its channel is saved.  Both
arms of the driver keep the touched channels in a set; a channel is a debt, put by a
`set_lighting` that succeeds and cleared by a `custom_save` that does.

## Main results

* `save_channels_saved`: a save loop, wherever it stops.
* `commit_kept`: what a commit of either arm has saved, and what it keeps.
* `lighting_bookkeeping`: both arms, at every moment of every run.
-/

namespace Clackd.Hal.Via

open Clackd.Foundation Clackd.Hal

namespace LedgerEntry

/-- Whether an entry is a set of a channel that succeeded. -/
def lights (channel : UInt8) (entry : LedgerEntry) : Option Unit :=
  if entry = .lighting channel true then some () else none

/-- Whether an entry is a save of a channel that succeeded. -/
def saves (channel : UInt8) (entry : LedgerEntry) : Bool := entry == .saved channel true

end LedgerEntry

/-- The set is the channels that are owed a save, and no channel was saved that was
not. -/
structure Touches (record : List LedgerEntry) (touched : ChannelSet) : Prop where
  owes : ∀ channel, channel ∈ touched ↔
    (pending (LedgerEntry.lights channel) (LedgerEntry.saves channel) record).isSome = true
  earned : ∀ channel, Earned (LedgerEntry.lights channel) (LedgerEntry.saves channel) record

/-- An entry that neither sets nor saves. -/
theorem Touches.quiet {record : List LedgerEntry} {touched : ChannelSet}
    (h : Touches record touched) {entry : LedgerEntry}
    (hlights : ∀ channel, entry ≠ .lighting channel true)
    (hsaves : ∀ channel, entry ≠ .saved channel true) : Touches (record ++ [entry]) touched := by
  have hirrelevant : ∀ channel, ∀ e ∈ [entry],
      LedgerEntry.lights channel e = none ∧ LedgerEntry.saves channel e = false := by
    intro channel e he
    rw [List.mem_singleton.1 he]
    exact ⟨if_neg (hlights channel), beq_false_of_ne (hsaves channel)⟩
  constructor
  · intro channel
    rw [h.owes, pending_append_of_irrelevant (hirrelevant channel)]
  · intro channel
    exact earned_append_of_irrelevant (fun e he => (hirrelevant channel e he).2) (h.earned channel)

/-- A set that succeeds. -/
theorem Touches.lit {record : List LedgerEntry} {touched : ChannelSet}
    (h : Touches record touched) (channel : UInt8) :
    Touches (record ++ [.lighting channel true]) (touched.insert channel) := by
  constructor
  · intro other
    rw [mem_insert_iff, pending_snoc, pendingAfter, h.owes]
    by_cases hother : channel = other
    · simp [LedgerEntry.lights, hother]
    · simp [LedgerEntry.lights, LedgerEntry.saves, hother]
  · intro other
    rw [earned_snoc]
    refine ⟨h.earned other, ?_⟩
    intro hcon
    simp [LedgerEntry.saves] at hcon

/-- A save that succeeds. -/
theorem Touches.save {record : List LedgerEntry} {touched : ChannelSet}
    (h : Touches record touched) {channel : UInt8} (hmem : channel ∈ touched) :
    Touches (record ++ [.saved channel true]) (touched.erase channel) := by
  constructor
  · intro other
    rw [mem_erase_iff, pending_snoc, pendingAfter, h.owes]
    by_cases hother : channel = other
    · simp [LedgerEntry.lights, LedgerEntry.saves, hother]
    · simp [LedgerEntry.lights, LedgerEntry.saves, hother]
  · intro other
    rw [earned_snoc]
    refine ⟨h.earned other, ?_⟩
    intro hsaves
    obtain rfl : channel = other := by
      simpa [LedgerEntry.saves] using hsaves
    exact (h.owes channel).1 hmem

/-- Writes of keycodes do not matter. -/
theorem Touches.append_keycodes {record es : List LedgerEntry} {touched : ChannelSet}
    (h : Touches record touched) (hes : ∀ entry ∈ es, entry.isKeycode = true) :
    Touches (record ++ es) touched := by
  induction es using List.reverseRecOn with
  | nil => rwa [List.append_nil]
  | append_singleton es entry ih =>
      have hentry := hes entry (by simp)
      rw [← List.append_assoc]
      apply (ih fun e he => hes e (List.mem_append_left _ he)).quiet
      · rintro channel rfl
        cases hentry
      · rintro channel rfl
        cases hentry

/-! ## The save loop -/

/-- What a save loop over some channels does: each is saved at most once, in the end
all of them if it succeeds, and what is left in the set is what was not saved. -/
structure SaveLoop (channels : List UInt8) (before after : ChannelSet) (es : List LedgerEntry)
    (r : Except DriverError Unit) : Prop where
  touches : ∀ record, Touches record before → Touches (record ++ es) after
  left : ∀ channel, channel ∈ after ↔ channel ∈ before ∧ es.count (.saved channel true) = 0
  once : ∀ channel, es.count (.saved channel true) ≤ 1
  only : ∀ channel, channel ∉ channels → es.count (.saved channel true) = 0
  all : r = .ok () → ∀ channel ∈ channels, es.count (.saved channel true) = 1

variable {T : Type} [CoalescerTransport T]

theorem save_channels_saved (channels : List UInt8) (t : Ledger T) (s : ChannelSet)
    (hnodup : channels.Nodup) (hmem : ∀ channel ∈ channels, channel ∈ s) :
    ∃ es, (exec (save_channels channels) (t, s)).2.1.entries = t.entries ++ es ∧
      SaveLoop channels s (exec (save_channels channels) (t, s)).2.2 es
        (exec (save_channels channels) (t, s)).1 := by
  induction channels, t, s using save_channels_induct with
  | nil t s =>
      refine ⟨[], by simp, ?_⟩
      constructor
      · exact fun record h => by simpa using h
      · simp
      · simp
      · simp
      · simp
  | refused channel channels t s e t' hsave =>
      rw [exec_save_channels_error hsave]
      refine ⟨[.saved channel false], Ledger.entries_of_note hsave, ?_⟩
      constructor
      · exact fun record h => h.quiet (by simp) (by simp)
      · simp
      · simp
      · simp
      · intro hok
        cases hok
  | saved channel channels t s t' hsave ih =>
      obtain ⟨hfresh, hnodup⟩ := List.nodup_cons.1 hnodup
      have herased : ∀ other ∈ channels, other ∈ s.erase channel := by
        intro other hother
        rw [mem_erase_iff]
        exact ⟨fun heq => hfresh (heq ▸ hother), hmem other (List.mem_cons_of_mem _ hother)⟩
      obtain ⟨es, hlog, hloop⟩ := ih hnodup herased
      rw [exec_save_channels_ok hsave]
      -- The first channel is saved here, and not again.
      have hfirst := hloop.only channel hfresh
      have hcount : ∀ other, (LedgerEntry.saved channel true :: es).count (.saved other true) =
          if channel = other then 1 else es.count (.saved other true) := by
        intro other
        rw [List.count_cons]
        by_cases hother : channel = other
        · subst hother
          simp [hfirst]
        · simp [hother]
      refine ⟨.saved channel true :: es, ?_, ?_⟩
      · rw [hlog, Ledger.entries_of_note hsave, List.append_assoc]
        rfl
      · constructor
        · intro record h
          rw [← List.singleton_append, ← List.append_assoc]
          exact hloop.touches _ (h.save (hmem channel List.mem_cons_self))
        · intro other
          rw [hloop.left, hcount, mem_erase_iff]
          by_cases hother : channel = other
          · simp [hother]
          · simp [hother]
        · intro other
          rw [hcount]
          split
          · exact Nat.le_refl 1
          · exact hloop.once other
        · intro other hother
          rw [List.mem_cons, not_or] at hother
          rw [hcount, if_neg (Ne.symm hother.1)]
          exact hloop.only other hother.2
        · intro hok other hother
          rw [hcount]
          by_cases heq : channel = other
          · rw [if_pos heq]
          · rw [if_neg heq]
            exact hloop.all hok other ((List.mem_cons.1 hother).resolve_left (Ne.symm heq))

/-- The order walks every touched channel once. -/
theorem save_touched_channels_saved (order : HashOrder) (t : Ledger T) (s : ChannelSet) :
    ∃ es, (exec (save_touched_channels order) (t, s)).2.1.entries = t.entries ++ es ∧
      SaveLoop s.toList s (exec (save_touched_channels order) (t, s)).2.2 es
        (exec (save_touched_channels order) (t, s)).1 := by
  have hperm := order.channels_perm s.toList
  have hnodup : s.toList.Nodup := by
    refine s.distinct_toList.imp ?_
    intro a b hab heq
    exact hab (Std.compare_eq_iff_eq.2 heq)
  obtain ⟨es, hlog, hloop⟩ := save_channels_saved (order.channels s.toList) t s
    (hperm.nodup_iff.2 hnodup) (fun channel h => by simpa using hperm.mem_iff.1 h)
  refine ⟨es, hlog, hloop.touches, hloop.left, hloop.once, ?_, ?_⟩
  · intro channel h
    exact hloop.only channel fun hcon => h (hperm.mem_iff.1 hcon)
  · intro hok channel h
    exact hloop.all hok channel (hperm.mem_iff.2 h)

/-! ## Commits -/

/-- What a commit does to the touched channels: `Ok` has saved each of them once and
leaves none, an error keeps all it has not saved. -/
structure CommitKept (before after : ChannelSet) (es : List LedgerEntry)
    (r : Except DriverError Unit) : Prop where
  ok : r = .ok () → (∀ channel, es.count (.saved channel true) =
    if channel ∈ before then 1 else 0) ∧ after.isEmpty = true
  error : ∀ e, r = .error e →
    ∀ channel ∈ before, es.count (.saved channel true) = 0 → channel ∈ after

theorem SaveLoop.kept {before after : ChannelSet} {es : List LedgerEntry}
    {r : Except DriverError Unit} (h : SaveLoop before.toList before after es r) :
    CommitKept before after es r := by
  constructor
  · intro hok
    have hcount : ∀ channel, es.count (.saved channel true) = if channel ∈ before then 1 else 0 := by
      intro channel
      by_cases hchannel : channel ∈ before
      · rw [if_pos hchannel]
        exact h.all hok channel (by simpa using hchannel)
      · rw [if_neg hchannel]
        exact h.only channel (by simpa using hchannel)
    refine ⟨hcount, (isEmpty_iff_not_mem after).2 ?_⟩
    intro channel hchannel
    obtain ⟨hbefore, hzero⟩ := (h.left channel).1 hchannel
    rw [hcount, if_pos hbefore] at hzero
    cases hzero
  · intro e _ channel hchannel hzero
    exact (h.left channel).2 ⟨hchannel, hzero⟩

/-- A drain records writes of keycodes only. -/
theorem flush_buffer_keycodes (order : HashOrder) (t : Ledger T) (b : WriteBuffer) :
    ∃ es, (exec (flush_buffer order) (t, b)).2.1.entries = t.entries ++ es ∧
      ∀ entry ∈ es, entry.isKeycode = true := by
  have hentries : ∀ keys (t : Ledger T) (b : WriteBuffer), ∃ es,
      (exec (flush_entries keys) (t, b)).2.1.entries = t.entries ++ es ∧
        ∀ entry ∈ es, entry.isKeycode = true := by
    intro keys t b
    induction keys, t, b using flush_entries_induct with
    | nil t b => exact ⟨[], by simp, nofun⟩
    | skip key keys t b h ih =>
        rw [exec_flush_entries_skip h]
        exact ih
    | written key keys t b kc t' h hset ih =>
        obtain ⟨es, hlog, hes⟩ := ih
        rw [exec_flush_entries_ok h hset]
        refine ⟨.keycode key kc true :: es, ?_, ?_⟩
        · rw [hlog, Ledger.entries_of_note hset, List.append_assoc]
          rfl
        · intro entry hentry
          rcases List.mem_cons.1 hentry with rfl | hentry
          · rfl
          · exact hes entry hentry
    | refused key keys t b kc e t' h hset =>
        rw [exec_flush_entries_error h hset]
        refine ⟨[.keycode key kc false], Ledger.entries_of_note hset, ?_⟩
        intro entry hentry
        rw [List.mem_singleton.1 hentry]
        rfl
  rw [exec_flush_buffer]
  split
  · exact ⟨[], by simp, nofun⟩
  · exact hentries _ t b

theorem count_saved_keycodes {es : List LedgerEntry} (h : ∀ entry ∈ es, entry.isKeycode = true)
    (channel : UInt8) : es.count (.saved channel true) = 0 := by
  apply List.count_eq_zero.2
  intro hcon
  cases h _ hcon

namespace Coalescer

/-- The `Flush` arm: nothing is saved behind a keymap that did not drain. -/
theorem commit_kept (args : CoalescerArgs) (order : HashOrder) (c : Coalescer (Ledger T)) :
    ∃ es, (commit args order c).2.transport.entries = c.transport.entries ++ es ∧
      CommitKept c.touched_channels (commit args order c).2.touched_channels es
        (commit args order c).1 := by
  obtain ⟨es, hlog, hes⟩ := flush_buffer_keycodes order c.transport c.buffer
  rcases hdrain : flush order c with ⟨e | ⟨⟩, m⟩
  · obtain ⟨-, rfl⟩ := Prod.mk.inj hdrain.symm
    rw [commit_of_error hdrain]
    exact ⟨es, hlog, nofun, fun e' _ channel hchannel _ => hchannel⟩
  · obtain ⟨-, rfl⟩ := Prod.mk.inj hdrain.symm
    rw [commit_of_ok hdrain]
    obtain ⟨emitted, hemit⟩ := emit_layout_updated_eq args
      { c with
        transport := (exec (flush_buffer order) (c.transport, c.buffer)).2.1
        buffer := (exec (flush_buffer order) (c.transport, c.buffer)).2.2 }
    rw [hemit]
    obtain ⟨es', hlog', hloop⟩ := save_touched_channels_saved order
      (exec (flush_buffer order) (c.transport, c.buffer)).2.1 c.touched_channels
    have hkept := hloop.kept
    refine ⟨es ++ es', ?_, ?_⟩
    · rw [← List.append_assoc, ← hlog]
      exact hlog'
    · have hcount : ∀ channel, (es ++ es').count (.saved channel true) =
          es'.count (.saved channel true) := by
        intro channel
        rw [List.count_append, count_saved_keycodes hes, Nat.zero_add]
      constructor
      · intro hok
        obtain ⟨hall, hempty⟩ := hkept.ok hok
        exact ⟨fun channel => (hcount channel).trans (hall channel), hempty⟩
      · intro e herror channel hchannel hzero
        exact hkept.error e herror channel hchannel ((hcount channel).symm.trans hzero)

/-- The actor's set is the channels that are owed a save. -/
abbrev LightAccounts : Coalescer (Ledger T) → Coalescer (Ledger T) → Prop :=
  Accounts (fun c => c.transport.entries) fun record c => Touches record c.touched_channels

theorem lightAccounts_parts : Parts (LightAccounts (T := T)) where
  trans := Accounts.trans
  quiet hentries _ htouched := .of_kept hentries fun record h => htouched ▸ h
  flush order c := by
    obtain ⟨es, hlog, hes⟩ := flush_buffer_keycodes order c.transport c.buffer
    exact ⟨es, hlog, fun record h => h.append_keycodes hes⟩
  save order c := by
    obtain ⟨es, hlog, hloop⟩ := save_touched_channels_saved order c.transport c.touched_channels
    exact ⟨es, hlog, hloop.touches⟩
  setLighting channel value_id data c := by
    rcases hset : exec (CoalescerTransport.set_lighting channel value_id data) c.transport
      with ⟨e | ⟨⟩, t'⟩
    · have hcall : onTransport (CoalescerTransport.set_lighting channel value_id data) c =
          (.error e, { c with transport := t' }) := by
        rw [onTransport, hset]
      rw [setLighting_of_error hcall]
      exact ⟨[.lighting channel false], Ledger.entries_of_note hset,
        fun record h => h.quiet (by simp) nofun⟩
    · have hcall : onTransport (CoalescerTransport.set_lighting channel value_id data) c =
          (.ok (), { c with transport := t' }) := by
        rw [onTransport, hset]
      rw [setLighting_of_ok hcall]
      exact ⟨[.lighting channel true], Ledger.entries_of_note hset, fun record h => h.lit channel⟩

end Coalescer

/-! ## The direct arm -/

namespace ViaDirect

/-- The arm's set is the channels that are owed a save. -/
abbrev LightAccounts : ViaDirect (Ledger T) → ViaDirect (Ledger T) → Prop :=
  Accounts (fun d => d.transport.entries) fun record d => Touches record d.touched_channels

theorem commit_kept (order : HashOrder) (d : ViaDirect (Ledger T)) :
    ∃ es, (exec (commit_to_nvram order) d).2.transport.entries = d.transport.entries ++ es ∧
      CommitKept d.touched_channels (exec (commit_to_nvram order) d).2.touched_channels es
        (exec (commit_to_nvram order) d).1 := by
  obtain ⟨es, hlog, hloop⟩ := save_touched_channels_saved order d.transport d.touched_channels
  exact ⟨es, hlog, hloop.kept⟩

theorem serve_accounts (order : HashOrder) (d : ViaDirect (Ledger T)) (op : CoalescerOp) :
    LightAccounts d (d.serve order op).2 := by
  cases op with
  | setKeycode layer row col keycode =>
      exact ⟨[.keycode (layer, row, col) keycode _], rfl, fun record h => h.quiet nofun nofun⟩
  | flush =>
      obtain ⟨es, hlog, hloop⟩ := save_touched_channels_saved order d.transport d.touched_channels
      exact ⟨es, hlog, hloop.touches⟩
  | setLighting channel value_id data =>
      show LightAccounts d (exec (set_lighting channel value_id data) d).2
      rcases hset : exec (CoalescerTransport.set_lighting channel value_id data) d.transport
        with ⟨e | ⟨⟩, t'⟩
      · have hcall : exec (onTransport (CoalescerTransport.set_lighting channel value_id data)) d =
            (.error e, { d with transport := t' }) := by
          rw [onTransport, exec_zoom, hset]
        rw [set_lighting, exec_bind_of_error hcall]
        exact ⟨[.lighting channel false], Ledger.entries_of_note hset,
          fun record h => h.quiet (by simp) nofun⟩
      · have hcall : exec (onTransport (CoalescerTransport.set_lighting channel value_id data)) d =
            (.ok (), { d with transport := t' }) := by
          rw [onTransport, exec_zoom, hset]
        rw [set_lighting, exec_bind_of_ok hcall, exec_modify]
        exact ⟨[.lighting channel true], Ledger.entries_of_note hset, fun record h => h.lit channel⟩
  | getProtocolVersion => exact .of_kept rfl fun _ h => h
  | getKeycode layer row col => exact .of_kept rfl fun _ h => h
  | getLayerCount => exact .of_kept rfl fun _ h => h
  | getMacro offset length => exact .of_kept rfl fun _ h => h
  | setMacro offset data => exact .of_kept rfl fun _ h => h
  | getLighting channel value_id => exact .of_kept rfl fun _ h => h

/-- One operation, as a step. -/
def step (d : ViaDirect (Ledger T)) (request : HashOrder × CoalescerOp) :
    Option (ViaDirect (Ledger T)) :=
  some (d.serve request.1 request.2).2

end ViaDirect

/-! ## Runs -/

/-- The set against the record: the channels with a set that succeeded and no save
that succeeded since, and no channel saved more often than it was set. -/
structure LightingKept (touched : ChannelSet) (entries : List LedgerEntry) : Prop where
  touched : ∀ channel, channel ∈ touched ↔
    Since (· = .lighting channel true) (· = .saved channel true) entries
  wear : ∀ channel, entries.count (.saved channel true) ≤ entries.count (.lighting channel true)

theorem Touches.kept {entries : List LedgerEntry} {touched : ChannelSet}
    (h : Touches entries touched) : LightingKept touched entries := by
  have hlights : ∀ channel, (fun entry => (LedgerEntry.lights channel entry).isSome) =
      (· == .lighting channel true) := by
    intro channel
    funext entry
    unfold LedgerEntry.lights
    by_cases hentry : entry = .lighting channel true
    · simp [hentry]
    · simp [hentry]
  constructor
  · intro channel
    have hdoes : (fun entry => (LedgerEntry.lights channel entry).isSome = true) =
        (· = .lighting channel true) := by
      funext entry
      rw [congrFun (hlights channel) entry, beq_iff_eq]
    have hundoes : (fun entry => LedgerEntry.saves channel entry = true) =
        (· = .saved channel true) := by
      funext entry
      rw [LedgerEntry.saves, beq_iff_eq]
    rw [h.owes, pending_isSome_iff, hdoes, hundoes]
  · intro channel
    have hcount := countP_clears_le (h.earned channel)
    rw [hlights channel] at hcount
    exact Nat.le_trans (Nat.le_add_right _ _) hcount

/-- The law of the coalesced arm: its set, and what the next commit does. -/
def Coalescer.LightingLaw (args : CoalescerArgs) (c : Coalescer (Ledger T)) : Prop :=
  LightingKept c.touched_channels c.transport.entries ∧ ∀ order, ∃ es,
    (commit args order c).2.transport.entries = c.transport.entries ++ es ∧
      CommitKept c.touched_channels (commit args order c).2.touched_channels es
        (commit args order c).1

/-- The law of the direct arm. -/
def ViaDirect.LightingLaw (d : ViaDirect (Ledger T)) : Prop :=
  LightingKept d.touched_channels d.transport.entries ∧ ∀ order, ∃ es,
    (exec (commit_to_nvram order) d).2.transport.entries = d.transport.entries ++ es ∧
      CommitKept d.touched_channels (exec (commit_to_nvram order) d).2.touched_channels es
        (exec (commit_to_nvram order) d).1

theorem touches_nil : Touches [] ∅ where
  owes := by simp
  earned := fun _ => earned_nil

/-- A turn of the actor. -/
theorem touches_step {args : CoalescerArgs} {c c' : Coalescer (Ledger T)} {wakeup : Wakeup}
    (h : Touches c.transport.entries c.touched_channels) (hstep : c.step args wakeup = some c') :
    Touches c'.transport.entries c'.touched_channels := by
  rcases Coalescer.lightAccounts_parts.turn hstep with
    ⟨layer, row, col, keycode, order, start, finish, -, htransport, htouched, -⟩ | ⟨-, hturn⟩
  · rw [htransport, htouched]
    exact h
  · exact hturn.own h

/-- Both arms, from the moment they are made, at every moment of every run and
whatever the transport refuses. -/
theorem lighting_bookkeeping (transport : T) :
    (∀ args now wakeups, Always (Coalescer.step args) (Coalescer.LightingLaw args)
      (Coalescer.spawn ⟨transport, []⟩ now) wakeups) ∧
    ∀ requests, Always ViaDirect.step ViaDirect.LightingLaw
      { transport := ⟨transport, []⟩, touched_channels := ∅ } requests := by
  constructor
  · intro args now wakeups
    exact always_of_preserves
      (I := fun c : Coalescer (Ledger T) => Touches c.transport.entries c.touched_channels)
      (fun c wakeup c' h hstep => touches_step h hstep)
      (fun c h => ⟨h.kept, fun order => Coalescer.commit_kept args order c⟩) touches_nil wakeups
  · intro requests
    have hstep : ∀ (d : ViaDirect (Ledger T)) request d',
        Touches d.transport.entries d.touched_channels → d.step request = some d' →
          Touches d'.transport.entries d'.touched_channels := by
      intro d request d' h hstep
      rw [← Option.some.inj hstep]
      exact (ViaDirect.serve_accounts request.1 d request.2).own h
    exact always_of_preserves
      (I := fun d : ViaDirect (Ledger T) => Touches d.transport.entries d.touched_channels)
      hstep (fun d h => ⟨h.kept, fun order => ViaDirect.commit_kept order d⟩) touches_nil requests

end Clackd.Hal.Via
