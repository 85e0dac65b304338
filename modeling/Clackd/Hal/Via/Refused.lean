import Clackd.Hal.Via.Mock
import Clackd.Hal.Via.Touched

/-!
# One refused entry

A keyboard that refuses one entry for good, a slot it does not have or a lighting
channel, and takes all others.  A drain and a save stop at the first error and keep
the rest, and lighting is saved only behind a keymap that drained; so what an
attempt gets through is what it walks before the refused entry.

## Main results

* `flush_entries_reaches`, `save_channels_reaches`: how far the two loops get.
* `attempt_reaches`: how far a flush attempt gets.
* `through_iff_reached`: over any attempts, an entry is through exactly if one of
  them walked it before the refused one.
* `refused_slot_blocks`: a slot and a channel that no attempt gets to.
-/

namespace Clackd.Hal.Via

open Clackd.Foundation Clackd.Hal

/-! ## What an attempt walks -/

/-- A flush attempt: an explicit commit, or the expiry of the flush deadline. -/
structure Attempt where
  explicit : Bool
  order : HashOrder
  start : Nat
  finish : Nat

/-- The wake-up of an attempt. -/
def Attempt.wakeup (a : Attempt) : Wakeup :=
  if a.explicit then .recv .flush a.order a.start a.finish
  else .autoFlush a.order a.start a.finish

/-- An attempt of the actor. -/
def Coalescer.attempt {T : Type} [CoalescerTransport T] (args : CoalescerArgs) (c : Coalescer T)
    (a : Attempt) : Option (Coalescer T) := c.step args a.wakeup

/-- The slots an attempt walks before a refused one. -/
def Attempt.slots {T : Type} (a : Attempt) (refused : Slot ⊕ UInt8) (c : Coalescer T) :
    List Slot :=
  (a.order.slots c.buffer.keys).takeWhile fun slot => refused ≠ .inl slot

/-- The channels an attempt walks before a refused one: none unless it is a commit
and no refused slot is buffered. -/
def Attempt.channels {T : Type} (a : Attempt) (refused : Slot ⊕ UInt8) (c : Coalescer T) :
    List UInt8 :=
  if a.explicit = true ∧ ∀ slot ∈ c.buffer.keys, refused ≠ .inl slot then
    (a.order.channels c.touched_channels.toList).takeWhile fun channel => refused ≠ .inr channel
  else
    []

/-- A transport that refuses one entry every time and takes all others. -/
structure OneRefused (T : Type) [CoalescerTransport T] (refused : Slot ⊕ UInt8) where
  holds : T → Prop
  set_keycode : ∀ t slot kc, holds t →
    holds (exec (CoalescerTransport.set_keycode slot.1 slot.2.1 slot.2.2 kc) t).2 ∧
      ((exec (CoalescerTransport.set_keycode slot.1 slot.2.1 slot.2.2 kc) t).1.isOk = true ↔
        refused ≠ .inl slot)
  custom_save : ∀ t channel, holds t →
    holds (exec (CoalescerTransport.custom_save channel) t).2 ∧
      ((exec (CoalescerTransport.custom_save channel) t).1.isOk = true ↔ refused ≠ .inr channel)

variable {T : Type} [CoalescerTransport T] {refused : Slot ⊕ UInt8} (R : OneRefused T refused)

/-! ## The two loops -/

/-- How far a drain gets: to the refused slot, if it is among the keys. -/
structure DrainReaches (refused : Slot ⊕ UInt8) (keys : List Slot) (before after : WriteBuffer)
    (es : List LedgerEntry) (r : Except DriverError Unit) : Prop where
  left : ∀ slot, after[slot]? =
    if slot ∈ keys.takeWhile fun slot => refused ≠ .inl slot then none else before[slot]?
  wrote : ∀ slot kc, .keycode slot kc true ∈ es ↔
    slot ∈ (keys.takeWhile fun slot => refused ≠ .inl slot) ∧ before[slot]? = some kc
  keycodes : ∀ entry ∈ es, entry.isKeycode = true
  ok : r.isOk = true ↔ ∀ slot ∈ keys, refused ≠ .inl slot

/-- How far a save gets. -/
structure SaveReaches (refused : Slot ⊕ UInt8) (channels : List UInt8) (before after : ChannelSet)
    (es : List LedgerEntry) : Prop where
  left : ∀ channel, channel ∈ after ↔
    channel ∈ before ∧ channel ∉ channels.takeWhile fun channel => refused ≠ .inr channel
  saved : ∀ channel, .saved channel true ∈ es ↔
    channel ∈ channels.takeWhile fun channel => refused ≠ .inr channel
  saves : ∀ entry ∈ es, entry.isKeycode = false

include R

theorem OneRefused.set_ledger {t t' : Ledger T} {slot : Slot} {kc : UInt16}
    {r : Except DriverError Unit} (ht : R.holds t.transport)
    (hset : exec (CoalescerTransport.set_keycode slot.1 slot.2.1 slot.2.2 kc) t = (r, t')) :
    R.holds t'.transport ∧ (r.isOk = true ↔ refused ≠ .inl slot) := by
  obtain ⟨rfl, rfl⟩ := Prod.mk.inj hset.symm
  exact R.set_keycode t.transport slot kc ht

theorem OneRefused.save_ledger {t t' : Ledger T} {channel : UInt8}
    {r : Except DriverError Unit} (ht : R.holds t.transport)
    (hsave : exec (CoalescerTransport.custom_save channel) t = (r, t')) :
    R.holds t'.transport ∧ (r.isOk = true ↔ refused ≠ .inr channel) := by
  obtain ⟨rfl, rfl⟩ := Prod.mk.inj hsave.symm
  exact R.custom_save t.transport channel ht

theorem flush_entries_reaches (keys : List Slot) (t : Ledger T) (b : WriteBuffer)
    (hnodup : keys.Nodup) (hmem : ∀ slot ∈ keys, b[slot]?.isSome = true)
    (ht : R.holds t.transport) :
    R.holds (exec (flush_entries keys) (t, b)).2.1.transport ∧
      ∃ es, (exec (flush_entries keys) (t, b)).2.1.entries = t.entries ++ es ∧
        DrainReaches refused keys b (exec (flush_entries keys) (t, b)).2.2 es
          (exec (flush_entries keys) (t, b)).1 := by
  induction keys generalizing t b with
  | nil => exact ⟨ht, [], by simp, by simp, by simp, nofun, by simp [Except.isOk, Except.toBool]⟩
  | cons key keys ih =>
      obtain ⟨hfresh, hnodup⟩ := List.nodup_cons.1 hnodup
      obtain ⟨kc, hkey⟩ := Option.isSome_iff_exists.1 (hmem key List.mem_cons_self)
      rcases hset : exec (CoalescerTransport.set_keycode key.1 key.2.1 key.2.2 kc) t
        with ⟨e | ⟨⟩, t'⟩
      · obtain ⟨hholds, hok⟩ := R.set_ledger ht hset
        have hrefused : refused = .inl key := by
          by_contra hcon
          cases hok.2 hcon
        rw [exec_flush_entries_error hkey hset]
        refine ⟨hholds, [.keycode key kc false], Ledger.entries_of_note hset, ?_⟩
        rw [hrefused]
        constructor
        · simp
        · simp
        · intro entry hentry
          rw [List.mem_singleton.1 hentry]
          rfl
        · simp [Except.isOk, Except.toBool]
      · obtain ⟨hholds, hok⟩ := R.set_ledger ht hset
        have htaken : refused ≠ .inl key := hok.1 rfl
        have hrest : ∀ slot ∈ keys, (b.erase key)[slot]?.isSome = true := by
          intro slot hslot
          have hne : key ≠ slot := fun heq => hfresh (heq ▸ hslot)
          rw [lookup_erase_ne _ hne]
          exact hmem slot (List.mem_cons_of_mem _ hslot)
        obtain ⟨hholds', es, hlog, hreaches⟩ := ih t' (b.erase key) hnodup hrest hholds
        rw [exec_flush_entries_ok hkey hset]
        refine ⟨hholds', .keycode key kc true :: es, ?_, ?_⟩
        · rw [hlog, Ledger.entries_of_note hset, List.append_assoc]
          rfl
        · have hwalked : (key :: keys).takeWhile (fun slot => decide (refused ≠ .inl slot)) =
              key :: keys.takeWhile fun slot => decide (refused ≠ .inl slot) := by
            simp [htaken]
          constructor
          · intro slot
            rw [hreaches.left, hwalked, lookup_erase]
            by_cases hslot : slot = key
            · subst hslot
              simp
            · simp [hslot, Ne.symm hslot]
          · intro slot kc'
            rw [hwalked, List.mem_cons, hreaches.wrote, lookup_erase, List.mem_cons]
            by_cases hslot : slot = key
            · subst hslot
              simp [hkey, eq_comm]
            · simp [hslot, Ne.symm hslot]
          · intro entry hentry
            rcases List.mem_cons.1 hentry with rfl | hentry
            · rfl
            · exact hreaches.keycodes entry hentry
          · rw [hreaches.ok]
            simp [htaken]

theorem save_channels_reaches (channels : List UInt8) (t : Ledger T) (s : ChannelSet)
    (ht : R.holds t.transport) :
    R.holds (exec (save_channels channels) (t, s)).2.1.transport ∧
      ∃ es, (exec (save_channels channels) (t, s)).2.1.entries = t.entries ++ es ∧
        SaveReaches refused channels s (exec (save_channels channels) (t, s)).2.2 es := by
  induction channels, t, s using save_channels_induct with
  | nil t s => exact ⟨ht, [], by simp, by simp, by simp, nofun⟩
  | saved channel channels t s t' hsave ih =>
      obtain ⟨hholds, hok⟩ := R.save_ledger ht hsave
      have htaken : refused ≠ .inr channel := hok.1 rfl
      obtain ⟨hholds', es, hlog, hreaches⟩ := ih hholds
      rw [exec_save_channels_ok hsave]
      refine ⟨hholds', .saved channel true :: es, ?_, ?_⟩
      · rw [hlog, Ledger.entries_of_note hsave, List.append_assoc]
        rfl
      · have hwalked : (channel :: channels).takeWhile
            (fun channel => decide (refused ≠ .inr channel)) =
              channel :: channels.takeWhile fun channel => decide (refused ≠ .inr channel) := by
          simp [htaken]
        constructor
        · intro other
          rw [hreaches.left, hwalked, mem_erase_iff, List.mem_cons, not_or]
          tauto
        · intro other
          rw [hwalked, List.mem_cons, hreaches.saved, List.mem_cons]
          simp
        · intro entry hentry
          rcases List.mem_cons.1 hentry with rfl | hentry
          · rfl
          · exact hreaches.saves entry hentry
  | refused channel channels t s e t' hsave =>
      obtain ⟨hholds, hok⟩ := R.save_ledger ht hsave
      have hrefused : refused = .inr channel := by
        by_contra hcon
        cases hok.2 hcon
      rw [exec_save_channels_error hsave]
      refine ⟨hholds, [.saved channel false], Ledger.entries_of_note hsave, ?_⟩
      rw [hrefused]
      constructor
      · simp
      · simp
      · intro entry hentry
        rw [List.mem_singleton.1 hentry]
        rfl

/-! ## One attempt -/

namespace Coalescer

theorem flush_reaches (order : HashOrder) (c : Coalescer (Ledger T))
    (hc : R.holds c.transport.transport) :
    R.holds (flush order c).2.transport.transport ∧
      ∃ es, (flush order c).2.transport.entries = c.transport.entries ++ es ∧
        DrainReaches refused (order.slots c.buffer.keys) c.buffer (flush order c).2.buffer es
          (flush order c).1 := by
  have hperm := order.slots_perm c.buffer.keys
  have hentries := flush_entries_reaches R (order.slots c.buffer.keys) c.transport c.buffer
    (hperm.nodup_iff.2 c.buffer.nodup_keys)
    (fun slot h => Option.isSome_iff_exists.2 ((mem_keys_iff _ slot).1 (hperm.mem_iff.1 h))) hc
  have hflush : exec (flush_buffer order) (c.transport, c.buffer) =
      exec (flush_entries (order.slots c.buffer.keys)) (c.transport, c.buffer) := by
    rw [exec_flush_buffer]
    by_cases hempty : c.buffer.isEmpty = true
    · have hkeys : order.slots c.buffer.keys = [] := by
        have hnone : c.buffer.keys = [] := by
          apply List.eq_nil_iff_forall_not_mem.2
          intro slot hslot
          obtain ⟨kc, hkc⟩ := (mem_keys_iff c.buffer slot).1 hslot
          rw [(isEmpty_iff_lookup c.buffer).1 hempty] at hkc
          cases hkc
        rw [hnone] at hperm ⊢
        exact hperm.eq_nil
      rw [if_pos hempty, hkeys, exec_flush_entries_nil]
    · rw [if_neg hempty]
  rw [flush, hflush]
  exact hentries

/-- An attempt that appends `es` gets through exactly the entries it walks before the
refused one. -/
structure Reaches (a : Attempt) (refused : Slot ⊕ UInt8) (c c' : Coalescer (Ledger T))
    (es : List LedgerEntry) : Prop where
  left : ∀ slot, c'.buffer[slot]? = if slot ∈ a.slots refused c then none else c.buffer[slot]?
  wrote : ∀ slot kc, .keycode slot kc true ∈ es ↔
    slot ∈ a.slots refused c ∧ c.buffer[slot]? = some kc
  touched : ∀ channel, channel ∈ c'.touched_channels ↔
    channel ∈ c.touched_channels ∧ channel ∉ a.channels refused c
  saved : ∀ channel, .saved channel true ∈ es ↔ channel ∈ a.channels refused c

omit R in
/-- What the automatic flush does outside the buffer. -/
theorem autoFlush_kept (args : CoalescerArgs) (order : HashOrder) (finish : Nat)
    (c : Coalescer (Ledger T)) :
    (autoFlush args order finish c).transport = (flush order c).2.transport ∧
      (autoFlush args order finish c).touched_channels = c.touched_channels := by
  rcases h : flush order c with ⟨e | ⟨⟩, m⟩
  · obtain ⟨-, rfl⟩ := Prod.mk.inj h.symm
    rw [autoFlush_of_error h]
    exact ⟨rfl, rfl⟩
  · obtain ⟨emitted, hemit⟩ := emit_layout_updated_eq args m
    obtain ⟨-, rfl⟩ := Prod.mk.inj h.symm
    rw [autoFlush_of_ok h, hemit]
    exact ⟨rfl, rfl⟩

/-- An attempt that saves no channel is a flush. -/
theorem reaches_of_flush {a : Attempt} {c c' : Coalescer (Ledger T)}
    (hc : R.holds c.transport.transport)
    (htransport : c'.transport = (flush a.order c).2.transport)
    (hbuffer : c'.buffer = (flush a.order c).2.buffer)
    (htouched : c'.touched_channels = c.touched_channels) (hchannels : a.channels refused c = []) :
    R.holds c'.transport.transport ∧
      ∃ es, c'.transport.entries = c.transport.entries ++ es ∧ Reaches a refused c c' es := by
  obtain ⟨hholds, es, hlog, hdrain⟩ := flush_reaches R a.order c hc
  rw [htransport]
  refine ⟨hholds, es, hlog, ?_⟩
  constructor
  · rw [hbuffer]
    exact hdrain.left
  · exact hdrain.wrote
  · rw [htouched, hchannels]
    simp
  · rw [hchannels]
    intro channel
    constructor
    · intro hcon
      cases hdrain.keycodes _ hcon
    · intro hcon
      cases hcon

/-- A commit whose flush is not refused goes on to the channels. -/
theorem reaches_of_commit {args : CoalescerArgs} {a : Attempt} {c : Coalescer (Ledger T)}
    (hc : R.holds c.transport.transport) (hok : (flush a.order c).1 = .ok ())
    (hchannels : a.channels refused c = (a.order.channels c.touched_channels.toList).takeWhile
      fun channel => refused ≠ .inr channel) :
    R.holds (commit args a.order c).2.transport.transport ∧
      ∃ es, (commit args a.order c).2.transport.entries = c.transport.entries ++ es ∧
        Reaches a refused c (commit args a.order c).2 es := by
  obtain ⟨hholds, es, hlog, hdrain⟩ := flush_reaches R a.order c hc
  rcases hflush : flush a.order c with ⟨e | ⟨⟩, m⟩
  · rw [hflush] at hok
    cases hok
  obtain ⟨-, rfl⟩ := Prod.mk.inj hflush.symm
  obtain ⟨emitted, hemit⟩ := emit_layout_updated_eq args
    { c with
      transport := (exec (flush_buffer a.order) (c.transport, c.buffer)).2.1
      buffer := (exec (flush_buffer a.order) (c.transport, c.buffer)).2.2 }
  rw [commit_of_ok hflush, hemit]
  rw [hflush] at hholds hlog hdrain
  obtain ⟨hholds', es', hlog', hsave⟩ := save_channels_reaches R
    (a.order.channels c.touched_channels.toList)
    (exec (flush_buffer a.order) (c.transport, c.buffer)).2.1 c.touched_channels hholds
  refine ⟨hholds', es ++ es', ?_, ?_⟩
  · rw [← List.append_assoc, ← hlog]
    exact hlog'
  constructor
  · exact hdrain.left
  · intro slot kc
    rw [List.mem_append, hdrain.wrote]
    constructor
    · rintro (h | hcon)
      · exact h
      · cases hsave.saves _ hcon
    · exact .inl
  · rw [hchannels]
    exact hsave.left
  · intro channel
    have hnosave : .saved channel true ∉ es := by
      intro hcon
      cases hdrain.keycodes _ hcon
    rw [List.mem_append, hsave.saved, hchannels]
    exact ⟨fun h => h.resolve_left hnosave, .inr⟩

/-- How far an attempt gets: exactly the entries it walks before the refused one. -/
theorem attempt_reaches {args : CoalescerArgs} {a : Attempt} {c c' : Coalescer (Ledger T)}
    (hc : R.holds c.transport.transport) (hstep : c.attempt args a = some c') :
    R.holds c'.transport.transport ∧
      ∃ es, c'.transport.entries = c.transport.entries ++ es ∧ Reaches a refused c c' es := by
  rw [attempt, Attempt.wakeup] at hstep
  cases hexplicit : a.explicit with
  | false =>
      have hchannels : a.channels refused c = [] := by
        rw [Attempt.channels, if_neg]
        simp [hexplicit]
      obtain ⟨htransport, htouched⟩ := autoFlush_kept args a.order a.finish c
      rw [hexplicit, if_neg (by simp), step] at hstep
      split at hstep
      · cases hstep
        exact reaches_of_flush R hc htransport (autoFlush_frame args a.order c a.finish).1 htouched
          hchannels
      · cases hstep
  | true =>
      obtain ⟨-, es, -, hdrain⟩ := flush_reaches R a.order c hc
      have hperm := a.order.slots_perm c.buffer.keys
      have hnone : (∀ slot ∈ c.buffer.keys, refused ≠ .inl slot) ↔
          (flush a.order c).1.isOk = true := by
        rw [hdrain.ok]
        exact ⟨fun h slot hslot => h slot (hperm.mem_iff.1 hslot),
          fun h slot hslot => h slot (hperm.mem_iff.2 hslot)⟩
      have hcommit : (a.channels refused c = [] ∧
          (commit args a.order c).2 = { (flush a.order c).2 with deadline := none }) ∨
          ((flush a.order c).1 = .ok () ∧
            a.channels refused c = (a.order.channels c.touched_channels.toList).takeWhile
              fun channel => refused ≠ .inr channel) := by
        rcases hflush : flush a.order c with ⟨e | ⟨⟩, m⟩
        · refine .inl ⟨?_, congrArg Prod.snd (commit_of_error hflush)⟩
          rw [Attempt.channels, if_neg]
          rw [hnone, hflush]
          simp [Except.isOk, Except.toBool]
        · refine .inr ⟨rfl, ?_⟩
          rw [Attempt.channels, if_pos]
          exact ⟨hexplicit, hnone.2 (by rw [hflush]; rfl)⟩
      rw [hexplicit, if_pos rfl, step] at hstep
      split at hstep
      · cases hstep
        rcases hcommit with ⟨hchannels, heq⟩ | ⟨hok, hchannels⟩
        · exact reaches_of_flush R hc (congrArg Coalescer.transport heq :)
            (congrArg Coalescer.buffer heq :) (congrArg Coalescer.touched_channels heq :) hchannels
        · obtain ⟨hholds, es, hlog, hreaches⟩ := reaches_of_commit R hc hok hchannels
          exact ⟨hholds, es, hlog, hreaches.left, hreaches.wrote, hreaches.touched, hreaches.saved⟩
      · cases hstep

end Coalescer

/-! ## Any attempts -/

/-- What a run of attempts gets through, for one buffered slot and one touched
channel: an entry stays exactly if no attempt walked it before the refused one, and
is through otherwise. -/
structure Through (args : CoalescerArgs) (refused : Slot ⊕ UInt8) (attempts : List Attempt)
    (c c' : Coalescer (Ledger T)) (es : List LedgerEntry) : Prop where
  stays : ∀ slot kc, c.buffer[slot]? = some kc → (c'.buffer[slot]? = some kc ↔
    EveryStep (Coalescer.attempt args) (fun c a => slot ∉ a.slots refused c) c attempts)
  written : ∀ slot kc, c.buffer[slot]? = some kc → (.keycode slot kc true ∈ es ↔
    ¬ EveryStep (Coalescer.attempt args) (fun c a => slot ∉ a.slots refused c) c attempts)
  kept : ∀ channel ∈ c.touched_channels, (channel ∈ c'.touched_channels ↔
    EveryStep (Coalescer.attempt args) (fun c a => channel ∉ a.channels refused c) c attempts)
  saved : ∀ channel ∈ c.touched_channels, (.saved channel true ∈ es ↔
    ¬ EveryStep (Coalescer.attempt args) (fun c a => channel ∉ a.channels refused c) c attempts)

/-- What a run of attempts appends, and what that says of an entry that is on one
side of the books or the other. -/
theorem attempts_append {args : CoalescerArgs} {attempts : List Attempt} {c c' : Coalescer (Ledger T)}
    (hc : R.holds c.transport.transport) (hrun : run (Coalescer.attempt args) c attempts = some c') :
    ∃ es, c'.transport.entries = c.transport.entries ++ es ∧
      (∀ slot kc, c.buffer[slot]? = some kc →
        (.keycode slot kc true ∈ es ↔ c'.buffer[slot]? ≠ some kc)) ∧
      ∀ channel ∈ c.touched_channels, (.saved channel true ∈ es ↔ channel ∉ c'.touched_channels) := by
  -- What is still buffered is what was, and all else of it is written.
  have hinv : R.holds c'.transport.transport ∧
      ∃ es, c'.transport.entries = c.transport.entries ++ es ∧
        (∀ slot kc, c.buffer[slot]? = some kc →
          c'.buffer[slot]? = none ∧ .keycode slot kc true ∈ es ∨
            c'.buffer[slot]? = some kc ∧ .keycode slot kc true ∉ es) ∧
        ∀ channel ∈ c.touched_channels, (.saved channel true ∈ es ↔ channel ∉ c'.touched_channels) := by
    refine run_preserves (I := fun m => R.holds m.transport.transport ∧
      ∃ es, m.transport.entries = c.transport.entries ++ es ∧
        (∀ slot kc, c.buffer[slot]? = some kc →
          m.buffer[slot]? = none ∧ .keycode slot kc true ∈ es ∨
            m.buffer[slot]? = some kc ∧ .keycode slot kc true ∉ es) ∧
        ∀ channel ∈ c.touched_channels, (.saved channel true ∈ es ↔ channel ∉ m.touched_channels))
      ?_ ⟨hc, [], by simp, by simp, by simp⟩ hrun
    rintro m a m' ⟨hm, es, hlog, hslots, hchannels⟩ hstep
    obtain ⟨hm', new, hlog', hleft, hwrote, htouched, hsaved⟩ :=
      Coalescer.attempt_reaches R hm hstep
    refine ⟨hm', es ++ new, by rw [hlog', hlog, List.append_assoc], ?_, ?_⟩
    · intro slot kc hslot
      rw [List.mem_append, hleft, hwrote]
      rcases hslots slot kc hslot with ⟨hnone, hin⟩ | ⟨hsome, hout⟩
      · left
        rw [hnone]
        simp [hin]
      · by_cases hwalked : slot ∈ a.slots refused m
        · exact .inl ⟨if_pos hwalked, .inr ⟨hwalked, hsome⟩⟩
        · right
          rw [if_neg hwalked]
          exact ⟨hsome, by simp [hout, hwalked]⟩
    · intro channel hchannel
      rw [List.mem_append, hchannels channel hchannel, hsaved, htouched]
      tauto
  obtain ⟨-, es, hlog, hslots, hchannels⟩ := hinv
  refine ⟨es, hlog, ?_, hchannels⟩
  intro slot kc hslot
  rcases hslots slot kc hslot with ⟨hnone, hin⟩ | ⟨hsome, hout⟩
  · rw [hnone]
    simp [hin]
  · rw [hsome]
    simp [hout]

omit R in
/-- A commit is always possible while the actor is there. -/
theorem commit_attempt (args : CoalescerArgs) {c : Coalescer (Ledger T)} (order : HashOrder)
    (hlive : c.exited = none) (hclock : c.clock = 0) :
    ∃ c', c.attempt args ⟨true, order, 0, 0⟩ = some c' ∧ c'.exited = none ∧ c'.clock = 0 := by
  have hcan : c.exited.isNone ∧ c.clock ≤ 0 ∧ 0 ≤ 0 := by
    rw [hlive, hclock]
    exact ⟨rfl, Nat.le_refl 0, Nat.le_refl 0⟩
  refine ⟨_, if_pos hcan, ?_, rfl⟩
  exact (Coalescer.commit_frame args order c).2.2.trans hlive

/-- Over any attempts on a keyboard that refuses one entry: another entry is through
exactly if an attempt walked it before the refused one. -/
theorem through_iff_reached (args : CoalescerArgs) (attempts : List Attempt)
    {c c' : Coalescer (Ledger T)} (hc : R.holds c.transport.transport)
    (hrun : run (Coalescer.attempt args) c attempts = some c') :
    ∃ es, c'.transport.entries = c.transport.entries ++ es ∧
      Through args refused attempts c c' es := by
  have hholds : ∀ (m : Coalescer (Ledger T)) a m', R.holds m.transport.transport →
      m.attempt args a = some m' → R.holds m'.transport.transport :=
    fun m a m' hm hstep => (Coalescer.attempt_reaches R hm hstep).1
  obtain ⟨es, hlog, hwritten, hsaved⟩ := attempts_append R hc hrun
  have hslots : ∀ slot kc, c.buffer[slot]? = some kc → (c'.buffer[slot]? = some kc ↔
      EveryStep (Coalescer.attempt args) (fun c a => slot ∉ a.slots refused c) c attempts) := by
    intro slot kc hslot
    refine run_iff_everyStep (J := fun m => R.holds m.transport.transport)
      (G := fun m => m.buffer[slot]? = some kc) hholds ?_ hc hslot hrun
    intro m a m' hm hstep
    obtain ⟨-, new, -, hleft, -⟩ := Coalescer.attempt_reaches R hm hstep
    rw [hleft]
    split
    · simp [*]
    · simp [*]
  have hchannels : ∀ channel ∈ c.touched_channels, (channel ∈ c'.touched_channels ↔
      EveryStep (Coalescer.attempt args) (fun c a => channel ∉ a.channels refused c) c
        attempts) := by
    intro channel hchannel
    refine run_iff_everyStep (J := fun m => R.holds m.transport.transport)
      (G := fun m => channel ∈ m.touched_channels) hholds ?_ hc hchannel hrun
    intro m a m' hm hstep
    obtain ⟨-, new, -, -, -, htouched, -⟩ := Coalescer.attempt_reaches R hm hstep
    exact htouched channel
  refine ⟨es, hlog, hslots, ?_, hchannels, ?_⟩
  · intro slot kc hslot
    rw [hwritten slot kc hslot, Ne, hslots slot kc hslot]
  · intro channel hchannel
    rw [hsaved channel hchannel, hchannels channel hchannel]

omit R

/-! ## A slot the board does not have -/

/-- The mock refuses the slot it was given. -/
def MockTransport.oneRefused (slot : Slot) : OneRefused MockTransport (.inl slot) where
  holds m := m.fail_on_set = some slot
  set_keycode := by
    intro m other kc hm
    show ((set_keycode other kc m).2.fail_on_set = _) ∧ ((set_keycode other kc m).1.isOk = true ↔ _)
    unfold set_keycode
    by_cases heq : slot = other
    · subst heq
      rw [if_pos hm]
      exact ⟨hm, by simp [Except.isOk, Except.toBool]⟩
    · rw [if_neg (by rw [hm]; exact fun hcon => heq (Option.some.inj hcon))]
      exact ⟨hm, by simp [Except.isOk, Except.toBool, heq]⟩
  custom_save := fun m channel hm => ⟨hm, by
    show (Except.ok () : Except DriverError Unit).isOk = true ↔ _
    simp [Except.isOk, Except.toBool]⟩

/-- The order that walks the keys backwards. -/
def backwards : HashOrder where
  slots := List.reverse
  slots_perm := List.reverse_perm
  channels := List.reverse
  channels_perm := List.reverse_perm

/-- An actor on a board without its first key, with two keys buffered and one
channel touched. -/
def blocked : Coalescer (Ledger MockTransport) :=
  { Coalescer.spawn ⟨MockTransport.empty (some (0, 0, 0)), []⟩ 0 with
    buffer := ((∅ : WriteBuffer).insert (0, 0, 0) 4).insert (0, 0, 1) 5
    deadline := some 0
    touched_channels := (∅ : ChannelSet).insert 3 }

/-- A commit that walks the refused slot first changes nothing that matters. -/
theorem blocked_attempts (args : CoalescerArgs) (n : Nat) {c : Coalescer (Ledger MockTransport)}
    (hc : c.transport.transport.fail_on_set = some (0, 0, 0)) (hbuffer : c.buffer = blocked.buffer)
    (hchannel : (3 : UInt8) ∈ c.touched_channels) (hlive : c.exited = none) (hclock : c.clock = 0) :
    ∃ c', run (Coalescer.attempt args) c (List.replicate n ⟨true, .sorted, 0, 0⟩) = some c' ∧
      c'.buffer = blocked.buffer ∧ (3 : UInt8) ∈ c'.touched_channels := by
  induction n generalizing c with
  | zero => exact ⟨c, rfl, hbuffer, hchannel⟩
  | succ n ih =>
      obtain ⟨m, hstep, hlive', hclock'⟩ := commit_attempt args HashOrder.sorted hlive hclock
      obtain ⟨hm, new, -, hleft, -, htouched, -⟩ :=
        Coalescer.attempt_reaches (MockTransport.oneRefused (0, 0, 0)) hc hstep
      have hkeys : c.buffer.keys = [(0, 0, 0), (0, 0, 1)] := by
        rw [hbuffer]
        decide +kernel
      have hslots : Attempt.slots ⟨true, .sorted, 0, 0⟩ (.inl (0, 0, 0)) c = [] := by
        rw [Attempt.slots, hkeys]
        decide
      have hchannels : Attempt.channels ⟨true, .sorted, 0, 0⟩ (.inl (0, 0, 0)) c = [] := by
        rw [Attempt.channels, hkeys, if_neg]
        rintro ⟨-, hnone⟩
        exact hnone (0, 0, 0) List.mem_cons_self rfl
      have hsame : m.buffer = blocked.buffer := by
        rw [← hbuffer]
        apply Std.ExtTreeMap.ext_getElem?
        intro slot
        rw [hleft, hslots]
        simp
      have hkept : (3 : UInt8) ∈ m.touched_channels :=
        (htouched 3).2 ⟨hchannel, by rw [hchannels]; exact List.not_mem_nil⟩
      obtain ⟨c', hrun, hrest⟩ := ih hm hsame hkept hlive' hclock'
      exact ⟨c', run_cons_some.2 ⟨m, hstep, hrun⟩, hrest⟩

/-- However many attempts there are, if all walk the table in one order and the
refused slot is first in it, the other slot is not written and no lighting saved. -/
theorem refused_slot_blocks :
    ¬ ∃ n, ∀ attempts c', attempts.length = n → (∀ a ∈ attempts, a.order = .sorted) →
      run (Coalescer.attempt ⟨200, "kbd", false⟩) blocked attempts = some c' →
        .keycode (0, 0, 1) 5 true ∈ c'.transport.entries ∨
          .saved 3 true ∈ c'.transport.entries := by
  rintro ⟨n, h⟩
  obtain ⟨c', hrun, hbuffer, hchannel⟩ := blocked_attempts ⟨200, "kbd", false⟩ n
    (c := blocked) rfl rfl (by decide +kernel) rfl rfl
  obtain ⟨es, hlog, hwritten, hsaved⟩ :=
    attempts_append (MockTransport.oneRefused (0, 0, 0)) (c := blocked) rfl hrun
  have hentries : c'.transport.entries = es := by
    rw [hlog]
    rfl
  have hall := h (List.replicate n ⟨true, .sorted, 0, 0⟩) c' List.length_replicate
    (fun a ha => by rw [List.eq_of_mem_replicate ha]) hrun
  rw [hentries] at hall
  rcases hall with hcon | hcon
  · rw [hwritten (0, 0, 1) 5 (by decide +kernel), hbuffer] at hcon
    exact hcon (by decide +kernel)
  · rw [hsaved 3 (by decide +kernel)] at hcon
    exact hcon hchannel

/-- One commit that walks the same table backwards writes it. -/
theorem through_iff_reached_backwards :
    ∃ c' es, run (Coalescer.attempt ⟨200, "kbd", false⟩) blocked [⟨true, backwards, 0, 0⟩] =
        some c' ∧ c'.transport.entries = blocked.transport.entries ++ es ∧
      .keycode (0, 0, 1) 5 true ∈ es := by
  obtain ⟨c', hstep, -⟩ := commit_attempt ⟨200, "kbd", false⟩ (c := blocked) backwards rfl rfl
  have hrun : run (Coalescer.attempt ⟨200, "kbd", false⟩) blocked [⟨true, backwards, 0, 0⟩] =
      some c' := by
    rw [run_singleton, hstep]
  obtain ⟨es, hlog, hthrough⟩ := through_iff_reached (MockTransport.oneRefused (0, 0, 0))
    ⟨200, "kbd", false⟩ [⟨true, backwards, 0, 0⟩] (c := blocked) rfl hrun
  refine ⟨c', es, hrun, hlog, (hthrough.written (0, 0, 1) 5 (by decide +kernel)).2 ?_⟩
  have hkeys : blocked.buffer.keys = [(0, 0, 0), (0, 0, 1)] := by decide +kernel
  have hslots : (0, 0, 1) ∈ Attempt.slots ⟨true, backwards, 0, 0⟩ (.inl (0, 0, 0)) blocked := by
    rw [Attempt.slots, hkeys]
    decide
  intro hnever
  exact (hnever c' hstep).1 hslots

end Clackd.Hal.Via
