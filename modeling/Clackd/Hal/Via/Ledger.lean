import Clackd.Foundation.Pending
import Clackd.Foundation.Run
import Clackd.Hal.Via.Deadline

/-!
# The books of the coalescer

`Ledger` is a transport with a record of its calls that change the keyboard, each
with its outcome.  `Books` merges that record with the operations the actor receives,
in the order they happen, so that what was written can be compared with what was
asked for.

A slot is a debt: a received `SetKeycode` puts one, a write that succeeds clears it,
and the buffer is what is owed.

## Main results

* `Parts.turn`: a relation that the parts of a turn respect is respected by turns.
* `flush_entries_accounts`: a drain, wherever it stops, pays only what is owed.
* `coalescing_saves_wear`: at every moment of every run the writes to a slot, and
  the one that is owed, are at most the edits received for it.
-/

namespace Clackd.Hal.Via

open Clackd.Foundation Clackd.Hal

/-! ## The record -/

/-- An operation that was received, or a call that changes the keyboard and whether
it succeeded. -/
inductive LedgerEntry where
  | received (op : CoalescerOp)
  | keycode (slot : Slot) (keycode : UInt16) (ok : Bool)
  | lighting (channel : UInt8) (ok : Bool)
  | saved (channel : UInt8) (ok : Bool)
  deriving DecidableEq, Repr

/-- A transport with a record of its calls. -/
structure Ledger (T : Type) where
  transport : T
  entries : List LedgerEntry

namespace Ledger

variable {T α : Type}

/-- A call that is not recorded. -/
def quiet (x : DriverM T α) : DriverM (Ledger T) α :=
  zoom Ledger.transport (fun r t => { r with transport := t }) x

/-- A call that is. -/
def note (entry : Bool → LedgerEntry) (x : DriverM T Unit) : DriverM (Ledger T) Unit :=
  primitive fun r =>
    ((exec x r.transport).1,
      ⟨(exec x r.transport).2, r.entries ++ [entry (exec x r.transport).1.isOk]⟩)

instance [CoalescerTransport T] : CoalescerTransport (Ledger T) where
  get_protocol_version := quiet CoalescerTransport.get_protocol_version
  get_keycode layer row col := quiet (CoalescerTransport.get_keycode layer row col)
  set_keycode layer row col keycode :=
    note (.keycode (layer, row, col) keycode)
      (CoalescerTransport.set_keycode layer row col keycode)
  get_layer_count := quiet CoalescerTransport.get_layer_count
  custom_save channel := note (.saved channel) (CoalescerTransport.custom_save channel)
  get_macro_buffer offset length := quiet (CoalescerTransport.get_macro_buffer offset length)
  set_macro_buffer offset data := quiet (CoalescerTransport.set_macro_buffer offset data)
  get_lighting channel value_id := quiet (CoalescerTransport.get_lighting channel value_id)
  set_lighting channel value_id data :=
    note (.lighting channel) (CoalescerTransport.set_lighting channel value_id data)

/-- A recorded call leaves its entry. -/
theorem entries_of_note {entry : Bool → LedgerEntry} {x : DriverM T Unit} {t t' : Ledger T}
    {r : Except DriverError Unit} (h : exec (note entry x) t = (r, t')) :
    t'.entries = t.entries ++ [entry r.isOk] := by
  obtain ⟨rfl, rfl⟩ := Prod.mk.inj h.symm
  rfl

end Ledger

variable {T : Type} [CoalescerTransport T]

/-! ## Turns and their parts -/

namespace Coalescer

/-- A relation between the actor before and after that every part of a turn but
`SetKeycode` respects. -/
structure Parts (R : Coalescer (Ledger T) → Coalescer (Ledger T) → Prop) : Prop where
  trans : ∀ {c m c'}, R c m → R m c' → R c c'
  quiet : ∀ {c c'}, c'.transport.entries = c.transport.entries → c'.buffer = c.buffer →
    c'.touched_channels = c.touched_channels → R c c'
  flush : ∀ order c, R c (flush order c).2
  save : ∀ order c, R c (save order c).2
  setLighting : ∀ channel value_id data c, R c (setLighting channel value_id data c).2

namespace Parts

variable {R : Coalescer (Ledger T) → Coalescer (Ledger T) → Prop} (h : Parts R)
  {args : CoalescerArgs} {order : HashOrder}

include h

theorem emit (c : Coalescer (Ledger T)) : R c (emit_layout_updated args c) := by
  obtain ⟨emitted, hemit⟩ := emit_layout_updated_eq args c
  rw [hemit]
  exact h.quiet rfl rfl rfl

theorem commit (c : Coalescer (Ledger T)) : R c (commit args order c).2 := by
  have hflush := h.flush order c
  rcases hdrain : Coalescer.flush order c with ⟨_ | _, m⟩
  · rw [hdrain] at hflush
    rw [commit_of_error hdrain]
    exact h.trans hflush (h.quiet rfl rfl rfl)
  · rw [hdrain] at hflush
    rw [commit_of_ok hdrain]
    exact h.trans (h.trans (h.trans hflush (h.emit m)) (h.save order _)) (h.quiet rfl rfl rfl)

theorem autoFlush (finish : Nat) (c : Coalescer (Ledger T)) :
    R c (autoFlush args order finish c) := by
  have hflush := h.flush order c
  rcases hdrain : Coalescer.flush order c with ⟨_ | _, m⟩
  · rw [hdrain] at hflush
    rw [autoFlush_of_error hdrain]
    exact h.trans hflush (h.quiet rfl rfl rfl)
  · rw [hdrain] at hflush
    rw [autoFlush_of_ok hdrain]
    exact h.trans (h.trans hflush (h.emit m)) (h.quiet rfl rfl rfl)

theorem finalFlush (c : Coalescer (Ledger T)) : R c (finalFlush args order c).2 := by
  by_cases hempty : c.buffer.isEmpty = true
  · rw [finalFlush_of_empty hempty]
    exact h.quiet rfl rfl rfl
  · have hflush := h.flush order c
    rcases hdrain : Coalescer.flush order c with ⟨_ | _, m⟩
    · rw [hdrain] at hflush
      rw [finalFlush_of_error hempty hdrain]
      exact hflush
    · rw [hdrain] at hflush
      rw [finalFlush_of_ok hempty hdrain]
      exact h.trans hflush (h.emit m)

theorem finalSave (c : Coalescer (Ledger T)) : R c (finalSave order c).2 := by
  unfold Coalescer.finalSave
  split
  · exact h.quiet rfl rfl rfl
  · exact h.save order c

theorem shutdown (c : Coalescer (Ledger T)) : R c (shutdown args order c) :=
  h.trans (h.trans (h.finalFlush c) (h.finalSave _)) (h.quiet rfl rfl rfl)

/-- Serving any operation but `SetKeycode`. -/
theorem serve (now : Nat) (c : Coalescer (Ledger T)) {op : CoalescerOp}
    (hop : ∀ layer row col keycode, op ≠ .setKeycode layer row col keycode) :
    R c (serve args order now c op).2 := by
  cases op with
  | setKeycode layer row col keycode => exact absurd rfl (hop layer row col keycode)
  | flush => exact h.commit c
  | setLighting channel value_id data => exact h.setLighting channel value_id data c
  | getKeycode layer row col =>
      show R c (getKeycode layer row col c).2
      unfold getKeycode
      split
      · exact h.quiet rfl rfl rfl
      · exact h.quiet rfl rfl rfl
  | getProtocolVersion => exact h.quiet rfl rfl rfl
  | getLayerCount => exact h.quiet rfl rfl rfl
  | getMacro offset length => exact h.quiet rfl rfl rfl
  | setMacro offset data => exact h.quiet rfl rfl rfl
  | getLighting channel value_id => exact h.quiet rfl rfl rfl

/-- A turn receives an edit, or every part of it respects the relation. -/
theorem turn {c c' : Coalescer (Ledger T)} {wakeup : Wakeup} (hstep : c.step args wakeup = some c') :
    (∃ layer row col keycode order start finish,
        wakeup = .recv (.setKeycode layer row col keycode) order start finish ∧
        c'.transport = c.transport ∧ c'.touched_channels = c.touched_channels ∧
        c'.buffer = c.buffer.insert (layer, row, col) keycode) ∨
      ((∀ layer row col keycode order start finish,
        wakeup ≠ .recv (.setKeycode layer row col keycode) order start finish) ∧ R c c') := by
  cases wakeup with
  | recv op order start finish =>
      rw [step] at hstep
      split at hstep
      · rw [← Option.some.inj hstep]
        by_cases hset : ∃ layer row col keycode, op = .setKeycode layer row col keycode
        · obtain ⟨layer, row, col, keycode, rfl⟩ := hset
          exact .inl ⟨layer, row, col, keycode, order, start, finish, rfl, rfl, rfl, rfl⟩
        · have hop : ∀ layer row col keycode, op ≠ .setKeycode layer row col keycode :=
            fun layer row col keycode heq => hset ⟨layer, row, col, keycode, heq⟩
          refine .inr ⟨?_, h.trans (h.serve start c hop) (h.quiet rfl rfl rfl)⟩
          intro layer row col keycode order' start' finish' heq
          injection heq with heq
          exact hop _ _ _ _ heq
      · cases hstep
  | autoFlush order start finish =>
      rw [step] at hstep
      split at hstep
      · rw [← Option.some.inj hstep]
        exact .inr ⟨by simp, h.trans (h.autoFlush finish c) (h.quiet rfl rfl rfl)⟩
      · cases hstep
  | closed order start finish =>
      rw [step] at hstep
      split at hstep
      · rw [← Option.some.inj hstep]
        exact .inr ⟨by simp, h.trans (h.shutdown c) (h.quiet rfl rfl rfl)⟩
      · cases hstep

end Parts

end Coalescer

/-! ## What is owed to a slot -/

namespace LedgerEntry

/-- The keycode an entry asks for at a slot. -/
def asks (slot : Slot) : LedgerEntry → Option UInt16
  | .received (.setKeycode layer row col kc) => if (layer, row, col) = slot then some kc else none
  | _ => none

/-- Whether an entry is a write to a slot that succeeded. -/
def writes (slot : Slot) : LedgerEntry → Bool
  | .keycode written _ ok => written = slot && ok
  | _ => false

/-- Whether an entry is a write. -/
def isKeycode : LedgerEntry → Bool
  | .keycode _ _ _ => true
  | _ => false

end LedgerEntry

/-- The keycode owed to a slot. -/
abbrev owed (slot : Slot) (record : List LedgerEntry) : Option UInt16 :=
  pending (LedgerEntry.asks slot) (LedgerEntry.writes slot) record

/-- Every write of a record, whether it succeeded or not, carries what was owed. -/
def CarriesOwed (record : List LedgerEntry) : Prop :=
  ∀ before slot kc ok after, record = before ++ .keycode slot kc ok :: after →
    owed slot before = some kc

/-- The buffer is what is owed. -/
structure Balances (record : List LedgerEntry) (b : WriteBuffer) : Prop where
  owes : ∀ slot, b[slot]? = owed slot record
  carries : CarriesOwed record

theorem carriesOwed_snoc {record : List LedgerEntry} {entry : LedgerEntry}
    (h : CarriesOwed record)
    (hentry : ∀ slot kc ok, entry = .keycode slot kc ok → owed slot record = some kc) :
    CarriesOwed (record ++ [entry]) := by
  intro before slot kc ok after hsplit
  rcases List.eq_nil_or_concat after with rfl | ⟨after, z, rfl⟩
  · obtain ⟨rfl, hlast⟩ := List.append_inj' hsplit rfl
    exact hentry slot kc ok (List.singleton_inj.1 hlast)
  · rw [List.concat_eq_append, ← List.cons_append, ← List.append_assoc] at hsplit
    exact h before slot kc ok after (List.append_inj' hsplit rfl).1

/-- An entry that is no write and asks for nothing. -/
theorem Balances.quiet {record : List LedgerEntry} {b : WriteBuffer} (h : Balances record b)
    {entry : LedgerEntry} (hasks : ∀ slot, entry.asks slot = none)
    (hkeycode : entry.isKeycode = false) : Balances (record ++ [entry]) b := by
  have hwrites : ∀ slot, entry.writes slot = false := by
    intro slot
    cases entry with
    | keycode written kc ok => cases hkeycode
    | _ => rfl
  constructor
  · intro slot
    rw [h.owes, owed, owed, pending_snoc, pendingAfter, hasks, hwrites]
    rfl
  · apply carriesOwed_snoc h.carries
    rintro slot kc ok rfl
    cases hkeycode

/-- An edit that is received is owed. -/
theorem Balances.insert {record : List LedgerEntry} {b : WriteBuffer} (h : Balances record b)
    (layer row col : UInt8) (keycode : UInt16) :
    Balances (record ++ [.received (.setKeycode layer row col keycode)])
      (b.insert (layer, row, col) keycode) := by
  constructor
  · intro slot
    rw [lookup_insert, owed, pending_snoc, pendingAfter, h.owes]
    by_cases hslot : (layer, row, col) = slot
    · simp [LedgerEntry.asks, hslot]
    · simp [LedgerEntry.asks, LedgerEntry.writes, hslot]
  · exact carriesOwed_snoc h.carries (by simp)

/-- A write of what is owed: if it succeeds the debt is paid. -/
theorem Balances.write {record : List LedgerEntry} {b : WriteBuffer} (h : Balances record b)
    {key : Slot} {kc : UInt16} (hkey : b[key]? = some kc) (ok : Bool) :
    Balances (record ++ [.keycode key kc ok]) (if ok then b.erase key else b) := by
  have hcarries : CarriesOwed (record ++ [.keycode key kc ok]) := by
    apply carriesOwed_snoc h.carries
    intro slot kc' ok' heq
    injection heq with hslot hkc
    rw [← hslot, ← hkc, ← h.owes, hkey]
  constructor
  · intro slot
    rw [owed, pending_snoc, pendingAfter, ← owed, ← h.owes]
    cases ok with
    | false => simp [LedgerEntry.asks, LedgerEntry.writes]
    | true =>
        rw [if_pos rfl, lookup_erase]
        simp [LedgerEntry.asks, LedgerEntry.writes]
  · exact hcarries

/-- The log of a drain, and what agrees with it. -/
abbrev DrainAccounts : Ledger T × WriteBuffer → Ledger T × WriteBuffer → Prop :=
  Accounts (fun s => s.1.entries) fun record s => Balances record s.2

/-- A drain pays only what is owed, wherever it stops. -/
theorem flush_entries_accounts (keys : List Slot) (t : Ledger T) (b : WriteBuffer) :
    DrainAccounts (t, b) (exec (flush_entries keys) (t, b)).2 := by
  induction keys, t, b using flush_entries_induct with
  | nil t b => exact .refl _
  | skip key keys t b h ih =>
      rw [exec_flush_entries_skip h]
      exact ih
  | written key keys t b kc t' h hset ih =>
      have hone : DrainAccounts (t, b) (t', b.erase key) :=
        ⟨[.keycode key kc true], Ledger.entries_of_note hset, fun record hrecord =>
          hrecord.write h true⟩
      rw [exec_flush_entries_ok h hset]
      exact hone.trans ih
  | refused key keys t b kc e t' h hset =>
      rw [exec_flush_entries_error h hset]
      exact ⟨[.keycode key kc false], Ledger.entries_of_note hset, fun record hrecord =>
        hrecord.write h false⟩

theorem flush_buffer_accounts (order : HashOrder) (t : Ledger T) (b : WriteBuffer) :
    DrainAccounts (t, b) (exec (flush_buffer order) (t, b)).2 := by
  rw [exec_flush_buffer]
  split
  · exact .refl _
  · exact flush_entries_accounts _ t b

/-- Saves are no writes of keycodes. -/
theorem save_channels_balances (pending : List UInt8) (t : Ledger T) (s : ChannelSet) :
    ∃ es, (exec (save_channels pending) (t, s)).2.1.entries = t.entries ++ es ∧
      ∀ record b, Balances record b → Balances (record ++ es) b := by
  induction pending, t, s using save_channels_induct with
  | nil t s => exact ⟨[], by simp, fun record b h => by simpa using h⟩
  | saved channel pending t s t' hsave ih =>
      have hentries := Ledger.entries_of_note hsave
      obtain ⟨es, hlog, hes⟩ := ih
      refine ⟨[.saved channel true] ++ es, ?_, ?_⟩
      · rw [exec_save_channels_ok hsave, hlog, hentries, List.append_assoc]
        rfl
      · intro record b h
        rw [← List.append_assoc]
        exact hes _ b (h.quiet (fun _ => rfl) rfl)
  | refused channel pending t s e t' hsave =>
      rw [exec_save_channels_error hsave]
      exact ⟨[.saved channel false], Ledger.entries_of_note hsave,
        fun record b h => h.quiet (fun _ => rfl) rfl⟩

namespace Coalescer

/-- The actor's buffer is what is owed. -/
abbrev KeyAccounts : Coalescer (Ledger T) → Coalescer (Ledger T) → Prop :=
  Accounts (fun c => c.transport.entries) fun record c => Balances record c.buffer

theorem keyAccounts_parts : Parts (KeyAccounts (T := T)) where
  trans := Accounts.trans
  quiet hentries hbuffer _ := .of_kept hentries fun record h => hbuffer ▸ h
  flush order c := flush_buffer_accounts order c.transport c.buffer
  save order c := by
    obtain ⟨es, hlog, hes⟩ :=
      save_channels_balances (order.channels c.touched_channels.toList) c.transport
        c.touched_channels
    exact ⟨es, hlog, fun record h => hes record c.buffer h⟩
  setLighting channel value_id data c := by
    rcases hset : onTransport (CoalescerTransport.set_lighting channel value_id data) c
      with ⟨e | ⟨⟩, c'⟩
    · rw [setLighting_of_error hset]
      obtain ⟨-, rfl⟩ := Prod.mk.inj hset.symm
      exact ⟨[_], rfl, fun record h => h.quiet (fun _ => rfl) rfl⟩
    · rw [setLighting_of_ok hset]
      obtain ⟨-, rfl⟩ := Prod.mk.inj hset.symm
      exact ⟨[_], rfl, fun record h => h.quiet (fun _ => rfl) rfl⟩

end Coalescer

/-! ## Runs -/

/-- The actor, and the record of what it received and did. -/
structure Books (T : Type) where
  actor : Coalescer (Ledger T)
  record : List LedgerEntry

namespace Books

/-- An actor as it is spawned. -/
def spawn (transport : T) (now : Nat) : Books T where
  actor := Coalescer.spawn ⟨transport, []⟩ now
  record := []

/-- What a turn receives. -/
def received : Wakeup → List LedgerEntry
  | .recv op _ _ _ => [.received op]
  | _ => []

/-- One turn: what it receives, and then what it does. -/
def step (args : CoalescerArgs) (w : Books T) (wakeup : Wakeup) : Option (Books T) :=
  (w.actor.step args wakeup).map fun actor =>
    { actor := actor
      record := w.record ++ received wakeup ++
        actor.transport.entries.drop w.actor.transport.entries.length }

/-- The law: writes that succeeded, and one if the slot is buffered, are at most
the edits received; and each of them carries the last edit received for the slot,
which was not written before. -/
structure SavesWear (w : Books T) : Prop where
  count : ∀ slot, w.record.countP (LedgerEntry.writes slot) +
      (if w.actor.buffer[slot]?.isSome then 1 else 0) ≤
    w.record.countP fun entry => (entry.asks slot).isSome
  latest : ∀ before slot kc after, w.record = before ++ .keycode slot kc true :: after →
    ∃ earlier edit between, before = earlier ++ edit :: between ∧ edit.asks slot = some kc ∧
      ∀ entry ∈ between, entry.asks slot = none ∧ entry.writes slot = false

theorem balances_step {args : CoalescerArgs} (w : Books T) (wakeup : Wakeup) (w' : Books T)
    (h : Balances w.record w.actor.buffer) (hstep : w.step args wakeup = some w') :
    Balances w'.record w'.actor.buffer := by
  obtain ⟨actor, hactor, rfl⟩ := Option.map_eq_some_iff.1 hstep
  rcases Coalescer.keyAccounts_parts.turn hactor with
    ⟨layer, row, col, keycode, order, start, finish, rfl, htransport, -, hbuffer⟩ | ⟨hother, hturn⟩
  · dsimp only
    rw [htransport, List.drop_length, List.append_nil, hbuffer]
    exact h.insert layer row col keycode
  · obtain ⟨es, hlog, hes⟩ := hturn
    dsimp only at hlog hes ⊢
    rw [hlog, List.drop_left]
    apply hes
    cases wakeup with
    | recv op order start finish =>
        refine h.quiet (fun slot => ?_) rfl
        cases op with
        | setKeycode layer row col keycode => exact absurd rfl (hother _ _ _ _ _ _ _)
        | _ => rfl
    | autoFlush order start finish => simpa [received] using h
    | closed order start finish => simpa [received] using h

omit [CoalescerTransport T] in
theorem savesWear_of_balances {w : Books T} (h : Balances w.record w.actor.buffer) :
    w.SavesWear := by
  constructor
  · intro slot
    rw [h.owes]
    apply countP_clears_le
    intro before entry after hsplit hwrites
    cases entry with
    | keycode written kc ok =>
        obtain ⟨hslot, rfl⟩ : written = slot ∧ ok = true := by
          simpa [LedgerEntry.writes] using hwrites
        subst hslot
        exact Option.isSome_iff_exists.2 ⟨kc, h.carries before written kc true after hsplit⟩
    | _ => cases hwrites
  · intro before slot kc after hsplit
    exact (pending_eq_some_iff before kc).1 (h.carries before slot kc true after hsplit)

/-- At every moment of every run, whatever the transport refuses and in whatever
order the buffer is walked, coalescing has not cost a write. -/
theorem coalescing_saves_wear (args : CoalescerArgs) (transport : T) (now : Nat)
    (wakeups : List Wakeup) :
    Always (step args) SavesWear (spawn transport now) wakeups := by
  have hspawn : Balances (spawn transport now).record (spawn transport now).actor.buffer :=
    ⟨fun slot => by simp [spawn, Coalescer.spawn], fun before slot kc ok after h => by
      cases before <;> cases h⟩
  exact always_of_preserves (I := fun w => Balances w.record w.actor.buffer)
    (fun w wakeup w' h hstep => balances_step w wakeup w' h hstep)
    (fun w h => savesWear_of_balances h) hspawn wakeups

end Books

end Clackd.Hal.Via
