import Clackd.Foundation.Trace
import Clackd.Hal.Via.Facade
import Clackd.Hal.Via.Deadline

/-!
# The EEPROM writes of the coalescer

`Metered` is a transport with the record of the calls that wear the EEPROM: a
`set_keycode` and an `id_custom_save`, issued whether they succeed or not.  A
drain issues the former and a save the latter, and each issues at least one if
there is anything to drain or save.

## Main results

* `serve_writes`: the only operation that writes is `Flush`.
* `commit_writes`: it writes if anything is buffered or touched, and only then.
* `autoFlush_writes`, `shutdown_writes`: what the other two wake-ups write.
-/

namespace Clackd.Hal.Via

open Clackd.Foundation Clackd.Hal

/-- A call that ends in an EEPROM write. -/
inductive Write where
  | keycode (slot : Slot) (keycode : UInt16)
  | save (channel : UInt8)
  deriving DecidableEq, Repr

/-- Whether the call is a `set_keycode`. -/
def Write.isKeycode : Write → Bool
  | .keycode _ _ => true
  | .save _ => false

/-- A transport with the writes it was asked for. -/
structure Metered (T : Type) where
  transport : T
  writes : List Write

namespace Metered

variable {T α : Type}

/-- A call that writes nothing to the EEPROM. -/
def quiet (x : DriverM T α) : DriverM (Metered T) α :=
  zoom Metered.transport (fun r t => { r with transport := t }) x

/-- A call that does. -/
def issue (write : Write) (x : DriverM T α) : DriverM (Metered T) α :=
  primitive fun r =>
    ((exec x r.transport).1, ⟨(exec x r.transport).2, r.writes ++ [write]⟩)

instance [CoalescerTransport T] : CoalescerTransport (Metered T) where
  get_protocol_version := quiet CoalescerTransport.get_protocol_version
  get_keycode layer row col := quiet (CoalescerTransport.get_keycode layer row col)
  set_keycode layer row col keycode :=
    issue (.keycode (layer, row, col) keycode)
      (CoalescerTransport.set_keycode layer row col keycode)
  get_layer_count := quiet CoalescerTransport.get_layer_count
  custom_save channel := issue (.save channel) (CoalescerTransport.custom_save channel)
  get_macro_buffer offset length := quiet (CoalescerTransport.get_macro_buffer offset length)
  set_macro_buffer offset data := quiet (CoalescerTransport.set_macro_buffer offset data)
  get_lighting channel value_id := quiet (CoalescerTransport.get_lighting channel value_id)
  set_lighting channel value_id data :=
    quiet (CoalescerTransport.set_lighting channel value_id data)

theorem issue_appends (write : Write) (x : DriverM T α) :
    Appends Metered.writes (issue write x) (fun _ ws => ws = [write]) :=
  fun _ => ⟨[write], rfl, rfl⟩

end Metered

variable {T : Type} [CoalescerTransport T]

/-! ## A drain -/

theorem flush_entries_writes (keys : List Slot) (t : Metered T) (b : WriteBuffer) :
    ∃ ws, (exec (flush_entries keys) (t, b)).2.1.writes = t.writes ++ ws ∧
      ∀ write ∈ ws, write.isKeycode = true := by
  induction keys, t, b using flush_entries_induct with
  | nil t b => exact ⟨[], by simp, by simp⟩
  | skip key keys t b h ih =>
      rw [exec_flush_entries_skip h]
      exact ih
  | written key keys t b kc t' h hset ih =>
      obtain ⟨ws, hlog, hkeycodes⟩ := ih
      have hfirst : t'.writes = t.writes ++ [.keycode key kc] := by
        rw [← congrArg (fun r => r.2.writes) hset]
        rfl
      refine ⟨.keycode key kc :: ws, ?_, ?_⟩
      · rw [exec_flush_entries_ok h hset, hlog, hfirst, List.append_assoc]
        rfl
      · simpa [Write.isKeycode] using hkeycodes
  | refused key keys t b kc e t' h hset =>
      have hfirst : t'.writes = t.writes ++ [.keycode key kc] := by
        rw [← congrArg (fun r => r.2.writes) hset]
        rfl
      refine ⟨[.keycode key kc], ?_, by simp [Write.isKeycode]⟩
      rw [exec_flush_entries_error h hset, hfirst]

/-- A drain of keys the first of which is buffered writes. -/
theorem flush_entries_wrote {key : Slot} {keys : List Slot} {t : Metered T} {b : WriteBuffer}
    {kc : UInt16} (h : b[key]? = some kc) :
    (exec (flush_entries (key :: keys)) (t, b)).2.1.writes ≠ t.writes := by
  have hlonger : ∀ {t' : Metered T} {r : Except DriverError Unit} ws,
      exec (CoalescerTransport.set_keycode key.1 key.2.1 key.2.2 kc) t = (r, t') →
        t'.writes ++ ws ≠ t.writes := by
    intro t' r ws hset
    rw [← congrArg (fun r => r.2.writes) hset]
    show (t.writes ++ [_]) ++ ws ≠ t.writes
    simp
  rcases hset : exec (CoalescerTransport.set_keycode key.1 key.2.1 key.2.2 kc) t
    with ⟨_ | _, t'⟩
  · rw [exec_flush_entries_error h hset]
    simpa using hlonger [] hset
  · obtain ⟨ws, hlog, -⟩ := flush_entries_writes keys t' (b.erase key)
    rw [exec_flush_entries_ok h hset, hlog]
    exact hlonger ws hset

/-- A drain writes keycodes, and none exactly if nothing is buffered, whether
the transport accepts them or not. -/
theorem flush_buffer_writes (order : HashOrder) (t : Metered T) (b : WriteBuffer) :
    ∃ ws, (exec (flush_buffer order) (t, b)).2.1.writes = t.writes ++ ws ∧
      (∀ write ∈ ws, write.isKeycode = true) ∧ (ws = [] ↔ b.isEmpty = true) := by
  rw [exec_flush_buffer]
  by_cases hempty : b.isEmpty = true
  · rw [if_pos hempty]
    exact ⟨[], by simp, by simp, by simp [hempty]⟩
  · rw [if_neg hempty]
    obtain ⟨ws, hlog, hkeycodes⟩ := flush_entries_writes (order.slots b.keys) t b
    refine ⟨ws, hlog, hkeycodes, ?_, fun h => absurd h hempty⟩
    rintro rfl
    cases hkeys : order.slots b.keys with
    | nil =>
        have hnone : b.keys = [] := (hkeys ▸ order.slots_perm b.keys).nil_eq.symm
        apply (isEmpty_iff_lookup b).2
        intro k
        by_contra hcon
        obtain ⟨kc, hkc⟩ := Option.ne_none_iff_exists'.1 hcon
        have hmem := (mem_keys_iff b k).2 ⟨kc, hkc⟩
        simp [hnone] at hmem
    | cons key keys =>
        have hmem : key ∈ b.keys := (order.slots_perm b.keys).mem_iff.1 (by simp [hkeys])
        obtain ⟨kc, hkc⟩ := (mem_keys_iff b key).1 hmem
        rw [hkeys, List.append_nil] at hlog
        exact absurd hlog (flush_entries_wrote hkc)

/-! ## A save -/

theorem save_channels_appends (pending : List UInt8) :
    Appends (fun s : Metered T × ChannelSet => s.1.writes) (save_channels pending)
      (fun _ ws => (∀ write ∈ ws, write.isKeycode = false) ∧ (ws = [] ↔ pending = [])) := by
  induction pending with
  | nil =>
      refine (Appends.pure _ ()).weaken ?_
      rintro _ _ ⟨-, rfl⟩
      simp
  | cons channel pending ih =>
      have hsave : Appends (fun s : Metered T × ChannelSet => s.1.writes)
          (zoom Prod.fst (fun s t => (t, s.2)) (CoalescerTransport.custom_save channel))
          (fun _ ws => ws = [.save channel]) :=
        Appends.zoom (fun _ _ => rfl) (Metered.issue_appends _ _)
      have hrest : Appends (fun s : Metered T × ChannelSet => s.1.writes)
          (do modify fun s => (s.1, s.2.erase channel); save_channels pending)
          (fun _ ws => ∀ write ∈ ws, write.isKeycode = false) := by
        intro s
        obtain ⟨ws, hlog, hP⟩ := ih (s.1, s.2.erase channel)
        refine ⟨ws, ?_, hP.1⟩
        rw [exec_bind_of_ok (exec_modify _ s)]
        exact hlog
      refine (Appends.bind hsave fun _ => hrest).weaken ?_
      rintro r ws (⟨e, -, rfl⟩ | ⟨_, ws₁, ws₂, rfl, rfl, hsaves⟩)
      · simp [Write.isKeycode]
      · simpa [Write.isKeycode] using hsaves

/-- A save writes one `id_custom_save` per touched channel until one fails. -/
theorem save_touched_channels_writes (order : HashOrder) (t : Metered T)
    (channels : ChannelSet) :
    ∃ ws, (exec (save_touched_channels order) (t, channels)).2.1.writes = t.writes ++ ws ∧
      (∀ write ∈ ws, write.isKeycode = false) ∧ (ws = [] ↔ channels.isEmpty = true) := by
  obtain ⟨ws, hlog, hsaves, hnil⟩ :=
    save_channels_appends (order.channels channels.toList) (t, channels)
  have hexec : exec (save_touched_channels order) (t, channels) =
      exec (save_channels (order.channels channels.toList)) (t, channels) := by
    rw [save_touched_channels, exec_bind_of_ok (exec_get (t, channels))]
  have hpending : order.channels channels.toList = [] ↔ channels.isEmpty = true := by
    rw [← List.length_eq_zero_iff, (order.channels_perm channels.toList).length_eq,
      List.length_eq_zero_iff, isEmpty_iff_not_mem, List.eq_nil_iff_forall_not_mem]
    simp
  rw [hexec]
  exact ⟨ws, hlog, hsaves, hnil.trans hpending⟩

/-! ## The arms of the actor -/

namespace Coalescer

variable {args : CoalescerArgs} {order : HashOrder}

/-- The writes the actor has asked for. -/
def writes (c : Coalescer (Metered T)) : List Write := c.transport.writes

omit [CoalescerTransport T] in
@[simp] theorem emit_layout_updated_writes (args : CoalescerArgs) (c : Coalescer (Metered T)) :
    (emit_layout_updated args c).writes = c.writes := by
  unfold emit_layout_updated
  split <;> rfl

omit [CoalescerTransport T] in
@[simp] theorem emit_layout_updated_touched (args : CoalescerArgs)
    (c : Coalescer (Metered T)) :
    (emit_layout_updated args c).touched_channels = c.touched_channels := by
  unfold emit_layout_updated
  split <;> rfl

/-- A flush of the actor. -/
theorem flush_writes (order : HashOrder) (c : Coalescer (Metered T)) :
    ∃ ws, (flush order c).2.writes = c.writes ++ ws ∧
      (∀ write ∈ ws, write.isKeycode = true) ∧ (ws = [] ↔ c.buffer.isEmpty = true) :=
  flush_buffer_writes order c.transport c.buffer

/-- A save of the actor. -/
theorem save_writes (order : HashOrder) (c : Coalescer (Metered T)) :
    ∃ ws, (save order c).2.writes = c.writes ++ ws ∧
      (∀ write ∈ ws, write.isKeycode = false) ∧
      (ws = [] ↔ c.touched_channels.isEmpty = true) :=
  save_touched_channels_writes order c.transport c.touched_channels

/-- With nothing buffered a flush does nothing. -/
theorem flush_of_empty {c : Coalescer T} (h : c.buffer.isEmpty = true) :
    flush order c = (.ok (), c) := by
  rw [flush, exec_flush_buffer, if_pos h]

/-- A commit only appends to what was written, and appends something exactly if
a keycode is buffered or a lighting channel is touched. -/
theorem commit_writes (args : CoalescerArgs) (order : HashOrder) (c : Coalescer (Metered T)) :
    ∃ ws, (commit args order c).2.writes = c.writes ++ ws ∧
      (ws = [] ↔ c.buffer.isEmpty = true ∧ c.touched_channels.isEmpty = true) := by
  obtain ⟨drained, hdrained, -, hbuffer⟩ := flush_writes order c
  rcases h : flush order c with ⟨_ | _, m⟩
  · have hpending : c.buffer.isEmpty ≠ true := by
      intro hempty
      rw [flush_of_empty hempty] at h
      cases h
    rw [commit_of_error h]
    rw [h] at hdrained
    refine ⟨drained, hdrained, ?_⟩
    simp [hbuffer, hpending]
  · obtain ⟨saved, hsaved, -, hchannels⟩ := save_writes order (emit_layout_updated args m)
    have htouched : m.touched_channels = c.touched_channels := by
      rw [← congrArg (fun r => r.2.touched_channels) h]
      rfl
    rw [commit_of_ok h]
    rw [h] at hdrained
    rw [emit_layout_updated_writes, hdrained] at hsaved
    rw [emit_layout_updated_touched, htouched] at hchannels
    refine ⟨drained ++ saved, ?_, ?_⟩
    · rw [← List.append_assoc]
      exact hsaved
    · rw [List.append_eq_nil_iff, hbuffer, hchannels]

/-- No other operation than `Flush` writes. -/
theorem serve_writes (args : CoalescerArgs) (order : HashOrder) (now : Nat)
    (c : Coalescer (Metered T)) {op : CoalescerOp} (hop : op ≠ .flush) :
    (serve args order now c op).2.writes = c.writes := by
  cases op with
  | flush => exact absurd rfl hop
  | getKeycode layer row col =>
      show (getKeycode layer row col c).2.writes = c.writes
      unfold getKeycode
      split <;> rfl
  | setLighting channel value_id data =>
      show (setLighting channel value_id data c).2.writes = c.writes
      rcases h : onTransport (CoalescerTransport.set_lighting channel value_id data) c
        with ⟨_ | _, m⟩
      · rw [setLighting_of_error h]
        exact congrArg (fun r => r.2.writes) h.symm
      · rw [setLighting_of_ok h]
        exact congrArg (fun r => r.2.writes) h.symm
  | getProtocolVersion => rfl
  | setKeycode layer row col keycode => rfl
  | getLayerCount => rfl
  | getMacro offset length => rfl
  | setMacro offset data => rfl
  | getLighting channel value_id => rfl

/-- An automatic flush writes keycodes only. -/
theorem autoFlush_writes (args : CoalescerArgs) (order : HashOrder) (finish : Nat)
    (c : Coalescer (Metered T)) :
    ∃ ws, (autoFlush args order finish c).writes = c.writes ++ ws ∧
      ∀ write ∈ ws, write.isKeycode = true := by
  obtain ⟨ws, hlog, hkeycodes, -⟩ := flush_writes order c
  refine ⟨ws, ?_, hkeycodes⟩
  rcases h : flush order c with ⟨_ | _, m⟩
  · rw [autoFlush_of_error h, ← hlog, h]
    rfl
  · rw [autoFlush_of_ok h, ← hlog, h]
    exact emit_layout_updated_writes args m

/-- What is written at the end stays written. -/
theorem shutdown_writes (args : CoalescerArgs) (order : HashOrder)
    (c : Coalescer (Metered T)) :
    ∃ ws, (shutdown args order c).writes = c.writes ++ ws := by
  have hflush : ∃ ws, (finalFlush args order c).2.writes = c.writes ++ ws := by
    obtain ⟨ws, hlog, -⟩ := flush_writes order c
    by_cases hempty : c.buffer.isEmpty = true
    · rw [finalFlush_of_empty hempty]
      exact ⟨[], by simp⟩
    · refine ⟨ws, ?_⟩
      rcases h : flush order c with ⟨_ | _, m⟩
      · rw [finalFlush_of_error hempty h, ← hlog, h]
      · rw [finalFlush_of_ok hempty h, ← hlog, h]
        exact emit_layout_updated_writes args m
  have hsave : ∀ m : Coalescer (Metered T), ∃ ws, (finalSave order m).2.writes = m.writes ++ ws := by
    intro m
    obtain ⟨ws, hlog, -⟩ := save_writes order m
    unfold finalSave
    split
    · exact ⟨[], by simp⟩
    · exact ⟨ws, hlog⟩
  obtain ⟨drained, hdrained⟩ := hflush
  obtain ⟨saved, hsaved⟩ := hsave (finalFlush args order c).2
  refine ⟨drained ++ saved, ?_⟩
  rw [← List.append_assoc, ← hdrained]
  exact hsaved

/-- An answer is no exit. -/
theorem answer_exited (args : CoalescerArgs) (turn : Turn) (op : CoalescerOp) (c : Coalescer T) :
    (c.answer args turn op).2.exited = c.exited := by
  cases op with
  | setKeycode layer row col keycode => rfl
  | flush => exact (commit_frame args turn.order c).2.2
  | _ => exact (serve_frame args turn.order c turn.now _ (by simp) (by simp)).2.2

/-- Nor is an automatic flush. -/
theorem autoFlush_exited (args : CoalescerArgs) (order : HashOrder) (finish : Nat)
    (c : Coalescer T) : (autoFlush args order finish c).exited = c.exited := by
  rcases h : flush order c with ⟨_ | _, m⟩
  · rw [autoFlush_of_error h]
    exact congrArg (fun r => r.2.exited) h.symm
  · rw [autoFlush_of_ok h]
    exact (emit_frame args m).2.2.trans (congrArg (fun r => r.2.exited) h.symm)

end Coalescer

/-! ## The driver -/

namespace ViaDriver

/-- The writes a coalescing driver has asked for. -/
def writes (d : ViaDriver (Metered T)) : List Write :=
  match d.inner with
  | .direct inner => inner.transport.writes
  | .coalesced _ actor => actor.writes

omit [CoalescerTransport T] in
theorem writes_coalesced {d : ViaDriver (Metered T)} {args : CoalescerArgs}
    {actor : Coalescer (Metered T)} (h : d.inner = .coalesced args actor) :
    d.writes = actor.writes := by
  rw [writes, h]

/-- What a request does to a driver whose actor is there: one operation. -/
theorem exec_ask {α : Type} (read : CoalescerReply → Except DriverError α) (turn : Turn)
    (op : CoalescerOp) {d : ViaDriver T} {args : CoalescerArgs} {actor : Coalescer T}
    (h : d.inner = .coalesced args actor) (hlive : actor.exited = none) :
    exec (ask read turn op) d =
      (read (actor.answer args turn op).1,
        { d with inner := .coalesced args (actor.answer args turn op).2 }) := by
  simp only [ask, exec_primitive, h, hlive]
  rfl

/-- A task of a coalescing driver wakes up for its deadline, or for its closed
channel. -/
theorem wake_cases {turn : Turn} {dropped : Bool} {wakeup : Background} {d d' : ViaDriver T}
    {args : CoalescerArgs} {actor : Coalescer T} (h : d.inner = .coalesced args actor)
    (hwake : BackgroundTasks.wake turn dropped wakeup d = some d') :
    ∃ actor', d'.inner = .coalesced args actor' ∧
      ((wakeup = .timer ∧ actor.deadline.any (· ≤ turn.now) ∧ actor.exited = none ∧
          actor' = { actor.autoFlush args turn.order turn.now with clock := turn.now }) ∨
        (wakeup = .closed ∧ dropped = true ∧
          actor' = { actor.shutdown args turn.order with clock := turn.now })) := by
  simp only [BackgroundTasks.wake, h] at hwake
  cases wakeup with
  | timer =>
      obtain ⟨actor', hstep, rfl⟩ := Option.map_eq_some_iff.1 hwake
      refine ⟨actor', rfl, .inl ⟨rfl, ?_⟩⟩
      rw [Coalescer.step] at hstep
      split at hstep
      · rename_i hdue
        cases hstep
        exact ⟨hdue.2.2.2, by simpa using hdue.1, rfl⟩
      · cases hstep
  | closed =>
      dsimp only at hwake
      split at hwake
      · rename_i hdropped
        obtain ⟨actor', hstep, rfl⟩ := Option.map_eq_some_iff.1 hwake
        refine ⟨actor', rfl, .inr ⟨rfl, hdropped, ?_⟩⟩
        rw [Coalescer.step] at hstep
        split at hstep
        · cases hstep
          rfl
        · cases hstep
      · cases hwake

end ViaDriver

end Clackd.Hal.Via
