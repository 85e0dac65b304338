import Clackd.Foundation.WriteBack
import Clackd.Hal.Via.Coalescer

/-!
# What a flush does

`flush_buffer` may stop after any entry, in an order nobody chose.  This module
says once what is known of it then, for the two theories that need it: the
keymap a reader sees is not moved (`flush_overlay`), entries only leave the
buffer (`flush_sub`), all of them when it returns `Ok` (`flush_ok_empty`), and
at least one is left when it does not (`flush_error_pending`).

`KeymapStore` is what the rest of the VIA layer assumes of a transport: there is
a stored keymap, a successful read returns it, a successful write changes the
one slot, and nothing else changes it.
-/

namespace Clackd.Hal.Via

open Clackd.Foundation Clackd.Hal

/-- A transport with a keymap behind it: `get` returns the last successfully
set value, and a failed `set` leaves the store unchanged. -/
structure KeymapStore (T : Type) [CoalescerTransport T] where
  /-- The stored keymap. -/
  read : T → Slot → UInt16
  get_ok : ∀ t layer row col kc,
    (exec (CoalescerTransport.get_keycode layer row col) t).1 = .ok kc →
      kc = read t (layer, row, col)
  set_ok : ∀ t layer row col kc,
    (exec (CoalescerTransport.set_keycode layer row col kc) t).1 = .ok () →
      read (exec (CoalescerTransport.set_keycode layer row col kc) t).2 =
        Function.update (read t) (layer, row, col) kc
  set_error : ∀ t layer row col kc e,
    (exec (CoalescerTransport.set_keycode layer row col kc) t).1 = .error e →
      read (exec (CoalescerTransport.set_keycode layer row col kc) t).2 = read t
  version_keeps : Keeps (fun t t' => read t' = read t)
    (CoalescerTransport.get_protocol_version : DriverM T UInt16)
  get_keeps : ∀ layer row col, Keeps (fun t t' => read t' = read t)
    (CoalescerTransport.get_keycode layer row col : DriverM T UInt16)
  layerCount_keeps : Keeps (fun t t' => read t' = read t)
    (CoalescerTransport.get_layer_count : DriverM T UInt8)
  save_keeps : ∀ channel, Keeps (fun t t' => read t' = read t)
    (CoalescerTransport.custom_save channel : DriverM T Unit)
  getMacro_keeps : ∀ offset length, Keeps (fun t t' => read t' = read t)
    (CoalescerTransport.get_macro_buffer offset length : DriverM T (List UInt8))
  setMacro_keeps : ∀ offset data, Keeps (fun t t' => read t' = read t)
    (CoalescerTransport.set_macro_buffer offset data : DriverM T Unit)
  getLighting_keeps : ∀ channel value_id, Keeps (fun t t' => read t' = read t)
    (CoalescerTransport.get_lighting channel value_id : DriverM T (List UInt8))
  setLighting_keeps : ∀ channel value_id data, Keeps (fun t t' => read t' = read t)
    (CoalescerTransport.set_lighting channel value_id data : DriverM T Unit)

variable {T : Type} [CoalescerTransport T]

/-! ## One entry of the loop -/

@[simp] theorem exec_flush_entries_nil (s : T × WriteBuffer) :
    exec (flush_entries []) s = (.ok (), s) := rfl

/-- A key that is no longer buffered is skipped. -/
theorem exec_flush_entries_skip {key : Slot} {keys : List Slot} {t : T}
    {b : WriteBuffer} (h : b[key]? = none) :
    exec (flush_entries (key :: keys)) (t, b) = exec (flush_entries keys) (t, b) := by
  simp only [flush_entries, exec_bind, exec_get, h]

/-- A write that succeeds removes its entry and the loop goes on. -/
theorem exec_flush_entries_ok {key : Slot} {keys : List Slot} {t t' : T}
    {b : WriteBuffer} {kc : UInt16} (h : b[key]? = some kc)
    (hset : exec (CoalescerTransport.set_keycode key.1 key.2.1 key.2.2 kc) t = (.ok (), t')) :
    exec (flush_entries (key :: keys)) (t, b) =
      exec (flush_entries keys) (t', b.erase key) := by
  simp only [flush_entries, exec_bind, exec_get, exec_zoom, exec_modify, h, hset]

/-- A write that fails ends the loop with its entry still buffered. -/
theorem exec_flush_entries_error {key : Slot} {keys : List Slot} {t t' : T}
    {b : WriteBuffer} {kc : UInt16} {e : DriverError} (h : b[key]? = some kc)
    (hset : exec (CoalescerTransport.set_keycode key.1 key.2.1 key.2.2 kc) t =
      (.error e, t')) :
    exec (flush_entries (key :: keys)) (t, b) = (.error e, (t', b)) := by
  simp only [flush_entries, exec_bind, exec_get, exec_zoom, h, hset]

/-- Induction on the loop of `flush_buffer`, with the three ways its head can
go as the cases. -/
theorem flush_entries_induct {P : List Slot → T → WriteBuffer → Prop}
    (nil : ∀ t b, P [] t b)
    (skip : ∀ key keys t b, b[key]? = none → P keys t b → P (key :: keys) t b)
    (written : ∀ key keys t b kc t', b[key]? = some kc →
      exec (CoalescerTransport.set_keycode key.1 key.2.1 key.2.2 kc) t = (.ok (), t') →
      P keys t' (b.erase key) → P (key :: keys) t b)
    (refused : ∀ key keys t b kc e t', b[key]? = some kc →
      exec (CoalescerTransport.set_keycode key.1 key.2.1 key.2.2 kc) t = (.error e, t') →
      P (key :: keys) t b) :
    ∀ keys t b, P keys t b := by
  intro keys
  induction keys with
  | nil => exact nil
  | cons key keys ih =>
      intro t b
      cases h : b[key]? with
      | none => exact skip key keys t b h (ih t b)
      | some kc =>
          rcases hset : exec (CoalescerTransport.set_keycode key.1 key.2.1 key.2.2 kc) t
            with ⟨_ | _, t'⟩
          · exact refused key keys t b kc _ t' h hset
          · exact written key keys t b kc t' h hset (ih t' (b.erase key))

/-! ## The whole loop -/

/-- However far the loop gets, the keymap readers see does not move. -/
theorem flush_entries_overlay (R : KeymapStore T) (keys : List Slot) (t : T)
    (b : WriteBuffer) :
    overlay (look (exec (flush_entries keys) (t, b)).2.2)
        (R.read (exec (flush_entries keys) (t, b)).2.1) =
      overlay (look b) (R.read t) := by
  induction keys, t, b using flush_entries_induct with
  | nil t b => rfl
  | skip key keys t b h ih =>
      rw [exec_flush_entries_skip h]
      exact ih
  | written key keys t b kc t' h hset ih =>
      have hread := R.set_ok t key.1 key.2.1 key.2.2 kc (by rw [hset])
      rw [hset] at hread
      rw [exec_flush_entries_ok h hset, ih, hread, look_erase]
      exact overlay_settle h
  | refused key keys t b kc e t' h hset =>
      have hread := R.set_error t key.1 key.2.1 key.2.2 kc e (by rw [hset])
      rw [hset] at hread
      rw [exec_flush_entries_error h hset]
      exact congrArg (overlay (look b)) hread

/-- The loop only removes entries. -/
theorem flush_entries_sub (keys : List Slot) (t : T) (b : WriteBuffer) (k : Slot) :
    (exec (flush_entries keys) (t, b)).2.2[k]? = b[k]? ∨
      (exec (flush_entries keys) (t, b)).2.2[k]? = none := by
  induction keys, t, b using flush_entries_induct with
  | nil t b => exact .inl rfl
  | skip key keys t b h ih =>
      rw [exec_flush_entries_skip h]
      exact ih
  | written key keys t b kc t' h hset ih =>
      rw [exec_flush_entries_ok h hset]
      rcases ih with ih | ih
      · rw [ih, lookup_erase]
        by_cases hk : key = k
        · exact .inr (if_pos hk)
        · exact .inl (if_neg hk)
      · exact .inr ih
  | refused key keys t b kc e t' h hset =>
      rw [exec_flush_entries_error h hset]
      exact .inl rfl

/-- A loop that returns `Ok` has removed every key it was given. -/
theorem flush_entries_ok (keys : List Slot) (t : T) (b : WriteBuffer) :
    (exec (flush_entries keys) (t, b)).1 = .ok () →
      ∀ k ∈ keys, (exec (flush_entries keys) (t, b)).2.2[k]? = none := by
  induction keys, t, b using flush_entries_induct with
  | nil t b =>
      intro _ k hk
      cases hk
  | skip key keys t b h ih =>
      rw [exec_flush_entries_skip h]
      intro hok k hk
      rcases List.mem_cons.1 hk with rfl | hk
      · rcases flush_entries_sub keys t b k with hsub | hsub
        · rw [hsub, h]
        · exact hsub
      · exact ih hok k hk
  | written key keys t b kc t' h hset ih =>
      rw [exec_flush_entries_ok h hset]
      intro hok k hk
      rcases List.mem_cons.1 hk with rfl | hk
      · rcases flush_entries_sub keys t' (b.erase k) k with hsub | hsub
        · rw [hsub, lookup_erase_self]
        · exact hsub
      · exact ih hok k hk
  | refused key keys t b kc e t' h hset =>
      rw [exec_flush_entries_error h hset]
      intro hok
      cases hok

/-- A loop that fails leaves at least the refused entry buffered. -/
theorem flush_entries_error_pending (keys : List Slot) (t : T) (b : WriteBuffer)
    (e : DriverError) :
    (exec (flush_entries keys) (t, b)).1 = .error e →
      ∃ (k : Slot) (kc : UInt16),
        (exec (flush_entries keys) (t, b)).2.2[k]? = some kc := by
  induction keys, t, b using flush_entries_induct with
  | nil t b =>
      intro herr
      cases herr
  | skip key keys t b h ih =>
      rw [exec_flush_entries_skip h]
      exact ih
  | written key keys t b kc t' h hset ih =>
      rw [exec_flush_entries_ok h hset]
      exact ih
  | refused key keys t b kc e' t' h hset =>
      rw [exec_flush_entries_error h hset]
      intro _
      exact ⟨key, kc, h⟩

/-! ## `flush_buffer` -/

theorem exec_flush_buffer (order : HashOrder) (t : T) (b : WriteBuffer) :
    exec (flush_buffer order) (t, b) =
      if b.isEmpty then (.ok (), (t, b))
      else exec (flush_entries (order.slots b.keys)) (t, b) := by
  simp only [flush_buffer, exec_bind, exec_get]
  by_cases h : b.isEmpty = true
  · rw [if_pos h, if_pos h, exec_pure]
  · rw [if_neg h, if_neg h]

theorem flush_overlay (R : KeymapStore T) (order : HashOrder) (t : T) (b : WriteBuffer) :
    overlay (look (exec (flush_buffer order) (t, b)).2.2)
        (R.read (exec (flush_buffer order) (t, b)).2.1) =
      overlay (look b) (R.read t) := by
  rw [exec_flush_buffer]
  split
  · rfl
  · exact flush_entries_overlay R _ t b

theorem flush_sub (order : HashOrder) (t : T) (b : WriteBuffer) (k : Slot) :
    (exec (flush_buffer order) (t, b)).2.2[k]? = b[k]? ∨
      (exec (flush_buffer order) (t, b)).2.2[k]? = none := by
  rw [exec_flush_buffer]
  split
  · exact .inl rfl
  · exact flush_entries_sub _ t b k

/-- A flush that returns `Ok` leaves the buffer empty, whatever order it took:
the order is a permutation of all the keys. -/
theorem flush_ok_empty (order : HashOrder) (t : T) (b : WriteBuffer)
    (hok : (exec (flush_buffer order) (t, b)).1 = .ok ()) :
    (exec (flush_buffer order) (t, b)).2.2.isEmpty = true := by
  rw [exec_flush_buffer] at hok ⊢
  split
  · assumption
  · rename_i hne
    rw [if_neg hne] at hok
    refine (isEmpty_iff_lookup _).2 ?_
    intro k
    by_cases hk : k ∈ order.slots b.keys
    · exact flush_entries_ok _ t b hok k hk
    · have hnone : b[k]? = none := by
        cases h : b[k]? with
        | none => rfl
        | some v =>
            have hmem : k ∈ b.keys := (mem_keys_iff b k).2 ⟨v, h⟩
            exact absurd ((order.slots_perm b.keys).mem_iff.2 hmem) hk
      rcases flush_entries_sub (order.slots b.keys) t b k with hsub | hsub
      · rw [hsub, hnone]
      · exact hsub

theorem flush_error_pending (order : HashOrder) (t : T) (b : WriteBuffer)
    (e : DriverError) (herr : (exec (flush_buffer order) (t, b)).1 = .error e) :
    (exec (flush_buffer order) (t, b)).2.2.isEmpty = false := by
  rw [exec_flush_buffer] at herr ⊢
  split
  · rename_i hempty
    rw [if_pos hempty] at herr
    cases herr
  · rename_i hne
    rw [if_neg hne] at herr
    obtain ⟨k, kc, hk⟩ := flush_entries_error_pending _ t b e herr
    by_contra hcon
    have hempty := (isEmpty_iff_lookup _).1 (Bool.not_eq_false _ ▸ hcon) k
    rw [hk] at hempty
    cases hempty

/-! ## `save_touched_channels` -/

@[simp] theorem exec_save_channels_nil (s : T × ChannelSet) :
    exec (save_channels []) s = (.ok (), s) := rfl

/-- A save that succeeds takes its channel out of the set and the loop goes on. -/
theorem exec_save_channels_ok {channel : UInt8} {channels : List UInt8} {t t' : T}
    {s : ChannelSet} (hsave : exec (CoalescerTransport.custom_save channel) t = (.ok (), t')) :
    exec (save_channels (channel :: channels)) (t, s) =
      exec (save_channels channels) (t', s.erase channel) := by
  simp only [save_channels, exec_bind, exec_zoom, exec_modify, hsave]

/-- A save that fails ends the loop with its channel still in the set. -/
theorem exec_save_channels_error {channel : UInt8} {channels : List UInt8} {t t' : T}
    {s : ChannelSet} {e : DriverError}
    (hsave : exec (CoalescerTransport.custom_save channel) t = (.error e, t')) :
    exec (save_channels (channel :: channels)) (t, s) = (.error e, (t', s)) := by
  simp only [save_channels, exec_bind, exec_zoom, hsave]

/-- Induction on the loop of `save_touched_channels`: it is done, or its head is
saved, or refused. -/
theorem save_channels_induct {P : List UInt8 → T → ChannelSet → Prop}
    (nil : ∀ t s, P [] t s)
    (saved : ∀ channel channels t s t',
      exec (CoalescerTransport.custom_save channel) t = (.ok (), t') →
      P channels t' (s.erase channel) → P (channel :: channels) t s)
    (refused : ∀ channel channels t s e t',
      exec (CoalescerTransport.custom_save channel) t = (.error e, t') →
      P (channel :: channels) t s) :
    ∀ channels t s, P channels t s := by
  intro channels
  induction channels with
  | nil => exact nil
  | cons channel channels ih =>
      intro t s
      rcases hsave : exec (CoalescerTransport.custom_save channel) t with ⟨_ | _, t'⟩
      · exact refused channel channels t s _ t' hsave
      · exact saved channel channels t s t' hsave (ih t' (s.erase channel))

/-- Saving channels does not touch the keymap. -/
theorem save_channels_keeps (R : KeymapStore T) (pending : List UInt8) :
    Keeps (fun s s' : T × ChannelSet => R.read s'.1 = R.read s.1)
      (save_channels pending) := by
  induction pending with
  | nil =>
      intro s
      rfl
  | cons channel pending ih =>
      refine Keeps.bind (fun _ _ _ h h' => h'.trans h) ?_ ?_
      · intro s
        exact R.save_keeps channel s.1
      · intro _
        refine Keeps.bind (fun _ _ _ h h' => h'.trans h) ?_ ?_
        · intro s
          rfl
        · intro _
          exact ih

theorem save_touched_channels_keeps (R : KeymapStore T) (order : HashOrder) :
    Keeps (fun s s' : T × ChannelSet => R.read s'.1 = R.read s.1)
      (save_touched_channels order) := by
  refine Keeps.bind (fun _ _ _ h h' => h'.trans h) ?_ ?_
  · intro s
    rfl
  · intro s
    exact save_channels_keeps R _

/-! ## The arms of the actor, by how their first call ends -/

namespace Coalescer

variable {args : CoalescerArgs} {order : HashOrder} {c c' : Coalescer T} {e : DriverError}

theorem commit_of_ok (h : flush order c = (.ok (), c')) :
    commit args order c =
      ((save order (emit_layout_updated args c')).1,
        { (save order (emit_layout_updated args c')).2 with deadline := none }) := by
  rw [commit, h]

theorem commit_of_error (h : flush order c = (.error e, c')) :
    commit args order c = (.error e, { c' with deadline := none }) := by
  rw [commit, h]

theorem autoFlush_of_ok {finish : Nat} (h : flush order c = (.ok (), c')) :
    autoFlush args order finish c =
      { emit_layout_updated args c' with deadline := none } := by
  rw [autoFlush, h]

theorem autoFlush_of_error {finish : Nat} (h : flush order c = (.error e, c')) :
    autoFlush args order finish c =
      { c' with deadline := some (finish + args.flush_interval) } := by
  rw [autoFlush, h]

theorem finalFlush_of_empty (h : c.buffer.isEmpty = true) :
    finalFlush args order c = (.ok (), c) := by
  rw [finalFlush, if_pos h]

theorem finalFlush_of_ok (hb : ¬ c.buffer.isEmpty = true)
    (h : flush order c = (.ok (), c')) :
    finalFlush args order c = (.ok (), emit_layout_updated args c') := by
  rw [finalFlush, if_neg hb, h]

theorem finalFlush_of_error (hb : ¬ c.buffer.isEmpty = true)
    (h : flush order c = (.error e, c')) : finalFlush args order c = (.error e, c') := by
  rw [finalFlush, if_neg hb, h]

theorem getKeycode_pending {layer row col : UInt8} {kc : UInt16}
    (h : c.buffer[(layer, row, col)]? = some kc) :
    getKeycode layer row col c = (.ok kc, c) := by
  rw [getKeycode, h]

theorem getKeycode_stored {layer row col : UInt8}
    (h : c.buffer[(layer, row, col)]? = none) :
    getKeycode layer row col c =
      onTransport (CoalescerTransport.get_keycode layer row col) c := by
  rw [getKeycode, h]

theorem setLighting_of_ok {channel value_id : UInt8} {data : List UInt8}
    (h : onTransport (CoalescerTransport.set_lighting channel value_id data) c =
      (.ok (), c')) :
    setLighting channel value_id data c =
      (.ok (), { c' with touched_channels := c'.touched_channels.insert channel }) := by
  rw [setLighting, h]

theorem setLighting_of_error {channel value_id : UInt8} {data : List UInt8}
    (h : onTransport (CoalescerTransport.set_lighting channel value_id data) c =
      (.error e, c')) :
    setLighting channel value_id data c = (.error e, c') := by
  rw [setLighting, h]

omit [CoalescerTransport T] in
/-- Announcing a flush changes what was emitted and nothing else. -/
theorem emit_layout_updated_eq (args : CoalescerArgs) (c : Coalescer T) :
    ∃ emitted, emit_layout_updated args c = { c with emitted := emitted } := by
  unfold emit_layout_updated
  split
  · exact ⟨_, rfl⟩
  · exact ⟨c.emitted, rfl⟩

end Coalescer

end Clackd.Hal.Via
