import Clackd.Hal.Via.Mock
import Clackd.Hal.Via.Driver
import Clackd.Foundation.Run

/-!
# The coalescing driver refines the unbuffered one

The purpose of a keymap, buffered or not, is `keymapAfter`: a function from
slots to keycodes that every `SetKeycode` updates at one slot.  The coalescer
holds it in two parts, the stored keymap and the buffer in front of it, and the
abstraction map is their overlay.

## Main results

* `serve_keymap`, `step_refines`: one wake-up of the actor updates the overlay
  as the operation it served updates the abstract keymap.
* `direct_replies_get`: the unbuffered driver answers from the abstract keymap.
* `coalescer_refines_unbuffered`: so the two give one answer, and a flush that
  reports success has brought the store itself up to date.
-/

namespace Clackd.Hal.Via

open Clackd.Foundation Clackd.Hal

/-! ## The abstract keymap -/

/-- What one operation does to the keymap. -/
def CoalescerOp.apply (keymap : Slot → UInt16) : CoalescerOp → Slot → UInt16
  | .setKeycode layer row col keycode =>
      Function.update keymap (layer, row, col) keycode
  | _ => keymap

/-- The keymap after a sequence of operations: at each slot the keycode of the
latest `SetKeycode` to it, or the initial one. -/
def keymapAfter (init : Slot → UInt16) (ops : List CoalescerOp) : Slot → UInt16 :=
  ops.foldl CoalescerOp.apply init

@[simp] theorem keymapAfter_nil (init : Slot → UInt16) : keymapAfter init [] = init := rfl

@[simp] theorem keymapAfter_cons (init : Slot → UInt16) (op : CoalescerOp)
    (ops : List CoalescerOp) :
    keymapAfter init (op :: ops) = keymapAfter (op.apply init) ops := rfl

theorem keymapAfter_snoc (init : Slot → UInt16) (ops : List CoalescerOp)
    (op : CoalescerOp) :
    keymapAfter init (ops ++ [op]) = op.apply (keymapAfter init ops) := by
  rw [keymapAfter, keymapAfter, List.foldl_append]
  rfl

/-- Whether a reply carries `Ok`. -/
def CoalescerReply.isOk : CoalescerReply → Bool
  | .version result => result.isOk
  | .keycode result => result.isOk
  | .layerCount result => result.isOk
  | .done result => result.isOk
  | .bytes result => result.isOk

/-- Every `Ok` answer to a `GetKeycode` in a history is the keymap at that
point of it. -/
def GetsAgree (init : Slot → UInt16) (served : List (CoalescerOp × CoalescerReply)) :
    Prop :=
  ∀ pre layer row col kc post,
    served = pre ++ (.getKeycode layer row col, .keycode (.ok kc)) :: post →
      kc = keymapAfter init (pre.map Prod.fst) (layer, row, col)

theorem getsAgree_nil (init : Slot → UInt16) : GetsAgree init [] := by
  intro pre layer row col kc post h
  exact absurd h.symm (List.append_ne_nil_of_right_ne_nil pre (List.cons_ne_nil _ post))

/-- One more answer: only a `GetKeycode` owes anything. -/
theorem getsAgree_snoc {init : Slot → UInt16}
    {served : List (CoalescerOp × CoalescerReply)} {op : CoalescerOp}
    {reply : CoalescerReply} (h : GetsAgree init served)
    (hnew : ∀ layer row col kc, op = .getKeycode layer row col →
      reply = .keycode (.ok kc) →
        kc = keymapAfter init (served.map Prod.fst) (layer, row, col)) :
    GetsAgree init (served ++ [(op, reply)]) := by
  intro pre layer row col kc post hsplit
  rcases List.eq_nil_or_concat post with rfl | ⟨post, last, rfl⟩
  · obtain ⟨rfl, hlast⟩ := List.append_inj' hsplit rfl
    cases hlast
    exact hnew layer row col kc rfl rfl
  · rw [List.concat_eq_append, ← List.cons_append, ← List.append_assoc] at hsplit
    obtain ⟨hserved, -⟩ := List.append_inj' hsplit rfl
    exact h pre layer row col kc post hserved

/-! ## The coalescer -/

section Coalesced

variable {T : Type} [CoalescerTransport T]

/-- The keymap a client of the actor is owed. -/
def Coalescer.keymap (R : KeymapStore T) (c : Coalescer T) : Slot → UInt16 :=
  overlay (look c.buffer) (R.read c.transport)

theorem Coalescer.keymap_of_isEmpty (R : KeymapStore T) (c : Coalescer T)
    (h : c.buffer.isEmpty = true) : c.keymap R = R.read c.transport :=
  overlay_of_empty _ ((isEmpty_iff_lookup c.buffer).1 h)

/-- A transport call that does not touch the stored keymap does not move the
actor's. -/
theorem Coalescer.keymap_onTransport (R : KeymapStore T) {α : Type} {x : DriverM T α}
    (hx : Keeps (fun t t' => R.read t' = R.read t) x) (c : Coalescer T) :
    (Coalescer.onTransport x c).2.keymap R = c.keymap R :=
  congrArg (overlay (look c.buffer)) (hx c.transport)

theorem Coalescer.keymap_flush (R : KeymapStore T) (order : HashOrder) (c : Coalescer T) :
    (Coalescer.flush order c).2.keymap R = c.keymap R :=
  flush_overlay R order c.transport c.buffer

theorem Coalescer.keymap_save (R : KeymapStore T) (order : HashOrder) (c : Coalescer T) :
    (Coalescer.save order c).2.keymap R = c.keymap R :=
  congrArg (overlay (look c.buffer))
    (save_touched_channels_keeps R order (c.transport, c.touched_channels))

omit [CoalescerTransport T] in
@[simp] theorem Coalescer.buffer_emit (args : CoalescerArgs) (c : Coalescer T) :
    (Coalescer.emit_layout_updated args c).buffer = c.buffer := by
  obtain ⟨emitted, h⟩ := Coalescer.emit_layout_updated_eq args c
  rw [h]

omit [CoalescerTransport T] in
@[simp] theorem Coalescer.served_emit (args : CoalescerArgs) (c : Coalescer T) :
    (Coalescer.emit_layout_updated args c).served = c.served := by
  obtain ⟨emitted, h⟩ := Coalescer.emit_layout_updated_eq args c
  rw [h]

@[simp] theorem Coalescer.keymap_emit (R : KeymapStore T) (args : CoalescerArgs)
    (c : Coalescer T) : (Coalescer.emit_layout_updated args c).keymap R = c.keymap R := by
  obtain ⟨emitted, h⟩ := Coalescer.emit_layout_updated_eq args c
  rw [h]
  rfl

theorem Coalescer.keymap_commit (R : KeymapStore T) (args : CoalescerArgs)
    (order : HashOrder) (c : Coalescer T) :
    (Coalescer.commit args order c).2.keymap R = c.keymap R := by
  have hflush := Coalescer.keymap_flush R order c
  rcases h : Coalescer.flush order c with ⟨_ | _, c'⟩
  · rw [h] at hflush
    rw [Coalescer.commit_of_error h]
    exact hflush
  · rw [h] at hflush
    rw [Coalescer.commit_of_ok h]
    have hsave := Coalescer.keymap_save R order (Coalescer.emit_layout_updated args c')
    rw [Coalescer.keymap_emit] at hsave
    exact hsave.trans hflush

/-- The operation served is the update of the abstract keymap. -/
theorem Coalescer.serve_keymap (R : KeymapStore T) (args : CoalescerArgs)
    (order : HashOrder) (now : Nat) (c : Coalescer T) (op : CoalescerOp) :
    (Coalescer.serve args order now c op).2.keymap R = op.apply (c.keymap R) := by
  cases op with
  | setKeycode layer row col keycode =>
      have hlook := look_insert c.buffer (layer, row, col) keycode
      exact (congrArg (fun b => overlay b (R.read c.transport)) hlook).trans
        (overlay_write _ _ _ _)
  | getKeycode layer row col =>
      change (Coalescer.getKeycode layer row col c).2.keymap R = c.keymap R
      cases h : c.buffer[(layer, row, col)]? with
      | some kc => rw [Coalescer.getKeycode_pending h]
      | none =>
          rw [Coalescer.getKeycode_stored h]
          exact Coalescer.keymap_onTransport R (R.get_keeps layer row col) c
  | getLayerCount => exact Coalescer.keymap_onTransport R R.layerCount_keeps c
  | getProtocolVersion => exact Coalescer.keymap_onTransport R R.version_keeps c
  | flush => exact Coalescer.keymap_commit R args order c
  | getMacro offset length =>
      exact Coalescer.keymap_onTransport R (R.getMacro_keeps offset length) c
  | setMacro offset data =>
      exact Coalescer.keymap_onTransport R (R.setMacro_keeps offset data) c
  | getLighting channel value_id =>
      exact Coalescer.keymap_onTransport R (R.getLighting_keeps channel value_id) c
  | setLighting channel value_id data =>
      have hkeep := Coalescer.keymap_onTransport R
        (R.setLighting_keeps channel value_id data) c
      change (Coalescer.setLighting channel value_id data c).2.keymap R = c.keymap R
      rcases h : Coalescer.onTransport
        (CoalescerTransport.set_lighting channel value_id data) c with ⟨_ | _, c'⟩
      · rw [h] at hkeep
        rw [Coalescer.setLighting_of_error h]
        exact hkeep
      · rw [h] at hkeep
        rw [Coalescer.setLighting_of_ok h]
        exact hkeep

/-- A `GetKeycode` that is answered `Ok` is answered from the keymap, buffered
or stored. -/
theorem Coalescer.serve_get (R : KeymapStore T) (args : CoalescerArgs)
    (order : HashOrder) (now : Nat) (c : Coalescer T) (layer row col : UInt8)
    (kc : UInt16)
    (h : (Coalescer.serve args order now c (.getKeycode layer row col)).1 =
      .keycode (.ok kc)) :
    kc = c.keymap R (layer, row, col) := by
  change CoalescerReply.keycode (Coalescer.getKeycode layer row col c).1 = _ at h
  injection h with h
  cases hb : c.buffer[(layer, row, col)]? with
  | some pending =>
      rw [Coalescer.getKeycode_pending hb] at h
      injection h with h
      have hover : c.keymap R (layer, row, col) = pending := overlay_pending hb
      rw [hover, h]
  | none =>
      rw [Coalescer.getKeycode_stored hb] at h
      have hover : c.keymap R (layer, row, col) = R.read c.transport (layer, row, col) :=
        overlay_stored hb
      rw [hover]
      exact R.get_ok c.transport layer row col kc h

/-- Serving an operation records nothing by itself: the loop does. -/
theorem Coalescer.serve_served (args : CoalescerArgs) (order : HashOrder) (now : Nat)
    (c : Coalescer T) (op : CoalescerOp) :
    (Coalescer.serve args order now c op).2.served = c.served := by
  have hflush : ∀ {r c'}, Coalescer.flush order c = (r, c') → c'.served = c.served := by
    intro r c' h
    exact congrArg (fun p => p.2.served) h.symm
  cases op with
  | getKeycode layer row col =>
      change (Coalescer.getKeycode layer row col c).2.served = c.served
      cases h : c.buffer[(layer, row, col)]? with
      | some kc => rw [Coalescer.getKeycode_pending h]
      | none =>
          rw [Coalescer.getKeycode_stored h]
          rfl
  | flush =>
      change (Coalescer.commit args order c).2.served = c.served
      rcases h : Coalescer.flush order c with ⟨_ | _, c'⟩
      · have hserved := hflush h
        rw [Coalescer.commit_of_error h]
        exact hserved
      · rw [Coalescer.commit_of_ok h]
        exact (Coalescer.served_emit args c').trans (hflush h)
  | setLighting channel value_id data =>
      change (Coalescer.setLighting channel value_id data c).2.served = c.served
      rcases h : Coalescer.onTransport
        (CoalescerTransport.set_lighting channel value_id data) c with ⟨_ | _, c'⟩
      · rw [Coalescer.setLighting_of_error h]
        exact congrArg (fun p => p.2.served) h.symm
      · rw [Coalescer.setLighting_of_ok h]
        exact congrArg (fun p => p.2.served) h.symm
  | _ => rfl

/-- The relation between the actor and the operations it has served. -/
structure Refines (R : KeymapStore T) (init : Slot → UInt16) (c : Coalescer T) : Prop where
  keymap : c.keymap R = keymapAfter init (c.served.map Prod.fst)
  gets : GetsAgree init c.served

theorem refines_spawn (R : KeymapStore T) (t : T) (now : Nat) :
    Refines R (R.read t) (Coalescer.spawn t now) where
  keymap := Coalescer.keymap_of_isEmpty R _ rfl
  gets := getsAgree_nil _

theorem Coalescer.keymap_autoFlush (R : KeymapStore T) (args : CoalescerArgs)
    (order : HashOrder) (finish : Nat) (c : Coalescer T) :
    (Coalescer.autoFlush args order finish c).keymap R = c.keymap R ∧
      (Coalescer.autoFlush args order finish c).served = c.served := by
  have hflush := Coalescer.keymap_flush R order c
  have hserved : (Coalescer.flush order c).2.served = c.served := rfl
  rcases h : Coalescer.flush order c with ⟨_ | _, c'⟩
  · rw [h] at hflush hserved
    rw [Coalescer.autoFlush_of_error h]
    exact ⟨hflush, hserved⟩
  · rw [h] at hflush hserved
    rw [Coalescer.autoFlush_of_ok h]
    exact ⟨(Coalescer.keymap_emit R args c').trans hflush,
      (Coalescer.served_emit args c').trans hserved⟩

theorem Coalescer.keymap_finalFlush (R : KeymapStore T) (args : CoalescerArgs)
    (order : HashOrder) (c : Coalescer T) :
    (Coalescer.finalFlush args order c).2.keymap R = c.keymap R ∧
      (Coalescer.finalFlush args order c).2.served = c.served := by
  have hflush := Coalescer.keymap_flush R order c
  have hserved : (Coalescer.flush order c).2.served = c.served := rfl
  by_cases hb : c.buffer.isEmpty = true
  · rw [Coalescer.finalFlush_of_empty hb]
    exact ⟨rfl, rfl⟩
  · rcases h : Coalescer.flush order c with ⟨_ | _, c'⟩
    · rw [h] at hflush hserved
      rw [Coalescer.finalFlush_of_error hb h]
      exact ⟨hflush, hserved⟩
    · rw [h] at hflush hserved
      rw [Coalescer.finalFlush_of_ok hb h]
      exact ⟨(Coalescer.keymap_emit R args c').trans hflush,
        (Coalescer.served_emit args c').trans hserved⟩

/-- The final save works on the lighting channels only. -/
theorem Coalescer.finalSave_frame (order : HashOrder) (c : Coalescer T) :
    (Coalescer.finalSave order c).2.buffer = c.buffer ∧
      (Coalescer.finalSave order c).2.served = c.served := by
  unfold Coalescer.finalSave
  split <;> exact ⟨rfl, rfl⟩

theorem Coalescer.keymap_finalSave (R : KeymapStore T) (order : HashOrder)
    (c : Coalescer T) : (Coalescer.finalSave order c).2.keymap R = c.keymap R := by
  unfold Coalescer.finalSave
  split
  · rfl
  · exact Coalescer.keymap_save R order c

theorem Coalescer.keymap_shutdown (R : KeymapStore T) (args : CoalescerArgs)
    (order : HashOrder) (c : Coalescer T) :
    (Coalescer.shutdown args order c).keymap R = c.keymap R ∧
      (Coalescer.shutdown args order c).served = c.served := by
  obtain ⟨hflush, hserved⟩ := Coalescer.keymap_finalFlush R args order c
  have hsave := Coalescer.keymap_finalSave R order (Coalescer.finalFlush args order c).2
  have hframe := Coalescer.finalSave_frame order (Coalescer.finalFlush args order c).2
  exact ⟨hsave.trans hflush, hframe.2.trans hserved⟩

/-- One wake-up of the actor. -/
theorem step_refines (R : KeymapStore T) (init : Slot → UInt16) (args : CoalescerArgs)
    (c : Coalescer T) (w : Wakeup) (c' : Coalescer T) (h : Refines R init c)
    (hstep : Coalescer.step args c w = some c') : Refines R init c' := by
  cases w with
  | recv op order start finish =>
      simp only [Coalescer.step, Option.ite_none_right_eq_some, Option.some.injEq] at hstep
      obtain ⟨-, rfl⟩ := hstep
      have hserved := Coalescer.serve_served args order start c op
      have hkeymap := Coalescer.serve_keymap R args order start c op
      constructor
      · change (Coalescer.serve args order start c op).2.keymap R = _
        rw [hkeymap, h.keymap]
        simp only [hserved, List.map_append, List.map_cons, List.map_nil]
        exact (keymapAfter_snoc init _ op).symm
      · simp only [hserved]
        refine getsAgree_snoc h.gets ?_
        intro layer row col kc hop hreply
        subst hop
        rw [← h.keymap]
        exact Coalescer.serve_get R args order start c layer row col kc hreply
  | autoFlush order start finish =>
      simp only [Coalescer.step, Option.ite_none_right_eq_some, Option.some.injEq] at hstep
      obtain ⟨-, rfl⟩ := hstep
      obtain ⟨hkeymap, hserved⟩ := Coalescer.keymap_autoFlush R args order finish c
      constructor
      · change (Coalescer.autoFlush args order finish c).keymap R = _
        rw [hkeymap, h.keymap, hserved]
      · rw [hserved]
        exact h.gets
  | closed order start finish =>
      simp only [Coalescer.step, Option.ite_none_right_eq_some, Option.some.injEq] at hstep
      obtain ⟨-, rfl⟩ := hstep
      obtain ⟨hkeymap, hserved⟩ := Coalescer.keymap_shutdown R args order c
      constructor
      · change (Coalescer.shutdown args order c).keymap R = _
        rw [hkeymap, h.keymap, hserved]
      · rw [hserved]
        exact h.gets

/-- What a successful flush leaves. -/
theorem Coalescer.flush_of_ok {order : HashOrder} {c c' : Coalescer T}
    (h : Coalescer.flush order c = (.ok (), c')) : c'.buffer.isEmpty = true := by
  have hbuffer : c'.buffer = (exec (flush_buffer order) (c.transport, c.buffer)).2.2 :=
    congrArg (fun p => p.2.buffer) h.symm
  rw [hbuffer]
  exact flush_ok_empty order c.transport c.buffer (congrArg Prod.fst h)

/-- An explicit flush that reports `Ok` drained the buffer. -/
theorem Coalescer.commit_ok_empty (args : CoalescerArgs) (order : HashOrder)
    (c : Coalescer T) (h : (Coalescer.commit args order c).1 = .ok ()) :
    (Coalescer.commit args order c).2.buffer.isEmpty = true := by
  rcases hf : Coalescer.flush order c with ⟨e | _, c'⟩
  · rw [Coalescer.commit_of_error hf] at h
    cases h
  · rw [Coalescer.commit_of_ok hf]
    change (Coalescer.emit_layout_updated args c').buffer.isEmpty = true
    rw [Coalescer.buffer_emit]
    exact Coalescer.flush_of_ok hf

/-- A shutdown flush that met no failure drained the buffer. -/
theorem Coalescer.shutdown_ok_empty (args : CoalescerArgs)
    (order : HashOrder) (c : Coalescer T) (saved : Except DriverError Unit)
    (h : (Coalescer.shutdown args order c).exited = some (.ok (), saved)) :
    (Coalescer.shutdown args order c).buffer.isEmpty = true := by
  have hflushed : (Coalescer.finalFlush args order c).1 = .ok () := by
    injection h with h
    exact congrArg Prod.fst h
  have hbuffer := (Coalescer.finalSave_frame order (Coalescer.finalFlush args order c).2).1
  change (Coalescer.finalSave order (Coalescer.finalFlush args order c).2).2.buffer.isEmpty =
    true
  rw [hbuffer]
  by_cases hb : c.buffer.isEmpty = true
  · rw [Coalescer.finalFlush_of_empty hb]
    exact hb
  · rcases hf : Coalescer.flush order c with ⟨e | _, c'⟩
    · rw [Coalescer.finalFlush_of_error hb hf] at hflushed
      cases hflushed
    · rw [Coalescer.finalFlush_of_ok hb hf, Coalescer.buffer_emit]
      exact Coalescer.flush_of_ok hf

end Coalesced

/-! ## The unbuffered driver -/

section Direct

variable {T : Type} [CoalescerTransport T]

/-- A transport call that does not touch the stored keymap does not move the
direct arm's. -/
theorem ViaDirect.read_onTransport (R : KeymapStore T) {α : Type} {x : DriverM T α}
    (hx : Keeps (fun t t' => R.read t' = R.read t) x) (d : ViaDirect T) :
    R.read (exec (ViaDirect.onTransport x) d).2.transport = R.read d.transport :=
  hx d.transport

/-- An operation that does not fail is the update of the stored keymap. -/
theorem ViaDirect.serve_read (R : KeymapStore T) (order : HashOrder) (d : ViaDirect T)
    (op : CoalescerOp) (hok : (d.serve order op).1.isOk = true) :
    R.read (d.serve order op).2.transport = op.apply (R.read d.transport) := by
  cases op with
  | setKeycode layer row col keycode =>
      have hreply : (exec (CoalescerTransport.set_keycode layer row col keycode)
          d.transport).1 = .ok () := by
        change Except.isOk (exec (CoalescerTransport.set_keycode layer row col keycode)
          d.transport).1 = true at hok
        cases h : (exec (CoalescerTransport.set_keycode layer row col keycode)
          d.transport).1 with
        | ok _ => rfl
        | error e =>
            rw [h] at hok
            cases hok
      exact R.set_ok d.transport layer row col keycode hreply
  | getKeycode layer row col => exact ViaDirect.read_onTransport R (R.get_keeps _ _ _) d
  | getLayerCount => exact ViaDirect.read_onTransport R R.layerCount_keeps d
  | getProtocolVersion => exact ViaDirect.read_onTransport R R.version_keeps d
  | flush =>
      exact save_touched_channels_keeps R order (d.transport, d.touched_channels)
  | getMacro offset length =>
      exact ViaDirect.read_onTransport R (R.getMacro_keeps offset length) d
  | setMacro offset data =>
      exact ViaDirect.read_onTransport R (R.setMacro_keeps offset data) d
  | getLighting channel value_id =>
      exact ViaDirect.read_onTransport R (R.getLighting_keeps channel value_id) d
  | setLighting channel value_id data =>
      have hkeeps : Keeps (fun d d' : ViaDirect T => R.read d'.transport = R.read d.transport)
          (ViaDirect.set_lighting channel value_id data) := by
        refine Keeps.bind (fun _ _ _ h h' => h'.trans h) ?_ ?_
        · intro d
          exact ViaDirect.read_onTransport R (R.setLighting_keeps channel value_id data) d
        · intro _ d
          rfl
      exact hkeeps d

/-- The answer of an unbuffered run without failures to its `i`-th operation,
when that is a `GetKeycode`, is the abstract keymap at that point. -/
theorem direct_replies_get (R : KeymapStore T) (order : HashOrder)
    (ops : List CoalescerOp) (d : ViaDirect T)
    (hok : ∀ reply ∈ (d.replies order ops).1, reply.isOk = true)
    (i : Nat) (layer row col : UInt8) (hop : ops[i]? = some (.getKeycode layer row col)) :
    (d.replies order ops).1[i]? =
      some (.keycode (.ok
        (keymapAfter (R.read d.transport) (ops.take i) (layer, row, col)))) := by
  induction ops generalizing d i with
  | nil => cases hop
  | cons op ops ih =>
      have hhead : (d.serve order op).1.isOk = true := hok _ List.mem_cons_self
      cases i with
      | zero =>
          injection hop with hop
          subst hop
          cases h : (exec (CoalescerTransport.get_keycode layer row col) d.transport).1 with
          | ok kc =>
              have hkc := R.get_ok d.transport layer row col kc h
              change some (CoalescerReply.keycode (exec (CoalescerTransport.get_keycode
                layer row col) d.transport).1) = _
              rw [h, hkc]
              rfl
          | error e =>
              change Except.isOk (exec (CoalescerTransport.get_keycode layer row col)
                d.transport).1 = true at hhead
              rw [h] at hhead
              cases hhead
      | succ i =>
          have hrest := ih (d.serve order op).2
            (fun reply hreply => hok reply (List.mem_cons_of_mem _ hreply)) i hop
          rw [ViaDirect.serve_read R order d op hhead] at hrest
          exact hrest

end Direct

/-! ## The refinement -/

section Refinement

variable {T T' : Type} [CoalescerTransport T] [CoalescerTransport T']

/-- The actor in front of a transport that may fail at any call, against an
unbuffered driver on any store with the same initial keymap.  An `Ok` answer to
a `GetKeycode` is the latest preceding `SetKeycode`, which is what a failure-free
unbuffered run answers; and after a successful `Flush`, or a shutdown whose
flush met no failure, the device itself holds that keymap and nothing is
pending. -/
theorem coalescer_refines_unbuffered (R : KeymapStore T) (R' : KeymapStore T')
    (args : CoalescerArgs) (order' : HashOrder) (t : T) (t' : T')
    (hinit : R'.read t' = R.read t) (now : Nat) (ws : List Wakeup) (c : Coalescer T)
    (hrun : run (Coalescer.step args) (Coalescer.spawn t now) ws = some c) :
    (∀ pre layer row col kc post,
      c.served = pre ++ (.getKeycode layer row col, .keycode (.ok kc)) :: post →
        kc = keymapAfter (R.read t) (pre.map Prod.fst) (layer, row, col) ∧
        ((∀ reply ∈ (ViaDirect.replies order' ⟨t', ∅⟩ (c.served.map Prod.fst)).1,
            reply.isOk = true) →
          (ViaDirect.replies order' ⟨t', ∅⟩ (c.served.map Prod.fst)).1[pre.length]? =
            some (.keycode (.ok kc)))) ∧
    (∀ order start finish c',
      Coalescer.step args c (.recv .flush order start finish) = some c' →
      c'.served = c.served ++ [(.flush, .done (.ok ()))] →
        R.read c'.transport = keymapAfter (R.read t) (c'.served.map Prod.fst) ∧
        c'.buffer.isEmpty = true) ∧
    (∀ order start finish c' saved,
      Coalescer.step args c (.closed order start finish) = some c' →
      c'.exited = some (.ok (), saved) →
        R.read c'.transport = keymapAfter (R.read t) (c'.served.map Prod.fst) ∧
        c'.buffer.isEmpty = true) := by
  have hc : Refines R (R.read t) c :=
    run_preserves (step_refines R (R.read t) args) (refines_spawn R t now) hrun
  -- With an empty buffer the overlay is the store.
  have hsettled : ∀ c' : Coalescer T, Refines R (R.read t) c' →
      c'.buffer.isEmpty = true →
        R.read c'.transport = keymapAfter (R.read t) (c'.served.map Prod.fst) := by
    intro c' hc' hempty
    rw [← hc'.keymap, Coalescer.keymap_of_isEmpty R c' hempty]
  refine ⟨?_, ?_, ?_⟩
  · intro pre layer row col kc post hserved
    have hkc := hc.gets pre layer row col kc post hserved
    refine ⟨hkc, ?_⟩
    intro hok
    have hop : (c.served.map Prod.fst)[pre.length]? =
        some (.getKeycode layer row col) := by
      rw [hserved, List.map_append, List.map_cons, List.getElem?_append_right (by simp)]
      simp
    have htake : (c.served.map Prod.fst).take pre.length = pre.map Prod.fst := by
      rw [hserved, List.map_append, List.take_left' (List.length_map Prod.fst)]
    rw [direct_replies_get R' order' _ ⟨t', ∅⟩ hok pre.length layer row col hop, htake,
      hinit, ← hkc]
  · intro order start finish c' hstep hserved
    have hc' := step_refines R (R.read t) args c _ c' hc hstep
    have hempty : c'.buffer.isEmpty = true := by
      simp only [Coalescer.step, Option.ite_none_right_eq_some, Option.some.injEq] at hstep
      obtain ⟨-, rfl⟩ := hstep
      simp only [Coalescer.serve_served] at hserved
      obtain ⟨-, hlast⟩ := List.append_inj' hserved rfl
      injection hlast with hlast
      injection hlast with _ hreply
      injection hreply with hreply
      exact Coalescer.commit_ok_empty args order c hreply
    exact ⟨hsettled c' hc' hempty, hempty⟩
  · intro order start finish c' saved hstep hexit
    have hc' := step_refines R (R.read t) args c _ c' hc hstep
    have hempty : c'.buffer.isEmpty = true := by
      simp only [Coalescer.step, Option.ite_none_right_eq_some, Option.some.injEq] at hstep
      obtain ⟨-, rfl⟩ := hstep
      exact Coalescer.shutdown_ok_empty args order c saved hexit
    exact ⟨hsettled c' hc' hempty, hempty⟩

/-- A history with a flush that the transport refuses half-way. -/
def partialFlushRun : List Wakeup :=
  [.recv (.setKeycode 0 0 0 5) .sorted 1 1, .recv (.setKeycode 0 0 1 6) .sorted 2 2,
    .recv .flush .sorted 3 4, .recv (.getKeycode 0 0 0) .sorted 5 5,
    .recv (.getKeycode 0 0 1) .sorted 6 6]

/-- Both keys still read as they were set, one from the device and one from the
buffer. -/
theorem coalescer_refines_unbuffered_partial_flush :
    ∃ c : Coalescer MockTransport,
      run (Coalescer.step ⟨100, "hidraw0", true⟩)
        (Coalescer.spawn (MockTransport.empty (some (0, 0, 1))) 0) partialFlushRun = some c ∧
      c.served = [(.setKeycode 0 0 0 5, .done (.ok ())), (.setKeycode 0 0 1 6, .done (.ok ())),
        (.flush, .done (.error .disconnected)), (.getKeycode 0 0 0, .keycode (.ok 5))] ++
        (.getKeycode 0 0 1, .keycode (.ok 6)) :: [] ∧
      (6 : UInt16) = keymapAfter (MockTransport.empty none).keycode
        [.setKeycode 0 0 0 5, .setKeycode 0 0 1 6, .flush, .getKeycode 0 0 0] (0, 0, 1) := by
  refine Exists.imp ?_ (⟨_, rfl, rfl⟩ : ∃ c : Coalescer MockTransport,
      run (Coalescer.step ⟨100, "hidraw0", true⟩)
        (Coalescer.spawn (MockTransport.empty (some (0, 0, 1))) 0) partialFlushRun = some c ∧
      c.served = [(.setKeycode 0 0 0 5, .done (.ok ())), (.setKeycode 0 0 1 6, .done (.ok ())),
        (.flush, .done (.error .disconnected)), (.getKeycode 0 0 0, .keycode (.ok 5))] ++
        (.getKeycode 0 0 1, .keycode (.ok 6)) :: [])
  rintro c ⟨hrun, hserved⟩
  have hgets := (coalescer_refines_unbuffered MockTransport.keymapStore
    MockTransport.keymapStore _ .sorted (MockTransport.empty (some (0, 0, 1)))
    (MockTransport.empty none) rfl 0 _ c hrun).1
  exact ⟨hrun, hserved, (hgets _ 0 0 1 6 [] hserved).1⟩

end Refinement

end Clackd.Hal.Via
