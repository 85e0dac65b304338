import Clackd.Hal.Via.Refinement
import Clackd.Hal.Via.Writes

/-!
# What the actor still holds

The actor holds the keycodes in its buffer and the lighting of its touched
channels.  Each arm of the loop is looked at for whether something is held
afterwards, given that what it asks of the transport goes through.

## Main results

* `answer_flush`, `shutdown_empty`: a commit and the end of the actor leave nothing.
* `answer_setKeycode`, `answer_setLighting`: what an edit leaves.
-/

namespace Clackd.Hal.Via

open Clackd.Foundation Clackd.Hal
open Std (ExtTreeSet)

variable {T : Type} [CoalescerTransport T]

/-- A save loop that succeeds takes its channels out of the set, and no other. -/
theorem save_channels_ok (pending : List UInt8) (t : T) (s : ChannelSet)
    (hok : (exec (save_channels pending) (t, s)).1 = .ok ()) (channel : UInt8) :
    channel ∈ (exec (save_channels pending) (t, s)).2.2 ↔ channel ∈ s ∧ channel ∉ pending := by
  induction pending, t, s using save_channels_induct with
  | nil t s =>
      show channel ∈ s ↔ channel ∈ s ∧ channel ∉ []
      simp
  | saved first pending t s t' hsave ih =>
      rw [exec_save_channels_ok hsave] at hok ⊢
      rw [ih hok, mem_erase_iff, List.mem_cons, not_or]
      constructor
      · rintro ⟨⟨hne, hmem⟩, hpending⟩
        exact ⟨hmem, Ne.symm hne, hpending⟩
      · rintro ⟨hmem, hne, hpending⟩
        exact ⟨⟨Ne.symm hne, hmem⟩, hpending⟩
  | refused first pending t s e t' hsave =>
      rw [exec_save_channels_error hsave] at hok
      cases hok

namespace Coalescer

variable {args : CoalescerArgs} {order : HashOrder} {c : Coalescer T}

/-- A save that succeeds leaves no channel touched. -/
theorem save_ok_empty (hok : (save order c).1 = .ok ()) :
    (save order c).2.touched_channels.isEmpty = true := by
  rw [isEmpty_iff_not_mem]
  intro channel hmem
  have hleft := (save_channels_ok (order.channels c.touched_channels.toList) c.transport
    c.touched_channels hok channel).1 hmem
  apply hleft.2
  rw [(order.channels_perm c.touched_channels.toList).mem_iff]
  simpa using hleft.1

/-- A keycode edit is buffered. -/
theorem answer_setKeycode (args : CoalescerArgs) (turn : Turn) (layer row col : UInt8)
    (keycode : UInt16) (c : Coalescer T) :
    (c.answer args turn (.setKeycode layer row col keycode)).1 = .done (.ok ()) ∧
      (c.answer args turn (.setKeycode layer row col keycode)).2.buffer.isEmpty = false ∧
      (c.answer args turn (.setKeycode layer row col keycode)).2.touched_channels =
        c.touched_channels :=
  ⟨rfl, Watched.insert_isEmpty c.buffer (layer, row, col) keycode, rfl⟩

/-- A commit that succeeds leaves nothing. -/
theorem answer_flush {turn : Turn} (hok : (commit args turn.order c).1 = .ok ()) :
    (c.answer args turn .flush).2.buffer.isEmpty = true ∧
      (c.answer args turn .flush).2.touched_channels.isEmpty = true := by
  refine ⟨commit_ok_empty args turn.order c hok, ?_⟩
  show (commit args turn.order c).2.touched_channels.isEmpty = true
  rcases hflush : flush turn.order c with ⟨_ | _, m⟩
  · rw [commit_of_error hflush] at hok
    cases hok
  · rw [commit_of_ok hflush] at hok ⊢
    exact save_ok_empty hok

/-- A lighting edit that succeeds touches its channel. -/
theorem answer_setLighting (args : CoalescerArgs) (turn : Turn) (channel value_id : UInt8)
    (data : List UInt8) (c : Coalescer T) :
    (c.answer args turn (.setLighting channel value_id data)).1 =
        .done (setLighting channel value_id data c).1 ∧
      (c.answer args turn (.setLighting channel value_id data)).2.buffer = c.buffer ∧
      (c.answer args turn (.setLighting channel value_id data)).2.touched_channels =
        if (setLighting channel value_id data c).1.isOk then c.touched_channels.insert channel
        else c.touched_channels := by
  refine ⟨rfl, (serve_frame args turn.order c turn.now _ (by simp) (by simp)).1, ?_⟩
  show (setLighting channel value_id data c).2.touched_channels = _
  rcases hset : onTransport (CoalescerTransport.set_lighting channel value_id data) c
    with ⟨_ | _, m⟩
  · have hkept : m.touched_channels = c.touched_channels :=
      congrArg (fun r => r.2.touched_channels) hset.symm
    rw [setLighting_of_error hset]
    exact hkept
  · have hkept : m.touched_channels = c.touched_channels :=
      congrArg (fun r => r.2.touched_channels) hset.symm
    rw [setLighting_of_ok hset, hkept]
    rfl

/-- Other operations leave the buffer and the channels as they are. -/
theorem answer_other (args : CoalescerArgs) (turn : Turn) {op : CoalescerOp} (c : Coalescer T)
    (hset : ∀ layer row col kc, op ≠ .setKeycode layer row col kc) (hflush : op ≠ .flush)
    (hlight : ∀ channel value_id data, op ≠ .setLighting channel value_id data) :
    (c.answer args turn op).2.buffer = c.buffer ∧
      (c.answer args turn op).2.touched_channels = c.touched_channels := by
  refine ⟨(serve_frame args turn.order c turn.now op hset hflush).1, ?_⟩
  cases op with
  | setKeycode layer row col kc => exact absurd rfl (hset layer row col kc)
  | flush => exact absurd rfl hflush
  | setLighting channel value_id data => exact absurd rfl (hlight channel value_id data)
  | getKeycode layer row col =>
      show (getKeycode layer row col c).2.touched_channels = _
      cases hslot : c.buffer[(layer, row, col)]? with
      | some kc => rw [getKeycode_pending hslot]
      | none =>
          rw [getKeycode_stored hslot]
          rfl
  | _ => rfl

/-- An automatic flush that succeeds leaves no keycode, and the channels. -/
theorem autoFlush_empty (args : CoalescerArgs) (finish : Nat) (hok : (flush order c).1 = .ok ()) :
    (autoFlush args order finish c).buffer.isEmpty = true ∧
      (autoFlush args order finish c).touched_channels = c.touched_channels := by
  rcases hflush : flush order c with ⟨_ | _, m⟩
  · rw [hflush] at hok
    cases hok
  · have hkept : m.touched_channels = c.touched_channels :=
      congrArg (fun r => r.2.touched_channels) hflush.symm
    obtain ⟨emitted, hemit⟩ := emit_layout_updated_eq args m
    rw [autoFlush_of_ok hflush, hemit]
    refine ⟨?_, hkept⟩
    show m.buffer.isEmpty = true
    exact flush_of_ok hflush

/-- An actor whose final writes succeed leaves nothing. -/
theorem shutdown_empty (hflush : (finalFlush args order c).1 = .ok ())
    (hsave : (finalSave order (finalFlush args order c).2).1 = .ok ()) :
    (shutdown args order c).buffer.isEmpty = true ∧
      (shutdown args order c).touched_channels.isEmpty = true := by
  constructor
  · exact shutdown_ok_empty args order c _ (congrArg (fun r => some (r, _)) hflush)
  · show (finalSave order (finalFlush args order c).2).2.touched_channels.isEmpty = true
    rw [finalSave] at hsave ⊢
    split
    · assumption
    · rename_i htouched
      rw [if_neg htouched] at hsave
      exact save_ok_empty hsave

end Coalescer

end Clackd.Hal.Via
