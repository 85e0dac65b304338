import Clackd.Foundation.Trace
import Clackd.Hal.Via.Driver
import Clackd.Hal.Via.Transport

/-!
# The direct driver on a node that fails

A `read` or a `write` that fails ends the operation that it is issued for: every method is a
sequence of round trips, and none of them is caught.

## Main results

* `classify_agrees_iff`: where the classes of `open` and of `read` and `write` agree.
* `serve_stops`: a call that fails is the result of the operation.
-/

namespace Clackd.Hal.Via

open Clackd.Foundation Clackd.Hal
open Std (ExtTreeMap ExtTreeSet)

/-! ## The two classifications -/

/-- The two disagree about a device that is gone: `open` says so of `ENODEV` and not of
`EPIPE`, `read` and `write` the other way round. -/
theorem classify_agrees_iff (errno : Nat) (path : String) :
    (classify_io_error (io_from_errno errno)).pathless =
        (classify_open_errno errno path).pathless ↔
      errno ≠ ENODEV ∧ errno ≠ EPIPE := by
  by_cases hdenied : errno = EACCES ∨ errno = EPERM
  · rcases hdenied with rfl | rfl
    · exact ⟨fun _ => by decide, fun _ => rfl⟩
    · exact ⟨fun _ => by decide, fun _ => rfl⟩
  by_cases hgone : errno = ENODEV ∨ errno = ENOENT ∨ errno = EPIPE
  · rcases hgone with rfl | rfl | rfl
    · simp [classify_open_errno, classify_io_error, io_from_errno, IoError.kind,
        DriverError.pathless, ENODEV, EACCES, EPERM]
    · simp [classify_open_errno, classify_io_error, io_from_errno, IoError.kind,
        DriverError.pathless, ENODEV, EACCES, EPERM, ENOENT, EPIPE]
    · simp [classify_open_errno, classify_io_error, io_from_errno, IoError.kind,
        DriverError.pathless, ENODEV, EACCES, EPERM, ENOENT, EPIPE]
  · obtain ⟨hnodev, hrest⟩ := not_or.1 hgone
    obtain ⟨hnoent, hpipe⟩ := not_or.1 hrest
    have hio : classify_io_error (io_from_errno errno) = .io (.os errno) := by
      have hkind : IoError.kind (.os errno) = .otherKind := by
        rw [IoError.kind, if_neg fun h => hdenied h.symm, if_neg (show ¬ errno = 2 from hnoent),
          if_neg (show ¬ errno = 32 from hpipe)]
      rw [io_from_errno, classify_io_error, hkind]
    have hopen : classify_open_errno errno path = .io (.os errno) := by
      rw [classify_open_errno, if_neg hdenied, if_neg fun h => h.elim hnodev hnoent]
    rw [hio, hopen]
    exact ⟨fun _ => ⟨hnodev, hpipe⟩, fun _ => rfl⟩

/-! ## What goes on record -/

/-- The failure of a call that was waited for. -/
def Polled.failure {α : Type} : Polled α → List Failure
  | .ready (.error (.os errno)) => [⟨some errno, true⟩]
  | .ready (.error (.other _)) => [⟨none, true⟩]
  | _ => []

instance {N : Type} [HidrawNode N] : HidrawNode (Recorded N) where
  now r := HidrawNode.now r.node
  write deadline buf r :=
    let w := HidrawNode.write deadline buf r.node
    (w.1, ⟨w.2, r.failed ++ w.1.failure⟩)
  read deadline r :=
    let w := HidrawNode.read deadline r.node
    (w.1, ⟨w.2, r.failed ++ w.1.failure⟩)

/-- The failures on record. -/
def ViaTransport.failures {N : Type} (t : ViaTransport (Recorded N)) : List Failure := t.node.failed

section Failing

variable {N : Type} [HidrawNode N]

/-- The program ends in the class of the first call that fails. -/
abbrev StopsAtFailure {α : Type} (x : DriverM (ViaTransport (Recorded N)) α) : Prop :=
  Stops ViaTransport.failures (Failure.StandsFor classify_io_error) x

omit [HidrawNode N] in
/-- A call, and what is made of its result. -/
theorem stops_onNode {α β : Type} {f : Recorded N → Polled α × Recorded N}
    {k : Polled α → DriverM (ViaTransport (Recorded N)) β}
    (hfailed : ∀ r, (f r).2.failed = r.failed ++ (f r).1.failure)
    (hk : ∀ p, StopsAtFailure (k p))
    (herror : ∀ e, k (.ready (.error e)) = throw (classify_io_error e)) :
    StopsAtFailure (ViaTransport.onNode f >>= k) := by
  intro t
  rw [ViaTransport.onNode, exec_bind, exec_primitive]
  dsimp only
  have hcall := hfailed t.node
  rcases hp : (f t.node).1 with ⟨e | a⟩ | _
  · rw [herror, exec_throw]
    rw [hp] at hcall
    refine ⟨_, hcall, ?_⟩
    intro g hg
    refine ⟨_, rfl, ?_⟩
    cases e with
    | os errno =>
        rw [List.mem_singleton.1 hg]
        constructor
        · intro _ _ h
          cases h
          rfl
        · intro h
          cases h
    | other message =>
        rw [List.mem_singleton.1 hg]
        constructor
        · intro _ _ h
          cases h
        · intro h
          cases h
  · obtain ⟨ws, hlog, hstands⟩ := hk (.ready (.ok a)) { t with node := (f t.node).2 }
    refine ⟨ws, ?_, hstands⟩
    rw [hlog, ViaTransport.failures, hcall, hp]
    simp [Polled.failure, ViaTransport.failures]
  · obtain ⟨ws, hlog, hstands⟩ := hk .elapsed { t with node := (f t.node).2 }
    refine ⟨ws, ?_, hstands⟩
    rw [hlog, ViaTransport.failures, hcall, hp]
    simp [Polled.failure, ViaTransport.failures]

theorem stops_write_frame (deadline : Nat) (frame : Frame) :
    StopsAtFailure (ViaTransport.write_frame (N := Recorded N) deadline frame) := by
  refine stops_onNode (fun _ => rfl) ?_ fun _ => rfl
  rintro (⟨e | n⟩ | _)
  · exact .throw _
  · dsimp only
    split
    · exact .pure _
    · exact .throw _
  · exact .pure _

theorem stops_read_frame (deadline : Nat) :
    StopsAtFailure (ViaTransport.read_frame (N := Recorded N) deadline) := by
  refine stops_onNode (fun _ => rfl) ?_ fun _ => rfl
  rintro (⟨e | bytes⟩ | _)
  · exact .throw _
  · dsimp only
    split
    · exact .pure _
    · exact .throw _
  · exact .pure _

theorem stops_roundtrip (request : Frame) (op : String) :
    StopsAtFailure (ViaTransport.roundtrip (N := Recorded N) request op) := by
  refine .bind (.of_kept fun _ => rfl) fun t => .bind (stops_write_frame _ _) fun written => ?_
  cases written with
  | none => exact .throw _
  | some _ =>
      refine .bind (stops_read_frame _) fun resp => ?_
      cases resp with
      | none => exact .throw _
      | some resp => exact .pure resp

/-- A method ends in the class of the first call that fails. -/
theorem stops_call (op : ViaOp) : StopsAtFailure (N := N) op.call :=
  ViaOp.call_built (P := fun {_} x => StopsAtFailure x) (fun a => .pure a) (fun e => .throw e)
    (fun hx hf => hx.bind hf) (.of_kept fun _ => rfl) stops_roundtrip
    (fun _ => .of_kept fun _ => rfl) op

/-! ## Operations -/

/-- The failures on record at the direct arm. -/
def ViaDirect.failures (d : ViaDirect (ViaTransport (Recorded N))) : List Failure :=
  d.transport.failures

omit [HidrawNode N] in
theorem stops_onTransport {α : Type} {x : DriverM (ViaTransport (Recorded N)) α}
    (hx : StopsAtFailure x) :
    Stops ViaDirect.failures (Failure.StandsFor classify_io_error) (ViaDirect.onTransport x) :=
  .zoom (fun _ _ => rfl) hx

theorem stops_save_channels (channels : List UInt8) :
    Stops (fun s => s.1.failures) (Failure.StandsFor classify_io_error)
      (save_channels channels : DriverM (ViaTransport (Recorded N) × ChannelSet) Unit) := by
  induction channels with
  | nil => exact .pure ()
  | cons channel channels ih =>
      refine .bind (.zoom (fun _ _ => rfl) (stops_call (.custom_save channel)).of_map) fun _ => ?_
      exact .bind (.of_kept fun _ => rfl) fun _ => ih

theorem stops_commit (order : HashOrder) :
    Stops ViaDirect.failures (Failure.StandsFor classify_io_error)
      (ViaDirect.commit_to_nvram order : DriverM (ViaDirect (ViaTransport (Recorded N))) Unit) := by
  have hsave : Stops (fun s : ViaTransport (Recorded N) × ChannelSet => s.1.failures)
      (Failure.StandsFor classify_io_error)
      (save_touched_channels order : DriverM (ViaTransport (Recorded N) × ChannelSet) Unit) :=
    .bind (.of_kept fun _ => rfl) fun _ => stops_save_channels _
  intro d
  obtain ⟨ws, hlog, hstands⟩ := hsave (d.transport, d.touched_channels)
  exact ⟨ws, hlog, hstands⟩

theorem stops_set_lighting (channel value_id : UInt8) (data : List UInt8) :
    Stops ViaDirect.failures (Failure.StandsFor classify_io_error)
      (ViaDirect.set_lighting channel value_id data :
        DriverM (ViaDirect (ViaTransport (Recorded N))) Unit) :=
  .bind (stops_onTransport (stops_call (.set_lighting channel value_id data)).of_map) fun _ =>
    .of_kept fun _ => rfl

/-- An error, as the reply to an operation. -/
def CoalescerOp.refusal (err : DriverError) : CoalescerOp → CoalescerReply
  | .getProtocolVersion => .version (.error err)
  | .getKeycode _ _ _ => .keycode (.error err)
  | .setKeycode _ _ _ _ => .done (.error err)
  | .getLayerCount => .layerCount (.error err)
  | .flush => .done (.error err)
  | .getMacro _ _ => .bytes (.error err)
  | .setMacro _ _ => .done (.error err)
  | .getLighting _ _ => .bytes (.error err)
  | .setLighting _ _ _ => .done (.error err)

/-- Whatever call of an operation fails, its class is the reply. -/
theorem serve_stops (order : HashOrder) (d : ViaDirect (ViaTransport (Recorded N)))
    (op : CoalescerOp) : ∃ ws, (d.serve order op).2.failures = d.failures ++ ws ∧
      ∀ f ∈ ws, ∃ err, (d.serve order op).1 = op.refusal err ∧
        f.StandsFor classify_io_error err := by
  -- The reply is the result of a program, in the form of the operation.
  have hreply : ∀ {α : Type} {x : DriverM (ViaDirect (ViaTransport (Recorded N))) α}
      {wrap : Except DriverError α → CoalescerReply},
      Stops ViaDirect.failures (Failure.StandsFor classify_io_error) x →
        (∀ err, wrap (.error err) = op.refusal err) →
          ∃ ws, (exec x d).2.failures = d.failures ++ ws ∧
            ∀ f ∈ ws, ∃ err, wrap (exec x d).1 = op.refusal err ∧
              f.StandsFor classify_io_error err := by
    intro α x wrap hx hwrap
    obtain ⟨ws, hlog, hstands⟩ := hx d
    refine ⟨ws, hlog, ?_⟩
    intro f hf
    obtain ⟨err, hr, herr⟩ := hstands f hf
    exact ⟨err, by rw [hr, hwrap], herr⟩
  cases op with
  | getProtocolVersion =>
      exact hreply (stops_onTransport (stops_call .get_protocol_version).of_map) fun _ => rfl
  | getKeycode layer row col =>
      exact hreply (stops_onTransport (stops_call (.get_keycode layer row col)).of_map) fun _ => rfl
  | setKeycode layer row col keycode =>
      exact hreply (stops_onTransport (stops_call (.set_keycode layer row col keycode)).of_map)
        fun _ => rfl
  | getLayerCount =>
      exact hreply (stops_onTransport (stops_call .get_layer_count).of_map) fun _ => rfl
  | flush => exact hreply (stops_commit order) fun _ => rfl
  | getMacro offset length =>
      exact hreply (stops_onTransport (stops_call (.get_macro_buffer offset length)).of_map)
        fun _ => rfl
  | setMacro offset data =>
      exact hreply (stops_onTransport (stops_call (.set_macro_buffer offset data)).of_map)
        fun _ => rfl
  | getLighting channel value_id =>
      exact hreply (stops_onTransport (stops_call (.get_lighting channel value_id)).of_map)
        fun _ => rfl
  | setLighting channel value_id data =>
      exact hreply (stops_set_lighting channel value_id data) fun _ => rfl

end Failing

end Clackd.Hal.Via
