import Clackd.Foundation.Trace
import Clackd.Hal.Legacy.Transaction
import Clackd.Hal.Via.Transport

/-!
# The feature-report transport

`Gmk67Transport` issues each feature ioctl on a blocking task and awaits the task under a
deadline.  A node is what it needs of the file descriptor: how the awaiting of each ioctl
ends.

A frame of a transaction that fails is followed by the abort frame and by nothing else, so
of the failed frames of an operation the first one is its own, and any other was an abort.

## Main results

* `blames_render`, `blames_push`: transactions fail with what their first failed frame
  stands for.
* `firstBlamed_set_lighting`, `firstBlamed_commit`: and so do the operations that make
  them.
-/

namespace Clackd.Hal.Legacy

open Clackd.Foundation Clackd.Hal
open Clackd.Hal.Via (ErrorKind IoError.kind)

/-- The typed error for an `errno` of `open`. -/
def classify_open_errno (errno : Nat) (path : String) : DriverError :=
  if errno = EACCES ∨ errno = EPERM then .permissionDenied path
  else if errno = ENODEV ∨ errno = ENOENT then .disconnected
  else .io (.os errno)

/-- The typed error for an error of an ioctl. -/
def classify_io_error (e : IoError) : DriverError :=
  match IoError.kind e with
  | .permissionDenied => .permissionDenied ""
  | .notFound => .disconnected
  | .brokenPipe => .disconnected
  | .otherKind => .io e

def io_from_errno (errno : Nat) : IoError := .os errno

/-- How awaiting an ioctl on a blocking task under a deadline ends. -/
inductive Joined (α : Type) where
  /-- The ioctl is over; an error is its `errno`. -/
  | finished (result : Except Nat α)
  /-- The task has panicked. -/
  | panicked
  /-- The deadline has passed.  The ioctl goes on, and may still fail. -/
  | elapsed (errno : Option Nat)

/-- The failure of an ioctl. -/
def Joined.failure {α : Type} : Joined α → List Failure
  | .finished (.ok _) => []
  | .finished (.error errno) => [⟨some errno, true⟩]
  | .panicked => [⟨none, true⟩]
  | .elapsed errno => [⟨errno, false⟩]

/-- A hidraw node with feature reports. -/
class FeatureNode (F : Type) where
  hidiocsfeature (timeout : Nat) (buf : List UInt8) : F → Joined Unit × F
  /-- The report, without its id. -/
  hidiocgfeature (timeout : Nat) (report_id : UInt8) : F → Joined FeatureFrame × F

/-- The ioctls that set a report are recorded.  Those that get one are, in an operation, the
paced reads, whose result is ignored. -/
instance {F : Type} [FeatureNode F] : FeatureNode (Recorded F) where
  hidiocsfeature timeout buf r :=
    let j := FeatureNode.hidiocsfeature timeout buf r.node
    (j.1, ⟨j.2, r.failed ++ j.1.failure⟩)
  hidiocgfeature timeout report_id r :=
    let j := FeatureNode.hidiocgfeature timeout report_id r.node
    (j.1, ⟨j.2, r.failed⟩)

/-- Hidraw feature-report transport. -/
structure Gmk67Transport (F : Type) where
  fd : F
  device_id : String
  timeout : Nat

/-- Flattens the timeout, join-error and ioctl-error layers into a single error. -/
def join_with_timeout {α : Type} (joined : Joined α) (device_id op : String) :
    Except DriverError α :=
  match joined with
  | .elapsed _ => .error (.timeout device_id op)
  | .panicked => .error (.io (.other "feature ioctl task panicked"))
  | .finished (.error errno) => .error (classify_io_error (io_from_errno errno))
  | .finished (.ok v) => .ok v

instance {F : Type} [FeatureNode F] : Gmk67Io (Gmk67Transport F) where
  set_feature payload := primitive fun t =>
    let j := FeatureNode.hidiocsfeature t.timeout (REPORT_ID :: payload.toList) t.fd
    (join_with_timeout j.1 t.device_id "set_feature", { t with fd := j.2 })
  get_feature report_id := primitive fun t =>
    let j := FeatureNode.hidiocgfeature t.timeout report_id t.fd
    (join_with_timeout j.1 t.device_id "get_feature", { t with fd := j.2 })

/-! ## Transactions on a node that fails -/

/-- The failed frames on record. -/
def Gmk67Transport.failures {F : Type} (t : Gmk67Transport (Recorded F)) : List Failure :=
  t.fd.failed

section Failing

variable {F : Type} [FeatureNode F]

/-- The program fails exactly if a frame does, with what the first failed frame stands
for. -/
abbrev BlamesFailure {α : Type} (x : DriverM (Gmk67Transport (Recorded F)) α) : Prop :=
  Blames Gmk67Transport.failures (Failure.StandsFor classify_io_error) x

omit [FeatureNode F] in
/-- What is made of an awaited ioctl, and what goes on record. -/
theorem join_blames {α : Type} (joined : Joined α) (device_id op : String) :
    ((∃ a, join_with_timeout joined device_id op = .ok a) ∧ joined.failure = []) ∨
      ∃ f rest e, joined.failure = f :: rest ∧ join_with_timeout joined device_id op = .error e ∧
        f.StandsFor classify_io_error e := by
  cases joined with
  | finished result =>
      cases result with
      | ok v => exact .inl ⟨⟨v, rfl⟩, rfl⟩
      | error errno => exact .inr ⟨_, [], _, rfl, rfl, fun _ _ h => by cases h; rfl, nofun⟩
  | panicked => exact .inr ⟨_, [], _, rfl, rfl, nofun, nofun⟩
  | elapsed errno => exact .inr ⟨_, [], _, rfl, rfl, nofun, fun _ => ⟨device_id, op, rfl⟩⟩

theorem blames_set_feature (frame : FeatureFrame) :
    BlamesFailure (F := F) (Gmk67Io.set_feature frame) := by
  intro t
  exact ⟨_, rfl, join_blames _ t.device_id "set_feature"⟩

theorem blames_read_ack : BlamesFailure (F := F) read_ack := by
  intro t
  exact ⟨[], (List.append_nil _).symm, .inl ⟨⟨(), rfl⟩, rfl⟩⟩

theorem blames_transact (frames : List FeatureFrame) :
    BlamesFailure (F := F) (transact frames) := by
  induction frames with
  | nil => exact .pure ()
  | cons frame frames ih =>
      cases frames with
      | nil => exact blames_set_feature frame
      | cons next frames =>
          exact (blames_set_feature frame).bind fun _ => blames_read_ack.bind fun _ => ih

/-- A failed frame may be followed by a failed abort frame. -/
theorem blames_with_abort {x : DriverM (Gmk67Transport (Recorded F)) Unit}
    (hx : BlamesFailure x) : BlamesFailure (with_abort x) := by
  intro t
  obtain ⟨ws, hlog, ⟨⟨_, hok⟩, rfl⟩ | ⟨f, rest, e, rfl, herror, hstands⟩⟩ := hx t
  · have hexec : exec x t = (.ok (), (exec x t).2) := Prod.ext hok rfl
    rw [exec_with_abort_of_ok hexec]
    exact ⟨[], hlog, .inl ⟨⟨(), rfl⟩, rfl⟩⟩
  · have hexec : exec x t = (.error e, (exec x t).2) := Prod.ext herror rfl
    rw [exec_with_abort_of_error hexec]
    obtain ⟨more, habort, -⟩ := blames_set_feature (encode_cmd CMD_COMMUNICATION_END) (exec x t).2
    refine ⟨(f :: rest) ++ more, ?_, .inr ⟨f, rest ++ more, e, rfl, rfl, hstands⟩⟩
    rw [← List.append_assoc, ← hlog]
    exact habort

theorem blames_render (lighting : Lighting) : BlamesFailure (F := F) (render_effect lighting) :=
  blames_with_abort (blames_transact (render_frames lighting))

theorem blames_push (shadow : ShadowState) (layers : List UInt8) :
    BlamesFailure (F := F) (push_dirty_layers shadow layers) := by
  induction layers with
  | nil => exact .pure ()
  | cons layer layers ih =>
      rw [push_dirty_layers]
      cases keydef_command layer with
      | none => exact ih
      | some command =>
          show BlamesFailure (if (keydef_entries shadow layer).isEmpty = true then _ else _)
          by_cases hempty : (keydef_entries shadow layer).isEmpty = true
          · rw [if_pos hempty]
            exact ih
          · rw [if_neg hempty]
            refine .bind (blames_with_abort ?_) fun _ => ih
            rw [commit_keymap_frames_eq]
            exact blames_transact _

/-! ## Operations -/

variable {Text : Type} [SerdeJson Text]

/-- What the first failed frame of an operation stands for is its result. -/
def FirstBlamed {α : Type} (x : DriverM (Gmk67Driver (Gmk67Transport (Recorded F)) Text) α) : Prop :=
  Appends (fun d => d.io.failures) x fun r ws =>
    ∀ f ∈ ws.take 1, ∃ err, r = .error err ∧ f.StandsFor classify_io_error err

omit [FeatureNode F] [SerdeJson Text] in
/-- An operation that sends no frame. -/
theorem FirstBlamed.of_kept {α : Type}
    {x : DriverM (Gmk67Driver (Gmk67Transport (Recorded F)) Text) α}
    (hio : ∀ d, (exec x d).2.io = d.io) : FirstBlamed x := by
  intro d
  refine ⟨[], ?_, nofun⟩
  rw [List.append_nil]
  exact congrArg Gmk67Transport.failures (hio d)

omit [FeatureNode F] [SerdeJson Text] in
/-- An operation that ends as its transactions do. -/
theorem firstBlamed_of_blames {α : Type} {x : DriverM (Gmk67Transport (Recorded F)) Unit}
    (hx : BlamesFailure x) {d d' : Gmk67Driver (Gmk67Transport (Recorded F)) Text}
    {r : Except DriverError α} (hio : d'.io = (exec x d.io).2)
    (herror : ∀ err, (exec x d.io).1 = .error err → r = .error err) :
    ∃ ws, d'.io.failures = d.io.failures ++ ws ∧
      ∀ f ∈ ws.take 1, ∃ err, r = .error err ∧ f.StandsFor classify_io_error err := by
  obtain ⟨ws, hlog, hends⟩ := hx d.io
  refine ⟨ws, by rw [hio, hlog], ?_⟩
  intro f hf
  rcases hends with ⟨-, rfl⟩ | ⟨g, rest, err, rfl, hr, hstands⟩
  · cases hf
  · obtain rfl := List.mem_singleton.1 hf
    exact ⟨err, herror err hr, hstands⟩

theorem firstBlamed_set_lighting (channel value_id : UInt8) (data : List UInt8) :
    FirstBlamed (Gmk67Driver.set_lighting channel value_id data :
      DriverM (Gmk67Driver (Gmk67Transport (Recorded F)) Text) Unit) := by
  intro d
  cases hrequest : Gmk67Driver.requested_lighting d.lighting channel value_id data with
  | error e =>
      rw [Gmk67Driver.set_lighting_invalid hrequest]
      exact ⟨[], (List.append_nil _).symm, nofun⟩
  | ok lighting =>
      rcases hrender : exec (render_effect lighting) d.io with ⟨e | _, io⟩
      · rw [Gmk67Driver.set_lighting_refused hrequest hrender]
        refine firstBlamed_of_blames (blames_render lighting) (by rw [hrender]) ?_
        intro err herr
        rw [← herr, hrender]
      · rw [Gmk67Driver.set_lighting_rendered hrequest hrender]
        refine firstBlamed_of_blames (blames_render lighting) (by rw [hrender]) ?_
        intro err herr
        rw [← herr, hrender]

theorem firstBlamed_commit :
    FirstBlamed (Gmk67Driver.commit_to_nvram :
      DriverM (Gmk67Driver (Gmk67Transport (Recorded F)) Text) Unit) := by
  intro d
  cases hdirty : d.shadow.is_dirty with
  | false =>
      rw [Gmk67Driver.commit_of_clean hdirty]
      exact ⟨[], (List.append_nil _).symm, nofun⟩
  | true =>
      have hblames := blames_push (F := F) d.shadow.prepare_commit d.shadow.dirty_layers
      rcases hpush : d.push with ⟨e | _, io⟩
      · rw [Gmk67Driver.commit_of_refused hdirty hpush]
        refine firstBlamed_of_blames hblames (congrArg Prod.snd hpush).symm ?_
        intro err herr
        rw [← herr]
        exact (congrArg Prod.fst hpush).symm
      · rw [Gmk67Driver.commit_of_pushed hdirty hpush]
        refine firstBlamed_of_blames hblames (congrArg Prod.snd hpush).symm ?_
        intro err herr
        rw [← herr]
        exact (congrArg Prod.fst hpush).symm

end Failing

end Clackd.Hal.Legacy
