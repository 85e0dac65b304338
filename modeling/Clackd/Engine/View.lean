import Clackd.Engine.SliceMoves

/-!
# What the record shows of one device

Every entry of the record is about one device, if any: a reply is about the device
whose request it answers, a driver call about the device of the worker that makes
it.  The entries about a device, in the numbers of its part, are its view of the
run.

The numbers are those of a later state throughout, so that the view of a longer
record extends the view of a shorter one.

## Main results

* `Updates`: the supervisor's part in a step, as updates of one device.
* `Updates.hidden`: updates of another device are not seen.
* `Updates.rooted`, `Updates.owned`: what updates keep.
-/

namespace Clackd.Hal

/-- The device an event is about. -/
def LifecycleEvent.device : LifecycleEvent → String
  | .deviceAdded device_id => device_id
  | .deviceRemoved device_id => device_id
  | .layoutUpdated device_id => device_id

end Clackd.Hal

namespace Clackd.Engine

open Clackd.Foundation Clackd.Hal

/-- Every operation a worker has belongs to its device. -/
structure Worker.Owned {D : Type} (owner : ReplyId → Option String) (x : Worker D) : Prop where
  queued : ∀ op ∈ x.rx, owner op.reply = some x.device_id
  running : ∀ op, x.phase = .running (.op op) → owner op.reply = some x.device_id

namespace Supervisor

variable {D : Type}

/-- The device of a worker. -/
def served (e : Supervisor D) (w : WorkerId) : Option String := e.workers[w]?.map Worker.device_id

/-- The device of a task. -/
def tried (e : Supervisor D) (k : TaskId) : Option String :=
  e.tasks[k]?.map ReconnectTask.device_id

theorem serves_iff {e : Supervisor D} {w : WorkerId} {id : String} :
    e.Serves w id ↔ e.served w = some id := by
  rw [served, Option.map_eq_some_iff]
  rfl

section View

variable (owner : ReplyId → Option String) (f : Supervisor D)

/-- The device an entry of the record is about. -/
def about : Effect → Option String
  | .handled envelope => envelope.cmd.device
  | .attached device_id _ => some device_id
  | .detached device_id _ => some device_id
  | .started device_id _ => some device_id
  | .accepted device_id _ => some device_id
  | .lifecycle event => some event.device
  | .replied reply _ => owner reply
  | .began w _ => f.served w
  | .called w _ _ => f.served w
  | .woke w _ => f.served w

/-- The entries about a device, in the numbers of its part. -/
def view (b : String) (log : List Effect) : List Effect :=
  (log.filter fun x => f.about owner x = some b).map (f.names b).effect

/-- The part of a device, with its view of the record. -/
def part (b : String) (e : Supervisor D) : Supervisor D := e.only b (f.view owner b e.log)

variable {owner f} {b : String}

theorem view_append (log more : List Effect) :
    f.view owner b (log ++ more) = f.view owner b log ++ f.view owner b more := by
  rw [view, List.filter_append, List.map_append]
  rfl

theorem view_of_about {effects : List Effect} (h : ∀ x ∈ effects, f.about owner x = some b) :
    f.view owner b effects = effects.map (f.names b).effect := by
  rw [view, List.filter_eq_self.2]
  intro x hx
  simpa using h x hx

/-- A longer record, about the device. -/
theorem view_append_of_about (log : List Effect) {more : List Effect}
    (h : ∀ x ∈ more, f.about owner x = some b) :
    f.view owner b (log ++ more) = f.view owner b log ++ more.map (f.names b).effect := by
  rw [view_append, view_of_about h]

theorem view_of_not_about {effects : List Effect} (h : ∀ x ∈ effects, f.about owner x ≠ some b) :
    f.view owner b effects = [] := by
  rw [view, List.filter_eq_nil_iff.2, List.map_nil]
  intro x hx
  simpa using h x hx

end View

/-! ## Updates of one device -/

section Updates

variable {owner : ReplyId → Option String} {f : Supervisor D}

variable (owner f) in
/-- An update of a device, or of none. -/
inductive Update (e : Supervisor D) : Option String → Supervisor D → Prop
  | emit {id : Option String} (effects : List Effect)
      (h : ∀ x ∈ effects, f.about owner x = id) : Update e id (e.emit effects)
  | cancel (id : String) : Update e (some id) (e.cancel id)
  | detach (id : String) (handle : DeviceHandle) : Update e (some id) (e.detach id handle)
  | attach (id : String) (handle : DeviceHandle) (h : e.Serves handle.tx id) :
      Update e (some id) (e.attach id handle)
  | setWorker (w : WorkerId) (x x' : Worker D) (hx : e.workers[w]? = some x)
      (hdevice : x'.device_id = x.device_id) (howned : x.Owned owner → x'.Owned owner) :
      Update e (some x.device_id) { e with workers := e.workers.set w x' }
  | spawnWorker (id : String) (driver : D) : Update e (some id) (e.spawnWorker id driver)
  | start (turn : Turn) (ctx : ReconnectCtx) :
      Update e (some ctx.device_id) (e.start_reconnect_backoff turn ctx)
  | setTask (k : TaskId) (t t' : ReconnectTask) (ht : e.tasks[k]? = some t)
      (hctx : t'.ctx = t.ctx)
      (hsending : ∀ handle, t'.phase = .sending handle → e.Serves handle.tx t.ctx.device_id) :
      Update e (some t.ctx.device_id) (e.setTask k t')

variable (owner f) in
/-- Some updates of a device, one after another. -/
def Updates (id : Option String) : Supervisor D → Supervisor D → Prop :=
  Relation.ReflTransGen fun e e' => Update owner f e id e'

theorem Update.extends {id : Option String} {e e' : Supervisor D} (h : Update owner f e id e') :
    Extends e e' := by
  cases h with
  | emit effects h => exact Extends.of_eq rfl rfl
  | cancel id => exact Extends.of_eq rfl rfl
  | detach id handle => exact Extends.of_eq rfl rfl
  | attach id handle h => exact Extends.of_eq rfl rfl
  | setWorker w x x' hx hdevice howned => exact extends_setWorker hx hdevice
  | spawnWorker id driver => exact extends_spawnWorker id driver e
  | start turn ctx => exact extends_start turn ctx e
  | setTask k t t' ht hctx hsending => exact extends_setTask ht hctx

theorem Updates.extends {id : Option String} {e e' : Supervisor D} (h : Updates owner f id e e') :
    Extends e e' := by
  induction h with
  | refl => exact Extends.of_eq rfl rfl
  | tail _ hlast ih => exact ih.trans hlast.extends

theorem Extends.tasks_length_le {e e' : Supervisor D} (h : Extends e e') :
    e.tasks.length ≤ e'.tasks.length := by
  obtain ⟨more, hmore⟩ := h.tasks
  have hlength := congrArg List.length hmore
  rw [List.length_map, List.length_append, List.length_map] at hlength
  omega

theorem Update.rooted {id : Option String} {e e' : Supervisor D} (h : Update owner f e id e')
    (hr : e.Rooted) (hbound : e'.tasks.length < 2 ^ 64) : e'.Rooted := by
  cases h with
  | emit effects h => exact rooted_emit hr effects
  | cancel id => exact rooted_cancel hr id
  | detach id handle => exact rooted_detach hr id handle
  | attach id handle h => exact rooted_attach hr h
  | setWorker w x x' hx hdevice howned => exact rooted_setWorker hr hx hdevice
  | spawnWorker id driver => exact rooted_spawnWorker hr id driver
  | start turn ctx =>
      refine rooted_start hr ?_ turn ctx
      simpa [start_reconnect_backoff] using hbound
  | setTask k t t' ht hctx hsending => exact rooted_setTask hr ht hctx hsending

/-- What belongs together still does, as long as there are not too many tasks. -/
theorem Updates.rooted {id : Option String} {e e' : Supervisor D} (h : Updates owner f id e e')
    (hr : e.Rooted) (hbound : e'.tasks.length < 2 ^ 64) : e'.Rooted := by
  induction h with
  | refl => exact hr
  | tail _ hlast ih =>
      have hle := hlast.extends.tasks_length_le
      exact hlast.rooted (ih (by omega)) hbound

/-- Every operation of every worker belongs to its device. -/
def Owned (owner : ReplyId → Option String) (e : Supervisor D) : Prop :=
  ∀ (w : WorkerId) (x : Worker D), e.workers[w]? = some x → x.Owned owner

theorem Update.owned {id : Option String} {e e' : Supervisor D} (h : Update owner f e id e')
    (howned : e.Owned owner) : e'.Owned owner := by
  cases h with
  | setWorker w x x' hx hdevice hkept =>
      intro v y hy
      change (e.workers.set w x')[v]? = some y at hy
      rw [List.getElem?_set] at hy
      split at hy
      · split at hy
        · cases hy
          exact hkept (howned w x hx)
        · cases hy
      · exact howned v y hy
  | spawnWorker id driver =>
      intro v y hy
      change (e.workers ++ [Worker.spawn id driver])[v]? = some y at hy
      rw [List.getElem?_append] at hy
      split at hy
      · exact howned v y hy
      · rw [List.getElem?_singleton] at hy
        split at hy
        · cases hy
          exact ⟨fun _ h => absurd h List.not_mem_nil, nofun⟩
        · cases hy
  | emit effects h => exact howned
  | cancel id => exact howned
  | detach id handle => exact howned
  | attach id handle h => exact howned
  | start turn ctx => exact howned
  | setTask k t t' ht hctx hsending => exact howned

theorem Updates.owned {id : Option String} {e e' : Supervisor D} (h : Updates owner f id e e')
    (howned : e.Owned owner) : e'.Owned owner := by
  induction h with
  | refl => exact howned
  | tail _ hlast ih => exact hlast.owned ih

/-! ## Updates of another device -/

variable {b : String} {id : Option String}

theorem Update.unseen {e e' : Supervisor D} (h : Update owner f e id e') (hid : id ≠ some b) :
    Unseen b e e' := by
  have hne : ∀ id' : String, id = some id' → id' ≠ b := by
    intro id' h heq
    exact hid (by rw [h, heq])
  cases h with
  | emit effects h => exact unseen_emit b effects e
  | cancel id => exact unseen_cancel (hne id rfl) e
  | detach id handle => exact unseen_detach (hne id rfl) handle e
  | attach id handle h => exact unseen_attach (hne id rfl) handle e
  | setWorker w x x' hx hdevice howned =>
      exact unseen_setWorker (hne x.device_id rfl) hx rfl hdevice
  | spawnWorker id driver => exact unseen_spawnWorker (hne id rfl) driver e
  | start turn ctx => exact unseen_start (hne ctx.device_id rfl) turn rfl e
  | setTask k t t' ht hctx hsending =>
      exact unseen_setTask (hne t.ctx.device_id rfl) ht rfl hctx

theorem Update.view {e e' : Supervisor D} (h : Update owner f e id e') (hid : id ≠ some b) :
    f.view owner b e'.log = f.view owner b e.log := by
  -- What an update records is about its device.
  have hother : ∀ {effects : List Effect}, (∀ x ∈ effects, f.about owner x = id) →
      f.view owner b (e.log ++ effects) = f.view owner b e.log := by
    intro effects h
    have hnone : f.view owner b effects = [] := by
      apply view_of_not_about
      intro x hx
      rw [h x hx]
      exact hid
    rw [view_append, hnone, List.append_nil]
  cases h with
  | emit effects h => exact hother h
  | detach id handle => exact hother (by simp [about])
  | attach id handle h => exact hother (by simp [about, LifecycleEvent.device])
  | start turn ctx => exact hother (by simp [about])
  | cancel id => rfl
  | setWorker w x x' hx hdevice howned => rfl
  | spawnWorker id driver => rfl
  | setTask k t t' ht hctx hsending => rfl

/-- Updates of another device leave the part of a device as it is. -/
theorem Updates.part {e e' : Supervisor D} (h : Updates owner f id e e') (hr : e.Rooted)
    (hid : id ≠ some b) : f.part owner b e' = f.part owner b e := by
  have hboth : Unseen b e e' ∧ f.view owner b e'.log = f.view owner b e.log := by
    induction h with
    | refl => exact ⟨Unseen.refl e, rfl⟩
    | tail _ hlast ih =>
        exact ⟨ih.1.trans (hlast.unseen hid), (hlast.view hid).trans ih.2⟩
  rw [Supervisor.part, hboth.2, only_of_unseen hr hboth.1]
  rfl

end Updates

end Supervisor

end Clackd.Engine
