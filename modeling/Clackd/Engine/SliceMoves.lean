import Clackd.Engine.Slice

/-!
# Updates of one device and of others

The handlers of the supervisor are built from eight updates.  Each of them, when it
concerns a device, is the same update of that device's part; when it concerns
another device, the part does not notice.

## Main results

* `only_cancel` to `only_setTask`: an update of the device is an update of its part.
* `unseen_cancel` to `unseen_setTask`: an update of another device is none.
* `rooted_cancel` to `rooted_setTask`: either keeps what belongs together together.
-/

namespace Clackd.Engine

open Clackd.Foundation Clackd.Hal
open Std (ExtTreeMap)

namespace Supervisor

variable {D : Type} {b id : String} {e : Supervisor D}

/-! ## Growth -/

theorem modify_of_getElem? {l : List (Worker D)} {w : Nat} {x : Worker D}
    (h : l[w]? = some x) (f : Worker D → Worker D) : l.modify w f = l.set w (f x) := by
  apply List.ext_getElem?
  intro j
  rw [List.getElem?_modify, List.getElem?_set]
  split
  · rename_i hj
    subst hj
    obtain ⟨hlt, heq⟩ := List.getElem?_eq_some_iff.1 h
    simp [hlt, heq]
  · simp

theorem push_of_serves {w : WorkerId} {x : Worker D} (hx : e.workers[w]? = some x)
    (op : WorkerOp) :
    e.push w op = { e with workers := e.workers.set w { x with rx := x.rx ++ [op] } } := by
  rw [push, modify_of_getElem? hx]

theorem extends_setWorker {w : WorkerId} {x x' : Worker D} (hx : e.workers[w]? = some x)
    (hdevice : x'.device_id = x.device_id) :
    Extends e { e with workers := e.workers.set w x' } where
  workers := ⟨[], by rw [List.append_nil]; exact map_set_of_key hx hdevice⟩
  tasks := ⟨[], by simp⟩

theorem extends_spawnWorker (id : String) (driver : D) (e : Supervisor D) :
    Extends e (e.spawnWorker id driver) where
  workers := ⟨[id], by simp [spawnWorker, Worker.spawn]⟩
  tasks := ⟨[], by simp [spawnWorker]⟩

theorem extends_start (turn : Turn) (ctx : ReconnectCtx) (e : Supervisor D) :
    Extends e (e.start_reconnect_backoff turn ctx) where
  workers := ⟨[], by simp [start_reconnect_backoff]⟩
  tasks := ⟨[ctx.device_id], by simp [start_reconnect_backoff, ReconnectTask.device_id]⟩

theorem extends_setTask {k : TaskId} {t t' : ReconnectTask} (ht : e.tasks[k]? = some t)
    (hctx : t'.ctx = t.ctx) : Extends e (e.setTask k t') where
  workers := ⟨[], by simp [setTask]⟩
  tasks := ⟨[], by
    rw [List.append_nil]
    exact map_set_of_key ht (congrArg ReconnectCtx.device_id hctx)⟩

/-! ## Updates of another device -/

section Unseen

variable (hid : id ≠ b)
include hid

theorem unseen_cancel (e : Supervisor D) : Unseen b e (e.cancel id) where
  ext := Extends.of_eq rfl rfl
  workers := rfl
  tasks := rfl
  device := rfl
  reconnecting := lookup_erase_ne _ hid

theorem unseen_detach (handle : DeviceHandle) (e : Supervisor D) :
    Unseen b e (e.detach id handle) where
  ext := Extends.of_eq rfl rfl
  workers := rfl
  tasks := rfl
  device := lookup_erase_ne _ hid
  reconnecting := rfl

theorem unseen_attach (handle : DeviceHandle) (e : Supervisor D) :
    Unseen b e (e.attach id handle) where
  ext := Extends.of_eq rfl rfl
  workers := rfl
  tasks := rfl
  device := lookup_insert_ne _ _ hid
  reconnecting := rfl

theorem unseen_setWorker {w : WorkerId} {x x' : Worker D} (hx : e.workers[w]? = some x)
    (hserves : x.device_id = id) (hdevice : x'.device_id = x.device_id) :
    Unseen b e { e with workers := e.workers.set w x' } where
  ext := extends_setWorker hx hdevice
  workers := slice_set_other hx (by rw [hserves]; exact hid) (by rw [hdevice, hserves]; exact hid)
  tasks := rfl
  device := rfl
  reconnecting := rfl

theorem unseen_spawnWorker (driver : D) (e : Supervisor D) :
    Unseen b e (e.spawnWorker id driver) where
  ext := extends_spawnWorker id driver e
  workers := by
    rw [spawnWorker, slice_append, slice_cons_other (show (Worker.spawn id driver).device_id ≠ b from hid)]
    exact List.append_nil _
  tasks := rfl
  device := rfl
  reconnecting := rfl

theorem unseen_start (turn : Turn) {ctx : ReconnectCtx} (hctx : ctx.device_id = id)
    (e : Supervisor D) : Unseen b e (e.start_reconnect_backoff turn ctx) where
  ext := extends_start turn ctx e
  workers := rfl
  tasks := by
    rw [start_reconnect_backoff, slice_append, slice_cons_other]
    · exact List.append_nil _
    · show ctx.device_id ≠ b
      rw [hctx]
      exact hid
  device := rfl
  reconnecting := lookup_insert_ne _ _ (by rw [hctx]; exact hid)

theorem unseen_setTask {k : TaskId} {t t' : ReconnectTask} (ht : e.tasks[k]? = some t)
    (htries : t.ctx.device_id = id) (hctx : t'.ctx = t.ctx) : Unseen b e (e.setTask k t') where
  ext := extends_setTask ht hctx
  workers := rfl
  tasks := by
    refine slice_set_other ht ?_ ?_
    · show t.ctx.device_id ≠ b
      rw [htries]
      exact hid
    · show t'.ctx.device_id ≠ b
      rw [hctx, htries]
      exact hid
  device := rfl
  reconnecting := rfl

end Unseen

theorem unseen_emit (b : String) (effects : List Effect) (e : Supervisor D) :
    Unseen b e (e.emit effects) := ⟨Extends.of_eq rfl rfl, rfl, rfl, rfl, rfl⟩

/-! ## Updates of the device -/

section Own

variable (log : List Effect)

theorem only_cancel (e : Supervisor D) : (e.only b log).cancel b = (e.cancel b).only b log := by
  simp only [cancel, only, erase_entry, lookup_erase_self, Option.map_none]
  rfl

theorem only_emit (effects : List Effect) (e : Supervisor D) :
    (e.only b log).emit effects = (e.emit effects).only b (log ++ effects) := rfl

theorem only_detach (handle : DeviceHandle) (e : Supervisor D) :
    (e.only b log).detach b ((e.names b).handle handle) =
      (e.detach b handle).only b (log ++ [.detached b ((e.names b).worker handle.tx)]) := by
  simp only [detach, only, erase_entry, lookup_erase_self, Option.map_none]
  rfl

theorem only_attach (handle : DeviceHandle) (e : Supervisor D) :
    (e.only b log).attach b ((e.names b).handle handle) =
      (e.attach b handle).only b
        (log ++ [.attached b ((e.names b).worker handle.tx), .lifecycle (.deviceAdded b)]) := by
  simp only [attach, only, insert_entry, lookup_insert_self, Option.map_some]
  rfl

/-- A worker of the device changes, and keeps its device. -/
theorem only_setWorker (hr : e.Rooted) {w : WorkerId} {x x' : Worker D} (hx : e.workers[w]? = some x)
    (hserves : x.device_id = b) (hdevice : x'.device_id = x.device_id) :
    ({ e with workers := e.workers.set w x' } : Supervisor D).only b log =
      { e.only b log with
        workers := (e.only b log).workers.set ((e.names b).worker w) x' } := by
  have hext := extends_setWorker hx hdevice
  have hslice := slice_set (b := b) hx hserves (by rw [hdevice, hserves])
  simp only [only, map_names_device hr hext, map_names_reconnecting hr hext,
    map_names_tasks hr hext, hslice]
  rfl

theorem only_spawnWorker (hr : e.Rooted) (driver : D) :
    (e.only b log).spawnWorker b driver = (e.spawnWorker b driver).only b log := by
  have hext : Extends e { e with workers := e.workers ++ [Worker.spawn b driver] } :=
    extends_spawnWorker b driver e
  have hslice : slice Worker.device_id b (e.workers ++ [Worker.spawn b driver]) =
      slice Worker.device_id b e.workers ++ [Worker.spawn b driver] := by
    rw [slice_append, slice_cons_self (by rfl)]
    rfl
  simp only [spawnWorker, only, map_names_device hr hext, map_names_reconnecting hr hext,
    map_names_tasks hr hext, hslice]

/-- The next task of the device is numbered after those there are. -/
theorem names_task_length (e : Supervisor D) :
    (e.names b).task e.tasks.length = (slice ReconnectTask.device_id b e.tasks).length :=
  rank_length

theorem names_worker_length (e : Supervisor D) :
    (e.names b).worker e.workers.length = (slice Worker.device_id b e.workers).length :=
  rank_length

theorem only_start (hr : e.Rooted) (turn : Turn) {ctx : ReconnectCtx} (hctx : ctx.device_id = b) :
    (e.only b log).start_reconnect_backoff turn ctx =
      (e.start_reconnect_backoff turn ctx).only b
        (log ++ [.started b ((e.names b).task e.tasks.length)]) := by
  subst hctx
  have hext := extends_start turn ctx e
  -- The number and the token of the new task.
  have hnumber : ((e.start_reconnect_backoff turn ctx).names ctx.device_id).task e.tasks.length =
      (slice ReconnectTask.device_id ctx.device_id e.tasks).length := by
    rw [names_task hext (Nat.le_refl _), names_task_length]
  have htoken : ((e.start_reconnect_backoff turn ctx).names ctx.device_id).token
      e.registry.next_reconnect_token =
        UInt64.ofNat (slice ReconnectTask.device_id ctx.device_id e.tasks).length := by
    rw [hr.next, names_token_mono hr hext (Nat.le_refl _), names_token hr (Nat.le_refl _),
      names_task_length]
  have hslice : ∀ t : ReconnectTask, t.device_id = ctx.device_id →
      slice ReconnectTask.device_id ctx.device_id (e.tasks ++ [t]) =
        slice ReconnectTask.device_id ctx.device_id e.tasks ++ [t] := by
    intro t ht
    rw [slice_append, slice_cons_self ht]
    rfl
  have hreconnecting : (e.start_reconnect_backoff turn ctx).registry.reconnecting[ctx.device_id]? =
      some (e.tasks.length, e.registry.next_reconnect_token) := lookup_insert_self _ _ _
  have htasks : (e.start_reconnect_backoff turn ctx).tasks = e.tasks ++ [{
      ctx := { ctx with token := e.registry.next_reconnect_token }
      backoff := RECONNECT_INITIAL_BACKOFF_MS
      attempts := 0
      phase := .sleeping (turn.now + RECONNECT_INITIAL_BACKOFF_MS) }] := rfl
  have hdevices : (e.start_reconnect_backoff turn ctx).registry.devices = e.registry.devices := rfl
  have hworkers : (e.start_reconnect_backoff turn ctx).workers = e.workers := rfl
  have hlater : ((e.start_reconnect_backoff turn ctx).only ctx.device_id
      (log ++ [.started ctx.device_id ((e.names ctx.device_id).task e.tasks.length)])) =
      (e.only ctx.device_id log).start_reconnect_backoff turn ctx := by
    rw [only, hreconnecting, htasks, hdevices, hworkers, hslice _ rfl, List.map_append,
      map_names_tasks hr hext, map_names_device hr hext, Option.map_some, hnumber, htoken]
    simp [start_reconnect_backoff, only, Names.reconnect, Names.phase, names_task_length,
      UInt64.ofNat_add]
    exact htoken
  exact hlater.symm

theorem only_setTask (hr : e.Rooted) {k : TaskId} {t t' : ReconnectTask} (ht : e.tasks[k]? = some t)
    (htries : t.ctx.device_id = b) (hctx : t'.ctx = t.ctx) :
    (e.only b log).setTask ((e.names b).task k) ((e.names b).reconnect t') =
      (e.setTask k t').only b log := by
  have hext : Extends e { e with tasks := e.tasks.set k t' } := extends_setTask ht hctx
  have hkey : ∀ u : ReconnectTask, u.ctx = t.ctx → u.device_id = b := by
    intro u hu
    rw [ReconnectTask.device_id, hu, htries]
  have hslice := slice_set ht (hkey t rfl) (hkey t' hctx)
  have hnames : (({ e with tasks := e.tasks.set k t' } : Supervisor D).names b).reconnect =
      (e.names b).reconnect := by
    have hkeys : (e.tasks.set k t').map ReconnectTask.device_id =
        e.tasks.map ReconnectTask.device_id :=
      map_set_of_key ht (congrArg ReconnectCtx.device_id hctx)
    rw [names, names, hkeys]
  simp only [setTask, only, map_names_device hr hext, map_names_reconnecting hr hext, hslice,
    hnames, List.map_set, List.length_set]
  rfl

end Own

/-! ## What belongs together -/

/-- An update that starts and moves no task: what it adds to the tables must belong
there. -/
theorem Rooted.extend {e e' : Supervisor D} (h : e.Rooted) (hext : Extends e e')
    (htasks : e'.tasks = e.tasks)
    (hnext : e'.registry.next_reconnect_token = e.registry.next_reconnect_token)
    (hdevice : ∀ (id : String) (handle : DeviceHandle), e'.registry.devices[id]? = some handle →
      e.registry.devices[id]? = some handle ∨ e'.Serves handle.tx id)
    (hreconnecting : ∀ (id : String) (r : TaskId × UInt64),
      e'.registry.reconnecting[id]? = some r → e.registry.reconnecting[id]? = some r) :
    e'.Rooted where
  bound := by
    rw [htasks]
    exact h.bound
  next := by
    rw [hnext, htasks]
    exact h.next
  token := by
    rw [htasks]
    exact h.token
  sending := by
    intro k t handle ht hp
    rw [htasks] at ht
    exact (h.sending k t handle ht hp).mono hext
  device := by
    intro id handle hhandle
    rcases hdevice id handle hhandle with hold | hnew
    · exact (h.device id handle hold).mono hext
    · exact hnew
  reconnecting := by
    intro id k token hentry
    obtain ⟨htries, htoken⟩ := h.reconnecting id k token (hreconnecting id _ hentry)
    exact ⟨htries.mono hext, htoken⟩

section Rooted

variable (h : e.Rooted)
include h

theorem rooted_emit (effects : List Effect) : (e.emit effects).Rooted :=
  h.extend (Extends.of_eq rfl rfl) rfl rfl (fun _ _ h => .inl h) fun _ _ h => h

theorem rooted_cancel (id : String) : (e.cancel id).Rooted := by
  refine h.extend (Extends.of_eq rfl rfl) rfl rfl (fun _ _ h => .inl h) ?_
  intro id' r hr
  change (e.registry.reconnecting.erase id)[id']? = some r at hr
  rw [lookup_erase] at hr
  split at hr
  · cases hr
  · exact hr

theorem rooted_detach (id : String) (handle : DeviceHandle) : (e.detach id handle).Rooted := by
  refine h.extend (Extends.of_eq rfl rfl) rfl rfl ?_ fun _ _ h => h
  intro id' handle' hhandle
  change (e.registry.devices.erase id)[id']? = some handle' at hhandle
  rw [lookup_erase] at hhandle
  split at hhandle
  · cases hhandle
  · exact .inl hhandle

theorem rooted_attach {handle : DeviceHandle} (hserves : e.Serves handle.tx id) :
    (e.attach id handle).Rooted := by
  refine h.extend (Extends.of_eq rfl rfl) rfl rfl ?_ fun _ _ h => h
  intro id' handle' hhandle
  change (e.registry.devices.insert id handle)[id']? = some handle' at hhandle
  rw [lookup_insert] at hhandle
  split at hhandle
  · rename_i hid
    subst hid
    cases hhandle
    exact .inr hserves
  · exact .inl hhandle

theorem rooted_setWorker {w : WorkerId} {x x' : Worker D} (hx : e.workers[w]? = some x)
    (hdevice : x'.device_id = x.device_id) :
    ({ e with workers := e.workers.set w x' } : Supervisor D).Rooted :=
  h.extend (extends_setWorker hx hdevice) rfl rfl (fun _ _ h => .inl h) fun _ _ h => h

theorem rooted_spawnWorker (id : String) (driver : D) : (e.spawnWorker id driver).Rooted :=
  h.extend (extends_spawnWorker id driver e) rfl rfl (fun _ _ h => .inl h) fun _ _ h => h

theorem rooted_setTask {k : TaskId} {t t' : ReconnectTask} (ht : e.tasks[k]? = some t)
    (hctx : t'.ctx = t.ctx)
    (hsending : ∀ handle, t'.phase = .sending handle → e.Serves handle.tx t.ctx.device_id) :
    (e.setTask k t').Rooted := by
  have hext := extends_setTask ht hctx
  -- A task after the update is one from before, or the one that was put there.
  have hcases : ∀ (j : TaskId) (u : ReconnectTask), (e.setTask k t').tasks[j]? = some u →
      (j = k ∧ u = t') ∨ e.tasks[j]? = some u := by
    intro j u hu
    change (e.tasks.set k t')[j]? = some u at hu
    rw [List.getElem?_set] at hu
    split at hu
    · rename_i hj
      split at hu
      · cases hu
        exact .inl ⟨hj.symm, rfl⟩
      · cases hu
    · exact .inr hu
  refine ⟨?_, ?_, ?_, ?_, ?_, ?_⟩
  · show (e.tasks.set k t').length < 2 ^ 64
    rw [List.length_set]
    exact h.bound
  · show e.registry.next_reconnect_token = UInt64.ofNat (e.tasks.set k t').length
    rw [List.length_set]
    exact h.next
  · intro j u hu
    rcases hcases j u hu with ⟨rfl, rfl⟩ | hold
    · rw [hctx]
      exact h.token j t ht
    · exact h.token j u hold
  · intro j u handle hu hp
    rcases hcases j u hu with ⟨rfl, rfl⟩ | hold
    · rw [hctx]
      exact (hsending handle hp).mono hext
    · exact (h.sending j u handle hold hp).mono hext
  · intro id handle hhandle
    exact (h.device id handle hhandle).mono hext
  · intro id j token hentry
    obtain ⟨htries, htoken⟩ := h.reconnecting id j token hentry
    exact ⟨htries.mono hext, htoken⟩

theorem rooted_start (hbound : e.tasks.length + 1 < 2 ^ 64) (turn : Turn) (ctx : ReconnectCtx) :
    (e.start_reconnect_backoff turn ctx).Rooted := by
  have hext := extends_start turn ctx e
  have hnew : (e.start_reconnect_backoff turn ctx).Tries e.tasks.length ctx.device_id := by
    refine ⟨_, List.getElem?_concat_length, rfl⟩
  -- A task after the update is one from before, or the new one.
  have hcases : ∀ (j : TaskId) (u : ReconnectTask),
      (e.start_reconnect_backoff turn ctx).tasks[j]? = some u →
        e.tasks[j]? = some u ∨ (j = e.tasks.length ∧
          u.ctx.token = e.registry.next_reconnect_token ∧ ∃ wake_at, u.phase = .sleeping wake_at) := by
    intro j u hu
    change (e.tasks ++ [_])[j]? = some u at hu
    rw [List.getElem?_append] at hu
    split at hu
    · exact .inl hu
    · rename_i hle
      obtain ⟨hlt, heq⟩ := List.getElem?_eq_some_iff.1 hu
      have hj : j = e.tasks.length :=
        Nat.le_antisymm (Nat.le_of_sub_eq_zero (Nat.lt_one_iff.1 hlt)) (Nat.not_lt.1 hle)
      rw [List.getElem_singleton] at heq
      subst heq
      exact .inr ⟨hj, rfl, _, rfl⟩
  refine ⟨?_, ?_, ?_, ?_, ?_, ?_⟩
  · show (e.tasks ++ [_]).length < 2 ^ 64
    rw [List.length_append, List.length_singleton]
    exact hbound
  · show e.registry.next_reconnect_token + 1 = UInt64.ofNat (e.tasks ++ [_]).length
    rw [List.length_append, List.length_singleton, h.next, UInt64.ofNat_add]
    rfl
  · intro j u hu
    rcases hcases j u hu with hold | ⟨rfl, htoken, -⟩
    · exact h.token j u hold
    · rw [htoken, h.next]
  · intro j u handle hu hp
    rcases hcases j u hu with hold | ⟨-, -, wake_at, hsleeping⟩
    · exact (h.sending j u handle hold hp).mono hext
    · rw [hsleeping] at hp
      cases hp
  · intro id handle hhandle
    exact (h.device id handle hhandle).mono hext
  · intro id j token hentry
    change (e.registry.reconnecting.insert ctx.device_id _)[id]? = _ at hentry
    rw [lookup_insert] at hentry
    split at hentry
    · rename_i hid
      subst hid
      cases hentry
      exact ⟨hnew, h.next⟩
    · obtain ⟨htries, htoken⟩ := h.reconnecting id j token hentry
      exact ⟨htries.mono hext, htoken⟩

end Rooted

end Supervisor

end Clackd.Engine
