import Clackd.Engine.Turns

/-!
# Turns of the part of one device

The supervisor treats a command of a device as it would if the device were the only
one: the turn, taken by the device's part on the renumbered command, gives the part
of the state the turn gives.

## Main results

* `part_turn`: a turn on a command of the device, for every command.
* `part_attempt`: a turn of a reconnect task of the device.
-/

namespace Clackd.Engine

open Clackd.Foundation Clackd.Hal
open Std (ExtTreeMap)

namespace Supervisor

variable {W D : Type} {owner : ReplyId → Option String} {f e : Supervisor D} {b : String}

/-! ## What the part holds -/

section Holds

variable (hr : e.Rooted) (hf : Extends e f)
include hr hf

theorem part_device :
    (f.part owner b e).registry.devices[b]? =
      e.registry.devices[b]?.map (f.names b).handle := by
  rw [map_names_device hr hf]
  exact lookup_entry b _

theorem part_reconnecting :
    (f.part owner b e).registry.reconnecting[b]? =
      e.registry.reconnecting[b]?.map fun r => ((f.names b).task r.1, (f.names b).token r.2) := by
  rw [map_names_reconnecting hr hf]
  exact lookup_entry b _

theorem part_task {k : TaskId} {t : ReconnectTask} (ht : e.tasks[k]? = some t)
    (htries : t.ctx.device_id = b) :
    (f.part owner b e).tasks[(f.names b).task k]? = some ((f.names b).reconnect t) := by
  have hlt : k < e.tasks.length := (List.getElem?_eq_some_iff.1 ht).1
  have hslice : (slice ReconnectTask.device_id b e.tasks)[(e.names b).task k]? = some t :=
    getElem?_slice ht htries
  rw [names_task hf (Nat.le_of_lt hlt), names_reconnect hr hf ht]
  show ((slice ReconnectTask.device_id b e.tasks).map (e.names b).reconnect)[_]? = _
  rw [List.getElem?_map, hslice]
  rfl

omit hr in
theorem part_worker {w : WorkerId} {x : Worker D} (hx : e.workers[w]? = some x)
    (hserves : x.device_id = b) :
    (f.part owner b e).workers[(f.names b).worker w]? = some x := by
  have hlt : w < e.workers.length := (List.getElem?_eq_some_iff.1 hx).1
  rw [names_worker hf (Nat.le_of_lt hlt)]
  exact getElem?_slice hx hserves

omit hr in
theorem part_closed {w : WorkerId} (h : e.Serves w b) :
    (f.part owner b e).closed ((f.names b).worker w) = e.closed w := by
  obtain ⟨x, hx, hserves⟩ := h
  rw [closed, part_worker hf hx hserves, closed, hx]

omit hr in
theorem part_queued {w : WorkerId} (h : e.Serves w b) :
    (f.part owner b e).queued ((f.names b).worker w) = e.queued w := by
  obtain ⟨x, hx, hserves⟩ := h
  rw [queued, part_worker hf hx hserves, queued, hx]

/-! ## Updates of the part -/

omit hr hf in
theorem part_emit {effects : List Effect} (h : ∀ x ∈ effects, f.about owner x = some b) :
    (f.part owner b e).emit (effects.map (f.names b).effect) = f.part owner b (e.emit effects) := by
  rw [part, part, only_emit, ← view_append_of_about e.log h]
  rfl

omit hr hf in
theorem part_cancel : (f.part owner b e).cancel b = f.part owner b (e.cancel b) :=
  only_cancel _ e

omit hr in
theorem part_detach {handle : DeviceHandle} (h : e.Serves handle.tx b) :
    (f.part owner b e).detach b ((f.names b).handle handle) =
      f.part owner b (e.detach b handle) := by
  have hview : f.view owner b (e.detach b handle).log =
      f.view owner b e.log ++ [.detached b ((e.names b).worker handle.tx)] := by
    rw [← names_worker hf (Nat.le_of_lt h.lt)]
    exact view_append_of_about e.log (by simp [about])
  rw [part, part, names_handle hf h, only_detach, hview]

omit hr in
theorem part_attach {handle : DeviceHandle} (h : e.Serves handle.tx b) :
    (f.part owner b e).attach b ((f.names b).handle handle) =
      f.part owner b (e.attach b handle) := by
  have hview : f.view owner b (e.attach b handle).log = f.view owner b e.log ++
      [.attached b ((e.names b).worker handle.tx), .lifecycle (.deviceAdded b)] := by
    rw [← names_worker hf (Nat.le_of_lt h.lt)]
    exact view_append_of_about e.log (by simp [about, LifecycleEvent.device])
  rw [part, part, names_handle hf h, only_attach, hview]

omit hf in
theorem part_spawnWorker (driver : D) :
    (f.part owner b e).spawnWorker b driver = f.part owner b (e.spawnWorker b driver) :=
  only_spawnWorker _ hr driver

theorem part_start (turn : Turn) {ctx : ReconnectCtx} (hctx : ctx.device_id = b) :
    (f.part owner b e).start_reconnect_backoff turn ctx =
      f.part owner b (e.start_reconnect_backoff turn ctx) := by
  have hview : f.view owner b (e.start_reconnect_backoff turn ctx).log =
      f.view owner b e.log ++ [.started b ((e.names b).task e.tasks.length)] := by
    subst hctx
    rw [← names_task hf (Nat.le_refl _)]
    exact view_append_of_about e.log (by simp [about])
  rw [part, part, only_start _ hr turn hctx, hview]

theorem part_setWorker {w : WorkerId} {x x' : Worker D} (hx : e.workers[w]? = some x)
    (hserves : x.device_id = b) (hdevice : x'.device_id = x.device_id) :
    f.part owner b { e with workers := e.workers.set w x' } =
      { f.part owner b e with
        workers := (f.part owner b e).workers.set ((f.names b).worker w) x' } := by
  have hlt : w < e.workers.length := (List.getElem?_eq_some_iff.1 hx).1
  rw [part, only_setWorker _ hr hx hserves hdevice, names_worker hf (Nat.le_of_lt hlt)]
  rfl

theorem part_setTask {k : TaskId} {t t' : ReconnectTask} (ht : e.tasks[k]? = some t)
    (htries : t.ctx.device_id = b) (hctx : t'.ctx = t.ctx)
    (hsending : ∀ handle, t'.phase = .sending handle → e.Serves handle.tx b) :
    (f.part owner b e).setTask ((f.names b).task k) ((f.names b).reconnect t') =
      f.part owner b (e.setTask k t') := by
  have hle : k ≤ e.tasks.length := Nat.le_of_lt (List.getElem?_eq_some_iff.1 ht).1
  have htoken : (f.names b).token t'.ctx.token = (e.names b).token t'.ctx.token := by
    rw [hctx, hr.token k t ht, names_token_mono hr hf hle]
  have hphase : (f.names b).phase t'.phase = (e.names b).phase t'.phase := by
    cases hp : t'.phase with
    | sending handle => exact congrArg TaskPhase.sending (names_handle hf (hsending handle hp))
    | _ => rfl
  have hreconnect : (f.names b).reconnect t' = (e.names b).reconnect t' := by
    rw [Names.reconnect, htoken, hphase]
    rfl
  rw [hreconnect, names_task hf hle]
  exact only_setTask _ hr ht htries hctx

end Holds

/-! ## Turns of the supervisor -/

section Turns

theorem part_push (hr : e.Rooted) (hf : Extends e f) {w : WorkerId} (h : e.Serves w b)
    (op : WorkerOp) :
    (f.part owner b e).push ((f.names b).worker w) op = f.part owner b (e.push w op) := by
  obtain ⟨x, hx, hserves⟩ := h
  rw [push_of_serves (part_worker hf hx hserves), push_of_serves hx, part_setWorker hr hf hx hserves]
  rfl

theorem part_reply_with_error {op : WorkerOp} (hop : owner op.reply = some b) (err : DaemonError)
    (e : Supervisor D) :
    (f.part owner b e).reply_with_error op err = f.part owner b (e.reply_with_error op err) := by
  have habout : ∀ x ∈ [Effect.replied op.reply (op.refusal err)], f.about owner x = some b := by
    intro x hx
    rw [List.mem_singleton.1 hx]
    exact hop
  exact part_emit habout

section Dispatch

variable {id : String} {check : DeviceTopology → Option DaemonError} {op : WorkerOp}
  {handle : DeviceHandle}

theorem dispatch_absent (habsent : e.registry.devices[id]? = none) :
    e.dispatch id check op = e.reply_with_error op (.deviceNotFound id) := by
  rw [dispatch, habsent]

theorem dispatch_refused {err : DaemonError} (hhandle : e.registry.devices[id]? = some handle)
    (hcheck : check handle.topology = some err) :
    e.dispatch id check op = e.reply_with_error op err := by
  simp only [dispatch, hhandle, hcheck]

theorem dispatch_closed (hhandle : e.registry.devices[id]? = some handle)
    (hcheck : check handle.topology = none) (hclosed : e.closed handle.tx = true) :
    e.dispatch id check op =
      (e.detach id handle).reply_with_error op (.deviceNotFound id) := by
  simp only [dispatch, hhandle, hcheck, try_send, hclosed]
  rfl

theorem dispatch_taken (hhandle : e.registry.devices[id]? = some handle)
    (hcheck : check handle.topology = none) (hclosed : e.closed handle.tx = false)
    (hroom : e.queued handle.tx < WORKER_CHANNEL_CAPACITY) :
    e.dispatch id check op = e.push handle.tx op := by
  simp [dispatch, hhandle, hcheck, try_send, hclosed, hroom]

theorem dispatch_full (hhandle : e.registry.devices[id]? = some handle)
    (hcheck : check handle.topology = none) (hclosed : e.closed handle.tx = false)
    (hroom : ¬ e.queued handle.tx < WORKER_CHANNEL_CAPACITY) :
    e.dispatch id check op =
      e.reply_with_error op (.dbusRouting s!"device `{id}` is busy") := by
  simp [dispatch, hhandle, hcheck, try_send, hclosed, hroom, surface_worker_send_failure]

theorem part_dispatch (hr : e.Rooted) (hf : Extends e f)
    (check : DeviceTopology → Option DaemonError) (op : WorkerOp) (hop : owner op.reply = some b) :
    (f.part owner b e).dispatch b check op = f.part owner b (e.dispatch b check op) := by
  have hlookup : (f.part owner b e).registry.devices[b]? = _ := part_device hr hf
  cases hhandle : e.registry.devices[b]? with
  | none =>
      rw [hhandle] at hlookup
      rw [dispatch_absent hlookup, dispatch_absent hhandle, part_reply_with_error hop]
  | some handle =>
      rw [hhandle] at hlookup
      have hserves := hr.device b handle hhandle
      have hclosed' : (f.part owner b e).closed _ = _ := part_closed hf hserves
      have hqueued' : (f.part owner b e).queued _ = _ := part_queued hf hserves
      cases hcheck : check handle.topology with
      | some err =>
          rw [dispatch_refused hlookup hcheck, dispatch_refused hhandle hcheck,
            part_reply_with_error hop]
      | none =>
          cases hclosed : e.closed handle.tx with
          | true =>
              rw [dispatch_closed hlookup hcheck (hclosed'.trans hclosed),
                dispatch_closed hhandle hcheck hclosed, part_detach hf hserves,
                part_reply_with_error hop]
          | false =>
              by_cases hroom : e.queued handle.tx < WORKER_CHANNEL_CAPACITY
              · rw [dispatch_taken hlookup hcheck (hclosed'.trans hclosed) (hqueued' ▸ hroom),
                  dispatch_taken hhandle hcheck hclosed hroom]
                exact part_push hr hf hserves op
              · rw [dispatch_full hlookup hcheck (hclosed'.trans hclosed) (hqueued' ▸ hroom),
                  dispatch_full hhandle hcheck hclosed hroom, part_reply_with_error hop]

end Dispatch

theorem part_lifecycle {event : LifecycleEvent} (h : event.device = b) (e : Supervisor D) :
    (f.part owner b e).emit [.lifecycle event] = f.part owner b (e.emit [.lifecycle event]) := by
  have habout : ∀ x ∈ [Effect.lifecycle event], f.about owner x = some b := by
    intro x hx
    rw [List.mem_singleton.1 hx]
    exact congrArg some h
  exact part_emit habout

theorem part_device_disconnected (hr : e.Rooted) (hf : Extends e f) :
    (f.part owner b e).device_disconnected b = f.part owner b (e.device_disconnected b) := by
  have hr' : (e.cancel b).Rooted := rooted_cancel hr b
  have hf' : Extends (e.cancel b) f := ⟨hf.workers, hf.tasks⟩
  unfold device_disconnected
  dsimp only
  rw [part_cancel, part_device hr' hf']
  cases hhandle : (e.cancel b).registry.devices[b]? with
  | none => rfl
  | some handle =>
      show ((f.part owner b (e.cancel b)).detach b ((f.names b).handle handle)).emit _ = _
      rw [part_detach hf' (hr'.device b handle hhandle)]
      exact part_lifecycle rfl ((e.cancel b).detach b handle)

theorem part_device_error (hr : e.Rooted) (turn : Turn) (err : DaemonError)
    (hf : Extends (e.device_error turn b err) f) :
    (f.part owner b e).device_error turn b err = f.part owner b (e.device_error turn b err) := by
  have hupdates : Updates owner f (some b) e (e.device_error turn b err) :=
    updates_device_error turn b err e
  have hf' : Extends e f := hupdates.extends.trans hf
  unfold device_error
  rw [part_device hr hf']
  cases hhandle : e.registry.devices[b]? with
  | none => rfl
  | some handle =>
      have hlost : ((f.part owner b e).detach b ((f.names b).handle handle)).emit
          [.lifecycle (.deviceRemoved b)] = f.part owner b
            ((e.detach b handle).emit [.lifecycle (.deviceRemoved b)]) := by
        rw [part_detach hf' (hr.device b handle hhandle)]
        exact part_lifecycle rfl (e.detach b handle)
      have hr' : ((e.detach b handle).emit [.lifecycle (.deviceRemoved b)]).Rooted :=
        rooted_emit (rooted_detach hr b handle) _
      simp only [Option.map_some]
      rw [hlost]
      by_cases herr : err = .driver .disconnected
      · rw [if_pos herr, if_pos herr]
        exact part_start hr' ⟨hf'.workers, hf'.tasks⟩ turn rfl
      · rw [if_neg herr, if_neg herr]

/-- Tokens of tasks of the device are the same exactly if their new numbers are. -/
theorem names_token_iff (hr : e.Rooted) (hf : Extends e f) {j k : TaskId} (hj : e.Tries j b)
    (hk : e.Tries k b) :
    (f.names b).token (UInt64.ofNat j) = (f.names b).token (UInt64.ofNat k) ↔
      UInt64.ofNat j = UInt64.ofNat k := by
  have hjle := Nat.le_of_lt hj.lt
  have hkle := Nat.le_of_lt hk.lt
  constructor
  · intro h
    rw [names_token_mono hr hf hjle, names_token_mono hr hf hkle, names_token hr hjle,
      names_token hr hkle] at h
    have hbound : ∀ i : TaskId, i ≤ e.tasks.length → (e.names b).task i < UInt64.size := by
      intro i hi
      exact Nat.lt_of_le_of_lt (Nat.le_trans rank_le hi) hr.bound
    have htask := congrArg UInt64.toNat h
    rw [UInt64.toNat_ofNat_of_lt' (hbound j hjle), UInt64.toNat_ofNat_of_lt' (hbound k hkle)]
      at htask
    rw [names_task_injective hj hk htask]
  · intro h
    rw [h]

theorem part_device_reattached (hr : e.Rooted) (hf : Extends e f) (sender : Origin)
    {handle : DeviceHandle} (hserves : e.Serves handle.tx b) {j : TaskId} (hj : e.Tries j b) :
    (f.part owner b e).device_reattached ((f.names b).origin sender) b ((f.names b).handle handle)
        ((f.names b).token (UInt64.ofNat j)) =
      f.part owner b (e.device_reattached sender b handle (UInt64.ofNat j)) := by
  unfold device_reattached
  rw [part_reconnecting hr hf]
  cases hentry : e.registry.reconnecting[b]? with
  | none => rfl
  | some r =>
      obtain ⟨k, current_token⟩ := r
      obtain ⟨hk, rfl⟩ := hr.reconnecting b k current_token hentry
      simp only [Option.map_some, names_token_iff hr hf hk hj]
      by_cases htoken : UInt64.ofNat k = UInt64.ofNat j
      · rw [if_pos htoken, if_pos htoken, part_cancel]
        have habout : ∀ x ∈ [Effect.accepted b sender], f.about owner x = some b := by
          intro x hx
          rw [List.mem_singleton.1 hx]
          rfl
        have hemit : (f.part owner b (e.cancel b)).emit [.accepted b ((f.names b).origin sender)] =
            f.part owner b ((e.cancel b).emit [.accepted b sender]) := part_emit habout
        have hf' : Extends ((e.cancel b).emit [.accepted b sender]) f := ⟨hf.workers, hf.tasks⟩
        rw [hemit]
        exact part_attach hf' hserves
      · rw [if_neg htoken, if_neg htoken]

theorem part_answer {reply : ReplyId} (hreply : owner reply = some b) (r : Reply)
    (e : Supervisor D) :
    (f.part owner b e).emit [.replied reply r] = f.part owner b (e.emit [.replied reply r]) := by
  have habout : ∀ x ∈ [Effect.replied reply r], f.about owner x = some b := by
    intro x hx
    rw [List.mem_singleton.1 hx]
    exact hreply
  exact part_emit habout

theorem part_get_device_info (hr : e.Rooted) (hf : Extends e f) {reply : ReplyId}
    (hreply : owner reply = some b) :
    (f.part owner b e).get_device_info b reply = f.part owner b (e.get_device_info b reply) := by
  rw [get_device_info, get_device_info, part_device hr hf, ← part_answer hreply]
  cases e.registry.devices[b]? <;> rfl

theorem part_get_device_identity (hr : e.Rooted) (hf : Extends e f) {reply : ReplyId}
    (hreply : owner reply = some b) :
    (f.part owner b e).get_device_identity b reply =
      f.part owner b (e.get_device_identity b reply) := by
  rw [get_device_identity, get_device_identity, part_device hr hf, ← part_answer hreply]
  cases e.registry.devices[b]? <;> rfl

variable [KeyboardDriver D]

/-- The handle of the worker that is spawned next. -/
theorem part_handleOf (hf : Extends e f) (topology : DeviceTopology) (driver : D)
    (vendor_id product_id : UInt16) (path : String) :
    (f.part owner b e).handleOf topology driver vendor_id product_id path =
      (f.names b).handle (e.handleOf topology driver vendor_id product_id path) := by
  have hnumber : (f.names b).worker e.workers.length = (f.part owner b e).workers.length := by
    rw [names_worker hf (Nat.le_refl _), names_worker_length]
    rfl
  rw [handleOf, ← hnumber]
  rfl

section Connect

variable {table : DriverTable W D} {turn : Turn} {world : W} {id : String}
  {vendor_id product_id : UInt16} {path : String} {factory : DriverFactory W D}

theorem connect_unknown (hfactory : table.factory vendor_id product_id = none) :
    e.connect table turn world id vendor_id product_id path = e := by
  rw [connect, hfactory]

theorem connect_opened {r : DeviceTopology × D}
    (hfactory : table.factory vendor_id product_id = some factory)
    (hopen : openDevice turn world factory path = .ok r) :
    e.connect table turn world id vendor_id product_id path =
      (e.spawnWorker id r.2).attach id (e.handleOf r.1 r.2 vendor_id product_id path) := by
  simp only [connect, hfactory, hopen]

theorem connect_failed {err : DaemonError}
    (hfactory : table.factory vendor_id product_id = some factory)
    (hopen : openDevice turn world factory path = .error err) :
    e.connect table turn world id vendor_id product_id path =
      if is_transient_attach_error err then
        e.start_reconnect_backoff turn ⟨id, vendor_id, product_id, path, 0⟩
      else e := by
  simp only [connect, hfactory, hopen]

end Connect

theorem part_device_connected (hr : e.Rooted) (table : DriverTable W D) (turn : Turn) (world : W)
    (vendor_id product_id : UInt16) (path : String)
    (hf : Extends (e.device_connected table turn world b vendor_id product_id path) f) :
    (f.part owner b e).device_connected table turn world b vendor_id product_id path =
      f.part owner b (e.device_connected table turn world b vendor_id product_id path) := by
  have hr' : (e.cancel b).Rooted := rooted_cancel hr b
  have hupdates : Updates owner f (some b) e
      (e.device_connected table turn world b vendor_id product_id path) :=
    updates_device_connected table turn world b vendor_id product_id path e
  have hext : Extends e f := hupdates.extends.trans hf
  have hf' : Extends (e.cancel b) f := ⟨hext.workers, hext.tasks⟩
  have hlookup : (f.part owner b (e.cancel b)).registry.devices[b]? = _ := part_device hr' hf'
  have hcontains : (f.part owner b (e.cancel b)).registry.devices.contains b =
      (e.cancel b).registry.devices.contains b := by
    rw [ExtTreeMap.contains_eq_isSome_getElem?, ExtTreeMap.contains_eq_isSome_getElem?, hlookup,
      Option.isSome_map]
  unfold device_connected at hf ⊢
  dsimp only at hf ⊢
  rw [part_cancel, hcontains]
  split at hf
  · rename_i hmem
    rw [if_pos hmem, if_pos hmem]
  · rename_i hmem
    rw [if_neg hmem, if_neg hmem]
    cases hfactory : table.factory vendor_id product_id with
    | none => rw [connect_unknown hfactory, connect_unknown hfactory]
    | some factory =>
        cases hopen : openDevice turn world factory path with
        | ok r =>
            rw [connect_opened hfactory hopen] at hf ⊢
            have hspawned : Extends ((e.cancel b).spawnWorker b r.2) f := ⟨hf.workers, hf.tasks⟩
            rw [connect_opened hfactory hopen, part_handleOf hf', part_spawnWorker hr']
            exact part_attach hspawned
              (serves_spawned b r.1 r.2 vendor_id product_id path (e.cancel b))
        | error err =>
            rw [connect_failed hfactory hopen, connect_failed hfactory hopen]
            by_cases htransient : is_transient_attach_error err = true
            · rw [if_pos htransient, if_pos htransient]
              exact part_start hr' hf' turn rfl
            · rw [if_neg htransient, if_neg htransient]

/-- The part takes the turn of the supervisor on a command of the device. -/
theorem part_turn (table : DriverTable W D) (turn : Turn) (world : W) {envelope : Envelope}
    (hr : e.Rooted) (hv : Vouched owner e envelope) (hb : envelope.cmd.device = some b)
    (hf : Extends (e.handle_command table turn world envelope) f) :
    (f.part owner b e).handle_command table turn world ((f.names b).envelope envelope) =
      f.part owner b (e.handle_command table turn world envelope) := by
  have hupdates : Updates owner f envelope.cmd.device e
      (e.handle_command table turn world envelope) := turn_updates table turn world hr hv
  have hf' : Extends e f := hupdates.extends.trans hf
  obtain ⟨sender, cmd⟩ := envelope
  have hreply := hv.reply
  cases cmd with
  | getKeycode id layer row col reply =>
      cases hb
      exact part_dispatch hr hf' (bounded b layer row col) (.getKeycode layer row col reply)
        (hreply reply rfl)
  | setKeycode id layer row col keycode reply =>
      cases hb
      exact part_dispatch hr hf' (bounded b layer row col) (.setKeycode layer row col keycode reply)
        (hreply reply rfl)
  | commitToNvram id reply =>
      cases hb
      exact part_dispatch hr hf' unchecked (.commit reply) (hreply reply rfl)
  | getMacro id offset length reply =>
      cases hb
      exact part_dispatch hr hf' unchecked (.getMacro offset length reply)
        (hreply reply rfl)
  | setMacro id offset data reply =>
      cases hb
      exact part_dispatch hr hf' unchecked (.setMacro offset data reply)
        (hreply reply rfl)
  | getLighting id channel value_id reply =>
      cases hb
      exact part_dispatch hr hf' unchecked (.getLighting channel value_id reply)
        (hreply reply rfl)
  | setLighting id channel value_id data reply =>
      cases hb
      exact part_dispatch hr hf' unchecked (.setLighting channel value_id data reply)
        (hreply reply rfl)
  | deviceConnected id vendor_id product_id path =>
      cases hb
      exact part_device_connected hr table turn world vendor_id product_id path hf
  | deviceDisconnected id =>
      cases hb
      exact part_device_disconnected hr hf'
  | deviceError id err =>
      cases hb
      exact part_device_error hr turn err hf
  | deviceReattached id handle token =>
      cases hb
      obtain ⟨hserves, j, hj, rfl⟩ := hv.reattached b handle token rfl
      exact part_device_reattached hr hf' sender hserves hj
  | getDeviceInfo id reply =>
      cases hb
      exact part_get_device_info hr hf' (hreply reply rfl)
  | getDeviceIdentity id reply =>
      cases hb
      exact part_get_device_identity hr hf' (hreply reply rfl)
  | listDevices reply => cases hb
  | shutdown => cases hb

end Turns

/-! ## Turns of a reconnect task -/

section Attempt

/-- A task of the device is cancelled in the part when it is in the whole. -/
theorem part_cancelled (hr : e.Rooted) (hf : Extends e f) {k : TaskId} {t : ReconnectTask}
    (hk : e.Tries k b) (htries : t.ctx.device_id = b) :
    (f.part owner b e).cancelled ((f.names b).task k) ((f.names b).reconnect t) =
      e.cancelled k t := by
  have hdevice : ((f.names b).reconnect t).ctx.device_id = b := htries
  rw [cancelled, cancelled, hdevice, htries, part_reconnecting hr hf]
  cases hentry : e.registry.reconnecting[b]? with
  | none => rfl
  | some r =>
      obtain ⟨hj, -⟩ := hr.reconnecting b r.1 r.2 hentry
      have hiff : (f.names b).task r.1 = (f.names b).task k ↔ r.1 = k := by
        constructor
        · intro h
          rw [names_task hf (Nat.le_of_lt hj.lt), names_task hf (Nat.le_of_lt hk.lt)] at h
          exact names_task_injective hj hk h
        · intro h
          rw [h]
      show decide ((f.names b).task r.1 ≠ (f.names b).task k) = decide (r.1 ≠ k)
      exact decide_eq_decide.2 (not_congr hiff)

variable [KeyboardDriver D]

theorem names_retry_next (n : Names) (now : Nat) (t : ReconnectTask) :
    n.reconnect ((nextAttempt t).retry now) = (nextAttempt (n.reconnect t)).retry now := by
  by_cases hattempts : t.attempts + 1 ≥ RECONNECT_MAX_ATTEMPTS
  · simp [Names.reconnect, nextAttempt, ReconnectTask.retry, Names.phase, hattempts]
  · simp [Names.reconnect, nextAttempt, ReconnectTask.retry, Names.phase, hattempts]

/-- The part takes the turn of a reconnect task of the device. -/
theorem part_attempt (hr : e.Rooted) (table : DriverTable W D) (turn : Turn) (world : W)
    {k : TaskId} {t : ReconnectTask} (ht : e.tasks[k]? = some t) (htries : t.ctx.device_id = b)
    (hf : Extends (e.attempt table turn world k t) f) :
    (f.part owner b e).attempt table turn world ((f.names b).task k) ((f.names b).reconnect t) =
      f.part owner b (e.attempt table turn world k t) := by
  have hupdates : Updates owner f (some t.ctx.device_id) e (e.attempt table turn world k t) :=
    attempt_updates ht
  have hf' : Extends e f := hupdates.extends.trans hf
  have hquiet : ∀ t' : ReconnectTask, t'.ctx = t.ctx → (∀ handle, t'.phase ≠ .sending handle) →
      (f.part owner b e).setTask ((f.names b).task k) ((f.names b).reconnect t') =
        f.part owner b (e.setTask k t') := by
    intro t' hctx hphase
    exact part_setTask hr hf' ht htries hctx fun handle h => absurd h (hphase handle)
  cases hfactory : table.factory t.ctx.vendor_id t.ctx.product_id with
  | none =>
      rw [attempt_unknown hfactory, attempt_unknown (t := (f.names b).reconnect t) hfactory]
      exact hquiet (nextAttempt t).abandon rfl (abandon_not_sending _)
  | some factory =>
      cases hopen : openDevice turn world factory t.ctx.hidraw_path with
      | ok r =>
          rw [attempt_opened hfactory hopen] at hf
          rw [attempt_opened hfactory hopen,
            attempt_opened (t := (f.names b).reconnect t) hfactory hopen]
          have hspawned : Extends (e.spawnWorker b r.2) f := by
            refine ⟨?_, ?_⟩
            · rw [← htries]
              exact hf.workers
            · exact hf'.tasks
          have hcancelled : (f.part owner b e).cancelled _ _ = e.cancelled k t :=
            part_cancelled hr hf' ⟨t, ht, htries⟩ htries
          have htask : (f.names b).reconnect
              (if e.cancelled k t then (nextAttempt t).abandon
                else { nextAttempt t with phase := .sending (e.handleOf r.1 r.2 t.ctx.vendor_id
                  t.ctx.product_id t.ctx.hidraw_path) }) =
              if (f.part owner b e).cancelled ((f.names b).task k) ((f.names b).reconnect t) then
                (nextAttempt ((f.names b).reconnect t)).abandon
              else { nextAttempt ((f.names b).reconnect t) with
                phase := .sending ((f.part owner b e).handleOf r.1 r.2 t.ctx.vendor_id
                  t.ctx.product_id t.ctx.hidraw_path) } := by
            rw [hcancelled, part_handleOf hf']
            split <;> rfl
          show ((f.part owner b e).spawnWorker t.ctx.device_id r.2).setTask _ (if _ then _ else _) =
            f.part owner b ((e.spawnWorker t.ctx.device_id r.2).setTask k (if _ then _ else _))
          rw [htries, part_spawnWorker hr]
          rw [← part_setTask (rooted_spawnWorker hr b r.2) hspawned ht htries]
          · exact congrArg (setTask _ · _) htask.symm
          · split <;> rfl
          · intro handle hphase
            split at hphase
            · cases hphase
            · cases hphase
              exact serves_spawned _ _ _ _ _ _ e
      | error err =>
          rw [attempt_failed hfactory hopen,
            attempt_failed (t := (f.names b).reconnect t) hfactory hopen]
          by_cases htransient : is_transient_attach_error err = true
          · rw [if_pos htransient, if_pos htransient, ← names_retry_next]
            exact hquiet ((nextAttempt t).retry turn.now) rfl (retry_not_sending _ _)
          · rw [if_neg htransient, if_neg htransient]
            exact hquiet (nextAttempt t).abandon rfl (abandon_not_sending _)

end Attempt

end Supervisor

end Clackd.Engine
