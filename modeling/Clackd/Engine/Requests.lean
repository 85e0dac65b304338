import Clackd.Engine.Progress

/-!
# Requests are neither copied nor overtaken

A request is in one place at a time: on the engine channel, on the channel of one
worker, with the worker, or answered.  It is counted there by its reply channel,
which is its identity.

## Main results

* `linear_step`: no step copies a request.
* `in_order_step`: a worker's queue is what is left of what it was assigned.
-/

namespace Clackd.Engine

open Clackd.Foundation Clackd.Hal
open Std (ExtTreeMap)

namespace Sys

variable {W D : Type} [KeyboardDriver D]

/-! ## A request is in one place -/

/-- How often a request is on the channels of workers. -/
def waiting (reply : ReplyId) (workers : List (Worker D)) : Nat :=
  (workers.map fun x => x.rx.countP fun op => op.reply == reply).sum

/-- How often a request is anywhere. -/
def held (reply : ReplyId) (s : Sys D) : Nat :=
  s.queue.countP (fun envelope => envelope.cmd.replyTo == some reply) +
    waiting reply s.sup.workers + s.sup.log.countP (Effect.executes reply) +
      s.sup.log.countP (Effect.refuses reply)

omit [KeyboardDriver D] in
theorem waiting_set (reply : ReplyId) {workers : List (Worker D)} {w : WorkerId} {x : Worker D}
    (hx : workers[w]? = some x) (x' : Worker D) :
    waiting reply (workers.set w x') + x.rx.countP (fun op => op.reply == reply) =
      waiting reply workers + x'.rx.countP fun op => op.reply == reply := by
  induction workers generalizing w with
  | nil => cases hx
  | cons y workers ih =>
      cases w with
      | zero =>
          cases hx
          simp only [waiting, List.set_cons_zero, List.map_cons, List.sum_cons]
          omega
      | succ w =>
          have hrest := ih (w := w) hx
          simp only [waiting, List.set_cons_succ, List.map_cons, List.sum_cons] at hrest ⊢
          omega

omit [KeyboardDriver D] in
theorem waiting_spawn (reply : ReplyId) (workers : List (Worker D)) (id : String) (driver : D) :
    waiting reply (workers ++ [Worker.spawn id driver]) = waiting reply workers := by
  simp [waiting, Worker.spawn]

omit [KeyboardDriver D] in
theorem push_workers {e : Supervisor D} {w : WorkerId} {x : Worker D}
    (hx : e.workers[w]? = some x) (op : WorkerOp) :
    (e.push w op).workers = e.workers.set w { x with rx := x.rx ++ [op] } := by
  apply List.ext_getElem?
  intro v
  show (e.workers.modify w _)[v]? = _
  rw [List.getElem?_modify, List.getElem?_set]
  by_cases hv : w = v
  · subst hv
    obtain ⟨hlt, -⟩ := List.getElem?_eq_some_iff.1 hx
    simp only [if_true, if_pos hlt, hx]
    rfl
  · simp [hv]

omit [KeyboardDriver D] in
/-- A worker that takes an operation or does something else holds no more. -/
theorem held_worker {s : Sys D} {w : WorkerId} {x : Worker D} {r : Worker D × List Effect}
    (hx : s.sup.workers[w]? = some x) (hprogress : x.Progress w r) (reply : ReplyId) :
    waiting reply (s.sup.workers.set w r.1) + r.2.countP (Effect.executes reply) +
      r.2.countP (Effect.refuses reply) ≤ waiting reply s.sup.workers := by
  have hset := waiting_set reply hx r.1
  cases hprogress with
  | took op rest hrx hrx' hlog =>
      rw [hrx, hrx', List.countP_cons] at hset
      rw [hlog]
      by_cases hop : (op.reply == reply) = true
      · simp only [hop, if_true] at hset
        simp only [List.countP_singleton, Effect.executes, Effect.refuses, hop, if_true,
          Bool.false_eq_true, if_false]
        omega
      · simp only [hop] at hset
        simp only [List.countP_singleton, Effect.executes, Effect.refuses, hop,
          Bool.false_eq_true, if_false]
        omega
  | other hrx hinert =>
      have hexecutes : r.2.countP (Effect.executes reply) = 0 := by
        rw [List.countP_eq_zero]
        intro y hy
        simp [(hinert y hy).executes reply]
      have hrefuses : r.2.countP (Effect.refuses reply) = 0 := by
        rw [List.countP_eq_zero]
        intro y hy
        simp [(hinert y hy).refuses reply]
      have hle : r.1.rx.countP (fun op => op.reply == reply) ≤
          x.rx.countP fun op => op.reply == reply := by
        rcases hrx with hrx | hrx
        · rw [hrx]
        · simp [hrx]
      omega

/-- A turn holds no more than it had, the command on top of the queue included. -/
theorem held_supplied {cmd : EngineCommand} {e e' : Supervisor D}
    (h : Supervisor.Supplied cmd e e') (reply : ReplyId) :
    waiting reply e'.workers + e'.log.countP (Effect.executes reply) +
        e'.log.countP (Effect.refuses reply) ≤
      waiting reply e.workers + e.log.countP (Effect.executes reply) +
        e.log.countP (Effect.refuses reply) + if cmd.replyTo = some reply then 1 else 0 := by
  cases h with
  | kept effects hworkers hlog hquiet hrefused hdevices =>
      have hexecutes : effects.countP (Effect.executes reply) = 0 := by
        rw [List.countP_eq_zero]
        intro y hy
        simp [executes_of_not_began (hquiet y hy) reply]
      have hrefuses := hrefused reply
      rw [hworkers, hlog, List.countP_append, List.countP_append]
      omega
  | pushed id op handle hcmd hpresent hadmitted hopen heq =>
      obtain ⟨x, hx⟩ : ∃ x, e.workers[handle.tx]? = some x := by
        unfold Supervisor.closed at hopen
        split at hopen
        · rename_i x hx
          exact ⟨x, hx⟩
        · cases hopen
      have hpush : e'.workers = e.workers.set handle.tx { x with rx := x.rx ++ [op] } := by
        rw [heq]
        exact push_workers hx op
      have hset := waiting_set reply hx { x with rx := x.rx ++ [op] }
      have hlog : e'.log = e.log := by rw [heq]; rfl
      rw [hpush, hlog, forwarded_reply hcmd]
      simp only [List.countP_append, List.countP_singleton] at hset
      by_cases hop : op.reply = reply
      · simp only [hop, beq_self_eq_true, if_true] at hset ⊢
        omega
      · simp only [hop, beq_iff_eq, if_false] at hset
        simp only [Option.some.injEq, hop, if_false]
        omega
  | spawned id driver topology handle hcmd hprobe hworkers hdevices htx htopology hlog =>
      rw [hworkers, waiting_spawn, hlog, List.countP_append, List.countP_append]
      simp [Effect.executes, Effect.refuses]

variable [BackgroundTasks D]

/-- No step copies a request, and only a new one gets a new reply channel. -/
structure Linear (s : Sys D) : Prop where
  once : ∀ reply, held reply s ≤ 1
  fresh : ∀ reply, s.next_reply ≤ reply → held reply s = 0

omit [KeyboardDriver D] [BackgroundTasks D] in
theorem linear_start : (start : Sys D).Linear where
  once := by simp [held, start, Supervisor.new, waiting]
  fresh := by simp [held, start, Supervisor.new, waiting]

omit [KeyboardDriver D] [BackgroundTasks D] in
theorem Linear.of_le {s s' : Sys D} (h : s.Linear) (hheld : ∀ reply, held reply s' ≤ held reply s)
    (hreply : s'.next_reply = s.next_reply) : s'.Linear where
  once := fun reply => (hheld reply).trans (h.once reply)
  fresh := by
    intro reply hle
    have hzero := h.fresh reply (hreply ▸ hle)
    have hle' := hheld reply
    omega

theorem linear_step {table : DriverTable W D} {s s' : Sys D} {l : Label W} (h : s.Linear)
    (hstep : s.step table l = some s') : s'.Linear := by
  -- A message on no reply channel adds nothing.
  have hmessage : ∀ reply, (s'.queue = s.queue ∨ ∃ envelope, s'.queue = s.queue ++ [envelope] ∧
      envelope.cmd.replyTo = none) →
      s'.queue.countP (fun envelope => envelope.cmd.replyTo == some reply) =
        s.queue.countP fun envelope => envelope.cmd.replyTo == some reply := by
    rintro reply (hqueue | ⟨envelope, hqueue, hnone⟩)
    · rw [hqueue]
    · rw [hqueue, List.countP_append]
      simp [hnone]
  cases step_progressed hstep with
  | turned envelope rest hturned hsupplied hreply =>
      refine h.of_le ?_ hreply
      intro reply
      have hsup := held_supplied hsupplied reply
      have hlog : ∀ p : Effect → Bool, p (.handled envelope) = false →
          (s.sup.emit [.handled envelope]).log.countP p = s.sup.log.countP p := by
        intro p hp
        show (s.sup.log ++ [Effect.handled envelope]).countP p = _
        rw [List.countP_append]
        simp [hp]
      rw [hlog _ rfl, hlog _ rfl] at hsup
      unfold held
      rw [hturned.queue', hturned.queue, List.countP_cons]
      simp only [beq_iff_eq]
      change _ ≤ waiting reply s.sup.workers + _ + _ + _ at hsup
      omega
  | stopped envelope rest hstops hworkers hreply =>
      refine h.of_le ?_ hreply
      intro reply
      unfold held
      rw [hstops.queue', hstops.queue, hworkers, hstops.log, List.countP_cons, List.countP_append,
        List.countP_append]
      simp [Effect.executes, Effect.refuses]
  | returned hreturns hworkers hreply =>
      refine h.of_le ?_ hreply
      intro reply
      unfold held
      rw [hreturns.queue', hreturns.log, hworkers]
      simp
  | entered envelope hsup hstatus hqueue hreply hfresh hplain =>
      have hheld : ∀ reply, held reply s' = held reply s +
          if envelope.cmd.replyTo = some reply then 1 else 0 := by
        intro reply
        unfold held
        rw [hsup, hqueue, List.countP_append, List.countP_singleton]
        simp only [beq_iff_eq]
        omega
      have hown : ∀ reply, envelope.cmd.replyTo = some reply → reply = s.next_reply := by
        intro reply hcmd
        rw [hcmd] at hfresh
        simpa using hfresh
      constructor
      · intro reply
        rw [hheld]
        split
        · rename_i hcmd
          rw [h.fresh reply (Nat.le_of_eq (hown reply hcmd).symm)]
        · exact h.once reply
      · intro reply hle
        rw [hreply] at hle
        rw [hheld, h.fresh reply (Nat.le_of_succ_le hle), if_neg]
        intro hcmd
        exact Nat.not_succ_le_self _ (hown reply hcmd ▸ hle)
  | worker w x r hx hprogress hdriven hsup hstatus hreply hqueue =>
      refine h.of_le ?_ hreply
      intro reply
      have hworker := held_worker hx hprogress reply
      have hsame := hmessage reply (hqueue.imp_right fun hsent =>
        hsent.imp fun _ h => ⟨h.1, h.2.1⟩)
      unfold held
      rw [hsame, hsup]
      simp only [setWorker, List.countP_append]
      omega
  | idled hworkers hregistry hlog hstatus hreply hqueue hhanded =>
      refine h.of_le ?_ hreply
      intro reply
      unfold held
      rw [hmessage reply hqueue, hworkers, hlog]
  | opened id driver topology handle hprobe hworkers hregistry hlog hstatus hreply hqueue htx
      htopology hhanded =>
      refine h.of_le ?_ hreply
      intro reply
      unfold held
      rw [hqueue, hworkers, waiting_spawn, hlog]

/-! ## In order -/

/-- The record knows who is registered, and a worker's queue is what is left of the
requests it was assigned. -/
structure InOrder (s : Sys D) : Prop where
  registered : s.status = .running → registeredAfter s.sup.log = txs s.sup.registry.devices
  queued : ∀ (w : WorkerId) (x : Worker D), s.sup.workers[w]? = some x →
    (executed w s.sup.log ++ x.rx).Sublist (assignedTo w s.sup.log)
  absent : ∀ w : WorkerId, s.sup.workers[w]? = none → executed w s.sup.log = []

omit [KeyboardDriver D] [BackgroundTasks D] in
theorem inOrder_start : (start : Sys D).InOrder where
  registered := by
    intro _
    funext id
    simp [registeredAfter, start, Supervisor.new, txs]
  queued := by
    intro w x hx
    cases hx
  absent := fun _ _ => rfl

omit [KeyboardDriver D] [BackgroundTasks D] in
/-- The record follows the registry through a turn. -/
theorem registered_handled {cmd : EngineCommand} {sender : Origin} {e e' : Supervisor D}
    (hhandled : e.Handled cmd sender e') (h : registeredAfter e.log = txs e.registry.devices) :
    registeredAfter e'.log = txs e'.registry.devices := by
  cases hhandled with
  | quiet effects hregistry htasks hlog hreplies hplug hopen herror hreattached =>
      rw [hlog, registeredAfter_append, registered_of_quiet, h, hregistry]
      intro x hx
      obtain ⟨reply, r, rfl⟩ := hreplies x hx
      rfl
  | cancelled id hcmd hregistry htasks hlog habsent => rw [hlog, h, hregistry]
  | connected id vendor_id product_id path handle hcmd habsent htx hregistry htasks hlog =>
      rw [hlog, registeredAfter_append, h, hregistry, txs_insert]
      rfl
  | retried id vendor_id product_id path t hcmd habsent ht hregistry htasks hlog =>
      rw [hlog, registeredAfter_append, h, hregistry]
      rfl
  | disconnected id handle hcmd hpresent hregistry htasks hlog =>
      rw [hlog, registeredAfter_append, h, hregistry, txs_erase]
      rfl
  | lost id handle t hcmd hpresent ht hregistry htasks hlog =>
      rw [hlog, registeredAfter_append, h, hregistry, txs_erase]
      rfl
  | failed id err handle hcmd herr hpresent hregistry htasks hlog =>
      rw [hlog, registeredAfter_append, h, hregistry, txs_erase]
      rfl
  | reattached id handle token k hcmd hcurrent hregistry htasks hlog =>
      rw [hlog, registeredAfter_append, h, hregistry, txs_insert]
      rfl
  | evicted id op handle hcmd hpresent hadmitted hclosed hregistry htasks hlog =>
      rw [hlog, registeredAfter_append, h, hregistry, txs_erase]
      rfl

omit [KeyboardDriver D] [BackgroundTasks D] in
/-- What is left of the assigned requests stays so when more are assigned. -/
theorem sublist_more {w : WorkerId} {ops : List WorkerOp} {log : List Effect}
    (h : ops.Sublist (assignedTo w log)) (more : List Effect) :
    ops.Sublist (assignedTo w (log ++ more)) := by
  rw [assignedTo_append]
  exact h.trans (List.sublist_append_left _ _)

omit [KeyboardDriver D] [BackgroundTasks D] in
/-- A worker that is spawned has nothing queued. -/
theorem InOrder.spawned {s s' : Sys D} (h : s.InOrder) {id : String} {driver : D}
    (more : List Effect) (hworkers : s'.sup.workers = s.sup.workers ++ [Worker.spawn id driver])
    (hlog : s'.sup.log = s.sup.log ++ more) (hquiet : ∀ x ∈ more, x.isBegan = false)
    (hregistered : s'.status = .running →
      registeredAfter s'.sup.log = txs s'.sup.registry.devices) : s'.InOrder := by
  have hexecuted : ∀ w, executed w s'.sup.log = executed w s.sup.log := by
    intro w
    rw [hlog, executed_append, executed_of_not_began hquiet, List.append_nil]
  refine ⟨hregistered, ?_, ?_⟩
  · intro w x hx
    rw [hexecuted, hlog]
    apply sublist_more
    by_cases hlt : w < s.sup.workers.length
    · rw [hworkers, List.getElem?_append_left hlt] at hx
      exact h.queued w x hx
    · have hnone : s.sup.workers[w]? = none := List.getElem?_eq_none (Nat.le_of_not_lt hlt)
      rw [hworkers, List.getElem?_append_right (Nat.le_of_not_lt hlt)] at hx
      obtain ⟨-, rfl⟩ := List.getElem?_eq_some_iff.1 hx
      rw [h.absent w hnone]
      simp [Worker.spawn]
  · intro w hnone
    rw [hexecuted]
    apply h.absent
    rw [hworkers, List.getElem?_eq_none_iff, List.length_append] at hnone
    exact List.getElem?_eq_none (by omega)

omit [KeyboardDriver D] [BackgroundTasks D] in
/-- Nothing about the workers changes. -/
theorem InOrder.kept {s s' : Sys D} (h : s.InOrder) (more : List Effect)
    (hworkers : s'.sup.workers = s.sup.workers) (hlog : s'.sup.log = s.sup.log ++ more)
    (hquiet : ∀ x ∈ more, x.isBegan = false)
    (hregistered : s'.status = .running →
      registeredAfter s'.sup.log = txs s'.sup.registry.devices) : s'.InOrder := by
  have hexecuted : ∀ w, executed w s'.sup.log = executed w s.sup.log := by
    intro w
    rw [hlog, executed_append, executed_of_not_began hquiet, List.append_nil]
  refine ⟨hregistered, ?_, ?_⟩
  · intro w x hx
    rw [hworkers] at hx
    rw [hexecuted, hlog]
    exact sublist_more (h.queued w x hx) more
  · intro w hnone
    rw [hexecuted]
    exact h.absent w (by rw [← hworkers, hnone])

omit [KeyboardDriver D] [BackgroundTasks D] in
/-- A worker moves. -/
theorem InOrder.moved {s s' : Sys D} (h : s.InOrder) {w : WorkerId} {x : Worker D}
    {r : Worker D × List Effect} (hx : s.sup.workers[w]? = some x) (hprogress : x.Progress w r)
    (hsup : s'.sup = (s.setWorker w r).sup) (hstatus : s'.status = s.status) : s'.InOrder := by
  have hworkers : s'.sup.workers = s.sup.workers.set w r.1 := by rw [hsup]; rfl
  have hlog : s'.sup.log = s.sup.log ++ r.2 := by rw [hsup]; rfl
  have hquiet : ∀ y ∈ r.2, y.isQuiet = true := by
    cases hprogress with
    | took op rest hrx hrx' hr =>
        rw [hr]
        intro y hy
        rw [List.mem_singleton.1 hy]
        rfl
    | other hrx hinert => exact fun y hy => (hinert y hy).quiet
  -- What the others have executed is as before.
  have hothers : ∀ v, v ≠ w → executed v s'.sup.log = executed v s.sup.log := by
    intro v hv
    rw [hlog, executed_append, hprogress.executed_other hv, List.append_nil]
  refine ⟨?_, ?_, ?_⟩
  · intro hrunning
    rw [hlog, registeredAfter_append, registered_of_quiet hquiet, hsup]
    exact h.registered (hstatus ▸ hrunning)
  · intro v y hy
    rw [hworkers, List.getElem?_set] at hy
    by_cases hv : w = v
    · subst hv
      rw [if_pos rfl] at hy
      split at hy
      · cases hy
        have hqueued := h.queued w x hx
        rw [hlog, executed_append, List.append_assoc]
        apply sublist_more
        rcases hprogress.executed_self with hleft | hleft
        · rw [hleft]
          exact hqueued
        · rw [hleft, List.append_nil]
          exact (List.sublist_append_left _ _).trans hqueued
      · cases hy
    · rw [if_neg hv] at hy
      rw [hothers v (Ne.symm hv), hlog]
      exact sublist_more (h.queued v y hy) r.2
  · intro v hnone
    have hv : v ≠ w := by
      rintro rfl
      rw [hworkers, List.getElem?_set, if_pos rfl] at hnone
      obtain ⟨hlt, -⟩ := List.getElem?_eq_some_iff.1 hx
      simp [hlt] at hnone
    rw [hothers v hv]
    apply h.absent
    rw [hworkers, List.getElem?_set, if_neg (Ne.symm hv)] at hnone
    exact hnone

omit [KeyboardDriver D] [BackgroundTasks D] in
/-- A request is queued for the worker that is registered. -/
theorem InOrder.pushed {s s' : Sys D} (h : s.InOrder) {envelope : Envelope} {id : String}
    {op : WorkerOp} {handle : DeviceHandle} (hrunning : s.status = .running)
    (hcmd : envelope.cmd.forwarded = some (id, op))
    (hpresent : s.sup.registry.devices[id]? = some handle)
    (hopen : s.sup.closed handle.tx = false)
    (hsup : s'.sup = (s.sup.emit [.handled envelope]).push handle.tx op) : s'.InOrder := by
  have hlog : s'.sup.log = s.sup.log ++ [.handled envelope] := by rw [hsup]; rfl
  have hexecuted : ∀ w, executed w s'.sup.log = executed w s.sup.log := by
    intro w
    rw [hlog, executed_append]
    exact List.append_nil _
  have hregistered := h.registered hrunning
  obtain ⟨x, hx⟩ : ∃ x, s.sup.workers[handle.tx]? = some x := by
    unfold Supervisor.closed at hopen
    split at hopen
    · rename_i x hx
      exact ⟨x, hx⟩
    · cases hopen
  have hworkers : s'.sup.workers = s.sup.workers.set handle.tx { x with rx := x.rx ++ [op] } := by
    rw [hsup]
    exact push_workers (e := s.sup.emit [.handled envelope]) hx op
  -- The request is assigned to the worker it is queued for.
  have hassigned : assignedTo handle.tx s'.sup.log = assignedTo handle.tx s.sup.log ++ [op] := by
    have htx : registeredAfter s.sup.log id = some handle.tx := by
      rw [hregistered, txs, hpresent]
      rfl
    rw [hlog, assignedTo_append]
    simp [assigned, assignment, hcmd, htx]
  refine ⟨?_, ?_, ?_⟩
  · intro _
    rw [hlog, registeredAfter_append, hsup]
    exact hregistered
  · intro v y hy
    rw [hworkers, List.getElem?_set] at hy
    by_cases hv : handle.tx = v
    · subst hv
      rw [if_pos rfl] at hy
      split at hy
      · cases hy
        rw [hexecuted, hassigned, ← List.append_assoc]
        exact (h.queued _ x hx).append (List.Sublist.refl _)
      · cases hy
    · rw [if_neg hv] at hy
      rw [hexecuted, hlog]
      exact sublist_more (h.queued v y hy) _
  · intro v hnone
    rw [hexecuted]
    apply h.absent
    rw [hworkers, List.getElem?_eq_none_iff, List.length_set] at hnone
    exact List.getElem?_eq_none hnone

theorem in_order_step {table : DriverTable W D} {s s' : Sys D} {l : Label W} (h : s.InOrder)
    (hstep : s.step table l = some s') : s'.InOrder := by
  cases step_progressed hstep with
  | turned envelope rest hturned hsupplied hreply =>
      have hregistered := registered_handled hturned.handled (by
        show registeredAfter (s.sup.log ++ [.handled envelope]) = _
        rw [registeredAfter_append]
        exact h.registered hturned.running)
      cases hsupplied with
      | kept effects hworkers hlog hquiet hrefused hdevices =>
          refine h.kept (.handled envelope :: effects) hworkers
            (hlog.trans (List.append_assoc _ _ _)) ?_ fun _ => hregistered
          intro x hx
          rcases List.mem_cons.1 hx with rfl | hx
          · rfl
          · exact hquiet x hx
      | pushed id op handle hcmd hpresent hadmitted hopen heq =>
          exact h.pushed hturned.running hcmd hpresent hopen heq
      | spawned id driver topology handle hcmd hprobe hworkers hdevices htx htopology hlog =>
          refine h.spawned (.handled envelope :: _) hworkers
            (hlog.trans (List.append_assoc _ _ _)) ?_ fun _ => hregistered
          simp [Effect.isBegan]
  | stopped envelope rest hstops hworkers hreply =>
      refine h.kept _ hworkers hstops.log (by simp [Effect.isBegan]) ?_
      intro hcon
      rw [hstops.status'] at hcon
      cases hcon
  | returned hreturns hworkers hreply =>
      refine h.kept [] hworkers (hreturns.log.trans (List.append_nil _).symm) (by simp) ?_
      intro hcon
      rw [hreturns.status'] at hcon
      cases hcon
  | entered envelope hsup hstatus hqueue hreply hfresh hplain =>
      refine h.kept [] (by rw [hsup]) (by rw [hsup, List.append_nil]) (by simp) ?_
      intro hrunning
      rw [hsup]
      exact h.registered (hstatus ▸ hrunning)
  | worker w x r hx hprogress hdriven hsup hstatus hreply hqueue =>
      exact h.moved hx hprogress hsup hstatus
  | idled hworkers hregistry hlog hstatus hreply hqueue hhanded =>
      refine h.kept [] hworkers (hlog.trans (List.append_nil _).symm) (by simp) ?_
      intro hrunning
      rw [hlog, hregistry]
      exact h.registered (hstatus ▸ hrunning)
  | opened id driver topology handle hprobe hworkers hregistry hlog hstatus hreply hqueue htx
      htopology hhanded =>
      refine h.spawned [] hworkers (hlog.trans (List.append_nil _).symm) (by simp) ?_
      intro hrunning
      rw [hlog, hregistry]
      exact h.registered (hstatus ▸ hrunning)

end Sys

end Clackd.Engine
