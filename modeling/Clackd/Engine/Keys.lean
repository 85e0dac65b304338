import Clackd.Engine.Boxed
import Clackd.Hal.Legacy.Overlay
import Clackd.Hal.Via.Refinement

/-!
# The keymap of a driver

What clients may rely on is the same for all drivers of the daemon.  There is a keymap:
reads give it, and an edit that succeeds changes it at one position.  A commit that
succeeds settles it: the device then holds it, or will be given it again.  A commit that
fails takes the edits of a legacy driver back to what was settled.

## Main results

* `Keys.afterAll_of_undisturbed`: what leaves the keycode at a position.
* `BoxedDriver.performed`: a job of the worker does to a driver what it does to its keymap,
  and a commit that succeeds leaves it in the device.
* `unedited_opened`: the daemon attaches drivers without edits.
-/

namespace Clackd.Engine

open Clackd.Foundation Clackd.Hal Clackd.Hal.Via Clackd.Hal.Legacy
open Std (ExtTreeMap)

/-! ## Keymaps -/

/-- The edit that a job is. -/
def Job.edit : Job → Option (Slot × UInt16)
  | .op (.setKeycode layer row col keycode _) => some ((layer, row, col), keycode)
  | _ => none

/-- A keymap as its clients know it. -/
structure Keys where
  /-- What reads give. -/
  current : Slot → UInt16
  /-- What the last commit that succeeded has left. -/
  settled : Slot → UInt16

namespace Keys

/-- A keymap without edits. -/
def fresh (keymap : Slot → UInt16) : Keys := ⟨keymap, keymap⟩

/-- A keymap after a job, by whether it succeeded.  Edits that are staged are lost with a
commit that fails. -/
def after (staged : Bool) (k : Keys) (job : Job) (ok : Bool) : Keys :=
  if job.isCommit then
    if ok then fresh k.current else if staged then fresh k.settled else k
  else
    match job.edit with
    | some edit => if ok then { k with current := Function.update k.current edit.1 edit.2 } else k
    | none => k

theorem after_failed (k : Keys) (job : Job) : k.after false job false = k := by
  rw [after]
  split
  · rfl
  · cases job.edit <;> rfl

/-- A job that is neither a commit nor an edit. -/
theorem after_quiet (staged : Bool) (k : Keys) {job : Job} (hcommit : job.isCommit = false)
    (hedit : job.edit = none) (ok : Bool) : k.after staged job ok = k := by
  rw [after, hcommit, hedit]
  rfl

/-- A keymap after some jobs. -/
def afterAll (staged : Bool) (k : Keys) (jobs : List (Job × Bool)) : Keys :=
  jobs.foldl (fun k done => k.after staged done.1 done.2) k

theorem afterAll_append (staged : Bool) (k : Keys) (jobs more : List (Job × Bool)) :
    k.afterAll staged (jobs ++ more) = (k.afterAll staged jobs).afterAll staged more :=
  List.foldl_append

/-- The job may change what reads give at the position. -/
def Disturbs (staged : Bool) (slot : Slot) (done : Job × Bool) : Prop :=
  (done.2 = true ∧ ∃ keycode, done.1.edit = some (slot, keycode)) ∨
    (done.2 = false ∧ staged = true ∧ done.1.isCommit = true)

theorem after_of_undisturbed {staged : Bool} {slot : Slot} {job : Job} {ok : Bool}
    (h : ¬ Disturbs staged slot (job, ok)) (k : Keys) :
    (k.after staged job ok).current slot = k.current slot := by
  rw [after]
  by_cases hcommit : job.isCommit = true
  · rw [if_pos hcommit]
    cases ok with
    | true => rfl
    | false =>
        have hstaged : ¬ staged = true := fun hstaged => h (.inr ⟨rfl, hstaged, hcommit⟩)
        rw [if_neg Bool.false_ne_true, if_neg hstaged]
  · rw [if_neg hcommit]
    cases hedit : job.edit with
    | none => rfl
    | some edit =>
        cases ok with
        | true =>
            have hne : slot ≠ edit.1 := by
              intro heq
              subst heq
              exact h (.inl ⟨rfl, edit.2, hedit⟩)
            exact Function.update_of_ne hne _ _
        | false => rfl

/-- What reads give stays as long as nothing disturbs it. -/
theorem afterAll_of_undisturbed {staged : Bool} {slot : Slot} {jobs : List (Job × Bool)}
    (h : ∀ done ∈ jobs, ¬ Disturbs staged slot done) (k : Keys) :
    (k.afterAll staged jobs).current slot = k.current slot := by
  induction jobs generalizing k with
  | nil => rfl
  | cons done jobs ih =>
      have hrest := ih (fun done hdone => h done (List.mem_cons_of_mem _ hdone))
        (k.after staged done.1 done.2)
      rw [after_of_undisturbed (h done List.mem_cons_self)] at hrest
      exact hrest

end Keys

end Clackd.Engine

/-! ## The stored keymap of the VIA driver -/

namespace Clackd.Hal.Via

open Clackd.Foundation Clackd.Hal

variable {T : Type} [CoalescerTransport T]

/-- Only an edit touches the stored keymap. -/
theorem ViaDirect.serve_keeps (R : KeymapStore T) (order : HashOrder) (d : ViaDirect T)
    {op : CoalescerOp} (hop : ∀ layer row col keycode, op ≠ .setKeycode layer row col keycode) :
    R.read (d.serve order op).2.transport = R.read d.transport := by
  cases op with
  | setKeycode layer row col keycode => exact absurd rfl (hop layer row col keycode)
  | getKeycode layer row col => exact ViaDirect.read_onTransport R (R.get_keeps _ _ _) d
  | getLayerCount => exact ViaDirect.read_onTransport R R.layerCount_keeps d
  | getProtocolVersion => exact ViaDirect.read_onTransport R R.version_keeps d
  | flush => exact save_touched_channels_keeps R order (d.transport, d.touched_channels)
  | getMacro offset length => exact ViaDirect.read_onTransport R (R.getMacro_keeps offset length) d
  | setMacro offset data => exact ViaDirect.read_onTransport R (R.setMacro_keeps offset data) d
  | getLighting channel value_id =>
      exact ViaDirect.read_onTransport R (R.getLighting_keeps channel value_id) d
  | setLighting channel value_id data =>
      have hkeeps : Keeps (fun d d' : ViaDirect T => R.read d'.transport = R.read d.transport)
          (ViaDirect.set_lighting channel value_id data) :=
        Keeps.bind (fun _ _ _ h h' => h'.trans h)
          (ViaDirect.read_onTransport R (R.setLighting_keeps channel value_id data))
          fun _ _ => rfl
      exact hkeeps d

/-- An operation that fails leaves the stored keymap. -/
theorem ViaDirect.serve_read_error (R : KeymapStore T) (order : HashOrder) (d : ViaDirect T)
    (op : CoalescerOp) (herror : (d.serve order op).1.isOk = false) :
    R.read (d.serve order op).2.transport = R.read d.transport := by
  by_cases hset : ∃ layer row col keycode, op = .setKeycode layer row col keycode
  · obtain ⟨layer, row, col, keycode, rfl⟩ := hset
    change Except.isOk (exec (CoalescerTransport.set_keycode layer row col keycode)
      d.transport).1 = false at herror
    cases h : (exec (CoalescerTransport.set_keycode layer row col keycode) d.transport).1 with
    | ok _ =>
        rw [h] at herror
        cases herror
    | error e => exact R.set_error d.transport layer row col keycode e h
  · refine ViaDirect.serve_keeps R order d fun layer row col keycode hop => hset ?_
    exact ⟨layer, row, col, keycode, hop⟩

/-- The reply is of the kind that the operation asks for. -/
def CoalescerOp.fits : CoalescerOp → CoalescerReply → Bool
  | .getProtocolVersion, .version _ => true
  | .getKeycode _ _ _, .keycode _ => true
  | .setKeycode _ _ _ _, .done _ => true
  | .getLayerCount, .layerCount _ => true
  | .flush, .done _ => true
  | .getMacro _ _, .bytes _ => true
  | .setMacro _ _, .done _ => true
  | .getLighting _ _, .bytes _ => true
  | .setLighting _ _ _, .done _ => true
  | _, _ => false

theorem ViaDirect.serve_fits (order : HashOrder) (d : ViaDirect T) (op : CoalescerOp) :
    op.fits (d.serve order op).1 = true := by
  cases op <;> rfl

theorem Coalescer.answer_fits (args : CoalescerArgs) (turn : Turn) (c : Coalescer T)
    (op : CoalescerOp) : op.fits (c.answer args turn op).1 = true := by
  cases op <;> rfl

/-- An edit never fails while the actor is there. -/
theorem Coalescer.apply_of_failed {args : CoalescerArgs} {turn : Turn} {c : Coalescer T}
    {op : CoalescerOp} (h : (c.answer args turn op).1.isOk = false) (keymap : Slot → UInt16) :
    op.apply keymap = keymap := by
  cases op with
  | setKeycode layer row col keycode => cases h
  | _ => rfl

end Clackd.Hal.Via

/-! ## The keymap of a driver -/

namespace Clackd.Engine

open Clackd.Foundation Clackd.Hal Clackd.Hal.Via Clackd.Hal.Legacy
open Std (ExtTreeMap)

namespace BoxedDriver

variable {T I Text : Type}

/-- Edits wait for the commit. -/
def staged : BoxedDriver T I Text → Bool
  | .via _ => false
  | .gmk67 _ => true

variable [CoalescerTransport T]

/-- The keymap that reads give. -/
def reads (R : KeymapStore T) : BoxedDriver T I Text → Slot → UInt16
  | .via d =>
      match d.inner with
      | .direct inner => R.read inner.transport
      | .coalesced _ actor => actor.keymap R
  | .gmk67 d => Ledger.reading d

/-- The keymap that is kept: the one in the device, or the last one that was committed to
it. -/
def kept (R : KeymapStore T) : BoxedDriver T I Text → Slot → UInt16
  | .via d =>
      match d.inner with
      | .direct inner => R.read inner.transport
      | .coalesced _ actor => R.read actor.transport
  | .gmk67 d => fun slot => d.shadow.confirmed[slot]?.getD 0

/-- The driver has this keymap. -/
def Shows (R : KeymapStore T) (d : BoxedDriver T I Text) (k : Keys) : Prop :=
  d.reads R = k.current ∧
    ∀ legacy, d = .gmk67 legacy → legacy.shadow.Tracked ∧ d.kept R = k.settled

variable [Gmk67Io I] [SerdeJson Text]

theorem isOk_mapError {α : Type} (x : Except DriverError α) :
    (x.mapError DaemonError.driver).isOk = x.isOk := by
  cases x <;> rfl

variable (I Text) in
/-- A job of a VIA driver is an exchange. -/
theorem perform_exchange {turn : Turn} {d d' : ViaDriver T} {job : Job} {reply : CoalescerReply}
    (hask : ∀ {α : Type} (read : CoalescerReply → Except DriverError α),
      exec (ViaDriver.ask read turn job.relayed) d = (read reply, d'))
    (hfits : job.relayed.fits reply = true) :
    let o := Worker.perform turn (.via d : BoxedDriver T I Text) job
    o.driver = .via d' ∧ o.ok = reply.isOk ∧
      ∀ layer row col channel keycode, job = .op (.getKeycode layer row col channel) →
        o.reply = .keycode (.ok keycode) → reply = .keycode (.ok keycode) := by
  have hothers : ∀ {α : Type} {read : CoalescerReply → Except DriverError α}
      {wrap : Except DaemonError α → Reply}, (read reply).isOk = reply.isOk →
      (∀ layer row col channel, job ≠ .op (.getKeycode layer row col channel)) →
      let o : Outcome (BoxedDriver T I Text) := Worker.outcome wrap
        ((exec (ViaDriver.ask read turn job.relayed) d).map id .via)
      o.driver = .via d' ∧ o.ok = reply.isOk ∧
        ∀ layer row col channel keycode, job = .op (.getKeycode layer row col channel) →
          o.reply = .keycode (.ok keycode) → reply = .keycode (.ok keycode) := by
    intro α read wrap hread hjob
    rw [hask read]
    exact ⟨rfl, (isOk_mapError (read reply)).trans hread,
      fun layer row col channel keycode hcon => absurd hcon (hjob layer row col channel)⟩
  cases job with
  | debounced =>
      cases reply with
      | done result => exact hothers rfl (by simp)
      | _ => cases hfits
  | final =>
      cases reply with
      | done result => exact hothers rfl (by simp)
      | _ => cases hfits
  | op op =>
      cases op with
      | getKeycode layer row col channel =>
          cases reply with
          | keycode result =>
              have hexec : exec (ViaDriver.ask CoalescerReply.toKeycode turn
                  (.getKeycode layer row col)) d = (result, d') := hask CoalescerReply.toKeycode
              refine ⟨?_, ?_, ?_⟩
              · show BoxedDriver.via (exec (ViaDriver.ask CoalescerReply.toKeycode turn _) d).2 = _
                rw [hexec]
              · show ((exec (ViaDriver.ask CoalescerReply.toKeycode turn _) d).1.mapError
                  DaemonError.driver).isOk = _
                rw [hexec]
                exact isOk_mapError result
              · intro layer row col channel keycode _ hreply
                change Reply.keycode ((exec (ViaDriver.ask CoalescerReply.toKeycode turn _)
                  d).1.mapError DaemonError.driver) = _ at hreply
                rw [hexec] at hreply
                cases result with
                | ok kc =>
                    cases hreply
                    rfl
                | error e => cases hreply
          | _ => cases hfits
      | setKeycode layer row col keycode channel =>
          cases reply with
          | done result => exact hothers rfl (by simp)
          | _ => cases hfits
      | commit channel =>
          cases reply with
          | done result => exact hothers rfl (by simp)
          | _ => cases hfits
      | getMacro offset length channel =>
          cases reply with
          | bytes result => exact hothers rfl (by simp)
          | _ => cases hfits
      | setMacro offset data channel =>
          cases reply with
          | done result => exact hothers rfl (by simp)
          | _ => cases hfits
      | getLighting lights value_id channel =>
          cases reply with
          | bytes result => exact hothers rfl (by simp)
          | _ => cases hfits
      | setLighting lights value_id data channel =>
          cases reply with
          | done result => exact hothers rfl (by simp)
          | _ => cases hfits

variable (I Text) in
/-- A driver whose actor has exited refuses every job. -/
theorem perform_exited (turn : Turn) {d : ViaDriver T} {args : CoalescerArgs} {actor : Coalescer T}
    (h : d.inner = .coalesced args actor) (hexited : actor.exited.isSome = true) (job : Job) :
    let o := Worker.perform turn (.via d : BoxedDriver T I Text) job
    o.driver = .via d ∧ o.ok = false ∧ ∀ keycode, o.reply ≠ .keycode (.ok keycode) := by
  have hask : ∀ {α : Type} {read : CoalescerReply → Except DriverError α} {op : CoalescerOp}
      {wrap : Except DaemonError α → Reply},
      (∀ keycode, wrap (.error (.driver .disconnected)) ≠ .keycode (.ok keycode)) →
        let o : Outcome (BoxedDriver T I Text) := Worker.outcome wrap
          ((exec (ViaDriver.ask read turn op) d).map id .via)
        o.driver = .via d ∧ o.ok = false ∧ ∀ keycode, o.reply ≠ .keycode (.ok keycode) := by
    intro α read op wrap hwrap
    have hexec : exec (ViaDriver.ask read turn op) d = (.error .disconnected, d) := by
      simp only [ViaDriver.ask, exec_primitive, h, hexited, if_true]
    rw [hexec]
    exact ⟨rfl, rfl, hwrap⟩
  cases job with
  | op op => cases op <;> exact hask (by simp)
  | debounced => exact hask (by simp)
  | final => exact hask (by simp)

/-! ## A job -/

/-- What a job does to the keymap of a driver that is not staged. -/
theorem after_current (k : Keys) (job : Job) (ok : Bool) :
    (k.after false job ok).current =
      if ok then job.relayed.apply k.current else k.current := by
  cases job with
  | op op => cases op <;> cases ok <;> rfl
  | debounced => cases ok <;> rfl
  | final => cases ok <;> rfl

/-- What a job does to a driver and its keymap. -/
structure Performed (R : KeymapStore T) (d : BoxedDriver T I Text) (k : Keys) (job : Job)
    (o : Outcome (BoxedDriver T I Text)) : Prop where
  shows : o.driver.Shows R (k.after d.staged job o.ok)
  staged : o.driver.staged = d.staged
  /-- A read that succeeds gives what is there. -/
  read : ∀ layer row col channel keycode, job = .op (.getKeycode layer row col channel) →
    o.reply = .keycode (.ok keycode) → keycode = k.current (layer, row, col)
  /-- A commit that succeeds leaves it in the device. -/
  kept : job.isCommit = true → o.ok = true → o.driver.kept R = k.current

/-- A job of a VIA driver. -/
theorem performed_via (R : KeymapStore T) (turn : Turn) {d : ViaDriver T} {k : Keys}
    (h : (.via d : BoxedDriver T I Text).Shows R k) (job : Job) :
    Performed R (.via d) k job (Worker.perform turn (.via d : BoxedDriver T I Text) job) := by
  have hcurrent : (BoxedDriver.via d : BoxedDriver T I Text).reads R = k.current := h.1
  cases hinner : d.inner with
  | direct inner =>
      have hreads : R.read inner.transport = k.current := by
        rw [← hcurrent, reads, hinner]
      obtain ⟨hdriver, hok, hreply⟩ := perform_exchange I Text
        (fun read => exec_ask_direct read turn job.relayed hinner)
        (ViaDirect.serve_fits turn.order inner job.relayed)
      generalize Worker.perform turn (.via d : BoxedDriver T I Text) job = o at *
      have hafter : o.driver.reads R = (k.after false job o.ok).current := by
        rw [after_current, hdriver, hok, reads]
        cases hserved : (inner.serve turn.order job.relayed).1.isOk with
        | true =>
            rw [if_pos rfl, ← hreads]
            exact ViaDirect.serve_read R turn.order inner job.relayed hserved
        | false =>
            rw [if_neg Bool.false_ne_true, ← hreads]
            exact ViaDirect.serve_read_error R turn.order inner job.relayed hserved
      refine ⟨⟨hafter, ?_⟩, by rw [hdriver]; rfl, ?_, ?_⟩
      · intro legacy hlegacy
        rw [hdriver] at hlegacy
        cases hlegacy
      · intro layer row col channel keycode hjob hgot
        have hserved := hreply layer row col channel keycode hjob hgot
        subst hjob
        have hgiven : (exec (CoalescerTransport.get_keycode layer row col) inner.transport).1 =
            .ok keycode := CoalescerReply.keycode.inj hserved
        rw [← hreads]
        exact R.get_ok inner.transport layer row col keycode hgiven
      · intro hcommit _
        rw [hdriver, kept, Job.relayed_of_commit hcommit, ← hreads]
        exact ViaDirect.serve_keeps R turn.order inner (by simp)
  | coalesced args actor =>
      have hreads : actor.keymap R = k.current := by
        rw [← hcurrent, reads, hinner]
      cases hexited : actor.exited with
      | some ended =>
          obtain ⟨hdriver, hok, hreply⟩ :=
            perform_exited I Text turn hinner (by rw [hexited]; rfl) job
          generalize Worker.perform turn (.via d : BoxedDriver T I Text) job = o at *
          refine ⟨?_, by rw [hdriver], ?_, ?_⟩
          · rw [hdriver, hok]
            show Shows R _ (k.after false job false)
            rw [Keys.after_failed]
            exact h
          · intro layer row col channel keycode _ hgot
            exact absurd hgot (hreply keycode)
          · intro _ hdone
            rw [hok] at hdone
            cases hdone
      | none =>
          obtain ⟨hdriver, hok, hreply⟩ := perform_exchange I Text
            (fun read => ViaDriver.exec_ask read turn job.relayed hinner hexited)
            (Coalescer.answer_fits args turn actor job.relayed)
          generalize Worker.perform turn (.via d : BoxedDriver T I Text) job = o at *
          have hkeymap : (actor.answer args turn job.relayed).2.keymap R =
              job.relayed.apply k.current := by
            rw [← hreads]
            exact Coalescer.serve_keymap R args turn.order turn.now actor job.relayed
          have hafter : o.driver.reads R = (k.after false job o.ok).current := by
            rw [after_current, hdriver, hok]
            show (actor.answer args turn job.relayed).2.keymap R = _
            rw [hkeymap]
            cases hserved : (actor.answer args turn job.relayed).1.isOk with
            | true => rw [if_pos rfl]
            | false => rw [if_neg Bool.false_ne_true, Coalescer.apply_of_failed hserved]
          refine ⟨⟨hafter, ?_⟩, by rw [hdriver]; rfl, ?_, ?_⟩
          · intro legacy hlegacy
            rw [hdriver] at hlegacy
            cases hlegacy
          · intro layer row col channel keycode hjob hgot
            have hserved := hreply layer row col channel keycode hjob hgot
            subst hjob
            rw [← hreads]
            exact Coalescer.serve_get R args turn.order turn.now actor layer row col keycode hserved
          · intro hcommit hdone
            have hflush := Job.relayed_of_commit hcommit
            rw [hflush] at hdriver hok hkeymap
            have hisok : (Coalescer.commit args turn.order actor).1.isOk = true := hok.symm.trans hdone
            have hok' : (Coalescer.commit args turn.order actor).1 = .ok () := by
              cases hresult : (Coalescer.commit args turn.order actor).1 with
              | ok _ => rfl
              | error e =>
                  rw [hresult] at hisok
                  cases hisok
            have hempty := Coalescer.commit_ok_empty args turn.order actor hok'
            rw [hdriver]
            show R.read (Coalescer.commit args turn.order actor).2.transport = k.current
            rw [← Coalescer.keymap_of_isEmpty R _ hempty]
            exact hkeymap

omit [Gmk67Io I] [SerdeJson Text] in
theorem shows_legacy_iff (R : KeymapStore T) {d : Gmk67Driver I Text} {k : Keys} :
    (.gmk67 d : BoxedDriver T I Text).Shows R k ↔ Ledger.reading d = k.current ∧
      d.shadow.Tracked ∧ ∀ slot : Slot, d.shadow.confirmed[slot]?.getD 0 = k.settled slot := by
  constructor
  · rintro ⟨hcurrent, hlegacy⟩
    obtain ⟨htracked, hsettled⟩ := hlegacy d rfl
    exact ⟨hcurrent, htracked, congrFun hsettled⟩
  · rintro ⟨hcurrent, htracked, hsettled⟩
    refine ⟨hcurrent, ?_⟩
    rintro legacy ⟨⟩
    exact ⟨htracked, funext hsettled⟩

omit [Gmk67Io I] [SerdeJson Text] in
/-- An edit of a legacy driver. -/
theorem shows_set_keycode (R : KeymapStore T) {d : Gmk67Driver I Text} {k : Keys}
    (h : (.gmk67 d : BoxedDriver T I Text).Shows R k) (layer row col : UInt8) (keycode : UInt16)
    (channel : ReplyId) :
    let r := exec (Gmk67Driver.set_keycode layer row col keycode) d
    (.gmk67 r.2 : BoxedDriver T I Text).Shows R
      (k.after true (.op (.setKeycode layer row col keycode channel)) r.1.isOk) := by
  obtain ⟨hcurrent, htracked, hsettled⟩ := (shows_legacy_iff R).1 h
  by_cases hphysical : Gmk67Driver.Physical (layer, row, col)
  · rw [Gmk67Driver.set_keycode_accepted hphysical]
    refine (shows_legacy_iff R).2 ⟨?_, htracked.set_keycode layer row col keycode, hsettled⟩
    funext slot
    show (d.shadow.keymap.insert (layer, row, col) keycode)[slot]?.getD 0 =
      Function.update k.current (layer, row, col) keycode slot
    rw [lookup_insert, ← hcurrent]
    by_cases hslot : (layer, row, col) = slot
    · subst hslot
      rw [if_pos rfl, Function.update_self]
      rfl
    · rw [if_neg hslot, Function.update_of_ne (Ne.symm hslot)]
      rfl
  · obtain ⟨e, hrefused⟩ := Gmk67Driver.set_keycode_refused (d := d) hphysical keycode
    rw [hrefused]
    exact h

/-- A commit of a legacy driver. -/
theorem shows_commit (R : KeymapStore T) {d : Gmk67Driver I Text} {k : Keys}
    (h : (.gmk67 d : BoxedDriver T I Text).Shows R k) {job : Job} (hcommit : job.isCommit = true) :
    let r := exec Gmk67Driver.commit_to_nvram d
    (.gmk67 r.2 : BoxedDriver T I Text).Shows R (k.after true job r.1.isOk) := by
  obtain ⟨hcurrent, htracked, hsettled⟩ := (shows_legacy_iff R).1 h
  have hafter : ∀ ok, k.after true job ok = if ok then .fresh k.current else .fresh k.settled := by
    intro ok
    rw [Keys.after, if_pos hcommit]
    cases ok <;> rfl
  intro r
  rw [hafter]
  cases hdirty : d.shadow.is_dirty with
  | false =>
      have hclean : d.shadow.dirty.isEmpty = true := by
        simpa [ShadowState.is_dirty] using hdirty
      have hr : r = (.ok (), d) := Gmk67Driver.commit_of_clean hdirty
      rw [hr]
      refine (shows_legacy_iff R).2 ⟨hcurrent, htracked, ?_⟩
      intro slot
      show d.shadow.confirmed[slot]?.getD 0 = k.current slot
      rw [← hcurrent, ← htracked.keymap_eq hclean]
      rfl
  | true =>
      rcases hpush : d.push with ⟨e | _, io⟩
      · have hr : r = (.error e, { d with io := io, shadow := d.shadow.rollback }) :=
          Gmk67Driver.commit_of_refused hdirty hpush
        rw [hr]
        exact (shows_legacy_iff R).2 ⟨funext hsettled, ShadowState.tracked_rollback _, hsettled⟩
      · have hr := Gmk67Driver.commit_of_pushed hdirty hpush
        change r = _ at hr
        rw [hr]
        exact (shows_legacy_iff R).2 ⟨hcurrent, ShadowState.tracked_confirm_commit _ d.disk,
          fun slot => congrFun hcurrent slot⟩

/-- A commit of a legacy driver, as a job. -/
theorem performed_commit (R : KeymapStore T) (turn : Turn) {d : Gmk67Driver I Text} {k : Keys}
    (h : (.gmk67 d : BoxedDriver T I Text).Shows R k) {job : Job} (hjob : job.isCommit = true) :
    Performed R (.gmk67 d) k job (Worker.commit turn (.gmk67 d : BoxedDriver T I Text)) := by
  have hshows := shows_commit R h hjob
  dsimp only at hshows
  have hok : (Worker.commit turn (.gmk67 d : BoxedDriver T I Text)).ok =
      (exec Gmk67Driver.commit_to_nvram d).1.isOk := isOk_mapError _
  refine ⟨by rw [hok]; exact hshows, rfl, ?_, ?_⟩
  · rintro layer row col channel keycode rfl
    cases hjob
  · intro _ hdone
    rw [hok] at hdone
    rw [hdone, Keys.after, if_pos hjob, if_pos rfl] at hshows
    exact funext ((shows_legacy_iff R).1 hshows).2.2

omit [Gmk67Io I] [SerdeJson Text] in
/-- A call of a legacy driver that leaves its keymaps. -/
theorem performed_quiet (R : KeymapStore T) {d : Gmk67Driver I Text} {k : Keys}
    (h : (.gmk67 d : BoxedDriver T I Text).Shows R k) {job : Job} (hcommit : job.isCommit = false)
    (hedit : job.edit = none) {α : Type} (wrap : Except DaemonError α → Reply)
    (r : Except DriverError α × Gmk67Driver I Text) (hkeymap : r.2.shadow.keymap = d.shadow.keymap)
    (htracked : r.2.shadow.Tracked) (hconfirmed : r.2.shadow.confirmed = d.shadow.confirmed)
    (hread : ∀ layer row col channel keycode, job = .op (.getKeycode layer row col channel) →
      wrap (r.1.mapError .driver) = .keycode (.ok keycode) →
        keycode = k.current (layer, row, col)) :
    Performed R (.gmk67 d) k job
      (Worker.outcome wrap (r.map id .gmk67) : Outcome (BoxedDriver T I Text)) := by
  obtain ⟨hcurrent, -, hsettled⟩ := (shows_legacy_iff R).1 h
  refine ⟨?_, rfl, hread, fun hcon => by rw [hcommit] at hcon; cases hcon⟩
  show Shows R (.gmk67 r.2) (k.after true job _)
  rw [Keys.after_quiet true k hcommit hedit]
  refine (shows_legacy_iff R).2 ⟨?_, htracked, fun slot => by rw [hconfirmed]; exact hsettled slot⟩
  rw [← hcurrent]
  funext slot
  show r.2.shadow.keymap[_]?.getD 0 = _
  rw [hkeymap]
  rfl

omit [CoalescerTransport T] [Gmk67Io I] [SerdeJson Text] in
theorem get_lighting_state (d : Gmk67Driver I Text) (lights value_id : UInt8) :
    (exec (Gmk67Driver.get_lighting lights value_id) d).2 = d := by
  rw [Gmk67Driver.get_lighting, exec_bind_of_ok (exec_get d)]
  repeat' split
  all_goals rfl

omit [CoalescerTransport T] in
/-- A lighting request leaves the keymaps of the shadow. -/
theorem set_lighting_shadow (d : Gmk67Driver I Text) (lights value_id : UInt8)
    (data : List UInt8) : ∃ lighting,
      (exec (Gmk67Driver.set_lighting lights value_id data) d).2.shadow =
        d.shadow.set_lighting lighting := by
  cases hrequest : Gmk67Driver.requested_lighting d.lighting lights value_id data with
  | error e =>
      rw [Gmk67Driver.set_lighting_invalid hrequest]
      exact ⟨d.shadow.lighting, rfl⟩
  | ok lighting =>
      rcases hrender : exec (render_effect lighting) d.io with ⟨e | _, io⟩
      · rw [Gmk67Driver.set_lighting_refused hrequest hrender]
        exact ⟨d.shadow.lighting, rfl⟩
      · rw [Gmk67Driver.set_lighting_rendered hrequest hrender]
        exact ⟨lighting.to_lighting_state, rfl⟩

/-- A job of a legacy driver. -/
theorem performed_legacy (R : KeymapStore T) (turn : Turn) {d : Gmk67Driver I Text} {k : Keys}
    (h : (.gmk67 d : BoxedDriver T I Text).Shows R k) (job : Job) :
    Performed R (.gmk67 d) k job (Worker.perform turn (.gmk67 d : BoxedDriver T I Text) job) := by
  obtain ⟨hcurrent, htracked, hsettled⟩ := (shows_legacy_iff R).1 h
  cases job with
  | debounced => exact performed_commit R turn h rfl
  | final => exact performed_commit R turn h rfl
  | op op =>
      cases op with
      | getKeycode layer row col channel =>
          refine performed_quiet R h rfl rfl Reply.keycode
            (.ok (d.shadow.get_keycode layer row col), d) rfl htracked rfl ?_
          intro layer row col channel keycode hjob hgot
          cases hjob
          cases hgot
          rw [← hcurrent]
          rfl
      | setKeycode layer row col keycode channel =>
          have hshows := shows_set_keycode R h layer row col keycode channel
          dsimp only at hshows
          have hok : (Worker.perform turn (.gmk67 d : BoxedDriver T I Text)
              (.op (.setKeycode layer row col keycode channel))).ok =
                (exec (Gmk67Driver.set_keycode layer row col keycode) d).1.isOk := isOk_mapError _
          refine ⟨by rw [hok]; exact hshows, rfl, ?_, ?_⟩
          · intro layer row col channel keycode hcon
            cases hcon
          · intro hcon
            cases hcon
      | commit channel => exact performed_commit R turn h rfl
      | getMacro offset length channel =>
          exact performed_quiet R h rfl rfl Reply.bytes (.error _, d) rfl htracked rfl
            fun _ _ _ _ _ hcon => by cases hcon
      | setMacro offset data channel =>
          exact performed_quiet R h rfl rfl Reply.done (.error _, d) rfl htracked rfl
            fun _ _ _ _ _ hcon => by cases hcon
      | getLighting lights value_id channel =>
          have hstate := get_lighting_state d lights value_id
          exact performed_quiet R h rfl rfl Reply.bytes
            (exec (Gmk67Driver.get_lighting lights value_id) d) (by rw [hstate])
            (by rw [hstate]; exact htracked) (by rw [hstate]) fun _ _ _ _ _ hcon => by cases hcon
      | setLighting lights value_id data channel =>
          have hkept : ∃ lighting, (exec (Gmk67Driver.set_lighting lights value_id data) d).2.shadow =
              d.shadow.set_lighting lighting := set_lighting_shadow d lights value_id data
          obtain ⟨lighting, hshadow⟩ := hkept
          refine performed_quiet R h rfl rfl Reply.done
            (exec (Gmk67Driver.set_lighting lights value_id data) d) ?_ ?_ ?_
            fun _ _ _ _ _ hcon => by cases hcon
          · rw [hshadow]
            rfl
          · rw [hshadow]
            exact htracked.set_lighting lighting
          · rw [hshadow]
            rfl

/-- A job does to a driver what it does to its keymap. -/
theorem performed (R : KeymapStore T) (turn : Turn) {d : BoxedDriver T I Text} {k : Keys}
    (h : d.Shows R k) (job : Job) : Performed R d k job (Worker.perform turn d job) := by
  cases d with
  | via d => exact performed_via R turn h job
  | gmk67 d => exact performed_legacy R turn h job

/-- A wake-up leaves the keymap as it is. -/
theorem shows_wake (R : KeymapStore T) {turn : Turn} {dropped : Bool} {wakeup : Background}
    {d d' : BoxedDriver T I Text} {k : Keys} (h : d.Shows R k)
    (hwake : BackgroundTasks.wake turn dropped wakeup d = some d') :
    d'.Shows R k ∧ d'.staged = d.staged := by
  obtain ⟨-, args, a, a', hactor, hactor', hwoke⟩ := wake_cases hwake
  obtain ⟨e, rfl, hinner⟩ := exists_via hactor
  obtain ⟨e', rfl, hinner'⟩ := exists_via hactor'
  have hcurrent : (BoxedDriver.via e : BoxedDriver T I Text).reads R = k.current := h.1
  have hkeymap : a'.keymap R = a.keymap R := by
    rcases hwoke with ⟨-, -, rfl⟩ | ⟨-, -, rfl⟩
    · exact (Coalescer.keymap_autoFlush R args turn.order turn.now a).1
    · exact (Coalescer.keymap_shutdown R args turn.order a).1
  refine ⟨⟨?_, fun legacy hlegacy => by cases hlegacy⟩, rfl⟩
  rw [reads, hinner] at hcurrent
  rw [reads, hinner']
  exact hkeymap.trans hcurrent

/-! ## Attaching -/

omit [CoalescerTransport T] in
/-- The keymaps of a shadow that has just been loaded, or synced, agree. -/
theorem tracked_sync {d : Gmk67Driver I Text} (htracked : d.shadow.Tracked)
    (hclean : d.shadow.dirty.isEmpty = true) :
    (exec Gmk67Driver.get_matrix_dimensions d).2.shadow.Tracked ∧
      (exec Gmk67Driver.get_matrix_dimensions d).2.shadow.dirty.isEmpty = true := by
  by_cases hdue : Gmk67Driver.SyncDue d
  · rcases hread : d.read_back with ⟨e | entries, io⟩
    · rw [Gmk67Driver.get_matrix_dimensions_keeps hdue hread]
      exact ⟨htracked, hclean⟩
    · rw [Gmk67Driver.get_matrix_dimensions_adopts hdue hread]
      exact ⟨ShadowState.tracked_adopt_confirmed _ entries d.disk, ExtTreeMap.isEmpty_empty⟩
  · rw [Gmk67Driver.get_matrix_dimensions_again hdue]
    exact ⟨htracked, hclean⟩

omit [CoalescerTransport T] [Gmk67Io I] [SerdeJson Text] in
/-- A legacy driver without edits. -/
def Unedited (d : BoxedDriver T I Text) : Prop :=
  ∀ legacy, d = .gmk67 legacy → legacy.shadow.Tracked ∧ legacy.shadow.dirty.isEmpty = true

omit [Gmk67Io I] [SerdeJson Text] in
theorem Unedited.shows {d : BoxedDriver T I Text} (h : d.Unedited) (R : KeymapStore T) :
    d.Shows R (.fresh (d.reads R)) := by
  refine ⟨rfl, ?_⟩
  rintro legacy rfl
  obtain ⟨htracked, hclean⟩ := h legacy rfl
  refine ⟨htracked, ?_⟩
  funext slot
  show legacy.shadow.confirmed[slot]?.getD 0 = legacy.shadow.keymap[slot]?.getD 0
  rw [htracked.keymap_eq hclean]

theorem unedited_probe {turn : Turn} {d d' : BoxedDriver T I Text} {topology : DeviceTopology}
    (h : Supervisor.probe turn d = .ok (topology, d')) (hd : d.Unedited) : d'.Unedited := by
  unfold Supervisor.probe at h
  split at h
  · cases h
  · rename_i rows cols m hm
    split at h
    · cases h
    · rename_i layer_count last hlast
      cases h
      cases d with
      | via d =>
          obtain rfl : .via (exec (KeyboardDriver.get_matrix_dimensions turn) d).2 = m :=
            congrArg Prod.snd hm
          obtain rfl : .via (exec (KeyboardDriver.get_layer_count turn) _).2 = d' :=
            congrArg Prod.snd hlast
          intro legacy hlegacy
          cases hlegacy
      | gmk67 d =>
          obtain ⟨htracked, hclean⟩ := hd d rfl
          have hsync := tracked_sync htracked hclean
          obtain rfl : .gmk67 (exec Gmk67Driver.get_matrix_dimensions d).2 = m :=
            congrArg Prod.snd hm
          obtain rfl : .gmk67 (exec Gmk67Driver.get_matrix_dimensions d).2 = d' :=
            congrArg Prod.snd hlast
          rintro legacy ⟨⟩
          exact hsync

end BoxedDriver

section Factories

variable {T I Text : Type} [CoalescerTransport T] [Gmk67Io I] [SerdeJson Text]

omit [CoalescerTransport T] [Gmk67Io I] in
/-- What the factories of the daemon give has no edits. -/
theorem unedited_factory {interval : Option Nat} {devices : List DeviceConfig}
    {vendor_id product_id : UInt16} {node : DeviceNode T I Text} {path : String}
    {factory : DriverFactory (DeviceNode T I Text) (BoxedDriver T I Text)}
    {d : BoxedDriver T I Text}
    (hfactory : (build_driver_table interval devices).factory vendor_id product_id = some factory)
    (h : factory node path = .ok d) : d.Unedited := by
  have hvia : via_fallback_factory interval node path = .ok d → d.Unedited := by
    intro h
    unfold via_fallback_factory at h
    split at h
    · cases h
    · split at h
      · cases h
        exact fun legacy hlegacy => by cases hlegacy
      · cases h
        exact fun legacy hlegacy => by cases hlegacy
  have hgmk67 : ∀ sync, gmk67_factory sync node path = .ok d → d.Unedited := by
    intro sync h
    unfold gmk67_factory at h
    split at h
    · cases h
    · cases h
      rintro legacy ⟨⟩
      exact ⟨ShadowState.tracked_load node.data_path node.disk.files, ExtTreeMap.isEmpty_empty⟩
  rcases Option.or_eq_some_iff.1 hfactory with hown | ⟨-, hfallback⟩
  · obtain ⟨dev, -, hdev⟩ := Option.map_eq_some_iff.1 hown
    obtain rfl | rfl := dev.factory_cases interval _ hdev
    · exact hgmk67 _ h
    · exact hvia h
  · cases hfallback
    exact hvia h

/-- What the daemon attaches has no edits. -/
theorem unedited_opened {interval : Option Nat} {devices : List DeviceConfig}
    {d : BoxedDriver T I Text} (h : Supervisor.Opens (build_driver_table interval devices) d) :
    d.Unedited := by
  obtain ⟨turn, node, vendor_id, product_id, path, factory, topology, hfactory, hopened⟩ := h
  rw [Supervisor.openDevice] at hopened
  split at hopened
  · rename_i fresh hfresh
    exact BoxedDriver.unedited_probe hopened (unedited_factory hfactory hfresh)
  · cases hopened

end Factories

end Clackd.Engine
