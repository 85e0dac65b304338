import Clackd.Hal.Legacy.Wire

/-!
# Transactions are bracketed

A board in customization mode shows no sign of it, so what matters is that the
driver never leaves it there: whatever fails, the last thing an operation does to
an opened board is to attempt the end-communication frame.

## Main results

* `bracketed_of_series`, `framed_of_series`: a series of well-formed transactions
  opens and closes, and sends its payload in between.
* `Gmk67Driver.program`: every operation is silent or runs its documented
  transactions.
* `transactions_bracketed`: over every run, with any failures, every operation's
  attempts are bracketed and framed, and it succeeds only if the board took the
  documented frames in order.
-/

namespace Clackd.Hal.Legacy

open Clackd.Foundation Clackd.Hal

/-- Frames that are only meaningful inside a transaction: the mode frame and the
pages of a key-definition buffer. -/
def IsPayload (frame : FeatureFrame) : Prop :=
  (∃ lighting : Lighting, frame = lighting.encode) ∨
    ∃ (entries : List (UInt8 × UInt16)) (p : Nat), frame = pageOf (encode_keydef_buffer entries) p

/-- Frames that open an area. -/
def IsStartPage (frame : FeatureFrame) : Prop :=
  frame = encode_start_effect_page ∨ ∃ command, frame = encode_start_keydef_page command

/-- Every customization-on frame is followed by an end-communication frame before
the next one. -/
def Bracketed (ws : List Attempt) : Prop :=
  ∀ before b after, ws = before ++ (encode_cmd CMD_TURN_ON_CUSTOMIZATION, b) :: after →
    ∃ between c rest, after = between ++ (encode_cmd CMD_COMMUNICATION_END, c) :: rest ∧
      ∀ a ∈ between, a.1 ≠ encode_cmd CMD_TURN_ON_CUSTOMIZATION

/-- Every payload frame comes after the accepted customization-on and start-page
frames of its transaction and before its end frame. -/
def Framed (ws : List Attempt) : Prop :=
  ∀ before frame b after, ws = before ++ (frame, b) :: after → IsPayload frame →
    ∃ earlier start between, before = earlier ++
        (encode_cmd CMD_TURN_ON_CUSTOMIZATION, true) :: (start, true) :: between ∧
      IsStartPage start ∧
      ∀ a ∈ between, a.2 = true ∧ a.1 ≠ encode_cmd CMD_TURN_ON_CUSTOMIZATION ∧
        a.1 ≠ encode_cmd CMD_COMMUNICATION_END

theorem bracketed_nil : Bracketed [] := by
  intro before b after h
  simp at h

theorem framed_nil : Framed [] := by
  intro before frame b after h
  simp at h

theorem Bracketed.append {ws ws' : List Attempt} (h : Bracketed ws) (h' : Bracketed ws') :
    Bracketed (ws ++ ws') := by
  intro before b after hsplit
  rcases List.append_eq_append_iff.1 hsplit with ⟨more, rfl, hws'⟩ | ⟨more, hws, hmore⟩
  · exact h' more b after hws'
  · cases more with
    | nil => exact h' [] b after (by simpa using hmore.symm)
    | cons a more =>
        simp only [List.cons_append, List.cons.injEq] at hmore
        obtain ⟨rfl, rfl⟩ := hmore
        obtain ⟨between, c, rest, rfl, hbetween⟩ := h before b more hws
        exact ⟨between, c, rest ++ ws', by simp, hbetween⟩

theorem Framed.append {ws ws' : List Attempt} (h : Framed ws) (h' : Framed ws') :
    Framed (ws ++ ws') := by
  intro before frame b after hsplit hpayload
  -- The frame is in the first part or in the second.
  have hsecond : ∀ more, before = ws ++ more → ws' = more ++ (frame, b) :: after →
      ∃ earlier start between, before = earlier ++
          (encode_cmd CMD_TURN_ON_CUSTOMIZATION, true) :: (start, true) :: between ∧
        IsStartPage start ∧
        ∀ a ∈ between, a.2 = true ∧ a.1 ≠ encode_cmd CMD_TURN_ON_CUSTOMIZATION ∧
          a.1 ≠ encode_cmd CMD_COMMUNICATION_END := by
    rintro more rfl hws'
    obtain ⟨earlier, start, between, rfl, hstart, hbetween⟩ := h' more frame b after hws' hpayload
    exact ⟨ws ++ earlier, start, between, by simp, hstart, hbetween⟩
  rcases List.append_eq_append_iff.1 hsplit with ⟨more, hbefore, hws'⟩ | ⟨more, hws, hmore⟩
  · exact hsecond more hbefore hws'
  · cases more with
    | nil => exact hsecond [] (by simpa using hws.symm) (by simpa using hmore.symm)
    | cons a more =>
        simp only [List.cons_append, List.cons.injEq] at hmore
        obtain ⟨rfl, rfl⟩ := hmore
        exact h before frame b more hws hpayload

/-! ## Telling frames apart -/

theorem byteAt_frameOf (bytes : List (Nat × UInt8)) {i : Nat} (hi : i < FRAME_LEN) :
    byteAt (frameOf bytes) i = (bytes.lookup i).getD 0 := by
  have hlen : i < (frameOf bytes).toList.length := by simpa using hi
  rw [byteAt, List.getD_eq_getElem _ _ hlen, Vector.getElem_toList]
  exact Vector.getElem_ofFn hi

/-- Framing commands begin with the header and have no check code. -/
theorem bytes_cmd (command : UInt8) : byteAt (encode_cmd command) 0 = PACKET_HEADER ∧
    byteAt (encode_cmd command) 8 = 0 ∧ byteAt (encode_cmd command) 15 = 0 := by
  refine ⟨?_, ?_, ?_⟩
  · exact byteAt_frameOf _ (show 0 < FRAME_LEN by decide)
  · exact byteAt_frameOf _ (show 8 < FRAME_LEN by decide)
  · exact byteAt_frameOf _ (show 15 < FRAME_LEN by decide)

theorem bytes_start_page {frame : FeatureFrame} (h : IsStartPage frame) :
    byteAt frame 0 = PACKET_HEADER ∧ byteAt frame 8 ≠ 0 ∧ byteAt frame 15 = 0 := by
  have hlen : 0 < FRAME_LEN ∧ 8 < FRAME_LEN ∧ 15 < FRAME_LEN := by decide
  rcases h with rfl | ⟨command, rfl⟩
  · rw [encode_start_effect_page, byteAt_frameOf _ hlen.1, byteAt_frameOf _ hlen.2.1,
      byteAt_frameOf _ hlen.2.2]
    decide
  · rw [encode_start_keydef_page, byteAt_frameOf _ hlen.1, byteAt_frameOf _ hlen.2.1,
      byteAt_frameOf _ hlen.2.2]
    refine ⟨rfl, ?_, rfl⟩
    show UInt8.ofNat KEY_DEF_PAGES ≠ 0
    decide

/-- A frame that begins like a framing command and has no check code is no
payload. -/
theorem not_isPayload {frame : FeatureFrame} (hhead : byteAt frame 0 = PACKET_HEADER)
    (hcheck : byteAt frame 15 = 0) : ¬ IsPayload frame := by
  rintro (⟨lighting, rfl⟩ | ⟨entries, p, rfl⟩)
  · rw [Lighting.encode, byteAt_frameOf _ (by decide)] at hcheck
    change (0x55 : UInt8) = 0 at hcheck
    exact absurd hcheck (by decide)
  · exact pageOf_encode_head entries p hhead

theorem cmd_not_isPayload (command : UInt8) : ¬ IsPayload (encode_cmd command) :=
  not_isPayload (bytes_cmd command).1 (bytes_cmd command).2.2

theorem start_page_not_isPayload {frame : FeatureFrame} (h : IsStartPage frame) :
    ¬ IsPayload frame := not_isPayload (bytes_start_page h).1 (bytes_start_page h).2.2

theorem start_page_ne_cmd {frame : FeatureFrame} (h : IsStartPage frame) (command : UInt8) :
    frame ≠ encode_cmd command := by
  rintro rfl
  exact (bytes_start_page h).2.1 (bytes_cmd command).2.1

theorem cmd_injective {command command' : UInt8} (h : encode_cmd command = encode_cmd command') :
    command = command' := by
  have hbyte : ∀ c, byteAt (encode_cmd c) 1 = c := by
    intro c
    exact byteAt_frameOf _ (show 1 < FRAME_LEN by decide)
  rw [← hbyte command, h, hbyte]

/-! ## One transaction -/

/-- The form of a transaction: customization on, start page, payload, end
communication, and what restarts the effects. -/
structure WellFormed (frames : List FeatureFrame) : Prop where
  form : ∃ start payload last, IsStartPage start ∧ (∀ frame ∈ payload, IsPayload frame) ∧
    (∀ frame ∈ last, frame = encode_cmd CMD_LED_EFFECT_START) ∧
    frames = encode_cmd CMD_TURN_ON_CUSTOMIZATION :: start ::
      (payload ++ encode_cmd CMD_COMMUNICATION_END :: last)

theorem wellFormed_render (lighting : Lighting) : WellFormed (render_frames lighting) := by
  refine ⟨encode_start_effect_page, [lighting.encode], [encode_cmd CMD_LED_EFFECT_START],
    .inl rfl, ?_, by simp, rfl⟩
  intro frame hframe
  exact .inl ⟨lighting, List.mem_singleton.1 hframe⟩

theorem wellFormed_keydef (command : UInt8) (entries : List (UInt8 × UInt16)) :
    WellFormed (keydef_frames command entries) := by
  refine ⟨encode_start_keydef_page command, keydef_pages (encode_keydef_buffer entries),
    [encode_cmd CMD_LED_EFFECT_START], .inr ⟨command, rfl⟩, ?_, by simp, rfl⟩
  intro frame hframe
  obtain ⟨p, -, rfl⟩ := List.mem_map.1 hframe
  exact .inr ⟨entries, p, rfl⟩

theorem wellFormed_read (command : UInt8) : WellFormed (read_frames command) :=
  ⟨encode_start_keydef_page command, [], [], .inr ⟨command, rfl⟩, by simp, by simp, rfl⟩

/-- Past its first frame a transaction closes and does not open again. -/
theorem WellFormed.tail {frames : List FeatureFrame} (h : WellFormed frames) :
    ∃ rest, frames = encode_cmd CMD_TURN_ON_CUSTOMIZATION :: rest ∧
      (∀ frame ∈ rest, frame ≠ encode_cmd CMD_TURN_ON_CUSTOMIZATION) ∧
      encode_cmd CMD_COMMUNICATION_END ∈ rest := by
  obtain ⟨start, payload, last, hstart, hpayload, hlast, rfl⟩ := h.form
  refine ⟨_, rfl, ?_, by simp⟩
  intro frame hframe
  simp only [List.mem_cons, List.mem_append] at hframe
  rcases hframe with rfl | hframe | rfl | hframe
  · exact start_page_ne_cmd hstart _
  · rintro rfl
    exact cmd_not_isPayload _ (hpayload _ hframe)
  · intro hcon
    exact absurd (cmd_injective hcon) (by decide)
  · rw [hlast frame hframe]
    intro hcon
    exact absurd (cmd_injective hcon) (by decide)

/-- What comes before a payload frame of a transaction. -/
theorem WellFormed.before_payload {frames : List FeatureFrame} (h : WellFormed frames)
    {first more : List FeatureFrame} {frame : FeatureFrame}
    (hsplit : frames = first ++ frame :: more) (hframe : IsPayload frame) :
    ∃ start between, first = encode_cmd CMD_TURN_ON_CUSTOMIZATION :: start :: between ∧
      IsStartPage start ∧ ∀ f ∈ between, IsPayload f := by
  obtain ⟨start, payload, last, hstart, hpayload, hlast, rfl⟩ := h.form
  match first, hsplit with
  | [], hsplit =>
      simp only [List.nil_append, List.cons.injEq] at hsplit
      exact absurd (hsplit.1 ▸ hframe) (cmd_not_isPayload _)
  | [_], hsplit =>
      simp only [List.cons_append, List.nil_append, List.cons.injEq] at hsplit
      exact absurd (hsplit.2.1 ▸ hframe) (start_page_not_isPayload hstart)
  | on :: start' :: between, hsplit =>
      simp only [List.cons_append, List.cons.injEq] at hsplit
      obtain ⟨rfl, rfl, hrest⟩ := hsplit
      refine ⟨start, between, rfl, hstart, ?_⟩
      rcases List.append_eq_append_iff.1 hrest with ⟨m, hbetween, hend⟩ | ⟨m, hbetween, -⟩
      · -- The payload ends before the frame: then it is the end frame or the last.
        have hmem : frame ∈ encode_cmd CMD_COMMUNICATION_END :: last := by
          rw [hend]
          simp
        rcases List.mem_cons.1 hmem with rfl | hmem
        · exact absurd hframe (cmd_not_isPayload _)
        · rw [hlast frame hmem] at hframe
          exact absurd hframe (cmd_not_isPayload _)
      · intro f hf
        exact hpayload f (by rw [hbetween]; exact List.mem_append_left _ hf)

/-! ## What a transaction attempts -/

/-- The frames of a transaction that is cut short are a first part of it. -/
theorem Cut.first_part {frames : List FeatureFrame} {cut : List Attempt} (h : Cut frames cut) :
    ∃ rest, frames = cut.map Prod.fst ++ rest := by
  cases h with
  | unread first rest hsplit => exact ⟨rest, by simpa [taken, Function.comp_def] using hsplit⟩
  | refused first frame rest hsplit =>
      exact ⟨rest, by simpa [taken, Function.comp_def] using hsplit⟩

/-- Attempts that do not open. -/
theorem bracketed_of_closed {ws : List Attempt}
    (h : ∀ a ∈ ws, a.1 ≠ encode_cmd CMD_TURN_ON_CUSTOMIZATION) : Bracketed ws := by
  rintro before b after rfl
  exact absurd rfl (h _ (List.mem_append_right before List.mem_cons_self))

/-- Attempts that open with the first of them only, and close. -/
theorem bracketed_of_tail {first : Attempt} {rest : List Attempt} {c : Bool}
    (hrest : ∀ a ∈ rest, a.1 ≠ encode_cmd CMD_TURN_ON_CUSTOMIZATION)
    (hend : (encode_cmd CMD_COMMUNICATION_END, c) ∈ rest) : Bracketed (first :: rest) := by
  intro before b after hsplit
  cases before with
  | nil =>
      simp only [List.nil_append, List.cons.injEq] at hsplit
      obtain ⟨-, rfl⟩ := hsplit
      obtain ⟨between, more, rfl⟩ := List.append_of_mem hend
      exact ⟨between, c, more, rfl, fun a ha => hrest a (List.mem_append_left _ ha)⟩
  | cons a before =>
      simp only [List.cons_append, List.cons.injEq] at hsplit
      obtain ⟨-, rfl⟩ := hsplit
      exact absurd rfl (hrest _ (List.mem_append_right before List.mem_cons_self))

theorem WellFormed.bracketed_taken {frames : List FeatureFrame} (h : WellFormed frames) :
    Bracketed (taken frames) := by
  obtain ⟨rest, rfl, hrest, hend⟩ := h.tail
  refine bracketed_of_tail (c := true) ?_ (mem_taken.2 ⟨rfl, hend⟩)
  intro a ha
  exact hrest a.1 (mem_taken.1 ha).2

theorem WellFormed.bracketed_cut {frames : List FeatureFrame} (h : WellFormed frames)
    {cut : List Attempt} (hcut : Cut frames cut) (b : Bool) :
    Bracketed (cut ++ [(encode_cmd CMD_COMMUNICATION_END, b)]) := by
  obtain ⟨rest, rfl, hrest, -⟩ := h.tail
  obtain ⟨more, hmore⟩ := hcut.first_part
  have habort : encode_cmd CMD_COMMUNICATION_END ≠ encode_cmd CMD_TURN_ON_CUSTOMIZATION := by
    intro hcon
    exact absurd (cmd_injective hcon) (by decide)
  cases cut with
  | nil =>
      apply bracketed_of_closed
      simpa using habort
  | cons a cut =>
      simp only [List.map_cons, List.cons_append, List.cons.injEq] at hmore
      refine bracketed_of_tail (c := b) ?_ (by simp)
      intro x hx
      rcases List.mem_append.1 hx with hx | hx
      · refine hrest x.1 ?_
        rw [hmore.2]
        exact List.mem_append_left _ (List.mem_map_of_mem hx)
      · rw [List.mem_singleton.1 hx]
        exact habort

/-- Where an attempt stands in accepted frames followed by others. -/
theorem taken_split {frames : List FeatureFrame} {tail before after : List Attempt} {a : Attempt}
    (h : taken frames ++ tail = before ++ a :: after) :
    (∃ first more, before = taken first ∧ frames = first ++ a.1 :: more) ∨
      ∃ more, before = taken frames ++ more ∧ tail = more ++ a :: after := by
  induction frames generalizing before with
  | nil => exact .inr ⟨before, by simp, by simpa using h⟩
  | cons frame frames ih =>
      cases before with
      | nil =>
          simp only [taken_cons, List.cons_append, List.nil_append, List.cons.injEq] at h
          obtain ⟨rfl, -⟩ := h
          exact .inl ⟨[], frames, rfl, rfl⟩
      | cons b before =>
          simp only [taken_cons, List.cons_append, List.cons.injEq] at h
          obtain ⟨rfl, h⟩ := h
          rcases ih h with ⟨first, more, rfl, rfl⟩ | ⟨more, rfl, rfl⟩
          · exact .inl ⟨frame :: first, more, rfl, rfl⟩
          · exact .inr ⟨more, rfl, rfl⟩

/-- What stands before a payload attempt. -/
theorem WellFormed.framed_split {frames : List FeatureFrame} (h : WellFormed frames)
    {first more : List FeatureFrame} {frame : FeatureFrame}
    (hsplit : frames = first ++ frame :: more) (hframe : IsPayload frame) :
    ∃ earlier start between, taken first = earlier ++
        (encode_cmd CMD_TURN_ON_CUSTOMIZATION, true) :: (start, true) :: between ∧
      IsStartPage start ∧
      ∀ a ∈ between, a.2 = true ∧ a.1 ≠ encode_cmd CMD_TURN_ON_CUSTOMIZATION ∧
        a.1 ≠ encode_cmd CMD_COMMUNICATION_END := by
  obtain ⟨start, between, rfl, hstart, hbetween⟩ := h.before_payload hsplit hframe
  refine ⟨[], start, taken between, rfl, hstart, ?_⟩
  intro a ha
  obtain ⟨hok, hmem⟩ := mem_taken.1 ha
  have hpayload := hbetween a.1 hmem
  refine ⟨hok, ?_, ?_⟩
  · intro hcon
    exact cmd_not_isPayload _ (hcon ▸ hpayload)
  · intro hcon
    exact cmd_not_isPayload _ (hcon ▸ hpayload)

theorem WellFormed.framed_taken {frames : List FeatureFrame} (h : WellFormed frames) :
    Framed (taken frames) := by
  intro before frame b after hsplit hframe
  rw [← List.append_nil (taken frames)] at hsplit
  rcases taken_split hsplit with ⟨first, more, rfl, hfirst⟩ | ⟨more, -, hcon⟩
  · exact h.framed_split hfirst hframe
  · simp at hcon

theorem WellFormed.framed_cut {frames : List FeatureFrame} (h : WellFormed frames)
    {cut : List Attempt} (hcut : Cut frames cut) (b : Bool) :
    Framed (cut ++ [(encode_cmd CMD_COMMUNICATION_END, b)]) := by
  intro before frame c after hsplit hframe
  -- The abort frame is no payload.
  have habort : ∀ {more : List Attempt},
      [(encode_cmd CMD_COMMUNICATION_END, b)] ≠ more ++ (frame, c) :: after := by
    intro more hcon
    have hmem : (frame, c) ∈ [(encode_cmd CMD_COMMUNICATION_END, b)] := by
      rw [hcon]
      simp
    simp only [List.mem_singleton, Prod.mk.injEq] at hmem
    exact cmd_not_isPayload _ (hmem.1 ▸ hframe)
  cases hcut with
  | unread first rest hfrom =>
      rcases taken_split hsplit with ⟨first', more, rfl, rfl⟩ | ⟨more, -, hcon⟩
      · exact h.framed_split (by rw [hfrom, List.append_assoc, List.cons_append]) hframe
      · exact absurd hcon habort
  | refused first refused rest hfrom =>
      rw [List.append_assoc] at hsplit
      rcases taken_split hsplit with ⟨first', more, rfl, rfl⟩ | ⟨more, rfl, hcon⟩
      · exact h.framed_split (by rw [hfrom, List.append_assoc, List.cons_append]) hframe
      · cases more with
        | nil =>
            simp only [List.cons_append, List.nil_append, List.cons.injEq, Prod.mk.injEq] at hcon
            obtain ⟨⟨rfl, rfl⟩, -⟩ := hcon
            rw [List.append_nil]
            exact h.framed_split hfrom hframe
        | cons a more =>
            simp only [List.cons_append, List.nil_append, List.cons.injEq] at hcon
            exact absurd hcon.2 habort

/-! ## A series -/

theorem bracketed_flatten {transactions : List (List FeatureFrame)}
    (h : ∀ frames ∈ transactions, WellFormed frames) :
    Bracketed (taken transactions.flatten) ∧ Framed (taken transactions.flatten) := by
  induction transactions with
  | nil => exact ⟨bracketed_nil, framed_nil⟩
  | cons frames transactions ih =>
      obtain ⟨hb, hf⟩ := ih fun fs hfs => h fs (List.mem_cons_of_mem frames hfs)
      have hframes := h frames List.mem_cons_self
      rw [List.flatten_cons, taken_append]
      exact ⟨hframes.bracketed_taken.append hb, hframes.framed_taken.append hf⟩

/-- What a series of well-formed transactions attempts is bracketed and framed,
and if it succeeds it is all their frames, accepted. -/
theorem bracketed_of_series {α : Type} {transactions : List (List FeatureFrame)}
    {r : Except DriverError α} {ws : List Attempt} (hseries : Series transactions r ws)
    (h : ∀ frames ∈ transactions, WellFormed frames) :
    Bracketed ws ∧ Framed ws ∧ (r.isOk = true → ws = taken transactions.flatten) := by
  rcases hseries with ⟨a, rfl, rfl⟩ | ⟨e, done, frames, rest, cut, b, rfl, rfl, hcut, rfl⟩
  · obtain ⟨hb, hf⟩ := bracketed_flatten h
    exact ⟨hb, hf, fun _ => rfl⟩
  · have hframes : WellFormed frames := h frames (by simp)
    obtain ⟨hb, hf⟩ := bracketed_flatten
      fun fs hfs => h fs (List.mem_append_left _ hfs)
    exact ⟨hb.append (hframes.bracketed_cut hcut b), hf.append (hframes.framed_cut hcut b), nofun⟩

/-! ## Runs of the driver -/

namespace Gmk67Driver

variable {I Text : Type} [Gmk67Io I] [SerdeJson Text]

/-- Call an operation and keep what it leaves, whatever it returns. -/
def tapped (d : Gmk67Driver (Tap I) Text) (op : ShadowOp) : Option (Gmk67Driver (Tap I) Text) :=
  some (Journal.call d op)

/-- What an operation attempts. -/
def attempted (d : Gmk67Driver (Tap I) Text) (op : ShadowOp) : List Attempt :=
  (Journal.call d op).io.attempts.drop d.io.attempts.length

/-- Whether an operation returns `Ok`; for the topology query, whether its sync
does. -/
def succeeds (d : Gmk67Driver I Text) : ShadowOp → Bool
  | .set_keycode layer row col keycode => (exec (set_keycode layer row col keycode) d).1.isOk
  | .set_lighting channel value_id data => (exec (set_lighting channel value_id data) d).1.isOk
  | .commit_to_nvram => (exec commit_to_nvram d).1.isOk
  | .get_matrix_dimensions => (exec sync_eeprom { d with synced := true }).1.isOk

/-- The transactions an operation is documented to run. -/
def documented (d : Gmk67Driver I Text) : ShadowOp → List (List FeatureFrame)
  | .set_keycode _ _ _ _ => []
  | .set_lighting channel value_id data =>
      match requested_lighting d.lighting channel value_id data with
      | .ok lighting => [render_frames lighting]
      | .error _ => []
  | .commit_to_nvram =>
      if d.shadow.is_dirty then push_transactions d.shadow d.shadow.dirty_layers else []
  | .get_matrix_dimensions =>
      if d.sync_on_attach && !d.synced then
        read_transactions ((List.range d.layers.toNat).map UInt8.ofNat)
      else []

/-- What an operation runs on its board, the documented transactions; a silent one
leaves the board alone. -/
inductive Program (d : Gmk67Driver I Text) (op : ShadowOp) : Prop
  | silent (hdocumented : documented d op = []) (hio : (Journal.call d op).io = d.io)
  | render (lighting : Lighting) (hdocumented : documented d op = [render_frames lighting])
      (hio : (Journal.call d op).io = (exec (render_effect lighting) d.io).2)
      (hok : succeeds d op = true → (exec (render_effect lighting : DriverM I Unit) d.io).1.isOk)
  | push (hdocumented : documented d op = push_transactions d.shadow d.shadow.dirty_layers)
      (hio : (Journal.call d op).io = d.push.2) (hok : succeeds d op = true → d.push.1.isOk)
  | read (hdocumented : documented d op =
        read_transactions ((List.range d.layers.toNat).map UInt8.ofNat))
      (hio : (Journal.call d op).io = d.read_back.2)
      (hok : succeeds d op = true → d.read_back.1.isOk)

theorem program_set_lighting (d : Gmk67Driver I Text) (channel value_id : UInt8)
    (data : List UInt8) : Program d (.set_lighting channel value_id data) := by
  cases hrequest : requested_lighting d.lighting channel value_id data with
  | error e =>
      apply Program.silent
      · simp only [documented, hrequest]
      · simp only [Journal.call, set_lighting_invalid hrequest]
  | ok lighting =>
      apply Program.render lighting
      · simp only [documented, hrequest]
      · rcases hrender : exec (render_effect lighting) d.io with ⟨e | _, io⟩
        · simp only [Journal.call, set_lighting_refused hrequest hrender]
        · simp only [Journal.call, set_lighting_rendered hrequest hrender]
      · rcases hrender : exec (render_effect lighting) d.io with ⟨e | _, io⟩
        · simp [succeeds, set_lighting_refused hrequest hrender, Except.isOk, Except.toBool]
        · simp [Except.isOk, Except.toBool]

theorem program_commit (d : Gmk67Driver I Text) : Program d .commit_to_nvram := by
  cases hdirty : d.shadow.is_dirty with
  | false =>
      apply Program.silent
      · simp [documented, hdirty]
      · simp only [Journal.call, commit_of_clean hdirty]
  | true =>
      apply Program.push
      · simp [documented, hdirty]
      · rcases hpush : d.push with ⟨e | _, io⟩
        · simp only [Journal.call, commit_of_refused hdirty hpush]
        · simp only [Journal.call, commit_of_pushed hdirty hpush]
      · rcases hpush : d.push with ⟨e | _, io⟩
        · simp [succeeds, commit_of_refused hdirty hpush, Except.isOk, Except.toBool]
        · simp [Except.isOk, Except.toBool]

theorem program_topology (d : Gmk67Driver I Text) : Program d .get_matrix_dimensions := by
  by_cases hdue : SyncDue d
  · apply Program.read
    · simp [documented, hdue.1, hdue.2]
    · rcases hread : d.read_back with ⟨e | entries, io⟩
      · simp only [Journal.call, get_matrix_dimensions_keeps hdue hread]
      · simp only [Journal.call, get_matrix_dimensions_adopts hdue hread]
    · rcases hread : d.read_back with ⟨e | entries, io⟩
      · have hio : exec (onIo (read_layers ∅ ((List.range d.layers.toNat).map UInt8.ofNat)))
            { d with synced := true } = (.error e, { d with synced := true, io := io }) := by
          rw [onIo, exec_zoom]
          show (d.read_back.1, { d with synced := true, io := d.read_back.2 }) = _
          rw [hread]
        have hsync : exec sync_eeprom { d with synced := true } =
            (.error e, { d with synced := true, io := io }) := by
          rw [sync_eeprom, exec_bind_of_ok (exec_get _), exec_bind_of_error hio]
        simp [succeeds, hsync, Except.isOk, Except.toBool]
      · simp [Except.isOk, Except.toBool]
  · apply Program.silent
    · have hflag : (d.sync_on_attach && !d.synced) = false := by
        rw [Bool.eq_false_iff]
        intro hcon
        rw [Bool.and_eq_true, Bool.not_eq_true'] at hcon
        exact hdue hcon
      simp [documented, hflag]
    · simp only [Journal.call, get_matrix_dimensions_again hdue]

/-- Every operation is silent or runs its documented transactions. -/
theorem program (d : Gmk67Driver I Text) (op : ShadowOp) : Program d op := by
  cases op with
  | set_keycode layer row col keycode =>
      apply Program.silent rfl
      by_cases hphysical : Physical (layer, row, col)
      · simp only [Journal.call, set_keycode_accepted hphysical]
      · obtain ⟨e, hrefused⟩ := set_keycode_refused (d := d) hphysical keycode
        simp only [Journal.call, hrefused]
  | set_lighting channel value_id data => exact program_set_lighting d channel value_id data
  | commit_to_nvram => exact program_commit d
  | get_matrix_dimensions => exact program_topology d

/-- An operation's attempts are bracketed and framed, and if it succeeds they are
the documented frames, accepted in order. -/
def KeepsBrackets (d : Gmk67Driver (Tap I) Text) (op : ShadowOp) : Prop :=
  Bracketed (attempted d op) ∧ Framed (attempted d op) ∧
    (succeeds d op = true → attempted d op = taken (documented d op).flatten)

omit [Gmk67Io I] [SerdeJson Text] in
theorem documented_wellFormed (d : Gmk67Driver I Text) (op : ShadowOp) :
    ∀ frames ∈ documented d op, WellFormed frames := by
  intro frames hframes
  cases op with
  | set_keycode layer row col keycode => simp [documented] at hframes
  | set_lighting channel value_id data =>
      simp only [documented] at hframes
      split at hframes
      · rw [List.mem_singleton.1 hframes]
        exact wellFormed_render _
      · simp at hframes
  | commit_to_nvram =>
      simp only [documented] at hframes
      split at hframes
      · obtain ⟨layer, -, hlayer⟩ := List.mem_filterMap.1 hframes
        split at hlayer
        · cases hlayer
        · split at hlayer
          · cases hlayer
          · cases hlayer
            exact wellFormed_keydef _ _
      · simp at hframes
  | get_matrix_dimensions =>
      simp only [documented] at hframes
      split at hframes
      · obtain ⟨command, -, rfl⟩ := List.mem_map.1 hframes
        exact wellFormed_read command
      · simp at hframes

/-- An operation that runs a program on the board. -/
theorem keepsBrackets_of_series {d : Gmk67Driver (Tap I) Text} {op : ShadowOp} {α : Type}
    {x : DriverM (Tap I) α} (hx : Appends Tap.attempts x (Series (documented d op)))
    (hio : (Journal.call d op).io = (exec x d.io).2)
    (hok : succeeds d op = true → (exec x d.io).1.isOk = true) : KeepsBrackets d op := by
  obtain ⟨ws, hlog, hseries⟩ := hx d.io
  have hws : attempted d op = ws := by rw [attempted, hio, hlog, List.drop_left]
  obtain ⟨hb, hf, hall⟩ := bracketed_of_series hseries (documented_wellFormed d op)
  rw [KeepsBrackets, hws]
  exact ⟨hb, hf, fun h => hall (hok h)⟩

theorem keepsBrackets (d : Gmk67Driver (Tap I) Text) (op : ShadowOp) : KeepsBrackets d op := by
  cases program d op with
  | silent hdocumented hio =>
      have hws : attempted d op = [] := by simp [attempted, hio]
      rw [KeepsBrackets, hws, hdocumented]
      exact ⟨bracketed_nil, framed_nil, fun _ => rfl⟩
  | render lighting hdocumented hio hok =>
      refine keepsBrackets_of_series ?_ hio hok
      rw [hdocumented]
      exact appends_render lighting
  | push hdocumented hio hok =>
      refine keepsBrackets_of_series ?_ hio hok
      rw [hdocumented]
      exact appends_push d.shadow.prepare_commit d.shadow.dirty_layers
  | read hdocumented hio hok =>
      refine keepsBrackets_of_series ?_ hio hok
      rw [hdocumented]
      exact appends_read_layers ∅ _

/-- Over every run of the driver, on any board and with any failures of its frames
and reads: every customization-on frame an operation attempts is followed by an
end-communication frame before the next one and before the operation returns,
payload is only attempted after the accepted opening of its transaction and before
its end, and an operation succeeds only if the board took all its documented
frames in order. -/
theorem transactions_bracketed (d : Gmk67Driver (Tap I) Text) (ops : List ShadowOp) :
    EveryStep tapped KeepsBrackets d ops :=
  everyStep_of (J := fun _ => True) (fun _ _ _ _ _ => trivial)
    (fun d op _ _ _ => keepsBrackets d op) trivial ops

end Gmk67Driver

end Clackd.Hal.Legacy
