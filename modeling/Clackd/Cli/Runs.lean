import Clackd.Cli.Conduct

/-!
# Commands that succeed

What the commands about the keymap have called and printed when they have succeeded: the
device that was picked, the keys that were read, and the line for each of them.

## Main results

* `finished_get`, `finished_keymap`: what was read is what is printed.
* `finished_set`, `finished_commit`: what was acknowledged.
-/

namespace Clackd.Cli

open Clackd.Foundation Clackd.Ipc
open Dialogue (Finished finished_done finished_andThen_ok)
open Client

section Complete

variable {α β : Type} {exchanges : List (Method × Returned)} {out : List String} {b : β}

/-- The device that a spec stands for, by what was called. -/
def Picked (device id : String) (exchanges : List (Method × Returned)) : Prop :=
  ∃ returned lookups more, exchanges = (.list_devices, returned) :: (lookups ++ more) ∧
    Resolution device returned lookups (.ok id)

theorem finished_resolved {device : String} {f : String → Client β}
    (h : Finished (resolve_device device >>= f : Client β) exchanges out (.ok b)) :
    ∃ id more, Picked device id exchanges ∧ more ⊆ exchanges ∧
      Finished (f id) more out (.ok b) := by
  obtain ⟨id, first, more, printed, later, hfirst, hrest, rfl, rfl⟩ := finished_andThen_ok h
  obtain ⟨rfl, returned, lookups, rfl, hresolution⟩ := finished_resolve.1 hfirst
  exact ⟨id, more, ⟨returned, lookups, more, rfl, hresolution⟩,
    List.subset_append_right _ _, hrest⟩

theorem finished_called {method : Method} {read : Answer → Option α} {f : α → Client β}
    (h : Finished (await (proxy method read) >>= f : Client β) exchanges out (.ok b)) :
    ∃ answer a more, exchanges = (method, .ok answer) :: more ∧ read answer = some a ∧
      Finished (f a) more out (.ok b) := by
  obtain ⟨a, first, more, printed, later, hfirst, hrest, rfl, rfl⟩ := finished_andThen_ok h
  obtain ⟨answer, rfl, rfl, hread⟩ := finished_await_ok.1 hfirst
  exact ⟨answer, a, more, rfl, hread, hrest⟩

theorem finished_parsed {parse : Except String α} {f : α → Client β}
    (h : Finished (parsed parse >>= f : Client β) exchanges out (.ok b)) :
    ∃ a, parse = .ok a ∧ Finished (f a) exchanges out (.ok b) := by
  cases parse with
  | ok a => exact ⟨a, rfl, h⟩
  | error message =>
      obtain ⟨-, -, hcon⟩ := finished_done.1 h
      cases hcon

theorem as_keycode_some {answer : Answer} {code : UInt16} :
    as_keycode answer = some code ↔ answer = .keycode code := by
  cases answer <;> simp [as_keycode]

theorem as_info_some {answer : Answer} {model : String} {rows cols layer_count : UInt8} :
    as_info answer = some (model, rows, cols, layer_count) ↔
      answer = .info model rows cols layer_count := by
  cases answer <;> simp [as_info]

/-- A key that was read. -/
def ReadIn (exchanges : List (Method × Returned)) (id : String) (layer row col : UInt8)
    (code : UInt16) : Prop :=
  (Method.get_keycode id layer row col, Except.ok (Answer.keycode code)) ∈ exchanges

theorem finished_read_row {id : String} {layer row : UInt8} {cols : List UInt8}
    {codes : List UInt16} (h : Finished (read_row id layer row cols) exchanges out (.ok codes)) :
    out = [] ∧ List.Forall₂ (ReadIn exchanges id layer row) cols codes := by
  induction cols generalizing exchanges out codes with
  | nil =>
      obtain ⟨rfl, rfl, hcodes⟩ := finished_done.1 h
      cases hcodes
      exact ⟨rfl, .nil⟩
  | cons col cols ih =>
      obtain ⟨answer, code, more, rfl, hread, hmore⟩ := finished_called h
      obtain ⟨codes', first, second, printed, later, hfirst, hlast, rfl, rfl⟩ :=
        finished_andThen_ok hmore
      obtain ⟨rfl, hcodes'⟩ := ih hfirst
      obtain ⟨rfl, rfl, hcodes⟩ := finished_done.1 hlast
      cases hcodes
      obtain rfl := as_keycode_some.1 hread
      refine ⟨rfl, .cons List.mem_cons_self (hcodes'.imp fun _ _ hmem => ?_)⟩
      rw [List.append_nil]
      exact List.mem_cons_of_mem _ hmem

theorem finished_read_grid {id : String} {layer : UInt8} {cols rows : List UInt8}
    {grid : List (List UInt16)}
    (h : Finished (read_grid id layer cols rows) exchanges out (.ok grid)) :
    out = [] ∧
      List.Forall₂ (fun row => List.Forall₂ (ReadIn exchanges id layer row) cols) rows grid := by
  induction rows generalizing exchanges out grid with
  | nil =>
      obtain ⟨rfl, rfl, hgrid⟩ := finished_done.1 h
      cases hgrid
      exact ⟨rfl, .nil⟩
  | cons row rows ih =>
      obtain ⟨codes, first, more, printed, later, hrow, hmore, rfl, rfl⟩ := finished_andThen_ok h
      obtain ⟨grid', second, third, printed', later', hrest, hlast, rfl, rfl⟩ :=
        finished_andThen_ok hmore
      obtain ⟨rfl, hcodes⟩ := finished_read_row hrow
      obtain ⟨rfl, hgrid'⟩ := ih hrest
      obtain ⟨rfl, rfl, hgrid⟩ := finished_done.1 hlast
      cases hgrid
      rw [List.append_nil second]
      refine ⟨rfl, .cons (hcodes.imp fun _ _ hmem => ?_) (hgrid'.imp fun _ _ hcols => ?_)⟩
      · exact List.mem_append_left _ hmem
      · exact hcols.imp fun _ _ hmem => List.mem_append_right _ hmem

/-- What is printed of one layer. -/
def layer_text (id : String) (cols : List UInt8) (layer : UInt8) (grid : List (List UInt16)) :
    List String :=
  (layer_lines id layer cols grid).map (· ++ "\n")

theorem finished_print_layers {id : String} {cols rows layers : List UInt8}
    (h : Finished (print_layers id rows cols layers) exchanges out (.ok ())) :
    ∃ grids, out = (List.zipWith (layer_text id cols) layers grids).flatten ∧
      List.Forall₂ (fun layer => List.Forall₂
        (fun row => List.Forall₂ (ReadIn exchanges id layer row) cols) rows) layers grids := by
  induction layers generalizing exchanges out with
  | nil =>
      obtain ⟨rfl, rfl, -⟩ := finished_done.1 h
      exact ⟨[], rfl, .nil⟩
  | cons layer layers ih =>
      obtain ⟨grid, first, more, printed, later, hgrid, hmore, rfl, rfl⟩ := finished_andThen_ok h
      obtain ⟨_, second, third, printed', later', hlines, hrest, rfl, rfl⟩ :=
        finished_andThen_ok hmore
      obtain ⟨rfl, hread⟩ := finished_read_grid hgrid
      obtain ⟨rfl, rfl⟩ := finished_print_lines hlines
      obtain ⟨grids, rfl, hgrids⟩ := ih hrest
      refine ⟨grid :: grids, rfl, .cons ?_ ?_⟩
      · exact hread.imp fun _ _ hcols => hcols.imp fun _ _ hmem => List.mem_append_left _ hmem
      · refine hgrids.imp fun _ _ hrows => hrows.imp fun _ _ hcols => hcols.imp fun _ _ hmem => ?_
        exact List.mem_append_right _ hmem

/-! What commands have called and printed that have succeeded. -/

theorem finished_get {device : String} {layer row col : UInt8}
    (h : Finished (cmd_get device layer row col) exchanges out (.ok ())) :
    ∃ id code, Picked device id exchanges ∧ ReadIn exchanges id layer row col code ∧
      out = [describe code ++ "\n"] := by
  obtain ⟨id, more, hpicked, hsub, hrest⟩ := finished_resolved h
  obtain ⟨answer, code, _, rfl, hread, hprint⟩ := finished_called hrest
  obtain rfl := as_keycode_some.1 hread
  obtain ⟨rfl, hout, -⟩ := finished_println.1 hprint
  exact ⟨id, code, hpicked, hsub List.mem_cons_self, hout⟩

theorem finished_set {device key : String} {layer row col : UInt8}
    (h : Finished (cmd_set device layer row col key) exchanges out (.ok ())) :
    ∃ id code, Picked device id exchanges ∧ parse_key key = .ok code ∧
      (Method.set_keycode id layer row col code, Except.ok Answer.done) ∈ exchanges := by
  obtain ⟨code, hkey, h⟩ := finished_parsed h
  obtain ⟨id, more, hpicked, hsub, hrest⟩ := finished_resolved h
  obtain ⟨answer, _, _, rfl, hread, -⟩ := finished_called hrest
  obtain rfl := as_done_some.1 hread
  exact ⟨id, code, hpicked, hkey, hsub List.mem_cons_self⟩

theorem finished_commit {device : String}
    (h : Finished (cmd_commit device) exchanges out (.ok ())) :
    ∃ id, Picked device id exchanges ∧
      (Method.commit id, Except.ok Answer.done) ∈ exchanges := by
  obtain ⟨id, more, hpicked, hsub, hrest⟩ := finished_resolved h
  obtain ⟨answer, _, _, rfl, hread, -⟩ := finished_called hrest
  obtain rfl := as_done_some.1 hread
  exact ⟨id, hpicked, hsub List.mem_cons_self⟩

theorem finished_keymap {device : String} {layer : Option UInt8}
    (h : Finished (cmd_keymap device layer) exchanges out (.ok ())) :
    ∃ id model rows cols layer_count grids, Picked device id exchanges ∧
      (Method.get_device_info id, Except.ok (Answer.info model rows cols layer_count)) ∈
        exchanges ∧
      List.Forall₂ (fun layer => List.Forall₂ (fun row => List.Forall₂
        (ReadIn exchanges id layer row) (upTo cols)) (upTo rows))
        (layer.elim (upTo layer_count) fun l => [l]) grids ∧
      out = (List.zipWith (layer_text id (upTo cols))
        (layer.elim (upTo layer_count) fun l => [l]) grids).flatten ++ [LEGEND ++ "\n"] := by
  obtain ⟨id, more, hpicked, hsub, hrest⟩ := finished_resolved h
  obtain ⟨answer, ⟨model, rows, cols, layer_count⟩, more', rfl, hinfo, hmore⟩ :=
    finished_called hrest
  obtain rfl := as_info_some.1 hinfo
  obtain ⟨_, first, last, printed, later, hlayers, hlegend, rfl, hout⟩ :=
    finished_andThen_ok hmore
  obtain ⟨rfl, rfl, -⟩ := finished_println.1 hlegend
  obtain ⟨grids, rfl, hgrids⟩ := finished_print_layers hlayers
  refine ⟨id, model, rows, cols, layer_count, grids, hpicked, hsub List.mem_cons_self, ?_, hout⟩
  refine hgrids.imp fun _ _ hrows => hrows.imp fun _ _ hcols => hcols.imp fun _ _ hmem => ?_
  exact hsub (List.mem_cons_of_mem _ (List.mem_append_left _ hmem))

end Complete

end Clackd.Cli
