import Spreadsheet.Proofs.Validity

/-!
# Following a row through sorts

A sort moves rows and an edit changes the row that stands at a position, whatever row that is. So a
row is followed by the position where it is displayed: sorts and their undoing move it and keep what
it holds, edits leave it in place and change what it holds. Each row remembers its first position
all the while, and putting the rows back takes it there with all that was done to it.
-/

namespace Spreadsheet.Editor

variable {e : Editor}

/-- Where a sort takes the row at a position. -/
def placeSorted (e : Editor) (col : Nat) (direction : SortDirection) (i : Nat) : Nat :=
  (Sheet.sortOrder direction (e.sheet.sortKeys col)).idxOf i

/-- Where the end of a sort takes the row at a position. -/
def placeRestored (e : Editor) (i : Nat) : Nat :=
  match e.sort with
  | some s => s.order.getD i i
  | none => i

/-- Where an action takes the row at a position. -/
def placeAfter (e : Editor) (i : Nat) : Action → Nat
  | .sortBy label direction _ =>
    match e.sheet.column? label with
    | some col => e.placeSorted col direction i
    | none => i
  | .clickHeader label time =>
    match e.sheet.column? label with
    | none => i
    | some col =>
      match e.repeated? label time with
      | none => e.placeSorted col .ascending i
      | some .ascending => e.placeSorted col .descending i
      | some .descending => e.placeRestored i
  | .restoreOrder => e.placeRestored i
  | _ => i

/-- The row at a position once an action has been done to it: sorts keep what it holds, and of other
actions it shows what they did at its place. -/
def rowAfter (e : Editor) (i : Nat) (row : Row) (action : Action) : Row :=
  if action.sorts then row else (e.perform action).2.sheet.rows.getD i row

/-- Where the row at a position is after a run, and what it holds then. -/
def trace (e : Editor) (i : Nat) (row : Row) : List Action → Nat × Row
  | [] => (i, row)
  | action :: rest =>
    (e.perform action).2.trace (e.placeAfter i action) (e.rowAfter i row action) rest

/-- The row at position `i`, which holds `row`, was at position `p` before any sort. -/
structure Holds (e : Editor) (p i : Nat) (row : Row) : Prop where
  place : e.unsortedPositions[i]? = some p
  row : e.sheet.rows[i]? = some row

theorem unsortedPositions_of_unsorted (unsorted : e.sort = none) :
    e.unsortedPositions = List.range e.sheet.height := by
  rw [unsortedPositions, unsorted]

/-- With a valid sort the remembered positions are used, never the present ones in their stead. -/
theorem Valid.unsortedPositions_eq (valid : e.Valid) {s : SortState} (sorted : e.sort = some s) :
    e.unsortedPositions = s.order := by
  rw [unsortedPositions, sorted]
  exact if_pos (valid.sort s sorted).1.length

theorem unsortedPositions_congr {e e' : Editor} (sort : e'.sort = e.sort)
    (height : e'.sheet.height = e.sheet.height) : e'.unsortedPositions = e.unsortedPositions := by
  rw [unsortedPositions, unsortedPositions, sort, height]

theorem getElem?_idxOf {xs : List Nat} {i : Nat} (h : i ∈ xs) : xs[xs.idxOf i]? = some i := by
  rw [List.getElem?_eq_getElem (List.idxOf_lt_length_of_mem h), List.getElem_idxOf]

theorem Holds.inside {p i : Nat} {row : Row} (holds : e.Holds p i row) :
    i < e.sheet.height :=
  (List.getElem?_eq_some_iff.mp holds.row).1

theorem Holds.start (unsorted : e.sort = none) {p : Nat} {row : Row}
    (h : e.sheet.rows[p]? = some row) : e.Holds p p row where
  place := by
    rw [unsortedPositions_of_unsorted unsorted]
    exact List.getElem?_range (List.getElem?_eq_some_iff.mp h).1
  row := h

/-- Without a sort every row is where it was. -/
theorem Holds.eq_of_unsorted (unsorted : e.sort = none) {p i : Nat} {row : Row}
    (holds : e.Holds p i row) : i = p := by
  have place := holds.place
  rw [unsortedPositions_of_unsorted unsorted] at place
  obtain ⟨inside, same⟩ := List.getElem?_eq_some_iff.mp place
  rwa [List.getElem_range] at same

theorem InPlace.sort_and_height {e' : Editor} (h : InPlace e e') (valid : e.Valid) :
    e'.sort = e.sort ∧ e'.sheet.height = e.sheet.height ∧ e'.sheet.headers = e.sheet.headers := by
  cases h with
  | look kept => exact ⟨kept.sort, congrArg Sheet.height kept.sheet, congrArg _ kept.sheet⟩
  | select kept => exact ⟨kept.sort, congrArg Sheet.height kept.sheet, congrArg _ kept.sheet⟩
  | cells shape replaced sort =>
    rw [replaced.sheet valid]
    exact ⟨sort, Grid.length_eq_of_shape shape, rfl⟩

theorem Holds.inPlace {e' : Editor} (h : InPlace e e') (valid : e.Valid) {p i : Nat} {row : Row}
    (holds : e.Holds p i row) : e'.Holds p i (e'.sheet.rows.getD i row) where
  place := by
    obtain ⟨sort, height, -⟩ := h.sort_and_height valid
    rw [unsortedPositions_congr sort height]
    exact holds.place
  row := by
    have inside : i < e'.sheet.rows.length := by
      have height := (h.sort_and_height valid).2.1
      have before := holds.inside
      rw [Sheet.height, Sheet.height] at height
      rw [height]
      exact before
    rw [List.getD_eq_getElem?_getD, List.getElem?_eq_getElem inside, Option.getD_some]

theorem Holds.sortByIndex (valid : e.Valid) {p i : Nat} {row : Row} (holds : e.Holds p i row)
    {col : Nat} (inside : col < e.sheet.width) (direction : SortDirection) (time : Nat) :
    (e.sortByIndex col direction time).Holds p (e.placeSorted col direction i) row := by
  have order := isOrder_sortKeys e.sheet col direction
  have stands := getElem?_idxOf (order.mem_iff.mpr (holds.inside))
  have after := valid.sortByIndex direction time inside
  constructor
  · rw [after.unsortedPositions_eq rfl, getElem?_pick, placeSorted, stands]
    · exact holds.place
    · rw [valid.isOrder_unsortedPositions.length]
      exact order
  · rw [valid.sheet_sortByIndex, getElem?_pick order, placeSorted, stands]
    exact holds.row

theorem Holds.restoreOrder (valid : e.Valid) {p i : Nat} {row : Row} (holds : e.Holds p i row) :
    e.restoreOrder.Holds p (e.placeRestored i) row := by
  cases sorted : e.sort with
  | none =>
    rw [Editor.restoreOrder, placeRestored, sorted]
    exact holds
  | some s =>
    have order := (valid.sort s sorted).1
    have place := holds.place
    rw [valid.unsortedPositions_eq sorted] at place
    have back : e.placeRestored i = p := by
      rw [placeRestored, sorted]
      simp [place]
    have unsorted : e.restoreOrder.sort = none := by
      rw [valid.restoreOrder_eq sorted]
      rfl
    rw [back]
    refine .start unsorted ?_
    rw [valid.sheet_restoreOrder sorted, getElem?_unpick order,
      (idxOf?_iff_getElem? order.nodup).mpr place]
    exact holds.row

/-- What one action does to a row. -/
theorem Holds.perform (valid : e.Valid) {p i : Nat} {row : Row} (holds : e.Holds p i row)
    {action : Action} (arranges : action.arranges = false) (exchanges : action.exchanges = false) :
    (e.perform action).2.Holds p (e.placeAfter i action) (e.rowAfter i row action) := by
  cases sorts : action.sorts with
  | false =>
    have place : e.placeAfter i action = i := by
      cases action <;> first | rfl | cases sorts
    rw [place, rowAfter, sorts]
    exact holds.inPlace (perform_inPlace e sorts arranges exchanges) valid
  | true =>
    rw [rowAfter, sorts, if_pos rfl]
    cases action with
    | sortBy label direction time =>
      simp only [Editor.perform, Editor.sortBy, placeAfter]
      cases found : e.sheet.column? label with
      | none => exact holds
      | some col => exact holds.sortByIndex valid (Sheet.column?_lt found) direction time
    | clickHeader label time =>
      simp only [Editor.perform, Editor.clickHeader, placeAfter]
      cases found : e.sheet.column? label with
      | none => exact holds
      | some col =>
        have inside := Sheet.column?_lt found
        cases e.repeated? label time with
        | none => exact holds.sortByIndex valid inside .ascending time
        | some direction =>
          cases direction with
          | ascending => exact holds.sortByIndex valid inside .descending time
          | descending => exact holds.restoreOrder valid
    | restoreOrder => exact holds.restoreOrder valid
    | _ => cases sorts

/-- What a run does to a row. -/
theorem Holds.run (valid : e.Valid) {p i : Nat} {row : Row} (holds : e.Holds p i row)
    {actions : List Action}
    (rowwise : ∀ action ∈ actions, action.arranges = false ∧ action.exchanges = false) :
    (e.run actions).Holds p (e.trace i row actions).1 (e.trace i row actions).2 := by
  induction actions generalizing e i row with
  | nil => exact holds
  | cons action rest ih =>
    obtain ⟨arranges, exchanges⟩ := rowwise action List.mem_cons_self
    have valid' := (perform_change e action).valid valid
    exact ih valid' (holds.perform valid arranges exchanges) fun a ha =>
      rowwise a (List.mem_cons_of_mem _ ha)

theorem layout_sortByIndex (valid : e.Valid) (col : Nat) (direction : SortDirection) (time : Nat) :
    (e.sortByIndex col direction time).sheet.height = e.sheet.height ∧
      (e.sortByIndex col direction time).sheet.headers = e.sheet.headers := by
  rw [valid.sheet_sortByIndex]
  exact ⟨length_pick (isOrder_sortKeys e.sheet col direction), rfl⟩

theorem layout_restoreOrder (valid : e.Valid) :
    e.restoreOrder.sheet.height = e.sheet.height ∧
      e.restoreOrder.sheet.headers = e.sheet.headers := by
  cases sorted : e.sort with
  | none =>
    rw [restoreOrder, sorted]
    exact ⟨rfl, rfl⟩
  | some s =>
    rw [valid.sheet_restoreOrder sorted]
    exact ⟨length_unpick (valid.sort s sorted).1, rfl⟩

/-- Without rearrangements the sheet keeps its height and its headers. -/
theorem layout_perform (valid : e.Valid) {action : Action} (arranges : action.arranges = false)
    (exchanges : action.exchanges = false) :
    (e.perform action).2.sheet.height = e.sheet.height ∧
      (e.perform action).2.sheet.headers = e.sheet.headers := by
  cases sorts : action.sorts with
  | false => exact ((perform_inPlace e sorts arranges exchanges).sort_and_height valid).2
  | true =>
    cases action with
    | sortBy label direction time =>
      simp only [perform, sortBy]
      split
      · exact layout_sortByIndex valid _ direction time
      · exact ⟨rfl, rfl⟩
    | clickHeader label time =>
      simp only [perform, clickHeader]
      split
      · exact ⟨rfl, rfl⟩
      · split
        · exact layout_sortByIndex valid _ .ascending time
        · exact layout_sortByIndex valid _ .descending time
        · exact layout_restoreOrder valid
    | restoreOrder => exact layout_restoreOrder valid
    | _ => cases sorts

theorem layout_run (valid : e.Valid) {actions : List Action}
    (rowwise : ∀ action ∈ actions, action.arranges = false ∧ action.exchanges = false) :
    (e.run actions).sheet.height = e.sheet.height ∧
      (e.run actions).sheet.headers = e.sheet.headers := by
  induction actions generalizing e with
  | nil => exact ⟨rfl, rfl⟩
  | cons action rest ih =>
    obtain ⟨arranges, exchanges⟩ := rowwise action List.mem_cons_self
    obtain ⟨height, headers⟩ := layout_perform valid arranges exchanges
    obtain ⟨height', headers'⟩ := ih ((perform_change e action).valid valid) fun a ha =>
      rowwise a (List.mem_cons_of_mem _ ha)
    exact ⟨height'.trans height, headers'.trans headers⟩

/-- Sorts alone do nothing to what a row holds. -/
theorem trace_of_sorts {i : Nat} {row : Row} {actions : List Action}
    (sorts : ∀ action ∈ actions, action.sorts = true) : (e.trace i row actions).2 = row := by
  induction actions generalizing e i with
  | nil => rfl
  | cons action rest ih =>
    have kept : e.rowAfter i row action = row := by
      rw [rowAfter, if_pos (sorts action List.mem_cons_self)]
    rw [trace, kept]
    exact ih fun a ha => sorts a (List.mem_cons_of_mem _ ha)

theorem sort_restoreOrder (valid : e.Valid) : e.restoreOrder.sort = none := by
  cases sorted : e.sort with
  | none => rw [restoreOrder, sorted, sorted]
  | some s =>
    rw [valid.restoreOrder_eq sorted]
    rfl

/-- The row comes back to its first position. -/
theorem Holds.restored (valid : e.Valid) {p i : Nat} {row : Row} (holds : e.Holds p i row) :
    e.restoreOrder.sheet.rows[p]? = some row := by
  have back := holds.restoreOrder valid
  have there := back.row
  rwa [back.eq_of_unsorted (sort_restoreOrder valid)] at there

/-- The only click after which nothing is sorted is the one that puts the rows back. -/
theorem clickHeader_of_unsorted {label : Text} {time : Nat}
    (unsorted : (e.clickHeader label time).sort = none) :
    e.clickHeader label time = e.restoreOrder := by
  rw [clickHeader] at unsorted ⊢
  cases found : e.sheet.column? label with
  | none =>
    rw [found] at unsorted
    rw [restoreOrder, show e.sort = none from unsorted]
  | some col =>
    rw [found] at unsorted
    dsimp only at unsorted ⊢
    split
    · rename_i direction
      rw [direction] at unsorted
      cases unsorted
    · rename_i direction
      rw [direction] at unsorted
      cases unsorted
    · rfl

/-- In every state that a run reaches, a sort remembers an arrangement of all positions of the
active sheet, of which it has the column. From a state without a sort, whatever is sorted, edited
and put back then, every row is shown where its trace ends and holds what the trace says; putting
the rows back takes each to its first position with that. After sorts alone the rows are the first
ones again, and a click that ends a sort does the same. -/
theorem run_rows_restored (c : Config) (store : Store) (before : List Action) :
    let e := (start c store).run before
    (∀ s, e.sort = some s → s.order.Perm (List.range e.sheet.height) ∧
      s.column ∈ e.sheet.headers ∧ s.order.length = e.sheet.height ∧
      e.unsortedPositions = s.order) ∧
    (e.sort = none → ∀ actions,
      (∀ action ∈ actions, action.arranges = false ∧ action.exchanges = false) →
      let after := e.run actions
      after.restoreOrder.sort = none ∧
        after.restoreOrder.sheet.height = e.sheet.height ∧
        after.restoreOrder.sheet.headers = e.sheet.headers ∧
        (∀ p row, e.sheet.rows[p]? = some row →
          after.sheet.rows[(e.trace p row actions).1]? = some (e.trace p row actions).2 ∧
          after.restoreOrder.sheet.rows[p]? = some (e.trace p row actions).2) ∧
        ((∀ action ∈ actions, action.sorts = true) →
          after.restoreOrder.sheet.rows = e.sheet.rows) ∧
        ∀ label time, (after.clickHeader label time).sort = none →
          after.clickHeader label time = after.restoreOrder) := by
  intro e
  have valid : e.Valid := valid_run c store before
  refine ⟨fun s sorted => ?_, fun unsorted actions rowwise => ?_⟩
  · obtain ⟨order, column⟩ := valid.sort s sorted
    exact ⟨order, column, order.length, valid.unsortedPositions_eq sorted⟩
  · intro after
    have valid' : after.Valid := valid.run actions
    obtain ⟨height, headers⟩ := layout_run valid rowwise
    obtain ⟨height', headers'⟩ := layout_restoreOrder valid'
    have traced : ∀ p row, e.sheet.rows[p]? = some row →
        after.Holds p (e.trace p row actions).1 (e.trace p row actions).2 := fun p row hp =>
      (Holds.start unsorted hp).run valid rowwise
    refine ⟨sort_restoreOrder valid', height'.trans height, headers'.trans headers,
      fun p row hp => ⟨(traced p row hp).row, (traced p row hp).restored valid'⟩, fun sorts => ?_,
      fun label time => clickHeader_of_unsorted⟩
    apply List.ext_getElem (height'.trans height)
    intro p hp hp'
    have there := (traced p _ (List.getElem?_eq_getElem hp')).restored valid'
    rw [trace_of_sorts sorts, List.getElem?_eq_getElem hp] at there
    exact Option.some.inj there

end Spreadsheet.Editor
