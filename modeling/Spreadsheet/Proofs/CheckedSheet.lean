import Spreadsheet.Proofs.Changes
import Spreadsheet.Proofs.CheckedGrid
import Spreadsheet.Proofs.RowOrder

/-!
# Checked indices on sheets

Selecting, arranging and ordering on a sheet, once more with every index checked. The guards of
these operations look at the headers and at the number of rows; that they also protect the cells of
each row takes a sheet whose rows are as wide as its headers.
-/

namespace Spreadsheet.Checked

def between? (s : Sheet) (a b : Address) : Checked (Option Selection) :=
  match s.position? a, s.position? b with
  | some (row₁, col₁), some (row₂, col₂) => do
    let first ← fetch s.headers (min col₁ col₂)
    let last ← fetch s.headers (max col₁ col₂)
    return some ⟨min row₁ row₂, max row₁ row₂, first, last⟩
  | _, _ => return none

/-- The last row and the last column are found by subtraction. -/
def neighbour (s : Sheet) (row col : Nat) : Direction → Checked (Nat × Nat)
  | .up => return (row - 1, col)
  | .down => do return (min (row + 1) (← minus s.height 1), col)
  | .left => return (row, col - 1)
  | .right => do return (row, min (col + 1) (← minus s.width 1))

def previousPosition? (s : Sheet) (row col : Nat) : Checked (Option (Nat × Nat)) := do
  let last ← minus s.width 1
  return if 0 < col then some (row, col - 1) else if 0 < row then some (row - 1, last) else none

def insertRow? (limit i : Nat) (s : Sheet) : Checked (Option Sheet) :=
  if i ≤ s.height then do
    let rows ← insert s.rows i s.blankRow
    return some { s with rows := rows.take (max limit s.height) }
  else return none

def deleteRow? (i : Nat) (s : Sheet) : Checked (Option Sheet) :=
  if i < s.height then do
    let (_, rows) ← remove s.rows i
    return some { s with rows := rows ++ [s.blankRow] }
  else return none

def insertColumn? (i : Nat) (s : Sheet) : Checked (Option Sheet) :=
  if i ≤ s.width then do
    let headers ← insert s.headers i []
    let rows ← s.rows.mapM fun row => insert row i .empty
    return some (s.withColumns headers.length rows)
  else return none

def deleteColumn? (i : Nat) (s : Sheet) : Checked (Option Sheet) :=
  if i < s.width ∧ 1 < s.width then do
    let (_, headers) ← remove s.headers i
    let rows ← s.rows.mapM fun row => do return (← remove row i).2
    return some (s.withColumns headers.length rows)
  else return none

def moveElement {α : Type} (i j : Nat) (xs : List α) : Checked (List α) := do
  let (x, rest) ← remove xs i
  insert rest j x

def moveRow? (i j : Nat) (s : Sheet) : Checked (Option Sheet) :=
  if i ≠ j ∧ i < s.height ∧ j < s.height then do
    return some { s with rows := ← moveElement i j s.rows }
  else return none

def moveColumn? (i j : Nat) (s : Sheet) : Checked (Option Sheet) :=
  if i ≠ j then do return some (s.withColumns s.width (← s.rows.mapM (moveElement i j)))
  else return none

/-- An edit next to a column, if the sheet has it. -/
def atColumn (s : Sheet) (label : Text) (edit : Nat → Checked (Option Sheet)) :
    Checked (Option Sheet) :=
  match s.column? label with
  | some col => edit col
  | none => return none

def edited? (limit : Nat) (edit : StructuralEdit) (anchor : Address) (s : Sheet) :
    Checked (Option Sheet) :=
  let row := anchor.row
  match edit with
  | .insertRowAbove => insertRow? limit row s
  | .insertRowBelow => insertRow? limit (row + 1) s
  | .deleteRow => deleteRow? row s
  | .deleteRowAbove => if 0 < row then deleteRow? (row - 1) s else return none
  | .deleteRowBelow => deleteRow? (row + 1) s
  | .insertColumnLeft => atColumn s anchor.col fun col => insertColumn? col s
  | .insertColumnRight => atColumn s anchor.col fun col => insertColumn? (col + 1) s
  | .deleteColumn => atColumn s anchor.col fun col => deleteColumn? col s
  | .deleteColumnLeft => atColumn s anchor.col fun col =>
    if 0 < col then deleteColumn? (col - 1) s else return none
  | .deleteColumnRight => atColumn s anchor.col fun col => deleteColumn? (col + 1) s

/-- The keys of a column, which every row has to reach. -/
def sortKeys (s : Sheet) (col : Nat) : Checked (List SortKey) :=
  s.rows.mapM fun row => do return SortKey.ofCell s.rows s.headers (← fetch row col)

def pick {α : Type} (order : List Nat) (xs : List α) : Checked (List α) :=
  order.mapM (fetch xs)

/-- Puts the elements one by one into a list of empty places. -/
def unpick {α : Type} (order : List Nat) (xs : List α) : Checked (List α) := do
  let places ← (xs.zip order).foldlM (fun places (x, i) => replace places i (some x))
    (List.replicate xs.length none)
  return places.filterMap id

section Positions

theorem between?_eq_ok (s : Sheet) (a b : Address) :
    between? s a b = .ok (Selection.between? s a b) := by
  rw [between?, Selection.between?]
  cases ha : s.position? a with
  | none => rfl
  | some place₁ =>
    cases hb : s.position? b with
    | none => rfl
    | some place₂ =>
      obtain ⟨row₁, col₁⟩ := place₁
      obtain ⟨row₂, col₂⟩ := place₂
      have left : col₁ < s.headers.length := Sheet.column?_lt (Sheet.position?_eq_some ha).2.2
      have right : col₂ < s.headers.length := Sheet.column?_lt (Sheet.position?_eq_some hb).2.2
      have first : s.headers[min col₁ col₂]? = some s.headers[min col₁ col₂] :=
        List.getElem?_eq_getElem (by omega)
      have last : s.headers[max col₁ col₂]? = some s.headers[max col₁ col₂] :=
        List.getElem?_eq_getElem (by omega)
      dsimp only
      rw [fetch_eq_ok first, ok_bind, fetch_eq_ok last, ok_bind]
      simp [first, last]
      rfl

theorem neighbour_eq_ok {s : Sheet} {row col : Nat} (hrow : row < s.height) (hcol : col < s.width)
    (d : Direction) : neighbour s row col d = .ok (Editor.neighbour s row col d) := by
  cases d with
  | up => rfl
  | down =>
    rw [neighbour, minus_eq_ok (by omega)]
    rfl
  | left => rfl
  | right =>
    rw [neighbour, minus_eq_ok (by omega)]
    rfl

theorem previousPosition?_eq_ok {s : Sheet} {row col : Nat} (hcol : col < s.width) :
    previousPosition? s row col = .ok (Editor.previousPosition? s row col) := by
  rw [previousPosition?, minus_eq_ok (by omega)]
  rfl

end Positions

section Edits

variable {s : Sheet}

theorem insertRow?_eq_ok (limit i : Nat) (s : Sheet) :
    insertRow? limit i s = .ok (s.insertRow? limit i) := by
  rw [insertRow?, Sheet.insertRow?]
  split
  · rename_i inside
    rw [insert_eq_ok inside]
    rfl
  · rfl

theorem deleteRow?_eq_ok (i : Nat) (s : Sheet) : deleteRow? i s = .ok (s.deleteRow? i) := by
  rw [deleteRow?, Sheet.deleteRow?]
  split
  · rename_i inside
    rw [remove_eq_ok (List.getElem?_eq_getElem inside)]
    rfl
  · rfl

theorem insertColumn?_eq_ok (sound : s.Sound) (i : Nat) :
    insertColumn? i s = .ok (s.insertColumn? i) := by
  rw [insertColumn?, Sheet.insertColumn?]
  split
  · rename_i inside
    have rows : s.rows.mapM (fun row => insert row i .empty) =
        .ok (s.rows.map fun row => row.insertIdx i .empty) :=
      mapM_eq_ok fun row hrow => insert_eq_ok (by rwa [sound.even row hrow]) _
    rw [insert_eq_ok inside, ok_bind, rows, List.length_insertIdx_of_le_length inside]
    rfl
  · rfl

theorem deleteColumn?_eq_ok (sound : s.Sound) (i : Nat) :
    deleteColumn? i s = .ok (s.deleteColumn? i) := by
  rw [deleteColumn?, Sheet.deleteColumn?]
  split
  · rename_i inside
    have rows : s.rows.mapM (fun row => do return (← remove row i).2) =
        .ok (s.rows.map fun row => row.eraseIdx i) := by
      apply mapM_eq_ok
      intro row hrow
      rw [remove_eq_ok (List.getElem?_eq_getElem (by rw [sound.even row hrow]; exact inside.1))]
      rfl
    have fewer : (s.headers.eraseIdx i).length = s.width - 1 :=
      List.length_eraseIdx_of_lt inside.1
    rw [remove_eq_ok (List.getElem?_eq_getElem inside.1), ok_bind]
    dsimp only
    rw [rows, fewer]
    rfl
  · rfl

theorem moveElement_eq_ok {α : Type} {xs : List α} {i j : Nat} (hi : i < xs.length)
    (hj : j < xs.length) : moveElement i j xs = .ok (Spreadsheet.moveElement i j xs) := by
  have found := List.getElem?_eq_getElem hi
  have erased := List.length_eraseIdx_of_lt hi
  rw [moveElement, remove_eq_ok found, ok_bind, Spreadsheet.moveElement, found]
  exact insert_eq_ok (by omega) _

theorem moveRow?_eq_ok (i j : Nat) (s : Sheet) : moveRow? i j s = .ok (s.moveRow? i j) := by
  rw [moveRow?, Sheet.moveRow?]
  split
  · rename_i inside
    rw [moveElement_eq_ok inside.2.1 inside.2.2]
    rfl
  · rfl

theorem moveColumn?_eq_ok (sound : s.Sound) {i j : Nat} (hi : i < s.width) (hj : j < s.width) :
    moveColumn? i j s = .ok (s.moveColumn? i j) := by
  rw [moveColumn?, Sheet.moveColumn?]
  split
  · have rows : s.rows.mapM (moveElement i j) = .ok (s.rows.map (Spreadsheet.moveElement i j)) := by
      apply mapM_eq_ok
      intro row hrow
      have width := sound.even row hrow
      exact moveElement_eq_ok (by omega) (by omega)
    rw [rows]
    rfl
  · rfl

theorem atColumn_eq_ok {edit : Nat → Checked (Option Sheet)} {edit' : Nat → Option Sheet}
    (same : ∀ col, edit col = .ok (edit' col)) (s : Sheet) (label : Text) :
    atColumn s label edit = .ok ((s.column? label).bind edit') := by
  rw [atColumn]
  cases s.column? label with
  | none => rfl
  | some col => exact same col

theorem edited?_eq_ok (sound : s.Sound) (limit : Nat) (edit : StructuralEdit) (anchor : Address) :
    edited? limit edit anchor s = .ok (s.edited? limit edit anchor) := by
  cases edit with
  | insertRowAbove | insertRowBelow => exact insertRow?_eq_ok limit _ s
  | deleteRow | deleteRowBelow => exact deleteRow?_eq_ok _ s
  | deleteRowAbove =>
    simp only [edited?, Sheet.edited?]
    split
    · exact deleteRow?_eq_ok _ s
    · rfl
  | insertColumnLeft | insertColumnRight =>
    exact atColumn_eq_ok (fun col => insertColumn?_eq_ok sound _) s anchor.col
  | deleteColumn | deleteColumnRight =>
    exact atColumn_eq_ok (fun col => deleteColumn?_eq_ok sound _) s anchor.col
  | deleteColumnLeft =>
    refine atColumn_eq_ok (fun col => ?_) s anchor.col
    split
    · exact deleteColumn?_eq_ok sound _
    · rfl

end Edits

section Orders

variable {α : Type} {xs : List α} {order : List Nat}

theorem sortKeys_eq_ok {s : Sheet} (sound : s.Sound) {col : Nat} (hcol : col < s.width) :
    sortKeys s col = .ok (s.sortKeys col) := by
  apply mapM_eq_ok
  intro row hrow
  have reached : col < row.length := by rwa [sound.even row hrow]
  have found := List.getElem?_eq_getElem reached
  rw [fetch_eq_ok found, List.getD_eq_getElem?_getD, found]
  rfl

theorem pick_eq_ok (h : ∀ i ∈ order, i < xs.length) :
    pick order xs = .ok (Spreadsheet.pick order xs) := by
  induction order with
  | nil => rfl
  | cons i rest ih =>
    have found := List.getElem?_eq_getElem (h i List.mem_cons_self)
    have later : rest.mapM (fetch xs) = .ok (Spreadsheet.pick rest xs) :=
      ih fun j hj => h j (List.mem_cons_of_mem _ hj)
    have kept : Spreadsheet.pick (i :: rest) xs = _ :: Spreadsheet.pick rest xs :=
      List.filterMap_cons_some found
    rw [pick, List.mapM_cons, fetch_eq_ok found, ok_bind, later, kept]
    rfl

/-- The places once the first `n` elements have been put back. -/
def placesAfter (order : List Nat) (xs : List α) (n : Nat) : List (Option α) :=
  (List.range xs.length).map fun place =>
    (order.idxOf? place).bind fun i => if i < n then xs[i]? else none

theorem placesAfter_start (order : List Nat) (xs : List α) :
    placesAfter order xs 0 = List.replicate xs.length none := by
  apply List.ext_getElem
  · simp [placesAfter]
  · intro place h h'
    simp [placesAfter]

theorem replace_placesAfter (h : IsOrder xs.length order) {n place : Nat} {x : α}
    (hx : xs[n]? = some x) (hplace : order[n]? = some place) :
    replace (placesAfter order xs n) place (some x) = .ok (placesAfter order xs (n + 1)) := by
  have inside : place < (placesAfter order xs n).length := by
    rw [placesAfter, List.length_map, List.length_range]
    exact h.lt_of_getElem? hplace
  have stands := (idxOf?_iff_getElem? h.nodup).mpr hplace
  rw [replace_eq_ok inside]
  congr 1
  apply List.ext_getElem
  · simp [placesAfter]
  · intro p hp hp'
    rw [List.getElem_set]
    split
    · rename_i here
      subst here
      simp [placesAfter, stands, hx]
    · rename_i other
      simp only [placesAfter, List.getElem_map, List.getElem_range]
      cases hi : order.idxOf? p with
      | none => rfl
      | some i =>
        -- the place of another element
        have apart : i ≠ n := by
          rintro rfl
          have same := getElem?_of_idxOf? hi
          rw [hplace] at same
          exact other (Option.some.inj same)
        simp only [Option.bind_some, show i < n + 1 ↔ i < n by omega]

theorem unpick_eq_ok (h : IsOrder xs.length order) :
    unpick order xs = .ok (Spreadsheet.unpick order xs) := by
  have loop := foldlM_eq_ok (fun places (x, i) => replace places i (some x)) (xs.zip order)
    (placesAfter order xs)
    fun n (x, i) hn => by
      obtain ⟨hx, hi⟩ := List.getElem?_zip_eq_some.mp hn
      exact replace_placesAfter h hx hi
  rw [placesAfter_start, List.length_zip, h.length, Nat.min_self] at loop
  rw [unpick, loop, ok_bind, Spreadsheet.unpick, placesAfter, List.filterMap_map]
  refine congrArg Except.ok (List.filterMap_congr fun place hplace => ?_)
  rw [Function.comp_apply, id_eq]
  cases order.idxOf? place with
  | none => rfl
  | some i =>
    rw [Option.bind_some, Option.bind_some]
    split
    · rfl
    · rw [List.getElem?_eq_none (by omega)]

end Orders

end Spreadsheet.Checked
