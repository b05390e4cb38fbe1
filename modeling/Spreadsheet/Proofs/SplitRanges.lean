import Mathlib.Algebra.BigOperators.Group.Finset.Piecewise
import Mathlib.Algebra.BigOperators.Group.Finset.Sigma
import Mathlib.Order.Interval.Finset.Nat
import Spreadsheet.Proofs.ReadCells
import Spreadsheet.Proofs.RowOrder

/-!
# Ranges in two parts

A range is cut after one of its rows or after one of its columns. Cut after a row, its numbers are
those of the upper part followed by those of the lower one. Cut after a column they mix, but nothing
is counted twice and nothing is lost, for a count is the number of positions that hold a number.
-/

namespace Spreadsheet

namespace Grid

/-- The positions of a block that hold a number. -/
def numbered (g : Grid) (b : Block) : Finset (ℕ × ℕ) :=
  (Finset.Icc b.top b.bottom ×ˢ Finset.Icc b.left b.right).filter fun p =>
    (g.number? p.1 p.2).isSome = true

section Parts

variable (g : Grid) {b : Block} {row col : Nat}

/-- There are as many numbers as there are positions with one. -/
theorem length_numbers (b : Block) : (g.numbers b).length = (g.numbered b).card := by
  have along : ∀ f : Nat → Option Float,
      ((List.range' b.left (b.right + 1 - b.left)).filterMap f).length =
        ((Finset.Icc b.left b.right).filter fun col => (f col).isSome = true).card := by
    intro f
    rw [Nat.Icc_eq_range', List.length_filterMap_eq_countP, List.countP_eq_length_filter]
    simp only [Finset.card_def, Finset.filter_val, Multiset.filter_coe, Multiset.coe_card,
      Bool.decide_eq_true]
  rw [numbers, List.length_flatMap, numbered, Finset.card_filter, Finset.sum_product]
  simp only [along, Finset.card_filter]
  rw [Nat.Icc_eq_range']
  rfl

/-- Above a row and below it. -/
theorem numbers_rows (top : b.top ≤ row) (bottom : row < b.bottom) :
    g.numbers b = g.numbers { b with bottom := row } ++ g.numbers { b with top := row + 1 } := by
  have rows : List.range' b.top (b.bottom + 1 - b.top) =
      List.range' b.top (row + 1 - b.top) ++ List.range' (row + 1) (b.bottom + 1 - (row + 1)) := by
    have cut := List.range'_append_1 (s := b.top) (m := row + 1 - b.top) (n := b.bottom - row)
    rw [show b.top + (row + 1 - b.top) = row + 1 by omega,
      show row + 1 - b.top + (b.bottom - row) = b.bottom + 1 - b.top by omega] at cut
    rw [← cut, show b.bottom + 1 - (row + 1) = b.bottom - row by omega]
  simp only [numbers, rows, List.flatMap_append]

theorem card_numbered_rows (top : b.top ≤ row) (bottom : row < b.bottom) :
    (g.numbered b).card = (g.numbered { b with bottom := row }).card +
      (g.numbered { b with top := row + 1 }).card := by
  simp only [← length_numbers, numbers_rows g top bottom, List.length_append]

/-- Left of a column and right of it. -/
theorem card_numbered_cols (left : b.left ≤ col) (right : col < b.right) :
    (g.numbered b).card = (g.numbered { b with right := col }).card +
      (g.numbered { b with left := col + 1 }).card := by
  rw [← Finset.card_union_of_disjoint]
  · congr 1
    ext ⟨r, c⟩
    simp only [numbered, Finset.mem_union, Finset.mem_filter, Finset.mem_product, Finset.mem_Icc,
      ← or_and_right, and_congr_left_iff]
    omega
  · rw [Finset.disjoint_left]
    rintro ⟨r, c⟩ onLeft onRight
    simp only [numbered, Finset.mem_filter, Finset.mem_product, Finset.mem_Icc] at onLeft onRight
    omega

end Parts

end Grid

namespace Block

/-- A block in order, within the sheet. -/
structure Inside (b : Block) (grid : Grid) (headers : List Text) : Prop where
  rows : b.top ≤ b.bottom
  bottom : b.bottom < grid.length
  cols : b.left ≤ b.right
  right : b.right < headers.length

/-- The range from the first cell of a block to its last. -/
def rangeText (b : Block) (headers : List Text) : Text :=
  Formula.rangeText ⟨b.top, headers.getD b.left []⟩ ⟨b.bottom, headers.getD b.right []⟩

section Headers

variable {grid : Grid} {headers : List Text} {b : Block}
variable (distinct : headers.Nodup)
variable (labels : ∀ label ∈ headers, label ≠ [] ∧ ∀ c ∈ label, c.isUpper = true)
variable (rows : grid.length < sizeBound)

include distinct labels rows

theorem Inside.resolve_rangeText (inside : b.Inside grid headers) :
    resolve grid headers (b.rangeText headers) = .ok b := by
  obtain ⟨order, bottom, order', right⟩ := inside
  have label : ∀ {col}, col < headers.length → headers.getD col [] ∈ headers ∧
      headers.idxOf? (headers.getD col []) = some col := by
    intro col reached
    have here : headers[col]? = some (headers.getD col []) := by
      rw [List.getD_eq_getElem?_getD, List.getElem?_eq_getElem reached, Option.getD_some]
    exact ⟨List.mem_of_getElem? here, (idxOf?_iff_getElem? distinct).mpr here⟩
  have writable : ∀ {row col}, row < grid.length → headers.getD col [] ∈ headers →
      Address.Writable ⟨row, headers.getD col []⟩ := fun above header =>
    ⟨(labels _ header).2, (labels _ header).1, Nat.lt_of_le_of_lt above rows⟩
  have first := label (Nat.lt_of_le_of_lt order' right)
  have last := label right
  exact Formula.resolve_rangeText (writable (Nat.lt_of_le_of_lt order bottom) first.1)
    (writable bottom last.1) first.2 last.2 bottom

end Headers

end Block

namespace Function

/-- The range from the first cell of a block to its last covers the block. Every aggregate over a
range that covers a block, however it is spelled, is computed from the numbers at the positions of
the block, row by row, and a count is the number of positions with a number. Cut after a row, the
numbers of a block are those of its upper part followed by those of its lower part; cut after a row
or after a column, the counts of the parts add up. -/
theorem range_splits (grid : Grid) (headers : List Text) (distinct : headers.Nodup)
    (labels : ∀ label ∈ headers, label ≠ [] ∧ ∀ c ∈ label, c.isUpper = true)
    (rows : grid.length < sizeBound) :
    (∀ b : Block, b.Inside grid headers →
      Block.resolve grid headers (b.rangeText headers) = .ok b ∧
      ∀ range, Block.resolve grid headers range = .ok b →
        (∀ f : Function, f.firstValues grid headers [range] = .ok (grid.numbers b)) ∧
        count.call grid headers [range] =
          .ok (.number (Binary64.ofNat (grid.numbered b).card))) ∧
    ∀ b : Block, b.Inside grid headers →
      (∀ row, b.top ≤ row → row < b.bottom →
        Block.Inside { b with bottom := row } grid headers ∧
        Block.Inside { b with top := row + 1 } grid headers ∧
        grid.numbers b =
          grid.numbers { b with bottom := row } ++ grid.numbers { b with top := row + 1 } ∧
        (grid.numbered b).card = (grid.numbered { b with bottom := row }).card +
          (grid.numbered { b with top := row + 1 }).card) ∧
      ∀ col, b.left ≤ col → col < b.right →
        Block.Inside { b with right := col } grid headers ∧
        Block.Inside { b with left := col + 1 } grid headers ∧
        (grid.numbered b).card = (grid.numbered { b with right := col }).card +
          (grid.numbered { b with left := col + 1 }).card := by
  refine ⟨fun b inside => ⟨inside.resolve_rangeText distinct labels rows, ?_⟩,
    fun b inside => ⟨?_, ?_⟩⟩
  · intro range resolved
    constructor
    · intro f
      rw [firstValues_cons, resolved, ← Block.values_eq_numbers]
      rfl
    · rw [call_of_aggregate?_cons (f := count) rfl, resolved, ← Grid.length_numbers,
        ← Block.values_eq_numbers]
      rfl
  · intro row top bottom
    obtain ⟨order, height, order', width⟩ := inside
    exact ⟨⟨top, Nat.lt_trans bottom height, order', width⟩, ⟨bottom, height, order', width⟩,
      grid.numbers_rows top bottom, grid.card_numbered_rows top bottom⟩
  · intro col left right
    obtain ⟨order, height, order', width⟩ := inside
    exact ⟨⟨order, height, left, Nat.lt_trans right width⟩, ⟨order, height, right, width⟩,
      grid.card_numbered_cols left right⟩

/-- Rows of different lengths, cut after the second row and after the first column. -/
theorem raggedRows_split :
    let grid : Grid := [[.number 1, .text ['x'], .number 2], [.text "=A1".toList, .number 3],
      [.text "4 kg".toList]]
    let headers := Column.labels 3
    let b : Block := ⟨0, 2, 0, 2⟩
    count.call grid headers ["A1:C3".toList] = .ok (.number (Binary64.ofNat 4)) ∧
      grid.numbers b = grid.numbers ⟨0, 1, 0, 2⟩ ++ grid.numbers ⟨2, 2, 0, 2⟩ ∧
      (grid.numbered b).card =
        (grid.numbered ⟨0, 2, 0, 0⟩).card + (grid.numbered ⟨0, 2, 1, 2⟩).card := by
  intro grid headers b
  have inside : b.Inside grid headers := ⟨by decide, by decide, by decide, by decide⟩
  have labels : ∀ label ∈ headers, label ≠ [] ∧ ∀ c ∈ label, c.isUpper = true := by
    intro label header
    obtain ⟨n, -, rfl⟩ := List.mem_map.mp header
    exact ⟨Column.label_ne_nil n, List.all_eq_true.mp (Column.label_all_isUpper n)⟩
  obtain ⟨read, cut⟩ := range_splits grid headers (Column.labels_nodup 3) labels (by decide)
  obtain ⟨covers, read⟩ := read b inside
  rw [show b.rangeText headers = "A1:C3".toList by decide] at covers
  have counted := (read _ covers).2
  rw [show (grid.numbered b).card = 4 by decide] at counted
  exact ⟨counted, ((cut b inside).1 1 (by decide) (by decide)).2.2.1,
    ((cut b inside).2 0 (by decide) (by decide)).2.2⟩

end Function

end Spreadsheet
