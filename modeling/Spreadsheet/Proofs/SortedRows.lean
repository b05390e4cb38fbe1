import Spreadsheet.Proofs.NumberOrder
import Spreadsheet.Proofs.Validity

/-!
# Sorted rows

A sort rearranges the rows by the keys that one column had before. Where the keys that are not empty
are ordered among themselves, the rows with an empty cell come last, the others stand by their keys
in the direction of the sort, and rows that compare equal keep their order, whichever the direction.
Numbers without NaN are ordered, and so are texts.
-/

namespace Spreadsheet

/-- Whether a comparison of two rows may come to this when the first stands before the second. -/
def SortDirection.allows : SortDirection → Ordering → Bool
  | .ascending, o => o.isLE
  | .descending, o => o.isGE

namespace SortKey

/-- Comparing is a total preorder on some keys. -/
structure TotalPreorder (keys : List SortKey) : Prop where
  total : ∀ k ∈ keys, ∀ l ∈ keys, (k.compare l).isLE = true ∨ (l.compare k).isLE = true
  trans : ∀ k ∈ keys, ∀ l ∈ keys, ∀ m ∈ keys,
    (k.compare l).isLE = true → (l.compare m).isLE = true → (k.compare m).isLE = true

/-- The keys that are not empty. -/
def filled (keys : List SortKey) : List SortKey :=
  keys.filter (· ≠ .empty)

/-- The keys are numbers other than NaN, or they are texts. -/
def OneKind (keys : List SortKey) : Prop :=
  (∀ k ∈ keys, ∃ x, k = .number x ∧ x.isNaN = false) ∨ ∀ k ∈ keys, ∃ t, k = .text t

theorem compare_swap (k l : SortKey) : l.compare k = (k.compare l).swap := by
  cases k with
  | number x =>
    cases l with
    | number y => exact compareNumbers_swap x y
    | empty | text u => exact Std.OrientedOrd.eq_swap
  | empty | text t => cases l <;> exact Std.OrientedOrd.eq_swap

/-- Keys of one kind are ordered. -/
theorem OneKind.totalPreorder {keys : List SortKey} (h : OneKind keys) : TotalPreorder keys where
  total := by
    intro k _ l _
    rw [compare_swap k l]
    cases k.compare l <;> decide
  trans := by
    intro k hk l hl m hm first second
    rcases h with numbers | texts
    · obtain ⟨x, rfl, hx⟩ := numbers k hk
      obtain ⟨y, rfl, hy⟩ := numbers l hl
      obtain ⟨z, rfl, hz⟩ := numbers m hm
      exact compareNumbers_trans hx hy hz first second
    · obtain ⟨t, rfl⟩ := texts k hk
      obtain ⟨u, rfl⟩ := texts l hl
      obtain ⟨v, rfl⟩ := texts m hm
      exact Std.TransOrd.isLE_trans first second

theorem mem_filled {keys : List SortKey} {k : SortKey} (h : k ∈ keys) (some : k ≠ .empty) :
    k ∈ filled keys :=
  List.mem_filter.mpr ⟨h, decide_eq_true some⟩

/-- Only an empty cell has the empty key. -/
theorem ofCell_eq_empty_iff {grid : Grid} {headers : List Text} {c : Cell} :
    ofCell grid headers c = .empty ↔ c = .empty := by
  cases c with
  | empty => exact iff_of_true rfl rfl
  | number x => exact iff_of_false SortKey.noConfusion Cell.noConfusion
  | text t =>
    refine iff_of_false ?_ Cell.noConfusion
    rw [ofCell]
    split
    · unfold ofValue
      split <;> exact SortKey.noConfusion
    · unfold ofPlainText
      split <;> exact SortKey.noConfusion

section Precedes

variable {direction : SortDirection} {k l m : SortKey}

theorem precedes_empty (direction : SortDirection) (k : SortKey) :
    precedes direction k .empty = true := by
  cases k <;> rfl

theorem not_precedes_of_empty (some : l ≠ .empty) : precedes direction .empty l = false := by
  cases l with
  | empty => exact absurd rfl some
  | number y | text u => rfl

/-- Of two keys that are not empty the first may stand before the second if the direction allows
it. -/
theorem precedes_eq (first : k ≠ .empty) (second : l ≠ .empty) :
    precedes direction k l = direction.allows (k.compare l) := by
  cases k with
  | empty => exact absurd rfl first
  | number x | text t =>
    cases l with
    | empty => exact absurd rfl second
    | number y | text u =>
      cases direction with
      | ascending =>
        change (SortKey.compare _ _ != .gt) = Ordering.isLE _
        cases SortKey.compare _ _ <;> rfl
      | descending =>
        change (SortKey.compare _ _ != .gt) = Ordering.isGE _
        rw [compare_swap]
        cases SortKey.compare _ _ <;> rfl

theorem precedes_total (direction : SortDirection) (k l : SortKey) :
    (precedes direction k l || precedes direction l k) = true := by
  by_cases first : k = .empty
  · rw [first, precedes_empty, Bool.or_true]
  · by_cases second : l = .empty
    · rw [second, precedes_empty, Bool.true_or]
    · rw [precedes_eq first second, precedes_eq second first, compare_swap k l]
      cases direction <;> cases k.compare l <;> rfl

theorem filled_of_precedes (h : precedes direction k l = true) (some : l ≠ .empty) :
    k ≠ .empty := by
  rintro rfl
  rw [not_precedes_of_empty some] at h
  cases h

theorem precedes_trans {keys : List SortKey} (preorder : TotalPreorder (filled keys))
    (hk : k ∈ keys) (hl : l ∈ keys) (hm : m ∈ keys) (first : precedes direction k l = true)
    (second : precedes direction l m = true) : precedes direction k m = true := by
  by_cases last : m = .empty
  · exact last ▸ precedes_empty direction k
  · have middle := filled_of_precedes second last
    have front := filled_of_precedes first middle
    have hk := mem_filled hk front
    have hl := mem_filled hl middle
    have hm := mem_filled hm last
    rw [precedes_eq front middle] at first
    rw [precedes_eq middle last] at second
    rw [precedes_eq front last]
    cases direction with
    | ascending => exact preorder.trans k hk l hl m hm first second
    | descending =>
      have turned : ∀ k l : SortKey, (k.compare l).isGE = (l.compare k).isLE := by
        intro k l
        rw [compare_swap k l]
        cases k.compare l <;> rfl
      simp only [SortDirection.allows, turned] at first second ⊢
      exact preorder.trans m hm l hl k hk second first

end Precedes

end SortKey

section Stability

variable {α : Type} {le : α → α → Bool}

/-- Sorted elements stand in order, and those that could stand either way stand as before. -/
theorem pairwise_mergeSort_zipIdx (trans : ∀ a b c, le a b = true → le b c = true → le a c = true)
    (total : ∀ a b, (le a b || le b a) = true) (xs : List α) :
    (xs.zipIdx.mergeSort fun a b => le a.1 b.1).Pairwise fun a b =>
      le a.1 b.1 = true ∧ (le b.1 a.1 = true → a.2 ≤ b.2) := by
  let before : α × Nat → α × Nat → Bool := fun a b => le a.1 b.1
  have sorted := List.pairwise_mergeSort
    (@List.zipIdxLE_trans _ before fun a b c => trans a.1 b.1 c.1)
    (@List.zipIdxLE_total _ before fun a b => total a.1 b.1) xs.zipIdx.zipIdx
  rw [← @List.mergeSort_zipIdx _ before, List.pairwise_map]
  refine sorted.imp_of_mem fun {a b} ha hb h => ?_
  -- each element has been given its position twice
  have position : ∀ {a : (α × Nat) × Nat}, a ∈ xs.zipIdx.zipIdx.mergeSort (List.zipIdxLE before) →
      a.1.2 = a.2 := by
    intro a ha
    have found := List.mem_zipIdx_iff_getElem?.mp (List.mem_mergeSort.mp ha)
    rw [List.getElem?_zipIdx] at found
    obtain ⟨x, -, same⟩ := Option.map_eq_some_iff.mp found
    rw [← same]
    exact Nat.zero_add _
  rw [position ha, position hb]
  simp only [List.zipIdxLE, before] at h
  split at h
  · rename_i first
    refine ⟨first, fun second => ?_⟩
    rw [if_pos second] at h
    exact of_decide_eq_true h
  · cases h

/-- It is enough that the elements of the list are ordered. -/
theorem pairwise_mergeSort_zipIdx_of_mem {xs : List α}
    (trans : ∀ a ∈ xs, ∀ b ∈ xs, ∀ c ∈ xs, le a b = true → le b c = true → le a c = true)
    (total : ∀ a b, (le a b || le b a) = true) :
    (xs.zipIdx.mergeSort fun a b => le a.1 b.1).Pairwise fun a b =>
      le a.1 b.1 = true ∧ (le b.1 a.1 = true → a.2 ≤ b.2) := by
  have sorted := @pairwise_mergeSort_zipIdx { a // a ∈ xs } (fun a b => le a.1 b.1)
    (fun a b c => trans a.1 a.2 b.1 b.2 c.1 c.2) (fun a b => total a.1 b.1) xs.attach
  have mapped : (xs.attach.zipIdx.mergeSort fun a b => le a.1.1 b.1.1).map
      (Prod.map Subtype.val id) =
      (xs.attach.zipIdx.map (Prod.map Subtype.val id)).mergeSort fun a b => le a.1 b.1 :=
    List.map_mergeSort fun _ _ _ _ => rfl
  rw [← List.zipIdx_map, List.attach_map_subtype_val] at mapped
  rw [← mapped, List.pairwise_map]
  exact sorted

end Stability

/-- The positions of ordered keys stand in the order of the keys. -/
theorem pairwise_sortOrder {keys : List SortKey}
    (preorder : SortKey.TotalPreorder (SortKey.filled keys)) (direction : SortDirection) :
    (Sheet.sortOrder direction keys).Pairwise fun i j => ∀ k l, keys[i]? = some k →
      keys[j]? = some l → SortKey.precedes direction k l = true ∧
        (SortKey.precedes direction l k = true → i < j) := by
  have sorted := @pairwise_mergeSort_zipIdx_of_mem _ (SortKey.precedes direction) keys
    (fun _ hk _ hl _ hm => SortKey.precedes_trans preorder hk hl hm)
    (SortKey.precedes_total direction)
  have distinct := (isOrder_sortOrder direction keys).nodup
  rw [Sheet.sortOrder, List.Nodup, List.pairwise_map] at distinct
  rw [Sheet.sortOrder, List.pairwise_map]
  refine (sorted.and distinct).imp_of_mem fun {a b} ha hb ⟨⟨first, later⟩, apart⟩ k l hk hl => ?_
  have here := List.mem_zipIdx_iff_getElem?.mp (List.mem_mergeSort.mp ha)
  have there := List.mem_zipIdx_iff_getElem?.mp (List.mem_mergeSort.mp hb)
  rw [here, Option.some.injEq] at hk
  rw [there, Option.some.injEq] at hl
  subst hk
  subst hl
  exact ⟨first, fun second => Nat.lt_of_le_of_ne (later second) apart⟩

namespace Sheet

/-- The cell of the row at a position is empty. -/
def EmptyAt (s : Sheet) (col i : Nat) : Prop :=
  s.cell? i col = some .empty

/-- The key of the row at a position. -/
def keyAt (s : Sheet) (col i : Nat) : SortKey :=
  SortKey.ofCell s.rows s.headers ((s.cell? i col).getD .empty)

/-- The positions of the rows in an order by which they are sorted. -/
structure Sorts (s : Sheet) (col : Nat) (direction : SortDirection) (order : List Nat) : Prop where
  arranged : IsOrder s.height order
  emptiesLast : order.Pairwise fun i j => s.EmptyAt col i → s.EmptyAt col j
  monotone : order.Pairwise fun i j => ¬s.EmptyAt col i → ¬s.EmptyAt col j →
    direction.allows ((s.keyAt col i).compare (s.keyAt col j)) = true
  stable : order.Pairwise fun i j => ¬s.EmptyAt col i → ¬s.EmptyAt col j →
    (s.keyAt col i).compare (s.keyAt col j) = .eq → i < j
  emptiesStable : order.Pairwise fun i j => s.EmptyAt col i → s.EmptyAt col j → i < j

variable {s : Sheet} {col i : Nat}

theorem getElem?_sortKeys (inside : i < s.height) :
    (s.sortKeys col)[i]? = some (s.keyAt col i) := by
  rw [sortKeys, List.getElem?_map, keyAt, cell?, List.getElem?_eq_getElem inside,
    Option.bind_some, ← List.getD_eq_getElem?_getD]
  rfl

theorem keyAt_eq_empty_iff (sound : s.Sound) (column : col < s.width) (inside : i < s.height) :
    s.keyAt col i = .empty ↔ s.EmptyAt col i := by
  obtain ⟨c, found⟩ : ∃ c, s.cell? i col = some c := Grid.exists_cell? sound.even inside column
  rw [keyAt, EmptyAt, found, SortKey.ofCell_eq_empty_iff, Option.getD_some, Option.some.injEq]

/-- The order in which a sort puts the rows is one by which they are sorted. -/
theorem sorts_sortOrder (sound : s.Sound) (column : col < s.width) (direction : SortDirection)
    (preorder : SortKey.TotalPreorder (SortKey.filled (s.sortKeys col))) :
    s.Sorts col direction (sortOrder direction (s.sortKeys col)) := by
  have arranged := isOrder_sortKeys s col direction
  have rows : (sortOrder direction (s.sortKeys col)).Pairwise fun i j =>
      (s.keyAt col i = .empty ↔ s.EmptyAt col i) ∧ (s.keyAt col j = .empty ↔ s.EmptyAt col j) ∧
        SortKey.precedes direction (s.keyAt col i) (s.keyAt col j) = true ∧
        (SortKey.precedes direction (s.keyAt col j) (s.keyAt col i) = true → i < j) := by
    refine (pairwise_sortOrder preorder direction).imp_of_mem fun {i j} hi hj ordered => ?_
    have hi := arranged.mem_iff.mp hi
    have hj := arranged.mem_iff.mp hj
    exact ⟨keyAt_eq_empty_iff sound column hi, keyAt_eq_empty_iff sound column hj,
      ordered _ _ (getElem?_sortKeys hi) (getElem?_sortKeys hj)⟩
  constructor
  case arranged => exact arranged
  case emptiesLast =>
    refine rows.imp ?_
    rintro i j ⟨hi, hj, first, -⟩ empty
    by_contra some
    exact SortKey.filled_of_precedes first (mt hj.mp some) (hi.mpr empty)
  case monotone =>
    refine rows.imp ?_
    rintro i j ⟨hi, hj, first, -⟩ some some'
    rw [← SortKey.precedes_eq (mt hi.mp some) (mt hj.mp some')]
    exact first
  case stable =>
    refine rows.imp ?_
    rintro i j ⟨hi, hj, -, later⟩ some some' same
    apply later
    rw [SortKey.precedes_eq (mt hj.mp some') (mt hi.mp some), SortKey.compare_swap, same]
    cases direction <;> rfl
  case emptiesStable =>
    refine rows.imp ?_
    rintro i j ⟨hi, hj, -, later⟩ empty empty'
    apply later
    rw [hi.mpr empty]
    exact SortKey.precedes_empty direction _

end Sheet

namespace Editor

/-- Where the keys of a column are ordered, a sort by the column puts the rows in an order by which
they are sorted, and keys of one kind are always ordered. -/
theorem Valid.sortByIndex_sorts {e : Editor} (valid : e.Valid) {col : Nat}
    (inside : col < e.sheet.width) (direction : SortDirection) (time : Nat) :
    (SortKey.TotalPreorder (SortKey.filled (e.sheet.sortKeys col)) →
      ∃ order, e.sheet.Sorts col direction order ∧
        (e.sortByIndex col direction time).sheet =
          { e.sheet with rows := pick order e.sheet.rows }) ∧
    (SortKey.OneKind (SortKey.filled (e.sheet.sortKeys col)) →
      SortKey.TotalPreorder (SortKey.filled (e.sheet.sortKeys col))) := by
  refine ⟨fun preorder => ⟨_, ?_, valid.sheet_sortByIndex col direction time⟩,
    SortKey.OneKind.totalPreorder⟩
  exact Sheet.sorts_sortOrder (sheet_sound valid.workbook) inside direction preorder

/-- Four rows, one of them empty and two alike but for their case. -/
def mixedItems : Workbook :=
  ⟨[⟨"Items".toList, 1, [['A']],
    [[.text "tea".toList], [.empty], [.text "Tea".toList], [.text "salt".toList]]⟩], 0⟩

/-- The items are sorted from the last to the first. -/
theorem mixedItems_sorted :
    let e := start ⟨4, 1, 1, 300⟩ ⟨.memory, .kept mixedItems, true, true, 0⟩
    0 < e.sheet.width ∧ SortKey.OneKind (SortKey.filled (e.sheet.sortKeys 0)) ∧
      ∃ order, e.sheet.Sorts 0 .descending order ∧
        (e.sortByIndex 0 .descending 1).sheet =
          { e.sheet with rows := pick order e.sheet.rows } := by
  intro e
  have keys : SortKey.filled (e.sheet.sortKeys 0) =
      [.text "tea".toList, .text "Tea".toList, .text "salt".toList] := by decide
  have kind : SortKey.OneKind (SortKey.filled (e.sheet.sortKeys 0)) := by
    rw [keys]
    refine .inr fun k hk => ?_
    simp only [List.mem_cons, List.not_mem_nil, or_false] at hk
    rcases hk with rfl | rfl | rfl <;> exact ⟨_, rfl⟩
  have valid : e.Valid := valid_start _ _
  have inside : 0 < e.sheet.width := by decide
  have sorts := valid.sortByIndex_sorts inside .descending 1
  exact ⟨inside, kind, sorts.1 (sorts.2 kind)⟩

end Editor

end Spreadsheet
