import Spreadsheet.Proofs.Soundness
import Spreadsheet.Sheet.Layout

/-!
# What changes of the layout keep

Ten edits and two drags come down to six changes: a row or a column is inserted, deleted or moved.
Each keeps a sheet sound, and its height falls never and rises at most to the limit.
-/

namespace Spreadsheet

theorem length_moveElement {α : Type} {xs : List α} {i j : Nat} (hi : i < xs.length)
    (hj : j < xs.length) : (moveElement i j xs).length = xs.length := by
  have erased := List.length_eraseIdx_of_lt hi
  simp only [moveElement, List.getElem?_eq_getElem hi]
  rw [List.length_insertIdx_of_le_length (by omega), erased]
  omega

theorem mem_of_mem_moveElement {α : Type} {xs : List α} {i j : Nat} {x : α}
    (h : x ∈ moveElement i j xs) : x ∈ xs := by
  simp only [moveElement] at h
  split at h
  · rename_i y found
    by_cases hj : j ≤ (xs.eraseIdx i).length
    · rcases (List.mem_insertIdx hj).mp h with rfl | old
      · exact List.mem_of_getElem? found
      · exact List.mem_of_mem_eraseIdx old
    · rw [List.insertIdx_of_length_lt (by omega)] at h
      exact List.mem_of_mem_eraseIdx h
  · exact h

namespace Sheet

/-- One row or column inserted, deleted or moved. -/
inductive Rearranged (limit : Nat) (s : Sheet) : Sheet → Prop
  | insertRow (i : Nat) {t : Sheet} (h : s.insertRow? limit i = some t) : Rearranged limit s t
  | deleteRow (i : Nat) {t : Sheet} (h : s.deleteRow? i = some t) : Rearranged limit s t
  | insertColumn (i : Nat) {t : Sheet} (h : s.insertColumn? i = some t) : Rearranged limit s t
  | deleteColumn (i : Nat) {t : Sheet} (h : s.deleteColumn? i = some t) : Rearranged limit s t
  | moveRow (i j : Nat) {t : Sheet} (h : s.moveRow? i j = some t) : Rearranged limit s t
  | moveColumn (i j : Nat) {t : Sheet} (hi : i < s.width) (hj : j < s.width)
      (h : s.moveColumn? i j = some t) : Rearranged limit s t

theorem rearranged_of_edited? {limit : Nat} {edit : StructuralEdit} {anchor : Address}
    {s t : Sheet} (h : s.edited? limit edit anchor = some t) : Rearranged limit s t := by
  cases edit with
  | insertRowAbove => exact .insertRow _ h
  | insertRowBelow => exact .insertRow _ h
  | deleteRow => exact .deleteRow _ h
  | deleteRowAbove =>
    simp only [edited?] at h
    split at h
    · exact .deleteRow _ h
    · cases h
  | deleteRowBelow => exact .deleteRow _ h
  | insertColumnLeft =>
    obtain ⟨col, -, h⟩ := Option.bind_eq_some_iff.mp h
    exact .insertColumn _ h
  | insertColumnRight =>
    obtain ⟨col, -, h⟩ := Option.bind_eq_some_iff.mp h
    exact .insertColumn _ h
  | deleteColumn =>
    obtain ⟨col, -, h⟩ := Option.bind_eq_some_iff.mp h
    exact .deleteColumn _ h
  | deleteColumnLeft =>
    obtain ⟨col, -, h⟩ := Option.bind_eq_some_iff.mp h
    split at h
    · exact .deleteColumn _ h
    · cases h
  | deleteColumnRight =>
    obtain ⟨col, -, h⟩ := Option.bind_eq_some_iff.mp h
    exact .deleteColumn _ h

variable {limit : Nat} {s t : Sheet}

theorem insertRow?_eq_some_iff {i : Nat} :
    s.insertRow? limit i = some t ↔ i ≤ s.height ∧
      { s with rows := (s.rows.insertIdx i s.blankRow).take (max limit s.height) } = t := by
  rw [insertRow?, Option.ite_none_right_eq_some, Option.some.injEq]

theorem deleteRow?_eq_some_iff {i : Nat} :
    s.deleteRow? i = some t ↔ i < s.height ∧
      { s with rows := s.rows.eraseIdx i ++ [s.blankRow] } = t := by
  rw [deleteRow?, Option.ite_none_right_eq_some, Option.some.injEq]

theorem insertColumn?_eq_some_iff {i : Nat} :
    s.insertColumn? i = some t ↔ i ≤ s.width ∧
      s.withColumns (s.width + 1) (s.rows.map fun row => row.insertIdx i .empty) = t := by
  rw [insertColumn?, Option.ite_none_right_eq_some, Option.some.injEq]

theorem deleteColumn?_eq_some_iff {i : Nat} :
    s.deleteColumn? i = some t ↔ (i < s.width ∧ 1 < s.width) ∧
      s.withColumns (s.width - 1) (s.rows.map fun row => row.eraseIdx i) = t := by
  rw [deleteColumn?, Option.ite_none_right_eq_some, Option.some.injEq]

theorem moveRow?_eq_some_iff {i j : Nat} :
    s.moveRow? i j = some t ↔ (i ≠ j ∧ i < s.height ∧ j < s.height) ∧
      { s with rows := moveElement i j s.rows } = t := by
  rw [moveRow?, Option.ite_none_right_eq_some, Option.some.injEq]

theorem moveColumn?_eq_some_iff {i j : Nat} :
    s.moveColumn? i j = some t ↔ i ≠ j ∧
      s.withColumns s.width (s.rows.map (moveElement i j)) = t := by
  rw [moveColumn?, Option.ite_none_right_eq_some, Option.some.injEq]

theorem Sound.insertRow? (sound : s.Sound) {i : Nat} (h : s.insertRow? limit i = some t) :
    t.Sound := by
  obtain ⟨inside, rfl⟩ := insertRow?_eq_some_iff.mp h
  refine ⟨sound.named, sound.headed, sound.distinct, fun row hrow => ?_⟩
  rcases (List.mem_insertIdx inside).mp (List.mem_of_mem_take hrow) with rfl | old
  · exact List.length_replicate
  · exact sound.even row old

theorem Sound.deleteRow? (sound : s.Sound) {i : Nat} (h : s.deleteRow? i = some t) : t.Sound := by
  obtain ⟨-, rfl⟩ := deleteRow?_eq_some_iff.mp h
  refine ⟨sound.named, sound.headed, sound.distinct, fun row hrow => ?_⟩
  rcases List.mem_append.mp hrow with old | new
  · exact sound.even row (List.mem_of_mem_eraseIdx old)
  · rw [List.mem_singleton.mp new]
    exact List.length_replicate

theorem Sound.insertColumn? (sound : s.Sound) {i : Nat} (h : s.insertColumn? i = some t) :
    t.Sound := by
  obtain ⟨inside, rfl⟩ := insertColumn?_eq_some_iff.mp h
  refine sound.withColumns (by omega) fun row hrow => ?_
  obtain ⟨old, hold, rfl⟩ := List.mem_map.mp hrow
  have width := sound.even old hold
  rw [List.length_insertIdx_of_le_length (by omega), width]

theorem Sound.deleteColumn? (sound : s.Sound) {i : Nat} (h : s.deleteColumn? i = some t) :
    t.Sound := by
  obtain ⟨inside, rfl⟩ := deleteColumn?_eq_some_iff.mp h
  refine sound.withColumns (by omega) fun row hrow => ?_
  obtain ⟨old, hold, rfl⟩ := List.mem_map.mp hrow
  have width := sound.even old hold
  rw [List.length_eraseIdx_of_lt (by omega), width]

theorem Sound.moveRow? (sound : s.Sound) {i j : Nat} (h : s.moveRow? i j = some t) : t.Sound := by
  obtain ⟨-, rfl⟩ := moveRow?_eq_some_iff.mp h
  exact sound.ofRows fun row => mem_of_mem_moveElement

theorem Sound.moveColumn? (sound : s.Sound) {i j : Nat} (hi : i < s.width) (hj : j < s.width)
    (h : s.moveColumn? i j = some t) : t.Sound := by
  obtain ⟨-, rfl⟩ := moveColumn?_eq_some_iff.mp h
  refine sound.withColumns (by omega) fun row hrow => ?_
  obtain ⟨old, hold, rfl⟩ := List.mem_map.mp hrow
  have width := sound.even old hold
  rw [length_moveElement (by omega) (by omega), width]

theorem Rearranged.sound (h : Rearranged limit s t) (sound : s.Sound) : t.Sound := by
  cases h with
  | insertRow i h => exact sound.insertRow? h
  | deleteRow i h => exact sound.deleteRow? h
  | insertColumn i h => exact sound.insertColumn? h
  | deleteColumn i h => exact sound.deleteColumn? h
  | moveRow i j h => exact sound.moveRow? h
  | moveColumn i j hi hj h => exact sound.moveColumn? hi hj h

/-- Only headers and rows are rearranged. -/
theorem Rearranged.exists_eq (h : Rearranged limit s t) :
    ∃ headers rows, t = { s with headers := headers, rows := rows } := by
  cases h with
  | insertRow i h => exact ⟨_, _, (insertRow?_eq_some_iff.mp h).2.symm⟩
  | deleteRow i h => exact ⟨_, _, (deleteRow?_eq_some_iff.mp h).2.symm⟩
  | insertColumn i h => exact ⟨_, _, (insertColumn?_eq_some_iff.mp h).2.symm⟩
  | deleteColumn i h => exact ⟨_, _, (deleteColumn?_eq_some_iff.mp h).2.symm⟩
  | moveRow i j h => exact ⟨_, _, (moveRow?_eq_some_iff.mp h).2.symm⟩
  | moveColumn i j hi hj h => exact ⟨_, _, (moveColumn?_eq_some_iff.mp h).2.symm⟩

/-- Rows are rearranged under the same headers and columns under generated ones. -/
theorem Rearranged.headers (h : Rearranged limit s t) :
    t.headers = s.headers ∨ ∃ width, t.headers = Column.labels width := by
  cases h with
  | insertRow i h =>
    obtain ⟨-, rfl⟩ := insertRow?_eq_some_iff.mp h
    exact .inl rfl
  | deleteRow i h =>
    obtain ⟨-, rfl⟩ := deleteRow?_eq_some_iff.mp h
    exact .inl rfl
  | insertColumn i h =>
    obtain ⟨-, rfl⟩ := insertColumn?_eq_some_iff.mp h
    exact .inr ⟨_, rfl⟩
  | deleteColumn i h =>
    obtain ⟨-, rfl⟩ := deleteColumn?_eq_some_iff.mp h
    exact .inr ⟨_, rfl⟩
  | moveRow i j h =>
    obtain ⟨-, rfl⟩ := moveRow?_eq_some_iff.mp h
    exact .inl rfl
  | moveColumn i j hi hj h =>
    obtain ⟨-, rfl⟩ := moveColumn?_eq_some_iff.mp h
    exact .inr ⟨_, rfl⟩

/-- Only an inserted row makes a sheet taller, and only up to the limit. -/
theorem Rearranged.height (h : Rearranged limit s t) :
    s.height ≤ t.height ∧ t.height ≤ max limit s.height := by
  -- a change of columns changes every row and leaves as many
  have columns : ∀ (width : Nat) (f : Row → Row),
      (s.withColumns width (s.rows.map f)).height = s.height := fun _ f => List.length_map f
  cases h with
  | insertRow i h =>
    obtain ⟨inside, rfl⟩ := insertRow?_eq_some_iff.mp h
    have taller := List.length_insertIdx_of_le_length inside s.blankRow
    simp only [Sheet.height, List.length_take, taller]
    omega
  | deleteRow i h =>
    obtain ⟨inside, rfl⟩ := deleteRow?_eq_some_iff.mp h
    have shorter := List.length_eraseIdx_of_lt inside
    simp only [Sheet.height] at inside ⊢
    simp only [List.length_append, shorter, List.length_singleton]
    omega
  | insertColumn i h =>
    obtain ⟨-, rfl⟩ := insertColumn?_eq_some_iff.mp h
    rw [columns]
    omega
  | deleteColumn i h =>
    obtain ⟨-, rfl⟩ := deleteColumn?_eq_some_iff.mp h
    rw [columns]
    omega
  | moveRow i j h =>
    obtain ⟨inside, rfl⟩ := moveRow?_eq_some_iff.mp h
    have same := length_moveElement inside.2.1 inside.2.2
    simp only [Sheet.height, same]
    omega
  | moveColumn i j hi hj h =>
    obtain ⟨-, rfl⟩ := moveColumn?_eq_some_iff.mp h
    rw [columns]
    omega

end Sheet

end Spreadsheet
