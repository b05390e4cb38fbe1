import Spreadsheet.Proofs.DrawnRanges

/-!
# The order of the tab key

The tab key goes through the cells of a sheet row by row, and back in the same order. A cell has a
rank, the number of cells before it, and the key makes it one more or one less. No two cells have
the same rank, so what one direction does the other undoes, and the way from the first cell to the
last comes by every cell once.
-/

namespace Spreadsheet

namespace Sheet

variable {s : Sheet} {row col row' col' : Nat}

/-- How many cells come before a position, row by row. -/
def rank (s : Sheet) (row col : Nat) : Nat :=
  row * s.width + col

/-- Whether one position comes right after another, or right before it on the way back. -/
def Adjoins (s : Sheet) (back : Bool) (row col row' col' : Nat) : Prop :=
  if back then s.rank row col = s.rank row' col' + 1 else s.rank row' col' = s.rank row col + 1

/-- The last position, or the first one on the way back. -/
def corner (s : Sheet) (back : Bool) : Nat × Nat :=
  if back then (0, 0) else (s.height - 1, s.width - 1)

theorem rank_div (inside : col < s.width) : s.rank row col / s.width = row := by
  rw [rank, Nat.mul_comm, Nat.mul_add_div (by omega), Nat.div_eq_of_lt inside, Nat.add_zero]

theorem rank_mod (inside : col < s.width) : s.rank row col % s.width = col := by
  rw [rank, Nat.mul_comm, Nat.mul_add_mod, Nat.mod_eq_of_lt inside]

theorem rank_lt (row_lt : row < s.height) (col_lt : col < s.width) :
    s.rank row col < s.height * s.width :=
  calc s.rank row col
    _ < row * s.width + s.width := Nat.add_lt_add_left col_lt _
    _ = (row + 1) * s.width := (Nat.succ_mul row s.width).symm
    _ ≤ s.height * s.width := Nat.mul_le_mul_right s.width row_lt

theorem rank_inj (col_lt : col < s.width) (col_lt' : col' < s.width)
    (same : s.rank row col = s.rank row' col') : row = row' ∧ col = col' := by
  constructor
  · calc row
      _ = s.rank row col / s.width := (rank_div col_lt).symm
      _ = s.rank row' col' / s.width := by rw [same]
      _ = row' := rank_div col_lt'
  · calc col
      _ = s.rank row col % s.width := (rank_mod col_lt).symm
      _ = s.rank row' col' % s.width := by rw [same]
      _ = col' := rank_mod col_lt'

/-- All cells but one come before the last. -/
theorem rank_corner (s : Sheet) (tall : 0 < s.height) (wide : 0 < s.width) :
    s.rank (s.height - 1) (s.width - 1) + 1 = s.height * s.width :=
  calc (s.height - 1) * s.width + (s.width - 1) + 1
    _ = (s.height - 1) * s.width + s.width := by omega
    _ = (s.height - 1 + 1) * s.width := (Nat.succ_mul _ _).symm
    _ = s.height * s.width := by rw [Nat.sub_add_cancel tall]

theorem adjoins_not {back : Bool} :
    s.Adjoins (!back) row col row' col' ↔ s.Adjoins back row' col' row col := by
  cases back <;> exact Iff.rfl

theorem Adjoins.rank_eq {back : Bool} {row'' col'' : Nat}
    (h : s.Adjoins back row col row' col') (h' : s.Adjoins back row col row'' col'') :
    s.rank row' col' = s.rank row'' col'' := by
  cases back with
  | true => exact Nat.succ.inj (h.symm.trans h')
  | false => exact h.trans h'.symm

/-- Nothing in the sheet comes after its corner. -/
theorem not_adjoins_corner {back : Bool} (row_lt : row' < s.height) (col_lt : col' < s.width)
    (corner : (row, col) = s.corner back) : ¬s.Adjoins back row col row' col' := by
  intro adjoins
  cases back with
  | true =>
    cases corner
    have before : s.rank 0 0 = s.rank row' col' + 1 := adjoins
    rw [rank, Nat.zero_mul] at before
    omega
  | false =>
    cases corner
    have after : s.rank row' col' = s.rank (s.height - 1) (s.width - 1) + 1 := adjoins
    have inside := rank_lt row_lt col_lt
    have last := s.rank_corner (by omega) (by omega)
    omega

/-- An address is found in one place only. -/
theorem position?_inj {a b : Address} (ha : s.position? a = some (row, col))
    (hb : s.position? b = some (row, col)) : a = b := by
  obtain ⟨row_eq, -, column⟩ := position?_eq_some ha
  obtain ⟨row_eq', -, column'⟩ := position?_eq_some hb
  have label : some a.col = some b.col :=
    (getElem?_of_idxOf? column).symm.trans (getElem?_of_idxOf? column')
  exact (Address.mk.injEq ..).mpr ⟨row_eq.symm.trans row_eq', Option.some.inj label⟩

end Sheet

namespace Editor

/-- The position that the key goes to is the one that adjoins. There is none at the corner. -/
theorem adjoining_cases {s : Sheet} {row col : Nat} (row_lt : row < s.height)
    (col_lt : col < s.width) (back : Bool) :
    let next := if back then previousPosition? s row col else nextPosition? s row col
    (next = none ∧ (row, col) = s.corner back) ∨
      ∃ row' col', next = some (row', col') ∧ row' < s.height ∧ col' < s.width ∧
        s.Adjoins back row col row' col' := by
  cases back with
  | true =>
    simp only [if_true, previousPosition?]
    by_cases within : 0 < col
    · refine .inr ⟨row, col - 1, if_pos within, row_lt, by omega, ?_⟩
      change row * s.width + col = row * s.width + (col - 1) + 1
      omega
    · by_cases above : 0 < row
      · refine .inr ⟨row - 1, s.width - 1, ?_, by omega, by omega, ?_⟩
        · rw [if_neg within, if_pos above]
        · have up : row * s.width = (row - 1) * s.width + s.width := by
            rw [← Nat.succ_mul, Nat.succ_eq_add_one, Nat.sub_add_cancel above]
          change row * s.width + col = (row - 1) * s.width + (s.width - 1) + 1
          omega
      · refine .inl ⟨by rw [if_neg within, if_neg above], ?_⟩
        rw [Sheet.corner, if_pos rfl, Prod.mk.injEq]
        omega
  | false =>
    simp only [Bool.false_eq_true, if_false, nextPosition?]
    by_cases within : col + 1 < s.width
    · exact .inr ⟨row, col + 1, if_pos within, row_lt, within, rfl⟩
    · by_cases below : row + 1 < s.height
      · refine .inr ⟨row + 1, 0, ?_, below, by omega, ?_⟩
        · rw [if_neg within, if_pos below]
        · have down : (row + 1) * s.width = row * s.width + s.width := Nat.succ_mul row s.width
          change (row + 1) * s.width + 0 = row * s.width + col + 1
          omega
      · refine .inl ⟨by rw [if_neg within, if_neg below], ?_⟩
        rw [Sheet.corner, if_neg Bool.false_ne_true, Prod.mk.injEq]
        omega

/-- The selected cell has moved from a position to the cell that adjoins it. -/
structure Tabs (e : Editor) (back : Bool) (row col : Nat) (a : Address) (e' : Editor) : Prop where
  adjoins : ∃ row' col', e.sheet.position? a = some (row', col') ∧
    e.sheet.Adjoins back row col row' col'
  workbook : e'.workbook = e.workbook
  selected : e'.selected = some a
  selection : e'.selection = some (.ofCell a)
  shown : e'.editing = none → e'.bar.text = e'.raw a

section Tabbing

variable {e e' : Editor} {row col : Nat} {back : Bool} {a : Address}

/-- Without an adjoining cell nothing happens. -/
theorem perform_tab_cases (sound : e.sheet.Sound)
    (place : e.selectedPosition? = some (row, col)) (back : Bool) :
    (e.perform (.tab back) = (.address none, e) ∧ (row, col) = e.sheet.corner back) ∨
      ∃ a e', e.perform (.tab back) = (.address (some a), e') ∧ e.Tabs back row col a e' := by
  obtain ⟨row_lt, col_lt⟩ := selectedPosition?_lt place
  have unfolded : e.tab? back = (if back then previousPosition? e.sheet row col
      else nextPosition? e.sheet row col).bind fun next => e.clickAt? next.1 next.2 := by
    rw [tab?, place]
    cases back <;> rfl
  rcases adjoining_cases row_lt col_lt back with
    ⟨none, corner⟩ | ⟨row', col', next, row_lt', col_lt', adjoins⟩
  · refine .inl ⟨?_, corner⟩
    rw [perform, unfolded, none]
    rfl
  · have label := List.getElem?_eq_getElem (show col' < e.sheet.headers.length from col_lt')
    let a : Address := ⟨row', e.sheet.headers[col']⟩
    have here : e.sheet.position? a = some (row', col') :=
      Sheet.position?_of_column? row_lt' ((idxOf?_iff_getElem? sound.distinct).mpr label)
    have moved : e.clickAt? row' col' = some (a, e.click a) := by
      rw [clickAt?, Sheet.address?, label]
      rfl
    obtain ⟨bar, clicked, shown⟩ := click_eq here
    refine .inr ⟨a, e.click a, ?_, ⟨row', col', here, adjoins⟩, ?_, ?_, ?_, ?_⟩
    · rw [perform, unfolded, next, Option.bind_some, moved]
      rfl
    all_goals rw [clicked]
    exact shown

/-- Back again the key selects the cell that it came from. -/
theorem Tabs.back_again (sound : e.sheet.Sound) (place : e.selectedPosition? = some (row, col))
    (tabs : e.Tabs back row col a e') :
    ∃ e'', e'.perform (.tab !back) = (.address e.selected, e'') ∧ e''.selected = e.selected := by
  obtain ⟨row', col', here, adjoins⟩ := tabs.adjoins
  obtain ⟨row_lt, col_lt⟩ := selectedPosition?_lt place
  obtain ⟨start, selected, origin⟩ := Option.bind_eq_some_iff.mp place
  have sheet : e'.sheet = e.sheet := congrArg Workbook.sheet tabs.workbook
  have place' : e'.selectedPosition? = some (row', col') := by
    rw [selectedPosition?, tabs.selected, sheet, Option.bind_some, here]
  rcases perform_tab_cases (sheet ▸ sound) place' (!back) with
    ⟨-, corner⟩ | ⟨b, e'', performed, again⟩
  · rw [sheet] at corner
    exact absurd (Sheet.adjoins_not.mpr adjoins) (Sheet.not_adjoins_corner row_lt col_lt corner)
  · obtain ⟨row'', col'', there, adjoins'⟩ := again.adjoins
    rw [sheet] at there adjoins'
    have same := (Sheet.adjoins_not.mpr adjoins).rank_eq adjoins'
    obtain ⟨rfl, rfl⟩ :=
      Sheet.rank_inj col_lt (Sheet.column?_lt (Sheet.position?_eq_some there).2.2) same
    have returned : b = start := Sheet.position?_inj there origin
    refine ⟨e'', ?_, ?_⟩
    · rw [performed, returned, selected]
    · rw [again.selected, returned, selected]

/-- As many tabs as there are cells left lead as far as that. -/
theorem run_tabs (sound : e.sheet.Sound) (place : e.selectedPosition? = some (row, col)) {n : Nat}
    (inside : e.sheet.rank row col + n < e.sheet.height * e.sheet.width) :
    ∃ row' col', (e.run (List.replicate n (.tab false))).selectedPosition? = some (row', col') ∧
      col' < e.sheet.width ∧ e.sheet.rank row' col' = e.sheet.rank row col + n := by
  induction n generalizing e row col with
  | zero => exact ⟨row, col, place, (selectedPosition?_lt place).2, rfl⟩
  | succ n ih =>
    rcases perform_tab_cases sound place false with ⟨-, corner⟩ | ⟨a, e', performed, tabs⟩
    · obtain ⟨row_lt, col_lt⟩ := selectedPosition?_lt place
      have last := e.sheet.rank_corner (by omega) (by omega)
      cases corner
      omega
    · obtain ⟨row', col', here, adjoins⟩ := tabs.adjoins
      have sheet : e'.sheet = e.sheet := congrArg Workbook.sheet tabs.workbook
      have place' : e'.selectedPosition? = some (row', col') := by
        rw [selectedPosition?, tabs.selected, sheet, Option.bind_some, here]
      have next : e.sheet.rank row' col' = e.sheet.rank row col + 1 := adjoins
      have further := ih (sheet ▸ sound) place' (by rw [sheet, next]; omega)
      rw [sheet, next] at further
      rw [List.replicate_succ, run_cons, performed, Nat.add_comm n 1, ← Nat.add_assoc]
      exact further

end Tabbing

/-- Let a run reach an editor whose selected cell is in the sheet. The tab key selects the cell that
comes next row by row, or before it on the way back, and does nothing exactly at the last cell, or at
the first. The cell that is answered is then selected, on its own, and shown in the formula bar if
none is edited in its place; and the key in the other direction selects the old one again. From the
first cell on, as many tabs as there are cells but one come by every cell exactly once. -/
theorem run_tab (c : Config) (store : Store) (before : List Action) {row col : Nat} :
    let e := (start c store).run before
    let s := e.sheet
    e.selectedPosition? = some (row, col) →
    (∀ back,
      ((row, col) = s.corner back → e.perform (.tab back) = (.address none, e)) ∧
      ((row, col) ≠ s.corner back → ∃ a e' e'',
        e.perform (.tab back) = (.address (some a), e') ∧
        (∃ row' col', s.position? a = some (row', col') ∧ s.Adjoins back row col row' col') ∧
        e'.workbook = e.workbook ∧ e'.selected = some a ∧
        e'.selection = some ⟨a.row, a.row, a.col, a.col⟩ ∧
        (e'.editing = none → e'.bar.text = e'.raw a) ∧
        e'.perform (.tab !back) = (.address e.selected, e'') ∧ e''.selected = e.selected)) ∧
    ((row, col) = (0, 0) → ∀ row' col', row' < s.height → col' < s.width →
      ∃! n, n ≤ s.height * s.width - 1 ∧
        (e.run (List.replicate n (.tab false))).selectedPosition? = some (row', col')) := by
  intro e s place
  have sound : e.sheet.Sound := sheet_sound (valid_run c store before).workbook
  constructor
  · intro back
    rcases perform_tab_cases sound place back with ⟨stays, corner⟩ | ⟨a, e', performed, tabs⟩
    · exact ⟨fun _ => stays, fun other => absurd corner other⟩
    · obtain ⟨row', col', here, adjoins⟩ := tabs.adjoins
      obtain ⟨-, row_lt', column⟩ := Sheet.position?_eq_some here
      obtain ⟨e'', returned, selected⟩ := tabs.back_again sound place
      refine ⟨fun corner => ?_, fun _ => ⟨a, e', e'', performed, tabs.adjoins, tabs.workbook,
        tabs.selected, tabs.selection, tabs.shown, returned, selected⟩⟩
      exact absurd adjoins (Sheet.not_adjoins_corner row_lt' (Sheet.column?_lt column) corner)
  · intro first row' col' row_lt col_lt
    cases first
    have zero : e.sheet.rank 0 0 = 0 := by rw [Sheet.rank, Nat.zero_mul]
    have reached : ∀ n, n < e.sheet.height * e.sheet.width → ∃ row col,
        (e.run (List.replicate n (.tab false))).selectedPosition? = some (row, col) ∧
          col < e.sheet.width ∧ e.sheet.rank row col = n := by
      intro n inside
      have led := run_tabs sound place (n := n) (by rw [zero, Nat.zero_add]; exact inside)
      rwa [zero, Nat.zero_add] at led
    have below : e.sheet.rank row' col' < e.sheet.height * e.sheet.width :=
      Sheet.rank_lt row_lt col_lt
    refine ⟨e.sheet.rank row' col', ⟨Nat.le_sub_one_of_lt below, ?_⟩, ?_⟩
    · obtain ⟨i, j, there, j_lt, rank⟩ := reached _ below
      obtain ⟨rfl, rfl⟩ := Sheet.rank_inj j_lt col_lt rank
      exact there
    · rintro n ⟨inside, there⟩
      have left : n < e.sheet.height * e.sheet.width :=
        Nat.lt_of_le_sub_one (Nat.zero_lt_of_lt below) inside
      obtain ⟨i, j, there', -, rank⟩ := reached n left
      cases there.symm.trans there'
      exact rank.symm

/-- Two rows of two columns with the headers in no order, and the first cell selected. -/
def swappedColumns : Workbook :=
  ⟨[⟨"Swapped".toList, 1, [['B'], ['A']],
    [[.text ['w'], .text ['x']], [.text ['y'], .text ['z']]]⟩], 0⟩

/-- From the end of the first row the key goes to the second one, where it shows what the cell
holds, and back again. Three tabs from the first cell come by the last one once. -/
theorem swappedColumns_tabbed :
    let e := fun a => (start ⟨1, 1, 1, 300⟩ ⟨.memory, .kept swappedColumns, true, true, 0⟩).run
      [.click a]
    (∃ e' e'', (e ⟨0, ['A']⟩).perform (.tab false) = (.address (some ⟨1, ['B']⟩), e') ∧
        e'.selection = some ⟨1, 1, ['B'], ['B']⟩ ∧ e'.bar.text = ['y'] ∧
        e'.perform (.tab true) = (.address (some ⟨0, ['A']⟩), e'')) ∧
      (e ⟨1, ['A']⟩).perform (.tab false) = (.address none, e ⟨1, ['A']⟩) ∧
      ∃! n, n ≤ 3 ∧ ((e ⟨0, ['B']⟩).run (List.replicate n (.tab false))).selectedPosition? =
        some (1, 1) := by
  intro e
  have tabs := fun a row col => @run_tab ⟨1, 1, 1, 300⟩
    ⟨.memory, .kept swappedColumns, true, true, 0⟩ [.click a] row col
  obtain ⟨step, -⟩ := tabs ⟨0, ['A']⟩ 0 1 (by decide)
  obtain ⟨stop, -⟩ := tabs ⟨1, ['A']⟩ 1 1 (by decide)
  obtain ⟨-, walk⟩ := tabs ⟨0, ['B']⟩ 0 0 (by decide)
  refine ⟨?_, (stop false).1 (by decide), walk rfl 1 1 (by decide) (by decide)⟩
  obtain ⟨a, e', e'', moved, -, -, -, selection, shown, returned, -⟩ :=
    (step false).2 (by decide)
  have reply : Reply.address (some a) = .address (some ⟨1, ['B']⟩) :=
    (congrArg Prod.fst moved).symm.trans (by decide)
  cases reply
  cases congrArg Prod.snd moved
  exact ⟨_, e'', moved, selection, (shown (by decide)).trans (by decide), returned⟩

end Editor

end Spreadsheet
