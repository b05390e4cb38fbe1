import Spreadsheet.Proofs.Validity

/-!
# Heights of sheets

A sheet is followed through a run by its index: a removal in front of it moves it forward, its own
removal and a new workbook end it. As long as it lasts it never loses a row, and it becomes no
taller than the limit or than it was at any time before.
-/

namespace Spreadsheet

/-- At least as tall, and not above the limit for any other reason. -/
structure Sheet.Grown (limit : Nat) (s t : Sheet) : Prop where
  le : s.height ≤ t.height
  le_max : t.height ≤ max limit s.height

theorem Sheet.Grown.of_height {limit : Nat} {s t : Sheet} (same : t.height = s.height) :
    Grown limit s t :=
  ⟨by omega, by omega⟩

theorem Sheet.Grown.trans {limit : Nat} {s t u : Sheet} (h : Grown limit s t)
    (h' : Grown limit t u) : Grown limit s u := by
  obtain ⟨le, le_max⟩ := h
  obtain ⟨le', le_max'⟩ := h'
  exact ⟨by omega, by omega⟩

namespace Editor

/-- Where the sheet at an index stands after an action, unless the action takes it away. -/
def sheetAfter? (e : Editor) (i : Nat) : Action → Option Nat
  | .removeSheet k =>
    match e.removeSheet? k with
    | some _ => if i = k then none else some (if k < i then i - 1 else i)
    | none => some i
  | .newFile => none
  | .openWorkbook w =>
    match e.openWorkbook w with
    | .ok _ => none
    | .error _ => some i
  | _ => some i

/-- Where it stands after a run. -/
def sheetAfterRun? (e : Editor) (i : Nat) : List Action → Option Nat
  | [] => some i
  | action :: rest =>
    (e.sheetAfter? i action).bind fun j => (e.perform action).2.sheetAfterRun? j rest

variable {e e' : Editor}

theorem InPlace.config (h : InPlace e e') : e'.config = e.config := by
  cases h with
  | look kept => exact kept.config
  | select kept => exact kept.config
  | cells shape replaced => exact replaced.config

theorem restoreOrder_config (e : Editor) : e.restoreOrder.config = e.config := by
  simp only [restoreOrder]
  split
  · rfl
  · split <;> rfl

theorem withFreeId_config (e : Editor) : e.withFreeId.config = e.config := by
  rcases e.withFreeId_cases with h | h
  · rw [h]
  · rw [h]
    rfl

theorem Change.config (h : Change e e') : e'.config = e.config := by
  cases h with
  | onSheet h =>
    cases h with
    | inPlace h => exact h.config
    | sort => rfl
    | restore => exact e.restoreOrder_config
    | arrange arranged replaced => exact replaced.config
  | addSheet => exact e.withFreeId_config
  | removeSheet i h =>
    obtain ⟨-, -, rfl⟩ := removeSheet?_eq_some h
    rfl
  | selectSheet i h =>
    obtain ⟨-, -, rfl⟩ := selectSheet?_eq_some h
    rfl
  | newFile => rfl
  | openWorkbook w h =>
    obtain ⟨-, rfl⟩ := openWorkbook_eq_ok h
    rfl

theorem start_config (c : Config) (store : Store) : (start c store).config = c.normalized := by
  rcases start_cases c store with ⟨-, started⟩ | ⟨w, -, started⟩
  · rw [started]
    rfl
  · rcases (fresh c.normalized store).adopt_cases w with adopted | adopted <;>
      rw [started, adopted] <;> rfl

theorem run_config (e : Editor) (actions : List Action) : (e.run actions).config = e.config :=
  run_preserves (fun _ _ same change => change.config.trans same) rfl actions

/-- The workbook stays, or other headers and rows are put into its active sheet. -/
theorem OnSheet.workbook (h : OnSheet e e') :
    e'.workbook = e.workbook ∨ ∃ headers rows,
      e'.workbook = e.workbook.setSheet { e.sheet with headers := headers, rows := rows } := by
  cases h with
  | inPlace h =>
    cases h with
    | look kept => exact .inl kept.workbook
    | select kept => exact .inl kept.workbook
    | cells shape replaced => exact .inr ⟨_, _, replaced.workbook⟩
  | sort => exact .inr ⟨_, _, rfl⟩
  | restore sorted =>
    simp only [restoreOrder, sorted]
    split
    · exact .inr ⟨_, _, rfl⟩
    · exact .inl rfl
  | arrange arranged replaced =>
    obtain ⟨headers, rows, rfl⟩ := arranged.exists_eq
    exact .inr ⟨headers, rows, replaced.workbook⟩

theorem OnSheet.getElem?_of_ne (h : OnSheet e e') {i : Nat} (other : i ≠ e.workbook.active) :
    e'.workbook.sheets[i]? = e.workbook.sheets[i]? := by
  rcases h.workbook with same | ⟨headers, rows, replaced⟩
  · rw [same]
  · rw [replaced, Workbook.setSheet, List.getElem?_set_ne (Ne.symm other)]

theorem OnSheet.active (h : OnSheet e e') : e'.workbook.active = e.workbook.active := by
  rcases h.workbook with same | ⟨headers, rows, replaced⟩
  · rw [same]
  · rw [replaced]
    rfl

/-- Changes of the active sheet make it taller at most where a row is inserted. -/
theorem OnSheet.grown (h : OnSheet e e') (valid : e.Valid) :
    Sheet.Grown e.config.maxRows e.sheet e'.sheet := by
  cases h with
  | inPlace h =>
    cases h with
    | look kept => exact .of_height (congrArg Sheet.height kept.sheet)
    | select kept => exact .of_height (congrArg Sheet.height kept.sheet)
    | cells shape replaced =>
      rw [replaced.sheet valid]
      exact .of_height (Grid.length_eq_of_shape shape)
  | sort col direction time =>
    rw [valid.sheet_sortByIndex]
    exact .of_height (length_pick (isOrder_sortKeys e.sheet col direction))
  | restore sorted =>
    rw [valid.sheet_restoreOrder sorted]
    exact .of_height (length_unpick (valid.sort _ sorted).1)
  | arrange arranged replaced =>
    rw [replaced.sheet valid]
    exact ⟨arranged.height.1, arranged.height.2⟩

theorem OnSheet.grown_at (h : OnSheet e e') (valid : e.Valid) {i : Nat} {s : Sheet}
    (hs : e.workbook.sheets[i]? = some s) :
    ∃ t, e'.workbook.sheets[i]? = some t ∧ Sheet.Grown e.config.maxRows s t := by
  by_cases active : i = e.workbook.active
  · have after := (h.valid valid).workbook.getElem?_active
    rw [h.active, ← active] at after
    have before := valid.workbook.getElem?_active
    rw [← active, hs] at before
    cases before
    exact ⟨e'.sheet, after, h.grown valid⟩
  · exact ⟨s, (h.getElem?_of_ne active).trans hs, .of_height rfl⟩

/-- Where a sheet is added the others stand as before, at most with new ids. -/
theorem getElem?_addSheet {i : Nat} {s : Sheet} (hs : e.workbook.sheets[i]? = some s) :
    ∃ id, e.addSheet.workbook.sheets[i]? = some { s with id := id } := by
  have appended : ∀ {sheets : List Sheet} {t : Sheet}, sheets[i]? = some t → ∀ last,
      (sheets ++ last)[i]? = some t := by
    intro sheets t h last
    rw [List.getElem?_append_left (List.getElem?_eq_some_iff.mp h).1, h]
  rcases e.withFreeId_cases with h | h
  · refine ⟨s.id, ?_⟩
    simp only [addSheet, h]
    exact appended hs _
  · refine ⟨i + 1, ?_⟩
    simp only [addSheet, h]
    refine appended ?_ _
    rw [renumbered, Workbook.getElem?_renumber, hs]
    rfl

theorem addSheet_grown_at {i : Nat} {s : Sheet} (hs : e.workbook.sheets[i]? = some s) :
    ∃ t, e.addSheet.workbook.sheets[i]? = some t ∧ Sheet.Grown e.config.maxRows s t := by
  obtain ⟨id, there⟩ := getElem?_addSheet hs
  exact ⟨{ s with id := id }, there, .of_height rfl⟩

theorem removeSheet_grown_at {i j k : Nat} {s : Sheet} (h : e.removeSheet? k = some e')
    (stays : (if i = k then none else some (if k < i then i - 1 else i)) = some j)
    (hs : e.workbook.sheets[i]? = some s) :
    ∃ t, e'.workbook.sheets[j]? = some t ∧ Sheet.Grown e.config.maxRows s t := by
  obtain ⟨-, -, rfl⟩ := removeSheet?_eq_some h
  refine ⟨{ s with name := Workbook.numberedName (j + 1) }, ?_, .of_height rfl⟩
  have place : (e.workbook.sheets.eraseIdx k)[j]? = some s := by
    rw [List.getElem?_eraseIdx]
    split at stays
    · cases stays
    · cases stays
      rcases Nat.lt_or_ge k i with behind | before
      · rw [if_pos behind, if_neg (by omega), show i - 1 + 1 = i by omega, hs]
      · rw [if_neg (show ¬k < i by omega), if_pos (show i < k by omega), hs]
  simp only [saved, Workbook.getElem?_renameAll, place, Option.map_some]

theorem perform_grown (valid : e.Valid) {action : Action} {i j : Nat} {s : Sheet}
    (stays : e.sheetAfter? i action = some j) (hs : e.workbook.sheets[i]? = some s) :
    ∃ t, (e.perform action).2.workbook.sheets[j]? = some t ∧
      Sheet.Grown e.config.maxRows s t := by
  cases exchanges : action.exchanges with
  | false =>
    have same : j = i := by
      cases action <;> first | (cases stays; rfl) | cases exchanges
    rw [same]
    exact (perform_onSheet e exchanges).grown_at valid hs
  | true =>
    cases action with
    | addSheet =>
      cases stays
      exact addSheet_grown_at hs
    | removeSheet k =>
      simp only [sheetAfter?] at stays
      simp only [perform]
      split at stays
      · rename_i after h
        rw [h]
        exact removeSheet_grown_at h stays hs
      · rename_i h
        cases stays
        rw [h]
        exact ⟨s, hs, .of_height rfl⟩
    | selectSheet k =>
      cases stays
      simp only [perform, selectSheet?]
      split
      · exact ⟨s, hs, .of_height rfl⟩
      · exact ⟨s, hs, .of_height rfl⟩
    | newFile => cases stays
    | openWorkbook w =>
      simp only [sheetAfter?] at stays
      simp only [perform]
      split at stays
      · cases stays
      · rename_i err h
        cases stays
        rw [h]
        exact ⟨s, hs, .of_height rfl⟩
    | _ => cases exchanges

theorem run_grown (valid : e.Valid) {actions : List Action} {i j : Nat} {s : Sheet}
    (stays : e.sheetAfterRun? i actions = some j) (hs : e.workbook.sheets[i]? = some s) :
    ∃ t, (e.run actions).workbook.sheets[j]? = some t ∧ Sheet.Grown e.config.maxRows s t := by
  induction actions generalizing e i s with
  | nil =>
    cases stays
    exact ⟨s, hs, .of_height rfl⟩
  | cons action rest ih =>
    obtain ⟨k, next, stays⟩ := Option.bind_eq_some_iff.mp stays
    obtain ⟨t, ht, grown⟩ := perform_grown valid next hs
    have change := perform_change e action
    obtain ⟨u, hu, later⟩ := ih (change.valid valid) stays ht
    rw [change.config] at later
    exact ⟨u, hu, grown.trans later⟩

end Editor

end Spreadsheet
