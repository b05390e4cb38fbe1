import Spreadsheet.Proofs.SheetHeights

/-!
# Beside the active sheet

What is done to cells, rows, columns and their order is done on the active sheet. The other sheets
stay as they are, cell by cell, and all sheets keep their places, names and ids, through any run
that does not exchange sheets. Selecting a sheet and adding one leave the sheets that there are with
the names, headers and rows they had.
-/

namespace Spreadsheet

namespace Workbook

/-- Headers and rows differ on the active sheet at most, and nothing else differs. -/
structure SameBeside (w w' : Workbook) : Prop where
  active : w'.active = w.active
  count : w'.sheets.length = w.sheets.length
  same : ∀ i s, w.sheets[i]? = some s → ∃ t, w'.sheets[i]? = some t ∧ t.name = s.name ∧
    t.id = s.id ∧ (i ≠ w.active → t.headers = s.headers ∧ t.rows = s.rows)

theorem SameBeside.refl (w : Workbook) : SameBeside w w :=
  ⟨rfl, rfl, fun _ s here => ⟨s, here, rfl, rfl, fun _ => ⟨rfl, rfl⟩⟩⟩

theorem SameBeside.trans {w w' w'' : Workbook} (h : SameBeside w w') (h' : SameBeside w' w'') :
    SameBeside w w'' := by
  refine ⟨h'.active.trans h.active, h'.count.trans h.count, ?_⟩
  intro i s here
  obtain ⟨t, there, name, id, other⟩ := h.same i s here
  obtain ⟨u, last, name', id', other'⟩ := h'.same i t there
  refine ⟨u, last, name'.trans name, id'.trans id, ?_⟩
  intro beside
  have first := other beside
  have second := other' (by rw [h.active]; exact beside)
  exact ⟨second.1.trans first.1, second.2.trans first.2⟩

theorem Sound.sameBeside {w : Workbook} (sound : w.Sound) (headers : List Text) (rows : Grid) :
    SameBeside w (w.setSheet { w.sheet with headers := headers, rows := rows }) := by
  refine ⟨rfl, by simp [Workbook.setSheet], ?_⟩
  intro i s here
  by_cases active : i = w.active
  · subst active
    have inside := sound.active
    have old : w.sheet = s := Option.some.inj (sound.getElem?_active.symm.trans here)
    subst old
    refine ⟨{ w.sheet with headers := headers, rows := rows }, ?_, rfl, rfl, ?_⟩
    · simp [Workbook.setSheet, inside]
    · intro beside
      exact absurd rfl beside
  · refine ⟨s, ?_, rfl, rfl, fun _ => ⟨rfl, rfl⟩⟩
    rw [Workbook.setSheet, List.getElem?_set_ne (Ne.symm active), here]

end Workbook

namespace Editor

variable {e e' : Editor}

theorem OnSheet.sameBeside (valid : e.Valid) (h : OnSheet e e') :
    e.workbook.SameBeside e'.workbook := by
  rcases h.workbook with same | ⟨headers, rows, replaced⟩
  · rw [same]
    exact .refl e.workbook
  · rw [replaced]
    exact valid.workbook.sameBeside headers rows

/-- A run that exchanges no sheets works on the active one. -/
theorem Valid.sameBeside_run (valid : e.Valid) {actions : List Action}
    (stays : ∀ action ∈ actions, action.exchanges = false) :
    e.workbook.SameBeside (e.run actions).workbook := by
  induction actions generalizing e with
  | nil => exact .refl e.workbook
  | cons action rest ih =>
    have onSheet : OnSheet e (e.perform action).2 :=
      perform_onSheet e (stays action List.mem_cons_self)
    have later := ih (onSheet.valid valid) fun a ha => stays a (List.mem_cons_of_mem _ ha)
    exact (onSheet.sameBeside valid).trans later

theorem getElem?_selectSheet {i k : Nat} {s : Sheet} (hs : e.workbook.sheets[i]? = some s) :
    (e.perform (.selectSheet k)).2.workbook.sheets[i]? = some s := by
  refine ifDone_of (P := fun after => after.workbook.sheets[i]? = some s) hs ?_
  intro after selected
  obtain ⟨-, -, rfl⟩ := selectSheet?_eq_some selected
  exact hs

/-- Let a run reach an editor. As long as no sheets are exchanged after that, whatever is done, the
same sheet stays active, and every sheet stays in its place with its name and its id, and if it is
not the active one also with its headers and rows. Adding a sheet and selecting one keep the names,
headers and rows of all sheets that there are, at their places. -/
theorem run_same_beside_active (c : Config) (store : Store) (before : List Action) :
    let e := (start c store).run before
    (∀ actions, (∀ action ∈ actions, action.exchanges = false) →
      let w := (e.run actions).workbook
      w.active = e.workbook.active ∧ w.sheets.length = e.workbook.sheets.length ∧
        ∀ i s, e.workbook.sheets[i]? = some s → ∃ t, w.sheets[i]? = some t ∧ t.name = s.name ∧
          t.id = s.id ∧ (i ≠ e.workbook.active → t.headers = s.headers ∧ t.rows = s.rows)) ∧
    ∀ action, (action = .addSheet ∨ ∃ k, action = .selectSheet k) →
      ∀ (i : Nat) (s : Sheet), e.workbook.sheets[i]? = some s →
        ∃ t, (e.perform action).2.workbook.sheets[i]? = some t ∧ t.name = s.name ∧
          t.headers = s.headers ∧ t.rows = s.rows := by
  intro e
  constructor
  · intro actions stays
    obtain ⟨active, count, same⟩ := (valid_run c store before).sameBeside_run stays
    exact ⟨active, count, same⟩
  · rintro action (rfl | ⟨k, rfl⟩) i s here
    · obtain ⟨id, there⟩ := getElem?_addSheet here
      exact ⟨{ s with id := id }, there, rfl, rfl, rfl⟩
    · exact ⟨s, getElem?_selectSheet here, rfl, rfl, rfl⟩

/-- Something is put on the first sheet of two, and the second one is selected. -/
def firstFilled : List Action :=
  [.write ⟨0, ['A']⟩ "tea".toList, .selectSheet 1]

/-- While the second one is filled, has its rows moved and loses a column, the first keeps what it
has, and so it does when a third one comes. -/
theorem firstFilled_same_beside :
    let e := (start ⟨2, 2, 2, 300⟩ ⟨.memory, .nothing, true, true, 0⟩).run firstFilled
    let w := (e.run [.write ⟨1, ['B']⟩ ['4'], .moveRow 1 0,
      .edit .deleteColumn ⟨0, ['A']⟩]).workbook
    w.active = 1 ∧ w.sheets[1]?.map Sheet.rows = some [[.text ['4']], [.empty]] ∧
      (∃ t, w.sheets[0]? = some t ∧
        t.rows = [[.text "tea".toList, .empty], [.empty, .empty]]) ∧
      ∃ t, (e.perform .addSheet).2.workbook.sheets[0]? = some t ∧
        t.rows = [[.text "tea".toList, .empty], [.empty, .empty]] := by
  intro e w
  obtain ⟨stay, add⟩ := run_same_beside_active ⟨2, 2, 2, 300⟩
    ⟨.memory, .nothing, true, true, 0⟩ firstFilled
  have first : e.workbook.sheets[0]? = some ⟨"Sheet 1".toList, 1, [['A'], ['B']],
      [[.text "tea".toList, .empty], [.empty, .empty]]⟩ := by decide
  obtain ⟨active, -, same⟩ := stay
    [.write ⟨1, ['B']⟩ ['4'], .moveRow 1 0, .edit .deleteColumn ⟨0, ['A']⟩] (by decide)
  obtain ⟨t, there, -, -, other⟩ := same 0 _ first
  obtain ⟨u, kept, -, -, rows⟩ := add .addSheet (.inl rfl) 0 _ first
  refine ⟨active.trans (by decide), by decide, ⟨t, there, ?_⟩, ⟨u, kept, rows⟩⟩
  exact (other (by decide)).2

end Editor

end Spreadsheet
