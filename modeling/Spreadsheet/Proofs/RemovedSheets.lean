import Spreadsheet.Proofs.Validity

/-!
# Removing a sheet

When a sheet is removed the others close up. They are named by their new places and are otherwise
what they were. The sheet that was worked on is worked on still, unless it is the removed one: then
the next one takes its place, or the last of the others if it was the last itself.
-/

namespace Spreadsheet

namespace Editor

section ActiveIndex

variable {α : Type} {xs : List α} {active removed : Nat}

/-- What is active stays so when something else goes. -/
theorem getElem?_activeAfterRemove_of_ne (inside : active < xs.length)
    (gone : removed < xs.length) (other : removed ≠ active) :
    (xs.eraseIdx removed)[activeAfterRemove active removed (xs.length - 1)]? = xs[active]? := by
  rw [List.getElem?_eraseIdx]
  by_cases before : removed < active
  · have place : activeAfterRemove active removed (xs.length - 1) = active - 1 :=
      if_pos (.inl before)
    rw [place, if_neg (by omega), show active - 1 + 1 = active by omega]
  · have place : activeAfterRemove active removed (xs.length - 1) = active :=
      if_neg (by omega)
    rw [place, if_pos (by omega)]

/-- What comes next takes the place of what was active. -/
theorem getElem?_activeAfterRemove_self (next : active + 1 < xs.length) :
    (xs.eraseIdx active)[activeAfterRemove active active (xs.length - 1)]? = xs[active + 1]? := by
  rw [activeAfterRemove, if_neg (by omega), List.getElem?_eraseIdx, if_neg (Nat.lt_irrefl active)]

/-- After the last one the last of the others is active. -/
theorem getElem?_activeAfterRemove_last (last : active + 1 = xs.length) :
    (xs.eraseIdx active)[activeAfterRemove active active (xs.length - 1)]? =
      (xs.eraseIdx active).getLast? := by
  have shorter := List.length_eraseIdx_of_lt (show active < xs.length by omega)
  rw [activeAfterRemove, if_pos (by omega), List.getLast?_eq_getElem?, shorter,
    show xs.length - 1 = active by omega]

end ActiveIndex

/-- Of two sheets or more any one can be removed. -/
theorem perform_removeSheet {e : Editor} {i : Nat} (more : 1 < e.workbook.sheets.length)
    (inside : i < e.workbook.sheets.length) :
    (e.perform (.removeSheet i)).1 = .done true ∧
      (e.perform (.removeSheet i)).2.workbook =
        ⟨Workbook.renameAll (e.workbook.sheets.eraseIdx i),
          activeAfterRemove e.workbook.active i (e.workbook.sheets.length - 1)⟩ := by
  have length : (Workbook.renameAll (e.workbook.sheets.eraseIdx i)).length =
      e.workbook.sheets.length - 1 := by
    simp [Workbook.renameAll, List.length_eraseIdx_of_lt inside]
  simp only [perform, removeSheet?, if_pos (And.intro more inside), length]
  exact ⟨rfl, rfl⟩

/-- Let a run reach an editor with two sheets or more. Removing one leaves the others in their order,
named by their places, with the ids, headers and rows they had. If it was not the active one, the
same sheet is active after that. If it was, the next one is, or the last of the others if there was
no next one. -/
theorem run_removeSheet (c : Config) (store : Store) (before : List Action) (i : Nat) :
    let e := (start c store).run before
    let old := e.workbook
    let others := old.sheets.eraseIdx i
    let new := (e.perform (.removeSheet i)).2.workbook
    let renamed := fun (n : Nat) (s : Sheet) =>
      { s with name := "Sheet ".toList ++ Text.ofNat (n + 1) }
    1 < old.sheets.length → i < old.sheets.length →
    (e.perform (.removeSheet i)).1 = .done true ∧
      new.sheets.length = old.sheets.length - 1 ∧
      (∀ n, new.sheets[n]? = others[n]?.map (renamed n)) ∧
      (i ≠ old.active → ∃ s, old.sheets[old.active]? = some s ∧
        new.sheets[new.active]? = some (renamed new.active s)) ∧
      (i = old.active → ∃ s,
        (old.sheets[i + 1]? = some s ∨
          i + 1 = old.sheets.length ∧ others.getLast? = some s) ∧
        new.sheets[new.active]? = some (renamed new.active s)) := by
  intro e old others new renamed more inside
  obtain ⟨done, removed⟩ := perform_removeSheet more inside
  have active : old.active < old.sheets.length := (valid_run c store before).workbook.active
  have shorter : others.length = old.sheets.length - 1 := List.length_eraseIdx_of_lt inside
  have sheets : new.sheets = Workbook.renameAll others := congrArg Workbook.sheets removed
  have place : new.active = activeAfterRemove old.active i (old.sheets.length - 1) :=
    congrArg Workbook.active removed
  have each : ∀ n, new.sheets[n]? = others[n]?.map (renamed n) := by
    intro n
    rw [sheets, Workbook.getElem?_renameAll]
    rfl
  refine ⟨done, ?_, each, fun other => ?_, ?_⟩
  · rw [sheets, Workbook.renameAll, List.length_mapIdx, shorter]
  · have stays := getElem?_activeAfterRemove_of_ne active inside other
    refine ⟨old.sheets[old.active], List.getElem?_eq_getElem active, ?_⟩
    rw [each, place, stays, List.getElem?_eq_getElem active, Option.map_some]
  · rintro rfl
    by_cases next : old.active + 1 < old.sheets.length
    · have follows := getElem?_activeAfterRemove_self next
      refine ⟨old.sheets[old.active + 1], .inl (List.getElem?_eq_getElem next), ?_⟩
      rw [each, place, follows, List.getElem?_eq_getElem next, Option.map_some]
    · have last : old.active + 1 = old.sheets.length := by omega
      have ends := getElem?_activeAfterRemove_last last
      have some : others ≠ [] := List.length_pos_iff.mp (by omega)
      refine ⟨others.getLast some, .inr ⟨last, List.getLast?_eq_some_getLast some⟩, ?_⟩
      rw [each, place, ends, List.getLast?_eq_some_getLast some, Option.map_some]

/-- Three sheets, with something on two of them, and one of them selected. -/
def threeSheets (active : Nat) : List Action :=
  [.write ⟨0, ['A']⟩ "tea".toList, .selectSheet 1, .write ⟨0, ['A']⟩ "milk".toList,
    .selectSheet 2, .selectSheet active]

/-- While the second is active, it stays so without the first and gives way to the third when it
goes itself. The third, when it goes, leaves the second. -/
theorem threeSheets_removed :
    let e := fun active =>
      (start ⟨1, 1, 3, 300⟩ ⟨.memory, .nothing, true, true, 0⟩).run (threeSheets active)
    let after := fun active i => ((e active).perform (.removeSheet i)).2.workbook
    (e 1).workbook.active = 1 ∧ (e 2).workbook.active = 2 ∧
      (after 1 0).sheets[(after 1 0).active]? =
        some ⟨"Sheet 1".toList, 2, [['A']], [[.text "milk".toList]]⟩ ∧
      (after 1 1).sheets[(after 1 1).active]? = some ⟨"Sheet 2".toList, 3, [['A']], [[.empty]]⟩ ∧
      (after 2 2).sheets[(after 2 2).active]? =
        some ⟨"Sheet 2".toList, 2, [['A']], [[.text "milk".toList]]⟩ := by
  intro e after
  have removes := fun active i => run_removeSheet ⟨1, 1, 3, 300⟩
    ⟨.memory, .nothing, true, true, 0⟩ (threeSheets active) i
  obtain ⟨-, -, -, stays, -⟩ := removes 1 0 (by decide) (by decide)
  obtain ⟨-, -, -, -, follows⟩ := removes 1 1 (by decide) (by decide)
  obtain ⟨-, -, -, -, ends⟩ := removes 2 2 (by decide) (by decide)
  refine ⟨by decide, by decide, ?_, ?_, ?_⟩
  · obtain ⟨s, old, new⟩ := stays (by decide)
    cases old
    exact new
  · obtain ⟨s, old | old, new⟩ := follows (by decide)
    · cases old
      exact new
    · exact absurd old.1 (by decide)
  · obtain ⟨s, old | old, new⟩ := ends (by decide)
    · cases old
    · cases old.2
      exact new

end Editor

end Spreadsheet
