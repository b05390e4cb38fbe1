import Spreadsheet.Proofs.WriteThrough

/-!
# Failed actions

An action may be refused, or find nothing to act on, and its answer says so. Then everything is as
it was before, down to what is selected, what the formula bar shows and how often the workbook was
saved. So a run comes to the same end without the actions that fail in it. An action that writes and
does not fail has saved.
-/

namespace Spreadsheet

/-- Whether an answer says that the action was refused or found nothing to act on. -/
def Reply.fails : Reply → Bool
  | .failed _ | .done false | .count 0 | .address none | .text none => true
  | _ => false

namespace Action

/-- Actions that write to the workbook unless they fail. -/
def writes : Action → Bool
  | write .. | commit .. | submit | moveRow .. | moveColumn .. | moveBlock .. | cut | paste ..
  | fillDown | fillRight | addSheet | removeSheet .. | selectSheet .. | openWorkbook .. => true
  | _ => false

end Action

theorem Block.not_contains_of_size {b : Block} (none : b.size = 0) (row col : Nat) :
    b.contains row col = false := by
  refine Bool.eq_false_iff.mpr fun inside => ?_
  obtain ⟨top, bottom, left, right⟩ := contains_iff.mp inside
  rcases Nat.mul_eq_zero.mp none with rows | cols <;> omega

namespace Editor

section Answers

variable {e : Editor}

theorem ifDone_fails {next : Option Editor} (fails : (e.ifDone next).1.fails = true) :
    (e.ifDone next).2 = e := by
  cases next with
  | none => rfl
  | some e' => cases fails

theorem ifAccepted_fails {next : Except WorkbookError Editor}
    (fails : (e.ifAccepted next).1.fails = true) : (e.ifAccepted next).2 = e := by
  cases next with
  | error err => rfl
  | ok e' => cases fails

theorem ifMoved_fails {next : Option (Address × Editor)}
    (fails : (e.ifMoved next).1.fails = true) : (e.ifMoved next).2 = e := by
  cases next with
  | none => rfl
  | some pair => cases fails

theorem ifTaken_fails {next : Option (Text × Editor)}
    (fails : (e.ifTaken next).1.fails = true) : (e.ifTaken next).2 = e := by
  cases next with
  | none => rfl
  | some pair => cases fails

theorem count_fails {n : Nat} (fails : (Reply.count n).fails = true) : n = 0 := by
  cases n with
  | zero => rfl
  | succ n => cases fails

/-- A block without a cell has no formats to change. -/
theorem formatSelection_of_zero {p : FormatPatch} (none : (e.formatSelection p).1 = 0) :
    (e.formatSelection p).2 = e := by
  simp only [formatSelection] at none ⊢
  split
  · rename_i b found
    rw [found] at none
    have outside : ∀ a, inBlock e.sheet b a = false := by
      intro a
      unfold inBlock
      split
      · exact Block.not_contains_of_size none _ _
      · rfl
    simp only [formatWhere, outside, Bool.false_eq_true, if_false]
  · rfl

theorem Valid.addSheet_active_pos (valid : e.Valid) : 0 < e.addSheet.workbook.active := by
  change 0 < e.withFreeId.workbook.sheets.length
  rw [length_withFreeId]
  exact Nat.zero_lt_of_lt valid.workbook.active

/-- An action that fails changes nothing. -/
theorem Valid.perform_of_fails (valid : e.Valid) {action : Action}
    (fails : (e.perform action).1.fails = true) : (e.perform action).2 = e := by
  cases action with
  | write | commit | openWorkbook => exact ifAccepted_fails fails
  | moveRow | moveColumn | moveBlock | fillDown | fillRight | removeSheet | selectSheet =>
    exact ifDone_fails fails
  | copy | cut => exact ifTaken_fails fails
  | step | tab => exact ifMoved_fails fails
  | submit =>
    simp only [perform] at fails ⊢
    split
    · rename_i moved h
      rw [h] at fails
      exact ifMoved_fails fails
    · rfl
  | paste target text =>
    rcases e.paste_cases target text with none | ⟨row, col, n, some, -, pasted⟩
    · exact congrArg Prod.snd none
    · have zero : (e.paste target text).1 = 0 := count_fails fails
      rw [pasted] at zero
      omega
  | formatSelection p => exact formatSelection_of_zero (count_fails fails)
  | addSheet =>
    -- the answer is the index of the new sheet, which is never the first one
    have zero : e.addSheet.workbook.active = 0 := count_fails fails
    have some := valid.addSheet_active_pos
    omega
  | _ => cases fails

end Answers

/-- The actions of a run that do not fail in it. -/
def effective (e : Editor) : List Action → List Action
  | [] => []
  | action :: rest =>
    let (reply, e') := e.perform action
    if reply.fails then e'.effective rest else action :: e'.effective rest

/-- A run comes to the same end without the actions that fail in it. -/
theorem Valid.run_effective {e : Editor} (valid : e.Valid) (actions : List Action) :
    e.run (e.effective actions) = e.run actions := by
  induction actions generalizing e with
  | nil => rfl
  | cons action rest ih =>
    have after := ih ((perform_change e action).valid valid)
    simp only [effective]
    split
    · rename_i fails
      rw [valid.perform_of_fails fails] at after ⊢
      exact after.trans (congrArg (fun x : Editor => x.run rest) (valid.perform_of_fails fails)).symm
    · exact after

section Successes

variable {P : Editor → Prop} {e : Editor}

theorem of_ifDone {next : Option Editor} (succeeds : (e.ifDone next).1.fails = false)
    (go : ∀ e', next = some e' → P e') : P (e.ifDone next).2 := by
  cases next with
  | none => cases succeeds
  | some e' => exact go e' rfl

theorem of_ifAccepted {next : Except WorkbookError Editor}
    (succeeds : (e.ifAccepted next).1.fails = false) (go : ∀ e', next = .ok e' → P e') :
    P (e.ifAccepted next).2 := by
  cases next with
  | error err => cases succeeds
  | ok e' => exact go e' rfl

theorem of_ifMoved {next : Option (Address × Editor)}
    (succeeds : (e.ifMoved next).1.fails = false) (go : ∀ a e', next = some (a, e') → P e') :
    P (e.ifMoved next).2 := by
  cases next with
  | none => cases succeeds
  | some pair => exact go pair.1 pair.2 rfl

theorem of_ifTaken {next : Option (Text × Editor)}
    (succeeds : (e.ifTaken next).1.fails = false) (go : ∀ t e', next = some (t, e') → P e') :
    P (e.ifTaken next).2 := by
  cases next with
  | none => cases succeeds
  | some pair => exact go pair.1 pair.2 rfl

variable {e' : Editor}

theorem write_writes {a : Address} {t : Text} (h : e.write a t = .ok e') : Writes e e' := by
  obtain ⟨row, col, -, rfl⟩ := write_eq_ok h
  exact ⟨⟨rfl, rfl⟩, rfl, rfl⟩

theorem commit_writes {a : Address} {t : Text} (h : e.commit a t = .ok e') : Writes e e' := by
  obtain ⟨written, hw, rfl⟩ := commit_eq_ok h
  have writes := write_writes hw
  exact ⟨⟨writes.modified, writes.store⟩, writes.kinds, writes.formats⟩

theorem submit_writes {a : Address} (h : e.submit = .ok (some (a, e'))) : Writes e e' := by
  obtain ⟨t, written, hw, rfl⟩ := submit_eq_ok h
  have writes := write_writes hw
  exact ⟨⟨writes.modified, writes.store⟩, writes.kinds, writes.formats⟩

theorem moveRow?_writes {i j : Nat} (h : e.moveRow? i j = some e') : Writes e e' := by
  obtain ⟨s, -, rfl⟩ := moveRow?_eq_some h
  exact ⟨⟨rfl, rfl⟩, rfl, rfl⟩

theorem moveColumn?_writes {source target : Text} (h : e.moveColumn? source target = some e') :
    Writes e e' := by
  obtain ⟨i, j, s, -, -, -, rfl⟩ := moveColumn?_eq_some h
  exact ⟨⟨rfl, rfl⟩, rfl, rfl⟩

theorem moveBlock?_writes {source target : Address} (h : e.moveBlock? source target = some e') :
    Writes e e' := by
  obtain ⟨x, b, row, col, row', col', -, -, -, -, -, rfl⟩ := moveBlock?_eq_some h
  exact ⟨⟨rfl, rfl⟩, rfl, rfl⟩

theorem cut?_writes {t : Text} (h : e.cut? = some (t, e')) : Writes e e' := by
  obtain ⟨b, -, -, rfl⟩ := cut?_eq_some h
  exact ⟨⟨rfl, rfl⟩, rfl, rfl⟩

theorem fillDown?_writes (h : e.fillDown? = some e') : Writes e e' := by
  obtain ⟨b, -, -, rfl⟩ := fillDown?_eq_some h
  exact ⟨⟨rfl, rfl⟩, rfl, rfl⟩

theorem fillRight?_writes (h : e.fillRight? = some e') : Writes e e' := by
  obtain ⟨b, -, -, rfl⟩ := fillRight?_eq_some h
  exact ⟨⟨rfl, rfl⟩, rfl, rfl⟩

/-- An action that writes and does not fail has saved. -/
theorem perform_writes {action : Action} (writes : action.writes = true)
    (succeeds : (e.perform action).1.fails = false) : Writes e (e.perform action).2 := by
  cases action with
  | write a t => exact of_ifAccepted succeeds fun e' => write_writes
  | commit a t => exact of_ifAccepted succeeds fun e' => commit_writes
  | submit =>
    simp only [perform] at succeeds ⊢
    split
    · rename_i moved h
      rw [h] at succeeds
      exact of_ifMoved succeeds fun a e' found => submit_writes (found ▸ h)
    · rename_i err h
      rw [h] at succeeds
      cases succeeds
  | moveRow i j => exact of_ifDone succeeds fun e' => moveRow?_writes
  | moveColumn source target => exact of_ifDone succeeds fun e' => moveColumn?_writes
  | moveBlock source target => exact of_ifDone succeeds fun e' => moveBlock?_writes
  | cut => exact of_ifTaken succeeds fun t e' => cut?_writes
  | paste target text =>
    rcases e.paste_cases target text with none | ⟨row, col, n, some, -, pasted⟩
    · have counted : (Reply.count (e.paste target text).1).fails = false := succeeds
      rw [none] at counted
      cases counted
    · change Writes e (e.paste target text).2
      rw [pasted]
      exact ⟨⟨rfl, rfl⟩, rfl, rfl⟩
  | fillDown => exact of_ifDone succeeds fun e' => fillDown?_writes
  | fillRight => exact of_ifDone succeeds fun e' => fillRight?_writes
  | addSheet => exact e.addSheet_writes
  | removeSheet i => exact of_ifDone succeeds fun e' => removeSheet?_writes
  | selectSheet i => exact of_ifDone succeeds fun e' => selectSheet?_writes
  | openWorkbook w => exact of_ifAccepted succeeds fun e' => openWorkbook_writes
  | _ => cases writes

end Successes

end Editor

end Spreadsheet
