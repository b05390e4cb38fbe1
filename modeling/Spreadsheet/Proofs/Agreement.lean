import Spreadsheet.Proofs.Changes

/-!
# What actions depend on

Two editors may differ in what they have declared and formatted, in what they have copied and in
their stores, and still show the same. An action reads little of that: a commit the kind of its cell,
a paste the clipboard, and none a format or the store. So where editors show the same, the same
actions answer the same and go on showing the same, and what they had in common of the rest stays.
-/

namespace Spreadsheet

namespace Editor

/-- What two editors have in common beyond what they show: the kinds of some addresses, the formats
of some, and perhaps the clipboard. -/
structure Common where
  kinds : Address → Prop
  formats : Address → Prop
  clipboard : Prop

/-- Everything but the store. -/
def Common.all : Common :=
  ⟨fun _ => True, fun _ => True, True⟩

/-- Everything that is the same. -/
def Common.between (e e' : Editor) : Common :=
  ⟨fun a => e'.kinds a = e.kinds a, fun a => e'.formats a = e.formats a,
    e'.clipboard = e.clipboard⟩

/-- Two editors show the same, and have something in common beyond that. -/
structure Agree (s : Common) (e e' : Editor) : Prop where
  same : e' = { e with
    kinds := e'.kinds, formats := e'.formats, clipboard := e'.clipboard, store := e'.store }
  kinds : ∀ a, s.kinds a → e'.kinds a = e.kinds a
  formats : ∀ a, s.formats a → e'.formats a = e.formats a
  clipboard : s.clipboard → e'.clipboard = e.clipboard

/-- The same comes along with two editors that agree. -/
def Alike {α : Type} (s : Common) (x y : α × Editor) : Prop :=
  y.1 = x.1 ∧ Agree s x.2 y.2

/-- Options that are computed from the same in one way or another. -/
theorem rel_bind {α β : Type} {R : β → β → Prop} {x : Option α} {f f' : α → Option β}
    (both : ∀ a, Option.Rel R (f a) (f' a)) : Option.Rel R (x.bind f) (x.bind f') := by
  cases x with
  | none => exact .none
  | some a => exact both a

theorem rel_map {α β : Type} {R : β → β → Prop} {x : Option α} {f f' : α → β}
    (both : ∀ a, R (f a) (f' a)) : Option.Rel R (x.map f) (x.map f') := by
  cases x with
  | none => exact .none
  | some a => exact .some (both a)

variable {s : Common} {e e' : Editor}

namespace Agree

theorem between (same : e' = { e with
    kinds := e'.kinds, formats := e'.formats, clipboard := e'.clipboard, store := e'.store }) :
    Agree (.between e e') e e' :=
  ⟨same, fun _ kind => kind, fun _ format => format, fun clipboard => clipboard⟩

theorem eq (h : Agree s e e') : ∃ kinds formats clipboard store,
    e' = { e with kinds := kinds, formats := formats, clipboard := clipboard, store := store } :=
  ⟨_, _, _, _, h.same⟩

theorem workbook (h : Agree s e e') : e'.workbook = e.workbook := by
  rw [h.same]

theorem sheet (h : Agree s e e') : e'.sheet = e.sheet :=
  congrArg Workbook.sheet h.workbook

theorem selectedRange? (h : Agree s e e') : e'.selectedRange? = e.selectedRange? := by
  rw [h.same]
  rfl

theorem selectedBlock? (h : Agree s e e') : e'.selectedBlock? = e.selectedBlock? := by
  rw [h.same]
  rfl

/-- Editors that have the clipboard in common after all. -/
theorem withClipboard (h : Agree s e e') (clipboard : e'.clipboard = e.clipboard) :
    Agree { s with clipboard := True } e e' :=
  { h with clipboard := fun _ => clipboard }

/-- With everything in common only the stores are left. -/
theorem eq_of_all (h : Agree .all e e') : e' = { e with store := e'.store } := by
  obtain ⟨kinds, formats, clipboard, store, rfl⟩ := h.eq
  have kindsAre : kinds = e.kinds := funext fun a => h.kinds a trivial
  have formatsAre : formats = e.formats := funext fun a => h.formats a trivial
  have clipboardIs : clipboard = e.clipboard := h.clipboard trivial
  rw [kindsAre, formatsAre, clipboardIs]

theorem ite {p : Prop} [Decidable p] {f f' : Editor} (yes : Agree s e e') (no : Agree s f f') :
    Agree s (if p then e else f) (if p then e' else f') := by
  split
  · exact yes
  · exact no

theorem put (h : Agree s e e') (t : Sheet) : Agree s (e.put t) (e'.put t) := by
  obtain ⟨_, _, _, _, rfl⟩ := h.eq
  exact ⟨rfl, h.kinds, h.formats, h.clipboard⟩

theorem putRows (h : Agree s e e') (rows : Grid) : Agree s (e.putRows rows) (e'.putRows rows) := by
  rw [Editor.putRows, Editor.putRows, h.sheet]
  exact h.put _

theorem withSort (h : Agree s e e') (sort : Option SortState) :
    Agree s { e with sort := sort } { e' with sort := sort } := by
  obtain ⟨_, _, _, _, rfl⟩ := h.eq
  exact ⟨rfl, h.kinds, h.formats, h.clipboard⟩

theorem reselect (h : Agree s e e') : Agree s e.reselect e'.reselect := by
  obtain ⟨_, _, _, _, rfl⟩ := h.eq
  simp only [Editor.reselect, Editor.sheet]
  split
  · exact ⟨rfl, h.kinds, h.formats, h.clipboard⟩
  · exact h

theorem click (h : Agree s e e') (a : Address) : Agree s (e.click a) (e'.click a) := by
  obtain ⟨_, _, _, _, rfl⟩ := h.eq
  exact reselect ⟨rfl, h.kinds, h.formats, h.clipboard⟩

theorem press (h : Agree s e e') (a : Address) : Agree s (e.press a) (e'.press a) := by
  obtain ⟨_, _, _, _, rfl⟩ := h.eq
  exact reselect ⟨rfl, h.kinds, h.formats, h.clipboard⟩

theorem dragOver (h : Agree s e e') (a : Address) : Agree s (e.dragOver a) (e'.dragOver a) := by
  obtain ⟨_, _, _, _, rfl⟩ := h.eq
  simp only [Editor.dragOver]
  split
  · split
    · exact reselect ⟨rfl, h.kinds, h.formats, h.clipboard⟩
    · exact h
  · exact h

theorem addSheet (h : Agree s e e') : Agree s e.addSheet e'.addSheet := by
  obtain ⟨_, _, _, _, rfl⟩ := h.eq
  simp only [Editor.addSheet, withFreeId]
  split <;> exact ⟨rfl, h.kinds, h.formats, h.clipboard⟩

theorem newFile (h : Agree s e e') : Agree s e.newFile e'.newFile := by
  obtain ⟨_, _, _, _, rfl⟩ := h.eq
  exact ⟨rfl, fun _ _ => rfl, fun _ _ => rfl, fun _ => rfl⟩

theorem edit (h : Agree s e e') (edit : StructuralEdit) (anchor : Address) :
    Agree s (e.edit edit anchor) (e'.edit edit anchor) := by
  obtain ⟨_, _, _, _, rfl⟩ := h.eq
  simp only [Editor.edit, Editor.sheet]
  split
  · simp only [selectionsAfter]
    split <;> exact ⟨rfl, h.kinds, h.formats, h.clipboard⟩
  · exact h

theorem sortByIndex (h : Agree s e e') (col : Nat) (direction : SortDirection) (time : Nat) :
    Agree s (e.sortByIndex col direction time) (e'.sortByIndex col direction time) := by
  obtain ⟨_, _, _, _, rfl⟩ := h.eq
  exact ⟨rfl, h.kinds, h.formats, h.clipboard⟩

theorem sortBy (h : Agree s e e') (label : Text) (direction : SortDirection) (time : Nat) :
    Agree s (e.sortBy label direction time) (e'.sortBy label direction time) := by
  rw [Editor.sortBy, Editor.sortBy, h.sheet]
  split
  · exact h.sortByIndex _ direction time
  · exact h

theorem restoreOrder (h : Agree s e e') : Agree s e.restoreOrder e'.restoreOrder := by
  obtain ⟨_, _, _, _, rfl⟩ := h.eq
  simp only [Editor.restoreOrder, Editor.sheet]
  split
  · exact h
  · exact .ite ((h.withSort none).putRows _) (h.withSort none)

theorem clickHeader (h : Agree s e e') (label : Text) (time : Nat) :
    Agree s (e.clickHeader label time) (e'.clickHeader label time) := by
  have repeated : e'.repeated? label time = e.repeated? label time := by
    rw [h.same]
    rfl
  rw [Editor.clickHeader, Editor.clickHeader, h.sheet, repeated]
  split
  · exact h
  · split
    · exact h.sortByIndex _ .ascending time
    · exact h.sortByIndex _ .descending time
    · exact h.restoreOrder

theorem setKind (h : Agree s e e') (a : Address) (kind : CellKind) :
    Agree s (e.setKind a kind) (e'.setKind a kind) := by
  obtain ⟨_, _, _, _, rfl⟩ := h.eq
  refine ⟨rfl, fun b hb => ?_, h.formats, h.clipboard⟩
  exact if_congr Iff.rfl rfl (h.kinds b hb)

theorem formatWhere (h : Agree s e e') (p : FormatPatch) (chosen : Address → Bool) :
    Agree s (e.formatWhere p chosen) (e'.formatWhere p chosen) := by
  obtain ⟨_, _, _, _, rfl⟩ := h.eq
  refine ⟨rfl, h.kinds, fun b hb => ?_, h.clipboard⟩
  exact if_congr Iff.rfl (congrArg p.apply (h.formats b hb)) (h.formats b hb)

theorem formatSelection (h : Agree s e e') (p : FormatPatch) :
    Alike s (e.formatSelection p) (e'.formatSelection p) := by
  rw [Editor.formatSelection, Editor.formatSelection, h.selectedRange?, h.sheet]
  split
  · exact ⟨rfl, h.formatWhere p _⟩
  · exact ⟨rfl, h⟩

/-- A paste reads the clipboard. -/
theorem paste (h : Agree s e e') (common : s.clipboard) (target : Address) (text : Option Text) :
    Alike s (e.paste target text) (e'.paste target text) := by
  have pasted : ∀ row col, e'.pasted row col text = e.pasted row col text := by
    intro row col
    simp only [Editor.pasted, h.clipboard common]
  simp only [Editor.paste, h.sheet, pasted]
  split
  · exact ⟨rfl, h⟩
  · split
    · exact ⟨rfl, h⟩
    · exact ⟨rfl, h.putRows _⟩

theorem ifDone (h : Agree s e e') {next next' : Option Editor}
    (both : Option.Rel (Agree s) next next') : Alike s (e.ifDone next) (e'.ifDone next') := by
  cases both with
  | none => exact ⟨rfl, h⟩
  | some next => exact ⟨rfl, next⟩

theorem ifMoved (h : Agree s e e') {next next' : Option (Address × Editor)}
    (both : Option.Rel (Alike s) next next') : Alike s (e.ifMoved next) (e'.ifMoved next') := by
  cases both with
  | none => exact ⟨rfl, h⟩
  | some next => exact ⟨congrArg (fun a => Reply.address (some a)) next.1, next.2⟩

theorem ifTaken (h : Agree s e e') {next next' : Option (Text × Editor)}
    (both : Option.Rel (Alike s) next next') : Alike s (e.ifTaken next) (e'.ifTaken next') := by
  cases both with
  | none => exact ⟨rfl, h⟩
  | some next => exact ⟨congrArg (fun t => Reply.text (some t)) next.1, next.2⟩

theorem moveRow? (h : Agree s e e') (i j : Nat) :
    Option.Rel (Agree s) (e.moveRow? i j) (e'.moveRow? i j) := by
  rw [Editor.moveRow?, Editor.moveRow?, h.sheet]
  exact rel_map fun t => (h.withSort none).put t

theorem moveColumn? (h : Agree s e e') (source target : Text) :
    Option.Rel (Agree s) (e.moveColumn? source target) (e'.moveColumn? source target) := by
  rw [Editor.moveColumn?, Editor.moveColumn?, h.sheet]
  exact rel_bind fun i => rel_bind fun j => rel_bind fun t => .some ((h.withSort none).put t)

theorem fillDown? (h : Agree s e e') : Option.Rel (Agree s) e.fillDown? e'.fillDown? := by
  rw [Editor.fillDown?, Editor.fillDown?, h.selectedRange?, h.sheet]
  refine rel_bind fun b => ?_
  split
  · exact .none
  · exact .some (h.putRows _)

theorem fillRight? (h : Agree s e e') :
    Option.Rel (Agree s) e.fillRight? e'.fillRight? := by
  rw [Editor.fillRight?, Editor.fillRight?, h.selectedRange?, h.sheet]
  refine rel_bind fun b => ?_
  split
  · exact .none
  · exact .some (h.putRows _)

theorem moveBlock? (h : Agree s e e') (source target : Address) :
    Option.Rel (Agree s) (e.moveBlock? source target) (e'.moveBlock? source target) := by
  have selection : e'.selection = e.selection := by rw [h.same]
  rw [Editor.moveBlock?, Editor.moveBlock?, selection, h.sheet]
  refine rel_bind fun x => ?_
  dsimp only
  split
  · exact .none
  · exact rel_bind fun b => rel_bind fun place => rel_bind fun place' => .some (h.putRows _)

theorem clickAt? (h : Agree s e e') (row col : Nat) :
    Option.Rel (Alike s) (e.clickAt? row col) (e'.clickAt? row col) := by
  rw [Editor.clickAt?, Editor.clickAt?, h.sheet]
  exact rel_map fun a => ⟨rfl, h.click a⟩

theorem step? (h : Agree s e e') (d : Direction) :
    Option.Rel (Alike s) (e.step? d) (e'.step? d) := by
  have position : e'.selectedPosition? = e.selectedPosition? := by
    rw [h.same]
    rfl
  rw [Editor.step?, Editor.step?, position, h.sheet]
  refine rel_bind fun place => ?_
  dsimp only
  split
  · exact .none
  · exact h.clickAt? _ _

theorem tab? (h : Agree s e e') (back : Bool) :
    Option.Rel (Alike s) (e.tab? back) (e'.tab? back) := by
  have position : e'.selectedPosition? = e.selectedPosition? := by
    rw [h.same]
    rfl
  rw [Editor.tab?, Editor.tab?, position, h.sheet]
  refine rel_bind fun place => ?_
  cases back with
  | false => exact rel_bind fun next => h.clickAt? next.1 next.2
  | true => exact rel_bind fun next => h.clickAt? next.1 next.2

theorem copy? (h : Agree s e e') : Option.Rel (Alike s) e.copy? e'.copy? := by
  obtain ⟨_, _, _, _, rfl⟩ := h.eq
  exact rel_map fun b => ⟨rfl, rfl, h.kinds, h.formats, fun _ => rfl⟩

theorem cut? (h : Agree s e e') : Option.Rel (Alike s) e.cut? e'.cut? := by
  obtain ⟨_, _, _, _, rfl⟩ := h.eq
  exact rel_map fun b => ⟨rfl, rfl, h.kinds, h.formats, fun _ => rfl⟩

theorem removeSheet? (h : Agree s e e') (i : Nat) :
    Option.Rel (Agree s) (e.removeSheet? i) (e'.removeSheet? i) := by
  obtain ⟨_, _, _, _, rfl⟩ := h.eq
  simp only [Editor.removeSheet?]
  split
  · exact .some ⟨rfl, h.kinds, h.formats, h.clipboard⟩
  · exact .none

theorem selectSheet? (h : Agree s e e') (i : Nat) :
    Option.Rel (Agree s) (e.selectSheet? i) (e'.selectSheet? i) := by
  obtain ⟨_, _, _, _, rfl⟩ := h.eq
  simp only [Editor.selectSheet?]
  split
  · exact .some ⟨rfl, h.kinds, h.formats, h.clipboard⟩
  · exact .none

theorem write (h : Agree s e e') (a : Address) (t : Text) :
    Alike s (e.ifAccepted (e.write a t)) (e'.ifAccepted (e'.write a t)) := by
  rw [Editor.write, Editor.write, h.sheet]
  cases e.sheet.position a with
  | error err => exact ⟨rfl, h⟩
  | ok place => exact ⟨rfl, h.putRows _⟩

/-- A commit reads the kind of its cell. -/
theorem commit (h : Agree s e e') {a : Address} (common : s.kinds a) (t : Text) :
    Alike s (e.ifAccepted (e.commit a t)) (e'.ifAccepted (e'.commit a t)) := by
  rw [Editor.commit, Editor.commit, h.kinds a common]
  split
  · exact ⟨rfl, h⟩
  · rw [Editor.write, Editor.write, h.sheet]
    cases e.sheet.position a with
    | error err => exact ⟨rfl, h⟩
    | ok place =>
      obtain ⟨_, _, _, _, rfl⟩ := h.eq
      exact ⟨rfl, rfl, h.kinds, h.formats, h.clipboard⟩

theorem submit (h : Agree s e e') :
    Alike s (e.perform .submit) (e'.perform .submit) := by
  have bar : e'.bar = e.bar := by rw [h.same]
  have selected : e'.selected = e.selected := by rw [h.same]
  by_cases none : e.bar.text.trim = []
  · simp only [Editor.perform, Editor.submit, bar, if_pos none]
    exact h.ifMoved .none
  · simp only [Editor.perform, Editor.submit, bar, selected, if_neg none]
    cases (Formula.Entry.parse e.bar.text.trim).target.or e.selected with
    | none => exact h.ifMoved .none
    | some target =>
      simp only [Editor.write, h.sheet]
      cases e.sheet.position target with
      | error err => exact ⟨rfl, h⟩
      | ok place =>
        obtain ⟨_, _, _, _, rfl⟩ := h.eq
        exact ⟨rfl, rfl, h.kinds, h.formats, h.clipboard⟩

theorem openWorkbook (h : Agree s e e') (w : Workbook) :
    Alike s (e.ifAccepted (e.openWorkbook w)) (e'.ifAccepted (e'.openWorkbook w)) := by
  rw [Editor.openWorkbook, Editor.openWorkbook]
  cases w.checked with
  | error err => exact ⟨rfl, h⟩
  | ok w =>
    obtain ⟨_, _, _, _, rfl⟩ := h.eq
    exact ⟨rfl, rfl, h.kinds, h.formats, h.clipboard⟩

end Agree

end Editor

namespace Action

def pastes : Action → Bool
  | paste .. => true
  | _ => false

def copies : Action → Bool
  | copy | cut => true
  | _ => false

end Action

namespace Editor

/-- What the actions of a run answer. -/
def replies (e : Editor) : List Action → List Reply
  | [] => []
  | action :: rest => (e.perform action).1 :: (e.perform action).2.replies rest

/-- Whether a run has copied or cut cells before its first paste. -/
def pastesOwn (e : Editor) : List Action → Bool
  | [] => true
  | action :: rest =>
    !action.pastes &&
      (action.copies && e.selectedBlock?.isSome || (e.perform action).2.pastesOwn rest)

variable {s : Common} {e e' : Editor}

/-- A commit reads the kind of its cell and a paste the clipboard. Beyond these, actions depend on
what the editors show. -/
theorem Agree.perform (h : Agree s e e') {action : Action}
    (kinds : ∀ a t, action = .commit a t → s.kinds a)
    (clipboard : action.pastes = true → s.clipboard) :
    Alike s (e.perform action) (e'.perform action) := by
  cases action with
  | write a t => exact h.write a t
  | commit a t => exact h.commit (kinds a t rfl) t
  | press a => exact ⟨rfl, h.press a⟩
  | dragOver a => exact ⟨rfl, h.dragOver a⟩
  | click a => exact ⟨rfl, h.click a⟩
  | release | focusBar | blurBar | beginEdit | cancelEdit | setBar | setCaret | overwriteBar =>
    obtain ⟨_, _, _, _, rfl⟩ := h.eq
    exact ⟨rfl, rfl, h.kinds, h.formats, h.clipboard⟩
  | submit => exact h.submit
  | step d => exact h.ifMoved (h.step? d)
  | tab back => exact h.ifMoved (h.tab? back)
  | edit edit anchor =>
    have after := h.edit edit anchor
    exact ⟨congrArg (fun t : Sheet => Reply.size t.height t.width) after.sheet, after⟩
  | moveRow i j => exact h.ifDone (h.moveRow? i j)
  | moveColumn source target => exact h.ifDone (h.moveColumn? source target)
  | moveBlock source target => exact h.ifDone (h.moveBlock? source target)
  | copy => exact h.ifTaken h.copy?
  | cut => exact h.ifTaken h.cut?
  | paste target text =>
    have pasted := h.paste (clipboard rfl) target text
    exact ⟨congrArg Reply.count pasted.1, pasted.2⟩
  | fillDown => exact h.ifDone h.fillDown?
  | fillRight => exact h.ifDone h.fillRight?
  | sortBy label direction time => exact ⟨rfl, h.sortBy label direction time⟩
  | clickHeader label time => exact ⟨rfl, h.clickHeader label time⟩
  | restoreOrder => exact ⟨rfl, h.restoreOrder⟩
  | setKind a kind => exact ⟨rfl, h.setKind a kind⟩
  | format a p => exact ⟨rfl, h.formatWhere p _⟩
  | formatSelection p =>
    have formatted := h.formatSelection p
    exact ⟨congrArg Reply.count formatted.1, formatted.2⟩
  | addSheet =>
    have after := h.addSheet
    exact ⟨congrArg (fun w : Workbook => Reply.count w.active) after.workbook, after⟩
  | removeSheet i => exact h.ifDone (h.removeSheet? i)
  | selectSheet i => exact h.ifDone (h.selectSheet? i)
  | newFile => exact ⟨rfl, h.newFile⟩
  | openWorkbook w => exact h.openWorkbook w

/-- What a copy or a cut takes is the same. -/
theorem Agree.copied (h : Agree s e e') {action : Action} (copies : action.copies = true)
    (found : e.selectedBlock?.isSome = true) :
    (e'.perform action).2.clipboard = (e.perform action).2.clipboard := by
  obtain ⟨b, selected⟩ := Option.isSome_iff_exists.mp found
  have selected' : e'.selectedBlock? = some b := h.selectedBlock?.trans selected
  obtain ⟨_, _, _, _, rfl⟩ := h.eq
  cases action with
  | copy =>
    simp only [Editor.perform, Editor.copy?, selected, selected']
    rfl
  | cut =>
    simp only [Editor.perform, Editor.cut?, selected, selected']
    rfl
  | _ => cases copies

/-- The same run on editors that agree. -/
theorem Agree.run (h : Agree s e e') {actions : List Action}
    (kinds : ∀ a t, .commit a t ∈ actions → s.kinds a)
    (clipboard : s.clipboard ∨ e.pastesOwn actions = true) :
    e'.replies actions = e.replies actions ∧ Agree s (e.run actions) (e'.run actions) := by
  induction actions generalizing s e e' with
  | nil => exact ⟨rfl, h⟩
  | cons action rest ih =>
    have later : ∀ a t, .commit a t ∈ rest → s.kinds a := fun a t later =>
      kinds a t (List.mem_cons_of_mem action later)
    have reads : action.pastes = true → s.clipboard := fun pastes =>
      clipboard.resolve_right fun own => by simp [pastesOwn, pastes] at own
    obtain ⟨reply, after⟩ := h.perform (fun a t is => kinds a t (is ▸ List.mem_cons_self)) reads
    have cons : ∀ {replies : List Reply}, (e'.perform action).2.replies rest = replies →
        e'.replies (action :: rest) = (e.perform action).1 :: replies := by
      rintro replies rfl
      rw [Editor.replies, reply]
    by_cases copied : action.copies = true ∧ e.selectedBlock?.isSome = true
    · -- from here on the clipboards are the same
      obtain ⟨replies, same⟩ :=
        ih (after.withClipboard (h.copied copied.1 copied.2)) later (.inl trivial)
      exact ⟨cons replies, { same with clipboard := fun _ => same.clipboard trivial }⟩
    · obtain ⟨replies, same⟩ := ih after later (clipboard.imp_right fun own => by
        simp only [pastesOwn, Bool.and_eq_true, Bool.or_eq_true] at own
        exact own.2.resolve_left copied)
      exact ⟨cons replies, same⟩

end Editor

end Spreadsheet
