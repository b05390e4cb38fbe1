import Spreadsheet.Proofs.MovedBlocks
import Spreadsheet.Proofs.Reopening
import Spreadsheet.Proofs.WorkbookFiles

/-!
# Runs one after another

Cells that are set in one run might as well be set in runs of their own, and a formula evaluated in
a last one. Each further run reads the workbook that the run before it has written. It finds the
same sheets, so it goes on as the one run would; it differs only in what has been selected, saved
and reported so far, and none of that matters to what is set and evaluated.
-/

namespace Spreadsheet

namespace Editor

/-- An editor as a run has it: every cell takes any text, and the workbook is kept in a file that
can be written. -/
structure AtWork (e : Editor) : Prop where
  kinds : e.kinds = fun _ => .text
  sound : e.workbook.Sound
  file : e.store.medium = .file
  writable : e.store.writable = true

/-- A text has been entered into the cell at a position, and the workbook saved. -/
structure Enters (e : Editor) (row col : Nat) (t : Text) (e' : Editor) : Prop where
  kinds : e'.kinds = e.kinds
  workbook : e'.workbook = e.workbook.setSheet
    { e.sheet with rows := e.sheet.rows.setCell row col (Cell.ofText t) }
  store : e'.store = e.store.save e'.workbook

section Entering

variable {e e' : Editor} {a : Address} {row col : Nat} {t : Text}

theorem atWork_start (c : Config) {store : Store} (file : store.medium = .file)
    (writable : store.writable = true) : AtWork (start c store) := by
  refine ⟨?_, (valid_start c store).workbook, ?_, ?_⟩
  · obtain ⟨w, nextId, started⟩ := exists_start c store
    rw [started]
    rfl
  · rw [start_store]
    exact file
  · rw [start_store]
    exact writable

theorem Enters.atWork (enters : Enters e row col t e') (work : AtWork e) : AtWork e' := by
  refine ⟨enters.kinds.trans work.kinds, ?_, ?_, ?_⟩
  · rw [enters.workbook]
    exact work.sound.setSheet (work.sound.sheet_sound.withRows (Grid.shape_setCell _ _ _ _))
  · rw [enters.store]
    exact work.file
  · rw [enters.store]
    exact work.writable

theorem Enters.position? (enters : Enters e row col t e') (sound : e.workbook.Sound) (b : Address) :
    e'.sheet.position? b = e.sheet.position? b := by
  rw [Editor.sheet, enters.workbook, sound.sheet_setSheet]
  exact e.sheet.position?_withRows (Grid.length_eq_of_shape (Grid.shape_setCell _ _ _ _)) b

theorem Enters.length (enters : Enters e row col t e') :
    e'.workbook.sheets.length = e.workbook.sheets.length := by
  rw [enters.workbook]
  exact List.length_set

theorem write_error {err : WorkbookError} (missing : e.sheet.position a = .error err) (t : Text) :
    e.write a t = .error err := by
  rw [write, missing]
  rfl

theorem write_enters (place : e.sheet.position a = .ok (row, col)) (t : Text) :
    ∃ e', e.write a t = .ok e' ∧ Enters e row col t e' := by
  refine ⟨e.putRows (e.sheet.rows.setCell row col (Cell.ofText t)), ?_, rfl, rfl, rfl⟩
  rw [write, place]
  rfl

theorem AtWork.commit_eq (work : AtWork e) (a : Address) (t : Text) :
    e.commit a t = (e.write a t.trim).map fun e => { e with editing := none } := by
  have accepted : (e.kinds a).refusal? t.trim = none := by
    rw [work.kinds, CellKind.refusal?]
    split <;> rfl
  rw [commit, accepted]
  cases e.write a t.trim <;> rfl

theorem AtWork.commit_error (work : AtWork e) {err : WorkbookError}
    (missing : e.sheet.position a = .error err) (t : Text) : e.commit a t = .error err := by
  rw [work.commit_eq, write_error missing]
  rfl

theorem AtWork.commit_enters (work : AtWork e) (place : e.sheet.position a = .ok (row, col))
    (t : Text) : ∃ e', e.commit a t = .ok e' ∧ Enters e row col t.trim e' := by
  obtain ⟨e', written, enters⟩ := write_enters place t.trim
  refine ⟨{ e' with editing := none }, ?_, enters.kinds, enters.workbook, enters.store⟩
  rw [work.commit_eq, written]
  rfl

/-- A cell is set, and the workbook is found again as it is then. -/
theorem workbook_reopened (c : Config) {store : Store} (text : ∀ w, store.stored ≠ .kept w)
    (roomy : (start c store).Roomy)
    (numbers : (start c store).workbook.All Cell.NumberReadsBack)
    (committed : (start c store).commit a t = .ok e') (few : e'.Roomy) :
    (start c ⟨.file, .written e'.workbook.print, true, true, 0⟩).workbook = e'.workbook ∧
      e'.workbook.All Cell.NumberReadsBack := by
  have after : (start c store).run [.commit a t] = e' := by
    have performed : (start c store).run [.commit a t] =
        ((start c store).ifAccepted ((start c store).commit a t)).2 := rfl
    rw [performed, committed]
    rfl
  have clipboard : (start c store).clipboard = none := by
    obtain ⟨w, nextId, started⟩ := exists_start c store
    rw [started]
    rfl
  have all : All Cell.NumberReadsBack (start c store) :=
    ⟨numbers, fun b some => by rw [clipboard] at some; cases some⟩
  have later := (all.commit Cell.entered_numberReadsBack committed).workbook
  have room : ∀ taken, taken <+: [.commit a t] → ((start c store).run taken).Roomy := by
    intro taken start
    rcases List.prefix_cons_iff.mp start with rfl | ⟨rest, rfl, none⟩
    · exact roomy
    · rw [List.prefix_nil.mp none, after]
      exact few
  have storable : e'.workbook.Storable := by
    rw [← after]
    refine storable_run c text (fun w opened => ?_) room (by rw [after]; exact later)
    simp at opened
  have below : IdsBelow e' := after ▸ idsBelow_run c store [.commit a t] room
  have valid : e'.Valid := after ▸ valid_run c store [.commit a t]
  exact ⟨(reopened valid below storable rfl rfl c).2, later⟩

end Entering

end Editor

namespace CommandLine

open Editor

/-- Without printing the sheet a run sets cells and then evaluates at most one formula. -/
theorem Progress.work_asking {o : Options} (quiet : o.print = false) (p : Progress)
    (sets : List (Address × Text)) (command : Option Text) :
    p.work (o.asking sets command) =
      match p.setCells sets, command with
      | (q, some err), _ => (q, .error err)
      | (q, none), some t => q.command t
      | (q, none), none => (q, .ok true) := by
  simp only [work, Options.asking, quiet, Bool.false_eq_true, if_false]
  cases p.setCells sets with
  | mk q failure =>
    cases failure with
    | some err => rfl
    | none =>
      cases command with
      | none => rfl
      | some t =>
        dsimp only
        cases q.command t with
        | mk q result => cases result <;> rfl

/-- Two editors are at work on the same workbook, and their files will be the same. -/
structure Twins (files files' : Files) (located : List Text) (e e' : Editor) : Prop where
  left : AtWork e
  right : AtWork e'
  workbook : e'.workbook = e.workbook
  files : filesAfter files' located e'.store = filesAfter files located e.store

/-- Two attempts fail for the same reason or both succeed. -/
inductive Attempts (R : Editor → Editor → Prop) :
    Except WorkbookError Editor → Except WorkbookError Editor → Prop
  | ok {e e' : Editor} (h : R e e') : Attempts R (.ok e) (.ok e')
  | error (err : WorkbookError) : Attempts R (.error err) (.error err)

/-- Two runs are as far as each other. -/
structure Together (files files' : Files) (located : List Text) (p p' : Progress) : Prop where
  editor : Twins files files' located p.editor p'.editor
  output : p'.output = p.output

section Together

variable {files files' : Files} {located : List Text}

namespace Twins

variable {e e' : Editor}

theorem sheet (twins : Twins files files' located e e') : e'.sheet = e.sheet :=
  congrArg Workbook.sheet twins.workbook

theorem value (twins : Twins files files' located e e') (a : Address) : e'.value a = e.value a := by
  rw [Editor.value, Editor.value, twins.sheet]

theorem formulaValue (twins : Twins files files' located e e') (t : Text) :
    e'.formulaValue t = e.formulaValue t := by
  rw [Editor.formulaValue, Editor.formulaValue, twins.sheet]

variable (rewritten : ∀ t, files'.write located t = files.write located t)
include rewritten

theorem enters (twins : Twins files files' located e e') {row col : Nat} {t : Text}
    {after after' : Editor} (h : Enters e row col t after) (h' : Enters e' row col t after') :
    Twins files files' located after after' := by
  have workbook : after'.workbook = after.workbook := by
    rw [h'.workbook, h.workbook, twins.sheet, twins.workbook]
  refine ⟨h.atWork twins.left, h'.atWork twins.right, workbook, ?_⟩
  rw [h'.store, h.store, filesAfter_save twins.right.file twins.right.writable,
    filesAfter_save twins.left.file twins.left.writable, workbook, rewritten]

/-- A text is entered alike where entering it asks for nothing but that the cell is there. -/
theorem attempt (twins : Twins files files' located e e') {a : Address} {t : Text}
    {enter : Editor → Except WorkbookError Editor}
    (missing : ∀ {e : Editor} {err : WorkbookError}, AtWork e → e.sheet.position a = .error err →
      enter e = .error err)
    (there : ∀ {e : Editor} {row col : Nat}, AtWork e → e.sheet.position a = .ok (row, col) →
      ∃ after, enter e = .ok after ∧ Enters e row col t after) :
    Attempts (Twins files files' located) (enter e) (enter e') := by
  cases place : e.sheet.position a with
  | error err =>
    rw [missing twins.left place, missing twins.right (twins.sheet ▸ place)]
    exact .error err
  | ok found =>
    obtain ⟨after, entered, h⟩ := there twins.left place
    obtain ⟨after', entered', h'⟩ := there twins.right (twins.sheet.symm ▸ place)
    rw [entered, entered']
    exact .ok (twins.enters rewritten h h')

theorem write (twins : Twins files files' located e e') (a : Address) (t : Text) :
    Attempts (Twins files files' located) (e.write a t) (e'.write a t) :=
  twins.attempt rewritten (fun _ place => write_error place t)
    fun _ place => write_enters place t

theorem commit (twins : Twins files files' located e e') (a : Address) (t : Text) :
    Attempts (Twins files files' located) (e.commit a t) (e'.commit a t) :=
  twins.attempt rewritten (fun work place => work.commit_error place t)
    fun work place => work.commit_enters place t

end Twins

namespace Together

variable {p p' : Progress} (rewritten : ∀ t, files'.write located t = files.write located t)

theorem report (together : Together files files' located p p') (events events' : List Event) :
    Together files files' located (p.report events) (p'.report events') :=
  ⟨together.editor, together.output⟩

theorem answer (together : Together files files' located p p') (v : Value) :
    Together files files' located (p.answer v).1 (p'.answer v).1 ∧
      (p'.answer v).2 = (p.answer v).2 :=
  ⟨⟨together.editor, congrArg (· ++ [v.display]) together.output⟩, rfl⟩

include rewritten

theorem setCells (together : Together files files' located p p') (xs : List (Address × Text)) :
    Together files files' located (p.setCells xs).1 (p'.setCells xs).1 ∧
      (p'.setCells xs).2 = (p.setCells xs).2 := by
  induction xs generalizing p p' with
  | nil => exact ⟨together, rfl⟩
  | cons x rest ih =>
    obtain ⟨a, t⟩ := x
    have both := together.editor.commit rewritten a t
    simp only [Progress.setCells]
    generalize p.editor.commit a t = attempt at both ⊢
    generalize p'.editor.commit a t = attempt' at both ⊢
    cases both with
    | ok twins => exact ih ⟨twins, together.output⟩
    | error err => exact ⟨together.report _ _, rfl⟩

theorem command (together : Together files files' located p p') (t : Text) :
    Together files files' located (p.command t).1 (p'.command t).1 ∧
      (p'.command t).2 = (p.command t).2 := by
  simp only [Progress.command]
  split
  · rw [together.editor.formulaValue]
    exact (together.report _ _).answer _
  · rename_i a _
    have both := together.editor.write rewritten a (Formula.Entry.parse t.trim).formula
    generalize p.editor.write a (Formula.Entry.parse t.trim).formula = attempt at both ⊢
    generalize p'.editor.write a (Formula.Entry.parse t.trim).formula = attempt' at both ⊢
    cases both with
    | ok twins =>
      simp only [Progress.afterWrite, Progress.report]
      rw [twins.value]
      exact ⟨⟨twins, congrArg (· ++ [_]) together.output⟩, rfl⟩
    | error err => exact ⟨together.report _ _, rfl⟩

theorem work (together : Together files files' located p p') {o : Options}
    (quiet : o.print = false) (sets : List (Address × Text)) (command : Option Text) :
    Together files files' located (p.work (o.asking sets command)).1
        (p'.work (o.asking sets command)).1 ∧
      (p'.work (o.asking sets command)).2 = (p.work (o.asking sets command)).2 := by
  have both := together.setCells rewritten sets
  rw [Progress.work_asking quiet, Progress.work_asking quiet]
  generalize p.setCells sets = r at both ⊢
  generalize p'.setCells sets = r' at both ⊢
  obtain ⟨q, err⟩ := r
  obtain ⟨q', err'⟩ := r'
  obtain ⟨set, same⟩ := both
  change err' = err at same
  subst same
  cases err' with
  | some err => exact ⟨set, rfl⟩
  | none =>
    cases command with
    | none => exact ⟨set, rfl⟩
    | some t => exact set.command rewritten t

end Together

end Together

/-- What a run leaves, but for its messages. -/
structure Outcome.SameResult (o o' : Outcome) : Prop where
  code : o'.code = o.code
  output : o'.output = o.output
  files : o'.files = o.files

theorem Outcome.SameResult.refl (o : Outcome) : o.SameResult o :=
  ⟨rfl, rfl, rfl⟩

theorem Outcome.SameResult.trans {o o' o'' : Outcome} (h : o.SameResult o')
    (h' : o'.SameResult o'') : o.SameResult o'' :=
  ⟨h'.code.trans h.code, h'.output.trans h.output, h'.files.trans h.files⟩

/-- Runs that each find the files as the one before it leaves them, up to the first that fails. -/
def runEach (place : Place) (files : Files) : List (List Text) → List Outcome
  | [] => []
  | arguments :: rest =>
    let outcome := run place files arguments
    outcome :: if outcome.code = 0 then runEach place outcome.files rest else []

/-- The arguments of a run for each cell that is set and one for the formula. -/
def invocations (common sets : List Text) (command : Option Text) : List (List Text) :=
  sets.map (fun t => arguments common [t] none) ++
    command.toList.map fun t => arguments common [] (some t)

/-- The editor that a run on the workbook at a path starts with. -/
def editorAt (place : Place) (files : Files) (path : Text) (settings : Settings) : Editor :=
  Editor.start settings.sheet (storeAt place files path)

/-- A workbook can be worked on with the options: they and the settings name its file, which is
neither the settings file nor below it and can be written; there are fewer sheets than ids, and the
numbers on them are read back from their literals. -/
structure Workable (place : Place) (base : Options) (settings : Settings) (path : Text)
    (files : Files) : Prop where
  bare : base.IsBare
  load : Settings.load place files base.config = .ok settings
  named : workbookPath? place settings base = some path
  apart : ∀ c, Settings.path? place base.config = some c →
    (place.locate c).isPrefixOf (place.locate path) = false
  writable : (storeAt place files path).writable = true
  roomy : (editorAt place files path settings).Roomy
  numbers : (editorAt place files path settings).workbook.All Cell.NumberReadsBack

/-- Where a run begins. -/
def starting (place : Place) (files : Files) (path : Text) (settings : Settings) : Progress :=
  ⟨editorAt place files path settings, [],
    .usingWorkbook path :: loadEvents (storeAt place files path)⟩

/-- The files after cells have been set. -/
def filesWith (place : Place) (files : Files) (path : Text) (e : Editor) : Files :=
  files.write (place.locate path) e.workbook.print

section Runs

variable {place : Place} {files : Files} {path : Text} {settings : Settings} {base : Options}
  {command : Option Text}

theorem runOn_result (place : Place) (files : Files) (path : Text) (settings : Settings)
    (level : Level) (o : Options) :
    let done := (starting place files path settings).work o
    (runOn place files path settings level o).code = exitCode done.2 ∧
      (runOn place files path settings level o).output = done.1.output ∧
      (runOn place files path settings level o).files =
        filesAfter files (place.locate path) done.1.editor.store :=
  ⟨rfl, rfl, rfl⟩

namespace Workable

variable (workable : Workable place base settings path files)
include workable

theorem atWork : AtWork (editorAt place files path settings) :=
  atWork_start settings.sheet rfl workable.writable

/-- Once a cell has been set the next run goes on with the same workbook. -/
theorem next {a : Address} {row col : Nat} {t : Text} {e : Editor}
    (committed : (editorAt place files path settings).commit a t = .ok e)
    (enters : Enters (editorAt place files path settings) row col t.trim e) :
    Workable place base settings path (filesWith place files path e) ∧
      Twins files (filesWith place files path e) (place.locate path) e
        (editorAt place (filesWith place files path e) path settings) := by
  have work := workable.atWork
  have few : e.Roomy := by
    rw [Editor.Roomy, enters.length]
    exact workable.roomy
  obtain ⟨workbook, numbers⟩ := workbook_reopened settings.sheet (stored_ne_kept place files path)
    workable.roomy workable.numbers committed few
  have store : storeAt place (filesWith place files path e) path =
      ⟨.file, .written e.workbook.print, true, true, 0⟩ := storeAt_write workable.writable _
  have again : (editorAt place (filesWith place files path e) path settings).workbook =
      e.workbook := by
    rw [editorAt, store]
    exact workbook
  have following : Workable place base settings path (filesWith place files path e) := by
    refine { workable with load := ?_, writable := ?_, roomy := ?_, numbers := ?_ }
    · rw [filesWith, Settings.load_write workable.apart]
      exact workable.load
    · rw [store]
    · rw [Editor.Roomy, again]
      exact few
    · rw [again]
      exact numbers
  have unsaved : filesAfter (filesWith place files path e) (place.locate path)
      (editorAt place (filesWith place files path e) path settings).store =
        filesWith place files path e := by
    rw [editorAt, start_store]
    exact filesAfter_of_saves rfl _
  refine ⟨following, enters.atWork work, following.atWork, again, ?_⟩
  rw [unsaved, enters.store, filesAfter_save work.file work.writable]
  rfl

/-- If the first cell cannot be set, nothing else happens. -/
theorem runOn_missing {a : Address} {err : WorkbookError}
    (missing : (editorAt place files path settings).sheet.position a = .error err) (t : Text)
    (rest : List (Address × Text)) (command : Option Text) (level : Level) :
    let outcome := runOn place files path settings level (base.asking ((a, t) :: rest) command)
    outcome.code = 1 ∧ outcome.output = [] ∧ outcome.files = files := by
  intro outcome
  obtain ⟨code, output, after⟩ :=
    runOn_result place files path settings level (base.asking ((a, t) :: rest) command)
  have failed := workable.atWork.commit_error missing t
  have stops : (starting place files path settings).work (base.asking ((a, t) :: rest) command) =
      ((starting place files path settings).report [.cannotWrite a err],
        .error (.cannotSet a err)) := by
    rw [Progress.work_asking workable.bare.quiet.2.1]
    simp only [Progress.setCells, starting, failed, Progress.afterWrite]
  rw [stops] at code output after
  refine ⟨code, output, after.trans ?_⟩
  change filesAfter files _ (editorAt place files path settings).store = files
  rw [editorAt, start_store]
  exact filesAfter_of_saves rfl _

/-- Setting one more cell first comes to setting it in a run before. -/
theorem runOn_set {a : Address} {row col : Nat}
    (found : (editorAt place files path settings).sheet.position a = .ok (row, col)) (t : Text)
    (rest : List (Address × Text)) (command : Option Text) (level : Level) :
    let first := runOn place files path settings level (base.asking [(a, t)] none)
    first.code = 0 ∧ Workable place base settings path first.files ∧
      (runOn place files path settings level (base.asking ((a, t) :: rest) command)).SameResult
        (runOn place first.files path settings level (base.asking rest command)) := by
  intro first
  have quiet := workable.bare.quiet.2.1
  obtain ⟨e, committed, enters⟩ := workable.atWork.commit_enters found t
  obtain ⟨following, twins⟩ := workable.next committed enters
  let later : Progress := { starting place files path settings with editor := e }.report
    (saveEvents e.store)
  have work : ∀ xs command, (starting place files path settings).work
      (base.asking ((a, t) :: xs) command) = later.work (base.asking xs command) := by
    intro xs command
    have set : (starting place files path settings).setCells ((a, t) :: xs) =
        later.setCells xs := by
      simp only [Progress.setCells, starting, committed, Progress.afterWrite]
      rfl
    rw [Progress.work_asking quiet, set, Progress.work_asking quiet]
  obtain ⟨code, -, after⟩ :=
    runOn_result place files path settings level (base.asking [(a, t)] none)
  rw [work, Progress.work_asking quiet] at code after
  have written : first.files = filesWith place files path e := by
    refine after.trans ?_
    change filesAfter files _ e.store = _
    rw [enters.store, filesAfter_save workable.atWork.file workable.atWork.writable]
    rfl
  rw [written]
  refine ⟨code, following, ?_⟩
  have together : Together files (filesWith place files path e) (place.locate path) later
      (starting place (filesWith place files path e) path settings) := ⟨twins, rfl⟩
  have rewritten : ∀ u, (filesWith place files path e).write (place.locate path) u =
      files.write (place.locate path) u := Files.write_write _ _ _
  obtain ⟨done, result⟩ := together.work rewritten quiet rest command
  obtain ⟨code, output, after⟩ :=
    runOn_result place files path settings level (base.asking ((a, t) :: rest) command)
  obtain ⟨code', output', after'⟩ := runOn_result place (filesWith place files path e) path
    settings level (base.asking rest command)
  rw [work] at code output after
  refine ⟨?_, ?_, ?_⟩
  · rw [code', code, result]
  · rw [output', output, done.output]
  · rw [after', after, done.editor.files]

variable {common sets : List Text} {assignments : List (Address × Text)}

variable (command) in
/-- With something to do, the arguments stand for a run on the workbook. -/
theorem run_eq_runOn (parsed : Options.parse common = .ok base)
    (wellFormed : sets.mapM assignment = .ok assignments)
    (some_task : assignments ≠ [] ∨ command ≠ none) :
    run place files (arguments common sets command) = runOn place files path settings
      (Level.chosen base.verbosity settings.logLevel) (base.asking assignments command) := by
  obtain ⟨help, print, functions⟩ := workable.bare.quiet
  have busy : (base.asking assignments command).isIdle = false := by
    rcases some_task with set | evaluate
    · cases assignments with
      | nil => exact absurd rfl set
      | cons x xs => simp [Options.isIdle, Options.asking]
    · cases command with
      | none => exact absurd rfl evaluate
      | some t => simp [Options.isIdle, Options.asking]
  have asks : (base.asking assignments command).help = false ∧
      (base.asking assignments command).functions = false := ⟨help, functions⟩
  have loads : Settings.load place files (base.asking assignments command).config = .ok settings :=
    workable.load
  have finds : workbookPath? place settings (base.asking assignments command) = some path :=
    workable.named
  rw [run, Options.parse_arguments parsed workable.bare wellFormed]
  simp only [asks, Bool.false_eq_true, if_false, runWith, loads, busy, finds]
  rfl

end Workable

theorem getLast?_runEach_of_failed {first : List Text} (failed : (run place files first).code ≠ 0)
    (rest : List (List Text)) :
    (runEach place files (first :: rest)).getLast? = some (run place files first) := by
  rw [runEach, if_neg failed]
  rfl

theorem getLast?_runEach_of_done {first : List Text} (done : (run place files first).code = 0)
    {rest : List (List Text)} {last : Outcome}
    (ends : (runEach place (run place files first).files rest).getLast? = some last) :
    (runEach place files (first :: rest)).getLast? = some last := by
  rw [runEach, if_pos done, List.getLast?_cons, ends]
  rfl

/-- The last of the runs that have one task each ends as the run that has them all. -/
theorem runEach_getLast {common sets : List Text} {assignments : List (Address × Text)}
    (parsed : Options.parse common = .ok base)
    (workable : Workable place base settings path files)
    (wellFormed : sets.mapM assignment = .ok assignments)
    (some_task : sets ≠ [] ∨ command ≠ none) :
    ∃ last, (runEach place files (invocations common sets command)).getLast? = some last ∧
      (run place files (arguments common sets command)).SameResult last := by
  induction sets generalizing assignments files with
  | nil =>
    cases command with
    | none => simp at some_task
    | some t =>
      refine ⟨run place files (arguments common [] (some t)), ?_, .refl _⟩
      simp [invocations, runEach]
  | cons v rest ih =>
    obtain ⟨⟨a, t⟩, xs, one, later, rfl⟩ := Options.mapM_cons_eq_ok wellFormed
    have single : [v].mapM assignment = .ok [(a, t)] := by
      rw [List.mapM_cons, one]
      rfl
    have whole := workable.run_eq_runOn command parsed wellFormed (.inl (by simp))
    have first := workable.run_eq_runOn none parsed single (.inl (by simp))
    have runs : invocations common (v :: rest) command =
        arguments common [v] none :: invocations common rest command := rfl
    rw [runs]
    cases found : (editorAt place files path settings).sheet.position a with
    | error err =>
      obtain ⟨code, output, after⟩ := workable.runOn_missing found t xs command
        (Level.chosen base.verbosity settings.logLevel)
      obtain ⟨code', output', after'⟩ := workable.runOn_missing found t [] none
        (Level.chosen base.verbosity settings.logLevel)
      rw [← whole] at code output after
      rw [← first] at code' output' after'
      refine ⟨_, getLast?_runEach_of_failed (by rw [code']; decide) _, ?_, ?_, ?_⟩
      · rw [code', code]
      · rw [output', output]
      · rw [after', after]
    | ok position =>
      obtain ⟨row, col⟩ := position
      obtain ⟨code, following, same⟩ := workable.runOn_set found t xs command
        (Level.chosen base.verbosity settings.logLevel)
      rw [← first] at code following same
      rw [← whole] at same
      by_cases more : rest ≠ [] ∨ command ≠ none
      · have tasks : xs ≠ [] ∨ command ≠ none := more.imp_left (Options.ne_nil_of_mapM later)
        obtain ⟨last, ends, result⟩ := ih following later more
        rw [← following.run_eq_runOn command parsed later tasks] at same
        exact ⟨last, getLast?_runEach_of_done code ends, same.trans result⟩
      · simp only [not_or, Decidable.not_not] at more
        obtain ⟨rfl, rfl⟩ := more
        refine ⟨run place files (arguments common [v] none), ?_, .refl _⟩
        simp [invocations, runEach]

end Runs

/-! ## When a run fails -/

/-- Cells that are set one after another, as actions. -/
def commits (assignments : List (Address × Text)) : List Action :=
  assignments.map fun x => .commit x.1 x.2

/-- A formula is meant for a cell that is not there, or it has no value. -/
def CommandFails (e : Editor) (t : Text) : Prop :=
  let entry := Formula.Entry.parse t.trim
  match entry.target with
  | none => (e.formulaValue entry.formula).isError = true
  | some a => e.sheet.position? a = none ∨ ((e.run [.write a entry.formula]).value a).isError = true

section Failing

variable {p : Progress}

theorem exitCode_cases (result : Except RunError Bool) :
    exitCode result = 0 ∨ exitCode result = 1 := by
  rcases result with err | ok
  · exact .inr rfl
  · cases ok
    · exact .inr rfl
    · exact .inl rfl

theorem exitCode_answer (p : Progress) (v : Value) :
    exitCode (p.answer v).2 = 1 ↔ v.isError = true := by
  cases failed : v.isError <;> simp [Progress.answer, exitCode, failed]

theorem position?_eq_none_iff {s : Sheet} {a : Address} :
    s.position? a = none ↔ ∃ err, s.position a = .error err := by
  cases found : s.position a with
  | error err => simp [Sheet.position?, found, Except.toOption]
  | ok place => simp [Sheet.position?, found, Except.toOption]

/-- Cells that are there are all set. -/
theorem setCells_eq_commits (work : AtWork p.editor) {xs : List (Address × Text)}
    (there : ∀ x ∈ xs, p.editor.sheet.position? x.1 ≠ none) :
    (p.setCells xs).2 = none ∧ (p.setCells xs).1.editor = p.editor.run (commits xs) := by
  induction xs generalizing p with
  | nil => exact ⟨rfl, rfl⟩
  | cons x rest ih =>
    obtain ⟨a, t⟩ := x
    cases found : p.editor.sheet.position a with
    | error err =>
      exact absurd (position?_eq_none_iff.mpr ⟨err, found⟩) (there (a, t) List.mem_cons_self)
    | ok place =>
      obtain ⟨e, committed, enters⟩ := work.commit_enters found t
      have performed : p.editor.run (commits ((a, t) :: rest)) =
          ((p.editor.ifAccepted (p.editor.commit a t)).2).run (commits rest) := rfl
      rw [performed, committed]
      simp only [Progress.setCells, committed, Progress.afterWrite]
      refine ih (p := { p with editor := e }.report (saveEvents e.store)) (enters.atWork work)
        fun x hx => ?_
      change e.sheet.position? x.1 ≠ none
      rw [enters.position? work.sound]
      exact there x (List.mem_cons_of_mem _ hx)

theorem setCells_missing (work : AtWork p.editor) {xs : List (Address × Text)}
    (missing : ∃ x ∈ xs, p.editor.sheet.position? x.1 = none) : (p.setCells xs).2 ≠ none := by
  induction xs generalizing p with
  | nil => simp at missing
  | cons x rest ih =>
    obtain ⟨a, t⟩ := x
    cases found : p.editor.sheet.position a with
    | error err =>
      simp [Progress.setCells, work.commit_error found, Progress.afterWrite]
    | ok place =>
      obtain ⟨e, committed, enters⟩ := work.commit_enters found t
      obtain ⟨y, hy, none⟩ := missing
      have later : y ∈ rest := by
        rcases List.mem_cons.mp hy with rfl | later
        · simp [Sheet.position?, found, Except.toOption] at none
        · exact later
      simp only [Progress.setCells, committed, Progress.afterWrite]
      refine ih (p := { p with editor := e }.report (saveEvents e.store)) (enters.atWork work)
        ⟨y, later, ?_⟩
      exact (enters.position? work.sound y.1).trans none

theorem exitCode_command (p : Progress) (t : Text) :
    exitCode (p.command t).2 = 1 ↔ CommandFails p.editor t := by
  simp only [Progress.command, CommandFails]
  generalize Formula.Entry.parse t.trim = entry
  cases entry.target with
  | none => exact exitCode_answer _ _
  | some a =>
    dsimp only
    rw [position?_eq_none_iff]
    cases found : p.editor.sheet.position a with
    | error err => simp [write_error found, Progress.afterWrite, exitCode]
    | ok place =>
      obtain ⟨e, written, -⟩ := write_enters found entry.formula
      have performed : p.editor.run [.write a entry.formula] =
          (p.editor.ifAccepted (p.editor.write a entry.formula)).2 := rfl
      rw [performed, written]
      simp only [Progress.afterWrite, reduceCtorEq, exists_false, false_or]
      exact exitCode_answer _ _

theorem exitCode_work (work : AtWork p.editor) {o : Options} (quiet : o.print = false)
    (xs : List (Address × Text)) (command : Option Text) :
    exitCode (p.work (o.asking xs command)).2 = 1 ↔
      (∃ x ∈ xs, p.editor.sheet.position? x.1 = none) ∨
        ∃ t, command = some t ∧ CommandFails (p.editor.run (commits xs)) t := by
  rw [Progress.work_asking quiet]
  by_cases missing : ∃ x ∈ xs, p.editor.sheet.position? x.1 = none
  · have stops := setCells_missing work missing
    generalize p.setCells xs = r at stops ⊢
    obtain ⟨q, failure⟩ := r
    cases failure with
    | none => exact absurd rfl stops
    | some err => simp [missing, exitCode]
  · have there : ∀ x ∈ xs, p.editor.sheet.position? x.1 ≠ none :=
      fun x hx none => missing ⟨x, hx, none⟩
    obtain ⟨done, editor⟩ := setCells_eq_commits work there
    rw [← editor]
    generalize p.setCells xs = r at done ⊢
    obtain ⟨q, failure⟩ := r
    change failure = none at done
    subst done
    rw [or_iff_right missing]
    cases command with
    | none => simp [exitCode]
    | some t => simpa using exitCode_command q t

end Failing

/-- Let a run set any number of cells and then evaluate at most one formula, with something to do,
whatever the workbook's file holds. In runs of their own, one for each cell and one for the formula,
up to the first that fails, the tasks come to the same: the last of these runs leaves the same
files, prints the same, and ends with the same code. The code is one if a cell that is to be set, or
that the formula is meant for, is not there, or if the formula has no value, and zero otherwise. -/
theorem run_eq_runEach (place : Place) {files : Files} {path : Text} {settings : Settings}
    {base : Options} {common sets : List Text} {command : Option Text}
    {assignments : List (Address × Text)} (parsed : Options.parse common = .ok base)
    (workable : Workable place base settings path files)
    (wellFormed : sets.mapM assignment = .ok assignments)
    (some_task : sets ≠ [] ∨ command ≠ none) :
    let e := editorAt place files path settings
    let whole := run place files (arguments common sets command)
    (∃ last, (runEach place files (invocations common sets command)).getLast? = some last ∧
      whole.SameResult last) ∧
    (whole.code = 0 ∨ whole.code = 1) ∧
    (whole.code = 1 ↔ (∃ x ∈ assignments, e.sheet.position? x.1 = none) ∨
      ∃ t, command = some t ∧ CommandFails (e.run (commits assignments)) t) := by
  intro e whole
  have tasks : assignments ≠ [] ∨ command ≠ none :=
    some_task.imp_left (Options.ne_nil_of_mapM wellFormed)
  have runs := workable.run_eq_runOn command parsed wellFormed tasks
  have code := (runOn_result place files path settings
    (Level.chosen base.verbosity settings.logLevel) (base.asking assignments command)).1
  rw [← runs] at code
  refine ⟨runEach_getLast parsed workable wellFormed some_task, ?_, ?_⟩
  · rw [code]
    exact exitCode_cases _
  · rw [code]
    exact exitCode_work workable.atWork workable.bare.quiet.2.1 assignments command

/-- A user's folder with settings for small sheets and a file that holds no workbook. -/
def home : Place :=
  ⟨["home".toList], none, none⟩

def brokenBook : Files :=
  [(["home".toList, "small.toml".toList],
      "[sheet]\nmax_rows = 2\ncolumns = 2\ninitial_sheets = 1\n".toList),
    (["home".toList, "book.json".toList], "\x7b\x7d".toList)]

def smallBook : List Text :=
  ["--store".toList, "book.json".toList, "--config".toList, "small.toml".toList]

theorem workable_brokenBook :
    Workable home { store := some "book.json".toList, config := some "small.toml".toList }
      ⟨none, none, ⟨2, 2, 1, 300⟩⟩ "book.json".toList brokenBook where
  bare := rfl
  load := by decide +kernel
  named := rfl
  apart := by
    intro c found
    cases found
    decide
  writable := by decide +kernel
  roomy := by
    rw [Editor.Roomy]
    decide +kernel
  numbers := by
    -- No workbook is read from the file, so only the workbook a start makes is left.
    refine (all_start Cell.entered_numberReadsBack _ fun w found => ?_).workbook
    have none : (Editor.stored (storeAt home brokenBook "book.json".toList)).toOption = none := by
      decide +kernel
    rw [found] at none
    cases none

theorem brokenBook_runs :
    let whole := run home brokenBook
      (arguments smallBook ["A1= 4".toList] (some "B1==NOPE(A1)".toList))
    (∃ last, (runEach home brokenBook (invocations smallBook ["A1= 4".toList]
        (some "B1==NOPE(A1)".toList))).getLast? = some last ∧ whole.SameResult last) ∧
      whole.code = 1 := by
  have parsed : Options.parse smallBook =
      .ok { store := some "book.json".toList, config := some "small.toml".toList } := by
    decide +kernel
  have wellFormed : ["A1= 4".toList].mapM assignment = .ok [(⟨0, ['A']⟩, " 4".toList)] := by
    decide +kernel
  have some_task : ["A1= 4".toList] ≠ [] ∨ some "B1==NOPE(A1)".toList ≠ none := by decide
  have runs := run_eq_runEach home parsed workable_brokenBook wellFormed some_task
  have fails : CommandFails ((editorAt home brokenBook "book.json".toList ⟨none, none,
      ⟨2, 2, 1, 300⟩⟩).run (commits [(⟨0, ['A']⟩, " 4".toList)])) "B1==NOPE(A1)".toList :=
    .inr (by decide +kernel)
  exact ⟨runs.1, runs.2.2.mpr (.inr ⟨_, rfl, fails⟩)⟩

end CommandLine

end Spreadsheet
