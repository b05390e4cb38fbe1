import Spreadsheet.CommandLine.Run

/-!
# The file of a workbook

A run reads the files at two places, the settings and the workbook, and writes at the second. What
was written there is read there and replaces what was written before, it can be written again, and
the settings are the same afterwards, unless they come from the workbook's own file or from one of
the folders above it.
-/

namespace Spreadsheet.CommandLine

namespace Files

variable {files : Files} {path other : List Text}

theorem read?_write (files : Files) (path : List Text) (t : Text) :
    (files.write path t).read? path = some t :=
  List.lookup_cons_self

/-- Leaving out one path does not matter to the others. -/
theorem read?_filter (h : other ≠ path) :
    Files.read? (files.filter fun f => f.1 != path) other = files.read? other := by
  induction files with
  | nil => rfl
  | cons f rest ih =>
    obtain ⟨p, t⟩ := f
    by_cases here : p = path
    · subst here
      rw [List.filter_cons_of_neg (by simp), ih, read?, read?, List.lookup_cons]
      rw [beq_eq_false_iff_ne.mpr h]
    · rw [List.filter_cons_of_pos (by simpa using here)]
      simp only [read?, List.lookup_cons] at ih ⊢
      rw [ih]

theorem read?_write_of_ne (h : other ≠ path) (t : Text) :
    (files.write path t).read? other = files.read? other := by
  rw [write, read?, List.lookup_cons, beq_eq_false_iff_ne.mpr h]
  exact read?_filter h

/-- Only what is written last stays. -/
theorem write_write (files : Files) (path : List Text) (t u : Text) :
    (files.write path t).write path u = files.write path u := by
  simp [write]

/-- What holds of some file still does after a write, unless it is about the path itself, and only
that is new. -/
theorem any_write {q : List Text × Text → Bool} {t : Text} (here : ∀ u, q (path, u) = false) :
    (files.write path t).any q = files.any q := by
  rw [write, List.any_cons, here, Bool.false_or, List.any_filter]
  congr 1
  funext f
  by_cases same : f.1 = path
  · obtain ⟨p, u⟩ := f
    cases same
    rw [here u, Bool.and_false]
  · simp [same]

theorem isFolder_write (files : Files) (path : List Text) (t : Text) :
    (files.write path t).isFolder path = files.isFolder path :=
  any_write fun u => by simp

theorem isFolder_write_of_not_prefix (h : other.isPrefixOf path = false) (t : Text) :
    (files.write path t).isFolder other = files.isFolder other :=
  any_write fun u => by simp [h]

theorem canWrite_write (files : Files) (path : List Text) (t : Text) :
    (files.write path t).canWrite path = files.canWrite path := by
  have above : (files.write path t).any (fun f => f.1.isPrefixOf path && f.1 != path) =
      files.any fun f => f.1.isPrefixOf path && f.1 != path :=
    any_write fun u => by simp
  rw [canWrite, isFolder_write, above, canWrite]

end Files

/-- The settings do not depend on what the workbook's file holds. -/
theorem Settings.load_write {place : Place} {files : Files} {asked : Option Text} {path : List Text}
    (apart : ∀ c, Settings.path? place asked = some c → (place.locate c).isPrefixOf path = false)
    (t : Text) :
    Settings.load place (files.write path t) asked = Settings.load place files asked := by
  rw [load, load]
  cases found : Settings.path? place asked with
  | none => rfl
  | some c =>
    have outside := apart c found
    have other : place.locate c ≠ path := by
      intro same
      rw [same, List.isPrefixOf_iff_prefix.mpr List.prefix_rfl] at outside
      cases outside
    simp only [Files.read?_write_of_ne other, Files.isFolder_write_of_not_prefix outside]

section Stores

variable {place : Place} {files : Files} {path : Text}

/-- A file that can be written holds what was written last, and can be read and written again. -/
theorem storeAt_write (writable : (storeAt place files path).writable = true) (t : Text) :
    storeAt place (files.write (place.locate path) t) path =
      ⟨.file, .written t, true, true, 0⟩ := by
  have both : (path ≠ [] ∧ path.getLast? ≠ some '/') ∧
      files.canWrite (place.locate path) = true := by
    simpa [storeAt] using writable
  obtain ⟨named, can⟩ := both
  have file : files.isFolder (place.locate path) = false := by
    simp only [Files.canWrite, Bool.and_eq_true, Bool.not_eq_true'] at can
    exact can.1.2
  simp [storeAt, named, Files.read?_write, Files.isFolder_write, Files.canWrite_write, can, file]

theorem stored_ne_kept (place : Place) (files : Files) (path : Text) (w : Workbook) :
    (storeAt place files path).stored ≠ .kept w := by
  simp only [storeAt]
  split
  · cases files.read? (place.locate path) with
    | none => simp
    | some t => simp
  · simp

/-- A store that has not been written to leaves the files as they are. -/
theorem filesAfter_of_saves {s : Store} (none : s.saves = 0) (located : List Text) :
    filesAfter files located s = files := by
  rw [filesAfter]
  split
  · rw [if_pos none]
  · rfl

theorem filesAfter_save {s : Store} (file : s.medium = .file) (writable : s.writable = true)
    (located : List Text) (w : Workbook) :
    filesAfter files located (s.save w) = files.write located w.print := by
  simp [filesAfter, Store.save, writable, file, Store.put]

end Stores

/-! ## Lists of arguments -/

def setOption : Text := "--set".toList

def commandOption : Text := "-c".toList

/-- Arguments that set cells and evaluate at most one formula, after some others. -/
def arguments (common sets : List Text) (command : Option Text) : List Text :=
  common ++ (sets.flatMap ([setOption, ·]) ++ command.toList.flatMap ([commandOption, ·]))

namespace Options

theorem read_flag {argument : Text} {f : Flag} (flag : Argument.ofText argument = .flag f)
    (o : Options) (rest : List Text) : o.read (argument :: rest) = (o.turnOn f).read rest := by
  rw [read.eq_def]
  simp only [flag]

theorem read_setting {argument value : Text} {s : Setting}
    (setting : Argument.ofText argument = .setting s) {o given : Options}
    (give : o.give value s = .ok given) (rest : List Text) :
    o.read (argument :: value :: rest) = given.read rest := by
  rw [read.eq_def]
  simp only [setting, give]

/-- Arguments that can be read are read before those that follow. -/
theorem read_append {o o' : Options} {first : List Text} (h : o.read first = .ok o')
    (rest : List Text) : o.read (first ++ rest) = o'.read rest := by
  induction o, first using Options.read.induct with
  | case1 o =>
    rw [read] at h
    cases h
    rfl
  | case2 o argument f tail flag ih =>
    rw [read_flag flag] at h
    rw [List.cons_append, read_flag flag]
    exact ih h
  | case4 o argument s value tail setting given give ih =>
    rw [read_setting setting give] at h
    rw [List.cons_append, List.cons_append, read_setting setting give]
    exact ih h
  -- the others cannot be read
  | case3 o argument s setting =>
    rw [read.eq_def] at h
    simp [setting] at h
  | case5 o argument s value tail setting err give =>
    rw [read.eq_def] at h
    simp [setting, give] at h
  | case6 o argument tail unknown =>
    rw [read.eq_def] at h
    simp [unknown] at h
  | case7 o argument tail stray =>
    rw [read.eq_def] at h
    simp [stray] at h

theorem mapM_cons_eq_ok {α β ε : Type} {f : α → Except ε β} {x : α} {xs : List α} {ys : List β}
    (h : (x :: xs).mapM f = .ok ys) :
    ∃ y rest, f x = .ok y ∧ xs.mapM f = .ok rest ∧ ys = y :: rest := by
  rw [List.mapM_cons] at h
  cases first : f x with
  | error err =>
    rw [first] at h
    cases h
  | ok y =>
    cases later : xs.mapM f with
    | error err =>
      rw [first, later] at h
      cases h
    | ok rest =>
      rw [first, later] at h
      cases h
      exact ⟨y, rest, rfl, rfl, rfl⟩

theorem ne_nil_of_mapM {α β ε : Type} {f : α → Except ε β} {xs : List α} {ys : List β}
    (h : xs.mapM f = .ok ys) (some : xs ≠ []) : ys ≠ [] := by
  cases xs with
  | nil => exact absurd rfl some
  | cons x xs =>
    obtain ⟨y, rest, -, -, rfl⟩ := mapM_cons_eq_ok h
    exact List.cons_ne_nil y rest

theorem read_sets {sets : List Text} {assignments : List (Address × Text)}
    (wellFormed : sets.mapM assignment = .ok assignments) (o : Options) :
    o.read (sets.flatMap ([setOption, ·])) = .ok { o with sets := o.sets ++ assignments } := by
  induction sets generalizing o assignments with
  | nil =>
    cases wellFormed
    rw [List.flatMap_nil, read]
    simp
  | cons t rest ih =>
    obtain ⟨x, xs, one, later, rfl⟩ := mapM_cons_eq_ok wellFormed
    have option : Argument.ofText setOption = .setting .set := by decide
    have given : o.give t .set = .ok { o with sets := o.sets ++ [x] } := by
      rw [give, one]
      rfl
    have first : ([setOption, t] : List Text) ++ rest.flatMap ([setOption, ·]) =
        setOption :: t :: rest.flatMap ([setOption, ·]) := rfl
    rw [List.flatMap_cons, first, read_setting option given, ih later, List.append_assoc]
    rfl

theorem read_command (o : Options) (command : Option Text) :
    o.read (command.toList.flatMap ([commandOption, ·])) =
      .ok { o with command := command.or o.command } := by
  cases command with
  | none => rfl
  | some t =>
    have option : Argument.ofText commandOption = .setting .command := by decide
    have given : o.give t .command = .ok { o with command := some t } := rfl
    exact read_setting option given []

/-- Nothing is asked for but a place and messages. -/
def IsBare (o : Options) : Prop :=
  o = { store := o.store, config := o.config, verbosity := o.verbosity }

/-- Options that ask for cells to be set and perhaps for a formula to be evaluated. -/
def asking (o : Options) (sets : List (Address × Text)) (command : Option Text) : Options :=
  { o with sets := sets, command := command }

theorem IsBare.quiet {o : Options} (bare : o.IsBare) :
    o.help = false ∧ o.print = false ∧ o.functions = false := by
  rw [IsBare] at bare
  rw [bare]
  exact ⟨rfl, rfl, rfl⟩

/-- The cells and the formula that arguments ask for. -/
theorem parse_arguments {common sets : List Text} {command : Option Text} {base : Options}
    {assignments : List (Address × Text)} (parsed : parse common = .ok base) (bare : base.IsBare)
    (wellFormed : sets.mapM assignment = .ok assignments) :
    parse (arguments common sets command) = .ok (base.asking assignments command) := by
  rw [parse, arguments, read_append parsed, read_append (read_sets wellFormed base), read_command]
  rw [IsBare] at bare
  rw [asking, bare]
  simp

end Options

end Spreadsheet.CommandLine
