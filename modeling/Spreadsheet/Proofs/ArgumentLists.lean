import Spreadsheet.Formula.Arguments
import Spreadsheet.Proofs.ReferenceText

/-!
# Arguments that are joined

An argument is a literal between double quotes or a text without any in which parentheses balance
and commas stand between them. Parentheses count within literals as well, and a quote closes a
literal only where they balance. So arguments that are joined by commas are split where they were
joined if and only if every literal before the last argument opens as many parentheses as it closes.
-/

namespace Spreadsheet

namespace Text

/-- No visible ASCII character is a blank. -/
theorem not_isBlank_of_visible {c : Char} (visible : 33 ≤ c.toNat ∧ c.toNat ≤ 126) :
    isBlank c = false := by
  simp only [isBlank, Bool.or_eq_false_iff, Bool.and_eq_false_iff, decide_eq_false_iff_not,
    beq_eq_false_iff_ne]
  omega

/-- A text that neither begins nor ends with a blank has none to lose. -/
theorem trim_eq_self {t : Text} (front : Stops isBlank t) (back : Stops isBlank t.reverse) :
    t.trim = t := by
  rw [trim, trimStart, front.dropWhile_eq_self, trimEnd, back.dropWhile_eq_self,
    List.reverse_reverse]

theorem trimEnd_cons {c : Char} (filled : isBlank c = false) (t : Text) :
    trimEnd (c :: t) = c :: trimEnd t := by
  have last : (t.reverse ++ [c]).dropWhile isBlank = t.reverse.dropWhile isBlank ++ [c] :=
    dropWhile_stops t.reverse (.cons filled [])
  rw [trimEnd, List.reverse_cons, last, List.reverse_append, trimEnd]
  rfl

/-- Trimming at the end does not reach the first character that trimming at the start leaves. -/
theorem head?_trim (t : Text) : t.trim.head? = t.trimStart.head? := by
  rw [trim]
  cases left : t.trimStart with
  | nil => rfl
  | cons c rest =>
    have filled : isBlank c = false := stops_dropWhile isBlank t c (congrArg List.head? left)
    rw [trimEnd_cons filled]
    rfl

/-- What is trimmed has no blanks around it. -/
theorem trim_trim (t : Text) : t.trim.trim = t.trim := by
  refine trim_eq_self ?_ ?_
  · intro c first
    rw [head?_trim] at first
    exact stops_dropWhile isBlank t c first
  · rw [trim, trimEnd, List.reverse_reverse]
    exact stops_dropWhile isBlank _

theorem filter_dropWhile (p : Char → Bool) (t : Text) :
    (t.dropWhile p).filter (!p ·) = t.filter (!p ·) := by
  induction t with
  | nil => rfl
  | cons c rest ih =>
    cases hit : p c with
    | true => simpa [hit] using ih
    | false => simp [hit]

/-- Trimming takes away nothing but blanks. -/
theorem filter_trim (t : Text) : t.trim.filter (!isBlank ·) = t.filter (!isBlank ·) := by
  rw [trim, trimEnd, List.filter_reverse, filter_dropWhile, List.filter_reverse,
    List.reverse_reverse, trimStart, filter_dropWhile]

end Text

namespace Arguments

/-- How many more parentheses a text opens than it closes. -/
def nesting (t : Text) : Int :=
  t.count '(' - t.count ')'

/-- Two double quotes and none between them. -/
def IsLiteral (a : Text) : Prop :=
  ∃ t, '"' ∉ t ∧ a = '"' :: (t ++ ['"'])

/-- A text without quotes that separates nowhere. -/
structure IsPlain (a : Text) : Prop where
  filled : a ≠ []
  unquoted : '"' ∉ a
  trimmed : a.trim = a
  balanced : nesting a = 0
  commas : ∀ i < a.length, a[i]? = some ',' → nesting (a.take i) ≠ 0

instance (a : Text) : Decidable (IsPlain a) :=
  decidable_of_iff (a ≠ [] ∧ '"' ∉ a ∧ a.trim = a ∧ nesting a = 0 ∧
      ∀ i < a.length, a[i]? = some ',' → nesting (a.take i) ≠ 0)
    ⟨fun ⟨filled, unquoted, trimmed, balanced, commas⟩ =>
      ⟨filled, unquoted, trimmed, balanced, commas⟩,
      fun plain => ⟨plain.filled, plain.unquoted, plain.trimmed, plain.balanced, plain.commas⟩⟩

/-- What stands between two separating commas. -/
def IsArgument (a : Text) : Prop :=
  IsLiteral a ∨ IsPlain a

theorem nesting_append (s t : Text) : nesting (s ++ t) = nesting s + nesting t := by
  simp only [nesting, List.count_append]
  omega

theorem nesting_cons (c : Char) (t : Text) : nesting (c :: t) = nesting [c] + nesting t :=
  nesting_append [c] t

/-! ## Where a reader stands -/

namespace Position

variable {p : Position} {t : Text}

/-- The position after a text in which no argument ends. -/
def through (p : Position) (t : Text) : Position :=
  t.foldl after p

/-- No comma of the text ends an argument. -/
def Keeps : Position → Text → Prop
  | _, [] => True
  | p, c :: rest => ¬(c = ',' ∧ p.separates) ∧ (p.after c).Keeps rest

theorem through_append (p : Position) (s t : Text) :
    p.through (s ++ t) = (p.through s).through t :=
  List.foldl_append

theorem after_depth (p : Position) (c : Char) : (p.after c).depth = p.depth + nesting [c] := by
  by_cases quote : c = '"'
  · subst quote
    have level : nesting ['"'] = 0 := by decide
    rw [after, if_pos rfl, level]
    split <;> simp
  · by_cases opening : c = '('
    · subst opening
      rfl
    · by_cases closing : c = ')'
      · subst closing
        rfl
      · rw [after, if_neg quote, if_neg opening, if_neg closing]
        simp [nesting, opening, closing]

/-- Quotes make no difference to the depth. -/
theorem through_depth (p : Position) (t : Text) : (p.through t).depth = p.depth + nesting t := by
  induction t generalizing p with
  | nil => exact (Int.add_zero _).symm
  | cons c rest ih =>
    have later := ih (p.after c)
    rw [after_depth, Int.add_assoc, ← nesting_cons] at later
    exact later

theorem after_quoted {c : Char} (other : c ≠ '"') : (p.after c).quoted = p.quoted := by
  rw [after, if_neg other]
  split
  · rfl
  · split <;> rfl

theorem through_quoted (unquoted : '"' ∉ t) : (p.through t).quoted = p.quoted := by
  induction t generalizing p with
  | nil => rfl
  | cons c rest ih =>
    obtain ⟨other, later⟩ := List.ne_and_not_mem_of_not_mem_cons unquoted
    exact (ih later).trans (after_quoted (Ne.symm other))

theorem eq_start (outside : p.quoted = false) (level : p.depth = 0) : p = start := by
  cases p
  cases outside
  cases level
  rfl

theorem separates_iff : p.separates = true ↔ p.quoted = false ∧ p.depth = 0 := by
  simp [separates]

theorem keeps_append {s t : Text} (first : p.Keeps s) (second : (p.through s).Keeps t) :
    p.Keeps (s ++ t) := by
  induction s generalizing p with
  | nil => exact second
  | cons c rest ih => exact ⟨first.1, ih first.2 second⟩

theorem keeps_of_quoted (inside : p.quoted = true) (unquoted : '"' ∉ t) : p.Keeps t := by
  induction t generalizing p with
  | nil => trivial
  | cons c rest ih =>
    obtain ⟨other, later⟩ := List.ne_and_not_mem_of_not_mem_cons unquoted
    refine ⟨?_, ih ((after_quoted (Ne.symm other)).trans inside) later⟩
    rintro ⟨-, separates⟩
    have outside := (separates_iff.mp separates).1
    rw [inside] at outside
    cases outside

theorem keeps_of_depth
    (nested : ∀ i < t.length, t[i]? = some ',' → p.depth + nesting (t.take i) ≠ 0) : p.Keeps t := by
  induction t generalizing p with
  | nil => trivial
  | cons c rest ih =>
    refine ⟨?_, ih fun i inside comma => ?_⟩
    · rintro ⟨rfl, separates⟩
      have level := (separates_iff.mp separates).2
      exact nested 0 (Nat.zero_lt_succ _) rfl (by rw [level]; rfl)
    · have here := nested (i + 1) (Nat.succ_lt_succ inside) comma
      rw [List.take_succ_cons, nesting_cons] at here
      rw [after_depth]
      omega

end Position

/-! ## One argument -/

section Argument

variable {a : Text}

theorem IsArgument.filled (h : IsArgument a) : a ≠ [] := by
  rcases h with ⟨t, -, rfl⟩ | plain
  · exact List.cons_ne_nil _ _
  · exact plain.filled

theorem IsArgument.trimmed (h : IsArgument a) : a.trim = a := by
  rcases h with ⟨t, -, rfl⟩ | plain
  · refine Text.trim_eq_self (.cons (by decide) _) ?_
    rw [List.reverse_cons, List.reverse_append]
    exact .cons (by decide) _
  · exact plain.trimmed

theorem IsArgument.keeps (h : IsArgument a) : Position.start.Keeps a := by
  rcases h with ⟨t, unquoted, rfl⟩ | plain
  · have inside : (Position.start.after '"').quoted = true := rfl
    refine ⟨by decide, Position.keeps_append (Position.keeps_of_quoted inside unquoted) ?_⟩
    exact ⟨fun comma => absurd comma.1 (by decide), trivial⟩
  · refine Position.keeps_of_depth fun i inside comma => ?_
    have nested := plain.commas i inside comma
    simpa [Position.start] using nested

/-- After an argument whose parentheses balance a reader is where it was before. -/
theorem IsArgument.through_start (h : IsArgument a) (balanced : nesting a = 0) :
    Position.start.through a = Position.start := by
  have level : (Position.start.through a).depth = 0 := by
    rw [Position.through_depth, balanced]
    rfl
  refine Position.eq_start ?_ level
  rcases h with ⟨t, unquoted, rfl⟩ | plain
  · have opened : Position.start.through ('"' :: (t ++ ['"'])) =
        (Position.through ⟨true, 0⟩ t).after '"' :=
      Position.through_append ⟨true, 0⟩ t ['"']
    have inside : (Position.through ⟨true, 0⟩ t).quoted = true := Position.through_quoted unquoted
    rw [opened, Position.after_depth] at level
    rw [opened, Position.after, if_pos rfl, if_pos (by simpa [nesting] using level), inside]
    rfl
  · exact Position.through_quoted plain.unquoted

end Argument

/-! ## Several arguments -/

theorem pieces_ne_nil (p : Position) (t : Text) : pieces p t ≠ [] := by
  cases t with
  | nil => exact List.cons_ne_nil _ _
  | cons c rest =>
    rw [pieces]
    split
    · exact List.cons_ne_nil _ _
    · split <;> exact List.cons_ne_nil _ _

/-- A text in which no argument ends is the beginning of the first piece. -/
theorem pieces_append {p : Position} {t : Text} (keeps : p.Keeps t) (rest : Text) :
    pieces p (t ++ rest) = (pieces (p.through t) rest).modifyHead (t ++ ·) := by
  induction t generalizing p with
  | nil =>
    obtain ⟨piece, others, found⟩ := List.exists_cons_of_ne_nil (pieces_ne_nil p rest)
    change pieces p rest = (pieces p rest).modifyHead ([] ++ ·)
    rw [found]
    rfl
  | cons c t ih =>
    obtain ⟨piece, others, found⟩ :=
      List.exists_cons_of_ne_nil (pieces_ne_nil ((p.after c).through t) rest)
    have later := ih keeps.2
    rw [found] at later
    change pieces p (c :: (t ++ rest)) = (pieces ((p.after c).through t) rest).modifyHead _
    rw [pieces, if_neg keeps.1, later, found]
    rfl

theorem dropEmptyLast_cons {piece : Text} {ps : List Text} (some : ps ≠ []) :
    dropEmptyLast (piece :: ps) = piece :: dropEmptyLast ps := by
  rw [dropEmptyLast, dropEmptyLast, List.getLast?_cons_of_ne_nil some,
    List.dropLast_cons_of_ne_nil some]
  split <;> rfl

/-- A first piece that is not empty stays. -/
theorem head?_dropEmptyLast {piece : Text} (filled : piece ≠ []) (ps : List Text) :
    (dropEmptyLast (piece :: ps)).head? = some piece := by
  cases ps with
  | nil =>
    rw [dropEmptyLast, if_neg (by simpa using filled)]
    rfl
  | cons next ps =>
    rw [dropEmptyLast_cons (List.cons_ne_nil _ _)]
    rfl

section Split

variable {a : Text}

/-- One argument on its own. -/
theorem IsArgument.split_eq (h : IsArgument a) : split a = [a] := by
  have whole := pieces_append h.keeps []
  rw [List.append_nil] at whole
  have one : pieces Position.start a = [a] := by
    simpa [pieces] using whole
  rw [split, one, dropEmptyLast, if_neg (by simpa using h.filled), List.map_singleton, h.trimmed]

/-- An argument whose parentheses balance ends at the next comma. -/
theorem IsArgument.split_cons (h : IsArgument a) (balanced : nesting a = 0) (t : Text) :
    split (a ++ ',' :: t) = a :: split t := by
  have first : pieces Position.start (a ++ ',' :: t) = a :: pieces Position.start t := by
    rw [pieces_append h.keeps, h.through_start balanced, pieces, if_pos (by decide)]
    simp
  rw [split, first, dropEmptyLast_cons (pieces_ne_nil _ _), List.map_cons, h.trimmed]
  rfl

/-- An argument whose parentheses do not balance goes on after the next comma. -/
theorem IsArgument.head?_split_ne (h : IsArgument a) (unbalanced : nesting a ≠ 0) (t : Text) :
    (split (a ++ ',' :: t)).head? ≠ some a := by
  have inside : ¬(',' = ',' ∧ (Position.start.through a).separates = true) := by
    rintro ⟨-, separates⟩
    have level := (Position.separates_iff.mp separates).2
    rw [Position.through_depth] at level
    exact unbalanced (by simpa [Position.start] using level)
  obtain ⟨piece, others, found⟩ := List.exists_cons_of_ne_nil
    (pieces_ne_nil ((Position.start.through a).after ',') t)
  have first : pieces Position.start (a ++ ',' :: t) = (a ++ ',' :: piece) :: others := by
    rw [pieces_append h.keeps, pieces, if_neg inside, found]
    rfl
  have filled : a ++ ',' :: piece ≠ [] := by simp
  rw [split, first, List.head?_map, head?_dropEmptyLast filled]
  intro same
  -- the comma is no blank, so trimming leaves it
  have kept := Text.filter_trim (a ++ ',' :: piece)
  rw [Option.some.inj same, List.filter_append] at kept
  have gone : (',' :: piece).filter (!isBlank ·) = [] := List.self_eq_append_right.mp kept
  rw [List.filter_cons_of_pos (by decide)] at gone
  cases gone

/-- Arguments that are joined by commas are split again where they were joined if and only if, the
last one aside, their parentheses balance. -/
theorem split_join_iff {args : List Text} (arguments : ∀ a ∈ args, IsArgument a) :
    split (Text.join [','] args) = args ↔ ∀ a ∈ args.dropLast, nesting a = 0 := by
  induction args with
  | nil => exact iff_of_true rfl fun a h => by cases h
  | cons a rest ih =>
    have here := arguments a List.mem_cons_self
    cases rest with
    | nil =>
      refine iff_of_true ?_ fun a h => by cases h
      have alone : Text.join [','] [a] = a := List.intercalate_singleton
      rw [alone, here.split_eq]
    | cons b rest =>
      have later := ih fun a h => arguments a (List.mem_cons_of_mem _ h)
      have joined : Text.join [','] (a :: b :: rest) = a ++ ',' :: Text.join [','] (b :: rest) := by
        simp [Text.join, List.intercalate]
      rw [joined, List.dropLast_cons_of_ne_nil (List.cons_ne_nil b rest), List.forall_mem_cons]
      by_cases balanced : nesting a = 0
      · rw [here.split_cons balanced, List.cons.injEq, and_iff_right rfl, later,
          and_iff_right balanced]
      · refine iff_of_false ?_ fun ⟨h, _⟩ => balanced h
        intro same
        exact here.head?_split_ne balanced _ (congrArg List.head? same)

/-- A range, a literal with a comma and a parenthesis of each kind, and a call. -/
theorem balancedArguments_split :
    let args : List Text := ["A1:A2".toList, "\"a,(b)\"".toList, "f(a,b)".toList]
    (∀ a ∈ args, IsArgument a) ∧ split (Text.join [','] args) = args := by
  intro args
  have arguments : ∀ a ∈ args, IsArgument a := by
    simp only [args, List.forall_mem_cons]
    exact ⟨.inr (by decide), .inl ⟨"a,(b)".toList, by decide, rfl⟩, .inr (by decide),
      fun a none => by cases none⟩
  exact ⟨arguments, (split_join_iff arguments).mpr (by decide)⟩

/-- A pattern that opens a parenthesis takes the argument after it along. -/
theorem openPattern_split :
    let args : List Text := ["A1:A2".toList, "\"(\"".toList, "\"x\"".toList]
    (∀ a ∈ args, IsArgument a) ∧
      split (Text.join [','] args) = ["A1:A2".toList, "\"(\",\"x\"".toList] := by
  intro args
  refine ⟨?_, by decide⟩
  simp only [args, List.forall_mem_cons]
  exact ⟨.inr (by decide), .inl ⟨['('], by decide, rfl⟩, .inl ⟨['x'], by decide, rfl⟩,
    fun a none => by cases none⟩

end Split

end Arguments

end Spreadsheet
