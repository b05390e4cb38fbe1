import Spreadsheet.Formula
import Spreadsheet.Proofs.ReferenceText

/-!
# How many arguments a function takes

One function has three parameters, and every other has one. All of them refuse too few arguments,
but only the one with three refuses too many: with one parameter a function answers for the first
argument, whatever comes behind it. Any other failure of a call lies in an argument: in a range that
is none or is not one of the sheet, or in a pattern that is none.
-/

namespace Spreadsheet

theorem bind_eq_error_iff {α β : Type} {x : Except FormulaError α}
    {k : α → Except FormulaError β} {e : FormulaError} :
    (x >>= k) = .error e ↔ x = .error e ∨ ∃ a, x = .ok a ∧ k a = .error e := by
  cases x with
  | error e' => simp [bind, Except.bind]
  | ok a => simp [bind, Except.bind]

/-- The cause lies in an argument, and not in their number or in how the call is written. -/
def FormulaError.InArgument : FormulaError → Prop
  | invalidReference _ | malformedRange _ | unknownColumn _ | rowOutOfBounds _ _ | pattern => True
  | grammar _ | unknownFunction _ | argumentCount _ _ _ => False

section Ranges

variable {grid : Grid} {headers : List Text} {range : Text} {e : FormulaError}

theorem RangeReference.inArgument_of_parse (h : RangeReference.parse range = .error e) :
    e.InArgument := by
  rw [RangeReference.parse] at h
  split at h
  · rcases bind_eq_error_iff.mp h with start | ⟨r, -, h⟩
    · rw [Reference.eq_of_parse_error start]
      trivial
    · rcases bind_eq_error_iff.mp h with stop | ⟨r', -, h⟩
      · rw [Reference.eq_of_parse_error stop]
        trivial
      · cases h
  · cases h
    trivial

theorem Block.inArgument_of_column {label : Text} (h : Block.column headers label = .error e) :
    e.InArgument := by
  rw [Block.column] at h
  split at h
  · cases h
  · cases h
    trivial

theorem Block.inArgument_of_ofRange {r : RangeReference}
    (h : Block.ofRange grid headers r = .error e) : e.InArgument := by
  rw [Block.ofRange] at h
  rcases bind_eq_error_iff.mp h with left | ⟨left, -, h⟩
  · exact inArgument_of_column left
  · rcases bind_eq_error_iff.mp h with right | ⟨right, -, h⟩
    · exact inArgument_of_column right
    · split at h
      · cases h
        trivial
      · cases h

theorem Block.inArgument_of_resolve (h : Block.resolve grid headers range = .error e) :
    e.InArgument := by
  rcases bind_eq_error_iff.mp h with unread | ⟨r, -, h⟩
  · exact RangeReference.inArgument_of_parse unread
  · exact inArgument_of_ofRange h

end Ranges

namespace Function

/-- How many arguments a function has a use for. -/
def parameters : Function → Nat
  | findAndReplace => 3
  | _ => 1

/-- There are too few arguments, or too many for the one function that looks. -/
def Refuses (f : Function) (args : List Text) : Prop :=
  args.length < f.parameters ∨ f = findAndReplace ∧ f.parameters < args.length

section Calls

variable {f : Function} {grid : Grid} {headers args : List Text} {e : FormulaError}

/-- With one parameter a function answers for its first argument. -/
theorem call_cons (one : f.parameters = 1) (arg : Text) (rest : List Text) :
    f.call grid headers (arg :: rest) = f.call grid headers [arg] := by
  cases f with
  | findAndReplace => cases one
  | _ => rfl

theorem call_nil (one : f.parameters = 1) :
    f.call grid headers [] = .error (f.argumentError 1 0) := by
  cases f with
  | findAndReplace => cases one
  | _ => rfl

theorem parameters_eq_one (other : f ≠ findAndReplace) : f.parameters = 1 := by
  cases f with
  | findAndReplace => exact absurd rfl other
  | _ => rfl

theorem call_of_refuses (refuses : f.Refuses args) :
    f.call grid headers args = .error (f.argumentError f.parameters args.length) := by
  by_cases replaces : f = findAndReplace
  · subst replaces
    have other : args.length ≠ 3 := by
      rcases refuses with few | ⟨-, many⟩
      · exact Nat.ne_of_lt few
      · exact Nat.ne_of_gt many
    rw [call.eq_def]
    dsimp only
    split
    · exact absurd rfl other
    · rfl
  · have one := parameters_eq_one replaces
    rcases refuses with few | ⟨same, -⟩
    · rw [one, Nat.lt_one_iff, List.length_eq_zero_iff] at few
      subst few
      rw [call_nil one, one]
      rfl
    · exact absurd same replaces

theorem inArgument_of_firstValues {arg : Text}
    (h : f.firstValues grid headers [arg] = .error e) : e.InArgument := by
  have resolved : (do return (← Block.resolve grid headers arg).values grid) = .error e := h
  rcases bind_eq_error_iff.mp resolved with unresolved | ⟨b, -, h⟩
  · exact Block.inArgument_of_resolve unresolved
  · cases h

theorem inArgument_of_call_one (one : f.parameters = 1) {arg : Text}
    (h : f.call grid headers [arg] = .error e) : e.InArgument := by
  cases f with
  | sum | avg | max | min | count =>
    rcases bind_eq_error_iff.mp h with unread | ⟨values, -, h⟩
    · exact inArgument_of_firstValues unread
    · cases h
  | trim | upper | lower => cases h
  | removeDuplicates =>
    have resolved : (do
        let b ← Block.resolve grid headers arg
        return Output.rows (distinctRows b (b.rows grid) [])) = .error e := h
    rcases bind_eq_error_iff.mp resolved with unresolved | ⟨b, -, h⟩
    · exact Block.inArgument_of_resolve unresolved
    · cases h
  | findAndReplace => cases one

theorem inArgument_of_replace {range find template : Text}
    (h : findAndReplace.call grid headers [range, find, template] = .error e) : e.InArgument := by
  rcases bind_eq_error_iff.mp h with unresolved | ⟨b, -, h⟩
  · exact Block.inArgument_of_resolve unresolved
  · split at h
    · cases h
    · cases h
      trivial

/-- What a function does not refuse for the number of arguments fails for one of them, if at all. -/
theorem inArgument_of_call (takes : ¬f.Refuses args) (h : f.call grid headers args = .error e) :
    e.InArgument := by
  obtain ⟨enough, atMost⟩ := not_or.mp takes
  by_cases replaces : f = findAndReplace
  · subst replaces
    have three : args.length = 3 := by
      have most : ¬3 < args.length := fun many => atMost ⟨rfl, many⟩
      have least : ¬args.length < 3 := enough
      omega
    obtain ⟨range, find, template, rfl⟩ := List.length_eq_three.mp three
    exact inArgument_of_replace h
  · have one := parameters_eq_one replaces
    have filled : args ≠ [] := by
      rintro rfl
      exact enough (one ▸ Nat.zero_lt_one)
    obtain ⟨arg, rest, rfl⟩ := List.exists_cons_of_ne_nil filled
    rw [call_cons one] at h
    exact inArgument_of_call_one one h

/-- A call is refused for the number of its arguments if and only if there are fewer of them than
parameters, or more than the three of the replacement; the error tells both numbers. A function with
one parameter reads nothing but the first of its arguments. -/
theorem call_refused_iff (f : Function) (grid : Grid) (headers args : List Text) :
    (∀ name expected found, f.call grid headers args = .error (.argumentCount name expected found) ↔
      (args.length < f.parameters ∨ f = findAndReplace ∧ f.parameters < args.length) ∧
        name = f.name ∧ expected = f.parameters ∧ found = args.length) ∧
    (f ≠ findAndReplace → ∀ arg rest, args = arg :: rest →
      f.call grid headers args = f.call grid headers [arg]) := by
  refine ⟨fun name expected found => ?_, ?_⟩
  · by_cases refuses : f.Refuses args
    · rw [call_of_refuses refuses, argumentError, Except.error.injEq,
        FormulaError.argumentCount.injEq]
      constructor
      · rintro ⟨rfl, rfl, rfl⟩
        exact ⟨refuses, rfl, rfl, rfl⟩
      · rintro ⟨-, rfl, rfl, rfl⟩
        exact ⟨rfl, rfl, rfl⟩
    · refine iff_of_false (fun h => inArgument_of_call refuses h) ?_
      rintro ⟨refused, -⟩
      exact refuses refused
  · rintro one arg rest rfl
    exact call_cons (parameters_eq_one one) arg rest

/-- The average does not come to look at its second range, which is none; the replacement does not
come to look at anything. -/
theorem secondRange_ignored :
    let grid : Grid := [[.number 1, .number 3]]
    let headers := Column.labels 2
    avg ≠ findAndReplace ∧
      avg.call grid headers ["A1:B1".toList, "C1".toList] =
        avg.call grid headers ["A1:B1".toList] ∧
      findAndReplace.call grid headers ["A1:B1".toList, ['x'], ['y'], ['z']] =
        .error (.argumentCount findAndReplace.name 3 4) := by
  intro grid headers
  have one : avg ≠ findAndReplace := by decide
  exact ⟨one, (call_refused_iff avg grid headers _).2 one _ _ rfl,
    ((call_refused_iff findAndReplace grid headers _).1 _ 3 4).mpr
      ⟨.inr ⟨rfl, by decide⟩, rfl, rfl, rfl⟩⟩

/-- A sum over two ranges is not refused, and comes to the sum of the first. -/
theorem sum_of_first :
    let grid : Grid := [[.text ['1'], .text ['2']]]
    let headers := Column.labels 2
    let args := ["A1:A1".toList, "B1:B1".toList]
    args.length ≠ sum.parameters ∧
      (¬∃ name expected found, sum.call grid headers args =
        .error (.argumentCount name expected found)) ∧
      sum.call grid headers args = .ok (.number 1) ∧
      Formula.evaluate "=SUM(A1:A1,B1:B1)".toList grid headers =
        Formula.evaluate "=SUM(A1:A1)".toList grid headers := by
  intro grid headers args
  have value : sum.call grid headers args = .ok (.number 1) := by decide
  refine ⟨by decide, ?_, value, by decide⟩
  rintro ⟨name, expected, found, refused⟩
  rw [value] at refused
  cases refused

end Calls

end Function

end Spreadsheet
