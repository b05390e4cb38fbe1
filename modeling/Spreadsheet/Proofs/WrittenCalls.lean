import Spreadsheet.Formula
import Spreadsheet.Proofs.ArgumentLists

/-!
# Calls as they are written

A text is a call if it is an equals sign, a name, and one line between parentheses, and then its
name and its line can be read off it in one way only. Parsing fails on every other text for the
grammar, and on a call only for its name. A call that names a function evaluates to what the
function answers for the arguments in the line.
-/

namespace Spreadsheet

namespace Function

theorem name_ne_nil (f : Function) : f.name ≠ [] := by
  cases f <;> decide

theorem ofName?_name (f : Function) : ofName? f.name = some f := by
  cases f <;> decide

theorem ofName?_eq_some_iff {name : Text} {f : Function} :
    ofName? name = some f ↔ f.name = name := by
  constructor
  · intro found
    exact beq_iff_eq.mp (List.find?_some (p := fun f : Function => f.name == name) found)
  · rintro rfl
    exact ofName?_name f

theorem ofName?_eq_none_iff {name : Text} :
    ofName? name = none ↔ ∀ f : Function, f.name ≠ name := by
  simp only [Option.eq_none_iff_forall_ne_some, ne_eq, ofName?_eq_some_iff]

end Function

namespace Formula

/-! ## The shape of a call -/

namespace Shape

def toText (s : Shape) : Text :=
  '=' :: (s.name ++ '(' :: (s.body ++ [')']))

/-- The name is one, and what stands between the parentheses is one line. -/
structure Proper (s : Shape) : Prop where
  named : s.name ≠ []
  nameChars : ∀ c ∈ s.name, isNameChar c = true
  oneLine : '\n' ∉ s.body

/-- Every function can be called by its name. -/
theorem proper_of_name (f : Function) {body : Text} (oneLine : '\n' ∉ body) :
    Proper ⟨f.name, body⟩ := by
  have chars : f.name.all isNameChar = true := by cases f <;> decide
  exact ⟨f.name_ne_nil, List.all_eq_true.mp chars, oneLine⟩

/-- The name of a call ends at the first parenthesis. -/
theorem Proper.notMem_name {s : Shape} (proper : s.Proper) : '(' ∉ s.name := by
  intro h
  have nameChar := proper.nameChars '(' h
  revert nameChar
  decide

theorem isFormulaText_toText (s : Shape) : Cell.isFormulaText s.toText = true :=
  rfl

theorem trim_toText (s : Shape) : s.toText.trim = s.toText := by
  refine Text.trim_eq_self (.cons (by decide) _) ?_
  have back : s.toText.reverse = ')' :: ('=' :: (s.name ++ '(' :: s.body)).reverse := by
    simp [toText]
  rw [back]
  exact .cons (by decide) _

end Shape

section Calls

variable {t : Text} {s : Shape}

/-- A shape is read off the one text that has it. -/
theorem shape?_eq_some_iff : shape? t = some s ↔ s.Proper ∧ t = s.toText := by
  constructor
  · intro h
    rw [shape?.eq_def] at h
    split at h
    · rename_i t
      dsimp only at h
      split at h
      · rename_i rest opened
        split at h
        · rename_i proper
          obtain ⟨named, closed, oneLine⟩ := proper
          cases h
          refine ⟨⟨named, List.all_eq_true.mp List.all_takeWhile, oneLine⟩, ?_⟩
          rw [Shape.toText, List.dropLast_append_getLast? _ closed, ← opened,
            List.takeWhile_append_dropWhile]
        · cases h
      · cases h
    · cases h
  · rintro ⟨proper, rfl⟩
    have stop : Text.Stops isNameChar ('(' :: (s.body ++ [')'])) := .cons (by decide) _
    rw [Shape.toText, shape?]
    simp only [Text.takeWhile_run proper.nameChars stop, Text.dropWhile_run proper.nameChars stop,
      List.dropLast_concat, List.getLast?_concat]
    exact if_pos ⟨proper.named, trivial, proper.oneLine⟩

/-- An equals sign, a name, and one line between parentheses. -/
def IsCall (t : Text) : Prop :=
  ∃ s : Shape, s.Proper ∧ t = s.toText

theorem isCall_iff : IsCall t ↔ (shape? t).isSome = true := by
  rw [Option.isSome_iff_exists]
  exact exists_congr fun s => shape?_eq_some_iff.symm

instance (t : Text) : Decidable (IsCall t) :=
  decidable_of_iff _ isCall_iff.symm

theorem shape?_eq_none_iff : shape? t = none ↔ ¬IsCall t := by
  rw [isCall_iff, Option.isSome_iff_ne_none, not_not]

/-! ## Parsing -/

theorem parse_trim (t : Text) : parse t.trim = parse t := by
  rw [parse, parse, Text.trim_trim]

theorem parse_of_not_isCall (h : ¬IsCall t.trim) : parse t = .error (.grammar t.trim) := by
  rw [parse, shape?_eq_none_iff.mpr h]

theorem parse_of_unknown (proper : s.Proper) (written : t.trim = s.toText)
    (unknown : ∀ f : Function, f.name ≠ s.name) : parse t = .error (.unknownFunction s.name) := by
  rw [parse, shape?_eq_some_iff.mpr ⟨proper, written⟩]
  dsimp only
  rw [Function.ofName?_eq_none_iff.mpr unknown]

theorem parse_of_name (proper : s.Proper) (written : t.trim = s.toText) {f : Function}
    (named : f.name = s.name) : parse t = .ok ⟨f, Arguments.split s.body⟩ := by
  rw [parse, shape?_eq_some_iff.mpr ⟨proper, written⟩]
  dsimp only
  rw [Function.ofName?_eq_some_iff.mpr named]

/-- Parsing fails for the grammar if and only if the text is no call. -/
theorem parse_eq_grammar_iff :
    (∃ formula, parse t = .error (.grammar formula)) ↔ ¬IsCall t.trim := by
  constructor
  · rintro ⟨formula, failed⟩ ⟨s, proper, written⟩
    by_cases known : ∃ f : Function, f.name = s.name
    · obtain ⟨f, named⟩ := known
      rw [parse_of_name proper written named] at failed
      cases failed
    · rw [parse_of_unknown proper written (not_exists.mp known)] at failed
      cases failed
  · intro h
    exact ⟨_, parse_of_not_isCall h⟩

/-! ## Evaluation -/

variable {grid : Grid} {headers : List Text}

theorem evaluate_of_not_isFormulaText (plain : Cell.isFormulaText t.trim = false) :
    evaluate t grid headers = .text t.trim := by
  rw [evaluate, outcome, plain]
  rfl

theorem evaluate_of_isFormulaText (formula : Cell.isFormulaText t.trim = true) :
    evaluate t grid headers = settle ((parse t).bind fun call =>
      (call.function.call grid headers call.args).map .ofOutput) := by
  rw [evaluate, outcome, if_pos formula, parse_trim]
  cases parse t with
  | error e => rfl
  | ok call =>
    simp only [bind, Except.bind]
    cases call.function.call grid headers call.args <;> rfl

theorem evaluate_of_not_isCall (formula : Cell.isFormulaText t.trim = true)
    (h : ¬IsCall t.trim) : evaluate t grid headers = .error .error := by
  rw [evaluate_of_isFormulaText formula, parse_of_not_isCall h]
  rfl

theorem evaluate_of_unknown (proper : s.Proper) (written : t.trim = s.toText)
    (unknown : ∀ f : Function, f.name ≠ s.name) : evaluate t grid headers = .error .invalid := by
  rw [evaluate_of_isFormulaText (written ▸ s.isFormulaText_toText),
    parse_of_unknown proper written unknown]
  rfl

/-- A call that names a function has the value that the function answers, or the token of the cause
why it answers none. -/
theorem evaluate_of_name (proper : s.Proper) (written : t.trim = s.toText) {f : Function}
    (named : f.name = s.name) : evaluate t grid headers =
      settle ((f.call grid headers (Arguments.split s.body)).map .ofOutput) := by
  rw [evaluate_of_isFormulaText (written ▸ s.isFormulaText_toText),
    parse_of_name proper written named]
  rfl

end Calls

end Formula

end Spreadsheet
