import Spreadsheet.Proofs.ArgumentCounts
import Spreadsheet.Proofs.WrittenCalls

/-!
# What a text evaluates to when it has no value

A text without an equals sign is its own value. One with an equals sign is a call or it is not; a
call may name no function; a function may refuse the number of its arguments; and only then does it
come to the arguments themselves. The first of these that goes wrong decides which token is shown:
the name and the three arguments of the replacement have tokens of their own, all else has one.
-/

namespace Spreadsheet

theorem FormulaError.InArgument.token {e : FormulaError} (h : e.InArgument) : e.token = .error := by
  cases e with
  | grammar _ | unknownFunction _ | argumentCount _ _ _ => cases h
  | _ => rfl

namespace Function

/-- A refused number of arguments has its own token only if three are asked for. -/
theorem token_argumentError (f : Function) (found : Nat) :
    (f.argumentError f.parameters found).token =
      if f = findAndReplace then .requiresThreeArguments else .error := by
  cases f <;> rfl

theorem refuses_findAndReplace {args : List Text} :
    findAndReplace.Refuses args ↔ args.length ≠ 3 := by
  have three : findAndReplace.parameters = 3 := rfl
  rw [Refuses, three, and_iff_right rfl]
  exact Nat.lt_or_gt.symm

theorem token_of_call {f : Function} {grid : Grid} {headers args : List Text} {e : FormulaError}
    (h : f.call grid headers args = .error e) : e.token =
      if f = findAndReplace ∧ args.length ≠ 3 then .requiresThreeArguments else .error := by
  by_cases refuses : f.Refuses args
  · rw [call_of_refuses refuses] at h
    cases h
    rw [token_argumentError]
    by_cases replaces : f = findAndReplace
    · subst replaces
      rw [if_pos rfl, if_pos ⟨rfl, refuses_findAndReplace.mp refuses⟩]
    · rw [if_neg replaces, if_neg fun h => replaces h.1]
  · rw [(inArgument_of_call refuses h).token, if_neg]
    rintro ⟨rfl, other⟩
    exact refuses (refuses_findAndReplace.mpr other)

end Function

namespace Formula

section Call

variable {t : Text} {s : Shape} {grid : Grid} {headers : List Text}
variable (proper : s.Proper) (written : t.trim = s.toText)

include proper written

theorem evaluate_eq_error_iff {f : Function} (named : f.name = s.name) {token : ErrorToken} :
    evaluate t grid headers = .error token ↔
      ∃ e, f.call grid headers (Arguments.split s.body) = .error e ∧ e.token = token := by
  rw [evaluate_of_name proper written named]
  cases f.call grid headers (Arguments.split s.body) with
  | error e => simp [Except.map, settle]
  | ok out => cases out <;> simp [Except.map, settle, Value.ofOutput]

theorem evaluate_eq_invalid_iff :
    evaluate t grid headers = .error .invalid ↔ ∀ f : Function, f.name ≠ s.name := by
  constructor
  · intro shown f named
    obtain ⟨e, failed, token⟩ := (evaluate_eq_error_iff proper written named).mp shown
    rw [Function.token_of_call failed] at token
    split at token <;> cases token
  · exact evaluate_of_unknown proper written

theorem evaluate_eq_requiresThreeArguments_iff :
    evaluate t grid headers = .error .requiresThreeArguments ↔
      s.name = Function.findAndReplace.name ∧ (Arguments.split s.body).length ≠ 3 := by
  constructor
  · intro shown
    by_cases known : ∃ f : Function, f.name = s.name
    · obtain ⟨f, named⟩ := known
      obtain ⟨e, failed, token⟩ := (evaluate_eq_error_iff proper written named).mp shown
      rw [Function.token_of_call failed] at token
      split at token
      · rename_i refused
        exact ⟨named ▸ congrArg Function.name refused.1, refused.2⟩
      · cases token
    · rw [evaluate_of_unknown proper written (not_exists.mp known)] at shown
      cases shown
  · rintro ⟨named, other⟩
    have refused := @Function.call_of_refuses _ grid headers _
      (Function.refuses_findAndReplace.mpr other)
    exact (evaluate_eq_error_iff proper written named.symm).mpr ⟨_, refused, rfl⟩

end Call

/-- What a text evaluates to, by how it is written. A text without an equals sign in front stands
for itself. Another one is a call or it shows the common token; a call shows the token for names if
and only if it names no function, the token for arguments if and only if it calls the replacement
without just three, and the common one if it fails for any other cause. A text that is evaluated as
a formula is the text with an equals sign in front. -/
theorem evaluate_tokens (t : Text) (grid : Grid) (headers : List Text) :
    (Cell.isFormulaText t.trim = false → evaluate t grid headers = .text t.trim) ∧
    (Cell.isFormulaText t.trim = true →
      ((∃ formula, parse t = .error (.grammar formula)) ↔ ¬IsCall t.trim) ∧
      (¬IsCall t.trim → evaluate t grid headers = .error .error)) ∧
    (∀ s : Shape, s.Proper → t.trim = s.toText → '(' ∉ s.name ∧
      (evaluate t grid headers = .error .invalid ↔ ∀ f : Function, f.name ≠ s.name) ∧
      (evaluate t grid headers = .error .requiresThreeArguments ↔
        s.name = Function.findAndReplace.name ∧ (Arguments.split s.body).length ≠ 3) ∧
      ∀ f : Function, f.name = s.name →
        (∀ out, f.call grid headers (Arguments.split s.body) = .ok out →
          evaluate t grid headers = .ofOutput out) ∧
        ∀ e, f.call grid headers (Arguments.split s.body) = .error e →
          ¬(f = .findAndReplace ∧ (Arguments.split s.body).length ≠ 3) →
          evaluate t grid headers = .error .error) ∧
    evaluateFormula t grid headers =
      evaluate (if Cell.isFormulaText t.trim then t.trim else '=' :: t.trim) grid headers ∧
    ErrorToken.error.toText = "#ERROR!".toList ∧ ErrorToken.invalid.toText = "#INVALID!".toList ∧
    ErrorToken.requiresThreeArguments.toText = "#ERROR: Requires 3 arguments!".toList := by
  refine ⟨evaluate_of_not_isFormulaText,
    fun formula => ⟨parse_eq_grammar_iff, evaluate_of_not_isCall formula⟩, ?_, rfl, rfl, rfl, rfl⟩
  intro s proper written
  refine ⟨proper.notMem_name, evaluate_eq_invalid_iff proper written,
    evaluate_eq_requiresThreeArguments_iff proper written, fun f named => ⟨?_, ?_⟩⟩
  · intro out answered
    rw [evaluate_of_name proper written named, answered]
    rfl
  · intro e failed other
    have token := Function.token_of_call failed
    rw [if_neg other] at token
    exact (evaluate_eq_error_iff proper written named).mpr ⟨e, failed, token⟩

/-- One text for each thing that can happen: no equals sign, no call, no such function, a
replacement without what to put in, a row that is not there, and a value. -/
theorem typedTexts_shown :
    let grid : Grid := [[.number 1]]
    let headers := Column.labels 1
    evaluate " tea ".toList grid headers = .text "tea".toList ∧
      evaluate "=A1+B1".toList grid headers = .error .error ∧
      evaluate "=NOPE(A1)".toList grid headers = .error .invalid ∧
      evaluate "=FIND_AND_REPLACE(A1:A1,x)".toList grid headers =
        .error .requiresThreeArguments ∧
      evaluate "=SUM(A1:A9)".toList grid headers = .error .error ∧
      evaluate " =COUNT(A1:A1) ".toList grid headers = .ofOutput (.number 1) := by
  intro grid headers
  have plain := (evaluate_tokens " tea ".toList grid headers).1
  have noCall := (evaluate_tokens "=A1+B1".toList grid headers).2.1
  have noName := (evaluate_tokens "=NOPE(A1)".toList grid headers).2.2.1
    ⟨"NOPE".toList, "A1".toList⟩ ⟨by decide, List.all_eq_true.mp rfl, by decide⟩ (by decide)
  have noValue := (evaluate_tokens "=FIND_AND_REPLACE(A1:A1,x)".toList grid headers).2.2.1
    ⟨_, "A1:A1,x".toList⟩ (Shape.proper_of_name .findAndReplace (by decide)) (by decide)
  have noRow := (evaluate_tokens "=SUM(A1:A9)".toList grid headers).2.2.1
    ⟨_, "A1:A9".toList⟩ (Shape.proper_of_name .sum (by decide)) (by decide)
  have value := (evaluate_tokens " =COUNT(A1:A1) ".toList grid headers).2.2.1
    ⟨_, "A1:A1".toList⟩ (Shape.proper_of_name .count (by decide)) (by decide)
  refine ⟨plain (by decide), (noCall (by decide)).2 (by decide), noName.2.1.mpr ?_,
    noValue.2.2.1.mpr ⟨rfl, by decide⟩, ?_, ?_⟩
  · intro f
    cases f <;> decide
  · have failed : Function.sum.call grid headers ["A1:A9".toList] =
        .error (.rowOutOfBounds 8 1) := by decide
    exact (noRow.2.2.2 .sum rfl).2 _ failed (by decide)
  · have counted : Function.count.call grid headers ["A1:A1".toList] = .ok (.number 1) := by decide
    exact (value.2.2.2 .count rfl).1 _ counted

end Formula

end Spreadsheet
