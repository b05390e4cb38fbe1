import Spreadsheet.Cell
import Spreadsheet.Proofs.JsonText
import Spreadsheet.Proofs.WrittenNumbers

/-!
# Cells as they are stored

A finite number is stored as one literal, and different numbers as different ones. Reading a literal
rounds more than once, so not every number is read back from its own text. But numbers, texts and
empty cells can be told apart in what is stored.
-/

namespace Spreadsheet

namespace Number

open Json

/-- The text that a number is stored as is read as the same number. -/
def ReadsBack (x : Float) : Prop :=
  (parse? (Cell.numberJson x).render).bind toFloat? = some x

/-- A finite number that is read back is the value of its literal. -/
theorem ReadsBack.toFloat? {x : Float} (back : ReadsBack x) (finite : x.isFinite = true) :
    Json.toFloat? (.number (storedLayout.write x)) = some x := by
  rwa [ReadsBack, Cell.numberJson, if_pos finite, (Exact.number (isLiteral_write x)).parse?_render]
    at back

end Number

namespace Cell

/-- What can be told from its text: neither an empty text nor a number without a literal. -/
def Clean : Cell → Prop
  | empty => True
  | number x => x.isFinite = true
  | text t => t ≠ []

instance : DecidablePred Clean
  | empty => .isTrue trivial
  | number x => inferInstanceAs (Decidable (x.isFinite = true))
  | text t => inferInstanceAs (Decidable (t ≠ []))

variable {c c' : Cell}

theorem toJson_number {x : Float} (finite : x.isFinite = true) :
    (number x).toJson = .number (Number.storedLayout.write x) :=
  if_pos finite

theorem Clean.exact_toJson (clean : c.Clean) : c.toJson.Exact := by
  cases c with
  | empty => exact .text []
  | number x =>
    rw [toJson_number clean]
    exact .number (Number.isLiteral_write x)
  | text t => exact .text t

/-- Clean cells are stored as different values: empty ones as the empty text, numbers as literals
and texts as themselves. -/
theorem Clean.toJson_inj (clean : c.Clean) (clean' : c'.Clean) (same : c.toJson = c'.toJson) :
    c = c' := by
  cases c with
  | empty =>
    cases c' with
    | empty => rfl
    | number x =>
      rw [toJson_number clean'] at same
      cases same
    | text t => exact absurd (Json.text.inj same).symm clean'
  | number x =>
    rw [toJson_number clean] at same
    cases c' with
    | empty => cases same
    | number y =>
      rw [toJson_number clean'] at same
      rw [Number.write_injective (Json.number.inj same)]
    | text t => cases same
  | text t =>
    cases c' with
    | empty => exact absurd (Json.text.inj same) clean
    | number x =>
      rw [toJson_number clean'] at same
      cases same
    | text u => rw [Json.text.inj same]

end Cell

end Spreadsheet
