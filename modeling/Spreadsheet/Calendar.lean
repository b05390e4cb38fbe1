import Spreadsheet.Text

/-!
# Calendar dates

Dates of the Gregorian calendar, carried back to the year zero, in the form `YYYY-MM-DD`. Reading
the form and asking whether there is such a day are two questions.
-/

namespace Spreadsheet

structure Date where
  year : Nat
  month : Nat
  day : Nat
deriving DecidableEq, Repr

namespace Date

/-- Four digits, two and two, with a hyphen between them. -/
def ofText? (t : Text) : Option Date :=
  match t with
  | [y₁, y₂, y₃, y₄, '-', m₁, m₂, '-', d₁, d₂] =>
    if [y₁, y₂, y₃, y₄, m₁, m₂, d₁, d₂].all Char.isDigit then
      some ⟨Text.toNat [y₁, y₂, y₃, y₄], Text.toNat [m₁, m₂], Text.toNat [d₁, d₂]⟩
    else none
  | _ => none

/-- Every fourth year, of the centuries every fourth one. -/
def isLeap (year : Nat) : Bool :=
  year % 4 == 0 && (year % 100 != 0 || year % 400 == 0)

/-- The length of a month; there are no days in what is no month. -/
def daysIn (year month : Nat) : Nat :=
  if month = 2 then (if isLeap year then 29 else 28)
  else if month ∈ [4, 6, 9, 11] then 30
  else if 1 ≤ month ∧ month ≤ 12 then 31
  else 0

/-- Whether the calendar has this day. -/
def isDay (d : Date) : Bool :=
  1 ≤ d.day && d.day ≤ daysIn d.year d.month

end Date

end Spreadsheet
