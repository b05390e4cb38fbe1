import Mathlib
import Spreadsheet.Sheet.Order
import Spreadsheet.Proofs.ArgumentLists
import Spreadsheet.Proofs.NumeralTexts

/-!
# Numbers that are sorted and numbers that are summed

Sorting reads a text as a number if it is one from end to end between its blanks. An aggregate reads
the longest number that the text begins with. So the two read the same number where the longest
number is all there is between the blanks, and elsewhere only the aggregate reads one. The names of
the infinities and of NaN are read as numbers that are not finite, which counts for neither.
-/

namespace Spreadsheet

open Text

theorem Text.exists_trimEnd_append (t : Text) :
    ∃ blanks, t = t.trimEnd ++ blanks ∧ ∀ c ∈ blanks, isBlank c = true := by
  refine ⟨(t.reverse.takeWhile isBlank).reverse, ?_, fun c hc => ?_⟩
  · rw [trimEnd, ← List.reverse_append, List.takeWhile_append_dropWhile, List.reverse_reverse]
  · exact List.mem_takeWhile_imp (List.mem_reverse.mp hc)

namespace Numeral

variable {t : Text}

/-- No number goes on with a blank. -/
theorem stops_of_blanks (blank : ∀ c ∈ t, isBlank c = true) : Stops isNumeralChar t := by
  intro c first
  rw [← Bool.not_eq_true]
  intro part
  have visible : 33 ≤ c.toNat ∧ c.toNat ≤ 126 := by
    simp only [isNumeralChar, isMantissaChar, Bool.or_eq_true, isDigit_iff, beq_iff_eq] at part
    rcases part with ((digit | rfl) | rfl) | rfl
    · omega
    all_goals decide
  have filled := not_isBlank_of_visible visible
  rw [blank c (List.mem_of_head? first)] at filled
  cases filled

/-- A number between blanks is the longest one there. -/
theorem leads_trim_iff : Leads t.trimStart t.trim ↔ IsText t.trim := by
  constructor
  · exact Leads.isText
  · intro number
    obtain ⟨blanks, shape, blank⟩ := t.trimStart.exists_trimEnd_append
    have leads := number.leads_append (stops_of_blanks blank)
    rwa [trim, ← shape] at leads

/-- A text that begins with a letter other than an exponent mark is no number. -/
theorem read?_of_stops {negative : Bool} {unsigned : Text} (signed : sign t = (negative, unsigned))
    (stop : Stops isMantissaChar unsigned) : read? t = none := by
  have digits : Stops Char.isDigit unsigned := stop.mono fun c digit => by
    rw [isMantissaChar, digit, Bool.true_or]
  have point : (unsigned.dropWhile Char.isDigit).head? ≠ some '.' := by
    rw [digits.dropWhile_eq_self]
    intro point
    cases stop '.' point
  rw [read?, scan?_of_sign signed, mantissa?_plain point, if_pos digits.takeWhile_eq_nil]
  rfl

end Numeral

namespace Number

variable {t : Text} {x : Float}

theorem whole?_eq_some_iff : whole? t = some x ↔
    ∃ n, Numeral.read? t = some n ∧ n.value = x ∧ x.isFinite = true := by
  rw [whole?, Option.bind_eq_some_iff]
  refine exists_congr fun n => and_congr_right fun _ => ?_
  rw [Numeral.finiteValue?]
  constructor
  · intro value
    split at value
    · cases value
      exact ⟨rfl, ‹_›⟩
    · cases value
  · rintro ⟨rfl, finite⟩
    exact if_pos finite

/-- A name begins with no digit and no point. -/
theorem stops_of_name {name : Text} {first : Char} {rest : Text}
    (named : name.map Char.toLower = first :: rest)
    (letter : Numeral.isMantissaChar first = false) : Stops Numeral.isMantissaChar name := by
  obtain ⟨c, tail, rfl, lower, -⟩ := List.map_eq_cons_iff.mp named
  refine .cons ?_ tail
  rw [← Bool.not_eq_true]
  intro part
  have small : c.toLower = c := by
    simp only [Numeral.isMantissaChar, Bool.or_eq_true, beq_iff_eq] at part
    rcases part with digit | rfl
    · exact Char.toLower_eq_of_not_isUpper (Bool.eq_false_iff.mp (not_isUpper_of_isDigit digit))
    · rfl
  rw [small.symm.trans lower, letter] at part
  cases part

theorem read?_of_sign {negative : Bool} {unsigned : Text}
    (signed : Numeral.sign t = (negative, unsigned)) : Number.read? t =
      if unsigned.map Char.toLower = "inf".toList ∨
          unsigned.map Char.toLower = "infinity".toList then
        some (if negative then -Binary64.infinity else Binary64.infinity)
      else if unsigned.map Char.toLower = "nan".toList then
        some (if negative then -(0 / 0) else 0 / 0)
      else (Numeral.read? t).map Numeral.value := by
  rw [Number.read?, signed]
  dsimp only
  split_ifs <;> rfl

/-- What is read is the value of a number, or a name that stands for no finite one. -/
theorem read?_cases (t : Text) : Number.read? t = (Numeral.read? t).map Numeral.value ∨
    Numeral.read? t = none ∧ ∃ y, Number.read? t = some y ∧ y.isFinite = false := by
  cases signed : Numeral.sign t with | _ negative unsigned
  rw [read?_of_sign signed]
  by_cases infinite : unsigned.map Char.toLower = "inf".toList ∨
      unsigned.map Char.toLower = "infinity".toList
  · rw [if_pos infinite]
    refine .inr ⟨Numeral.read?_of_stops signed ?_, _, rfl, ?_⟩
    · rcases infinite with name | name
      · exact stops_of_name name rfl
      · exact stops_of_name name rfl
    · cases negative <;> decide +kernel
  · rw [if_neg infinite]
    by_cases nan : unsigned.map Char.toLower = "nan".toList
    · rw [if_pos nan]
      refine .inr ⟨Numeral.read?_of_stops signed (stops_of_name nan rfl), _, rfl, ?_⟩
      cases negative <;> decide +kernel
    · rw [if_neg nan]
      exact .inl rfl

theorem read?_of_numeral {n : Numeral} (h : Numeral.read? t = some n) :
    Number.read? t = some n.value := by
  rcases read?_cases t with value | ⟨none, -⟩
  · rw [value, h, Option.map_some]
  · rw [none] at h
    cases h

/-- A text that is read as a finite number is a number from end to end. -/
theorem whole?_eq_some_iff_read? :
    whole? t = some x ↔ Number.read? t = some x ∧ x.isFinite = true := by
  rw [whole?_eq_some_iff]
  rcases read?_cases t with value | ⟨none, y, name, infinite⟩
  · rw [value, Option.map_eq_some_iff]
    constructor
    · rintro ⟨n, read, same, finite⟩
      exact ⟨⟨n, read, same⟩, finite⟩
    · rintro ⟨⟨n, read, same⟩, finite⟩
      exact ⟨n, read, same, finite⟩
  · rw [none, name]
    constructor
    · rintro ⟨n, read, -⟩
      cases read
    · rintro ⟨same, finite⟩
      cases same
      rw [infinite] at finite
      cases finite

/-- The number between the blanks is the number at the start if it is all there is. -/
theorem whole?_trim_eq_some_iff :
    whole? t.trim = some x ↔ leading? t.trimStart = some x ∧ Numeral.Leads t.trimStart t.trim := by
  rw [leading?_eq_some_iff]
  constructor
  · intro whole
    obtain ⟨n, read, -⟩ := whole?_eq_some_iff.mp whole
    have leads := Numeral.leads_trim_iff.mpr (Numeral.isText_iff.mpr ⟨n, read⟩)
    exact ⟨⟨t.trim, leads, whole⟩, leads⟩
  · rintro ⟨⟨front, leads, whole⟩, all⟩
    rwa [leads.unique all] at whole

end Number

section Keys

variable {t : Text} {x : Float}

theorem SortKey.ofCell_text_eq_number_iff (grid : Grid) (headers : List Text)
    (plain : Cell.isFormulaText t = false) :
    ofCell grid headers (.text t) = number x ↔ Number.whole? t.trim = some x := by
  rw [ofCell, plain, if_neg Bool.false_ne_true, ofPlainText]
  cases whole : Number.whole? t.trim with
  | none => exact ⟨nofun, nofun⟩
  | some y => rw [number.injEq, Option.some.injEq]

theorem Cell.numericValue?_text (plain : isFormulaText t = false) :
    (text t).numericValue? = Number.leading? t.trimStart := by
  rw [numericValue?, plain, if_neg Bool.false_ne_true]

/-- Sorting and summing agree on what a number is. A text that is no formula sorts as a number just
when an aggregate counts it as this number and the longest number at its start is all there is
between its blanks. It sorts as what is read between the blanks if that is finite, and counts as
what the longest number at its start is read as if that is finite. -/
theorem SortKey.number_iff_counted (grid : Grid) (headers : List Text)
    (plain : Cell.isFormulaText t = false) (x : Float) :
    (ofCell grid headers (.text t) = number x ↔
      (Cell.text t).numericValue? = some x ∧ Numeral.Leads t.trimStart t.trim) ∧
    (ofCell grid headers (.text t) = number x ↔
      Number.read? t.trim = some x ∧ x.isFinite = true) ∧
    ((Cell.text t).numericValue? = some x ↔
      ∃ front, Numeral.Leads t.trimStart front ∧ Number.read? front = some x ∧
        x.isFinite = true) := by
  rw [ofCell_text_eq_number_iff grid headers plain, Cell.numericValue?_text plain]
  refine ⟨Number.whole?_trim_eq_some_iff, Number.whole?_eq_some_iff_read?, ?_⟩
  simp only [Number.leading?_eq_some_iff, Number.whole?_eq_some_iff_read?]

theorem SortKey.paddedNumber_counted :
    Cell.isFormulaText "\u00a0-.5e1 ".toList = false ∧
    ofCell [] [] (.text "\u00a0-.5e1 ".toList) = number (-5) ∧
    (Cell.text "\u00a0-.5e1 ".toList).numericValue? = some (-5) := by
  have plain : Cell.isFormulaText "\u00a0-.5e1 ".toList = false := rfl
  obtain ⟨counted, read, -⟩ := number_iff_counted [] [] plain (-5)
  have sorted := read.mpr (by decide +kernel)
  exact ⟨plain, sorted, (counted.mp sorted).1⟩

/-- What follows a number is passed over in summing only. -/
example : SortKey.ofCell [] [] (.text "5 kg".toList) = .text "5 kg".toList ∧
    (Cell.text "5 kg".toList).numericValue? = some 5 := by
  decide +kernel

end Keys

end Spreadsheet
