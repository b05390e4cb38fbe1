import Mathlib.Data.List.TakeWhile
import Spreadsheet.Number.Numeral
import Spreadsheet.Proofs.ReferenceText

/-!
# Texts of numbers

A number is typed as an optional sign, digits with an optional point and at least one digit, and an
optional exponent. What is scanned off the front of a text is the longest text of this form that
begins it, so the form decides what a text is read as, on its own or followed by something else.
-/

namespace Spreadsheet

open Text

namespace Numeral

/-- An exponent as it is typed. -/
structure Power where
  capital : Bool
  minus? : Option Bool
  digits : Text

/-- A number as it is typed: its sign, digits, the digits behind a point, and an exponent. -/
structure Form where
  minus? : Option Bool
  whole : Text
  fraction? : Option Text
  power? : Option Power

def signText : Option Bool → Text
  | none => []
  | some false => ['+']
  | some true => ['-']

def fractionText : Option Text → Text
  | none => []
  | some digits => '.' :: digits

def Power.toText (p : Power) : Text :=
  (if p.capital then 'E' else 'e') :: (signText p.minus? ++ p.digits)

def powerText : Option Power → Text
  | none => []
  | some p => p.toText

def Power.value (p : Power) : Int :=
  if p.minus?.getD false then -(Text.toNat p.digits : Int) else Text.toNat p.digits

def powerValue : Option Power → Int
  | none => 0
  | some p => p.value

namespace Form

def toText (f : Form) : Text :=
  signText f.minus? ++ (f.whole ++ (fractionText f.fraction? ++ powerText f.power?))

def fraction (f : Form) : Text :=
  f.fraction?.getD []

/-- What a form stands for. -/
def numeral (f : Form) : Numeral :=
  ⟨f.minus?.getD false, Text.toNat (f.whole ++ f.fraction),
    powerValue f.power? - f.fraction.length⟩

end Form

/-- Digits before a point or behind it. -/
structure IsMantissa (whole fraction : Text) : Prop where
  before : ∀ c ∈ whole, c.isDigit = true
  behind : ∀ c ∈ fraction, c.isDigit = true
  any : whole = [] → fraction ≠ []

/-- An exponent has digits. -/
def IsPower (power? : Option Power) : Prop :=
  ∀ p, power? = some p → p.digits ≠ [] ∧ ∀ c ∈ p.digits, c.isDigit = true

structure Form.Proper (f : Form) : Prop where
  mantissa : IsMantissa f.whole f.fraction
  power : IsPower f.power?

/-- A text that is a number from end to end. -/
def IsText (t : Text) : Prop :=
  ∃ f : Form, f.Proper ∧ t = f.toText

/-- The longest text of a number that a text begins with. -/
structure Leads (t front : Text) : Prop where
  isText : IsText front
  prefixed : front <+: t
  longest : ∀ other, IsText other → other <+: t → other.length ≤ front.length

section Sign

def isSign (c : Char) : Bool :=
  c == '+' || c == '-'

theorem sign_of_stops {t : Text} (stop : Stops isSign t) : sign t = (false, t) := by
  unfold sign
  split
  · cases stop '+' rfl
  · cases stop '-' rfl
  · rfl

theorem sign_append {rest : Text} (minus? : Option Bool) (stop : Stops isSign rest) :
    sign (signText minus? ++ rest) = (minus?.getD false, rest) := by
  rcases minus? with _ | _ | _
  · exact sign_of_stops stop
  · rfl
  · rfl

theorem exists_sign (t : Text) :
    ∃ minus? rest, t = signText minus? ++ rest ∧ sign t = (minus?.getD false, rest) := by
  unfold sign
  split
  · exact ⟨some false, _, rfl, rfl⟩
  · exact ⟨some true, _, rfl, rfl⟩
  · exact ⟨none, t, rfl, rfl⟩

theorem stops_sign_of_digits {digits : Text} (some : digits ≠ [])
    (decimal : ∀ c ∈ digits, c.isDigit = true) (rest : Text) : Stops isSign (digits ++ rest) := by
  refine .append some (fun c hc => ?_) rest
  have digit := decimal c hc
  rw [← Bool.not_eq_true]
  intro sign
  rcases Bool.or_eq_true_iff.mp sign with plus | minus
  · rw [beq_iff_eq.mp plus] at digit
    cases digit
  · rw [beq_iff_eq.mp minus] at digit
    cases digit

end Sign

section Mantissa

variable {t whole fraction after tail : Text}

/-- Digits, a point, and digits. -/
theorem mantissa?_point (rest : t.dropWhile Char.isDigit = '.' :: after) :
    mantissa? t =
      if t.takeWhile Char.isDigit = [] ∧ after.takeWhile Char.isDigit = [] then none
      else some (t.takeWhile Char.isDigit, digitRun after) := by
  cases whole : t.takeWhile Char.isDigit with
  | nil => cases fraction : after.takeWhile Char.isDigit <;> simp [mantissa?, digitRun, *]
  | cons => simp [mantissa?, digitRun, rest, whole]

/-- Digits without a point behind them. -/
theorem mantissa?_plain (rest : (t.dropWhile Char.isDigit).head? ≠ some '.') :
    mantissa? t =
      if t.takeWhile Char.isDigit = [] then none
      else some (t.takeWhile Char.isDigit, [], t.dropWhile Char.isDigit) := by
  have point : ∀ after, t.dropWhile Char.isDigit = '.' :: after → False := by
    intro after same
    exact rest (congrArg List.head? same)
  cases whole : t.takeWhile Char.isDigit with
  | nil => simp [mantissa?, digitRun, whole]
  | cons => simp [mantissa?, digitRun, whole]

/-- What a mantissa goes on with. -/
def isMantissaChar (c : Char) : Bool :=
  c.isDigit || c == '.'

theorem digits_append (decimal : ∀ c ∈ whole, c.isDigit = true) (tail : Text) :
    (whole ++ tail).takeWhile Char.isDigit = whole ++ tail.takeWhile Char.isDigit ∧
      (whole ++ tail).dropWhile Char.isDigit = tail.dropWhile Char.isDigit :=
  ⟨List.takeWhile_append_of_pos decimal, List.dropWhile_append_of_pos decimal⟩

/-- Of a text that begins with a mantissa this much is taken at least, and no more if the mantissa
ends there. -/
theorem mantissa?_append {fraction? : Option Text}
    (mantissa : IsMantissa whole (fraction?.getD [])) (tail : Text) :
    ∃ whole' fraction' after,
      mantissa? (whole ++ (fractionText fraction? ++ tail)) = some (whole', fraction', after) ∧
      after <:+ tail ∧
      (Stops isMantissaChar tail →
        whole' = whole ∧ fraction' = fraction?.getD [] ∧ after = tail) := by
  obtain ⟨before, behind, any⟩ := mantissa
  have stops : Stops isMantissaChar tail → Stops Char.isDigit tail := fun stop =>
    stop.mono fun c digit => by rw [isMantissaChar, digit, Bool.true_or]
  cases fraction? with
  | some fraction =>
    rw [Option.getD_some] at behind any ⊢
    have stop : Stops Char.isDigit ('.' :: (fraction ++ tail)) := .cons rfl _
    have drop := dropWhile_run before stop
    obtain ⟨taken, left⟩ := digits_append behind tail
    change ∃ whole' fraction' after,
      mantissa? (whole ++ '.' :: (fraction ++ tail)) = _ ∧ _
    rw [mantissa?_point drop, takeWhile_run before stop, digitRun, taken, left, if_neg]
    · refine ⟨_, _, _, rfl, List.dropWhile_suffix _, fun stop => ⟨rfl, ?_, ?_⟩⟩
      · rw [(stops stop).takeWhile_eq_nil, List.append_nil]
      · exact (stops stop).dropWhile_eq_self
    · rintro ⟨none, none'⟩
      exact any none (List.append_eq_nil_iff.mp none').1
  | none =>
    obtain ⟨taken, left⟩ := digits_append before tail
    have digits : whole ++ tail.takeWhile Char.isDigit ≠ [] := fun none =>
      any (List.append_eq_nil_iff.mp none).1 rfl
    change ∃ whole' fraction' after, mantissa? (whole ++ tail) = _ ∧ _
    by_cases point : (tail.dropWhile Char.isDigit).head? = some '.'
    · obtain ⟨after, shape⟩ := List.head?_eq_some_iff.mp point
      rw [mantissa?_point (left.trans shape), taken, if_neg fun none => digits none.1]
      refine ⟨_, _, _, rfl, ?_, fun stop => ?_⟩
      · have behind : after <:+ tail.dropWhile Char.isDigit := shape ▸ List.suffix_cons '.' after
        exact (List.dropWhile_suffix _).trans (behind.trans (List.dropWhile_suffix _))
      · rw [(stops stop).dropWhile_eq_self] at point
        cases stop '.' point
    · rw [mantissa?_plain (left ▸ point), taken, left, if_neg digits]
      refine ⟨_, _, _, rfl, List.dropWhile_suffix _, fun stop => ⟨?_, rfl, ?_⟩⟩
      · rw [(stops stop).takeWhile_eq_nil, List.append_nil]
      · exact (stops stop).dropWhile_eq_self

theorem exists_mantissa {fraction : Text} (h : mantissa? t = some (whole, fraction, after)) :
    ∃ fraction?, t = whole ++ (fractionText fraction? ++ after) ∧ fraction = fraction?.getD [] ∧
      IsMantissa whole fraction := by
  have whole_append : t.takeWhile Char.isDigit ++ t.dropWhile Char.isDigit = t :=
    List.takeWhile_append_dropWhile
  have digits : ∀ t : Text, ∀ c ∈ t.takeWhile Char.isDigit, c.isDigit = true := fun t c hc =>
    List.mem_takeWhile_imp hc
  by_cases point : (t.dropWhile Char.isDigit).head? = some '.'
  · obtain ⟨behind, shape⟩ := List.head?_eq_some_iff.mp point
    rw [mantissa?_point shape] at h
    split at h
    · cases h
    · rename_i any
      cases h
      refine ⟨some (behind.takeWhile Char.isDigit), ?_, rfl, digits t, digits behind, ?_⟩
      · rw [fractionText, List.cons_append, List.takeWhile_append_dropWhile, ← shape, whole_append]
      · exact fun none none' => any ⟨none, none'⟩
  · rw [mantissa?_plain point] at h
    split at h
    · cases h
    · rename_i any
      cases h
      refine ⟨none, whole_append.symm, rfl, digits t, List.forall_mem_nil _, fun none => ?_⟩
      exact absurd none any

end Mantissa

section Power

variable {t rest tail : Text} {p : Power}

theorem exponentPart_mark {mark : Char} (exponent : mark = 'e' ∨ mark = 'E') {negative : Bool}
    {unsigned : Text} (signed : sign t = (negative, unsigned)) :
    exponentPart (mark :: t) =
      if unsigned.takeWhile Char.isDigit = [] then (0, mark :: t)
      else
        (if negative then -(Text.toNat (unsigned.takeWhile Char.isDigit) : Int)
          else Text.toNat (unsigned.takeWhile Char.isDigit), unsigned.dropWhile Char.isDigit) := by
  rw [exponentPart, if_pos exponent, signed]
  dsimp only
  rw [digitRun]
  cases unsigned.takeWhile Char.isDigit <;> rfl

/-- An exponent begins with its mark. -/
theorem exponentPart_of_stops (stop : Stops (fun c => c == 'e' || c == 'E') t) :
    exponentPart t = (0, t) := by
  cases t with
  | nil => rfl
  | cons c rest =>
    have other : ¬(c = 'e' ∨ c = 'E') := by simpa using stop c rfl
    rw [exponentPart, if_neg other]

/-- An exponent is taken with all the digits that follow. -/
theorem exponentPart_append (any : p.digits ≠ []) (decimal : ∀ c ∈ p.digits, c.isDigit = true)
    (tail : Text) :
    (exponentPart (p.toText ++ tail)).2 = tail.dropWhile Char.isDigit ∧
      (Stops Char.isDigit tail → exponentPart (p.toText ++ tail) = (p.value, tail)) := by
  have mark : (if p.capital then 'E' else 'e') = 'e' ∨ (if p.capital then 'E' else 'e') = 'E' := by
    cases p.capital <;> decide
  have signed := sign_append p.minus? (stops_sign_of_digits any decimal tail)
  obtain ⟨taken, left⟩ := digits_append decimal tail
  rw [Power.toText, List.cons_append, List.append_assoc, exponentPart_mark mark signed, taken, left,
    if_neg fun none => any (List.append_eq_nil_iff.mp none).1]
  refine ⟨rfl, fun stop => ?_⟩
  rw [stop.takeWhile_eq_nil, List.append_nil, stop.dropWhile_eq_self, Power.value]

theorem exists_power (t : Text) :
    ∃ power? rest, t = powerText power? ++ rest ∧ exponentPart t = (powerValue power?, rest) ∧
      IsPower power? := by
  cases t with
  | nil => exact ⟨none, [], rfl, rfl, nofun⟩
  | cons mark after =>
    by_cases exponent : mark = 'e' ∨ mark = 'E'
    · obtain ⟨minus?, unsigned, shape, signed⟩ := exists_sign after
      rw [exponentPart_mark exponent signed]
      split
      · exact ⟨none, mark :: after, rfl, rfl, nofun⟩
      · rename_i any
        refine ⟨some ⟨mark == 'E', minus?, unsigned.takeWhile Char.isDigit⟩,
          unsigned.dropWhile Char.isDigit, ?_, rfl, ?_⟩
        · have letter : (if (mark == 'E') = true then 'E' else 'e') = mark := by
            rcases exponent with rfl | rfl <;> rfl
          rw [powerText, Power.toText, letter, List.cons_append, List.append_assoc,
            List.takeWhile_append_dropWhile, ← shape]
        · rintro p ⟨⟩
          exact ⟨any, fun c hc => List.mem_takeWhile_imp hc⟩
    · exact ⟨none, mark :: after, rfl, by rw [exponentPart, if_neg exponent]; rfl, nofun⟩

end Power

section Scan

variable {t rest tail : Text} {f : Form} {n : Numeral}

/-- What a number goes on with. -/
def isNumeralChar (c : Char) : Bool :=
  isMantissaChar c || c == 'e' || c == 'E'

/-- A text without its sign begins with a digit or a point. -/
theorem IsMantissa.stops_sign {whole : Text} {fraction? : Option Text}
    (mantissa : IsMantissa whole (fraction?.getD [])) (tail : Text) :
    Stops isSign (whole ++ (fractionText fraction? ++ tail)) := by
  cases whole with
  | cons c whole => exact stops_sign_of_digits (List.cons_ne_nil c whole) mantissa.before _
  | nil =>
    cases fraction? with
    | none => exact absurd rfl (mantissa.any rfl)
    | some fraction => exact .cons rfl _

theorem Form.toText_append (f : Form) (tail : Text) :
    f.toText ++ tail = signText f.minus? ++
      (f.whole ++ (fractionText f.fraction? ++ (powerText f.power? ++ tail))) := by
  simp only [Form.toText, List.append_assoc]

theorem scan?_of_sign {negative : Bool} {unsigned : Text} (signed : sign t = (negative, unsigned)) :
    scan? t = (mantissa? unsigned).map fun (whole, fraction, after) =>
      (⟨negative, Text.toNat (whole ++ fraction), (exponentPart after).1 - fraction.length⟩,
        (exponentPart after).2) := by
  rw [scan?, signed]

/-- No mantissa goes on with an exponent. -/
theorem stops_powerText (p : Power) (tail : Text) :
    Stops isMantissaChar (powerText (some p) ++ tail) := by
  cases capital : p.capital <;>
  · rw [powerText, Power.toText, capital]
    exact .cons rfl _

theorem suffix_exponentPart (t : Text) : (exponentPart t).2 <:+ t := by
  obtain ⟨power?, rest, shape, read, -⟩ := exists_power t
  rw [read]
  exact ⟨powerText power?, shape.symm⟩

/-- Of a text that begins with a number at least this number is scanned. -/
theorem Form.Proper.scan?_append (proper : f.Proper) (tail : Text) :
    ∃ n rest, scan? (f.toText ++ tail) = some (n, rest) ∧ rest <:+ tail := by
  have signed := sign_append f.minus? (proper.mantissa.stops_sign (powerText f.power? ++ tail))
  obtain ⟨whole, fraction, after, mantissa, suffix, exact⟩ :=
    mantissa?_append proper.mantissa (powerText f.power? ++ tail)
  rw [f.toText_append, scan?_of_sign signed, mantissa]
  refine ⟨_, _, rfl, ?_⟩
  cases power : f.power? with
  | none =>
    rw [power] at suffix
    exact (suffix_exponentPart after).trans suffix
  | some p =>
    rw [power] at exact
    obtain ⟨any, decimal⟩ := proper.power p power
    rw [(exact (stops_powerText p tail)).2.2]
    exact (exponentPart_append any decimal tail).1 ▸ List.dropWhile_suffix _

/-- If no number goes on with what follows, this number is what is scanned. -/
theorem Form.Proper.scan?_stops (proper : f.Proper) (stop : Stops isNumeralChar tail) :
    scan? (f.toText ++ tail) = some (f.numeral, tail) := by
  have signed := sign_append f.minus? (proper.mantissa.stops_sign (powerText f.power? ++ tail))
  obtain ⟨whole, fraction, after, mantissa, -, exact⟩ :=
    mantissa?_append proper.mantissa (powerText f.power? ++ tail)
  rw [f.toText_append, scan?_of_sign signed, mantissa]
  have ends : Stops isMantissaChar (powerText f.power? ++ tail) ∧
      exponentPart (powerText f.power? ++ tail) = (powerValue f.power?, tail) := by
    cases power : f.power? with
    | none =>
      refine ⟨stop.mono fun c goes => ?_, exponentPart_of_stops (stop.mono fun c goes => ?_)⟩
      · rw [isNumeralChar, goes, Bool.true_or, Bool.true_or]
      · rw [isNumeralChar, Bool.or_assoc, goes, Bool.or_true]
    | some p =>
      obtain ⟨any, decimal⟩ := proper.power p power
      refine ⟨stops_powerText p tail, (exponentPart_append any decimal tail).2 ?_⟩
      exact stop.mono fun c digit => by
        rw [isNumeralChar, isMantissaChar, digit, Bool.true_or, Bool.true_or, Bool.true_or]
  obtain ⟨rfl, rfl, rfl⟩ := exact ends.1
  rw [Option.map_some]
  dsimp only
  rw [ends.2]
  rfl

/-- What is scanned is a number. -/
theorem exists_form (h : scan? t = some (n, rest)) :
    ∃ f : Form, f.Proper ∧ t = f.toText ++ rest ∧ n = f.numeral := by
  obtain ⟨minus?, unsigned, shape, signed⟩ := exists_sign t
  rw [scan?_of_sign signed] at h
  obtain ⟨⟨whole, fraction, after⟩, mantissa, same⟩ := Option.map_eq_some_iff.mp h
  obtain ⟨fraction?, shape', rfl, isMantissa⟩ := exists_mantissa mantissa
  obtain ⟨power?, rest', shape'', power, isPower⟩ := exists_power after
  dsimp only at same
  rw [power] at same
  cases same
  refine ⟨⟨minus?, whole, fraction?, power?⟩, ⟨isMantissa, isPower⟩, ?_, rfl⟩
  rw [Form.toText_append, ← shape'', ← shape', ← shape]

theorem Form.Proper.read? (proper : f.Proper) : read? f.toText = some f.numeral := by
  have scanned := proper.scan?_stops (.nil _)
  rw [List.append_nil] at scanned
  rw [Numeral.read?, scanned]

/-- A text is read as a number if it has the form of one. -/
theorem read?_eq_some_iff :
    Numeral.read? t = some n ↔ ∃ f : Form, f.Proper ∧ t = f.toText ∧ n = f.numeral := by
  constructor
  · intro h
    rw [Numeral.read?] at h
    split at h
    · rename_i scanned
      cases h
      obtain ⟨f, proper, shape, same⟩ := exists_form scanned
      exact ⟨f, proper, shape.trans (List.append_nil _), same⟩
    · cases h
  · rintro ⟨f, proper, rfl, rfl⟩
    exact proper.read?

theorem isText_iff : IsText t ↔ ∃ n, Numeral.read? t = some n := by
  simp only [read?_eq_some_iff]
  constructor
  · rintro ⟨f, proper, rfl⟩
    exact ⟨f.numeral, f, proper, rfl, rfl⟩
  · rintro ⟨n, f, proper, rfl, -⟩
    exact ⟨f, proper, rfl⟩

/-- What is scanned is the longest number at the front. -/
theorem scan?_eq_some_iff : scan? t = some (n, rest) ↔
    ∃ front, t = front ++ rest ∧ Leads t front ∧ Numeral.read? front = some n := by
  constructor
  · intro h
    obtain ⟨f, proper, shape, rfl⟩ := exists_form h
    refine ⟨f.toText, shape, ⟨⟨f, proper, rfl⟩, ⟨rest, shape.symm⟩, ?_⟩, proper.read?⟩
    rintro other ⟨f', proper', rfl⟩ ⟨tail, shape'⟩
    obtain ⟨n', rest', scanned, suffix⟩ := proper'.scan?_append tail
    rw [shape', h] at scanned
    cases scanned
    have lengths := congrArg List.length (shape'.trans shape)
    have shorter := suffix.length_le
    simp only [List.length_append] at lengths
    omega
  · rintro ⟨front, shape, ⟨⟨f, proper, rfl⟩, -, longest⟩, value⟩
    obtain ⟨n', rest', scanned, suffix⟩ := proper.scan?_append rest
    rw [← shape] at scanned
    obtain ⟨f', proper', shape', rfl⟩ := exists_form scanned
    -- neither of the two fronts is longer than the other
    have le := longest f'.toText ⟨f', proper', rfl⟩ ⟨rest', shape'.symm⟩
    have ge := suffix.length_le
    have lengths := congrArg List.length (shape'.symm.trans shape)
    simp only [List.length_append] at lengths
    obtain ⟨fronts, rests⟩ := List.append_inj (shape'.symm.trans shape) (by omega)
    have value' := proper'.read?
    rw [fronts, value] at value'
    cases value'
    rw [scanned, rests]

end Scan

section Leads

variable {t front tail : Text}

theorem Leads.unique {front' : Text} (leads : Leads t front) (leads' : Leads t front') :
    front = front' := by
  have le := leads.longest front' leads'.isText leads'.prefixed
  have ge := leads'.longest front leads.isText leads.prefixed
  exact (List.prefix_of_prefix_length_le leads.prefixed leads'.prefixed ge).eq_of_length
    (Nat.le_antisymm ge le)

/-- Where no number goes on, a number is the longest one. -/
theorem IsText.leads_append (number : IsText front) (stop : Stops isNumeralChar tail) :
    Leads (front ++ tail) front := by
  obtain ⟨f, proper, rfl⟩ := number
  obtain ⟨front', shape, leads, -⟩ := scan?_eq_some_iff.mp (proper.scan?_stops stop)
  rwa [← List.append_cancel_right shape] at leads

theorem IsText.leads_self (number : IsText t) : Leads t t := by
  have leads := number.leads_append (.nil _)
  rwa [List.append_nil] at leads

end Leads

end Numeral

/-- A number from end to end is what counts at the start. -/
theorem Number.leading?_of_read? {t : Text} {n : Numeral} (h : Numeral.read? t = some n) :
    leading? t = n.finiteValue? := by
  have leads := (Numeral.isText_iff.mpr ⟨n, h⟩).leads_self
  have scanned := Numeral.scan?_eq_some_iff.mpr ⟨t, (List.append_nil t).symm, leads, h⟩
  rw [leading?, scanned, Option.bind_some]

/-- What counts at the start of a text is the longest number there. -/
theorem Number.leading?_eq_some_iff {t : Text} {x : Float} : leading? t = some x ↔
    ∃ front, Numeral.Leads t front ∧ whole? front = some x := by
  simp only [leading?, whole?, Option.bind_eq_some_iff, Prod.exists, Numeral.scan?_eq_some_iff]
  constructor
  · rintro ⟨n, rest, ⟨front, -, leads, read⟩, value⟩
    exact ⟨front, leads, n, read, value⟩
  · rintro ⟨front, leads, n, read, value⟩
    obtain ⟨rest, shape⟩ := leads.prefixed
    exact ⟨n, rest, ⟨front, shape.symm, leads, read⟩, value⟩

end Spreadsheet
