import Spreadsheet.Number
import Spreadsheet.Proofs.FiniteNumbers
import Spreadsheet.Proofs.JsonTokens
import Spreadsheet.Proofs.NumeralTexts
import Spreadsheet.Proofs.RoundingIntervals

/-!
# Numbers as they are written

A number is written with digits, a fraction and an exponent. Wherever the point is set, the text is
a literal, and it is read as the decimal that was set. That decimal lies in the rounding interval of
the number, so the number can be told from its text.
-/

namespace Spreadsheet

open Text

/-- What a magnitude is written with: digits, the digits of a fraction and an exponent. -/
structure Spelling where
  whole : Text
  fraction : Text
  exponent? : Option Int

namespace Spelling

def fractionText (s : Spelling) : Text :=
  if s.fraction = [] then [] else '.' :: s.fraction

def exponentText (s : Spelling) : Text :=
  match s.exponent? with
  | none => []
  | some e => 'e' :: (if e < 0 then '-' else '+') :: Text.ofNat e.natAbs

def toText (s : Spelling) : Text :=
  s.whole ++ (s.fractionText ++ s.exponentText)

/-- Digits with one in front that is no zero, unless it stands alone. -/
structure Proper (s : Spelling) : Prop where
  whole : ∀ c ∈ s.whole, c.isDigit = true
  fraction : ∀ c ∈ s.fraction, c.isDigit = true
  first : s.whole ≠ []
  lead : s.whole.head? = some '0' → s.whole.length = 1

/-- What a spelling stands for. -/
def numeral (negative : Bool) (s : Spelling) : Numeral :=
  ⟨negative, Text.toNat (s.whole ++ s.fraction), s.exponent?.getD 0 - s.fraction.length⟩

variable {s : Spelling}

theorem stops_exponentText (s : Spelling) : Stops Char.isDigit s.exponentText := by
  rw [exponentText]
  split
  · exact .nil _
  · exact .cons rfl _

theorem stops_fractionText (s : Spelling) :
    Stops Char.isDigit (s.fractionText ++ s.exponentText) := by
  rw [fractionText]
  split
  · exact s.stops_exponentText
  · exact .cons rfl _

theorem exponentPart?_exponentText (s : Spelling) :
    Json.exponentPart? s.exponentText = some (s.exponentText, []) := by
  rw [exponentText]
  split
  · rfl
  · rename_i e _
    obtain ⟨taken, dropped⟩ := digits_ofNat e.natAbs
    have some := Text.ofNat_ne_nil e.natAbs
    split <;> simp [Json.exponentPart?, Json.exponentSign, taken, dropped, some]

theorem Proper.fractionPart? (proper : s.Proper) :
    Json.fractionPart? (s.fractionText ++ s.exponentText) =
      some (s.fractionText, s.exponentText) := by
  rw [fractionText]
  split
  · rw [exponentText]
    split <;> rfl
  · rename_i some
    simp only [List.cons_append, Json.fractionPart?,
      takeWhile_run proper.fraction s.stops_exponentText,
      dropWhile_run proper.fraction s.stops_exponentText, if_neg some]

/-- The text begins with a digit. -/
theorem Proper.toText_cons (proper : s.Proper) :
    ∃ c t, s.toText = c :: t ∧ c.isDigit = true := by
  obtain ⟨c, t, shape⟩ := List.exists_cons_of_ne_nil proper.first
  exact ⟨c, t ++ _, by rw [toText, shape]; rfl, proper.whole c (by simp [shape])⟩

/-- A spelling is one literal, with or without a sign. -/
theorem Proper.isLiteral (proper : s.Proper) (negative : Bool) :
    Json.IsLiteral ((if negative then ['-'] else []) ++ s.toText) := by
  have signed : Json.signPart ((if negative then ['-'] else []) ++ s.toText) =
      (if negative then ['-'] else [], s.toText) := by
    cases negative with
    | true => rfl
    | false =>
      obtain ⟨c, t, shape, digit⟩ := proper.toText_cons
      rw [shape]
      change Json.signPart (c :: t) = ([], c :: t)
      unfold Json.signPart
      split
      · rename_i same
        cases same
        cases digit
      · rfl
  have well : ¬(s.whole = [] ∨ s.whole.head? = some '0' ∧ s.whole.length ≠ 1) := by
    rintro (none | ⟨zero, long⟩)
    · exact proper.first none
    · exact long (proper.lead zero)
  rw [Json.IsLiteral, Json.literal?_eq, signed]
  dsimp only
  rw [toText, takeWhile_run proper.whole s.stops_fractionText,
    dropWhile_run proper.whole s.stops_fractionText, if_neg well, proper.fractionPart?]
  dsimp only [Option.bind_some]
  rw [s.exponentPart?_exponentText]
  simp only [Option.bind_some, List.append_assoc]

/-- A spelling with its sign as the form of a number. -/
def form (negative : Bool) (s : Spelling) : Numeral.Form where
  minus? := if negative then some true else none
  whole := s.whole
  fraction? := if s.fraction = [] then none else some s.fraction
  power? := s.exponent?.map fun e => ⟨false, some (decide (e < 0)), Text.ofNat e.natAbs⟩

theorem fraction_form (negative : Bool) (s : Spelling) :
    (s.form negative).fraction = s.fraction := by
  rw [Numeral.Form.fraction, form]
  dsimp only
  split
  · rename_i none
    exact none.symm
  · rfl

theorem toText_form (negative : Bool) (s : Spelling) :
    (s.form negative).toText = (if negative then ['-'] else []) ++ s.toText := by
  have sign : Numeral.signText (s.form negative).minus? = if negative then ['-'] else [] := by
    cases negative <;> rfl
  have fraction : Numeral.fractionText (s.form negative).fraction? = s.fractionText := by
    rw [form, fractionText]
    dsimp only
    split <;> rfl
  have power : Numeral.powerText (s.form negative).power? = s.exponentText := by
    rw [form, exponentText]
    cases s.exponent? with
    | none => rfl
    | some e =>
      by_cases below : e < 0 <;>
        simp [below, Numeral.powerText, Numeral.Power.toText, Numeral.signText]
  rw [Numeral.Form.toText, sign, fraction, power]
  rfl

theorem powerValue_form (negative : Bool) (s : Spelling) :
    Numeral.powerValue (s.form negative).power? = s.exponent?.getD 0 := by
  rw [form]
  cases s.exponent? with
  | none => rfl
  | some e =>
    simp only [Option.map_some, Numeral.powerValue, Numeral.Power.value, Text.toNat_ofNat,
      Option.getD_some, decide_eq_true_eq]
    omega

theorem Proper.form (proper : s.Proper) (negative : Bool) : (s.form negative).Proper where
  mantissa := ⟨proper.whole, (fraction_form negative s).symm ▸ proper.fraction,
    fun none => absurd none proper.first⟩
  power := by
    intro p given
    obtain ⟨e, -, rfl⟩ := Option.map_eq_some_iff.mp given
    exact ⟨Text.ofNat_ne_nil _, fun c hc => Text.isDigit_of_mem_ofNat hc⟩

/-- A spelling is read as what it stands for. -/
theorem Proper.read? (proper : s.Proper) (negative : Bool) :
    Numeral.read? ((if negative then ['-'] else []) ++ s.toText) = some (s.numeral negative) := by
  rw [← toText_form, (proper.form negative).read?, Numeral.Form.numeral, fraction_form,
    powerValue_form]
  cases negative <;> rfl

end Spelling

/-- The number that a numeral stands for, apart from its sign. -/
def Numeral.size (n : Numeral) : ℚ :=
  n.digits * 10 ^ n.exponent

/-- A text that spells a number without a sign. -/
def Spells (t : Text) (q : ℚ) : Prop :=
  ∃ s : Spelling, s.Proper ∧ t = s.toText ∧ (s.numeral false).size = q

theorem Spells.isLiteral {t : Text} {q : ℚ} (h : Spells t q) (negative : Bool) :
    Json.IsLiteral ((if negative then ['-'] else []) ++ t) := by
  obtain ⟨s, proper, rfl, -⟩ := h
  exact proper.isLiteral negative

/-- A text, with its sign, spells one number only. -/
theorem Spells.unique {t t' : Text} {q q' : ℚ} {negative negative' : Bool} (h : Spells t q)
    (h' : Spells t' q')
    (same : (if negative then ['-'] else []) ++ t = (if negative' then ['-'] else []) ++ t') :
    negative = negative' ∧ q = q' := by
  obtain ⟨s, proper, rfl, rfl⟩ := h
  obtain ⟨s', proper', rfl, rfl⟩ := h'
  have numerals := proper.read? negative
  rw [same, proper'.read? negative'] at numerals
  simp only [Spelling.numeral, Option.some.injEq, Numeral.mk.injEq] at numerals
  obtain ⟨rfl, digits, exponents⟩ := numerals
  simp only [Spelling.numeral, Numeral.size, digits, exponents, and_self]

theorem Text.toNat_append (t u : Text) : toNat (t ++ u) = 10 ^ u.length * toNat t + toNat u := by
  rw [toNat, Nat.ofDigitChars_append, Nat.ofDigitChars_eq_ofDigitChars_zero]
  rfl

theorem Text.toNat_zeros (n : Nat) : toNat (List.replicate n '0') = 0 := by
  rw [toNat, Nat.ofDigitChars_replicate_zero, Nat.mul_zero]

namespace Binary64.Decimal

/-- Digits of which the first is no zero. -/
structure Proper (d : Decimal) : Prop where
  digits : ∀ c ∈ d.digits, c.isDigit = true
  first : d.digits ≠ []
  lead : d.digits.head? ≠ some '0'

/-- The number that a decimal stands for. -/
def value (d : Decimal) : ℚ :=
  Text.toNat d.digits * 10 ^ (d.point - d.digits.length)

/-- Nothing but zeros is taken off the end. -/
theorem exists_zeros (d : Nat) (s : Int) :
    ∃ k, Text.ofNat d = (ofNat d s).digits ++ List.replicate k '0' := by
  refine ⟨((Text.ofNat d).reverse.takeWhile (· == '0')).length, ?_⟩
  have zeros : ((Text.ofNat d).reverse.takeWhile (· == '0')).reverse =
      List.replicate ((Text.ofNat d).reverse.takeWhile (· == '0')).length '0' := by
    rw [List.eq_replicate_iff, List.length_reverse]
    refine ⟨rfl, fun c hc => ?_⟩
    rw [List.mem_reverse] at hc
    have zero := List.mem_takeWhile_imp (p := (· == '0')) hc
    exact beq_iff_eq.mp zero
  rw [← zeros, ofNat, ← List.reverse_append, List.takeWhile_append_dropWhile, List.reverse_reverse]

theorem proper_ofNat {d : Nat} (pos : 0 < d) (s : Int) : (ofNat d s).Proper := by
  obtain ⟨k, all⟩ := exists_zeros d s
  have first := Text.head?_ofNat_ne_zero pos
  have some : (ofNat d s).digits ≠ [] := by
    intro none
    rw [none, List.nil_append] at all
    cases k with
    | zero => exact Text.ofNat_ne_nil d all
    | succ k =>
      rw [all] at first
      exact first rfl
  refine ⟨fun c hc => ?_, some, ?_⟩
  · exact Text.isDigit_of_mem_ofNat (all ▸ List.mem_append_left _ hc)
  · rwa [all, List.head?_append_of_ne_nil _ some] at first

theorem value_ofNat (d : Nat) (s : Int) : (ofNat d s).value = d * 10 ^ s := by
  obtain ⟨k, all⟩ := exists_zeros d s
  have number : d = 10 ^ k * Text.toNat (ofNat d s).digits := by
    have read := congrArg Text.toNat all
    rwa [Text.toNat_ofNat, Text.toNat_append, Text.toNat_zeros, List.length_replicate] at read
  have point : (ofNat d s).point = s + ((ofNat d s).digits.length + k : Nat) := by
    change s + ((Text.ofNat d).length : Int) = _
    rw [all, List.length_append, List.length_replicate]
  rw [value, point, show s + ((ofNat d s).digits.length + k : Nat) - (ofNat d s).digits.length =
    s + k by omega, zpow_add₀ (by norm_num), zpow_natCast]
  conv_rhs => rw [number]
  push_cast
  ring

end Binary64.Decimal

namespace Number

open Binary64

variable {d : Decimal}

theorem isDigit_of_mem_zeros {n : Nat} {c : Char} (h : c ∈ List.replicate n '0') :
    c.isDigit = true := by
  rw [(List.mem_replicate.mp h).2]
  rfl

/-- A spelling with the digits of a decimal, and zeros, stands for the decimal if the place of its
last digit is right. -/
theorem size_numeral {s : Spelling} (zeros : Nat)
    (digits : Text.toNat (s.whole ++ s.fraction) = 10 ^ zeros * Text.toNat d.digits)
    (place : s.exponent?.getD 0 - s.fraction.length + zeros = d.point - d.digits.length) :
    (s.numeral false).size = d.value := by
  rw [Numeral.size, Spelling.numeral, Decimal.value, ← place, zpow_add₀ (by norm_num), zpow_natCast]
  dsimp only
  rw [digits]
  push_cast
  ring

/-- A decimal below one, with zeros between the point and its digits. -/
theorem spells_fraction (proper : d.Proper) (small : d.point ≤ 0) :
    Spells ("0.".toList ++ List.replicate (-d.point).toNat '0' ++ d.digits) d.value := by
  refine ⟨⟨['0'], List.replicate (-d.point).toNat '0' ++ d.digits, none⟩,
    ⟨fun c hc => isDigit_of_mem_zeros (n := 1) hc, fun c hc => ?_, List.cons_ne_nil _ _,
      fun _ => rfl⟩, ?_, size_numeral 0 ?_ ?_⟩
  · rcases List.mem_append.mp hc with zero | shown
    · exact isDigit_of_mem_zeros zero
    · exact proper.digits c shown
  · simp [Spelling.toText, Spelling.fractionText, Spelling.exponentText, proper.first]
  · have zero : Text.toNat ['0'] = 0 := Text.toNat_zeros 1
    rw [Text.toNat_append, Text.toNat_append, Text.toNat_zeros, zero]
    omega
  · simp only [Option.getD_none, List.length_append, List.length_replicate]
    omega

/-- A whole decimal, with zeros between its digits and the point, and one behind it. -/
theorem spells_whole (proper : d.Proper) (whole : d.digits.length ≤ d.point.toNat) :
    Spells (d.digits ++ List.replicate (d.point.toNat - d.digits.length) '0' ++ ".0".toList)
      d.value := by
  refine ⟨⟨d.digits ++ List.replicate (d.point.toNat - d.digits.length) '0', ['0'], none⟩,
    ⟨fun c hc => ?_, fun c hc => isDigit_of_mem_zeros (n := 1) hc, ?_, fun zero => ?_⟩, ?_,
    size_numeral (d.point.toNat - d.digits.length + 1) ?_ ?_⟩
  · rcases List.mem_append.mp hc with shown | zero
    · exact proper.digits c shown
    · exact isDigit_of_mem_zeros zero
  · simp [proper.first]
  · rw [List.head?_append_of_ne_nil _ proper.first] at zero
    exact absurd zero proper.lead
  · simp [Spelling.toText, Spelling.fractionText, Spelling.exponentText]
  · have zero : Text.toNat ['0'] = 0 := Text.toNat_zeros 1
    rw [Text.toNat_append, Text.toNat_append, Text.toNat_zeros, zero, List.length_replicate,
      List.length_singleton]
    ring
  · simp only [Option.getD_none, List.length_singleton]
    have some := List.length_pos_iff.mpr proper.first
    omega

/-- A decimal with digits on both sides of the point. -/
theorem spells_mixed (proper : d.Proper) (large : 0 < d.point)
    (part : d.point.toNat < d.digits.length) :
    Spells (d.digits.take d.point.toNat ++ '.' :: d.digits.drop d.point.toNat) d.value := by
  refine ⟨⟨d.digits.take d.point.toNat, d.digits.drop d.point.toNat, none⟩,
    ⟨fun c hc => proper.digits c (List.mem_of_mem_take hc),
      fun c hc => proper.digits c (List.mem_of_mem_drop hc), ?_, fun zero => ?_⟩, ?_,
    size_numeral 0 ?_ ?_⟩
  · rw [← List.length_pos_iff, List.length_take]
    omega
  · rw [List.head?_take, if_neg (by omega)] at zero
    exact absurd zero proper.lead
  · simp [Spelling.toText, Spelling.fractionText, Spelling.exponentText, part]
  · rw [List.take_append_drop, Nat.pow_zero, Nat.one_mul]
  · simp only [Option.getD_none, List.length_drop]
    omega

/-- Set positionally, a decimal is spelled as it is. -/
theorem spells_setPositional (proper : d.Proper) :
    Spells (setPositional storedLayout d) d.value := by
  unfold setPositional
  split
  · exact spells_fraction proper ‹_›
  · rename_i large
    split
    · exact spells_whole proper ‹_›
    · rename_i part
      exact spells_mixed proper (Int.not_le.mp large) (Nat.not_le.mp part)

/-- Set with an exponent, too. -/
theorem spells_setExponent (proper : d.Proper) : Spells (setExponent d) d.value := by
  have length := List.length_pos_iff.mpr proper.first
  refine ⟨⟨d.digits.take 1, d.digits.drop 1, some (d.point - 1)⟩,
    ⟨fun c hc => proper.digits c (List.mem_of_mem_take hc),
      fun c hc => proper.digits c (List.mem_of_mem_drop hc), ?_, fun zero => ?_⟩, ?_,
    size_numeral 0 ?_ ?_⟩
  · simp [proper.first]
  · rw [List.head?_take, if_neg (by decide)] at zero
    exact absurd zero proper.lead
  · simp only [setExponent, Spelling.toText, Spelling.fractionText, Spelling.exponentText,
      List.drop_eq_nil_iff, List.append_assoc]
  · rw [List.take_append_drop, Nat.pow_zero, Nat.one_mul]
  · simp only [Option.getD_some, List.length_drop]
    omega

end Number

namespace Binary64

open Float.Model (Format UnpackedFloat)
open Float.Model.UnpackedFloat (unpackExponent unpackMantissa)

/-- Nothing in the exponent field and nothing in the fraction. -/
theorem unpack_eq_zero_iff {b : BitVec Format.binary64.numBits} :
    (∃ s, UnpackedFloat.unpack .binary64 b = .zero s) ↔
      unpackExponent b = 0#11 ∧ unpackMantissa b = 0#52 := by
  unfold UnpackedFloat.unpack
  dsimp only
  split
  · rename_i ones
    have full : unpackExponent b ≠ 0#11 := by
      rw [ones]
      decide
    split <;> simp [full]
  · split
    · split <;> simp_all
    · simp_all

/-- The exponent field and the fraction of a number. -/
theorem magnitude_eq (x : Float) : magnitude x =
    if x.toBits.toNat / 2 ^ 52 % 2 ^ 11 = 0 then ⟨x.toBits.toNat % 2 ^ 52, -1074⟩
    else ⟨x.toBits.toNat % 2 ^ 52 + 2 ^ 52, (x.toBits.toNat / 2 ^ 52 % 2 ^ 11 : Nat) - 1075⟩ :=
  rfl

/-- Equal to zero, with either sign. -/
theorem beq_zero_iff {x : Float} : (x == 0) = true ↔ (magnitude x).mantissa = 0 := by
  have zero : (x == 0) = true ↔ ∃ s, x.toModel.unpack = .zero s := by
    change UnpackedFloat.beq x.toModel.unpack (0 : Float).toModel.unpack = true ↔ _
    rw [show (0 : Float).toModel.unpack = .zero .positive from rfl]
    cases x.toModel.unpack with
    | infinity s => cases s <;> simp [UnpackedFloat.beq, UnpackedFloat.compare]
    | finite s => cases s <;> simp [UnpackedFloat.beq, UnpackedFloat.compare]
    | _ => simp [UnpackedFloat.beq, UnpackedFloat.compare]
  have fields : (∃ s, x.toModel.unpack = .zero s) ↔
      x.toBits.toNat / 2 ^ 52 % 2 ^ 11 = 0 ∧ x.toBits.toNat % 2 ^ 52 = 0 := by
    refine unpack_eq_zero_iff.trans ?_
    rw [← BitVec.toNat_inj, ← BitVec.toNat_inj, toNat_unpackExponent, toNat_unpackMantissa]
    rfl
  rw [zero, fields, magnitude_eq]
  -- the hidden bit leaves no zero among the normal numbers
  split <;> simp_all

/-- The magnitude of a number other than zero is a canonical one. -/
theorem canonical_magnitude {x : Float} (nonzero : ¬(x == 0) = true) :
    (magnitude x).Canonical := by
  rw [beq_zero_iff] at nonzero
  rw [magnitude_eq] at nonzero ⊢
  split at nonzero
  · rw [if_pos ‹_›]
    exact ⟨Nat.pos_of_ne_zero nonzero, by dsimp only; omega, by dsimp only; omega, .inl rfl⟩
  · rw [if_neg ‹_›]
    exact ⟨Nat.pos_of_ne_zero nonzero, by dsimp only; omega, by dsimp only; omega,
      .inr (by dsimp only; omega)⟩

/-- A number is its sign and its magnitude. -/
theorem eq_of_magnitude {x y : Float} (signs : isNegative x = isNegative y)
    (magnitudes : magnitude x = magnitude y) : x = y := by
  have bits : x.toBits.toNat = y.toBits.toNat := by
    have signs : 2 ^ 63 ≤ x.toBits.toNat ↔ 2 ^ 63 ≤ y.toBits.toNat := decide_eq_decide.mp signs
    have bound := x.toBits.toNat_lt
    have bound' := y.toBits.toNat_lt
    rw [magnitude_eq, magnitude_eq] at magnitudes
    split at magnitudes <;> split at magnitudes <;>
      (simp only [Magnitude.mk.injEq] at magnitudes; omega)
  obtain ⟨⟨b, _⟩⟩ := x
  obtain ⟨⟨b', _⟩⟩ := y
  obtain rfl : b = b' := UInt64.toNat_inj.mp bits
  rfl

/-- Zeros have the same magnitude. -/
theorem magnitude_of_beq_zero {x : Float} (zero : (x == 0) = true) : magnitude x = ⟨0, -1074⟩ := by
  rw [beq_zero_iff] at zero
  rw [magnitude_eq] at zero ⊢
  split at zero
  · rw [if_pos ‹_›]
    dsimp only at zero
    rw [zero]
  · dsimp only at zero
    omega

end Binary64

namespace Number

open Binary64

/-- Without its sign, a number is written as a number that rounds to it. -/
theorem exists_spells (x : Float) : ∃ q, Spells (storedLayout.magnitude x) q ∧
    if (x == 0) = true then q = 0 else (Interval.ofMagnitude (magnitude x)).Holds q := by
  rw [Layout.magnitude]
  split
  -- zero has no interval of its own and is set apart
  · refine ⟨0, ⟨⟨['0'], ['0'], none⟩, ⟨?_, ?_, ?_, fun _ => rfl⟩, rfl, ?_⟩, rfl⟩
    · exact fun c => isDigit_of_mem_zeros (n := 1)
    · exact fun c => isDigit_of_mem_zeros (n := 1)
    · exact List.cons_ne_nil _ _
    · have zeros : Text.toNat ['0', '0'] = 0 := Text.toNat_zeros 2
      rw [Numeral.size, Spelling.numeral]
      dsimp only [List.cons_append, List.nil_append]
      rw [zeros, Nat.cast_zero, zero_mul]
  · rename_i nonzero
    have canonical := canonical_magnitude nonzero
    obtain ⟨d, s, found, inside⟩ := canonical.exists_shortest storedLayout.tie
    have pos : 0 < d := by
      refine Nat.pos_of_ne_zero fun zero => ?_
      have pos := canonical.pos_of_holds inside
      rw [zero, Nat.cast_zero, zero_mul] at pos
      exact pos.false
    have proper := Decimal.proper_ofNat pos s
    refine ⟨d * 10 ^ s, ?_, inside⟩
    rw [found, ← Decimal.value_ofNat]
    dsimp only
    split
    · exact spells_setPositional proper
    · exact spells_setExponent proper

theorem write_eq (x : Float) : storedLayout.write x =
    (if isNegative x then ['-'] else []) ++ storedLayout.magnitude x := by
  rw [Layout.write]
  cases isNegative x <;> rfl

/-- Every number is written as one literal. -/
theorem isLiteral_write (x : Float) : Json.IsLiteral (storedLayout.write x) := by
  obtain ⟨q, spells, -⟩ := exists_spells x
  rw [write_eq]
  exact spells.isLiteral (isNegative x)

/-- Different numbers are written differently, zero and negative zero among them. -/
theorem write_injective : Function.Injective storedLayout.write := by
  intro x y same
  obtain ⟨q, spells, value⟩ := exists_spells x
  obtain ⟨q', spells', value'⟩ := exists_spells y
  rw [write_eq, write_eq] at same
  obtain ⟨signs, rfl⟩ := spells.unique spells' same
  refine eq_of_magnitude signs ?_
  split at value <;> split at value'
  · rw [magnitude_of_beq_zero ‹_›, magnitude_of_beq_zero ‹_›]
  · rename_i nonzero
    have pos := (canonical_magnitude nonzero).pos_of_holds value'
    exact absurd value pos.ne'
  · rename_i nonzero _
    have pos := (canonical_magnitude nonzero).pos_of_holds value
    exact absurd value' pos.ne'
  · rename_i nonzero nonzero'
    exact (canonical_magnitude nonzero).eq_of_holds (canonical_magnitude nonzero') value value'

end Number

end Spreadsheet
