import Mathlib.Algebra.Order.Field.Power
import Mathlib.Tactic.FieldSimp
import Mathlib.Tactic.Linarith
import Mathlib.Tactic.NormNum
import Mathlib.Tactic.Positivity
import Mathlib.Tactic.Ring
import Mathlib.Tactic.SplitIfs
import Spreadsheet.Binary64.Shortest

/-!
# Rounding intervals

Every positive double owns the numbers that round to it. The intervals of two doubles have at most an
end in common, and there one of the two mantissas is odd, so that no number has two owners. Around a
double the interval reaches further than half a unit in the seventeenth digit to either side, so one
of the two decimals of 17 digits next to the double is its own: the search for the fewest digits
ends.
-/

namespace Spreadsheet.Binary64

/-- The magnitude of a finite double other than zero: the hidden bit is set unless the exponent is
the least one. -/
structure Magnitude.Canonical (x : Magnitude) : Prop where
  pos : 0 < x.mantissa
  bound : x.mantissa < 2 ^ 53
  least : -1074 ≤ x.exponent
  full : x.exponent = -1074 ∨ 2 ^ 52 ≤ x.mantissa

/-- A power is the quotient of two natural ones. -/
theorem zpow_eq_div {b : ℚ} (nonzero : b ≠ 0) (s : Int) : b ^ s = b ^ s.toNat / b ^ (-s).toNat := by
  rw [← zpow_natCast, ← zpow_natCast, ← zpow_sub₀ nonzero, Int.toNat_sub_toNat_neg]

namespace Interval

variable {i : Interval} {tie : Tie} {d : Nat} {q : ℚ}

/-- The numbers of an interval. -/
def Holds (i : Interval) (q : ℚ) : Prop :=
  if i.closed then (i.low : ℚ) / i.den ≤ q ∧ q ≤ i.high / i.den
  else (i.low : ℚ) / i.den < q ∧ q < i.high / i.den

/-- In units of a power of ten a whole number is in the interval if the decimal is. -/
theorem contains_inUnits_iff (den : 0 < i.den) (s : Int) (d : Nat) :
    (i.inUnits s).Contains d ↔ i.Holds (d * 10 ^ s) := by
  have den' : (0 : ℚ) < i.den := Nat.cast_pos.mpr den
  have units : (0 : ℚ) < 10 ^ (-s).toNat := by positivity
  have number : (d : ℚ) * 10 ^ s = (d * 10 ^ s.toNat) / 10 ^ (-s).toNat := by
    rw [zpow_eq_div (by norm_num), mul_div_assoc]
  have left : (d * 10 ^ s.toNat : ℚ) * i.den = (d * (i.den * 10 ^ s.toNat) : Nat) := by
    push_cast
    ring
  rw [Contains, Holds, number]
  simp only [div_le_div_iff₀ den' units, div_le_div_iff₀ units den', div_lt_div_iff₀ den' units,
    div_lt_div_iff₀ units den', left]
  norm_cast

/-- What is taken lies in the interval. -/
theorem contains_of_candidate? (h : i.candidate? tie = some d) : i.Contains d := by
  unfold candidate? at h
  dsimp only at h
  split_ifs at h with floor ceil near far even
  · cases h
    exact floor
  · cases h
    exact ceil
  · cases tie with
    | up =>
      cases h
      exact ceil
    | even =>
      cases h
      exact floor
  · cases tie <;> cases h <;> exact ceil
  · cases h
    exact floor
  · rename_i ceil
    cases h
    exact ceil

/-- If nothing is taken, neither neighbour of the value lies in the interval. -/
theorem not_contains_of_candidate? (h : i.candidate? tie = none) :
    ¬i.Contains (i.value / i.den) ∧ ¬i.Contains (i.value / i.den + 1) := by
  unfold candidate? at h
  dsimp only at h
  split_ifs at h with floor
  · cases tie <;> cases h
  · cases tie <;> cases h
  · exact ⟨floor, ‹_›⟩

theorem contains_of_between (low : i.low < d * i.den) (high : d * i.den < i.high) :
    i.Contains d := by
  rw [Contains]
  split
  · exact ⟨low.le, high.le⟩
  · exact ⟨low, high⟩

/-- More than half a unit to either side there is a whole number. -/
theorem exists_candidate? (tie : Tie) (den : 0 < i.den) (below : i.low + i.den / 2 < i.value)
    (above : i.value + i.den / 2 < i.high) : ∃ d, i.candidate? tie = some d := by
  rw [← Option.isSome_iff_exists, Option.isSome_iff_ne_none]
  intro none
  obtain ⟨noFloor, noCeil⟩ := not_contains_of_candidate? none
  have split := Nat.div_add_mod' i.value i.den
  have rest := Nat.mod_lt i.value den
  have next : (i.value / i.den + 1) * i.den = i.value / i.den * i.den + i.den := Nat.succ_mul _ _
  by_cases near : 2 * (i.value % i.den) ≤ i.den
  · exact noFloor (contains_of_between (by omega) (by omega))
  · exact noCeil (contains_of_between (by omega) (by omega))

/-- The point is set so that the first digit is in front of it. -/
theorem zpow_point_le (value : 0 < i.value) (den : 0 < i.den) :
    (10 : ℚ) ^ (i.point - 1) ≤ i.value / i.den := by
  have digits : ∀ n k, (Text.ofNat n).length ≤ k + 1 ↔ n < 10 ^ (k + 1) := fun n k =>
    Nat.length_toDigits_le_iff (by decide) (Nat.succ_pos k)
  have some : ∀ n, ∃ k, (Text.ofNat n).length = k + 1 := fun n =>
    Nat.exists_eq_add_one_of_ne_zero (Nat.ne_of_gt Nat.length_toDigits_pos)
  have den' : (0 : ℚ) < i.den := Nat.cast_pos.mpr den
  rw [le_div_iff₀ den', point]
  split
  · rename_i whole
    obtain ⟨k, length⟩ := some (i.value / i.den)
    have first : 10 ^ k ≤ i.value / i.den := by
      cases k with
      | zero => exact (Nat.div_pos whole den)
      | succ k => exact Nat.le_of_not_lt fun less => by have := (digits _ k).mpr less; omega
    rw [length, Nat.cast_add, Nat.cast_one, add_sub_cancel_right, zpow_natCast]
    exact_mod_cast (Nat.le_div_iff_mul_le den).mp first
  · rename_i part
    obtain ⟨k, length⟩ := some (i.den / i.value)
    have inverse : i.den / i.value < 10 ^ (k + 1) := (digits _ k).mp (by omega)
    have bound : i.den < 10 ^ (k + 1) * i.value := (Nat.div_lt_iff_lt_mul value).mp inverse
    rw [length, show (1 - ((k + 1 : Nat) : Int) - 1) = -((k + 1 : Nat) : Int) by omega, zpow_neg,
      zpow_natCast, inv_mul_le_iff₀ (by positivity)]
    exact_mod_cast bound.le

/-- In units of the seventeenth digit the value has seventeen digits. -/
theorem seventeen_digits (value : 0 < i.value) (den : 0 < i.den) :
    10 ^ 16 * (i.inUnits (i.point - 17)).den ≤ (i.inUnits (i.point - 17)).value := by
  have first := zpow_point_le value den
  generalize hs : i.point - 17 = s
  have den' : (0 : ℚ) < i.den := Nat.cast_pos.mpr den
  have units : (0 : ℚ) < 10 ^ (-s).toNat := by positivity
  rw [show i.point - 1 = 16 + s by omega, zpow_add₀ (by norm_num), zpow_eq_div (by norm_num) s,
    mul_div_assoc', div_le_div_iff₀ units den'] at first
  have scaled : (10 ^ 16 * (i.den * 10 ^ s.toNat) : ℚ) ≤ i.value * 10 ^ (-s).toNat := by
    linarith
  exact_mod_cast scaled

end Interval

/-- If the last of the grids tried has a point in the interval, the search ends with one. -/
theorem exists_shortestFrom {tie : Tie} {i : Interval} {n left : Nat}
    (last : ∃ d, (i.inUnits (i.point - (n + left : Nat))).candidate? tie = some d) :
    ∃ d s, shortestFrom tie i n (left + 1) = Decimal.ofNat d s ∧ (i.inUnits s).Contains d := by
  induction left generalizing n with
  | zero =>
    obtain ⟨d, found⟩ := last
    rw [Nat.add_zero] at found
    simp only [shortestFrom, found]
    exact ⟨d, _, rfl, Interval.contains_of_candidate? found⟩
  | succ left ih =>
    rw [shortestFrom]
    cases found : (i.inUnits (i.point - n)).candidate? tie with
    | some d => exact ⟨d, _, rfl, Interval.contains_of_candidate? found⟩
    | none => exact ih (by rwa [Nat.add_right_comm n 1 left])

namespace Magnitude

variable {x y : Magnitude} {q : ℚ}

theorem den_ofMagnitude_pos (x : Magnitude) : 0 < (Interval.ofMagnitude x).den :=
  Nat.pow_pos Nat.two_pos

/-- The interval reaches more than half a unit of the seventeenth digit to either side. -/
theorem Canonical.wide (c : x.Canonical) {s : Int} {i : Interval}
    (inUnits : (Interval.ofMagnitude x).inUnits s = i) (digits : 10 ^ 16 * i.den ≤ i.value) :
    i.low + i.den / 2 < i.value ∧ i.value + i.den / 2 < i.high := by
  obtain ⟨pos, bound, -, -⟩ := c
  have unit_pos : 0 < Nat.pow 2 (x.exponent - 2).toNat * Nat.pow 10 (-s).toNat :=
    Nat.mul_pos (Nat.pow_pos Nat.two_pos) (Nat.pow_pos (by decide))
  subst inUnits
  simp only [Interval.ofMagnitude, Interval.inUnits, Nat.mul_assoc] at digits ⊢
  generalize Nat.pow 2 (x.exponent - 2).toNat * Nat.pow 10 (-s).toNat = unit at *
  generalize Nat.pow 2 (-(x.exponent - 2)).toNat * Nat.pow 10 s.toNat = den at *
  have most : x.mantissa * unit ≤ 2 ^ 53 * unit := Nat.mul_le_mul_right unit bound.le
  have least : unit ≤ x.mantissa * unit := Nat.le_mul_of_pos_left unit pos
  rw [Nat.add_mul, Nat.mul_assoc, Nat.sub_mul, Nat.mul_assoc]
  split
  · rename_i power
    have mantissa : x.mantissa * unit = 2 ^ 52 * unit := by rw [power.1]; rfl
    omega
  · omega

/-- What a positive double is written with is a decimal of its own interval. -/
theorem Canonical.exists_shortest (c : x.Canonical) (tie : Tie) :
    ∃ d s, shortest tie x = Decimal.ofNat d s ∧ (Interval.ofMagnitude x).Holds (d * 10 ^ s) := by
  have den := x.den_ofMagnitude_pos
  have value : 0 < (Interval.ofMagnitude x).value :=
    Nat.mul_pos (Nat.mul_pos (by decide) c.pos) (Nat.pow_pos Nat.two_pos)
  obtain ⟨below, above⟩ := c.wide rfl (Interval.seventeen_digits value den)
  have den' : 0 < ((Interval.ofMagnitude x).inUnits ((Interval.ofMagnitude x).point - 17)).den :=
    Nat.mul_pos den (Nat.pow_pos (by decide))
  have last : ∃ d, ((Interval.ofMagnitude x).inUnits
      ((Interval.ofMagnitude x).point - (1 + 16 : Nat))).candidate? tie = some d :=
    Interval.exists_candidate? tie den' below above
  obtain ⟨d, s, found, inside⟩ := exists_shortestFrom last
  exact ⟨d, s, found, (Interval.contains_inUnits_iff den s d).mp inside⟩

/-- The lower end of the interval, half of the unit of the mantissa away, or a quarter of it where
the numbers below are twice as dense. -/
def lower (x : Magnitude) : ℚ :=
  (4 * x.mantissa - if x.mantissa = 2 ^ 52 ∧ x.exponent ≠ -1074 then 1 else 2 : Nat) *
    2 ^ (x.exponent - 2)

/-- The upper end of the interval. -/
def upper (x : Magnitude) : ℚ :=
  (4 * x.mantissa + 2 : Nat) * 2 ^ (x.exponent - 2)

/-- The ends belong to the interval if the mantissa is even. -/
theorem holds_ofMagnitude_iff (x : Magnitude) : (Interval.ofMagnitude x).Holds q ↔
    if x.mantissa % 2 = 0 then x.lower ≤ q ∧ q ≤ x.upper else x.lower < q ∧ q < x.upper := by
  have scale : ∀ n : Nat, ((n * Nat.pow 2 (x.exponent - 2).toNat : Nat) : ℚ) /
      (Nat.pow 2 (-(x.exponent - 2)).toNat : Nat) = n * 2 ^ (x.exponent - 2) := by
    intro n
    rw [zpow_eq_div (by norm_num), ← mul_div_assoc]
    exact_mod_cast rfl
  simp only [Interval.Holds, Interval.ofMagnitude, scale, decide_eq_true_eq]
  rfl

/-- The interval of a positive double is positive. -/
theorem Canonical.pos_of_holds (c : x.Canonical) (h : (Interval.ofMagnitude x).Holds q) :
    0 < q := by
  have pos := c.pos
  have low : 0 < x.lower := by
    refine mul_pos (Nat.cast_pos.mpr ?_) (zpow_pos (by norm_num) _)
    split <;> omega
  rw [holds_ofMagnitude_iff] at h
  split at h
  · exact low.trans_le h.1
  · exact low.trans h.1

/-- Of two doubles the smaller has its interval below that of the other one, and if both intervals
have their ends, these are apart. -/
theorem Canonical.upper_le_lower (hx : x.Canonical) (hy : y.Canonical)
    (less : x.exponent < y.exponent ∨ x.exponent = y.exponent ∧ x.mantissa < y.mantissa) :
    x.upper ≤ y.lower ∧ (x.mantissa % 2 = 0 → y.mantissa % 2 = 0 → x.upper < y.lower) := by
  have unit : (0 : ℚ) < 2 ^ (x.exponent - 2) := zpow_pos (by norm_num) _
  obtain ⟨-, bound, least, full⟩ := hx
  obtain ⟨-, -, -, full'⟩ := hy
  -- the lower end of the greater one, counted in units of the smaller one
  obtain ⟨n, reached, most, apart⟩ : ∃ n : Nat, (n : ℚ) * 2 ^ (x.exponent - 2) ≤ y.lower ∧
      4 * x.mantissa + 2 ≤ n ∧
      (x.mantissa % 2 = 0 → y.mantissa % 2 = 0 → 4 * x.mantissa + 2 < n) := by
    rcases less with less | ⟨same, less⟩
    · refine ⟨(4 * y.mantissa - if y.mantissa = 2 ^ 52 ∧ y.exponent ≠ -1074 then 1 else 2) * 2, ?_,
        ?_, ?_⟩
      · have twice : (2 : ℚ) * 2 ^ (x.exponent - 2) ≤ 2 ^ (y.exponent - 2) := by
          rw [← zpow_one_add₀ (by norm_num)]
          exact zpow_le_zpow_right₀ (by norm_num) (by omega)
        rw [lower, Nat.cast_mul, mul_assoc]
        exact mul_le_mul_of_nonneg_left twice (Nat.cast_nonneg _)
      · split <;> omega
      · split <;> omega
    · refine ⟨4 * y.mantissa - 2, ?_, by omega, by omega⟩
      rw [lower, if_neg (by omega), same]
  have ends : x.upper ≤ n * 2 ^ (x.exponent - 2) :=
    mul_le_mul_of_nonneg_right (Nat.cast_le.mpr most) unit.le
  refine ⟨ends.trans reached, fun even even' => lt_of_lt_of_le ?_ reached⟩
  exact mul_lt_mul_of_pos_right (Nat.cast_lt.mpr (apart even even')) unit

/-- No number belongs to two doubles. -/
theorem Canonical.eq_of_holds (hx : x.Canonical) (hy : y.Canonical)
    (inX : (Interval.ofMagnitude x).Holds q) (inY : (Interval.ofMagnitude y).Holds q) : x = y := by
  have apart : ∀ {x y : Magnitude}, x.Canonical → y.Canonical →
      (Interval.ofMagnitude x).Holds q → (Interval.ofMagnitude y).Holds q →
      ¬(x.exponent < y.exponent ∨ x.exponent = y.exponent ∧ x.mantissa < y.mantissa) := by
    intro x y hx hy inX inY less
    obtain ⟨order, strict⟩ := hx.upper_le_lower hy less
    rw [holds_ofMagnitude_iff] at inX inY
    split at inX
    · rename_i even
      split at inY
      · rename_i even'
        exact absurd (strict even even') (inY.1.trans inX.2).not_gt
      · exact absurd order (inY.1.trans_le inX.2).not_ge
    · split at inY
      · exact absurd order (inY.1.trans_lt inX.2).not_ge
      · exact absurd order (inY.1.trans inX.2).not_ge
  have notLess := apart hx hy inX inY
  have notGreater := apart hy hx inY inX
  obtain ⟨m, e⟩ := x
  obtain ⟨n, f⟩ := y
  dsimp only at notLess notGreater
  obtain rfl : e = f := by omega
  obtain rfl : m = n := by omega
  rfl

end Magnitude

end Spreadsheet.Binary64
