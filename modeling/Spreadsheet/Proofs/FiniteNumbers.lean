import Mathlib
import Spreadsheet.Json.Number

/-!
# Numbers that are read are finite

A literal is read by scaling its digits with powers of ten. The digits are no NaN, a power that one
step scales by is neither zero nor infinite nor NaN, and a product or quotient with such a power is a
NaN only if the other operand is. What becomes infinite is refused, so every number that is read is
finite.
-/

namespace Spreadsheet

open Float.Model (Format UnpackedFloat)
open Float.Model.UnpackedFloat (unpackExponent unpackMantissa)

namespace Binary64

/-- All ones in the exponent field and something in the fraction. -/
theorem isNaN_unpack_iff {b : BitVec Format.binary64.numBits} :
    (UnpackedFloat.unpack .binary64 b).isNaN = true ↔
      unpackExponent b = -1#11 ∧ unpackMantissa b ≠ 0#52 := by
  unfold UnpackedFloat.unpack
  dsimp only
  split
  · split <;> simp_all [UnpackedFloat.isNaN]
  · split
    · split <;> simp_all [UnpackedFloat.isNaN]
    · simp_all [UnpackedFloat.isNaN]

/-- A packed mantissa has all ones in its exponent field only beyond the range. -/
theorem large_of_pack_finite {s : UnpackedFloat.Sign} {m : Nat} {e : Int} {pos : 0 < m}
    (ones : unpackExponent ((UnpackedFloat.finite s m e pos).pack .binary64) = -1#11) :
    2048 ≤ (e + 1023 + 52).toNat + 1 := by
  rw [UnpackedFloat.pack] at ones
  dsimp only at ones
  split at ones
  · assumption
  · rename_i small
    change ¬2048 ≤ (e + 1023 + 52).toNat + 1 at small
    split at ones
    · rw [UnpackedFloat.unpackExponent_packComponents] at ones
      have field := congrArg BitVec.toNat ones
      rw [BitVec.toNat_ofNat] at field
      change (e + 1023 + 52).toNat % 2048 = 2047 at field
      omega
    · rw [UnpackedFloat.unpackExponent_packComponents] at ones
      exact absurd ones (by decide)

/-- Packing makes a NaN of nothing else. -/
theorem isNaN_of_unpack_pack {u : UnpackedFloat}
    (h : (UnpackedFloat.unpack .binary64 (u.pack .binary64)).isNaN = true) : u.isNaN = true := by
  rw [isNaN_unpack_iff] at h
  obtain ⟨ones, fraction⟩ := h
  cases u with
  | notANumber => rfl
  | infinity s =>
    rw [UnpackedFloat.pack, UnpackedFloat.packedInfinity,
      UnpackedFloat.unpackMantissa_packComponents] at fraction
    exact absurd rfl fraction
  | zero s =>
    rw [UnpackedFloat.pack, UnpackedFloat.packedZero,
      UnpackedFloat.unpackMantissa_packComponents] at fraction
    exact absurd rfl fraction
  | finite s m e pos =>
    have large := large_of_pack_finite ones
    rw [UnpackedFloat.pack] at fraction
    dsimp only at fraction
    split at fraction
    · rw [UnpackedFloat.packedInfinity, UnpackedFloat.unpackMantissa_packComponents] at fraction
      exact absurd rfl fraction
    · exact absurd large ‹_›

theorem isFinite_of_not {x : Float} (nan : x.isNaN = false) (inf : x.isInf = false) :
    x.isFinite = true := by
  change x.toModel.unpack.isFinite = true
  change x.toModel.unpack.isNaN = false at nan
  change x.toModel.unpack.isInf = false at inf
  cases h : x.toModel.unpack with
  | notANumber => simp [h, UnpackedFloat.isNaN] at nan
  | infinity s => simp [h, UnpackedFloat.isInf] at inf
  | zero s => rfl
  | finite s m e pos => rfl

theorem isFinite_of_isInf {x : Float} (h : x.isInf = true) : x.isFinite = false := by
  change x.toModel.unpack.isInf = true at h
  change x.toModel.unpack.isFinite = false
  cases shape : x.toModel.unpack with
  | infinity s => rfl
  | _ => rw [shape] at h; cases h

theorem isFinite_of_beq_zero {x : Float} (h : (x == 0) = true) : x.isFinite = true := by
  change x.toModel.unpack.isFinite = true
  change UnpackedFloat.beq x.toModel.unpack (0 : Float).toModel.unpack = true at h
  rw [show (0 : Float).toModel.unpack = .zero .positive from rfl] at h
  cases shape : x.toModel.unpack with
  | notANumber => rw [shape] at h; cases h
  | infinity s => rw [shape] at h; cases s <;> cases h
  | zero s => rfl
  | finite s m e pos => rfl

/-- A double with a mantissa: neither zero nor infinite nor NaN. -/
def isRegular (x : Float) : Bool :=
  match x.toModel.unpack with
  | .finite .. => true
  | _ => false

theorem unpack_of_isRegular {x : Float} (h : isRegular x = true) :
    ∃ s m e pos, x.toModel.unpack = .finite s m e pos := by
  unfold isRegular at h
  split at h
  · exact ⟨_, _, _, _, ‹_›⟩
  · cases h

theorem isNaN_neg {x : Float} (h : x.isNaN = false) : (-x).isNaN = false := by
  change x.toModel.unpack.isNaN = false at h
  rw [← Bool.not_eq_true]
  intro nan
  have raw := isNaN_of_unpack_pack (u := x.toModel.unpack.neg) nan
  cases shape : x.toModel.unpack with
  | notANumber => rw [shape] at h; cases h
  | _ => rw [shape] at raw; cases raw

theorem isNaN_roundWithAccuracy (s : UnpackedFloat.Sign) (m : Nat) (e : Int)
    (a : UnpackedFloat.Accuracy) :
    (UnpackedFloat.roundWithAccuracy .binary64 s m e a).isNaN = false := by
  unfold UnpackedFloat.roundWithAccuracy
  dsimp only
  split <;> rfl

theorem isNaN_mul {x y : Float} (regular : isRegular y = true) (h : x.isNaN = false) :
    (x * y).isNaN = false := by
  obtain ⟨s, m, e, pos, shape⟩ := unpack_of_isRegular regular
  change x.toModel.unpack.isNaN = false at h
  rw [← Bool.not_eq_true]
  intro nan
  have raw := isNaN_of_unpack_pack
    (u := .mul .binary64 x.toModel.unpack y.toModel.unpack) nan
  rw [shape] at raw
  cases hx : x.toModel.unpack with
  | notANumber => simp [hx, UnpackedFloat.isNaN] at h
  | infinity s' => simp [hx, UnpackedFloat.mul, UnpackedFloat.isNaN] at raw
  | zero s' => simp [hx, UnpackedFloat.mul, UnpackedFloat.isNaN] at raw
  | finite s' m' e' pos' => simp [hx, UnpackedFloat.mul, isNaN_roundWithAccuracy] at raw

theorem isNaN_div {x y : Float} (regular : isRegular y = true) (h : x.isNaN = false) :
    (x / y).isNaN = false := by
  obtain ⟨s, m, e, pos, shape⟩ := unpack_of_isRegular regular
  change x.toModel.unpack.isNaN = false at h
  rw [← Bool.not_eq_true]
  intro nan
  have raw := isNaN_of_unpack_pack
    (u := .div .binary64 x.toModel.unpack y.toModel.unpack) nan
  rw [shape] at raw
  cases hx : x.toModel.unpack with
  | notANumber => simp [hx, UnpackedFloat.isNaN] at h
  | infinity s' => simp [hx, UnpackedFloat.div, UnpackedFloat.isNaN] at raw
  | zero s' => simp [hx, UnpackedFloat.div, UnpackedFloat.isNaN] at raw
  | finite s' m' e' pos' => simp [hx, UnpackedFloat.div, isNaN_roundWithAccuracy] at raw

/-- Anything but all ones in the exponent field. -/
theorem isFinite_unpack_iff {b : BitVec Format.binary64.numBits} :
    (UnpackedFloat.unpack .binary64 b).isFinite = true ↔ unpackExponent b ≠ -1#11 := by
  unfold UnpackedFloat.unpack
  dsimp only
  split
  · split <;> simp_all [UnpackedFloat.isFinite]
  · split
    · split <;> simp_all [UnpackedFloat.isFinite]
    · simp_all [UnpackedFloat.isFinite]

theorem exponent_of_unpack {b : BitVec Format.binary64.numBits} {s : UnpackedFloat.Sign} {m : Nat}
    {e : Int} {pos : 0 < m} (h : UnpackedFloat.unpack .binary64 b = .finite s m e pos) :
    e + 1075 < 2047 := by
  unfold UnpackedFloat.unpack at h
  dsimp only at h
  split at h
  · split at h <;> cases h
  · rename_i room
    have below : (unpackExponent b).toNat < 2047 := by
      have size : (unpackExponent b).toNat < 2048 := (unpackExponent b).isLt
      refine Nat.lt_of_le_of_ne (by omega) fun full => room (BitVec.eq_of_toNat_eq full)
    split at h
    · split at h
      · cases h
      · cases h
        rename_i none _
        rw [none]
        decide
    · cases h
      change ((unpackExponent b).toNat : Int) - (1023 + 52) + 1075 < 2047
      omega

theorem isFinite_neg {x : Float} (h : x.isFinite = true) : (-x).isFinite = true := by
  change x.toModel.unpack.isFinite = true at h
  change (UnpackedFloat.unpack .binary64 (x.toModel.unpack.neg.pack .binary64)).isFinite = true
  cases shape : x.toModel.unpack with
  | notANumber => simp [shape, UnpackedFloat.isFinite] at h
  | infinity s => simp [shape, UnpackedFloat.isFinite] at h
  | zero s => cases s <;> decide
  | finite s m e pos =>
    have room := exponent_of_unpack shape
    refine isFinite_unpack_iff.mpr fun ones => ?_
    have large := large_of_pack_finite ones
    omega

theorem nearestBits_le (num den : Nat) : nearestBits num den ≤ 2047 * Nat.pow 2 52 := by
  unfold nearestBits
  split
  · exact Nat.zero_le _
  · exact Nat.min_le_right _ _

theorem toNat_unpackExponent (b : BitVec Format.binary64.numBits) :
    (unpackExponent b).toNat = b.toNat / 2 ^ 52 % 2 ^ 11 := by
  simp [unpackExponent, Nat.shiftRight_eq_div_pow]

theorem toNat_unpackMantissa (b : BitVec Format.binary64.numBits) :
    (unpackMantissa b).toNat = b.toNat % 2 ^ 52 := by
  simp [unpackMantissa]

/-- The exponent field is full only for infinity itself. -/
theorem isNaN_nearest (num den : Nat) : (nearest num den).isNaN = false := by
  rw [← Bool.not_eq_true]
  intro nan
  have raw := isNaN_of_unpack_pack
    (u := .unpack .binary64 (UInt64.ofNat (nearestBits num den)).toBitVec) nan
  rw [isNaN_unpack_iff] at raw
  obtain ⟨ones, fraction⟩ := raw
  have bound : nearestBits num den ≤ 2047 * 2 ^ 52 := nearestBits_le num den
  have full := congrArg BitVec.toNat ones
  rw [toNat_unpackExponent] at full
  refine fraction (BitVec.eq_of_toNat_eq ?_)
  rw [toNat_unpackMantissa]
  have bits : (UInt64.ofNat (nearestBits num den)).toBitVec.toNat = nearestBits num den := by
    change nearestBits num den % 2 ^ 64 = _
    omega
  rw [bits] at full ⊢
  change _ = 2047 at full
  change _ = 0
  omega

/-- The powers of ten that one step scales by. -/
theorem isRegular_powers : ∀ k < 309, isRegular (ofNat (Nat.pow 10 k)) = true := by
  decide +kernel

end Binary64

namespace Json

theorem isFinite_of_scale? {fuel : Nat} {x y : Float} {e : Int} (nan : x.isNaN = false)
    (h : scale? fuel x e = some y) (enough : e.natAbs < fuel) : y.isFinite = true := by
  induction fuel generalizing x e with
  | zero => omega
  | succ fuel ih =>
    rw [scale?] at h
    split at h
    · rename_i near
      have regular := Binary64.isRegular_powers e.natAbs (by omega)
      have made : (if 0 ≤ e then x * Binary64.ofNat (Nat.pow 10 e.natAbs)
          else x / Binary64.ofNat (Nat.pow 10 e.natAbs)).isNaN = false := by
        split
        · exact Binary64.isNaN_mul regular nan
        · exact Binary64.isNaN_div regular nan
      dsimp only at h
      generalize (if 0 ≤ e then _ else _) = result at h made
      split at h
      · cases h
      · rename_i bounded
        cases h
        exact Binary64.isFinite_of_not made (Bool.not_eq_true _ ▸ bounded)
    · split at h
      · rename_i zero
        cases h
        exact Binary64.isFinite_of_beq_zero zero
      · split at h
        · cases h
        · have power := Binary64.isRegular_powers 308 (by decide)
          exact ih (Binary64.isNaN_div power nan) h (by omega)

/-- What is read as a number is finite: beyond the range there is no value. -/
theorem isFinite_of_toFloat? {j : Json} {x : Float} (h : j.toFloat? = some x) :
    x.isFinite = true := by
  cases j with
  | number literal =>
    obtain ⟨y, magnitude, rfl⟩ := Option.map_eq_some_iff.mp h
    have finite : y.isFinite = true := by
      unfold Literal.magnitude? at magnitude
      dsimp only at magnitude
      split at magnitude
      · split at magnitude
        · cases magnitude
        · cases magnitude
          decide +kernel
      · exact isFinite_of_scale? (Binary64.isNaN_nearest _ _) magnitude (Nat.lt_succ_self _)
    split
    · exact Binary64.isFinite_neg finite
    · exact finite
  | _ => cases h

end Json
end Spreadsheet
