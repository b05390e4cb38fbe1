import Spreadsheet.Sheet.Order

/-!
# The order of numbers

Infinities, zeros and finite numbers have ranks, which are compared entry by entry: first the sign
and the kind, then the exponent, then the mantissa. Two numbers compare as their ranks do, and a
NaN, which has none, compares with nothing. So apart from NaN the numbers are ordered like lists.
-/

namespace Spreadsheet

open Float.Model (UnpackedFloat)

namespace Binary64

/-- What a number is compared by. -/
def rank? : UnpackedFloat → Option (List Int)
  | .infinity .positive => some [2]
  | .finite .positive m e _ => some [1, e, m]
  | .zero _ => some [0]
  | .finite .negative m e _ => some [-1, -e, -m]
  | .infinity .negative => some [-2]
  | .notANumber => none

theorem exists_rank? {u : UnpackedFloat} (h : u.isNaN = false) : ∃ r, rank? u = some r := by
  rcases u with ⟨_ | _⟩ | _ | _ | ⟨_ | _, _, _, _⟩
  case notANumber => cases h
  all_goals exact ⟨_, rfl⟩

theorem compare_neg (a b : Int) : compare (-a) (-b) = (compare a b).swap := by
  rcases Int.lt_trichotomy a b with less | rfl | more
  · rw [Std.compare_eq_gt.mpr (Int.neg_lt_neg less), Std.compare_eq_lt.mpr less]
    rfl
  · rw [Std.ReflOrd.compare_self, Std.ReflOrd.compare_self]
    rfl
  · rw [Std.compare_eq_lt.mpr (Int.neg_lt_neg more), Std.compare_eq_gt.mpr more]
    rfl

theorem compare_natCast (m n : Nat) : compare (m : Int) (n : Int) = compare m n := by
  rcases Nat.lt_trichotomy m n with less | rfl | more
  · rw [Std.compare_eq_lt.mpr less, Std.compare_eq_lt.mpr (Int.ofNat_lt.mpr less)]
  · rw [Std.ReflOrd.compare_self, Std.ReflOrd.compare_self]
  · rw [Std.compare_eq_gt.mpr more, Std.compare_eq_gt.mpr (Int.ofNat_lt.mpr more)]

/-- Ranks that begin alike compare by what comes after. -/
theorem compare_sameKind (kind a b c d : Int) :
    compare [kind, a, b] [kind, c, d] = (compare a c).then (compare b d) := by
  change List.compareLex compare _ _ = _
  rw [List.compareLex_cons_cons, List.compareLex_cons_cons, List.compareLex_cons_cons,
    List.compareLex_nil_nil, Std.ReflOrd.compare_self, Ordering.then_eq]
  rfl

/-- Numbers compare as their ranks do. -/
theorem compare_eq (u v : UnpackedFloat) :
    u.compare v = (rank? u).bind fun r => (rank? v).map (compare r) := by
  rcases u with ⟨_ | _⟩ | _ | _ | ⟨_ | _, m, e, pos⟩
  case finite.negative =>
    rcases v with ⟨_ | _⟩ | _ | _ | ⟨_ | _, n, f, pos⟩
    case finite.negative =>
      change some ((compare e f).then (compare m n)).swap =
        some (compare [-1, -e, -(m : Int)] [-1, -f, -(n : Int)])
      rw [compare_sameKind, compare_neg, compare_neg, compare_natCast, Ordering.swap_then]
    all_goals rfl
  case finite.positive =>
    rcases v with ⟨_ | _⟩ | _ | _ | ⟨_ | _, n, f, pos⟩
    case finite.positive =>
      change some ((compare e f).then (compare m n)) =
        some (compare [1, e, (m : Int)] [1, f, (n : Int)])
      rw [compare_sameKind, compare_natCast]
    all_goals rfl
  all_goals rcases v with ⟨_ | _⟩ | _ | _ | ⟨_ | _, n, f, pos⟩ <;> rfl

theorem compare_swap (u v : UnpackedFloat) : v.compare u = (u.compare v).map Ordering.swap := by
  rw [compare_eq, compare_eq]
  cases rank? u with
  | none => cases rank? v <;> rfl
  | some r =>
    cases rank? v with
    | none => rfl
    | some s => exact congrArg some Std.OrientedOrd.eq_swap

theorem lt_iff {x y : Float} :
    x < y ↔ x.toModel.unpack.compare y.toModel.unpack = some .lt := by
  change decide (UnpackedFloat.lt x.toModel.unpack y.toModel.unpack = true) = true ↔ _
  rw [decide_eq_true_iff]
  exact beq_iff_eq

end Binary64

namespace SortKey

open Binary64

/-- Numbers compare as they are ordered; a NaN is equal to everything. -/
theorem compareNumbers_eq (x y : Float) :
    compareNumbers x y = (x.toModel.unpack.compare y.toModel.unpack).getD .eq := by
  simp only [compareNumbers, lt_iff, compare_swap x.toModel.unpack y.toModel.unpack]
  cases x.toModel.unpack.compare y.toModel.unpack with
  | none => rfl
  | some o => cases o <;> rfl

theorem compareNumbers_swap (x y : Float) : compareNumbers y x = (compareNumbers x y).swap := by
  rw [compareNumbers_eq, compareNumbers_eq, compare_swap x.toModel.unpack y.toModel.unpack]
  cases x.toModel.unpack.compare y.toModel.unpack <;> rfl

/-- Without NaN the numbers are ordered. -/
theorem compareNumbers_trans {x y z : Float} (hx : x.isNaN = false) (hy : y.isNaN = false)
    (hz : z.isNaN = false) (first : (compareNumbers x y).isLE = true)
    (second : (compareNumbers y z).isLE = true) : (compareNumbers x z).isLE = true := by
  obtain ⟨r, hr⟩ := exists_rank? hx
  obtain ⟨s, hs⟩ := exists_rank? hy
  obtain ⟨t, ht⟩ := exists_rank? hz
  simp only [compareNumbers_eq, compare_eq, hr, hs, ht, Option.bind_some, Option.map_some,
    Option.getD_some] at first second ⊢
  exact Std.TransOrd.isLE_trans first second

end SortKey

end Spreadsheet
