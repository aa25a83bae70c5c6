import Hostkeeper.Decimal.Binary64
import Mathlib.Algebra.Ring.Nat

/-! Quotients that are finite numbers. A quotient is rounded to an infinity only if it is about as large as the
greatest finite number; so the quotient of a finite number by a thousand is finite. -/
namespace Hostkeeper.Binary64

theorem magnitude_ofMagnitude (negative : Bool) {m : Nat} (bound : m < 2 ^ 63) :
    (ofMagnitude negative m).magnitude = m := by
  have small : m + (if negative then Nat.pow 2 63 else 0) < UInt64.size := by
    cases negative <;> simp [UInt64.size] <;> omega
  change (UInt64.ofNat (m + if negative then Nat.pow 2 63 else 0)).toNat % 2 ^ 63 = m
  rw [UInt64.toNat_ofNat_of_lt' small]
  cases negative <;> simp <;> omega

theorem isFinite_ofMagnitude (negative : Bool) {m : Nat} (bound : m < 2047 * 2 ^ 52) :
    (ofMagnitude negative m).isFinite := by
  have whole := magnitude_ofMagnitude negative (m := m) (by omega)
  unfold isFinite exponentField
  rw [whole,decide_eq_true_eq]
  exact Nat.div_lt_of_lt_mul (by omega)

/-- A quotient counted in units that are not too small for it. -/
theorem quotient_inUnits_lt {num den : Nat} (filled : 0 < den) {unit : Int} {size : Nat}
    (coarse : (num.log2 : Int) + 1 ≤ den.log2 + unit + size) :
    (inUnits num den unit).1 / (inUnits num den unit).2 < 2 ^ size := by
  have above : num < 2 ^ (num.log2 + 1) := Nat.lt_log2_self
  have below : 2 ^ den.log2 ≤ den := Nat.log2_self_le (Nat.pos_iff_ne_zero.mp filled)
  have scaled : inUnits num den unit = (num * 2 ^ (-unit).toNat,den * 2 ^ unit.toNat) := by
    unfold inUnits
    split
    next nonnegative => simp [Int.toNat_of_nonpos (show -unit ≤ 0 by omega)]
    next negative => simp [Int.toNat_of_nonpos (show unit ≤ 0 by omega)]
  rw [scaled]
  refine Nat.div_lt_of_lt_mul ?_
  calc num * 2 ^ (-unit).toNat
    _ < 2 ^ (num.log2 + 1) * 2 ^ (-unit).toNat := Nat.mul_lt_mul_of_pos_right above (Nat.two_pow_pos _)
    _ = 2 ^ (num.log2 + 1 + (-unit).toNat) := (Nat.pow_add _ _ _).symm
    _ ≤ 2 ^ (den.log2 + unit.toNat + size) := Nat.pow_le_pow_right (by omega) (by omega)
    _ = 2 ^ den.log2 * 2 ^ unit.toNat * 2 ^ size := by rw [Nat.pow_add,Nat.pow_add]
    _ ≤ den * 2 ^ unit.toNat * 2 ^ size := Nat.mul_le_mul_right _ (Nat.mul_le_mul_right _ below)

theorem roundQuotient_le (num den : Nat) : roundQuotient num den ≤ num / den + 1 := by
  unfold roundQuotient
  dsimp only
  split <;> omega

theorem isFinite_ofRatio (negative : Bool) {num den : Nat} (filled : 0 < den) (bound : num.log2 ≤ den.log2 + 1020) :
    (ofRatio negative num den).isFinite := by
  unfold ofRatio
  split
  · exact isFinite_ofMagnitude negative (by decide)
  · dsimp only
    -- The unit is one of two next to each other, and either leaves the quotient below the next power of two.
    generalize least_eq : max ((Nat.log2 num : Int) - Nat.log2 den - 53) (-1074) = least
    generalize unit_eq : (if (inUnits num den least).1 / (inUnits num den least).2 < Nat.pow 2 53
      then least else least + 1) = unit
    have range : least ≤ unit ∧ unit ≤ least + 1 := by
      rw [← unit_eq]
      split <;> omega
    have quotient : (inUnits num den unit).1 / (inUnits num den unit).2 < 2 ^ 54 :=
      quotient_inUnits_lt filled (by omega)
    have rounded := roundQuotient_le (inUnits num den unit).1 (inUnits num den unit).2
    generalize roundQuotient (inUnits num den unit).1 (inUnits num den unit).2 = q at rounded
    have steps : (unit + 1074).toNat ≤ 2042 := by omega
    have small : (unit + 1074).toNat * 2 ^ 52 + q < 2047 * 2 ^ 52 := by omega
    exact isFinite_ofMagnitude negative (Nat.lt_of_le_of_lt (Nat.min_le_left _ _) small)

theorem ratio_pos (x : Binary64) : 0 < x.ratio.2 := by
  unfold ratio
  split
  · exact Nat.one_pos
  · exact Nat.two_pow_pos _

theorem significand_lt (x : Binary64) : x.significand < 2 ^ 53 := by
  have fraction : x.magnitude % 2 ^ 52 < 2 ^ 52 := Nat.mod_lt _ (by decide)
  change x.magnitude % 2 ^ 52 + (if x.exponentField = 0 then 0 else 2 ^ 52) < 2 ^ 53
  split <;> omega

theorem ratio_lt (x : Binary64) : x.ratio.1 < 2 ^ (53 + x.scale.toNat) := by
  rw [Nat.pow_add]
  unfold ratio
  split
  · exact Nat.mul_lt_mul_of_pos_right x.significand_lt (Nat.two_pow_pos _)
  · exact Nat.lt_of_lt_of_le x.significand_lt (Nat.le_mul_of_pos_right _ (Nat.two_pow_pos _))

theorem scale_le {x : Binary64} (finite : x.isFinite) : x.scale ≤ 971 := by
  have exponent : x.exponentField < 2047 := of_decide_eq_true finite
  unfold scale scaleStep
  omega

/-- A thousandth of a finite number is finite. -/
theorem isFinite_div_thousand {x : Binary64} (finite : x.isFinite) : (x.div (ofNat 1000)).isFinite := by
  have thousand : (ofNat 1000).ratio = (1000 * 2 ^ 43,2 ^ 43) := by decide +kernel
  have positive := x.ratio_pos
  have scale := scale_le finite
  have low : 52 ≤ (x.ratio.2 * (1000 * 2 ^ 43)).log2 := (Nat.le_log2 (by omega)).mpr (by omega)
  have high : (x.ratio.1 * 2 ^ 43).log2 < 53 + x.scale.toNat + 43 := by
    by_cases zero : x.ratio.1 * 2 ^ 43 = 0
    · rw [zero]
      exact Nat.lt_of_lt_of_le (by decide) (Nat.le_add_left 43 _)
    · rw [Nat.log2_lt zero,Nat.pow_add]
      exact Nat.mul_lt_mul_of_pos_right x.ratio_lt (Nat.two_pow_pos _)
  unfold div
  rw [thousand]
  exact isFinite_ofRatio _ (Nat.mul_pos positive (by decide)) (by dsimp only; omega)

theorem isFinite_ofInt {n : Int} (bound : n.natAbs < 2 ^ 64) : (ofInt n).isFinite := by
  refine isFinite_ofRatio _ Nat.one_pos ?_
  by_cases zero : n.natAbs = 0
  · rw [zero]
    decide
  · have small := (Nat.log2_lt zero).mpr bound
    omega

end Hostkeeper.Binary64
