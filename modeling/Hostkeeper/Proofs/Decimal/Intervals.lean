import Hostkeeper.Decimal.Shortest
import Mathlib.Algebra.Order.Field.Power
import Mathlib.Data.Rat.Cast.Order
import Mathlib.Tactic.Linarith
import Mathlib.Tactic.Positivity
import Mathlib.Tactic.FieldSimp
import Mathlib.Tactic.NormNum
import Mathlib.Tactic.Ring

/-! The sizes that round to a finite number make an interval around it. Sizes are counted in units of the
least subnormal number, of which every end is a whole number of quarters; no size is in two intervals. -/
namespace Hostkeeper

namespace Binary64

theorem eq_of_magnitude {x y : Binary64} (sign : x.isNegative = y.isNegative)
    (size : x.magnitude = y.magnitude) : x = y := by
  have split (z : Binary64) : z.bits.toNat = z.magnitude + if z.isNegative then 2 ^ 63 else 0 := by
    have bound : z.bits.toNat < 2 ^ 64 := z.bits.toNat_lt
    have sign : z.isNegative = true ↔ 2 ^ 63 ≤ z.bits.toNat := by
      simp only [isNegative,decide_eq_true_eq]
      exact UInt64.le_iff_toNat_le
    unfold magnitude
    by_cases negative : z.isNegative = true
    · have := sign.mp negative
      rw [if_pos negative]
      change z.bits.toNat = z.bits.toNat % 2 ^ 63 + 2 ^ 63
      omega
    · have := mt sign.mpr negative
      rw [if_neg negative]
      change z.bits.toNat = z.bits.toNat % 2 ^ 63 + 0
      omega
  have bits : x.bits.toNat = y.bits.toNat := by rw [split x,split y,sign,size]
  cases x
  cases y
  exact congrArg Binary64.mk (UInt64.toNat_inj.mp bits)

/-- How many units of the least subnormal number a magnitude stands for. -/
def units (k : Nat) : Nat := (k % 2 ^ 52 + if k / 2 ^ 52 = 0 then 0 else 2 ^ 52) * 2 ^ (k / 2 ^ 52 - 1)

theorem units_magnitude (x : Binary64) : units x.magnitude = x.significand * 2 ^ x.scaleStep := rfl

/-- Neighbouring sizes are one unit of the lower one's last place apart. -/
theorem units_succ (k : Nat) : units (k + 1) = units k + 2 ^ (k / 2 ^ 52 - 1) := by
  unfold units
  by_cases top : k % 2 ^ 52 = 2 ^ 52 - 1
  · have quotient : (k + 1) / 2 ^ 52 = k / 2 ^ 52 + 1 := by omega
    have rest : (k + 1) % 2 ^ 52 = 0 := by omega
    rw [quotient,rest,top]
    generalize k / 2 ^ 52 = e
    cases e with
    | zero => decide
    | succ e =>
      simp only [Nat.add_eq_zero_iff,one_ne_zero,and_false,if_false,Nat.add_sub_cancel]
      rw [Nat.pow_succ]
      ring
  · have quotient : (k + 1) / 2 ^ 52 = k / 2 ^ 52 := by omega
    have rest : (k + 1) % 2 ^ 52 = k % 2 ^ 52 + 1 := by omega
    rw [quotient,rest]
    ring

theorem units_strictMono : StrictMono units := by
  refine strictMono_nat_of_lt_succ fun k => ?_
  rw [units_succ]
  have : 0 < 2 ^ (k / 2 ^ 52 - 1) := Nat.two_pow_pos _
  omega

theorem significand_mod_two (x : Binary64) : x.significand % 2 = x.magnitude % 2 := by
  unfold significand
  simp only [Nat.pow_eq]
  split <;> omega

end Binary64

namespace Decimal

open Binary64

/-- Four times less than the least subnormal number: all interval ends are multiples of it. -/
def quarter : ℚ := 2 ^ (-1076 : ℤ)

theorem quarter_pos : 0 < quarter := zpow_pos (by norm_num) _

/-- A size that rounds to the number of the interval. -/
def Interval.Holds (i : Interval) (size : ℚ) : Prop :=
  if i.closed then i.low ≤ size * i.den ∧ size * i.den ≤ i.high
  else i.low < size * i.den ∧ size * i.den < i.high

theorem Interval.Holds.le {i : Interval} {size : ℚ} (holds : i.Holds size) :
    i.low ≤ size * i.den ∧ size * i.den ≤ i.high := by
  unfold Holds at holds
  split at holds
  · exact holds
  · exact ⟨holds.1.le,holds.2.le⟩

theorem Interval.Holds.closed_of_eq {i : Interval} {size : ℚ} (holds : i.Holds size)
    (touches : (i.low : ℚ) = size * i.den ∨ size * i.den = i.high) : i.closed = true := by
  unfold Holds at holds
  split at holds
  next closed => exact closed
  next => exact (touches.elim holds.1.ne holds.2.ne).elim

private theorem below_units (x : Binary64) (positive : 0 < x.magnitude) :
    (if x.significand = Nat.pow 2 52 && x.exponentField > 1 then 4 * x.significand - 1 else 4 * x.significand - 2) *
      2 ^ x.scaleStep = 2 * units (x.magnitude - 1) + 2 * units x.magnitude := by
  have step := units_succ (x.magnitude - 1)
  rw [Nat.sub_add_cancel positive,units_magnitude] at step
  rw [units_magnitude,Nat.pow_eq]
  have field : x.exponentField = x.magnitude / 2 ^ 52 := rfl
  have significand : x.significand = x.magnitude % 2 ^ 52 + if x.exponentField = 0 then 0 else 2 ^ 52 := rfl
  split
  next edge =>
    obtain ⟨power,above⟩ : x.significand = 2 ^ 52 ∧ x.exponentField > 1 := by simpa using edge
    rw [if_neg (by omega)] at significand
    have lower : (x.magnitude - 1) / 2 ^ 52 - 1 = x.exponentField - 2 := by omega
    have upper : x.scaleStep = x.exponentField - 2 + 1 := by
      unfold scaleStep
      omega
    rw [lower] at step
    rw [upper,Nat.pow_succ] at step ⊢
    generalize 2 ^ (x.exponentField - 2) = p at step ⊢
    rw [Nat.sub_mul,Nat.mul_assoc]
    omega
  next inner =>
    have same : (x.magnitude - 1) / 2 ^ 52 - 1 = x.scaleStep := by
      simp only [Bool.and_eq_true,decide_eq_true_eq,not_and,Nat.not_lt] at inner
      unfold scaleStep
      split at significand <;> omega
    rw [same] at step
    generalize 2 ^ x.scaleStep = p at step ⊢
    rw [Nat.sub_mul,Nat.mul_assoc]
    omega

private theorem above_units (x : Binary64) :
    (4 * x.significand + 2) * 2 ^ x.scaleStep = 2 * units x.magnitude + 2 * units (x.magnitude + 1) := by
  have step : units (x.magnitude + 1) = units x.magnitude + 2 ^ x.scaleStep := units_succ _
  rw [step,units_magnitude]
  ring

/-- What one quarter of a unit of the last place is over the interval's denominator. -/
private theorem lift_unit (s : Nat) :
    ((if 0 ≤ (s : ℤ) - 1074 - 2 then Nat.pow 2 ((s : ℤ) - 1074 - 2).toNat else 1 : ℕ) : ℚ) =
      2 ^ s * quarter *
        ((if 0 ≤ (s : ℤ) - 1074 - 2 then 1 else Nat.pow 2 (-((s : ℤ) - 1074 - 2)).toNat : ℕ) : ℚ) := by
  simp only [Nat.pow_eq,quarter]
  split
  next nonneg =>
    obtain ⟨n,same⟩ := Int.eq_ofNat_of_zero_le nonneg
    have sum : (s : ℤ) + -1076 = n := by omega
    rw [same,Int.toNat_natCast,← zpow_natCast (2 : ℚ) s,← zpow_add₀ two_ne_zero,sum]
    simp
  next negative =>
    obtain ⟨n,same⟩ := Int.eq_ofNat_of_zero_le (show 0 ≤ -((s : ℤ) - 1074 - 2) by omega)
    have sum : (s : ℤ) + -1076 + n = 0 := by omega
    rw [same,Int.toNat_natCast]
    rw [Nat.cast_one,Nat.cast_pow,Nat.cast_two,← zpow_natCast,← zpow_natCast,← zpow_add₀ two_ne_zero,
      ← zpow_add₀ two_ne_zero,sum,zpow_zero]

/-- The ends of a number's interval, over its denominator. -/
theorem interval_ends (x : Binary64) (positive : 0 < x.magnitude) :
    0 < (interval x).den ∧
    ((interval x).low : ℚ) = (2 * units (x.magnitude - 1) + 2 * units x.magnitude : ℕ) * quarter * (interval x).den ∧
    ((interval x).high : ℚ) =
      (2 * units x.magnitude + 2 * units (x.magnitude + 1) : ℕ) * quarter * (interval x).den := by
  refine ⟨?_,?_,?_⟩
  · unfold interval
    dsimp only
    split
    · exact Nat.one_pos
    · exact Nat.two_pow_pos _
  · rw [← below_units x positive]
    unfold interval scale
    dsimp only
    rw [Nat.cast_mul,lift_unit,Nat.cast_mul]
    push_cast
    ring
  · rw [← above_units x]
    unfold interval scale
    dsimp only
    rw [Nat.cast_mul,lift_unit,Nat.cast_mul]
    push_cast
    ring

/-- Different numbers have no size in common: where two intervals touch, only one is closed. -/
theorem magnitude_eq_of_holds {x y : Binary64} {size : ℚ} (positive_x : 0 < x.magnitude)
    (positive_y : 0 < y.magnitude) (holds_x : (interval x).Holds size) (holds_y : (interval y).Holds size) :
    x.magnitude = y.magnitude := by
  by_contra different
  wlog order : x.magnitude < y.magnitude generalizing x y
  · exact this positive_y positive_x holds_y holds_x (Ne.symm different) (by omega)
  obtain ⟨den_x,_,high⟩ := interval_ends x positive_x
  obtain ⟨den_y,low,_⟩ := interval_ends y positive_y
  have den_x : (0 : ℚ) < (interval x).den := by exact_mod_cast den_x
  have den_y : (0 : ℚ) < (interval y).den := by exact_mod_cast den_y
  have below : size ≤ (2 * units x.magnitude + 2 * units (x.magnitude + 1) : ℕ) * quarter :=
    le_of_mul_le_mul_right (high ▸ holds_x.le.2) den_x
  have above : (2 * units (y.magnitude - 1) + 2 * units y.magnitude : ℕ) * quarter ≤ size :=
    le_of_mul_le_mul_right (low ▸ holds_y.le.1) den_y
  have ends : 2 * units (y.magnitude - 1) + 2 * units y.magnitude ≤
      2 * units x.magnitude + 2 * units (x.magnitude + 1) := by
    exact_mod_cast le_of_mul_le_mul_right (above.trans below) quarter_pos
  have first : units x.magnitude ≤ units (y.magnitude - 1) := units_strictMono.monotone (by omega)
  have second : units (x.magnitude + 1) ≤ units y.magnitude := units_strictMono.monotone (by omega)
  have next : x.magnitude + 1 = y.magnitude := units_strictMono.injective (by omega)
  rw [← next,Nat.add_sub_cancel] at above low
  have point := le_antisymm below above
  have closed_x := holds_x.closed_of_eq (.inr (by rw [high,point]))
  have closed_y := holds_y.closed_of_eq (.inl (by rw [low,point]))
  have even_x : x.significand % 2 = 0 := of_decide_eq_true closed_x
  have even_y : y.significand % 2 = 0 := of_decide_eq_true closed_y
  rw [significand_mod_two] at even_x even_y
  omega

end Decimal

end Hostkeeper
