import Hostkeeper.Proofs.Decimal.Intervals
import Mathlib.Tactic.GCongr

/-! The search for the shortest decimal ends with one that rounds to its number: the guess for the leading
digit is below the value, and the finest grid that is tried is no wider than half the interval. -/
namespace Hostkeeper.Decimal
open Binary64

section Search

variable {i : Interval} {exponent : ℤ}

/-- The step of a grid, lifted to a whole number with everything it is compared with. -/
private theorem lifted (den : Nat) (exponent : ℤ) :
    ((if 0 ≤ exponent then Nat.pow 10 exponent.toNat * den else den : ℕ) : ℚ) =
      10 ^ exponent * den * ((if 0 ≤ exponent then 1 else Nat.pow 10 (-exponent).toNat : ℕ) : ℚ) := by
  simp only [Nat.pow_eq]
  split
  next nonneg =>
    obtain ⟨n,rfl⟩ := Int.eq_ofNat_of_zero_le nonneg
    simp
  next negative =>
    obtain ⟨n,same⟩ := Int.eq_ofNat_of_zero_le (show 0 ≤ -exponent by omega)
    obtain rfl : exponent = -n := by omega
    have power : (10 : ℚ) ^ n ≠ 0 := pow_ne_zero n (by norm_num)
    rw [neg_neg,Int.toNat_natCast,zpow_neg,zpow_natCast,Nat.cast_pow]
    field_simp
    norm_num

private theorem lift_pos (exponent : ℤ) :
    0 < (if 0 ≤ exponent then 1 else Nat.pow 10 (-exponent).toNat) := by
  split
  · exact Nat.one_pos
  · exact Nat.pow_pos (by norm_num)

/-- The whole-number test of a grid point is the test of its size. -/
private theorem inside_iff {step lift : Nat} (positive : 0 < lift)
    (scaled : (step : ℚ) = 10 ^ exponent * i.den * lift) (n : Nat) :
    (if i.closed then decide (i.low * lift ≤ n * step) && decide (n * step ≤ i.high * lift)
      else decide (i.low * lift < n * step) && decide (n * step < i.high * lift)) = true ↔
    i.Holds (n * 10 ^ exponent) := by
  have positive : (0 : ℚ) < lift := by exact_mod_cast positive
  have point : (n * step : ℚ) = n * 10 ^ exponent * i.den * lift := by
    rw [scaled]
    ring
  have le (a : Nat) : a * lift ≤ n * step ↔ (a : ℚ) ≤ n * 10 ^ exponent * i.den := by
    rw [← mul_le_mul_iff_left₀ positive,← point]
    norm_cast
  have ge (a : Nat) : n * step ≤ a * lift ↔ n * 10 ^ exponent * i.den ≤ (a : ℚ) := by
    rw [← mul_le_mul_iff_left₀ positive,← point]
    norm_cast
  have lt (a : Nat) : a * lift < n * step ↔ (a : ℚ) < n * 10 ^ exponent * i.den := by
    rw [← not_le,ge,not_le]
  have gt (a : Nat) : n * step < a * lift ↔ n * 10 ^ exponent * i.den < (a : ℚ) := by
    rw [← not_le,le,not_le]
  unfold Interval.Holds
  split <;> simp only [Bool.and_eq_true,decide_eq_true_eq,le,ge,lt,gt]

theorem holds_of_onGrid {digits : Nat} (found : onGrid i exponent = some digits) :
    digits ≠ 0 ∧ i.Holds (digits * 10 ^ exponent) := by
  unfold onGrid at found
  have positive := lift_pos exponent
  have scaled := lifted i.den exponent
  dsimp only at found
  generalize (if 0 ≤ exponent then Nat.pow 10 exponent.toNat * i.den else i.den) = step at found scaled
  generalize (if 0 ≤ exponent then 1 else Nat.pow 10 (-exponent).toNat) = lift at found scaled positive
  split at found
  next floor above =>
    rw [Bool.and_eq_true,inside_iff positive scaled] at floor
    rw [inside_iff positive scaled] at above
    cases Option.some.inj found
    split
    · exact ⟨of_decide_eq_true floor.2,floor.1⟩
    · exact ⟨Nat.succ_ne_zero _,above⟩
  next floor _ =>
    rw [Bool.and_eq_true,inside_iff positive scaled] at floor
    cases Option.some.inj found
    exact ⟨of_decide_eq_true floor.2,floor.1⟩
  next _ above =>
    rw [inside_iff positive scaled] at above
    cases Option.some.inj found
    exact ⟨Nat.succ_ne_zero _,above⟩
  next => cases found

/-- A grid whose step is no wider than the upper half of the interval has a point inside. -/
theorem onGrid_of_fine (den : 0 < i.den) (low : i.low < i.value) (high : i.value < i.high)
    (fine : (10 : ℚ) ^ exponent * i.den ≤ i.high - i.value) : onGrid i exponent ≠ none := by
  unfold onGrid
  have positive := lift_pos exponent
  have scaled := lifted i.den exponent
  dsimp only
  generalize (if 0 ≤ exponent then Nat.pow 10 exponent.toNat * i.den else i.den) = step at scaled ⊢
  generalize (if 0 ≤ exponent then 1 else Nat.pow 10 (-exponent).toNat) = lift at scaled positive ⊢
  split
  next => simp
  next => simp
  next => simp
  next floor above =>
    -- Neither the point below the value nor the one above it is inside, though they are one step apart.
    exfalso
    have cast_pos : (0 : ℚ) < lift := by exact_mod_cast positive
    have narrow : step + i.value * lift ≤ i.high * lift := by
      have wide := mul_le_mul_of_nonneg_right fine cast_pos.le
      rw [← scaled,sub_mul,le_sub_iff_add_le] at wide
      exact_mod_cast wide
    have step_pos : 0 < step := by
      have : (0 : ℚ) < step := by
        rw [scaled]
        have : (0 : ℚ) < i.den := by exact_mod_cast den
        positivity
      exact_mod_cast this
    have low := Nat.mul_lt_mul_of_pos_right low positive
    have high := Nat.mul_lt_mul_of_pos_right high positive
    have next : (i.value * lift / step + 1) * step = i.value * lift / step * step + step := Nat.succ_mul _ _
    have split := Nat.div_add_mod' (i.value * lift) step
    have rest := Nat.mod_lt (i.value * lift) step_pos
    have nonzero : i.value * lift / step * step = i.value * lift → i.value * lift / step ≠ 0 := by
      intro exact zero
      rw [zero,Nat.zero_mul] at exact
      omega
    rw [next] at above
    generalize i.value * lift / step = point at *
    generalize point * step = size at *
    by_cases exact : size = i.value * lift
    · simp only [exact,low,high,low.le,high.le] at floor
      exact nonzero exact (by simpa using floor)
    · split at above <;> simp only [Bool.and_eq_false_iff,decide_eq_false_iff_not] at above <;> omega

/-- If one of the grids that are tried meets the interval, the search ends with a size in it. -/
theorem firstOnGrid_holds (tries : Nat) (start : ℤ)
    (met : ∃ k : Nat, k < tries ∧ onGrid i (start - k) ≠ none) :
    (firstOnGrid i tries start).digits ≠ 0 ∧
      i.Holds ((firstOnGrid i tries start).digits * 10 ^ (firstOnGrid i tries start).exponent) := by
  induction tries generalizing start with
  | zero =>
    obtain ⟨k,below,_⟩ := met
    exact absurd below (Nat.not_lt_zero k)
  | succ tries ih =>
    rw [firstOnGrid]
    split
    next digits found => exact holds_of_onGrid found
    next missed =>
      refine ih (start - 1) ?_
      obtain ⟨k,below,met⟩ := met
      cases k with
      | zero => exact absurd (by simpa using missed) met
      | succ k =>
        refine ⟨k,by omega,?_⟩
        rwa [show start - 1 - (k : ℤ) = start - (k + 1 : ℕ) by push_cast; ring]

theorem reaches_iff (i : Interval) (exponent : ℤ) :
    reaches i exponent = true ↔ (10 : ℚ) ^ exponent * i.den ≤ i.value := by
  unfold reaches
  split
  next nonneg =>
    obtain ⟨n,rfl⟩ := Int.eq_ofNat_of_zero_le nonneg
    rw [decide_eq_true_eq,Int.toNat_natCast,zpow_natCast,Nat.pow_eq]
    norm_cast
  next negative =>
    obtain ⟨n,same⟩ := Int.eq_ofNat_of_zero_le (show 0 ≤ -exponent by omega)
    obtain rfl : exponent = -n := by omega
    have power : (0 : ℚ) < 10 ^ n := by positivity
    rw [decide_eq_true_eq,neg_neg,Int.toNat_natCast,zpow_neg,zpow_natCast,inv_mul_le_iff₀ power,Nat.pow_eq]
    norm_cast
    rw [Nat.mul_comm]

/-- From a power of ten that the value reaches, the search for the leading digit stays below the value. -/
theorem reaches_leading (tries : Nat) (guess : ℤ) (reached : reaches i guess = true) :
    reaches i (leading i tries guess) = true := by
  induction tries generalizing guess with
  | zero => exact reached
  | succ tries ih =>
    rw [leading]
    split
    next further => exact ih _ further
    next => exact reached

end Search

section Shortest

private theorem ten_pow_le {a b : Nat} (enough : 10 * a ≤ 3 * b) : 10 ^ a ≤ 2 ^ b := by
  have cubes : (10 ^ a) ^ 3 ≤ (2 ^ b) ^ 3 := calc
    (10 ^ a) ^ 3 = (10 ^ 3) ^ a := by rw [← Nat.pow_mul,← Nat.pow_mul,Nat.mul_comm]
    _ ≤ (2 ^ 10) ^ a := Nat.pow_le_pow_left (by norm_num) a
    _ = 2 ^ (10 * a) := (Nat.pow_mul ..).symm
    _ ≤ 2 ^ (3 * b) := Nat.pow_le_pow_right (by norm_num) enough
    _ = (2 ^ b) ^ 3 := by rw [Nat.mul_comm,Nat.pow_mul]
  exact (Nat.pow_le_pow_iff_left (by norm_num)).mp cubes

private theorem two_pow_le {n k : Nat} (enough : 28 * n ≤ 93 * k) : 2 ^ n ≤ 10 ^ k := by
  have powers : (2 ^ n) ^ 93 ≤ (10 ^ k) ^ 93 := calc
    (2 ^ n) ^ 93 = (2 ^ 93) ^ n := by rw [← Nat.pow_mul,← Nat.pow_mul,Nat.mul_comm]
    _ ≤ (10 ^ 28) ^ n := Nat.pow_le_pow_left (by norm_num) n
    _ = 10 ^ (28 * n) := (Nat.pow_mul ..).symm
    _ ≤ 10 ^ (93 * k) := Nat.pow_le_pow_right (by norm_num) enough
    _ = (10 ^ k) ^ 93 := by rw [Nat.mul_comm,Nat.pow_mul]
  exact (Nat.pow_le_pow_iff_left (by norm_num)).mp powers

/-- The power of ten that the search starts from is below the power of two it is guessed from. -/
private theorem guess_le (l : ℤ) (least : -1100 ≤ l) (most : l ≤ 1100) :
    (10 : ℚ) ^ (l * 30103 / 100000 - 2) ≤ 2 ^ (l - 1) := by
  by_cases large : 0 ≤ l * 30103 / 100000 - 2
  · obtain ⟨a,ten⟩ := Int.eq_ofNat_of_zero_le large
    obtain ⟨b,two⟩ := Int.eq_ofNat_of_zero_le (show 0 ≤ l - 1 by omega)
    rw [ten,two,zpow_natCast,zpow_natCast]
    exact_mod_cast ten_pow_le (a := a) (b := b) (by omega)
  · obtain ⟨k,ten⟩ := Int.eq_ofNat_of_zero_le (show 0 ≤ -(l * 30103 / 100000 - 2) by omega)
    by_cases nonneg : 0 ≤ l - 1
    · exact (zpow_le_one_of_nonpos₀ (by norm_num) (by omega)).trans (one_le_zpow₀ (by norm_num) nonneg)
    · obtain ⟨n,two⟩ := Int.eq_ofNat_of_zero_le (show 0 ≤ -(l - 1) by omega)
      rw [← neg_neg (l * 30103 / 100000 - 2),← neg_neg (l - 1),ten,two,zpow_neg,zpow_neg,zpow_natCast,zpow_natCast]
      refine inv_anti₀ (by positivity) ?_
      exact_mod_cast two_pow_le (n := n) (k := k) (by omega)

private theorem two_zpow_le {value den : Nat} (filled : value ≠ 0) :
    (2 : ℚ) ^ ((Nat.log2 value : ℤ) - Nat.log2 den - 1) * den ≤ value := by
  have below : (2 : ℚ) ^ Nat.log2 value ≤ value := by exact_mod_cast Nat.log2_self_le filled
  have above : (den : ℚ) ≤ 2 ^ (Nat.log2 den + 1) := by exact_mod_cast Nat.lt_log2_self.le
  calc
    (2 : ℚ) ^ ((Nat.log2 value : ℤ) - Nat.log2 den - 1) * den
    _ ≤ 2 ^ ((Nat.log2 value : ℤ) - Nat.log2 den - 1) * 2 ^ (Nat.log2 den + 1) := by gcongr
    _ = 2 ^ Nat.log2 value := by
      rw [← zpow_natCast,← zpow_natCast,← zpow_add₀ two_ne_zero]
      congr 1
      push_cast
      ring
    _ ≤ value := below

theorem reaches_guess {i : Interval} (filled : i.value ≠ 0)
    (least : -1100 ≤ (Nat.log2 i.value : ℤ) - Nat.log2 i.den) (most : (Nat.log2 i.value : ℤ) - Nat.log2 i.den ≤ 1100) :
    reaches i (((Nat.log2 i.value : ℤ) - Nat.log2 i.den) * 30103 / 100000 - 2) = true := by
  rw [reaches_iff]
  exact (mul_le_mul_of_nonneg_right (guess_le _ least most) (Nat.cast_nonneg _)).trans (two_zpow_le filled)

private theorem significand_spec (x : Binary64) (finite : x.isFinite = true) (positive : 0 < x.magnitude) :
    1 ≤ x.significand ∧ x.significand < 2 ^ 53 ∧ x.scaleStep ≤ 2045 := by
  have field : x.exponentField < 2047 := of_decide_eq_true finite
  have quotient : x.exponentField = x.magnitude / 2 ^ 52 := rfl
  unfold significand scaleStep
  simp only [Nat.pow_eq]
  refine ⟨?_,?_,by omega⟩ <;> split <;> omega

/-- The value is strictly between the ends, and not too close to the upper one. -/
private theorem between_ends {significand lower up : Nat} (some : 1 ≤ significand) (bound : significand < 2 ^ 53)
    (less : lower < 4 * significand) (whole : 0 < up) :
    lower * up < 4 * significand * up ∧ 4 * significand * up < (4 * significand + 2) * up ∧
      4 * significand * up ≤ 2 ^ 54 * ((4 * significand + 2) * up - 4 * significand * up) := by
  refine ⟨Nat.mul_lt_mul_of_pos_right less whole,Nat.mul_lt_mul_of_pos_right (by omega) whole,?_⟩
  rw [← Nat.sub_mul,← Nat.mul_assoc]
  exact Nat.mul_le_mul_right _ (by omega)

/-- What the search needs to know of the interval of a number: the value is strictly between the ends, its size
is within reach of the guess, and its upper half is not too narrow. -/
theorem interval_spec (x : Binary64) (finite : x.isFinite = true) (positive : 0 < x.magnitude) :
    (interval x).low < (interval x).value ∧ (interval x).value < (interval x).high ∧
    -1100 ≤ (Nat.log2 (interval x).value : ℤ) - Nat.log2 (interval x).den ∧
    (Nat.log2 (interval x).value : ℤ) - Nat.log2 (interval x).den ≤ 1100 ∧
    (interval x).value ≤ 2 ^ 54 * ((interval x).high - (interval x).value) := by
  obtain ⟨some,bound,step⟩ := significand_spec x finite positive
  have less : (if x.significand = Nat.pow 2 52 && x.exponentField > 1 then 4 * x.significand - 1
      else 4 * x.significand - 2) < 4 * x.significand := by split <;> omega
  unfold interval scale
  dsimp only
  simp only [Nat.pow_eq]
  by_cases nonneg : 0 ≤ (x.scaleStep : ℤ) - 1074 - 2
  · obtain ⟨u,same⟩ := Int.eq_ofNat_of_zero_le nonneg
    rw [if_pos nonneg,if_pos nonneg,same,Int.toNat_natCast]
    obtain ⟨low,high,width⟩ := between_ends some bound less (Nat.two_pow_pos u)
    have one : Nat.log2 1 = 0 := by decide
    refine ⟨low,high,by omega,?_,width⟩
    have short : 4 * x.significand * 2 ^ u < 2 ^ (55 + u) := by
      rw [Nat.pow_add]
      exact Nat.mul_lt_mul_of_pos_right (by omega) (Nat.two_pow_pos u)
    have := (Nat.log2_lt (Nat.ne_of_gt (Nat.mul_pos (by omega) (Nat.two_pow_pos u)))).mpr short
    omega
  · obtain ⟨u,same⟩ := Int.eq_ofNat_of_zero_le (show 0 ≤ -((x.scaleStep : ℤ) - 1074 - 2) by omega)
    rw [if_neg nonneg,if_neg nonneg,same,Int.toNat_natCast,Nat.log2_two_pow]
    obtain ⟨low,high,width⟩ := between_ends some bound less Nat.one_pos
    refine ⟨low,high,by omega,?_,width⟩
    have := (Nat.log2_lt (n := 4 * x.significand * 1) (k := 55) (by omega)).mpr (by omega)
    omega

/-- The shortest decimal of a finite number lies among the sizes that round to it. -/
theorem shortest_holds (x : Binary64) (finite : x.isFinite = true) (nonzero : x.isZero = false) :
    (shortest x).digits ≠ 0 ∧ (interval x).Holds ((shortest x).digits * 10 ^ (shortest x).exponent) := by
  have positive : 0 < x.magnitude := Nat.pos_of_ne_zero (of_decide_eq_false nonzero)
  obtain ⟨den,_,_⟩ := interval_ends x positive
  obtain ⟨low,high,least,most,width⟩ := interval_spec x finite positive
  unfold shortest
  rw [nonzero]
  dsimp only
  generalize interval x = i at *
  have reached := reaches_leading 5 _ (reaches_guess (by omega) least most)
  generalize leading i 5 _ = start at reached
  rw [reaches_iff] at reached
  refine firstOnGrid_holds 18 start ⟨17,by norm_num,onGrid_of_fine den low high ?_⟩
  have width : (i.value : ℚ) ≤ 2 ^ 54 * (i.high - i.value) := by
    rw [← Nat.cast_sub high.le]
    exact_mod_cast width
  calc (10 : ℚ) ^ (start - (17 : ℕ)) * i.den
    _ = 10 ^ start * i.den / 10 ^ 17 := by
      rw [zpow_sub₀ (by norm_num),zpow_natCast]
      ring
    _ ≤ i.value / 10 ^ 17 := by gcongr
    _ ≤ i.high - i.value := by
      rw [div_le_iff₀ (by norm_num)]
      linarith

/-- Finite numbers of one sign whose shortest decimals are of one size are the same. -/
theorem eq_of_shortest {x y : Binary64} (finite_x : x.isFinite = true) (finite_y : y.isFinite = true)
    (sign : x.isNegative = y.isNegative)
    (size : ((shortest x).digits : ℚ) * 10 ^ (shortest x).exponent = (shortest y).digits * 10 ^ (shortest y).exponent) :
    x = y := by
  refine eq_of_magnitude sign ?_
  have zero {z : Binary64} (zero : z.isZero = true) : shortest z = ⟨0,0⟩ := by simp [shortest,zero]
  have filled {z : Binary64} (finite : z.isFinite = true) (nonzero : z.isZero = false) :
      ((shortest z).digits : ℚ) * 10 ^ (shortest z).exponent ≠ 0 :=
    mul_ne_zero (Nat.cast_ne_zero.mpr (shortest_holds z finite nonzero).1) (zpow_ne_zero _ (by norm_num))
  cases zero_x : x.isZero <;> cases zero_y : y.isZero
  · have hold_x := (shortest_holds x finite_x zero_x).2
    have hold_y := (shortest_holds y finite_y zero_y).2
    rw [← size] at hold_y
    exact magnitude_eq_of_holds (Nat.pos_of_ne_zero (of_decide_eq_false zero_x))
      (Nat.pos_of_ne_zero (of_decide_eq_false zero_y)) hold_x hold_y
  · rw [zero zero_y] at size
    exact absurd (by simpa using size) (filled finite_x zero_x)
  · rw [zero zero_x] at size
    exact absurd (by simpa using size.symm) (filled finite_y zero_y)
  · exact (of_decide_eq_true zero_x).trans (of_decide_eq_true zero_y).symm

end Shortest

end Hostkeeper.Decimal
