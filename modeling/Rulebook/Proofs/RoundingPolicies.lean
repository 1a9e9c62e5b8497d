import Mathlib.Algebra.Order.Field.Basic
import Mathlib.Data.Rat.Floor
import Rulebook.Arithmetic
import Rulebook.Proofs.Numeric.WholeParts

/-! Roundings find the whole number that they are named for, of the exact value of every
number, and keep it within 32 bits. All else that can be said of them follows: they keep
the order of numbers, differ by one at most, and leave alone what is an integer. -/
namespace Rulebook
open Numeric

/-- The rational number that a finite number stands for. -/
def Numeric.Binary.toRat {format : Format} (number : Binary format) : ℚ :=
  number.count / format.unit

theorem Numeric.Binary.toRat_eq_intCast_iff {format : Format} {number : Binary format}
    {value : Int} : number.toRat = value ↔ number.count = value * format.unit := by
  have nonzero : (format.unit : ℚ) ≠ 0 := Nat.cast_ne_zero.mpr format.unit_pos.ne'
  rw [toRat, div_eq_iff nonzero]
  exact_mod_cast Iff.rfl

/-- A whole number nearest to a rational one, and of two that are equally near the one
further from zero. -/
structure IsNearest (value : ℚ) (whole : ℤ) : Prop where
  close : |value - whole| ≤ 1 / 2
  away : |value - whole| = 1 / 2 → |value| < |(whole : ℚ)|

section Quotients
variable {denominator : Nat}

theorem isNearest_nearestQuotient (positive : 0 < denominator) (numerator : Int) :
    IsNearest (numerator / denominator) (nearestQuotient numerator denominator) := by
  obtain ⟨whole, same⟩ : ∃ whole, whole = nearestQuotient numerator denominator := ⟨_, rfl⟩
  obtain ⟨close, away⟩ := nearestQuotient_close positive numerator
  rw [← same] at close away ⊢
  have above : (0 : ℚ) < denominator := Nat.cast_pos.mpr positive
  have apart : |(numerator / denominator : ℚ) - whole| =
      (|numerator - whole * denominator| : ℤ) / denominator := by
    rw [div_sub' above.ne', abs_div, abs_of_pos above, mul_comm (denominator : ℚ)]
    push_cast
    rfl
  have far : |(numerator / denominator : ℚ)| = |(numerator : ℚ)| / denominator := by
    rw [abs_div, abs_of_pos above]
  constructor
  · rw [apart, div_le_div_iff₀ above two_pos, one_mul, mul_comm]
    exact_mod_cast close
  · intro half
    rw [apart, div_eq_div_iff above.ne' two_ne_zero, one_mul, mul_comm] at half
    have beyond : |(numerator : ℚ)| < |(whole : ℚ) * denominator| := by
      exact_mod_cast away (by exact_mod_cast half)
    rw [abs_mul, abs_of_pos above] at beyond
    rwa [far, div_lt_iff₀ above]

end Quotients

namespace Rounding
variable (rounding : Rounding)

theorem bracketed_rule : Bracketed rounding.rule := by
  cases rounding with
  | nearest => exact bracketed_nearest
  | floor => exact bracketed_floor
  | ceil => exact bracketed_ceil

theorem rule_mono {denominator : Nat} (positive : 0 < denominator) {low high : Int}
    (ordered : low ≤ high) : rounding.rule low denominator ≤ rounding.rule high denominator := by
  cases rounding with
  | nearest => exact nearestQuotient_mono positive ordered
  | floor => exact floorQuotient_mono positive ordered
  | ceil => exact ceilQuotient_mono positive ordered

theorem toInt32_of_isNaN {number : Double} (isNaN : number.isNaN = true) :
    rounding.toInt32 number = 0 := by
  rw [toInt32, Double.toInt32, Binary.read_of_isNaN isNaN]

theorem toInt32_infinity (negative : Bool) :
    rounding.toInt32 (.infinity negative) =
      if negative then Int32.minValue else Int32.maxValue := by
  rw [toInt32, Double.toInt32, Binary.read_infinity]

/-- Every number that is no NaN is rounded as its exact value is. -/
theorem toInt32_eq {number : Double} (isNumber : number.isNaN = false) :
    rounding.toInt32 number = clampInt32 (rounding.rule number.count Format.double.unit) :=
  Double.toInt32_eq rounding.bracketed_rule isNumber

theorem toInt32_ofInt (value : Int32) : rounding.toInt32 (.ofInt value.toInt) = value := by
  rw [toInt32, Double.toInt32_whole rounding.bracketed_rule (Double.natAbs_lt value),
    clampInt32_toInt]

theorem toInt32_mono {left right : Double} (leftIs : left.isNaN = false)
    (rightIs : right.isNaN = false) (ordered : right.below left = false) :
    rounding.toInt32 left ≤ rounding.toInt32 right := by
  have counted : left.count ≤ right.count := by
    rw [← Int.not_lt, ← Binary.below_eq_true_iff rightIs leftIs, ordered]
    exact Bool.false_ne_true
  rw [toInt32_eq _ leftIs, toInt32_eq _ rightIs]
  exact clampInt32_mono (rounding.rule_mono Format.double.unit_pos counted)

/-- Rounding down, to the nearest and up are in this order, at most one apart. -/
theorem toInt32_between {number : Double} (isNumber : number.isNaN = false) :
    floor.toInt32 number ≤ nearest.toInt32 number ∧
      nearest.toInt32 number ≤ ceil.toInt32 number ∧
      (ceil.toInt32 number).toInt - (floor.toInt32 number).toInt ≤ 1 := by
  obtain ⟨low, high, apart⟩ := bracketed_nearest.between Format.double.unit_pos number.count
  simp only [toInt32_eq _ isNumber, rule]
  refine ⟨clampInt32_mono low, clampInt32_mono high, ?_⟩
  rw [toInt_clampInt32, toInt_clampInt32]
  omega

/-- What a rounding makes of a finite number is found in the rational number it stands
for. -/
theorem toInt_toInt32 {number : Double} (finite : number.isFinite = true) :
    (floor.toInt32 number).toInt = max (-2 ^ 31) (min ⌊number.toRat⌋ (2 ^ 31 - 1)) ∧
      (ceil.toInt32 number).toInt = max (-2 ^ 31) (min ⌈number.toRat⌉ (2 ^ 31 - 1)) ∧
      ∃ whole, IsNearest number.toRat whole ∧
        (nearest.toInt32 number).toInt = max (-2 ^ 31) (min whole (2 ^ 31 - 1)) := by
  have isNumber := Binary.isNaN_of_isFinite finite
  simp only [toInt32_eq _ isNumber, toInt_clampInt32, Binary.toRat]
  refine ⟨?_, ?_, _, isNearest_nearestQuotient Format.double.unit_pos number.count, rfl⟩
  · rw [Rat.floor_intCast_div_natCast]
    rfl
  · rw [Rat.ceil_intCast_div_natCast]
    rfl

end Rounding

/-- Roundings are exact and kept within 32 bits, for every number. The floor, the ceiling
and the nearest whole number are those of the exact value; it makes no difference whether
the number is made whole first and then cut off. A number past all integers becomes the
last of them, and a NaN zero. Hence the roundings stand in their order and are at most
one apart, keep the order of numbers, and leave integers alone, those too that were
rounded before. -/
theorem rounding_exact :
    (∀ number : Double, number.isFinite = true →
      (Rounding.floor.toInt32 number).toInt = max (-2 ^ 31) (min ⌊number.toRat⌋ (2 ^ 31 - 1)) ∧
      (Rounding.ceil.toInt32 number).toInt = max (-2 ^ 31) (min ⌈number.toRat⌉ (2 ^ 31 - 1)) ∧
      ∃ whole, IsNearest number.toRat whole ∧
        (Rounding.nearest.toInt32 number).toInt = max (-2 ^ 31) (min whole (2 ^ 31 - 1))) ∧
    (∀ rounding : Rounding,
      (∀ number : Double, rounding.toInt32 number =
        Double.toInt32 truncQuotient (number.makeWhole rounding.rule)) ∧
      rounding.toInt32 (.infinity false) = Int32.maxValue ∧
      rounding.toInt32 (.infinity true) = Int32.minValue ∧
      ∀ number : Double, number.isNaN = true → rounding.toInt32 number = 0) ∧
    (∀ number : Double, number.isNaN = false →
      Rounding.floor.toInt32 number ≤ Rounding.nearest.toInt32 number ∧
      Rounding.nearest.toInt32 number ≤ Rounding.ceil.toInt32 number ∧
      (Rounding.ceil.toInt32 number).toInt - (Rounding.floor.toInt32 number).toInt ≤ 1) ∧
    (∀ (rounding : Rounding) (left right : Double), left.isNaN = false → right.isNaN = false →
      right.below left = false → rounding.toInt32 left ≤ rounding.toInt32 right) ∧
    ∀ rounding : Rounding,
      (∀ value : Int32, rounding.toInt32 (.ofInt value.toInt) = value) ∧
      ∀ (number : Double) (later : Rounding),
        narrow (narrow number .int32 rounding).widen .int32 later =
          narrow number .int32 rounding := by
  refine ⟨fun number finite => Rounding.toInt_toInt32 finite, fun rounding => ?_,
    fun number isNumber => Rounding.toInt32_between isNumber,
    fun rounding left right leftIs rightIs ordered => rounding.toInt32_mono leftIs rightIs ordered,
    fun rounding => ⟨rounding.toInt32_ofInt, fun number later => ?_⟩⟩
  · exact ⟨fun number => (Double.toInt32_makeWhole rounding.bracketed_rule number).symm,
      rounding.toInt32_infinity false, rounding.toInt32_infinity true,
      fun number isNaN => rounding.toInt32_of_isNaN isNaN⟩
  · exact congrArg Number.int (later.toInt32_ofInt (rounding.toInt32 number))

/-- Two and a half below zero is half-way between whole numbers, and smaller than infinity. -/
theorem rounding_exact_half :
    let half : Double := .ofBits 0xC004000000000000
    let most : Double := .infinity false
    let nan : Double := .nan
    half.isFinite = true ∧ half.isNaN = false ∧ most.isNaN = false ∧ nan.isNaN = true ∧
      most.below half = false ∧ half.toRat = -5 / 2 ∧
      (Rounding.floor.toInt32 half).toInt = -3 ∧ (Rounding.ceil.toInt32 half).toInt = -2 ∧
      (∃ whole, IsNearest (-5 / 2) whole ∧
        (Rounding.nearest.toInt32 half).toInt = max (-2 ^ 31) (min whole (2 ^ 31 - 1))) ∧
      Rounding.nearest.toInt32 half ≤ Rounding.ceil.toInt32 half ∧
      Rounding.nearest.toInt32 half ≤ Rounding.nearest.toInt32 most ∧
      Rounding.nearest.toInt32 nan = 0 := by
  intro half most nan
  have finite : half.isFinite = true := by decide +kernel
  have halfIs : half.isNaN = false := by decide +kernel
  have mostIs : most.isNaN = false := by decide +kernel
  have isNaN : nan.isNaN = true := by decide +kernel
  have ordered : most.below half = false := by decide +kernel
  have value : half.toRat = -5 / 2 := by
    obtain ⟨scale, positive, counted, unit⟩ : ∃ scale : Nat, 0 < scale ∧
        half.count = -5 * scale ∧ Format.double.unit = 2 * scale :=
      ⟨2 ^ 1073, Nat.two_pow_pos _, by decide +kernel, by decide +kernel⟩
    have nonzero : (scale : ℚ) ≠ 0 := Nat.cast_ne_zero.mpr positive.ne'
    rw [Binary.toRat, counted, unit]
    push_cast
    exact mul_div_mul_right _ _ nonzero
  obtain ⟨exact, others, between, mono, -⟩ := rounding_exact
  obtain ⟨floor, ceil, nearest⟩ := exact half finite
  rw [value] at floor ceil nearest
  refine ⟨finite, halfIs, mostIs, isNaN, ordered, value, floor.trans ?_, ceil.trans ?_, nearest,
    (between half halfIs).2.1, mono .nearest half most halfIs mostIs ordered,
    (others .nearest).2.2.2 nan isNaN⟩
  · norm_num
  · norm_num

end Rulebook
