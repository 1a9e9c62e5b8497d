import Rulebook.Proofs.Json.Values
import Rulebook.Proofs.Numeric.ExactValues

/-! Short decimals are read exactly. If a significand fits into a fraction and a power of
ten is a double, both are put together without having been rounded, and the one rounding
that is left finds the nearest double. So doubles that are written with few digits come
back from their texts, though others need not. -/
namespace Rulebook
open Json Numeric

namespace Numeric

/-- Only the quotient counts. -/
theorem Binary.ofQuanta_congr {format : Format} (negative : Bool)
    {numerator denominator other otherDenominator : Nat} (positive : 0 < denominator)
    (otherPositive : 0 < otherDenominator)
    (same : numerator * otherDenominator = other * denominator) :
    (ofQuanta negative numerator denominator : Binary format) =
      ofQuanta negative other otherDenominator := by
  have rounds : format.RoundsTo other otherDenominator _ :=
    Format.roundsTo_nearestRank otherPositive
  have nearest := (Format.nearestRank_eq_iff positive).mpr
    (rounds.of_same_quotient otherPositive positive same.symm)
  simp only [ofQuanta, nearest]

/-- Quotients far from the largest numbers stay finite. -/
theorem Double.isFinite_ofQuanta {negative : Bool} {numerator denominator bits : Nat}
    (positive : 0 < denominator) (few : bits < 900)
    (small : numerator ≤ 2 ^ bits * Format.double.unit * denominator) :
    (.ofQuanta negative numerator denominator : Double).isFinite = true := by
  obtain ⟨point, pointIs⟩ : ∃ point, point = 1074 := ⟨_, rfl⟩
  have unit : Format.double.unit = 2 ^ point := by
    rw [pointIs, Format.unit, Nat.pow_eq]
    congr 1
  have exponents : bits + point + 2 < 2 ^ Format.double.exponentBits := by
    change _ < 2 ^ 11
    omega
  obtain ⟨rank, finite, exact⟩ := Format.exists_rank_shifted
    (show 1 < 2 * Format.double.binade by decide) exponents
  rw [Nat.one_mul, Nat.pow_add, ← unit] at exact
  rw [← exact] at small
  have low := Format.nearestRank_le positive small
  exact decide_eq_true ((Nat.min_le_left ..).trans_lt (low.trans_lt finite))

end Numeric

namespace Json

/-- The powers of ten that are doubles. -/
theorem read_powerOfTen : ∀ exponent < 23,
    (powerOfTen exponent).read = .finite false (10 ^ exponent * Format.double.unit) := by
  decide +kernel

theorem le_foldl_digits (start : Nat) (digits : List Char) :
    start ≤ digits.foldl (fun value char => 10 * value + (digitValue? char).getD 0) start := by
  induction digits generalizing start with
  | nil => exact Nat.le_refl _
  | cons digit rest ih => exact (show start ≤ 10 * start + _ by omega).trans (ih _)

theorem takeWhole_of_fits {start : Nat} {digits : List Char}
    (fits : digits.foldl (fun value char => 10 * value + (digitValue? char).getD 0) start <
      UInt64.size) :
    takeWhole start digits =
      (digits.foldl (fun value char => 10 * value + (digitValue? char).getD 0) start, 0) := by
  induction digits generalizing start with
  | nil => rfl
  | cons digit rest ih =>
    have longer := (le_foldl_digits _ rest).trans_lt fits
    simp only [takeWhole, longer?, if_pos longer]
    exact ih fits

theorem takeFraction_of_fits {start : Nat} {exponent : Int} {digits : List Char}
    (fits : digits.foldl (fun value char => 10 * value + (digitValue? char).getD 0) start <
      UInt64.size) :
    takeFraction start exponent digits =
      (digits.foldl (fun value char => 10 * value + (digitValue? char).getD 0) start,
        exponent - digits.length) := by
  induction digits generalizing start exponent with
  | nil => simp [takeFraction]
  | cons digit rest ih =>
    have longer := (le_foldl_digits _ rest).trans_lt fits
    simp only [takeFraction, longer?, if_pos longer]
    rw [ih fits, List.foldl_cons, List.length_cons]
    congr 1
    omega

/-- Nothing is cut from a significand of 64 bits. -/
theorem cutDecimal_of_fits {numeral : Numeral} (negative : Bool)
    (fits : (numeral.toDecimal negative).coefficient < UInt64.size) :
    cutDecimal negative numeral = numeral.toDecimal negative := by
  simp only [Numeral.toDecimal, digitsValue, List.foldl_append] at fits ⊢
  have whole := takeWhole_of_fits ((le_foldl_digits _ _).trans_lt fits)
  have fraction : takeFraction _ 0 _ = _ := takeFraction_of_fits fits
  rw [cutDecimal, whole]
  simp only [fraction, List.length_drop, Decimal.mk.injEq, true_and]
  omega

/-- A significand and a power of ten that are doubles themselves. -/
structure Short (decimal : Decimal) : Prop where
  significand : decimal.coefficient < 2 ^ 53
  power : decimal.exponent.natAbs < 23

instance (decimal : Decimal) : Decidable (Short decimal) :=
  decidable_of_iff (decimal.coefficient < 2 ^ 53 ∧ decimal.exponent.natAbs < 23)
    ⟨fun ⟨significand, power⟩ => ⟨significand, power⟩, fun short => ⟨short.1, short.2⟩⟩

theorem read_significand {coefficient : Nat} (short : coefficient < 2 ^ 53) :
    (.ofInt coefficient : Double).read = .finite false (coefficient * Format.double.unit) := by
  have fits : (coefficient : Int).natAbs < 2 * Format.double.binade := by
    rw [Int.natAbs_natCast]
    exact short
  rw [Binary.read_ofInt Format.double_reaches fits, Int.natAbs_natCast]
  simp

/-- No short decimal is out of reach. -/
theorem toBinary_of_short {negative : Bool} {coefficient : Nat} {exponent : Int}
    (short : Short ⟨negative, coefficient, exponent⟩) :
    (Decimal.mk negative coefficient exponent).toBinary =
      (.ofQuanta negative (coefficient * 10 ^ exponent.toNat * Format.double.unit)
        (10 ^ (-exponent).toNat) : Double) := by
  have power : exponent.natAbs < 23 := short.power
  have reach : (2 ^ Format.double.exponentBits : Int) = 2048 := rfl
  simp only [Decimal.toBinary, Nat.pow_eq, Nat.cast_pow, Nat.cast_ofNat, reach]
  split
  · rename_i zero
    rw [zero, Nat.zero_mul, Nat.zero_mul]
    exact (Binary.ofQuanta_zero _ (Nat.pow_pos (by decide)) Format.double_reaches).symm
  · rw [if_neg (by omega), if_neg (by omega)]
    split
    · have whole : (-exponent).toNat = 0 := by omega
      rw [whole, Nat.pow_zero]
    · have whole : exponent.toNat = 0 := by omega
      rw [whole, Nat.pow_zero, Nat.mul_one]

theorem mul_powerOfTen {significand : Double} {coefficient exponent : Nat}
    (read : significand.read = .finite false (coefficient * Format.double.unit))
    (near : exponent < 23) :
    significand * powerOfTen exponent =
      .ofQuanta false (coefficient * 10 ^ exponent * Format.double.unit) 1 := by
  change Binary.mul _ _ = _
  rw [Binary.mul, read, read_powerOfTen exponent near]
  exact Binary.ofQuanta_congr _ Format.double.unit_pos Nat.one_pos (by ring)

theorem div_powerOfTen {significand : Double} {coefficient exponent : Nat}
    (read : significand.read = .finite false (coefficient * Format.double.unit))
    (near : exponent < 23) :
    significand / powerOfTen exponent =
      .ofQuanta false (coefficient * Format.double.unit) (10 ^ exponent) := by
  have scale_pos : 0 < 10 ^ exponent * Format.double.unit :=
    Nat.mul_pos (Nat.pow_pos (by decide)) Format.double.unit_pos
  change Binary.div _ _ = _
  rw [Binary.div, read, read_powerOfTen exponent near]
  simp only [if_neg scale_pos.ne']
  exact Binary.ofQuanta_congr _ scale_pos (Nat.pow_pos (by decide)) (by ring)

/-- What is left of scaling a short decimal is one rounding. -/
theorem scaled?_of_short {negative : Bool} {coefficient : Nat} {exponent : Int}
    (short : Short ⟨negative, coefficient, exponent⟩) :
    scaled? ⟨negative, coefficient, exponent⟩ =
      some (.ofQuanta false (coefficient * 10 ^ exponent.toNat * Format.double.unit)
        (10 ^ (-exponent).toNat)) := by
  have power : exponent.natAbs < 23 := short.power
  have read := read_significand short.significand
  unfold scaled?
  cases exponent with
  | ofNat exponent =>
    have near : exponent < 23 := power
    have small : coefficient * 10 ^ exponent * Format.double.unit ≤
        2 ^ 127 * Format.double.unit * 1 := by
      rw [Nat.mul_one]
      refine Nat.mul_le_mul_right _ ?_
      calc coefficient * 10 ^ exponent ≤ 2 ^ 53 * 10 ^ 22 :=
            Nat.mul_le_mul short.significand.le (Nat.pow_le_pow_right (by decide) (by omega))
        _ ≤ 2 ^ 127 := by decide
    have finite : (.ofQuanta false (coefficient * 10 ^ exponent * Format.double.unit) 1 :
        Double).isFinite = true := Double.isFinite_ofQuanta Nat.one_pos (by decide) small
    have within : exponent ≤ maxPower := by
      simp only [maxPower]
      omega
    simp [mul_powerOfTen read near, finite, within]
  | negSucc exponent =>
    have near : exponent + 1 < 23 := power
    have once : exponent / maxPower = 0 := Nat.div_eq_of_lt (by simp only [maxPower]; omega)
    simp [once, scaleDown, div_powerOfTen read near]

/-- The decimals that short texts write are read as the doubles nearest to them. -/
theorem double?_of_short {negative : Bool} {numeral : Numeral}
    (short : Short (numeral.toDecimal negative)) :
    double? (.number negative numeral) = some (numeral.toDecimal negative).toBinary := by
  have fits := short.significand.trans (show 2 ^ 53 < UInt64.size by decide)
  rw [double?, cutDecimal_of_fits negative fits, Numeral.toDecimal, scaled?_of_short short,
    toBinary_of_short short]
  cases negative <;> rfl

end Json

namespace Number

/-- Whether a number, if it is a double, is written with a significand below 2⁵³ and a power
of ten within 22 of one. -/
def isShort : Number → Bool
  | double value => decide (Short ((doubleStyle.magnitude value).toDecimal value.negative))
  | int _ | float _ => true

/-- Short doubles come back from their texts. -/
theorem ofJson?_of_isShort {value : Double} (finite : value.isFinite = true)
    (short : (double value).isShort = true) :
    ofJson? (double value).toJson = some (double value) := by
  have written : value.toJson = .number value.negative (doubleStyle.magnitude value) :=
    if_pos finite
  have same : ((doubleStyle.magnitude value).toDecimal value.negative).toBinary = value :=
    Style.toBinary_magnitude (by decide) value (of_decide_eq_true finite)
  change value.toJson.double?.map double = _
  rw [written, double?_of_short (of_decide_eq_true short), same, Option.map_some]

end Number

/-- A significand of seventeen digits is rounded before it is divided, and the double that
its text was made from is missed by one. -/
example :
    let value : Double := .ofBits 0x403f3eca06faea82
    Number.ofJson? (Number.double value).toJson = some (.double (.ofBits 0x403f3eca06faea83)) := by
  decide +kernel

end Rulebook
