import Mathlib.Algebra.Order.Field.Power
import Mathlib.Data.Sign.Basic
import Rulebook.Proofs.RoundingPolicies

/-! Differences, products and quotients are the exact result, rounded: no number of the
format is between the two, so where the format has the exact result it is what comes out.
Quotients of whole numbers that are short enough keep their floor. -/
namespace Rulebook.Numeric

namespace Format
variable {format : Format}

theorem one_lt_binade (format : Format) : 1 < format.binade :=
  Nat.one_lt_two_pow format.fractionBits_pos.ne'

theorem quanta_one (format : Format) : format.quanta 1 = 1 :=
  if_pos format.one_lt_binade

theorem Reaches.one_lt_infinityRank (reaches : format.Reaches) : 1 < format.infinityRank :=
  format.one_lt_binade.trans_le
    (Nat.le_mul_of_pos_left _ (Nat.pos_of_mul_pos_right reaches.infinityRank_pos))

/-- The number before is further away than the fraction of any number can resolve. -/
theorem quanta_succ_le (format : Format) (rank : Nat) : format.quanta (rank + 1) ≤
    2 * format.binade * (format.quanta (rank + 1) - format.quanta rank) := by
  obtain ⟨shift, whole, split, whole_lt⟩ := format.exists_splits rank
  rw [split.quanta_eq, (split.succ whole_lt).quanta_eq, ← Nat.sub_mul, Nat.add_sub_cancel_left,
    Nat.one_mul]
  exact Nat.mul_le_mul_right _ whole_lt

/-- Larger numbers have no smaller exponents. -/
theorem Splits.shift_le {low high lowShift highShift lowWhole highWhole : Nat}
    (first : format.Splits low lowShift lowWhole) (second : format.Splits high highShift highWhole)
    (fraction : highWhole < 2 * format.binade) (ordered : low ≤ high) : lowShift ≤ highShift := by
  by_contra! above
  have leading : format.binade ≤ lowWhole := first.leading.resolve_left (by omega)
  have next : (highShift + 1) * format.binade ≤ lowShift * format.binade :=
    Nat.mul_le_mul_right _ above
  rw [first.rank_eq, second.rank_eq] at ordered
  rw [Nat.add_one_mul] at next
  omega

/-- What a number of the format leaves when it is divided by another one is a number of the
format, since it has no smaller parts than the divisor and is less. -/
theorem exists_rank_mod (reaches : format.Reaches) (rank : Nat) {divisor : Nat}
    (finite : divisor < format.infinityRank) (positive : 0 < divisor) :
    ∃ rest < divisor, format.quanta rest = format.quanta rank % format.quanta divisor := by
  have mono := format.quanta_strictMono
  have quanta_pos := mono positive
  rw [quanta_zero] at quanta_pos
  obtain less | more := Nat.lt_or_ge rank divisor
  · exact ⟨rank, less, (Nat.mod_eq_of_lt (mono less)).symm⟩
  obtain ⟨shift, whole, split, whole_lt⟩ := format.exists_splits rank
  obtain ⟨least, part, divided, part_lt⟩ := format.exists_splits divisor
  obtain ⟨apart, rfl⟩ := Nat.exists_eq_add_of_le (divided.shift_le split whole_lt more)
  have remains : format.quanta rank % format.quanta divisor =
      whole * 2 ^ apart % part * 2 ^ least := by
    rw [split.quanta_eq, divided.quanta_eq, Nat.pow_eq, Nat.pow_eq, Nat.pow_add,
      Nat.mul_comm (2 ^ least), ← Nat.mul_assoc, Nat.mul_mod_mul_right]
  have part_pos : 0 < part := by
    refine Nat.pos_of_ne_zero ?_
    rintro rfl
    rw [divided.quanta_eq, Nat.zero_mul] at quanta_pos
    exact Nat.lt_irrefl 0 quanta_pos
  obtain ⟨rest, -, exact⟩ := exists_rank_shifted
    ((Nat.mod_lt (whole * 2 ^ apart) part_pos).trans part_lt) (reaches.bounded divided finite)
  rw [← remains] at exact
  exact ⟨rest, mono.lt_iff_lt.mp (exact ▸ Nat.mod_lt _ quanta_pos), exact⟩

end Format

namespace Binary
variable {format : Format} {number left right : Binary format}

theorem unit_pos_rat (format : Format) : (0 : ℚ) < format.unit :=
  Nat.cast_pos.mpr format.unit_pos

theorem abs_toRat (number : Binary format) :
    |number.toRat| = format.quanta number.rank / format.unit := by
  rw [toRat, abs_div, abs_of_pos (unit_pos_rat format), ← Int.cast_abs, Int.abs_eq_natAbs, count,
    natAbs_signed, Int.cast_natCast]

/-- Numbers are further from zero where their ranks are higher. -/
theorem abs_toRat_le_iff : |left.toRat| ≤ |right.toRat| ↔ left.rank ≤ right.rank := by
  rw [abs_toRat, abs_toRat, div_le_div_iff_of_pos_right (unit_pos_rat format), Nat.cast_le,
    format.quanta_strictMono.le_iff_le]

theorem toRat_zero (negative : Bool) : (zero negative : Binary format).toRat = 0 := by
  have none : (zero negative : Binary format).count = 0 := by
    rw [count, zero, Format.quanta_zero]
    cases negative <;> rfl
  rw [toRat, none, Int.cast_zero, zero_div]

/-- A number is an exact value, rounded: it is not on the other side of zero, or of any
number of the format. -/
structure Rounds (number : Binary format) (exact : ℚ) : Prop where
  isNumber : number.isNaN = false
  side : 0 ≤ number.toRat * exact
  within {bound : Binary format} (finite : bound.isFinite = true)
    (inside : |exact| ≤ |bound.toRat|) : |number.toRat| ≤ |bound.toRat|
  beyond {bound : Binary format} (finite : bound.isFinite = true)
    (outside : |bound.toRat| ≤ |exact|) : |bound.toRat| ≤ |number.toRat|

namespace Rounds
variable {exact : ℚ}

/-- What is not beyond a finite number is not rounded to infinity. -/
theorem finite (rounds : number.Rounds exact) {bound : Binary format}
    (finite : bound.isFinite = true) (inside : |exact| ≤ |bound.toRat|) :
    number.isFinite = true := by
  rw [Binary.isFinite, decide_eq_true_iff] at finite ⊢
  exact (abs_toRat_le_iff.mp (rounds.within (decide_eq_true finite) inside)).trans_lt finite

/-- What the format has is not changed. -/
theorem toRat_eq (rounds : number.Rounds exact) {bound : Binary format}
    (finite : bound.isFinite = true) (same : bound.toRat = exact) : number.toRat = exact := by
  have magnitude : |number.toRat| = |exact| := by
    rw [← same]
    exact le_antisymm (rounds.within finite (by rw [same])) (rounds.beyond finite (by rw [same]))
  obtain equal | opposite := abs_eq_abs.mp magnitude
  · exact equal
  · have side := rounds.side
    rw [opposite, neg_mul, neg_nonneg] at side
    rw [opposite, mul_self_eq_zero.mp (le_antisymm side (mul_self_nonneg exact)), neg_zero]

theorem toRat_eq_zero (rounds : number.Rounds 0) (reaches : format.Reaches) :
    number.isFinite = true ∧ number.toRat = 0 := by
  have zeroFinite : (zero false : Binary format).isFinite = true :=
    decide_eq_true reaches.infinityRank_pos
  have same : (zero false : Binary format).toRat = 0 := toRat_zero false
  exact ⟨rounds.finite zeroFinite (by rw [same]), rounds.toRat_eq zeroFinite same⟩

theorem nonneg (rounds : number.Rounds exact) (reaches : format.Reaches) (exactly : 0 ≤ exact) :
    0 ≤ number.toRat := by
  obtain rfl | positive := exactly.eq_or_lt
  · exact (rounds.toRat_eq_zero reaches).2.ge
  · exact (mul_nonneg_iff_of_pos_right positive).mp rounds.side

/-- What is not rounded to zero keeps its sign. -/
theorem sign_eq (rounds : number.Rounds exact) (reaches : format.Reaches)
    (kept : number.toRat = 0 → exact = 0) :
    SignType.sign number.toRat = SignType.sign exact := by
  rcases lt_trichotomy exact 0 with negative | rfl | positive
  · have nonpos := nonpos_of_mul_nonneg_left rounds.side negative
    rw [sign_neg negative, sign_neg (lt_of_le_of_ne nonpos fun zero => negative.ne (kept zero))]
  · rw [(rounds.toRat_eq_zero reaches).2]
  · have nonneg := rounds.nonneg reaches positive.le
    rw [sign_pos positive, sign_pos (lt_of_le_of_ne' nonneg fun zero => positive.ne' (kept zero))]

end Rounds

theorem rounds_ofQuanta (negative : Bool) (numerator : Nat) {denominator : Nat}
    (positive : 0 < denominator) :
    (ofQuanta negative numerator denominator : Binary format).Rounds
      (signed negative numerator / denominator / format.unit) := by
  have unit_pos := unit_pos_rat format
  have above : (0 : ℚ) < denominator := Nat.cast_pos.mpr positive
  have magnitude : |(signed negative numerator / denominator / format.unit : ℚ)| =
      numerator / denominator / format.unit := by
    rw [abs_div, abs_div, abs_of_pos above, abs_of_pos unit_pos, ← Int.cast_abs, Int.abs_eq_natAbs,
      natAbs_signed, Int.cast_natCast]
  refine ⟨isNaN_eq_false_iff.mpr (Nat.min_le_right ..), ?_, fun {bound} finite inside => ?_,
    fun {bound} finite outside => ?_⟩
  · have same (quanta : Nat) :
        (0 : ℚ) ≤ signed negative quanta * signed negative numerator := by
      rw [← Int.cast_mul, signed_mul_signed, bne_self_eq_false]
      exact Int.cast_nonneg (Int.natCast_nonneg _)
    rw [toRat, div_div, div_mul_div_comm]
    exact div_nonneg (same _) (by positivity)
  · rw [magnitude, abs_toRat, div_le_div_iff_of_pos_right unit_pos, div_le_iff₀ above] at inside
    rw [abs_toRat_le_iff]
    exact (Nat.min_le_left ..).trans (Format.nearestRank_le positive (by exact_mod_cast inside))
  · rw [magnitude, abs_toRat, div_le_div_iff_of_pos_right unit_pos, le_div_iff₀ above] at outside
    rw [abs_toRat_le_iff]
    exact Nat.le_min.mpr ⟨Format.le_nearestRank positive (by exact_mod_cast outside),
      (of_decide_eq_true finite).le⟩

theorem rounds_mul (leftFinite : left.isFinite = true) (rightFinite : right.isFinite = true) :
    (left * right).Rounds (left.toRat * right.toRat) := by
  have product : left * right = ofQuanta (left.negative != right.negative)
      (format.quanta left.rank * format.quanta right.rank) format.unit := by
    change left.mul right = _
    rw [mul, read_of_isFinite leftFinite, read_of_isFinite rightFinite]
  have rounds : Rounds (ofQuanta .. : Binary format) _ := rounds_ofQuanta
    (left.negative != right.negative) (format.quanta left.rank * format.quanta right.rank)
    format.unit_pos
  rw [← product, ← signed_mul_signed, Int.cast_mul, div_div, mul_div_mul_comm] at rounds
  exact rounds

theorem rounds_sub (reaches : format.Reaches) (leftFinite : left.isFinite = true)
    (rightFinite : right.isFinite = true) :
    (left - right).Rounds (left.toRat - right.toRat) := by
  obtain ⟨negative, difference, same⟩ : ∃ negative,
      left - right = ofQuanta negative (left.count - right.count).natAbs 1 ∧
        signed negative (left.count - right.count).natAbs = left.count - right.count := by
    have terms : signed left.negative (format.quanta left.rank) +
        signed (!right.negative) (format.quanta right.rank) = left.count - right.count := by
      rw [signed_not, ← sub_eq_add_neg, count, count]
    change ∃ negative, left.add right.neg = _ ∧ _
    rw [add, read_of_isFinite leftFinite, read_neg (read_of_isFinite rightFinite)]
    simp only [terms]
    split
    · rename_i equal
      rw [equal]
      exact ⟨_, (ofQuanta_zero _ Nat.one_pos reaches).symm, by simp [signed]⟩
    · exact ⟨_, rfl, signed_natAbs _⟩
  have rounds : Rounds (ofQuanta .. : Binary format) _ :=
    rounds_ofQuanta negative (left.count - right.count).natAbs Nat.one_pos
  rwa [← difference, same, Nat.cast_one, div_one, Int.cast_sub, sub_div] at rounds

/-- The smallest number that is not zero. -/
theorem exists_quantum (reaches : format.Reaches) :
    ∃ quantum : Binary format, quantum.isFinite = true ∧ |quantum.toRat| = 1 / format.unit := by
  have finite := reaches.one_lt_infinityRank
  refine ⟨⟨false, 1, finite.trans format.infinityRank_lt_ranks⟩, decide_eq_true finite, ?_⟩
  rw [abs_toRat, Format.quanta_one, Nat.cast_one]

/-- A difference of numbers is rounded to zero only if they are equal: it is a whole count
of quanta. -/
theorem sign_sub (reaches : format.Reaches) (leftFinite : left.isFinite = true)
    (rightFinite : right.isFinite = true) :
    SignType.sign (left - right).toRat = SignType.sign (left.toRat - right.toRat) := by
  have rounds := rounds_sub reaches leftFinite rightFinite
  refine rounds.sign_eq reaches fun zero => ?_
  by_contra apart
  obtain ⟨quantum, finite, one⟩ := exists_quantum reaches
  have outside : |quantum.toRat| ≤ |left.toRat - right.toRat| := by
    have whole : 1 ≤ |left.count - right.count| := by
      refine Int.one_le_abs fun equal => apart ?_
      rw [toRat, toRat, ← sub_div, ← Int.cast_sub, equal, Int.cast_zero, zero_div]
    rw [one, toRat, toRat, ← sub_div, abs_div, abs_of_pos (unit_pos_rat format),
      div_le_div_iff_of_pos_right (unit_pos_rat format)]
    exact_mod_cast whole
  have kept := rounds.beyond finite outside
  rw [one, zero, abs_zero] at kept
  exact absurd kept (not_le.mpr (one_div_pos.mpr (unit_pos_rat format)))

theorem isNaN_infinity (negative : Bool) : (infinity negative : Binary format).isNaN = false :=
  isNaN_eq_false_iff.mpr (Nat.le_refl _)

theorem quanta_ne_zero_of_isZero (nonzero : number.isZero = false) :
    format.quanta number.rank ≠ 0 := by
  have some := Nat.pos_of_ne_zero (beq_eq_false_iff_ne.mp nonzero)
  have more := format.quanta_strictMono some
  omega

/-- A finite number is divided by another one that is not zero by rounding the quotient. -/
theorem div_eq (leftFinite : left.isFinite = true) (rightFinite : right.isFinite = true)
    (nonzero : right.isZero = false) :
    left / right = ofQuanta (left.negative != right.negative)
      (format.quanta left.rank * format.unit) (format.quanta right.rank) := by
  change left.div right = _
  rw [div, read_of_isFinite leftFinite, read_of_isFinite rightFinite]
  exact if_neg (quanta_ne_zero_of_isZero nonzero)

theorem signed_div_signed (first second : Bool) (dividend divisor : Nat) :
    (signed (first != second) dividend : ℚ) / divisor =
      signed first dividend / signed second divisor := by
  cases first <;> cases second <;> simp [signed, neg_div, div_neg]

theorem rounds_div (leftFinite : left.isFinite = true) (rightFinite : right.isFinite = true)
    (nonzero : right.isZero = false) : (left / right).Rounds (left.toRat / right.toRat) := by
  have unit_ne := (unit_pos_rat format).ne'
  have rounds : Rounds (ofQuanta .. : Binary format) _ := rounds_ofQuanta
    (left.negative != right.negative) (format.quanta left.rank * format.unit)
    (Nat.pos_of_ne_zero (quanta_ne_zero_of_isZero nonzero))
  rw [← div_eq leftFinite rightFinite nonzero, signed_mul, Int.cast_mul, Int.cast_natCast,
    div_right_comm, mul_div_cancel_right₀ _ unit_ne, signed_div_signed, ← count, ← count] at rounds
  rwa [toRat, toRat, div_div_div_cancel_right₀ unit_ne]

theorem isNaN_makeWhole (rule : Int → Nat → Int) (isNumber : number.isNaN = false) :
    (number.makeWhole rule).isNaN = false := by
  rcases number.read_cases with ⟨-, read⟩ | ⟨-, read⟩ | ⟨isNaN, -⟩
  · rw [makeWhole, read]
    exact isNaN_ofQuanta ..
  · rw [makeWhole, read]
    exact isNumber
  · rw [isNumber] at isNaN
    cases isNaN

theorem isNaN_mul (isNumber : left.isNaN = false) (rightFinite : right.isFinite = true)
    (nonzero : right.isZero = false) : (left * right).isNaN = false := by
  change (left.mul right).isNaN = false
  rcases left.read_cases with ⟨-, read⟩ | ⟨-, read⟩ | ⟨isNaN, -⟩
  · rw [mul, read, read_of_isFinite rightFinite]
    exact isNaN_ofQuanta ..
  · rw [mul, read, read_of_isFinite rightFinite]
    simp only [if_neg (quanta_ne_zero_of_isZero nonzero)]
    exact isNaN_infinity _
  · rw [isNumber] at isNaN
    cases isNaN

/-- Infinity that is taken away from a finite number leaves infinity. -/
theorem exists_sub_eq_infinity (leftFinite : left.isFinite = true) (isNumber : right.isNaN = false)
    (infinite : right.isFinite = false) : ∃ negative, left - right = infinity negative := by
  change ∃ negative, left.add right.neg = infinity negative
  have isNumber : right.neg.isNaN = false := isNumber
  have infinite : right.neg.isFinite = false := infinite
  rcases right.neg.read_cases with ⟨finite, -⟩ | ⟨-, read⟩ | ⟨isNaN, -⟩
  · rw [isFinite, decide_eq_false_iff_not] at infinite
    exact absurd finite infinite
  · rw [add, read_of_isFinite leftFinite, read]
    exact ⟨_, rfl⟩
  · rw [isNumber] at isNaN
    cases isNaN

theorem toRat_ne_zero (nonzero : number.isZero = false) : number.toRat ≠ 0 := by
  have some := quanta_ne_zero_of_isZero nonzero
  rw [← abs_ne_zero, abs_toRat]
  exact div_ne_zero (Nat.cast_ne_zero.mpr some) (unit_pos_rat format).ne'

/-- Making a number whole by rounding it down takes its floor. -/
theorem toRat_makeWhole_floor (reaches : format.Reaches) (finite : number.isFinite = true) :
    (number.makeWhole floorQuotient).isFinite = true ∧
      (number.makeWhole floorQuotient).toRat = ⌊number.toRat⌋ := by
  obtain ⟨madeFinite, counted⟩ := count_makeWhole bracketed_floor reaches finite
  refine ⟨madeFinite, toRat_eq_intCast_iff.mpr ?_⟩
  rw [counted, toRat, Rat.floor_intCast_div_natCast]
  rfl

/-- A whole number has the sign of the number that it is on some scale. -/
theorem signed_natAbs_of_toRat {value : Int} {scale : ℚ} (positive : 0 < scale)
    (same : number.toRat = value * scale) : signed number.negative value.natAbs = value := by
  have around : 0 < format.unit * scale := mul_pos (unit_pos_rat format) positive
  have ratio : (value : ℚ) = number.count / (format.unit * scale) := by
    rw [eq_div_iff around.ne', mul_left_comm, mul_comm, ← same, toRat,
      div_mul_cancel₀ _ (unit_pos_rat format).ne']
  rw [count] at ratio
  cases sign : number.negative with
  | false =>
    have nonneg : (0 : ℚ) ≤ value := by
      rw [ratio, sign]
      exact div_nonneg (Int.cast_nonneg (Int.natCast_nonneg _)) around.le
    exact Int.natAbs_of_nonneg (Int.cast_nonneg_iff.mp nonneg)
  | true =>
    have nonpos : (value : ℚ) ≤ 0 := by
      rw [ratio, sign]
      exact div_nonpos_of_nonpos_of_nonneg (Int.cast_nonpos.mpr (by simp [signed])) around.le
    have nonpos := Int.cast_nonpos.mp nonpos
    rw [signed, if_pos rfl]
    omega

theorem quanta_of_toRat {value : Int} {scale : ℚ} (positive : 0 < scale)
    (same : number.toRat = value * scale) :
    (format.quanta number.rank : ℚ) = value.natAbs * (scale * format.unit) := by
  have magnitude := abs_toRat number
  rw [same, abs_mul, abs_of_pos positive, ← Int.cast_abs, Int.abs_eq_natAbs, Int.cast_natCast,
    eq_div_iff (unit_pos_rat format).ne'] at magnitude
  rw [← magnitude, mul_assoc]

section Floor

variable {dividend divisor : Int} {scale : ℚ} (nonzero : right.isZero = false)
  (positive : 0 < scale) (leftIs : left.toRat = dividend * scale)
  (rightIs : right.toRat = divisor * scale)
include nonzero positive leftIs rightIs

/-- Numbers that are whole on a common scale have the quotient of the whole numbers. -/
theorem stands_of_toRat : format.Stands (format.quanta left.rank * format.unit)
    (format.quanta right.rank) dividend.natAbs divisor.natAbs where
  denominator_pos := Nat.pos_of_ne_zero (quanta_ne_zero_of_isZero nonzero)
  divisor_pos := by
    refine Nat.pos_of_ne_zero fun zero => toRat_ne_zero nonzero ?_
    rw [rightIs, Int.natAbs_eq_zero.mp zero, Int.cast_zero, zero_mul]
  same := by
    have cross : (format.quanta left.rank * format.unit * divisor.natAbs : ℚ) =
        dividend.natAbs * format.unit * format.quanta right.rank := by
      rw [quanta_of_toRat positive leftIs, quanta_of_toRat positive rightIs]
      ring
    exact_mod_cast cross

/-- If the whole numbers are together no longer than a fraction, the rounded quotient has the
floor of the exact one. -/
theorem floor_div (reaches : format.Reaches) (leftFinite : left.isFinite = true)
    (rightFinite : right.isFinite = true)
    (short : dividend.natAbs + divisor.natAbs < 2 * format.binade) :
    (left / right).isFinite = true ∧ ⌊(left / right).toRat⌋ = ⌊(dividend / divisor : ℚ)⌋ := by
  have stands := stands_of_toRat nonzero positive leftIs rightIs
  obtain ⟨finite, -⟩ := stands.quanta_div reaches short
  have floor := stands.floorQuotient_eq reaches short (left.negative != right.negative)
  have quotient : (signed (left.negative != right.negative) dividend.natAbs : ℚ) / divisor.natAbs =
      dividend / divisor := by
    rw [signed_div_signed, signed_natAbs_of_toRat positive leftIs,
      signed_natAbs_of_toRat positive rightIs]
  have nearest : format.RoundsTo (format.quanta left.rank * format.unit)
      (format.quanta right.rank) _ := Format.roundsTo_nearestRank stands.denominator_pos
  rw [div_eq leftFinite rightFinite nonzero, ofQuanta_eq stands.denominator_pos finite nearest]
  refine ⟨decide_eq_true finite, ?_⟩
  rw [← quotient, Rat.floor_intCast_div_natCast, toRat, Rat.floor_intCast_div_natCast]
  exact floor

end Floor

end Binary

namespace Double
open Binary
variable {left right : Double}

/-- Whole numbers no longer than a fraction are doubles on every scale within the exponents. -/
theorem exists_toRat_eq {value exponent : ℤ} (short : |value| < 2 ^ 53) (low : -1074 ≤ exponent)
    (high : exponent ≤ 971) :
    ∃ number : Double, number.isFinite = true ∧ number.toRat = value * 2 ^ exponent := by
  obtain ⟨bias, difference, unit⟩ : ∃ bias, bias = 1074 ∧ Format.double.unit = 2 ^ bias := by
    refine ⟨2 ^ (Format.double.exponentBits - 1) - 2 + Format.double.fractionBits, rfl, ?_⟩
    rw [Format.unit, Nat.pow_eq, Nat.pow_eq]
  obtain ⟨shift, shifted⟩ : ∃ shift : Nat, exponent = shift - bias :=
    ⟨(exponent + bias).toNat, by omega⟩
  have small : value.natAbs < 2 * Format.double.binade := by
    have magnitude : (value.natAbs : ℤ) < 2 ^ 53 := by rwa [Int.natCast_natAbs]
    exact_mod_cast magnitude
  have bounded : shift + 2 < 2 ^ Format.double.exponentBits := by
    change _ < 2 ^ 11
    omega
  obtain ⟨rank, finite, exact⟩ := Format.exists_rank_shifted small bounded
  refine ⟨⟨decide (value < 0), rank, finite.trans Format.double.infinityRank_lt_ranks⟩,
    decide_eq_true finite, ?_⟩
  rw [toRat, count, exact, signed_natAbs_mul, unit, shifted,
    zpow_sub₀ two_ne_zero, mul_div_assoc']
  push_cast
  rfl

/-- Numbers are too far apart for a quotient less than one to be rounded to one. -/
theorem abs_toRat_div_lt_one (leftFinite : left.isFinite = true)
    (rightFinite : right.isFinite = true) (nonzero : right.isZero = false)
    (less : |left.toRat| < |right.toRat|) :
    (left / right).isFinite = true ∧ |(left / right).toRat| < 1 := by
  obtain ⟨bound, boundFinite, boundIs⟩ := exists_toRat_eq
    (show |(2 ^ 53 - 1 : ℤ)| < 2 ^ 53 by norm_num) (show -1074 ≤ (-53 : ℤ) by norm_num)
    (by norm_num)
  have quanta_pos := Nat.pos_of_ne_zero (quanta_ne_zero_of_isZero nonzero)
  have apart : Format.double.quanta left.rank * 2 ^ 53 + Format.double.quanta right.rank ≤
      Format.double.quanta right.rank * 2 ^ 53 := by
    rw [← not_le, abs_toRat_le_iff, not_le] at less
    obtain ⟨before, same⟩ : ∃ before, right.rank = before + 1 := ⟨right.rank - 1, by omega⟩
    have resolved := Format.double.quanta_succ_le before
    have below := Format.double.quanta_strictMono.monotone (show left.rank ≤ before by omega)
    rw [show 2 * Format.double.binade = 2 ^ 53 from rfl] at resolved
    rw [same] at quanta_pos ⊢
    omega
  have inside : |left.toRat / right.toRat| ≤ |bound.toRat| := by
    have apart : (Format.double.quanta left.rank * 2 ^ 53 + Format.double.quanta right.rank : ℚ) ≤
        Format.double.quanta right.rank * 2 ^ 53 := by exact_mod_cast apart
    rw [abs_div, abs_toRat, abs_toRat, div_div_div_cancel_right₀ (unit_pos_rat _).ne', boundIs,
      div_le_iff₀ (Nat.cast_pos.mpr quanta_pos)]
    norm_num
    linarith
  have rounds := rounds_div leftFinite rightFinite nonzero
  refine ⟨rounds.finite boundFinite inside, (rounds.within boundFinite inside).trans_lt ?_⟩
  rw [boundIs]
  norm_num

end Double

end Rulebook.Numeric
