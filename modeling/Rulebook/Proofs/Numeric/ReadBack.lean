import Mathlib.Tactic.Ring
import Rulebook.Proofs.Numeric.Layout
import Rulebook.Proofs.Numeric.Rounding

/-! A finite number reads back from the decimal it is written as. The decimal lies
between the half-way points around the number, because the search for the
shortest one looks nowhere else; and what lies there is rounded to the number. -/
namespace Rulebook.Numeric

namespace Format
variable {format : Format} {rank : Nat}

variable (format) in
/-- Infinity lies where the next exponent would begin. -/
theorem quanta_infinityRank_le :
    format.quanta format.infinityRank ≤ format.unit * 2 ^ 2 ^ format.exponentBits := by
  have positive := format.binade_pos
  have binade_le : format.binade ≤ format.unit :=
    Nat.pow_le_pow_right (by decide) (Nat.le_add_left ..)
  rw [quanta]
  split
  · rename_i small
    exact Nat.le_trans (by omega) (Nat.le_mul_of_pos_right _ (Nat.two_pow_pos _))
  · rw [infinityRank, Nat.mul_mod_left, Nat.mul_div_cancel _ positive]
    have exponent_le : 2 ^ format.exponentBits - 1 - 1 ≤ 2 ^ format.exponentBits :=
      (Nat.sub_le ..).trans (Nat.sub_le ..)
    exact Nat.mul_le_mul binade_le (Nat.pow_le_pow_right (by decide) exponent_le)

/-- The quanta in one are not too many, if the exponents of a format reach as far
as its fractions. -/
theorem unit_le (reach : format.fractionBits ≤ 2 ^ (format.exponentBits - 1)) :
    format.unit ≤ 2 ^ 2 ^ format.exponentBits := by
  apply Nat.pow_le_pow_right (by decide)
  rw [Nat.pow_eq]
  cases exponentBits : format.exponentBits with
  | zero =>
    simp only [exponentBits] at reach
    omega
  | succ bits =>
    simp only [exponentBits, Nat.add_sub_cancel, Nat.pow_succ] at reach ⊢
    omega

theorem low_pos (positive : 0 < rank) : 0 < (format.bounds rank).1 :=
  Nat.add_pos_right _ (Nat.zero_lt_of_lt (format.quanta_strictMono positive))

end Format

theorem Binary.ofQuanta_eq {format : Format} {negative : Bool} {numerator denominator rank : Nat}
    (positive : 0 < denominator) (finite : rank < format.infinityRank)
    (rounds : format.RoundsTo numerator denominator rank) :
    ofQuanta negative numerator denominator =
      (⟨negative, rank, finite.trans format.infinityRank_lt_ranks⟩ : Binary format) := by
  simp only [ofQuanta, Binary.mk.injEq, true_and]
  rw [(Format.nearestRank_eq_iff positive).mpr rounds, Nat.min_eq_left finite.le]

namespace Decimal
open Format

/-- A decimal lies where it is rounded to a rank. -/
def NearRank (format : Format) (decimal : Decimal) (rank : Nat) : Prop :=
  format.RoundsTo (decimal.coefficient * 10 ^ decimal.exponent.toNat * format.unit)
    (10 ^ (-decimal.exponent).toNat) rank

variable {format : Format} {decimal : Decimal} {rank : Nat}

theorem NearRank.coefficient_pos (near : decimal.NearRank format rank) (positive : 0 < rank) :
    0 < decimal.coefficient := by
  rw [Nat.pos_iff_ne_zero]
  intro zero
  have product : 0 < (format.bounds rank).1 * 10 ^ (-decimal.exponent).toNat :=
    Nat.mul_pos (low_pos positive) (Nat.pow_pos (by decide))
  have low_le := near.low_le
  simp only [zero, Nat.zero_mul, Nat.mul_zero] at low_le
  omega

/-- A decimal with a finite rank is not settled early as too large. -/
theorem NearRank.exponent_le (near : decimal.NearRank format rank)
    (positive : 0 < decimal.coefficient) (finite : rank < format.infinityRank) :
    decimal.exponent ≤ (2 ^ format.exponentBits : Nat) := by
  by_contra! large
  have reach := Nat.two_pow_pos format.exponentBits
  have le_high := near.le_high
  have whole : (-decimal.exponent).toNat = 0 := by omega
  rw [whole, Nat.pow_zero, Nat.mul_one] at le_high
  have high : (format.bounds rank).2 ≤ 2 * (format.unit * 2 ^ 2 ^ format.exponentBits) := by
    have below := format.quanta_strictMono.monotone finite.le
    have above : format.quanta (rank + 1) ≤ format.quanta format.infinityRank :=
      format.quanta_strictMono.monotone finite
    have infinite := format.quanta_infinityRank_le
    simp only [Format.bounds]
    omega
  have scaled : 10 ^ decimal.exponent.toNat * format.unit ≤
      2 ^ 2 ^ format.exponentBits * format.unit :=
    calc 10 ^ decimal.exponent.toNat * format.unit
        ≤ decimal.coefficient * (10 ^ decimal.exponent.toNat * format.unit) :=
          Nat.le_mul_of_pos_left _ positive
      _ = decimal.coefficient * 10 ^ decimal.exponent.toNat * format.unit := by rw [Nat.mul_assoc]
      _ ≤ format.unit * 2 ^ 2 ^ format.exponentBits := by omega
      _ = 2 ^ 2 ^ format.exponentBits * format.unit := Nat.mul_comm ..
  have power : 2 ^ 2 ^ format.exponentBits < 10 ^ decimal.exponent.toNat :=
    calc 2 ^ 2 ^ format.exponentBits < 2 ^ decimal.exponent.toNat :=
          Nat.pow_lt_pow_right (by decide) (Int.lt_toNat.mpr large)
      _ ≤ 10 ^ decimal.exponent.toNat := Nat.pow_le_pow_left (by decide) _
  exact Nat.not_lt_of_le (Nat.le_of_mul_le_mul_right scaled format.unit_pos) power

/-- A decimal with a positive rank is not settled early as too small. -/
theorem NearRank.le_exponent (near : decimal.NearRank format rank) (positive : 0 < rank)
    (reach : format.fractionBits ≤ 2 ^ (format.exponentBits - 1)) :
    -((2 ^ format.exponentBits : Nat) : Int) ≤ decimal.exponent + decimal.coefficient.log2 + 1 := by
  by_contra! small
  have positiveReach := Nat.two_pow_pos format.exponentBits
  have low_le := near.low_le
  have whole : decimal.exponent.toNat = 0 := by omega
  rw [whole, Nat.pow_zero, Nat.mul_one] at low_le
  have deep : 2 * (2 ^ (decimal.coefficient.log2 + 1) * 2 ^ 2 ^ format.exponentBits) ≤
      10 ^ (-decimal.exponent).toNat :=
    calc 2 * (2 ^ (decimal.coefficient.log2 + 1) * 2 ^ 2 ^ format.exponentBits)
        = 2 ^ (decimal.coefficient.log2 + 1 + 2 ^ format.exponentBits + 1) := by ring
      _ ≤ 2 ^ (-decimal.exponent).toNat := Nat.pow_le_pow_right (by decide) (by omega)
      _ ≤ 10 ^ (-decimal.exponent).toNat := Nat.pow_le_pow_left (by decide) _
  have shallow : decimal.coefficient * format.unit <
      2 ^ (decimal.coefficient.log2 + 1) * 2 ^ 2 ^ format.exponentBits :=
    Nat.mul_lt_mul_of_lt_of_le Nat.lt_log2_self (unit_le reach) (Nat.two_pow_pos _)
  have scaled : 10 ^ (-decimal.exponent).toNat ≤
      (format.bounds rank).1 * 10 ^ (-decimal.exponent).toNat :=
    Nat.le_mul_of_pos_left _ (low_pos positive)
  omega

/-- A number is nearest to a decimal: the decimal is rounded to its rank, or to a rank
past the finite ones. -/
structure Nearest (decimal : Decimal) (number : Binary format) : Prop where
  negative_eq : number.negative = decimal.negative
  rank_eq : ∃ rank, decimal.NearRank format rank ∧ number.rank = min rank format.infinityRank

theorem Nearest.unique {first second : Binary format} (one : decimal.Nearest first)
    (other : decimal.Nearest second) : first = second := by
  obtain ⟨negative, rank, near, same⟩ := one
  obtain ⟨otherNegative, otherRank, otherNear, otherSame⟩ := other
  have equal : rank = otherRank := RoundsTo.unique (Nat.pow_pos (by decide)) near otherNear
  rw [Binary.mk.injEq]
  exact ⟨negative.trans otherNegative.symm, by rw [same, otherSame, equal]⟩

theorem nearest_ofQuanta {numerator denominator : Nat} (positive : 0 < denominator)
    (scaled : ∀ rank, format.RoundsTo numerator denominator rank → decimal.NearRank format rank) :
    decimal.Nearest (.ofQuanta decimal.negative numerator denominator : Binary format) where
  negative_eq := rfl
  rank_eq := ⟨_, scaled _ (roundsTo_nearestRank positive), rfl⟩

/-- A decimal is converted to the number nearest to it; what is settled early would be
rounded to the same. -/
theorem nearest_toBinary (reach : format.fractionBits ≤ 2 ^ (format.exponentBits - 1))
    (decimal : Decimal) : decimal.Nearest (decimal.toBinary : Binary format) := by
  have near : decimal.NearRank format _ := roundsTo_nearestRank (Nat.pow_pos (by decide))
  revert near
  generalize format.nearestRank _ _ = rank
  intro near
  simp only [toBinary, Nat.pow_eq]
  split
  · rename_i zero
    have lowest : rank = 0 := by
      by_contra positive
      have nonzero := near.coefficient_pos (Nat.pos_of_ne_zero positive)
      omega
    exact ⟨rfl, rank, near, by rw [lowest]; exact (Nat.zero_min _).symm⟩
  rename_i nonzero
  have positive := Nat.pos_of_ne_zero nonzero
  split
  · rename_i large
    have infinite : format.infinityRank ≤ rank := by
      by_contra! finite
      exact not_lt.mpr (near.exponent_le positive finite) large
    exact ⟨rfl, rank, near, (Nat.min_eq_right infinite).symm⟩
  split
  · rename_i small
    have lowest : rank = 0 := by
      by_contra positive
      exact not_lt.mpr (near.le_exponent (Nat.pos_of_ne_zero positive) reach) small
    exact ⟨rfl, rank, near, by rw [lowest]; exact (Nat.zero_min _).symm⟩
  split
  · refine nearest_ofQuanta Nat.one_pos fun rank scaled => ?_
    have whole : (-decimal.exponent).toNat = 0 := by omega
    rwa [NearRank, whole, Nat.pow_zero]
  · refine nearest_ofQuanta (Nat.pow_pos (by decide)) fun rank scaled => ?_
    have whole : decimal.exponent.toNat = 0 := by omega
    rwa [NearRank, whole, Nat.pow_zero, Nat.mul_one]

theorem toBinary_eq (reach : format.fractionBits ≤ 2 ^ (format.exponentBits - 1))
    (finite : rank < format.infinityRank) (near : decimal.NearRank format rank) :
    decimal.toBinary =
      (⟨decimal.negative, rank, finite.trans format.infinityRank_lt_ranks⟩ : Binary format) :=
  (nearest_toBinary reach decimal).unique ⟨rfl, rank, near, (Nat.min_eq_left finite.le).symm⟩

end Decimal

namespace Format
open Decimal
variable {format : Format} {ties : TieRule} {rank coefficient : Nat} {exponent : Int}

/-- A coefficient times a power of ten lies where it is rounded to a rank. -/
theorem nearRank_of_hit? (negative : Bool)
    (hit : format.hit? ties rank exponent = some coefficient) :
    NearRank format ⟨negative, coefficient, exponent⟩ rank := by
  unfold hit? at hit
  extract_lets scale step value low high inside below above at hit
  have chosen : inside (coefficient * step) = true := by
    clear_value inside above
    grind
  simp only [inside, Bool.or_eq_true, decide_eq_true_eq] at chosen
  have point : 2 * (coefficient * 10 ^ exponent.toNat * format.unit) = coefficient * step := by
    simp only [step, Nat.pow_eq]
    ring
  have low_le_high : low ≤ high :=
    Nat.mul_le_mul_right _ ((format.bounds_around rank).1.trans (format.bounds_around rank).2.le)
  refine ⟨?_, ?_, fun half => ?_⟩ <;> rw [point] at *
  · change low ≤ _
    omega
  · change _ ≤ high
    omega
  · change _ = low ∨ _ = high at half
    omega

theorem nearRank_exactDecimal (negative : Bool) :
    NearRank format ⟨negative, (format.exactDecimal rank).1, (format.exactDecimal rank).2⟩
      rank := by
  have log : format.unit.log2 = _ := Nat.log2_two_pow
  have power : 2 ^ format.unit.log2 = format.unit := by
    rw [log]
    rfl
  have point : format.quanta rank * 5 ^ format.unit.log2 * 10 ^ 0 * format.unit =
      format.quanta rank * 10 ^ format.unit.log2 :=
    calc format.quanta rank * 5 ^ format.unit.log2 * 10 ^ 0 * format.unit
        = format.quanta rank * (5 ^ format.unit.log2 * 2 ^ format.unit.log2) := by
          rw [Nat.pow_zero, Nat.mul_one, Nat.mul_assoc, power]
      _ = format.quanta rank * 10 ^ format.unit.log2 := by rw [← Nat.mul_pow]
  have whole : (-(format.unit.log2 : Int)).toNat = 0 := by omega
  simp only [NearRank, exactDecimal, Nat.pow_eq, whole, neg_neg, Int.toNat_natCast, point]
  exact roundsTo_quanta (Nat.pow_pos (by decide))

theorem nearRank_search (negative : Bool) (tries : Nat) :
    NearRank format ⟨negative, (format.search ties rank tries exponent).1,
      (format.search ties rank tries exponent).2⟩ rank := by
  induction tries generalizing exponent with
  | zero => exact nearRank_exactDecimal negative
  | succ tries ih =>
    rw [search]
    split
    · rename_i hit
      exact nearRank_of_hit? negative hit
    · exact ih

theorem nearRank_shortest (format : Format) (ties : TieRule) (rank : Nat) (negative : Bool) :
    NearRank format ⟨negative, (format.shortest ties rank).1, (format.shortest ties rank).2⟩ rank :=
  nearRank_search negative _

end Format

namespace Style
open Decimal
variable {style : Style} {format : Format} {rank coefficient : Nat} {exponent : Int}
  {negative : Bool}

theorem nearRank_layOut (near : NearRank format ⟨negative, coefficient, exponent⟩ rank) :
    NearRank format ((style.layOut coefficient exponent).toDecimal negative) rank := by
  obtain same | ⟨whole, scaled⟩ := style.toDecimal_layOut coefficient exponent negative
  · rwa [same]
  · have undivided : (-exponent).toNat = 0 := by omega
    simp only [NearRank, undivided] at near
    rw [scaled]
    split
    · exact near.of_same_quotient (by decide) (Nat.pow_pos (by decide)) (by simp; ring)
    · exact near.of_same_quotient (by decide) (Nat.pow_pos (by decide)) (by simp)

theorem wellFormed_magnitude (style : Style) (number : Binary format) :
    (style.magnitude number).WellFormed := by
  rw [magnitude]
  split
  · exact ⟨allDigits_zeros 1, by simp, fun _ => rfl, style.wholeMark_cases, .inl rfl⟩
  · rename_i nonzero
    have near := format.nearRank_shortest style.ties number.rank false
    exact wellFormed_layOut (near.coefficient_pos (Nat.pos_of_ne_zero nonzero))

/-- The numeral of a finite number reads as that number. -/
theorem toBinary_magnitude (reach : format.fractionBits ≤ 2 ^ (format.exponentBits - 1))
    (number : Binary format) (finite : number.rank < format.infinityRank) :
    ((style.magnitude number).toDecimal number.negative).toBinary = number := by
  rw [magnitude]
  split
  · rename_i zero
    have coefficient : digitsValue (['0'] ++ style.wholeMark.drop 1) = 0 := by
      rw [wholeMark]
      split <;> rfl
    obtain ⟨negative, rank, rank_lt⟩ := number
    obtain rfl : rank = 0 := zero
    exact if_pos coefficient
  · rename_i nonzero
    have near := format.nearRank_shortest style.ties number.rank number.negative
    exact toBinary_eq reach finite (nearRank_layOut near)

end Style

end Rulebook.Numeric
