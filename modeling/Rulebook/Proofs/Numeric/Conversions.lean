import Rulebook.Proofs.Numeric.WholeParts

/-! Conversions between formats. A number that both formats have comes back from a trip
through the other one; all numbers of 32 bits do, and integers that are numbers of 32
bits. -/
namespace Rulebook.Numeric

namespace Binary
variable {format target : Format}

/-- A number of another format is found there by its rank. -/
theorem convert_eq {number : Binary format} {rank : Nat}
    (finite : number.rank < format.infinityRank) (rankFinite : rank < target.infinityRank)
    (same : target.quanta rank * format.unit = format.quanta number.rank * target.unit) :
    (number.convert : Binary target) =
      ⟨number.negative, rank, rankFinite.trans target.infinityRank_lt_ranks⟩ := by
  have rounds : target.RoundsTo (target.quanta rank * format.unit) format.unit rank :=
    Format.roundsTo_quanta format.unit_pos
  rw [same] at rounds
  rw [convert, read, if_pos finite]
  exact ofQuanta_eq format.unit_pos rankFinite rounds

theorem convert_convert {number : Binary format} {rank : Nat}
    (finite : number.rank < format.infinityRank) (rankFinite : rank < target.infinityRank)
    (same : target.quanta rank * format.unit = format.quanta number.rank * target.unit) :
    ((number.convert : Binary target).convert : Binary format) = number := by
  rw [convert_eq finite rankFinite same]
  exact convert_eq rankFinite finite same.symm

theorem convert_infinity (negative : Bool) :
    ((infinity negative : Binary format).convert : Binary target) = infinity negative := by
  rw [convert, read_infinity]

theorem convert_of_isNaN {number : Binary format} (isNaN : number.isNaN = true) :
    (number.convert : Binary target) = nan := by
  rw [convert, read_of_isNaN isNaN]

end Binary

namespace Format

/-- The quantum of 64 bits is finer than that of 32 bits by a power of two. -/
theorem exists_finer : ∃ finer < 1000, single.unit * 2 ^ finer = double.unit := by
  obtain ⟨finer, difference⟩ : ∃ finer, finer = 925 := ⟨_, rfl⟩
  refine ⟨finer, by omega, ?_⟩
  simp only [unit, Nat.pow_eq, ← Nat.pow_add]
  congr 1
  rw [difference]
  rfl

/-- Numbers of 32 bits are numbers of 64 bits. -/
theorem exists_double {rank : Nat} (finite : rank < single.infinityRank) :
    ∃ wide < double.infinityRank,
      double.quanta wide * single.unit = single.quanta rank * double.unit := by
  obtain ⟨shift, whole, split, whole_lt⟩ := single.exists_splits rank
  have exact := split.quanta_eq
  have bounded : shift + 2 < 2 ^ 8 := single_reaches.bounded split finite
  have small : whole < 2 * double.binade := whole_lt.trans (by decide)
  obtain ⟨finer, few, units⟩ := exists_finer
  have exponents : shift + finer + 2 < 2 ^ double.exponentBits := by
    change _ < 2 ^ 11
    omega
  obtain ⟨wide, wideFinite, same⟩ := exists_rank_shifted small exponents
  refine ⟨wide, wideFinite, ?_⟩
  rw [exact, same, ← units, Nat.pow_eq]
  ring

end Format

namespace Single

/-- Numbers of 32 bits come back from 64 bits. -/
theorem convert_convert {number : Single} (isNumber : number.isNaN = false) :
    ((number.convert : Double).convert : Single) = number := by
  obtain finite | infinite := (Binary.isNaN_eq_false_iff.mp isNumber).lt_or_eq
  · obtain ⟨wide, wideFinite, same⟩ := Format.exists_double finite
    exact Binary.convert_convert finite wideFinite same
  · obtain ⟨negative, rank, rank_lt⟩ := number
    cases infinite
    exact (congrArg _ (Binary.convert_infinity negative)).trans (Binary.convert_infinity negative)

/-- Cutting a number of 32 bits to 32 bits again changes nothing. -/
theorem widen_convert (number : Single) :
    (((number.convert : Double).convert : Single).convert : Double) = number.convert := by
  cases isNaN : number.isNaN with
  | false => rw [convert_convert isNaN]
  | true =>
    have nan : (Binary.nan : Double).isNaN = true := Binary.isNaN_nan
    rw [Binary.convert_of_isNaN isNaN, Binary.convert_of_isNaN nan,
      Binary.convert_of_isNaN Binary.isNaN_nan]

end Single

namespace Double

/-- It makes no difference whether an integer is brought to 32 bits at once. -/
theorem convert_ofInt (value : Int32) :
    ((.ofInt value.toInt : Double).convert : Single) = .ofInt value.toInt := by
  have same : Format.single.nearestRank
        (value.toInt.natAbs * Format.double.unit * Format.single.unit) Format.double.unit =
      Format.single.nearestRank (value.toInt.natAbs * Format.single.unit) 1 := by
    rw [Format.nearestRank_eq_iff Format.double.unit_pos]
    have rounds : Format.single.RoundsTo (value.toInt.natAbs * Format.single.unit) 1 _ :=
      Format.roundsTo_nearestRank Nat.one_pos
    exact rounds.of_same_quotient Nat.one_pos Format.double.unit_pos (by ring)
  rw [Binary.convert, Binary.read_ofInt Format.double_reaches (natAbs_lt value), Binary.ofInt]
  simp only [Binary.ofQuanta, same]

/-- An integer that is a number of 32 bits comes back from there. -/
theorem convert_convert_ofInt {value : Int32} {rank : Nat}
    (finite : rank < Format.single.infinityRank)
    (exact : Format.single.quanta rank = value.toInt.natAbs * Format.single.unit) :
    ((.ofInt value.toInt : Single).convert : Double) = .ofInt value.toInt := by
  obtain ⟨wideFinite, counted⟩ := Binary.count_ofInt Format.double_reaches (natAbs_lt value)
  rw [← convert_ofInt]
  refine Binary.convert_convert (of_decide_eq_true wideFinite) finite ?_
  rw [exact, Binary.quanta_of_count counted]
  ring

end Double

end Rulebook.Numeric
