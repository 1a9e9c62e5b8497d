import Rulebook.Numeric.Whole
import Rulebook.Proofs.Numeric.ReadBack

/-! Whole numbers that fit into the fraction of a format are numbers of the format,
so bringing them there and cutting them back to 32 bits loses nothing. -/
namespace Rulebook.Numeric

namespace Format
variable {format : Format}

/-- Exponents reach past the fraction, so that every fraction can be read as a whole
number. -/
def Reaches (format : Format) : Prop :=
  format.fractionBits < 2 ^ (format.exponentBits - 1)

theorem Reaches.exponents (reaches : format.Reaches) :
    2 ^ format.exponentBits = 2 * 2 ^ (format.exponentBits - 1) := by
  obtain ⟨bits, same⟩ : ∃ bits, format.exponentBits = bits + 1 := by
    refine Nat.exists_eq_succ_of_ne_zero fun none => ?_
    have positive := format.fractionBits_pos
    rw [Reaches, none] at reaches
    omega
  rw [same, Nat.add_sub_cancel, Nat.pow_succ, Nat.mul_comm]

theorem Reaches.infinityRank_pos (reaches : format.Reaches) : 0 < format.infinityRank := by
  have exponents := reaches.exponents
  have positive := format.fractionBits_pos
  rw [Reaches] at reaches
  refine Nat.mul_pos ?_ format.binade_pos
  rw [Nat.pow_eq]
  omega

theorem quanta_zero (format : Format) : format.quanta 0 = 0 :=
  if_pos format.binade_pos

/-- Moved to the left as far as it has bits too few, a whole number has all the bits
of a fraction. -/
theorem fills_fraction {value missing : Nat} (positive : 0 < value)
    (filled : value.log2 + missing = format.fractionBits) :
    format.binade ≤ value * 2 ^ missing ∧ value * 2 ^ missing < 2 * format.binade := by
  constructor
  · calc format.binade = 2 ^ value.log2 * 2 ^ missing := by
          rw [← Nat.pow_add, filled]
          rfl
      _ ≤ value * 2 ^ missing := Nat.mul_le_mul_right _ (Nat.log2_self_le (Nat.ne_of_gt positive))
  · calc value * 2 ^ missing < 2 ^ (value.log2 + 1) * 2 ^ missing :=
          Nat.mul_lt_mul_of_pos_right Nat.lt_log2_self (Nat.two_pow_pos _)
      _ = 2 * format.binade := by
          rw [two_mul_binade, ← Nat.pow_add, ← filled, Nat.add_right_comm]

/-- A whole number that fits into a fraction has a rank, moved to the left by any distance
that leaves exponents above it. -/
theorem exists_rank_shifted {value shift : Nat} (small : value < 2 * format.binade)
    (bounded : shift + 2 < 2 ^ format.exponentBits) :
    ∃ rank < format.infinityRank, format.quanta rank = value * 2 ^ shift := by
  have room : (shift + 2) * format.binade ≤ format.infinityRank := by
    refine Nat.mul_le_mul_right _ ?_
    rw [Nat.pow_eq]
    omega
  obtain rfl | positive := Nat.eq_zero_or_pos value
  · refine ⟨0, (Nat.mul_pos (by omega) format.binade_pos).trans_le room, ?_⟩
    rw [quanta_zero, Nat.zero_mul]
  obtain ⟨missing, filled⟩ : ∃ missing, value.log2 + missing = format.fractionBits := by
    rw [two_mul_binade, ← Nat.log2_lt (Nat.ne_of_gt positive)] at small
    exact ⟨format.fractionBits - value.log2, by omega⟩
  obtain few | enough := Nat.lt_or_ge shift missing
  · -- the bits do not fill the fraction, so they are the rank
    have short : value * 2 ^ shift < format.binade :=
      calc value * 2 ^ shift < 2 ^ (value.log2 + 1) * 2 ^ shift :=
            Nat.mul_lt_mul_of_pos_right Nat.lt_log2_self (Nat.two_pow_pos _)
        _ = 2 ^ (value.log2 + 1 + shift) := (Nat.pow_add ..).symm
        _ ≤ format.binade := Nat.pow_le_pow_right (by decide) (by omega)
    exact ⟨_, (short.trans_le (Nat.le_mul_of_pos_left _ (by omega))).trans_le room, if_pos short⟩
  obtain ⟨exponent, shifted⟩ : ∃ exponent, exponent + missing = shift :=
    ⟨shift - missing, by omega⟩
  obtain ⟨leading, whole_lt⟩ := fills_fraction positive filled
  have split : format.Splits (exponent * format.binade + value * 2 ^ missing) exponent
      (value * 2 ^ missing) := ⟨rfl, .inr leading, whole_lt.le⟩
  refine ⟨_, ?_, split.quanta_eq.trans ?_⟩
  · calc exponent * format.binade + value * 2 ^ missing < (exponent + 2) * format.binade := by
          rw [Nat.add_mul]
          omega
      _ ≤ (shift + 2) * format.binade := Nat.mul_le_mul_right _ (by omega)
      _ ≤ format.infinityRank := room
  · rw [Nat.mul_assoc, Nat.pow_eq, ← Nat.pow_add, Nat.add_comm missing, shifted]

/-- The exponents of finite numbers end before those that are left for infinity. -/
theorem Reaches.bounded (reaches : format.Reaches) {rank shift whole : Nat}
    (split : format.Splits rank shift whole) (finite : rank < format.infinityRank) :
    shift + 2 < 2 ^ format.exponentBits := by
  have exponents := reaches.exponents
  have fraction := format.fractionBits_pos
  rw [Reaches] at reaches
  obtain rfl | leading := split.leading
  · omega
  · have below : (shift + 1) * format.binade < (2 ^ format.exponentBits - 1) * format.binade := by
      refine Nat.lt_of_le_of_lt ?_ finite
      rw [split.rank_eq, Nat.add_one_mul]
      omega
    have below := Nat.lt_of_mul_lt_mul_right below
    omega

/-- A whole number has a rank: its bits fill the fraction, and the exponent puts the point
behind them. -/
theorem Reaches.exists_rank (reaches : format.Reaches) {value : Nat}
    (small : value < 2 * format.binade) :
    ∃ rank < format.infinityRank, format.quanta rank = value * format.unit := by
  have exponents := reaches.exponents
  have fraction := format.fractionBits_pos
  rw [Reaches] at reaches
  -- the exponent is at most twice that of one, so there are exponents left above it
  refine exists_rank_shifted small ?_
  rw [Nat.pow_eq]
  omega

end Format

namespace Binary
variable {format target : Format}

theorem ofQuanta_zero (negative : Bool) {denominator : Nat} (positive : 0 < denominator)
    (reaches : format.Reaches) :
    ofQuanta negative 0 denominator = (zero negative : Binary format) := by
  have rounds : format.RoundsTo (format.quanta 0 * denominator) denominator 0 :=
    Format.roundsTo_quanta positive
  rw [Format.quanta_zero, Nat.zero_mul] at rounds
  exact ofQuanta_eq positive reaches.infinityRank_pos rounds

theorem read_zero (negative : Bool) (reaches : format.Reaches) :
    (zero negative : Binary format).read = .finite negative 0 := by
  have finite : (zero negative : Binary format).rank < format.infinityRank :=
    reaches.infinityRank_pos
  rw [read, if_pos finite, zero, Format.quanta_zero]

theorem ofInt_zero (reaches : format.Reaches) : (ofInt 0 : Binary format) = zero false := by
  rw [ofInt, Int.natAbs_zero, Nat.zero_mul]
  exact ofQuanta_zero false Nat.one_pos reaches

/-- Every format has both zeros. -/
theorem convert_zero (negative : Bool) (source : format.Reaches) (reaches : target.Reaches) :
    ((zero negative : Binary format).convert : Binary target) = zero negative := by
  rw [convert, read_zero negative source]
  change ofQuanta negative (0 * target.unit) format.unit = _
  rw [Nat.zero_mul]
  exact ofQuanta_zero negative format.unit_pos reaches

/-- Whole numbers no longer than a fraction are exact. -/
theorem read_ofInt (reaches : format.Reaches) {value : Int}
    (small : value.natAbs < 2 * format.binade) :
    (ofInt value : Binary format).read =
      .finite (decide (value < 0)) (value.natAbs * format.unit) := by
  obtain ⟨rank, finite, exact⟩ := reaches.exists_rank small
  have rounds : format.RoundsTo (format.quanta rank * 1) 1 rank :=
    Format.roundsTo_quanta Nat.one_pos
  rw [Nat.mul_one, exact] at rounds
  rw [ofInt, ofQuanta_eq Nat.one_pos finite rounds, read, if_pos finite, exact]

theorem signed_natAbs_mul (value : Int) (scale : Nat) :
    signed (decide (value < 0)) (value.natAbs * scale) = value * scale := by
  by_cases negative : value < 0
  · rw [signed, if_pos (decide_eq_true negative), Nat.cast_mul, ← neg_mul]
    congr 1
    omega
  · rw [signed, if_neg (by simpa using negative), Nat.cast_mul]
    congr 1
    omega

end Binary

/-- What is within 32 bits stays as it is. -/
theorem clampInt32_toInt (value : Int32) : clampInt32 value.toInt = value := by
  rw [clampInt32, min_eq_left value.toInt_le, max_eq_right value.minValue_le_toInt]
  exact value.ofInt_toInt

namespace Format

theorem single_reaches : single.Reaches := by
  norm_num [Reaches, single]

theorem double_reaches : double.Reaches := by
  norm_num [Reaches, double]

end Format

namespace Double

/-- All integers of 32 bits fit into the fraction of a 64-bit number. -/
theorem natAbs_lt (value : Int32) : value.toInt.natAbs < 2 * Format.double.binade := by
  have low := value.le_toInt
  have high := value.toInt_lt
  have wide : 2 * Format.double.binade = 2 ^ 53 := rfl
  omega

/-- An integer of 32 bits is kept by 64-bit numbers. -/
theorem toInt32_ofInt (value : Int32) :
    toInt32 truncQuotient (.ofInt value.toInt) = value := by
  have whole : truncQuotient (value.toInt * Format.double.unit) Format.double.unit = value.toInt :=
    Int.mul_tdiv_cancel _ (Int.natCast_ne_zero.mpr (Nat.ne_of_gt Format.double.unit_pos))
  rw [toInt32, Binary.read_ofInt Format.double_reaches (natAbs_lt value)]
  change clampInt32 (truncQuotient (Binary.signed _ _) _) = _
  rw [Binary.signed_natAbs_mul, whole, clampInt32_toInt]

end Double

end Rulebook.Numeric
