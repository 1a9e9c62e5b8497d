/-! Binary formats of floating-point numbers. The non-negative numbers of a format
are ranked upwards from zero, and the rank of a number is also its bit pattern.
Every finite number is a whole count of the smallest positive one, the quantum,
so rounding is a question about whole numbers: which rank is nearest to a given
quotient of quanta. -/
namespace Rulebook.Numeric

/-- The widths of the fraction and of the exponent of a binary format. -/
structure Format where
  fractionBits : Nat
  exponentBits : Nat
  fractionBits_pos : 0 < fractionBits := by decide
deriving DecidableEq

namespace Format

/-- The 32-bit format. -/
def single : Format where
  fractionBits := 23
  exponentBits := 8

/-- The 64-bit format. -/
def double : Format where
  fractionBits := 52
  exponentBits := 11

/-- How many ranks share an exponent. -/
def binade (format : Format) : Nat :=
  Nat.pow 2 format.fractionBits

/-- How many ranks there are, infinity and the NaNs included. -/
def ranks (format : Format) : Nat :=
  Nat.pow 2 format.exponentBits * format.binade

/-- The rank of infinity: finite numbers lie below it and NaNs above. -/
def infinityRank (format : Format) : Nat :=
  (Nat.pow 2 format.exponentBits - 1) * format.binade

/-- The rank of the NaN that arithmetic produces. -/
def nanRank (format : Format) : Nat :=
  format.infinityRank + format.binade / 2

/-- The number of quanta in one. -/
def unit (format : Format) : Nat :=
  Nat.pow 2 (Nat.pow 2 (format.exponentBits - 1) - 2 + format.fractionBits)

/-- The number of quanta in the magnitude of a given rank. -/
def quanta (format : Format) (rank : Nat) : Nat :=
  if rank < format.binade then rank
  else (format.binade + rank % format.binade) * Nat.pow 2 (rank / format.binade - 1)

theorem binade_pos (format : Format) : 0 < format.binade :=
  Nat.two_pow_pos _

theorem ranks_pos (format : Format) : 0 < format.ranks :=
  Nat.mul_pos (Nat.two_pow_pos _) format.binade_pos

theorem unit_pos (format : Format) : 0 < format.unit :=
  Nat.two_pow_pos _

theorem ranks_eq (format : Format) :
    format.ranks = format.infinityRank + format.binade := by
  have positive : 0 < Nat.pow 2 format.exponentBits := Nat.two_pow_pos _
  rw [ranks, infinityRank, ← Nat.succ_mul]
  congr 1
  omega

theorem infinityRank_lt_ranks (format : Format) : format.infinityRank < format.ranks := by
  have positive := format.binade_pos
  rw [ranks_eq]
  omega

theorem infinityRank_lt_nanRank (format : Format) : format.infinityRank < format.nanRank := by
  have two_le : 2 ≤ format.binade := by
    have power : Nat.pow 2 1 ≤ Nat.pow 2 format.fractionBits :=
      Nat.pow_le_pow_right (by decide) format.fractionBits_pos
    exact power
  rw [nanRank]
  omega

theorem nanRank_lt_ranks (format : Format) : format.nanRank < format.ranks := by
  have positive := format.binade_pos
  rw [ranks_eq, nanRank]
  omega

/-- The rank nearest to a number of quanta given as a quotient; of two equally
near ones the even rank. The carry of a rounded fraction moves into the
exponent by itself, because consecutive numbers have consecutive ranks. -/
def nearestRank (format : Format) (numerator denominator : Nat) : Nat :=
  let shift := (numerator / denominator).log2 - format.fractionBits
  let step := denominator * Nat.pow 2 shift
  let whole := numerator / step
  let rest := numerator % step
  let carry := if step < 2 * rest ∨ (2 * rest = step ∧ whole % 2 = 1) then 1 else 0
  shift * format.binade + whole + carry

end Format

end Rulebook.Numeric
