import Rulebook.Numeric.Format

/-! Binary floating-point numbers as a sign and a rank, one for each bit pattern.
What a number stands for is read off as a count of quanta. Comparison looks at
the ranks alone, because numbers are ranked in their order. -/
namespace Rulebook.Numeric

/-- A number of a binary format, one for each bit pattern. -/
structure Binary (format : Format) where
  negative : Bool
  rank : Nat
  rank_lt : rank < format.ranks
deriving DecidableEq

/-- A number of the 32-bit format. -/
abbrev Single := Binary .single

/-- A number of the 64-bit format. -/
abbrev Double := Binary .double

/-- What a number stands for: finite ones carry their count of quanta. -/
inductive Reading where
  | nan
  | infinite (negative : Bool)
  | finite (negative : Bool) (quanta : Nat)
deriving DecidableEq

namespace Binary

variable {format target : Format}

def read (number : Binary format) : Reading :=
  if number.rank < format.infinityRank then
    .finite number.negative (format.quanta number.rank)
  else if number.rank = format.infinityRank then .infinite number.negative
  else .nan

def isNaN (number : Binary format) : Bool :=
  decide (format.infinityRank < number.rank)

def isFinite (number : Binary format) : Bool :=
  decide (number.rank < format.infinityRank)

def isZero (number : Binary format) : Bool :=
  number.rank == 0

/-- The bit pattern: the sign above the rank. -/
def toBits (number : Binary format) : Nat :=
  (if number.negative then format.ranks else 0) + number.rank

/-- The number with a bit pattern; higher bits are dropped. -/
def ofBits (bits : Nat) : Binary format where
  negative := decide (bits / format.ranks % 2 = 1)
  rank := bits % format.ranks
  rank_lt := Nat.mod_lt _ format.ranks_pos

theorem toBits_lt (number : Binary format) : number.toBits < 2 * format.ranks := by
  have bound := number.rank_lt
  unfold toBits
  split <;> omega

theorem ofBits_toBits (number : Binary format) : ofBits number.toBits = number := by
  obtain ⟨negative, rank, rank_lt⟩ := number
  have positive := format.ranks_pos
  cases negative <;>
    simp [ofBits, toBits, Nat.mod_eq_of_lt rank_lt, Nat.div_eq_of_lt rank_lt,
      Nat.add_div_left _ positive]

theorem toBits_ofBits (bits : Nat) (bound : bits < 2 * format.ranks) :
    (ofBits bits : Binary format).toBits = bits := by
  have split := Nat.div_add_mod bits format.ranks
  have quotient : bits / format.ranks < 2 := Nat.div_lt_of_lt_mul (by rwa [Nat.mul_comm])
  obtain zero | one : bits / format.ranks = 0 ∨ bits / format.ranks = 1 :=
    match bits / format.ranks, quotient with
    | 0, _ => .inl rfl
    | 1, _ => .inr rfl
  · rw [zero] at split
    simp [ofBits, toBits, zero]
    omega
  · rw [one] at split
    simp [ofBits, toBits, one]
    omega

def nan : Binary format := ⟨false, format.nanRank, format.nanRank_lt_ranks⟩

theorem isNaN_nan : (nan : Binary format).isNaN = true := by
  simp [isNaN, nan, format.infinityRank_lt_nanRank]

def infinity (negative : Bool) : Binary format :=
  ⟨negative, format.infinityRank, format.infinityRank_lt_ranks⟩

def zero (negative : Bool) : Binary format :=
  ⟨negative, 0, format.ranks_pos⟩

/-- The number nearest to a quotient of quanta; infinity when the nearest rank
is past the finite ones. -/
def ofQuanta (negative : Bool) (numerator denominator : Nat) : Binary format where
  negative := negative
  rank := min (format.nearestRank numerator denominator) format.infinityRank
  rank_lt := Nat.lt_of_le_of_lt (Nat.min_le_right _ _) format.infinityRank_lt_ranks

def ofInt (value : Int) : Binary format :=
  ofQuanta (decide (value < 0)) (value.natAbs * format.unit) 1

/-- The same number in another format, rounded where that is narrower. -/
def convert (number : Binary format) : Binary target :=
  match number.read with
  | .nan => nan
  | .infinite negative => infinity negative
  | .finite negative quanta => ofQuanta negative (quanta * target.unit) format.unit

def neg (number : Binary format) : Binary format :=
  { number with negative := !number.negative }

def abs (number : Binary format) : Binary format :=
  { number with negative := false }

/-- Joins a sign and a count of quanta into a whole number. -/
def signed (negative : Bool) (quanta : Nat) : Int :=
  if negative then -(quanta : Int) else quanta

/-- The order of two numbers, none when either is a NaN. Zeros of either sign
are equal. -/
def order (left right : Binary format) : Option Ordering :=
  if left.isNaN || right.isNaN then none
  else some (compare (signed left.negative left.rank) (signed right.negative right.rank))

def equals (left right : Binary format) : Bool :=
  decide (left.order right = some .eq)

def below (left right : Binary format) : Bool :=
  decide (left.order right = some .lt)

/-- `==` is the equality of numbers: it tells NaNs from themselves and does not
tell zeros apart. Sameness of bit patterns is `=`. -/
instance : BEq (Binary format) := ⟨equals⟩

end Binary

end Rulebook.Numeric
