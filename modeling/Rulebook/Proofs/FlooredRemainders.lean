import Rulebook.Proofs.CorrectRounding
import Rulebook.Proofs.Script.Infix

/-! The floored modulo of the expression language takes a multiple of the divisor away from
the dividend, and which multiple that is it learns from the rounded quotient. Operands that
are whole numbers on a common scale leave their exact remainder. In general the quotient can
be rounded up to a whole number, or the multiple past the dividend, and then there is no
remainder. -/
namespace Rulebook
open Numeric

namespace Script
open Binary Double

/-- What a division rounded down leaves: it is zero or has the sign of the divisor, and is
closer to zero. -/
structure IsRemainder (rest divisor : Double) : Prop where
  finite : rest.isFinite = true
  sign : rest.toRat = 0 ∨ 0 < rest.toRat * divisor.toRat
  small : |rest.toRat| < |divisor.toRat|

theorem isRemainder_iff {rest divisor : Double} (nonzero : divisor.isZero = false) :
    IsRemainder rest divisor ↔ rest.isFinite = true ∧ 0 ≤ rest.toRat * divisor.toRat ∧
      |rest.toRat| < |divisor.toRat| := by
  have some := toRat_ne_zero nonzero
  have side : (rest.toRat = 0 ∨ 0 < rest.toRat * divisor.toRat) ↔
      0 ≤ rest.toRat * divisor.toRat := by
    rw [le_iff_eq_or_lt, zero_eq_mul, or_iff_left some]
  exact ⟨fun ⟨finite, sign, small⟩ => ⟨finite, side.mp sign, small⟩,
    fun ⟨finite, sign, small⟩ => ⟨finite, side.mpr sign, small⟩⟩

/-- The part of one that a quotient is, told without division. -/
theorem div_mem_iff {rest divisor : ℚ} (nonzero : divisor ≠ 0) :
    0 ≤ rest / divisor ∧ rest / divisor < 1 ↔ 0 ≤ rest * divisor ∧ |rest| < |divisor| := by
  rw [div_nonneg_iff, ← mul_nonneg_iff]
  refine and_congr_right fun side => ?_
  have nonneg : 0 ≤ rest / divisor := by rwa [div_nonneg_iff, ← mul_nonneg_iff]
  rw [← abs_of_nonneg nonneg, abs_div, div_lt_one (abs_pos.mpr nonzero)]

/-- What the whole multiples of a divisor leave is the part of it that the quotient has
behind the point. -/
theorem sub_mul_floor_div {dividend divisor : ℚ} (nonzero : divisor ≠ 0) :
    (dividend - divisor * ⌊dividend / divisor⌋) / divisor = Int.fract (dividend / divisor) := by
  rw [sub_div, mul_div_cancel_left₀ _ nonzero, Int.fract]

theorem abs_sub_mul_floor_lt (dividend : ℤ) {divisor : ℤ} (nonzero : (divisor : ℚ) ≠ 0) :
    |dividend - divisor * ⌊(dividend / divisor : ℚ)⌋| < |divisor| := by
  have part : ((dividend : ℚ) - divisor * ⌊(dividend / divisor : ℚ)⌋) / divisor =
      Int.fract (dividend / divisor : ℚ) := sub_mul_floor_div nonzero
  have small := ((div_mem_iff nonzero).mp
    ⟨part ▸ Int.fract_nonneg _, part ▸ Int.fract_lt_one _⟩).2
  exact_mod_cast small

namespace BinaryOp

/-- The multiple of the divisor that a floored modulo takes away. -/
def flooredMultiple (left right : Double) : Double :=
  (left / right).makeWhole floorQuotient * right

theorem flooredModulo_eq (left right : Double) :
    flooredModulo left right = left - flooredMultiple left right := rfl

section
variable {left right : Double} (leftFinite : left.isFinite = true)
  (rightFinite : right.isFinite = true) (nonzero : right.isZero = false)
include leftFinite rightFinite nonzero

theorem isNaN_flooredMultiple : (flooredMultiple left right).isNaN = false :=
  isNaN_mul (isNaN_makeWhole _ (rounds_div leftFinite rightFinite nonzero).isNumber) rightFinite
    nonzero

/-- Where the multiple is past all finite numbers, so is what is left. -/
theorem exists_flooredModulo_eq_infinity
    (infinite : (flooredMultiple left right).isFinite = false) :
    ∃ negative, flooredModulo left right = infinity negative :=
  exists_sub_eq_infinity leftFinite (isNaN_flooredMultiple leftFinite rightFinite nonzero) infinite

theorem isNaN_flooredModulo : (flooredModulo left right).isNaN = false := by
  cases finite : (flooredMultiple left right).isFinite with
  | true => exact (rounds_sub Format.double_reaches leftFinite finite).isNumber
  | false =>
    obtain ⟨negative, same⟩ :=
      exists_flooredModulo_eq_infinity leftFinite rightFinite nonzero finite
    rw [same]
    exact isNaN_infinity negative

/-- A remainder comes out exactly if the rounded multiple is finite, does not exceed the
dividend, leaves less than the divisor, and that is not rounded up to the divisor. -/
theorem isRemainder_flooredModulo_iff :
    IsRemainder (flooredModulo left right) right ↔
      (flooredMultiple left right).isFinite = true ∧
        0 ≤ (left.toRat - (flooredMultiple left right).toRat) / right.toRat ∧
        (left.toRat - (flooredMultiple left right).toRat) / right.toRat < 1 ∧
        (flooredModulo left right).toRat ≠ right.toRat := by
  rw [isRemainder_iff nonzero]
  cases finite : (flooredMultiple left right).isFinite with
  | false =>
    obtain ⟨negative, same⟩ :=
      exists_flooredModulo_eq_infinity leftFinite rightFinite nonzero finite
    simp [same, isFinite, infinity]
  | true =>
    have rounds := rounds_sub Format.double_reaches leftFinite finite
    have sign := sign_sub Format.double_reaches leftFinite finite
    rw [← flooredModulo_eq] at rounds sign
    obtain ⟨rest, same⟩ : ∃ rest, rest = left.toRat - (flooredMultiple left right).toRat := ⟨_, rfl⟩
    rw [← same] at rounds sign ⊢
    have side : 0 ≤ (flooredModulo left right).toRat * right.toRat ↔ 0 ≤ rest * right.toRat := by
      rw [← sign_nonneg_iff, sign_mul, sign, ← sign_mul, sign_nonneg_iff]
    rw [side, ← and_assoc (a := 0 ≤ rest / right.toRat), div_mem_iff (toRat_ne_zero nonzero)]
    constructor
    · rintro ⟨-, nonneg, small⟩
      refine ⟨rfl, ⟨nonneg, ?_⟩, fun equal => (equal ▸ small).false⟩
      by_contra! outside
      exact absurd (rounds.beyond rightFinite outside) (not_le.mpr small)
    · rintro ⟨-, ⟨nonneg, small⟩, apart⟩
      refine ⟨rounds.finite rightFinite small.le, nonneg, ?_⟩
      refine lt_of_le_of_ne (rounds.within rightFinite small.le) fun equal => ?_
      obtain equal | opposite := abs_eq_abs.mp equal
      · exact apart equal
      · rw [← side, opposite, neg_mul, neg_nonneg] at nonneg
        exact toRat_ne_zero nonzero
          (mul_self_eq_zero.mp (le_antisymm nonneg (mul_self_nonneg right.toRat)))

omit leftFinite rightFinite in
/-- What the whole multiples of the divisor leave is a remainder. -/
theorem isRemainder_of_toRat_eq {rest : Double} (finite : rest.isFinite = true)
    (exact : rest.toRat = left.toRat - right.toRat * ⌊left.toRat / right.toRat⌋) :
    IsRemainder rest right := by
  have some := toRat_ne_zero nonzero
  rw [isRemainder_iff nonzero, ← div_mem_iff some, exact, sub_mul_floor_div some]
  exact ⟨finite, Int.fract_nonneg _, Int.fract_lt_one _⟩

omit leftFinite in
/-- Where dividend and divisor are on the same side of zero, what the whole multiples leave
is a number. -/
theorem exists_toRat_eq_of_nonneg (nonneg : 0 ≤ left.toRat / right.toRat) :
    ∃ rest : Double, rest.isFinite = true ∧
      rest.toRat = left.toRat - right.toRat * ⌊left.toRat / right.toRat⌋ := by
  have some := toRat_ne_zero nonzero
  have unit_pos := unit_pos_rat Format.double
  obtain ⟨rank, less, exact⟩ := Format.exists_rank_mod Format.double_reaches left.rank
    (of_decide_eq_true rightFinite) (Nat.pos_of_ne_zero (beq_eq_false_iff_ne.mp nonzero))
  have finite := less.trans (of_decide_eq_true rightFinite)
  have ratio : left.toRat / right.toRat =
      (Format.double.quanta left.rank : ℚ) / Format.double.quanta right.rank := by
    rw [← abs_of_nonneg nonneg, abs_div, abs_toRat, abs_toRat,
      div_div_div_cancel_right₀ unit_pos.ne']
  have swap : (signed right.negative (Format.double.quanta rank) : ℚ) *
      Format.double.quanta right.rank =
      signed right.negative (Format.double.quanta right.rank) * Format.double.quanta rank := by
    have commuted := congrArg (signed right.negative)
      (Nat.mul_comm (Format.double.quanta rank) (Format.double.quanta right.rank))
    rw [signed_mul, signed_mul] at commuted
    exact_mod_cast commuted
  have quanta_ne : (Format.double.quanta right.rank : ℚ) ≠ 0 :=
    Nat.cast_ne_zero.mpr (quanta_ne_zero_of_isZero nonzero)
  refine ⟨⟨right.negative, rank, finite.trans Format.double.infinityRank_lt_ranks⟩,
    decide_eq_true finite, ?_⟩
  calc (signed right.negative (Format.double.quanta rank) : ℚ) / Format.double.unit
      = right.toRat * (Format.double.quanta rank / Format.double.quanta right.rank) := by
        rw [toRat, count, div_mul_div_comm, ← swap, mul_div_mul_right _ _ quanta_ne]
    _ = right.toRat * Int.fract (left.toRat / right.toRat) := by
        rw [ratio, Int.fract_div_natCast_eq_div_natCast_mod, exact]
    _ = left.toRat - right.toRat * ⌊left.toRat / right.toRat⌋ := by
        rw [Int.fract, mul_sub, mul_div_cancel₀ _ some]

section Multiple

variable (finite : (flooredMultiple left right).isFinite = true)
  (multiple : (flooredMultiple left right).toRat =
    right.toRat * ⌊left.toRat / right.toRat⌋)
include finite multiple

/-- With the right multiple only one thing can go wrong: what is left can be rounded up to
the divisor. -/
theorem isRemainder_or_eq :
    IsRemainder (flooredModulo left right) right ∨
      (flooredModulo left right).toRat = right.toRat := by
  have some := toRat_ne_zero nonzero
  refine or_iff_not_imp_right.mpr fun apart => ?_
  rw [isRemainder_flooredModulo_iff leftFinite rightFinite nonzero, multiple,
    sub_mul_floor_div some]
  exact ⟨finite, Int.fract_nonneg _, Int.fract_lt_one _, apart⟩

omit rightFinite in
/-- With the right multiple the remainder is exact wherever it is a number. -/
theorem toRat_flooredModulo {rest : Double} (restFinite : rest.isFinite = true)
    (exact : rest.toRat = left.toRat - right.toRat * ⌊left.toRat / right.toRat⌋) :
    IsRemainder (flooredModulo left right) right ∧
      (flooredModulo left right).toRat =
        left.toRat - right.toRat * ⌊left.toRat / right.toRat⌋ := by
  have rounds := rounds_sub Format.double_reaches leftFinite finite
  rw [← flooredModulo_eq, multiple] at rounds
  have same := rounds.toRat_eq restFinite exact
  have kept := rounds.finite restFinite (by rw [exact])
  exact ⟨isRemainder_of_toRat_eq nonzero kept same, same⟩

/-- On one side of zero the right multiple is all that it takes. -/
theorem flooredModulo_of_nonneg (nonneg : 0 ≤ left.toRat / right.toRat) :
    IsRemainder (flooredModulo left right) right ∧
      (flooredModulo left right).toRat =
        left.toRat - right.toRat * ⌊left.toRat / right.toRat⌋ := by
  obtain ⟨rest, restFinite, restIs⟩ := exists_toRat_eq_of_nonneg rightFinite nonzero nonneg
  exact toRat_flooredModulo leftFinite nonzero finite multiple restFinite restIs

end Multiple

/-- On one side of zero, a divisor that is further away than the dividend is taken away
zero times. -/
theorem flooredMultiple_of_lt (nonneg : 0 ≤ left.toRat / right.toRat)
    (small : left.toRat / right.toRat < 1) :
    (flooredMultiple left right).isFinite = true ∧
      (flooredMultiple left right).toRat = 0 ∧ ⌊left.toRat / right.toRat⌋ = 0 := by
  have less : |left.toRat| < |right.toRat| :=
    ((div_mem_iff (toRat_ne_zero nonzero)).mp ⟨nonneg, small⟩).2
  obtain ⟨quotientFinite, below⟩ := abs_toRat_div_lt_one leftFinite rightFinite nonzero less
  have above := (rounds_div leftFinite rightFinite nonzero).nonneg Format.double_reaches nonneg
  obtain ⟨wholeFinite, wholeIs⟩ := toRat_makeWhole_floor Format.double_reaches quotientFinite
  rw [Int.floor_eq_zero_iff.mpr ⟨above, (le_abs_self _).trans_lt below⟩, Int.cast_zero] at wholeIs
  have rounds := rounds_mul wholeFinite rightFinite
  rw [wholeIs, zero_mul] at rounds
  obtain ⟨finite, none⟩ := rounds.toRat_eq_zero Format.double_reaches
  exact ⟨finite, none, Int.floor_eq_zero_iff.mpr ⟨nonneg, small⟩⟩

section Short

variable {dividend divisor exponent : ℤ} (short : |dividend| + |divisor| < 2 ^ 53)
  (low : -1074 ≤ exponent) (high : exponent ≤ 971)
  (leftIs : left.toRat = dividend * 2 ^ exponent)
  (rightIs : right.toRat = divisor * 2 ^ exponent)
include short low high leftIs rightIs

/-- Operands that are whole numbers on a common scale, together no longer than a fraction,
have the right multiple: the floor of their quotient is exact, and so is the product. -/
theorem flooredMultiple_short :
    (flooredMultiple left right).isFinite = true ∧
      (flooredMultiple left right).toRat = right.toRat * ⌊left.toRat / right.toRat⌋ := by
  have positive : (0 : ℚ) < 2 ^ exponent := zpow_pos two_pos exponent
  have divisor_ne : (divisor : ℚ) ≠ 0 :=
    left_ne_zero_of_mul (rightIs ▸ toRat_ne_zero nonzero)
  have ratio : left.toRat / right.toRat = dividend / divisor := by
    rw [leftIs, rightIs, mul_div_mul_right _ _ positive.ne']
  obtain ⟨whole, floor⟩ : ∃ whole, whole = ⌊(dividend / divisor : ℚ)⌋ := ⟨_, rfl⟩
  have product_lt : |divisor * whole| < 2 ^ 53 := by
    have rest_lt := abs_sub_mul_floor_lt dividend divisor_ne
    have apart := abs_sub_abs_le_abs_sub (divisor * whole) dividend
    rw [← floor] at rest_lt
    rw [abs_sub_comm] at apart
    omega
  have few : dividend.natAbs + divisor.natAbs < 2 * Format.double.binade := by
    rw [Int.abs_eq_natAbs, Int.abs_eq_natAbs] at short
    exact_mod_cast short
  obtain ⟨quotientFinite, quotient⟩ := floor_div nonzero positive leftIs rightIs
    Format.double_reaches leftFinite rightFinite few
  obtain ⟨wholeFinite, wholeIs⟩ := toRat_makeWhole_floor Format.double_reaches quotientFinite
  have rounds := rounds_mul wholeFinite rightFinite
  have product : (whole : ℚ) * right.toRat = ((divisor * whole : ℤ) : ℚ) * 2 ^ exponent := by
    rw [rightIs, Int.cast_mul]
    ring
  rw [wholeIs, quotient, ← floor, product] at rounds
  obtain ⟨multiple, multipleFinite, multipleIs⟩ := exists_toRat_eq product_lt low high
  refine ⟨rounds.finite multipleFinite (by rw [multipleIs]), ?_⟩
  rw [ratio, ← floor, mul_comm, product]
  exact rounds.toRat_eq multipleFinite multipleIs

/-- Such operands leave their exact remainder, which is no longer than the divisor. -/
theorem flooredModulo_short :
    IsRemainder (flooredModulo left right) right ∧
      (flooredModulo left right).toRat =
        left.toRat - right.toRat * ⌊left.toRat / right.toRat⌋ := by
  have positive : (0 : ℚ) < 2 ^ exponent := zpow_pos two_pos exponent
  have divisor_ne : (divisor : ℚ) ≠ 0 :=
    left_ne_zero_of_mul (rightIs ▸ toRat_ne_zero nonzero)
  obtain ⟨finite, multiple⟩ := flooredMultiple_short leftFinite rightFinite nonzero short low high
    leftIs rightIs
  obtain ⟨rest, restFinite, restIs⟩ := exists_toRat_eq
    (show |dividend - divisor * ⌊(dividend / divisor : ℚ)⌋| < 2 ^ 53 by
      have rest_lt := abs_sub_mul_floor_lt dividend divisor_ne
      have nonneg := abs_nonneg dividend
      omega)
    low high
  refine toRat_flooredModulo leftFinite nonzero finite multiple restFinite ?_
  rw [restIs, leftIs, rightIs, mul_div_mul_right _ _ positive.ne']
  push_cast
  ring

end Short

end

end BinaryOp

/-- The engine answers with the floored modulo of what the names are bound to. -/
theorem engine_modulo {limits : Limits} (admitted : limits.Admit "nA % nB") {bindings : Bindings}
    {a b : Double} (boundA : bindings.get? "nA" = some (.number a))
    (boundB : bindings.get? "nB" = some (.number b)) :
    (engine limits).evaluate "nA % nB" bindings = .ok (.number (BinaryOp.flooredModulo a b)) := by
  have spelled : infixText "nA" .modulo "nB" = "nA % nB" := by decide +kernel
  have tokenized : tokenize (infixText "nA" .modulo "nB") =
      .ok (infixTokens "nA" .modulo "nB") := by decide +kernel
  rw [← spelled] at admitted ⊢
  exact engine_infix admitted tokenized (fun _ => rfl) boundA boundB

/-- An expression that asks for the remainder of two finite numbers is always worth a number.
It is a remainder if and only if the multiple that is taken away is finite and neither above
the dividend, seen in the direction of the divisor, nor a whole divisor below it, and what is
left is not rounded up to the divisor. With the multiple that belongs to the exact quotient
only the last can go wrong, and on one side of zero nothing can: there a dividend that is
closer to zero than the divisor is itself what is left. Operands that are whole numbers on a
common scale, together no longer than a fraction, leave their remainder exactly; integers of
32 bits are of that kind. -/
theorem modulo_remainder {limits : Limits} (admitted : limits.Admit "nA % nB")
    {bindings : Bindings} {a b : Double} (boundA : bindings.get? "nA" = some (.number a))
    (boundB : bindings.get? "nB" = some (.number b)) (aFinite : a.isFinite = true)
    (bFinite : b.isFinite = true) (nonzero : b.isZero = false) :
    let multiple := (a / b).makeWhole floorQuotient * b
    ∃ rest : Double, (engine limits).evaluate "nA % nB" bindings = .ok (.number rest) ∧
      rest.isNaN = false ∧
      (IsRemainder rest b ↔ multiple.isFinite = true ∧
        0 ≤ (a.toRat - multiple.toRat) / b.toRat ∧ (a.toRat - multiple.toRat) / b.toRat < 1 ∧
        rest.toRat ≠ b.toRat) ∧
      (multiple.isFinite = true → multiple.toRat = b.toRat * ⌊a.toRat / b.toRat⌋ →
        (IsRemainder rest b ∨ rest.toRat = b.toRat) ∧
        (0 ≤ a.toRat / b.toRat → IsRemainder rest b ∧
          rest.toRat = a.toRat - b.toRat * ⌊a.toRat / b.toRat⌋)) ∧
      (0 ≤ a.toRat / b.toRat → a.toRat / b.toRat < 1 →
        IsRemainder rest b ∧ rest.toRat = a.toRat) ∧
      (∀ dividend divisor exponent : ℤ, |dividend| + |divisor| < 2 ^ 53 → -1074 ≤ exponent →
        exponent ≤ 971 → a.toRat = dividend * 2 ^ exponent → b.toRat = divisor * 2 ^ exponent →
        IsRemainder rest b ∧ rest.toRat = a.toRat - b.toRat * ⌊a.toRat / b.toRat⌋) ∧
      (∀ dividend divisor : ℤ, |dividend| ≤ 2 ^ 31 → |divisor| ≤ 2 ^ 31 →
        a.toRat = dividend → b.toRat = divisor →
        IsRemainder rest b ∧
          rest.toRat = dividend - divisor * ⌊(dividend / divisor : ℚ)⌋) := by
  intro multiple
  have short {dividend divisor exponent : ℤ} (few : |dividend| + |divisor| < 2 ^ 53)
      (low : -1074 ≤ exponent) (high : exponent ≤ 971) :=
    BinaryOp.flooredModulo_short aFinite bFinite nonzero few low high
  refine ⟨BinaryOp.flooredModulo a b, engine_modulo admitted boundA boundB,
    BinaryOp.isNaN_flooredModulo aFinite bFinite nonzero,
    BinaryOp.isRemainder_flooredModulo_iff aFinite bFinite nonzero,
    fun finite exact => ⟨BinaryOp.isRemainder_or_eq aFinite bFinite nonzero finite exact,
      BinaryOp.flooredModulo_of_nonneg aFinite bFinite nonzero finite exact⟩,
    fun nonneg small => ?_, fun _ _ _ few low high => short few low high,
    fun dividend divisor few less aIs bIs => ?_⟩
  · obtain ⟨finite, none, floor⟩ :=
      BinaryOp.flooredMultiple_of_lt aFinite bFinite nonzero nonneg small
    have rest := BinaryOp.flooredModulo_of_nonneg aFinite bFinite nonzero finite
      (by rw [none, floor, Int.cast_zero, mul_zero]) nonneg
    rwa [floor, Int.cast_zero, mul_zero, sub_zero] at rest
  · have one : (2 : ℚ) ^ (0 : ℤ) = 1 := zpow_zero 2
    have rest := short (show |dividend| + |divisor| < 2 ^ 53 by omega) (by omega) (by omega)
      (show a.toRat = dividend * 2 ^ (0 : ℤ) by rw [one, mul_one, aIs])
      (show b.toRat = divisor * 2 ^ (0 : ℤ) by rw [one, mul_one, bIs])
    rwa [aIs, bIs] at rest

/-- The bindings of an expression in `nA` and `nB`. -/
def operandPair (a b : Double) : Bindings :=
  .ofList [("nA", .number a), ("nB", .number b)]

theorem admit_modulo : Limits.default.Admit "nA % nB" :=
  Limits.admit_of_le (show (7 : UInt64) ≤ Limits.default.maxLength by decide) (by decide)
    (by decide) (by decide)

/-- The lowest integer of 32 bits, divided by a thousand. -/
theorem modulo_remainder_lowest :
    let a : Double := .ofInt (-2 ^ 31)
    let b : Double := .ofInt 1000
    a.isFinite = true ∧ b.isFinite = true ∧ b.isZero = false ∧
      ∃ rest : Double,
        (engine .default).evaluate "nA % nB" (operandPair a b) = .ok (.number rest) ∧
          IsRemainder rest b ∧ rest.toRat = 352 := by
  intro a b
  obtain ⟨aFinite, aCount⟩ := count_ofInt Format.double_reaches
    (show (-2 ^ 31 : Int).natAbs < 2 * Format.double.binade by decide)
  obtain ⟨bFinite, bCount⟩ := count_ofInt Format.double_reaches
    (show (1000 : Int).natAbs < 2 * Format.double.binade by decide)
  have nonzero : b.isZero = false := by decide +kernel
  have boundA : (operandPair a b).get? "nA" = some (.number a) := rfl
  have boundB : (operandPair a b).get? "nB" = some (.number b) := rfl
  obtain ⟨rest, evaluated, -, -, -, -, -, integers⟩ :=
    modulo_remainder admit_modulo boundA boundB aFinite bFinite nonzero
  obtain ⟨remains, exact⟩ := integers (-2 ^ 31) 1000 (by decide) (by decide)
    (toRat_eq_intCast_iff.mpr aCount) (toRat_eq_intCast_iff.mpr bCount)
  refine ⟨aFinite, bFinite, nonzero, rest, evaluated, remains, ?_⟩
  rw [exact]
  norm_num [Rat.floor_def]

/-- There need not be a remainder. The quotient of 1.7 and 0.1 is rounded up to 17, and by
what 17 times the divisor exceeds the dividend the answer is on the wrong side of zero. -/
theorem modulo_below_zero :
    let a : Double := .ofBits 0x3FFB333333333333
    let b : Double := .ofBits 0x3FB999999999999A
    let rest : Double := .ofBits 0xBCB0000000000000
    a.isFinite = true ∧ b.isFinite = true ∧ b.isZero = false ∧
      (engine .default).evaluate "nA % nB" (operandPair a b) = .ok (.number rest) ∧
      0 < b.toRat ∧ rest.toRat < 0 ∧ ¬IsRemainder rest b := by
  intro a b rest
  have left : BinaryOp.flooredModulo a b = rest := by decide +kernel
  have unit_pos := unit_pos_rat Format.double
  have positive : 0 < b.toRat := div_pos (Int.cast_pos.mpr (by decide +kernel)) unit_pos
  have negative : rest.toRat < 0 :=
    div_neg_of_neg_of_pos (Int.cast_lt_zero.mpr (by decide +kernel)) unit_pos
  have none : ¬IsRemainder rest b := by
    intro remains
    obtain zero | same := remains.sign
    · exact negative.ne zero
    · exact absurd same (not_lt.mpr (mul_nonpos_of_nonpos_of_nonneg negative.le positive.le))
  refine ⟨by decide +kernel, by decide +kernel, by decide +kernel, ?_, positive, negative, none⟩
  rw [← left]
  exact engine_modulo admit_modulo rfl rfl

end Script

end Rulebook
