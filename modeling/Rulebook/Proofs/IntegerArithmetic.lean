import Rulebook.Proofs.OperationEffects
import Rulebook.Proofs.RoundingPolicies
import Rulebook.Proofs.VectorComponents

/-! Integers are worked out in 64 bits and come out exact. Sums and remainders are exact
already. Products may be too long and quotients too fine for a fraction, but then they are
past all integers, or too far from the next whole number to be rounded to it. -/
namespace Rulebook
open Numeric Script

namespace Numeric

namespace Binary

section Signs
variable (first second : Bool) (left right : Nat)

theorem signed_tdiv_signed :
    (signed first left).tdiv (signed second right) = signed (first != second) (left / right) := by
  cases first <;> cases second <;> simp [signed]

theorem signed_tmod_signed :
    (signed first left).tmod (signed second right) = signed first (left % right) := by
  cases first <;> cases second <;> simp [signed, Int.tmod_eq_emod_of_nonneg]

end Signs

/-- A remainder has the sign of the dividend. -/
theorem tmod_eq (dividend divisor : Int) :
    dividend.tmod divisor =
      signed (decide (dividend < 0)) (dividend.natAbs % divisor.natAbs) := by
  have remains := signed_tmod_signed (decide (dividend < 0)) (decide (divisor < 0))
    dividend.natAbs divisor.natAbs
  rwa [signed_natAbs, signed_natAbs] at remains

end Binary

namespace Double

/-- An integer of 32 bits is read as the whole number it is. -/
theorem read_ofInt (value : Int32) :
    (.ofInt value.toInt : Double).read =
      .finite (decide (value.toInt < 0)) (value.toInt.natAbs * Format.double.unit) :=
  Binary.read_ofInt Format.double_reaches (natAbs_lt value)

/-- A whole number that is rounded to a double is cut to an integer as it was, since it is
either past all of them or short enough to be exact. -/
theorem toInt32_ofQuanta_whole {numerator denominator whole : Nat}
    (stands : Format.double.Stands numerator denominator whole 1) (negative : Bool) :
    toInt32 truncQuotient (.ofQuanta negative numerator denominator) =
      clampInt32 (Binary.signed negative whole) := by
  have wide : 2 * Format.double.binade = 2 ^ 53 := rfl
  have small : 2 ^ 31 ≤ whole / 1 ∨ whole + 1 < 2 * Format.double.binade := by
    rw [Nat.div_one]
    omega
  rw [toInt32_ofQuanta stands small, Nat.div_one]

/-- Whole numbers are added exactly. -/
theorem toInt32_add {left right : Double} {leftNegative rightNegative : Bool}
    {leftQuanta rightQuanta : Nat} {first second : Int}
    (readLeft : left.read = .finite leftNegative leftQuanta)
    (readRight : right.read = .finite rightNegative rightQuanta)
    (leftIs : Binary.signed leftNegative leftQuanta = first * Format.double.unit)
    (rightIs : Binary.signed rightNegative rightQuanta = second * Format.double.unit) :
    toInt32 truncQuotient (left + right) = clampInt32 (first + second) := by
  have unit_pos : (0 : Int) < Format.double.unit := Int.natCast_pos.mpr Format.double.unit_pos
  change toInt32 truncQuotient (left.add right) = _
  rw [Binary.add, readLeft, readRight]
  simp only
  rw [leftIs, rightIs, ← Int.add_mul]
  split
  · rename_i none
    have cancelled : first + second = 0 :=
      (Int.mul_eq_zero.mp none).resolve_right unit_pos.ne'
    have stands : Format.double.Stands 0 1 0 1 := ⟨Nat.one_pos, Nat.one_pos, by simp⟩
    rw [← Binary.ofQuanta_zero _ Nat.one_pos Format.double_reaches,
      toInt32_ofQuanta_whole stands, cancelled]
    cases leftNegative && rightNegative <;> rfl
  · have stands : Format.double.Stands ((first + second) * Format.double.unit).natAbs 1
        (first + second).natAbs 1 :=
      ⟨Nat.one_pos, Nat.one_pos, by rw [Int.natAbs_mul, Int.natAbs_natCast, Nat.mul_one]⟩
    have sign : decide ((first + second) * (Format.double.unit : Int) < 0) =
        decide (first + second < 0) := by
      rw [decide_eq_decide]
      exact ⟨fun below => neg_of_mul_neg_left below unit_pos.le,
        fun below => Int.mul_neg_of_neg_of_pos below unit_pos⟩
    rw [toInt32_ofQuanta_whole stands, sign, Binary.signed_natAbs]

variable (left right : Int32)

theorem toInt32_ofInt_add :
    toInt32 truncQuotient (.ofInt left.toInt + .ofInt right.toInt) =
      clampInt32 (left.toInt + right.toInt) :=
  toInt32_add (read_ofInt left) (read_ofInt right) (Binary.signed_natAbs_mul ..)
    (Binary.signed_natAbs_mul ..)

/-- Subtraction adds the number on the other side of zero. -/
theorem toInt32_ofInt_sub :
    toInt32 truncQuotient (.ofInt left.toInt - .ofInt right.toInt) =
      clampInt32 (left.toInt - right.toInt) := by
  refine toInt32_add (read_ofInt left) (Binary.read_neg (read_ofInt right))
    (Binary.signed_natAbs_mul ..) ?_
  rw [Binary.signed_not, Binary.signed_natAbs_mul, Int.neg_mul]

theorem toInt32_ofInt_mul :
    toInt32 truncQuotient (.ofInt left.toInt * .ofInt right.toInt) =
      clampInt32 (left.toInt * right.toInt) := by
  change toInt32 truncQuotient (Binary.mul _ _) = _
  rw [Binary.mul, read_ofInt, read_ofInt]
  have stands : Format.double.Stands
      (left.toInt.natAbs * Format.double.unit * (right.toInt.natAbs * Format.double.unit))
      Format.double.unit (left.toInt.natAbs * right.toInt.natAbs) 1 :=
    ⟨Format.double.unit_pos, Nat.one_pos, by ring⟩
  rw [toInt32_ofQuanta_whole stands, ← Binary.signed_mul_signed, Binary.signed_natAbs,
    Binary.signed_natAbs]

theorem below_ofInt : (Binary.ofInt left.toInt : Double).below (.ofInt right.toInt) = true ↔
    left.toInt < right.toInt := by
  have unit_pos : (0 : Int) < Format.double.unit := Int.natCast_pos.mpr Format.double.unit_pos
  obtain ⟨leftFinite, leftIs⟩ := Binary.count_ofInt Format.double_reaches (natAbs_lt left)
  obtain ⟨rightFinite, rightIs⟩ := Binary.count_ofInt Format.double_reaches (natAbs_lt right)
  rw [Binary.below_eq_true_iff (Binary.isNaN_of_isFinite leftFinite)
    (Binary.isNaN_of_isFinite rightFinite), leftIs, rightIs, Int.mul_lt_mul_right unit_pos]

theorem min_ofInt : Binary.min (.ofInt left.toInt : Double) (.ofInt right.toInt) =
    .ofInt (min left.toInt right.toInt) := by
  obtain ⟨finite, -⟩ := Binary.count_ofInt Format.double_reaches (natAbs_lt left)
  rw [Binary.min, Binary.isNaN_of_isFinite finite, if_neg Bool.false_ne_true]
  split
  · rename_i below
    rw [Int.min_eq_right ((below_ofInt ..).mp below).le]
  · rename_i other
    rw [Int.min_eq_left (Int.not_lt.mp fun below => other ((below_ofInt ..).mpr below))]

theorem max_ofInt : Binary.max (.ofInt left.toInt : Double) (.ofInt right.toInt) =
    .ofInt (max left.toInt right.toInt) := by
  obtain ⟨finite, -⟩ := Binary.count_ofInt Format.double_reaches (natAbs_lt left)
  rw [Binary.max, Binary.isNaN_of_isFinite finite, if_neg Bool.false_ne_true]
  split
  · rename_i below
    rw [Int.max_eq_right ((below_ofInt ..).mp below).le]
  · rename_i other
    rw [Int.max_eq_left (Int.not_lt.mp fun below => other ((below_ofInt ..).mpr below))]

theorem isZero_ofInt : (Binary.ofInt right.toInt : Double).isZero = true ↔ right = 0 := by
  obtain ⟨-, counted⟩ := Binary.count_ofInt Format.double_reaches (natAbs_lt right)
  rw [Binary.isZero_eq_true_iff, counted, Int.mul_eq_zero, ← Int32.toInt_zero, Int32.toInt_inj]
  exact or_iff_left (Int.natCast_pos.mpr Format.double.unit_pos).ne'

variable {right}

theorem natAbs_pos_of_ne (divides : right ≠ 0) : 0 < right.toInt.natAbs := by
  rw [Int.natAbs_pos, ne_eq, ← Int32.toInt_zero, Int32.toInt_inj]
  exact divides

/-- Dividend and divisor are together short enough for a quotient that is not whole to
stay one. -/
theorem toInt32_ofInt_div (divides : right ≠ 0) :
    toInt32 truncQuotient (.ofInt left.toInt / .ofInt right.toInt) =
      clampInt32 (left.toInt.tdiv right.toInt) := by
  have divisor_pos := natAbs_pos_of_ne divides
  have divisible := Nat.mul_pos divisor_pos Format.double.unit_pos
  change toInt32 truncQuotient (Binary.div _ _) = _
  rw [Binary.div, read_ofInt, read_ofInt]
  simp only
  rw [if_neg divisible.ne']
  have stands : Format.double.Stands
      (left.toInt.natAbs * Format.double.unit * Format.double.unit)
      (right.toInt.natAbs * Format.double.unit) left.toInt.natAbs right.toInt.natAbs :=
    ⟨divisible, divisor_pos, by ring⟩
  have small : left.toInt.natAbs + right.toInt.natAbs < 2 * Format.double.binade := by
    have leftLow := left.le_toInt
    have leftHigh := left.toInt_lt
    have rightLow := right.le_toInt
    have rightHigh := right.toInt_lt
    have wide : 2 * Format.double.binade = 2 ^ 53 := rfl
    omega
  rw [toInt32_ofQuanta stands (.inr small), ← Binary.signed_tdiv_signed, Binary.signed_natAbs,
    Binary.signed_natAbs]

theorem toInt32_ofInt_rem (divides : right ≠ 0) :
    toInt32 truncQuotient (.ofInt left.toInt % .ofInt right.toInt) =
      clampInt32 (left.toInt.tmod right.toInt) := by
  have divisible := Nat.mul_pos (natAbs_pos_of_ne divides) Format.double.unit_pos
  change toInt32 truncQuotient (Binary.rem _ _) = _
  rw [Binary.rem, read_ofInt, read_ofInt]
  simp only
  rw [if_neg divisible.ne', Nat.mul_mod_mul_right]
  have stands : Format.double.Stands
      (left.toInt.natAbs % right.toInt.natAbs * Format.double.unit) 1
      (left.toInt.natAbs % right.toInt.natAbs) 1 :=
    ⟨Nat.one_pos, Nat.one_pos, by ring⟩
  rw [toInt32_ofQuanta_whole stands, Binary.tmod_eq]

end Double

end Numeric

namespace Arithmetic

/-- The operation on whole numbers that an operator is named for. Powers have none, since
those of integers need not be whole. -/
def onWholes? : Arithmetic → Option (Int → Int → Int)
  | set => some fun left _ => left
  | add => some (· + ·)
  | subtract => some (· - ·)
  | multiply => some (· * ·)
  | divide => some Int.tdiv
  | modulo => some Int.tmod
  | min => some Min.min
  | max => some Max.max
  | power => none

/-- Up to the cut to an integer, an operator makes of integers what the operation on whole
numbers makes of them. -/
theorem toInt32_raw {operator : Arithmetic} {rule : Int → Int → Int}
    (named : operator.onWholes? = some rule) (left : Int32) {right : Int32}
    (divisible : operator.divides = true → right ≠ 0) :
    Double.toInt32 truncQuotient (operator.raw (.ofInt left.toInt) (.ofInt right.toInt)) =
      clampInt32 (rule left.toInt right.toInt) := by
  have leftSmall := Double.natAbs_lt left
  have rightSmall := Double.natAbs_lt right
  cases operator <;> cases named
  case set => exact Double.toInt32_whole bracketed_trunc leftSmall
  case add => exact Double.toInt32_ofInt_add left right
  case subtract => exact Double.toInt32_ofInt_sub left right
  case multiply => exact Double.toInt32_ofInt_mul left right
  case divide => exact Double.toInt32_ofInt_div left (divisible rfl)
  case modulo => exact Double.toInt32_ofInt_rem left (divisible rfl)
  case min =>
    rw [raw, Double.min_ofInt]
    exact Double.toInt32_whole bracketed_trunc (by omega)
  case max =>
    rw [raw, Double.max_ofInt]
    exact Double.toInt32_whole bracketed_trunc (by omega)

/-- Only a division of integers by zero has no result. -/
theorem apply_ofInt (operator : Arithmetic) (left right : Int32) :
    operator.apply (.ofInt left.toInt) (.ofInt right.toInt) .int32 =
      if operator.divides = true ∧ right = 0 then none
      else some (quantize (operator.raw (.ofInt left.toInt) (.ofInt right.toInt)) .int32) := by
  have guarded : (NumberKind.int32.isInteger && operator.divides &&
      (Binary.ofInt right.toInt : Double).isZero) = true ↔ operator.divides = true ∧ right = 0 := by
    rw [Bool.and_eq_true, Bool.and_eq_true, Double.isZero_ofInt]
    exact and_congr_left' (and_iff_right rfl)
  exact if_congr guarded rfl rfl

/-- Copies, remainders and choices of integers are integers of 32 bits again. -/
theorem onWholes?_within {operator : Arithmetic} {rule : Int → Int → Int}
    (named : operator.onWholes? = some rule)
    (choice : operator = set ∨ operator = modulo ∨ operator = min ∨ operator = max)
    (left right : Int32) :
    -2 ^ 31 ≤ rule left.toInt right.toInt ∧ rule left.toInt right.toInt ≤ 2 ^ 31 - 1 := by
  have leftLow := left.le_toInt
  have leftHigh := left.toInt_lt
  have rightLow := right.le_toInt
  have rightHigh := right.toInt_lt
  rcases choice with rfl | rfl | rfl | rfl <;> cases named
  · exact ⟨leftLow, Int.le_sub_one_of_lt leftHigh⟩
  · have rest := Nat.mod_le left.toInt.natAbs right.toInt.natAbs
    rw [Binary.tmod_eq]
    cases negative : decide (left.toInt < 0) <;> simp only [Binary.signed] <;> grind
  · omega
  · omega

end Arithmetic

/-- Integers come out of 64 bits as they went in. -/
theorem narrow_quantize_int32 (number : Double) (rounding : Rounding) :
    narrow (quantize number .int32) .int32 rounding = .int (number.toInt32 truncQuotient) :=
  congrArg Number.int (rounding.toInt32_ofInt _)

/-- An operation on integers computes the integer to which its result in 64 bits is cut,
with no use for the rounding. -/
theorem Formula.result_int {store : Store} {target : VariableId} {var : Variable}
    {a b : Reference Number} {left right : Int32} (found : store.get target = .ok var)
    (sameKind : var.kind = .number .int32) (resolvedA : a.resolve store = .ok (.int left))
    (resolvedB : b.resolve store = .ok (.int right)) (operator : Arithmetic)
    (rounding : Rounding) (evaluator : Evaluator) :
    ((number operator a b rounding).compute evaluator target store).result =
      if operator.divides = true ∧ right = 0 then .error (.divisionByZero var.name)
      else .ok (.number (.int ((operator.raw (.ofInt left.toInt) (.ofInt right.toInt)).toInt32
        truncQuotient))) := by
  have applied : operator.apply (Number.int left).widen (Number.int right).widen
      ((Number.int left).kind.merge (Number.int right).kind) = _ :=
    operator.apply_ofInt left right
  rw [result_number found sameKind resolvedA resolvedB, applied]
  by_cases byZero : operator.divides = true ∧ right = 0
  · rw [if_pos byZero, if_pos byZero]
  · rw [if_neg byZero, if_neg byZero]
    simp only [narrow_quantize_int32]

/-- Arithmetic on integers is done in 64 bits and is exact all the same. Sums, products and
quotients without their fraction are cut to 32 bits only where they are too long for them;
remainders, choices and copies never are. An operation writes them to an integer as they
are, whatever the rounding; division by zero is all that it can fail for. -/
theorem integer_arithmetic_exact :
    (∀ (operator : Arithmetic) (rule : Int → Int → Int), operator.onWholes? = some rule →
      ∀ left right : Int32,
        operator.apply (.ofInt left.toInt) (.ofInt right.toInt) .int32 =
          (if operator.divides = true ∧ right = 0 then none
          else some (.ofInt (max (-2 ^ 31) (min (rule left.toInt right.toInt) (2 ^ 31 - 1))))) ∧
        (operator = .set ∨ operator = .modulo ∨ operator = .min ∨ operator = .max →
          -2 ^ 31 ≤ rule left.toInt right.toInt ∧ rule left.toInt right.toInt ≤ 2 ^ 31 - 1)) ∧
    ∀ {store : Store} {target : VariableId} {var : Variable} {a b : Reference Number}
      {left right : Int32} {raiseFlag : Reference Bool} {raised : Bool},
      store.get target = .ok var → var.kind = .number .int32 →
      a.resolve store = .ok (.int left) → b.resolve store = .ok (.int right) →
      raiseFlag.resolve store = .ok raised →
      ∀ (operator : Arithmetic) (rounding : Rounding) (evaluator : Evaluator),
        let operation : Operation := ⟨target, .number operator a b rounding, raiseFlag⟩
        let ran := operation.execute evaluator store
        (operator.divides = true ∧ right = 0 →
          ran.result = .error (.divisionByZero var.name) ∧ ran.store = store) ∧
        (¬(operator.divides = true ∧ right = 0) →
          ran.result = .ok ⟨target, raised⟩ ∧
          ∃ written : Int32,
            ran.store.get target = .ok { var with value := .number (.int written) } ∧
            ∀ rule, operator.onWholes? = some rule →
              written.toInt = max (-2 ^ 31) (min (rule left.toInt right.toInt) (2 ^ 31 - 1))) := by
  constructor
  · intro operator rule named left right
    refine ⟨?_, fun choice => Arithmetic.onWholes?_within named choice left right⟩
    rw [Arithmetic.apply_ofInt]
    split
    · rfl
    · rename_i divisible
      rw [quantize, Arithmetic.toInt32_raw named left fun divides zero => divisible ⟨divides, zero⟩,
        toInt_clampInt32]
  · intro store target var a b left right raiseFlag raised found sameKind resolvedA resolvedB
      resolved operator rounding evaluator operation ran
    have computed : (operation.compute evaluator store).result = _ :=
      Formula.result_int found sameKind resolvedA resolvedB operator rounding evaluator
    constructor
    · intro byZero
      rw [if_pos byZero] at computed
      exact Operation.execute_of_failed computed
    · intro divisible
      rw [if_neg divisible] at computed
      obtain ⟨result, written⟩ := Operation.execute_of_computed found computed sameKind resolved
      refine ⟨result, _, written, fun rule named => ?_⟩
      rw [Arithmetic.toInt32_raw named left fun divides zero => divisible ⟨divides, zero⟩,
        toInt_clampInt32]

/-- The lowest integer has no opposite: divided by one below zero it becomes the highest. -/
theorem integer_arithmetic_exact_lowest :
    let debt : Variable := ⟨"debt", .number (.int 0)⟩
    let store : Store := Store.empty.adding debt
    let a : Reference Number := .literal (.int Int32.minValue)
    let b : Reference Number := .literal (.int (-1))
    let raiseFlag : Reference Bool := .literal true
    let ran := Operation.execute ⟨⟨0⟩, .number .divide a b .floor, raiseFlag⟩
      (engine .default) store
    (Arithmetic.divide.onWholes? = some Int.tdiv ∧
      ¬(Arithmetic.divide.divides = true ∧ (-1 : Int32) = 0) ∧
      store.get ⟨0⟩ = .ok debt ∧ debt.kind = .number .int32 ∧
      a.resolve store = .ok (.int Int32.minValue) ∧ b.resolve store = .ok (.int (-1)) ∧
      raiseFlag.resolve store = .ok true) ∧
    Arithmetic.divide.apply (.ofInt Int32.minValue.toInt) (.ofInt (-1 : Int32).toInt) .int32 =
      some (.ofInt (2 ^ 31 - 1)) ∧
    ran.result = .ok ⟨⟨0⟩, true⟩ ∧
    ran.store.get ⟨0⟩ = .ok ⟨"debt", .number (.int Int32.maxValue)⟩ := by
  intro debt store a b raiseFlag ran
  have named : Arithmetic.divide.onWholes? = some Int.tdiv := rfl
  have divisible : ¬(Arithmetic.divide.divides = true ∧ (-1 : Int32) = 0) := by decide
  have found : store.get ⟨0⟩ = .ok debt := rfl
  have sameKind : debt.kind = .number .int32 := rfl
  have resolvedA : a.resolve store = .ok (.int Int32.minValue) := rfl
  have resolvedB : b.resolve store = .ok (.int (-1)) := rfl
  have resolved : raiseFlag.resolve store = .ok true := rfl
  obtain ⟨exact, operations⟩ := integer_arithmetic_exact
  obtain ⟨applied, -⟩ := exact .divide Int.tdiv named Int32.minValue (-1)
  obtain ⟨result, written, seen, value⟩ :=
    (operations found sameKind resolvedA resolvedB resolved .divide .floor (engine .default)).2
      divisible
  have highest : written = Int32.maxValue := by
    rw [← Int32.toInt_inj, value _ named]
    decide
  rw [if_neg divisible] at applied
  rw [highest] at seen
  exact ⟨⟨named, divisible, found, sameKind, resolvedA, resolvedB, resolved⟩,
    applied, result, seen⟩

end Rulebook
