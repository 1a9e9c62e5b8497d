import Rulebook.Proofs.Numeric.ExactValues

/-! Numbers made whole. A rule that tells which whole number stands for a quotient stays
between the whole numbers around it. That is all it takes for a number to be made whole
without loss, and for the integer that is nearest to the result to be the one nearest to
what the rule makes of the exact value. -/
namespace Rulebook.Numeric

/-- A rule finds a whole number between those below and above a quotient. -/
structure Bracketed (rule : Int → Nat → Int) : Prop where
  le_rule : ∀ {numerator value : Int} {denominator : Nat}, 0 < denominator →
    value * denominator ≤ numerator → value ≤ rule numerator denominator
  rule_le : ∀ {numerator value : Int} {denominator : Nat}, 0 < denominator →
    numerator ≤ value * denominator → rule numerator denominator ≤ value

section Rules
variable {rule : Int → Nat → Int} {numerator value : Int} {denominator : Nat}

/-- What is whole stays as it is. -/
theorem Bracketed.rule_mul (bracketed : Bracketed rule) (value : Int)
    (positive : 0 < denominator) : rule (value * denominator) denominator = value :=
  Int.le_antisymm (bracketed.rule_le positive le_rfl) (bracketed.le_rule positive le_rfl)

/-- A rule that treats both sides of zero alike has to be looked at on one of them. -/
theorem bracketed_of_odd (odd : ∀ numerator denominator,
      rule (-numerator) denominator = -rule numerator denominator)
    (le_rule : ∀ {numerator value : Int} {denominator : Nat}, 0 < denominator → 0 ≤ numerator →
      value * denominator ≤ numerator → value ≤ rule numerator denominator)
    (rule_le : ∀ {numerator value : Int} {denominator : Nat}, 0 < denominator → 0 ≤ numerator →
      numerator ≤ value * denominator → rule numerator denominator ≤ value) : Bracketed rule where
  le_rule {numerator value denominator} positive low := by
    obtain nonneg | nonpos := Int.le_total 0 numerator
    · exact le_rule positive nonneg low
    · have mirrored : rule (-numerator) denominator ≤ -value :=
        rule_le positive (by omega) (by rw [Int.neg_mul]; omega)
      rw [odd] at mirrored
      omega
  rule_le {numerator value denominator} positive high := by
    obtain nonneg | nonpos := Int.le_total 0 numerator
    · exact rule_le positive nonneg high
    · have mirrored : -value ≤ rule (-numerator) denominator :=
        le_rule positive (by omega) (by rw [Int.neg_mul]; omega)
      rw [odd] at mirrored
      omega

theorem bracketed_floor : Bracketed floorQuotient where
  le_rule positive low := (Int.le_ediv_iff_mul_le (Int.natCast_pos.mpr positive)).mpr low
  rule_le positive high :=
    (Int.ediv_le_ediv (Int.natCast_pos.mpr positive) high).trans_eq
      (Int.mul_ediv_cancel _ (Int.natCast_pos.mpr positive).ne')

/-- The whole number above is the one below on the other side of zero. -/
theorem bracketed_ceil : Bracketed ceilQuotient where
  le_rule positive low := by
    have mirrored := bracketed_floor.rule_le positive (Int.neg_mul .. ▸ Int.neg_le_neg low)
    exact Int.le_neg_of_le_neg mirrored
  rule_le positive high := by
    have mirrored := bracketed_floor.le_rule positive (Int.neg_mul .. ▸ Int.neg_le_neg high)
    exact Int.neg_le_of_neg_le mirrored

/-- The whole numbers around a quotient are neighbours, or the same one. -/
theorem Bracketed.between (bracketed : Bracketed rule) (positive : 0 < denominator)
    (numerator : Int) :
    floorQuotient numerator denominator ≤ rule numerator denominator ∧
      rule numerator denominator ≤ ceilQuotient numerator denominator ∧
      ceilQuotient numerator denominator ≤ floorQuotient numerator denominator + 1 := by
  have above : (0 : Int) < denominator := Int.natCast_pos.mpr positive
  refine ⟨bracketed.le_rule positive ?_, bracketed.rule_le positive ?_,
    bracketed_ceil.rule_le positive ?_⟩
  · exact Int.ediv_mul_le numerator above.ne'
  · have mirrored := Int.ediv_mul_le (-numerator) above.ne'
    rw [ceilQuotient, Int.neg_mul]
    omega
  · exact (Int.lt_ediv_add_one_mul_self numerator above).le

theorem truncQuotient_of_nonneg (nonneg : 0 ≤ numerator) (denominator : Nat) :
    truncQuotient numerator denominator = floorQuotient numerator denominator :=
  Int.tdiv_eq_ediv_of_nonneg nonneg

theorem bracketed_trunc : Bracketed truncQuotient :=
  bracketed_of_odd (fun numerator denominator => Int.neg_tdiv numerator denominator)
    (fun positive nonneg low =>
      truncQuotient_of_nonneg nonneg _ ▸ bracketed_floor.le_rule positive low)
    (fun positive nonneg high =>
      truncQuotient_of_nonneg nonneg _ ▸ bracketed_floor.rule_le positive high)

theorem nearestQuotient_neg (numerator : Int) (denominator : Nat) :
    nearestQuotient (-numerator) denominator = -nearestQuotient numerator denominator := by
  rw [nearestQuotient, nearestQuotient, ← Int.neg_tdiv, Int.sign_neg]
  congr 1
  ring

/-- From zero upwards, the nearest whole number is the one below what is half further. -/
theorem nearestQuotient_of_nonneg (positive : 0 < denominator) (nonneg : 0 ≤ numerator) :
    nearestQuotient numerator denominator =
      floorQuotient (2 * numerator + denominator) (2 * denominator) := by
  obtain rfl | above := nonneg.eq_or_lt
  · have half : (denominator : Int) / (2 * denominator : Nat) = 0 :=
      Int.ediv_eq_zero_of_lt (by omega) (by omega)
    simpa [nearestQuotient, floorQuotient] using half.symm
  · rw [nearestQuotient, floorQuotient, Int.sign_eq_one_of_pos above, one_mul,
      Int.tdiv_eq_ediv_of_nonneg (by omega), Nat.cast_mul]
    rfl

/-- The nearest whole number is at most a half away, and below only if nearer. -/
theorem nearestQuotient_bounds (positive : 0 < denominator) (nonneg : 0 ≤ numerator) :
    2 * (nearestQuotient numerator denominator * denominator) ≤ 2 * numerator + denominator ∧
      2 * numerator < 2 * (nearestQuotient numerator denominator * denominator) + denominator := by
  have wide : (0 : Int) < (2 * denominator : Nat) := by omega
  rw [nearestQuotient_of_nonneg positive nonneg, floorQuotient]
  have low := Int.ediv_mul_le (2 * numerator + denominator) wide.ne'
  have high := Int.lt_ediv_add_one_mul_self (2 * numerator + denominator) wide
  rw [Int.add_mul, one_mul] at high
  have same (whole : Int) : whole * (2 * denominator : Nat) = 2 * (whole * denominator) := by
    push_cast
    ring
  rw [same] at low high
  omega

/-- The same on both sides of zero; half-way, the whole number is the one further away. -/
theorem nearestQuotient_close (positive : 0 < denominator) (numerator : Int) :
    2 * |numerator - nearestQuotient numerator denominator * denominator| ≤ denominator ∧
      (2 * |numerator - nearestQuotient numerator denominator * denominator| = denominator →
        |numerator| < |nearestQuotient numerator denominator * denominator|) := by
  obtain nonneg | nonpos := Int.le_total 0 numerator
  · obtain ⟨low, high⟩ := nearestQuotient_bounds positive nonneg
    grind
  · obtain ⟨low, high⟩ := nearestQuotient_bounds positive (Int.neg_nonneg_of_nonpos nonpos)
    rw [nearestQuotient_neg, Int.neg_mul] at low high
    grind

theorem bracketed_nearest : Bracketed nearestQuotient := by
  refine bracketed_of_odd nearestQuotient_neg ?_ ?_ <;>
    intro numerator value denominator positive nonneg side
  · rw [nearestQuotient_of_nonneg positive nonneg]
    refine bracketed_floor.le_rule (by omega) ?_
    push_cast
    linarith
  · obtain ⟨low, -⟩ := nearestQuotient_bounds positive nonneg
    have close : 2 * (nearestQuotient numerator denominator * denominator) <
        2 * ((value + 1) * denominator) := by
      rw [Int.add_mul]
      omega
    have under : nearestQuotient numerator denominator < value + 1 :=
      lt_of_mul_lt_mul_right (lt_of_mul_lt_mul_left close (by decide)) (Int.natCast_nonneg _)
    omega

theorem floorQuotient_mono (positive : 0 < denominator) {low high : Int}
    (ordered : low ≤ high) : floorQuotient low denominator ≤ floorQuotient high denominator :=
  Int.ediv_le_ediv (Int.natCast_pos.mpr positive) ordered

theorem ceilQuotient_mono (positive : 0 < denominator) {low high : Int}
    (ordered : low ≤ high) : ceilQuotient low denominator ≤ ceilQuotient high denominator :=
  Int.neg_le_neg (floorQuotient_mono positive (Int.neg_le_neg ordered))

/-- Larger numbers have no smaller nearest whole numbers. -/
theorem nearestQuotient_mono (positive : 0 < denominator) {low high : Int}
    (ordered : low ≤ high) :
    nearestQuotient low denominator ≤ nearestQuotient high denominator := by
  have upward {low high : Int} (nonneg : 0 ≤ low) (ordered : low ≤ high) :
      nearestQuotient low denominator ≤ nearestQuotient high denominator := by
    rw [nearestQuotient_of_nonneg positive nonneg,
      nearestQuotient_of_nonneg positive (nonneg.trans ordered)]
    exact floorQuotient_mono (by omega) (by omega)
  obtain nonneg | lowNonpos := Int.le_total 0 low
  · exact upward nonneg ordered
  obtain nonpos | highNonneg := Int.le_total high 0
  · have mirrored := upward (Int.neg_nonneg_of_nonpos nonpos) (Int.neg_le_neg ordered)
    rw [nearestQuotient_neg, nearestQuotient_neg] at mirrored
    exact Int.neg_le_neg_iff.mp mirrored
  · calc nearestQuotient low denominator ≤ 0 := bracketed_nearest.rule_le positive (by omega)
      _ ≤ nearestQuotient high denominator := bracketed_nearest.le_rule positive (by omega)

end Rules

/-- Cutting keeps within 32 bits. -/
theorem toInt_clampInt32 (value : Int) :
    (clampInt32 value).toInt = max (-2 ^ 31) (min value (2 ^ 31 - 1)) := by
  rw [clampInt32, Int32.toInt_minValue, Int32.toInt_maxValue]
  exact Int32.toInt_ofInt_of_le (by omega) (by omega)

theorem clampInt32_mono {low high : Int} (ordered : low ≤ high) :
    clampInt32 low ≤ clampInt32 high := by
  rw [Int32.le_iff_toInt_le, toInt_clampInt32, toInt_clampInt32]
  omega

theorem clampInt32_of_le {value : Int} (low : value ≤ -2 ^ 31) :
    clampInt32 value = Int32.minValue := by
  rw [← Int32.toInt_inj, toInt_clampInt32, Int32.toInt_minValue]
  omega

theorem clampInt32_of_ge {value : Int} (high : 2 ^ 31 - 1 ≤ value) :
    clampInt32 value = Int32.maxValue := by
  rw [← Int32.toInt_inj, toInt_clampInt32, Int32.toInt_maxValue]
  omega

namespace Binary
variable {format : Format} {number : Binary format}

/-- The exact value as a count of quanta. Infinity counts as the number that would come
after the largest one. -/
def count (number : Binary format) : Int :=
  signed number.negative (format.quanta number.rank)

/-- Every number is finite, infinite or a NaN, and is read as that. -/
theorem read_cases (number : Binary format) :
    (number.rank < format.infinityRank ∧
      number.read = .finite number.negative (format.quanta number.rank)) ∨
    (number.rank = format.infinityRank ∧ number.read = .infinite number.negative) ∨
    (number.isNaN = true ∧ number.read = .nan) := by
  rw [read, isNaN, decide_eq_true_iff]
  rcases Nat.lt_trichotomy number.rank format.infinityRank with finite | infinite | nan
  · exact .inl ⟨finite, if_pos finite⟩
  · exact .inr (.inl ⟨infinite, by rw [if_neg (by omega), if_pos infinite]⟩)
  · exact .inr (.inr ⟨nan, by rw [if_neg (by omega), if_neg (by omega)]⟩)

theorem read_of_isNaN (isNaN : number.isNaN = true) : number.read = .nan := by
  rw [Binary.isNaN, decide_eq_true_iff] at isNaN
  rw [read, if_neg (by omega), if_neg (by omega)]

/-- A finite number is read as its sign and its quanta. -/
theorem read_of_isFinite (finite : number.isFinite = true) :
    number.read = .finite number.negative (format.quanta number.rank) :=
  if_pos (of_decide_eq_true finite)

theorem read_infinity (negative : Bool) :
    (infinity negative : Binary format).read = .infinite negative := by
  rw [read, infinity, if_neg (Nat.lt_irrefl _), if_pos rfl]

/-- Only NaNs are read alike without being the same. -/
theorem eq_of_read {left right : Binary format} (same : left.read = right.read)
    (isNumber : left.read ≠ .nan) : left = right := by
  have agree : left.negative = right.negative ∧ left.rank = right.rank := by
    rcases left.read_cases with ⟨-, leftRead⟩ | ⟨leftRank, leftRead⟩ | ⟨-, leftRead⟩ <;>
      rcases right.read_cases with ⟨-, rightRead⟩ | ⟨rightRank, rightRead⟩ | ⟨-, rightRead⟩ <;>
      rw [leftRead, rightRead] at same
    case inl.inl =>
      injection same with signs counts
      exact ⟨signs, format.quanta_strictMono.injective counts⟩
    case inr.inl.inr.inl =>
      injection same with signs
      exact ⟨signs, leftRank.trans rightRank.symm⟩
    case inr.inr.inr.inr => exact absurd leftRead isNumber
    all_goals nomatch same
  cases left
  cases right
  cases agree.1
  cases agree.2
  rfl

theorem isNaN_eq_false_iff : number.isNaN = false ↔ number.rank ≤ format.infinityRank := by
  rw [isNaN, decide_eq_false_iff_not, Nat.not_lt]

theorem isNaN_ofQuanta (negative : Bool) (numerator denominator : Nat) :
    (ofQuanta negative numerator denominator : Binary format).isNaN = false :=
  isNaN_eq_false_iff.mpr (Nat.min_le_right ..)

/-- Numbers are in the order of their exact values. -/
theorem below_eq_true_iff {left right : Binary format} (leftIs : left.isNaN = false)
    (rightIs : right.isNaN = false) : left.below right = true ↔ left.count < right.count := by
  have mono := format.quanta_strictMono
  have ranked : left.below right = true ↔
      signed left.negative left.rank < signed right.negative right.rank := by
    simp [below, order, leftIs, rightIs, Int.compare_eq_lt]
  rw [ranked, count, count]
  have ordered := mono.lt_iff_lt (a := left.rank) (b := right.rank)
  have reversed := mono.lt_iff_lt (a := right.rank) (b := left.rank)
  have zeroLeft := mono.lt_iff_lt (a := 0) (b := left.rank)
  have zeroRight := mono.lt_iff_lt (a := 0) (b := right.rank)
  rw [Format.quanta_zero] at zeroLeft zeroRight
  cases left.negative <;> cases right.negative <;> simp only [signed] <;> grind

theorem isNaN_of_isFinite (finite : number.isFinite = true) : number.isNaN = false := by
  rw [isFinite, decide_eq_true_iff] at finite
  exact isNaN_eq_false_iff.mpr finite.le

theorem count_of_read {negative : Bool} {quanta : Nat}
    (read : number.read = .finite negative quanta) :
    number.isFinite = true ∧ number.count = signed negative quanta := by
  rcases number.read_cases with ⟨finite, same⟩ | ⟨-, same⟩ | ⟨-, same⟩ <;> rw [same] at read <;>
    cases read
  exact ⟨decide_eq_true finite, rfl⟩

/-- Whole numbers no longer than a fraction are exact. -/
theorem count_ofInt (reaches : format.Reaches) {value : Int}
    (small : value.natAbs < 2 * format.binade) :
    (ofInt value : Binary format).isFinite = true ∧
      (ofInt value : Binary format).count = value * format.unit := by
  obtain ⟨finite, counted⟩ := count_of_read (read_ofInt reaches small)
  exact ⟨finite, counted.trans (signed_natAbs_mul ..)⟩

theorem signed_mul (negative : Bool) (quanta scale : Nat) :
    signed negative (quanta * scale) = signed negative quanta * scale := by
  cases negative <;> simp [signed]

theorem natAbs_signed (negative : Bool) (quanta : Nat) :
    (signed negative quanta).natAbs = quanta := by
  cases negative <;> simp [signed]

theorem signed_natAbs (value : Int) : signed (decide (value < 0)) value.natAbs = value := by
  simpa using signed_natAbs_mul value 1

theorem signed_not (negative : Bool) (quanta : Nat) :
    signed (!negative) quanta = -signed negative quanta := by
  cases negative <;> simp [signed]

theorem signed_mul_signed (first second : Bool) (left right : Nat) :
    signed first left * signed second right = signed (first != second) (left * right) := by
  cases first <;> cases second <;> simp [signed]

/-- The number on the other side of zero. -/
theorem read_neg {negative : Bool} {quanta : Nat}
    (finite : number.read = .finite negative quanta) :
    number.neg.read = .finite (!negative) quanta := by
  unfold read at finite ⊢
  split at finite
  · rename_i small
    cases finite
    exact if_pos small
  · split at finite <;> cases finite

theorem isZero_eq_true_iff : number.isZero = true ↔ number.count = 0 := by
  have none : format.quanta number.rank = format.quanta 0 ↔ number.rank = 0 :=
    format.quanta_strictMono.injective.eq_iff
  have magnitude : number.count.natAbs = format.quanta number.rank := natAbs_signed ..
  rw [Format.quanta_zero] at none
  rw [isZero, beq_iff_eq, ← none, ← magnitude, Int.natAbs_eq_zero]

theorem quanta_of_count {value : Int} (counted : number.count = value * format.unit) :
    format.quanta number.rank = value.natAbs * format.unit := by
  have magnitude := congrArg Int.natAbs counted
  rwa [Int.natAbs_mul, Int.natAbs_natCast, count, natAbs_signed] at magnitude

variable {rule : Int → Nat → Int}

/-- A rule does not take a number across zero. -/
theorem signed_natAbs_rule (bracketed : Bracketed rule) (number : Binary format) :
    signed number.negative (rule number.count format.unit).natAbs =
      rule number.count format.unit := by
  rw [count]
  cases number.negative with
  | false =>
    have nonneg : 0 ≤ rule (signed false (format.quanta number.rank)) format.unit :=
      bracketed.le_rule format.unit_pos (by simp [signed])
    rw [signed, if_neg Bool.false_ne_true]
    omega
  | true =>
    have nonpos : rule (signed true (format.quanta number.rank)) format.unit ≤ 0 :=
      bracketed.rule_le format.unit_pos (by simp [signed])
    rw [signed, if_pos rfl]
    omega

/-- What a rule makes of a finite number is a number of the format. Only numbers with
parts smaller than one are changed, and those are small. -/
theorem exists_rank_rule (bracketed : Bracketed rule) (reaches : format.Reaches)
    (finite : number.rank < format.infinityRank) :
    ∃ rank < format.infinityRank,
      format.quanta rank = (rule number.count format.unit).natAbs * format.unit := by
  have unit_pos := format.unit_pos
  obtain large | small := Nat.le_total (format.binade * format.unit) (format.quanta number.rank)
  · obtain ⟨whole, same⟩ := Format.unit_dvd_quanta large
    rw [Nat.mul_comm] at same
    refine ⟨number.rank, finite, ?_⟩
    rw [count, same, signed_mul, bracketed.rule_mul _ unit_pos, natAbs_signed]
  · refine reaches.exists_rank ?_
    have positive := format.binade_pos
    have near : (number.count).natAbs ≤ format.binade * format.unit := by
      rwa [count, natAbs_signed]
    have low : -(format.binade : Int) ≤ rule number.count format.unit :=
      bracketed.le_rule unit_pos (by rw [Int.neg_mul]; omega)
    have high : rule number.count format.unit ≤ format.binade :=
      bracketed.rule_le unit_pos (by omega)
    omega

/-- A number is made whole without loss. -/
theorem count_makeWhole (bracketed : Bracketed rule) (reaches : format.Reaches)
    (finite : number.isFinite = true) :
    (number.makeWhole rule).isFinite = true ∧
      (number.makeWhole rule).count = rule number.count format.unit * format.unit := by
  rw [isFinite, decide_eq_true_iff] at finite
  obtain ⟨rank, rankFinite, exact⟩ := exists_rank_rule bracketed reaches finite
  have rounds : format.RoundsTo (format.quanta rank * 1) 1 rank :=
    Format.roundsTo_quanta Nat.one_pos
  rw [Nat.mul_one, exact] at rounds
  have made : number.makeWhole rule =
      ⟨number.negative, rank, rankFinite.trans format.infinityRank_lt_ranks⟩ := by
    rw [makeWhole, read, if_pos finite]
    exact ofQuanta_eq Nat.one_pos rankFinite rounds
  rw [made]
  refine ⟨decide_eq_true rankFinite, ?_⟩
  change signed number.negative (format.quanta rank) = _
  rw [exact, signed_mul, signed_natAbs_rule bracketed]

end Binary

namespace Double
variable {rule : Int → Nat → Int} {number : Double}

/-- All integers of 32 bits are closer to zero than infinity. -/
theorem lt_quanta_infinityRank :
    2 ^ 31 * Format.double.unit < Format.double.quanta Format.double.infinityRank := by
  obtain ⟨rank, smaller, exact⟩ := Format.double_reaches.exists_rank
    (show 2 ^ 31 < 2 * Format.double.binade by decide)
  rw [← exact]
  exact Format.double.quanta_strictMono smaller

/-- Whatever a rule makes of a number beyond the integers of 32 bits, it is cut to the
last of them. -/
theorem clampInt32_of_beyond (bracketed : Bracketed rule) (negative : Bool) {quanta unit : Nat}
    (positive : 0 < unit) (beyond : 2 ^ 31 * unit ≤ quanta) :
    clampInt32 (rule (Binary.signed negative quanta) unit) =
      if negative then Int32.minValue else Int32.maxValue := by
  have wide : 2 ^ 31 * (unit : Int) ≤ quanta := by exact_mod_cast beyond
  cases negative with
  | false =>
    have high : 2 ^ 31 ≤ rule (quanta : Int) unit := bracketed.le_rule positive wide
    have last := clampInt32_of_ge (show 2 ^ 31 - 1 ≤ rule (quanta : Int) unit by omega)
    exact last
  | true =>
    have low : rule (-(quanta : Int)) unit ≤ -2 ^ 31 :=
      bracketed.rule_le positive (by rw [Int.neg_mul]; omega)
    exact clampInt32_of_le low

/-- A number that is no NaN becomes the integer nearest to what a rule makes of its
exact value. Infinity need not be told apart. -/
theorem toInt32_eq (bracketed : Bracketed rule) (isNumber : number.isNaN = false) :
    toInt32 rule number = clampInt32 (rule number.count Format.double.unit) := by
  rcases number.read_cases with ⟨-, finite⟩ | ⟨infinite, read⟩ | ⟨isNaN, -⟩
  · rw [toInt32, finite]
    rfl
  · rw [toInt32, read, Binary.count, infinite,
      clampInt32_of_beyond bracketed _ Format.double.unit_pos lt_quanta_infinityRank.le]
  · rw [isNumber] at isNaN
    cases isNaN

/-- Whole numbers are kept by every rule and only cut to 32 bits. -/
theorem toInt32_whole (bracketed : Bracketed rule) {value : Int}
    (small : value.natAbs < 2 * Format.double.binade) :
    toInt32 rule (.ofInt value) = clampInt32 value := by
  obtain ⟨finite, counted⟩ := Binary.count_ofInt Format.double_reaches small
  rw [toInt32_eq bracketed (Binary.isNaN_of_isFinite finite), counted,
    bracketed.rule_mul _ Format.double.unit_pos]

theorem truncQuotient_signed (negative : Bool) (quanta denominator : Nat) :
    truncQuotient (Binary.signed negative quanta) denominator =
      Binary.signed negative (quanta / denominator) := by
  cases negative with
  | false => rfl
  | true => exact Int.neg_tdiv quanta denominator

/-- A quotient of whole numbers that is rounded to a double and cut to an integer is the
quotient of whole numbers cut to an integer, if the two are not too long together or so
far apart that the integers end before the quotient. -/
theorem toInt32_ofQuanta {numerator denominator dividend divisor : Nat}
    (stands : Format.double.Stands numerator denominator dividend divisor)
    (small : 2 ^ 31 ≤ dividend / divisor ∨ dividend + divisor < 2 * Format.double.binade)
    (negative : Bool) :
    toInt32 truncQuotient (.ofQuanta negative numerator denominator) =
      clampInt32 (Binary.signed negative (dividend / divisor)) := by
  rw [toInt32_eq bracketed_trunc (Binary.isNaN_ofQuanta ..)]
  change clampInt32 (truncQuotient (Binary.signed negative (Format.double.quanta
    (min (Format.double.nearestRank numerator denominator) Format.double.infinityRank))) _) = _
  obtain large | short := small
  · have beyond := stands.le_quanta Format.double_reaches
      (show 2 ^ 31 < 2 * Format.double.binade by decide)
      ((Nat.le_div_iff_mul_le stands.divisor_pos).mp large)
    have whole : 2 ^ 31 * 1 ≤ dividend / divisor := (Nat.mul_one _).trans_le large
    have cut := clampInt32_of_beyond bracketed_trunc negative Nat.one_pos whole
    rw [truncQuotient_signed, Nat.div_one] at cut
    rw [clampInt32_of_beyond bracketed_trunc _ Format.double.unit_pos beyond, cut]
  · obtain ⟨finite, same⟩ := stands.quanta_div Format.double_reaches short
    rw [Nat.min_eq_left finite.le, truncQuotient_signed, same]

/-- Making a number whole first and cutting off what is behind the point afterwards
gives the same integer. -/
theorem toInt32_makeWhole (bracketed : Bracketed rule) (number : Double) :
    toInt32 truncQuotient (number.makeWhole rule) = toInt32 rule number := by
  rcases number.read_cases with ⟨rank, -⟩ | ⟨infinite, read⟩ | ⟨isNaN, read⟩
  · have finite : number.isFinite = true := decide_eq_true rank
    obtain ⟨madeFinite, counted⟩ := Binary.count_makeWhole bracketed Format.double_reaches finite
    rw [toInt32_eq bracketed_trunc (Binary.isNaN_of_isFinite madeFinite), counted,
      bracketed_trunc.rule_mul _ Format.double.unit_pos,
      toInt32_eq bracketed (Binary.isNaN_of_isFinite finite)]
  · have unchanged : number.makeWhole rule = number := by rw [Binary.makeWhole, read]
    rw [unchanged, toInt32, toInt32, read]
  · have made : number.makeWhole rule = .nan := by rw [Binary.makeWhole, read]
    have nan : (Binary.nan : Double).read = .nan := by decide +kernel
    rw [made, toInt32, toInt32, read, nan]

end Double

end Rulebook.Numeric
