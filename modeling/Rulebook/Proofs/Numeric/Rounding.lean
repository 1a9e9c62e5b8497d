import Mathlib.Order.Monotone.Basic
import Mathlib.Tactic.Linarith
import Mathlib.Tactic.Ring
import Rulebook.Numeric.Shortest

/-! The nearest rank of a quotient is the one between whose half-way points the
quotient lies. This says all there is to know about rounding, without the shift
by which it is computed. -/
namespace Rulebook.Numeric.Format

variable (format : Format)

/-- A quotient of quanta is rounded to a rank: it lies between the half-way
points to the neighbouring ranks, and on one of them only if the rank is even. -/
structure RoundsTo (numerator denominator rank : Nat) : Prop where
  low_le : (format.bounds rank).1 * denominator ≤ 2 * numerator
  le_high : 2 * numerator ≤ (format.bounds rank).2 * denominator
  even : 2 * numerator = (format.bounds rank).1 * denominator ∨
    2 * numerator = (format.bounds rank).2 * denominator → rank % 2 = 0

/-- A rank is made of an exponent and a fraction with its leading bit, which is
missing only where the exponent is zero. A full fraction is the next exponent's
first. -/
structure Splits (rank shift whole : Nat) : Prop where
  rank_eq : rank = shift * format.binade + whole
  leading : shift = 0 ∨ format.binade ≤ whole
  whole_le : whole ≤ 2 * format.binade

theorem two_dvd_binade : 2 ∣ format.binade :=
  dvd_pow_self 2 (Nat.ne_of_gt format.fractionBits_pos)

theorem two_mul_binade : 2 * format.binade = 2 ^ (format.fractionBits + 1) := by
  rw [Nat.pow_succ, Nat.mul_comm]
  rfl

theorem exists_splits (rank : Nat) :
    ∃ shift whole, format.Splits rank shift whole ∧ whole < 2 * format.binade := by
  have positive := format.binade_pos
  obtain small | large := Nat.lt_or_ge rank format.binade
  · exact ⟨0, rank, ⟨by omega, .inl rfl, by omega⟩, by omega⟩
  · have rest := Nat.mod_lt rank positive
    obtain ⟨shift, shifted⟩ : ∃ shift, rank / format.binade = shift + 1 :=
      Nat.exists_eq_add_of_le' ((Nat.one_le_div_iff positive).mpr large)
    have rank_eq := Nat.div_add_mod rank format.binade
    rw [shifted, Nat.mul_add_one, Nat.mul_comm, Nat.add_assoc] at rank_eq
    exact ⟨shift, _, ⟨rank_eq.symm, .inr (by omega), by omega⟩, by omega⟩

variable {rank shift whole : Nat}

variable {format} in
theorem Splits.quanta_eq (split : format.Splits rank shift whole) :
    format.quanta rank = whole * Nat.pow 2 shift := by
  obtain ⟨rfl, leading, whole_le⟩ := split
  have positive := format.binade_pos
  rcases Nat.lt_or_ge whole format.binade with missing | present
  · obtain rfl : shift = 0 := leading.resolve_right (by omega)
    simp [quanta, missing]
  have large : ¬shift * format.binade + whole < format.binade := by omega
  have exponent :
      (shift * format.binade + whole) / format.binade = shift + whole / format.binade := by
    rw [Nat.mul_comm, Nat.mul_add_div positive]
  rw [quanta, if_neg large, Nat.mul_add_mod_self_right, exponent]
  rcases Nat.lt_or_eq_of_le whole_le with fraction | full
  · have one : whole / format.binade = 1 := Nat.div_eq_of_lt_le (by omega) (by omega)
    have fraction := Nat.div_add_mod whole format.binade
    rw [one, Nat.mul_one] at fraction
    rw [one, fraction, Nat.add_sub_cancel]
  · rw [full, Nat.mul_mod_left, Nat.mul_div_cancel _ positive]
    change (format.binade + 0) * 2 ^ (shift + 1) = 2 * format.binade * 2 ^ shift
    ring

variable {format} in
/-- The next rank has one more in its fraction, and a full one begins the next exponent. -/
theorem Splits.succ (split : format.Splits rank shift whole)
    (whole_lt : whole < 2 * format.binade) : format.Splits (rank + 1) shift (whole + 1) where
  rank_eq := by rw [split.rank_eq, Nat.add_assoc]
  leading := split.leading.imp_right Nat.le_succ_of_le
  whole_le := whole_lt

theorem quanta_lt_succ (rank : Nat) : format.quanta rank < format.quanta (rank + 1) := by
  obtain ⟨shift, whole, split, whole_lt⟩ := format.exists_splits rank
  rw [split.quanta_eq, (split.succ whole_lt).quanta_eq]
  exact Nat.mul_lt_mul_of_pos_right (Nat.lt_succ_self whole) (Nat.two_pow_pos shift)

/-- Ranks are in the order of the numbers. -/
theorem quanta_strictMono : StrictMono format.quanta :=
  strictMono_nat_of_lt_succ format.quanta_lt_succ

/-- The points half-way below and above a rank lie on either side of it. -/
theorem bounds_around (rank : Nat) :
    (format.bounds rank).1 ≤ 2 * format.quanta rank ∧
      2 * format.quanta rank < (format.bounds rank).2 := by
  have below := format.quanta_strictMono.monotone (Nat.sub_le rank 1)
  have above := format.quanta_lt_succ rank
  simp only [bounds]
  omega

/-- The half-way points of different ranks do not cross. -/
theorem bounds_apart {low high : Nat} (apart : low < high) :
    (format.bounds low).2 ≤ (format.bounds high).1 := by
  have monotone := format.quanta_strictMono.monotone
  have near : format.quanta low ≤ format.quanta (high - 1) := monotone (by omega)
  have far : format.quanta (low + 1) ≤ format.quanta high := monotone (by omega)
  simp only [bounds]
  omega

variable {format} {numerator denominator : Nat}

theorem RoundsTo.not_lt {low high : Nat} (positive : 0 < denominator)
    (first : format.RoundsTo numerator denominator low)
    (second : format.RoundsTo numerator denominator high) : ¬low < high := by
  intro apart
  have crossed : (format.bounds low).2 * denominator ≤ (format.bounds high).1 * denominator :=
    Nat.mul_le_mul_right _ (format.bounds_apart apart)
  have := first.le_high
  have := second.low_le
  have even := first.even (.inr (by omega))
  have even' := second.even (.inl (by omega))
  have same : (format.bounds low).2 = (format.bounds high).1 :=
    Nat.eq_of_mul_eq_mul_right positive (by omega)
  -- Two even ranks have another between them.
  have strict := format.quanta_strictMono
  have near : format.quanta low < format.quanta (high - 1) := strict (by omega)
  have far : format.quanta (low + 1) < format.quanta high := strict (by omega)
  simp only [bounds] at same
  omega

theorem RoundsTo.unique {first second : Nat} (positive : 0 < denominator)
    (one : format.RoundsTo numerator denominator first)
    (other : format.RoundsTo numerator denominator second) : first = second :=
  Nat.le_antisymm (Nat.le_of_not_lt (other.not_lt positive one))
    (Nat.le_of_not_lt (one.not_lt positive other))

/-- Of two neighbouring ranks the half-way point decides. -/
theorem roundsTo_of_between (positive : 0 < denominator)
    (low : format.quanta rank * denominator ≤ numerator)
    (high : numerator < format.quanta (rank + 1) * denominator) :
    format.RoundsTo numerator denominator
      (if (format.bounds rank).2 * denominator < 2 * numerator ∨
          (2 * numerator = (format.bounds rank).2 * denominator ∧ rank % 2 = 1)
        then rank + 1 else rank) := by
  have shared : (format.bounds (rank + 1)).1 = (format.bounds rank).2 := rfl
  split
  · rename_i above
    have beyond : 2 * format.quanta (rank + 1) * denominator <
        (format.bounds (rank + 1)).2 * denominator :=
      Nat.mul_lt_mul_of_pos_right (format.bounds_around (rank + 1)).2 positive
    rw [Nat.mul_assoc] at beyond
    refine ⟨by rw [shared]; omega, by omega, ?_⟩
    rintro (half | half)
    · rw [shared] at half
      omega
    · omega
  · rename_i below
    have before : (format.bounds rank).1 * denominator ≤ 2 * format.quanta rank * denominator :=
      Nat.mul_le_mul_right _ (format.bounds_around rank).1
    rw [Nat.mul_assoc] at before
    refine ⟨by omega, by omega, ?_⟩
    rintro (half | half)
    · obtain rfl | positiveRank := Nat.eq_zero_or_pos rank
      · rfl
      · have step := format.quanta_strictMono (Nat.sub_lt positiveRank Nat.one_pos)
        have strict : (format.bounds rank).1 * denominator < 2 * format.quanta rank * denominator :=
          Nat.mul_lt_mul_of_pos_right (by simp only [bounds]; omega) positive
        rw [Nat.mul_assoc] at strict
        omega
    · omega

/-- The shift of rounding brings the quotient to the width of a fraction. -/
theorem splits_of_quotient (quotient : Nat) :
    let shift := quotient.log2 - format.fractionBits
    let whole := quotient / 2 ^ shift
    format.Splits (shift * format.binade + whole) shift whole ∧ whole < 2 * format.binade := by
  intro shift whole
  have upper : quotient < 2 ^ (quotient.log2 + 1) := Nat.lt_log2_self
  have whole_lt : whole < 2 * format.binade := by
    rw [two_mul_binade, Nat.div_lt_iff_lt_mul (Nat.two_pow_pos shift), ← Nat.pow_add]
    exact Nat.lt_of_lt_of_le upper (Nat.pow_le_pow_right (by decide) (by omega))
  refine ⟨⟨rfl, ?_, Nat.le_of_lt whole_lt⟩, whole_lt⟩
  obtain zero | shifted := Nat.eq_zero_or_pos shift
  · exact .inl zero
  · right
    have nonzero : quotient ≠ 0 := by
      rintro rfl
      simp [shift] at shifted
    rw [Nat.le_div_iff_mul_le (Nat.two_pow_pos shift)]
    calc format.binade * 2 ^ shift = 2 ^ (format.fractionBits + shift) := (Nat.pow_add ..).symm
      _ ≤ 2 ^ quotient.log2 := Nat.pow_le_pow_right (by decide) (by omega)
      _ ≤ quotient := Nat.log2_self_le nonzero

/-- What a quotient has beyond the whole steps of a rank decides whether it is
carried into the next rank. -/
theorem roundsTo_of_rest {rest step : Nat} (positive : 0 < denominator)
    (split : format.Splits rank shift whole) (whole_lt : whole < 2 * format.binade)
    (step_eq : step = denominator * 2 ^ shift) (divided : step * whole + rest = numerator)
    (rest_lt : rest < step) :
    format.RoundsTo numerator denominator
      (rank + if step < 2 * rest ∨ (2 * rest = step ∧ whole % 2 = 1) then 1 else 0) := by
  have here : format.quanta rank * denominator = step * whole := by
    rw [split.quanta_eq, step_eq]
    change whole * 2 ^ shift * denominator = _
    ring
  have above : format.quanta (rank + 1) * denominator = step * whole + step := by
    rw [(split.succ whole_lt).quanta_eq, step_eq]
    change (whole + 1) * 2 ^ shift * denominator = _
    ring
  have half : (format.bounds rank).2 * denominator = 2 * (step * whole) + step := by
    change (format.quanta rank + format.quanta (rank + 1)) * denominator = _
    rw [Nat.add_mul, here, above]
    ring
  have parity : rank % 2 = whole % 2 := by
    obtain ⟨half, even⟩ : 2 ∣ shift * format.binade := format.two_dvd_binade.mul_left shift
    have := split.rank_eq
    omega
  have low : format.quanta rank * denominator ≤ numerator := by omega
  have high : numerator < format.quanta (rank + 1) * denominator := by omega
  have nearest := roundsTo_of_between positive low high
  rw [half, parity] at nearest
  convert nearest using 1
  split <;> split <;> omega

theorem roundsTo_nearestRank (positive : 0 < denominator) :
    format.RoundsTo numerator denominator (format.nearestRank numerator denominator) := by
  obtain ⟨split, whole_lt⟩ := format.splits_of_quotient (numerator / denominator)
  rw [Nat.div_div_eq_div_mul] at split whole_lt
  exact roundsTo_of_rest positive split whole_lt rfl (Nat.div_add_mod ..)
    (Nat.mod_lt _ (Nat.mul_pos positive (Nat.two_pow_pos _)))

/-- Rounding finds the rank between whose half-way points a quotient lies. -/
theorem nearestRank_eq_iff (positive : 0 < denominator) :
    format.nearestRank numerator denominator = rank ↔
      format.RoundsTo numerator denominator rank := by
  have nearest : format.RoundsTo numerator denominator _ := roundsTo_nearestRank positive
  constructor
  · rintro rfl
    exact nearest
  · exact nearest.unique positive

/-- Only the quotient counts. -/
theorem RoundsTo.of_same_quotient {other otherDenominator : Nat} (positive : 0 < denominator)
    (otherPositive : 0 < otherDenominator)
    (same : numerator * otherDenominator = other * denominator)
    (rounds : format.RoundsTo numerator denominator rank) :
    format.RoundsTo other otherDenominator rank := by
  have scaled (point : Nat) : point * denominator * otherDenominator =
      point * otherDenominator * denominator := by ring
  have shared : 2 * numerator * otherDenominator = 2 * other * denominator := by
    rw [Nat.mul_assoc, same, Nat.mul_assoc]
  have le_iff (point : Nat) :
      point * otherDenominator ≤ 2 * other ↔ point * denominator ≤ 2 * numerator := by
    rw [← Nat.mul_le_mul_right_iff positive, ← scaled, ← shared,
      Nat.mul_le_mul_right_iff otherPositive]
  have ge_iff (point : Nat) :
      2 * other ≤ point * otherDenominator ↔ 2 * numerator ≤ point * denominator := by
    rw [← Nat.mul_le_mul_right_iff positive, ← scaled, ← shared,
      Nat.mul_le_mul_right_iff otherPositive]
  refine ⟨(le_iff _).mpr rounds.low_le, (ge_iff _).mpr rounds.le_high, fun half => rounds.even ?_⟩
  simpa only [Nat.le_antisymm_iff, le_iff, ge_iff] using half

/-- What is a number already is rounded to it. -/
theorem roundsTo_quanta (positive : 0 < denominator) :
    format.RoundsTo (format.quanta rank * denominator) denominator rank := by
  have here := Nat.mul_lt_mul_of_pos_right (format.bounds_around rank).2 positive
  rw [Nat.mul_assoc] at here
  have nearest := roundsTo_of_between positive (Nat.le_refl _)
    (Nat.mul_lt_mul_of_pos_right (format.quanta_lt_succ rank) positive)
  rwa [if_neg (by omega)] at nearest

end Rulebook.Numeric.Format
