import Rulebook.Proofs.Numeric.WholeNumbers

/-! The exact value of a number, as a count of quanta, and what whole numbers are made
of it. Rounding a quotient never crosses a number of the format, so a quotient of
numbers that are short enough has the same whole part before and after; and numbers
too large for that are beyond all integers of 32 bits, to which they are cut anyway. -/
namespace Rulebook.Numeric

namespace Format
variable {format : Format} {numerator denominator rank : Nat}

/-- A quotient at or above a number of the format is not rounded below it. -/
theorem le_nearestRank (positive : 0 < denominator)
    (above : format.quanta rank * denominator ≤ numerator) :
    rank ≤ format.nearestRank numerator denominator := by
  have rounds : format.RoundsTo numerator denominator _ := roundsTo_nearestRank positive
  have le_high := rounds.le_high
  by_contra! under
  have near := format.quanta_strictMono under
  have next : format.quanta (format.nearestRank numerator denominator + 1) ≤ format.quanta rank :=
    format.quanta_strictMono.monotone under
  have crossed : (format.bounds (format.nearestRank numerator denominator)).2 * denominator <
      2 * format.quanta rank * denominator :=
    Nat.mul_lt_mul_of_pos_right (by simp only [bounds]; omega) positive
  rw [Nat.mul_assoc] at crossed
  omega

/-- A quotient at or below a number of the format is not rounded above it. -/
theorem nearestRank_le (positive : 0 < denominator)
    (below : numerator ≤ format.quanta rank * denominator) :
    format.nearestRank numerator denominator ≤ rank := by
  have rounds : format.RoundsTo numerator denominator _ := roundsTo_nearestRank positive
  have low_le := rounds.low_le
  by_contra! beyond
  have near := format.quanta_strictMono beyond
  have last : format.quanta rank ≤ format.quanta (format.nearestRank numerator denominator - 1) :=
    format.quanta_strictMono.monotone (by omega)
  have crossed : 2 * format.quanta rank * denominator <
      (format.bounds (format.nearestRank numerator denominator)).1 * denominator :=
    Nat.mul_lt_mul_of_pos_right (by simp only [bounds]; omega) positive
  rw [Nat.mul_assoc] at crossed
  omega

theorem binade_le_unit (format : Format) : format.binade ≤ format.unit :=
  Nat.pow_le_pow_right (by decide) (Nat.le_add_left ..)

variable (format) in
/-- The next number is not further away than the fraction resolves, or than a quantum. -/
theorem exists_gap (rank : Nat) :
    ∃ gap, format.quanta (rank + 1) = format.quanta rank + gap ∧
      gap * format.binade ≤ max (format.quanta rank) format.binade := by
  obtain ⟨shift, whole, split, whole_lt⟩ := format.exists_splits rank
  have here := split.quanta_eq
  have next := (split.succ whole_lt).quanta_eq
  refine ⟨Nat.pow 2 shift, by rw [next, here, Nat.add_one_mul], ?_⟩
  obtain rfl | leading := split.leading
  · exact (Nat.one_mul _).trans_le (Nat.le_max_right ..)
  · rw [here, Nat.mul_comm]
    exact (Nat.mul_le_mul_right _ leading).trans (Nat.le_max_left ..)

/-- A number with a whole part that fills the fraction has no other part. -/
theorem unit_dvd_quanta (large : format.binade * format.unit ≤ format.quanta rank) :
    format.unit ∣ format.quanta rank := by
  obtain ⟨shift, whole, split, whole_lt⟩ := format.exists_splits rank
  rw [split.quanta_eq] at large ⊢
  refine Dvd.dvd.mul_left (Nat.pow_dvd_pow 2 ?_) whole
  have filled : format.binade * format.unit < format.binade * 2 ^ (shift + 1) :=
    calc format.binade * format.unit ≤ whole * 2 ^ shift := large
      _ < 2 * format.binade * 2 ^ shift := Nat.mul_lt_mul_of_pos_right whole_lt (Nat.two_pow_pos _)
      _ = format.binade * 2 ^ (shift + 1) := by ring
  exact Nat.lt_succ_iff.mp
    ((Nat.pow_lt_pow_iff_right (by decide)).mp (Nat.lt_of_mul_lt_mul_left filled))

section Quotient

variable {dividend divisor : Nat}

/-- A quotient of quanta is that of two whole numbers. -/
structure Stands (format : Format) (numerator denominator dividend divisor : Nat) : Prop where
  denominator_pos : 0 < denominator
  divisor_pos : 0 < divisor
  same : numerator * divisor = dividend * format.unit * denominator

/-- Whole numbers are left on the side of the quotient on which they are. -/
theorem Stands.le_numerator (stands : format.Stands numerator denominator dividend divisor)
    {value : Nat} (below : value * divisor ≤ dividend) :
    value * format.unit * denominator ≤ numerator := by
  refine Nat.le_of_mul_le_mul_right ?_ stands.divisor_pos
  calc value * format.unit * denominator * divisor
      = value * divisor * (format.unit * denominator) := by ring
    _ ≤ dividend * (format.unit * denominator) := Nat.mul_le_mul_right _ below
    _ = numerator * divisor := by rw [stands.same, Nat.mul_assoc]

theorem Stands.numerator_le (stands : format.Stands numerator denominator dividend divisor)
    {value : Nat} (above : dividend ≤ value * divisor) :
    numerator ≤ value * format.unit * denominator := by
  refine Nat.le_of_mul_le_mul_right ?_ stands.divisor_pos
  calc numerator * divisor = dividend * (format.unit * denominator) := by
        rw [stands.same, Nat.mul_assoc]
    _ ≤ value * divisor * (format.unit * denominator) := Nat.mul_le_mul_right _ above
    _ = value * format.unit * denominator * divisor := by ring

/-- What is not below a whole number is not rounded below it, not even by infinity. -/
theorem Stands.le_quanta (stands : format.Stands numerator denominator dividend divisor)
    (reaches : format.Reaches) {value : Nat} (small : value < 2 * format.binade)
    (below : value * divisor ≤ dividend) :
    value * format.unit ≤
      format.quanta (min (format.nearestRank numerator denominator) format.infinityRank) := by
  obtain ⟨rank, finite, exact⟩ := reaches.exists_rank small
  have kept : rank ≤ format.nearestRank numerator denominator := by
    refine le_nearestRank stands.denominator_pos ?_
    rw [exact]
    exact stands.le_numerator below
  rw [← exact]
  exact format.quanta_strictMono.monotone (Nat.le_min.mpr ⟨kept, finite.le⟩)

/-- A quotient below the next whole number is too far from it to be rounded up to it:
the two are apart by a part of the divisor, numbers of the format by much less. -/
theorem Stands.quanta_lt (stands : format.Stands numerator denominator dividend divisor)
    {value : Nat} (exact : format.quanta rank = value * format.unit)
    (below : dividend < value * divisor) (small : value * divisor < 2 * format.binade) :
    format.nearestRank numerator denominator < rank := by
  obtain ⟨denominator_pos, divisor_pos, same⟩ := stands
  have unit_pos := format.unit_pos
  have value_pos : 0 < value := Nat.pos_of_mul_pos_right (Nat.zero_lt_of_lt below)
  have at_most : format.nearestRank numerator denominator ≤ rank := by
    refine nearestRank_le denominator_pos ?_
    rw [exact]
    exact Stands.numerator_le ⟨denominator_pos, divisor_pos, same⟩ below.le
  refine Nat.lt_of_le_of_ne at_most fun reached => ?_
  have rounds : format.RoundsTo numerator denominator rank :=
    (nearestRank_eq_iff denominator_pos).mp reached
  obtain ⟨before, rfl⟩ : ∃ before, rank = before + 1 := by
    refine Nat.exists_eq_succ_of_ne_zero ?_
    rintro rfl
    rw [quanta_zero] at exact
    exact absurd exact (Nat.mul_pos value_pos unit_pos).ne
  obtain ⟨gap, apart, resolved⟩ := format.exists_gap before
  have gap_le : gap * format.binade ≤ format.quanta (before + 1) := by
    refine resolved.trans (Nat.max_le.mpr ⟨by omega, ?_⟩)
    rw [exact]
    exact format.binade_le_unit.trans (Nat.le_mul_of_pos_left _ value_pos)
  -- half a gap below the whole number is still above the quotient
  have low : 2 * (value * format.unit) * divisor ≤
      2 * (dividend * format.unit) + gap * divisor := by
    have low_le := rounds.low_le
    simp only [bounds, Nat.add_sub_cancel] at low_le
    refine Nat.le_of_mul_le_mul_right ?_ denominator_pos
    calc 2 * (value * format.unit) * divisor * denominator
        = ((format.quanta before + format.quanta (before + 1)) * denominator) * divisor +
            gap * divisor * denominator := by rw [← exact, apart]; ring
      _ ≤ 2 * numerator * divisor + gap * divisor * denominator := by gcongr
      _ = (2 * (dividend * format.unit) + gap * divisor) * denominator := by
          rw [Nat.mul_assoc 2, same]; ring
  have wide : 2 * format.unit ≤ gap * divisor := by
    have step : 2 * format.unit * (dividend + 1) ≤ 2 * format.unit * (value * divisor) :=
      Nat.mul_le_mul_left _ below
    linarith
  have crowded : 2 * format.binade ≤ value * divisor := by
    refine Nat.le_of_mul_le_mul_right ?_ unit_pos
    calc 2 * format.binade * format.unit = 2 * format.unit * format.binade := by ring
      _ ≤ gap * divisor * format.binade := Nat.mul_le_mul_right _ wide
      _ = gap * format.binade * divisor := by ring
      _ ≤ value * format.unit * divisor := Nat.mul_le_mul_right _ (exact ▸ gap_le)
      _ = value * divisor * format.unit := by ring
  omega

/-- A quotient above a whole number is too far from it to be rounded down to it. -/
theorem Stands.lt_quanta (stands : format.Stands numerator denominator dividend divisor)
    {value : Nat} (exact : format.quanta rank = value * format.unit)
    (above : value * divisor < dividend) (small : dividend + divisor < 2 * format.binade) :
    rank < format.nearestRank numerator denominator := by
  obtain ⟨denominator_pos, divisor_pos, same⟩ := stands
  have unit_pos := format.unit_pos
  have at_least : rank ≤ format.nearestRank numerator denominator := by
    refine le_nearestRank denominator_pos ?_
    rw [exact]
    exact Stands.le_numerator ⟨denominator_pos, divisor_pos, same⟩ above.le
  refine Nat.lt_of_le_of_ne at_least fun reached => ?_
  have rounds : format.RoundsTo numerator denominator rank :=
    (nearestRank_eq_iff denominator_pos).mp reached.symm
  obtain ⟨gap, apart, gap_le⟩ := format.exists_gap rank
  rw [exact] at apart gap_le
  -- half a gap above the whole number is still below the quotient
  have high : 2 * (dividend * format.unit) ≤
      2 * (value * format.unit) * divisor + gap * divisor := by
    have le_high := rounds.le_high
    simp only [bounds] at le_high
    refine Nat.le_of_mul_le_mul_right ?_ denominator_pos
    calc 2 * (dividend * format.unit) * denominator = 2 * numerator * divisor := by
          rw [Nat.mul_assoc 2, Nat.mul_assoc 2, same]
      _ ≤ (format.quanta rank + format.quanta (rank + 1)) * denominator * divisor := by gcongr
      _ = (2 * (value * format.unit) * divisor + gap * divisor) * denominator := by
          rw [apart, exact]; ring
  have wide : 2 * format.unit ≤ gap * divisor := by
    have step : 2 * format.unit * (value * divisor + 1) ≤ 2 * format.unit * dividend :=
      Nat.mul_le_mul_left _ above
    linarith
  have crowded : 2 * format.unit * format.binade ≤
      max (value * format.unit) format.binade * divisor :=
    calc 2 * format.unit * format.binade ≤ gap * divisor * format.binade :=
          Nat.mul_le_mul_right _ wide
      _ = gap * format.binade * divisor := by ring
      _ ≤ max (value * format.unit) format.binade * divisor := Nat.mul_le_mul_right _ gap_le
  obtain equal | equal := max_choice (value * format.unit) format.binade
  · have full : 2 * format.binade ≤ value * divisor := by
      refine Nat.le_of_mul_le_mul_right ?_ unit_pos
      calc 2 * format.binade * format.unit = 2 * format.unit * format.binade := by ring
        _ ≤ value * format.unit * divisor := equal ▸ crowded
        _ = value * divisor * format.unit := by ring
    omega
  · have full : 2 * format.unit ≤ divisor := by
      rw [equal, Nat.mul_comm format.binade] at crowded
      exact Nat.le_of_mul_le_mul_right crowded format.binade_pos
    have resolved := format.binade_le_unit
    omega

/-- The quotient of whole numbers that are together no longer than a fraction has the
same whole part after it is rounded. -/
theorem Stands.quanta_div (stands : format.Stands numerator denominator dividend divisor)
    (reaches : format.Reaches) (small : dividend + divisor < 2 * format.binade) :
    format.nearestRank numerator denominator < format.infinityRank ∧
      format.quanta (format.nearestRank numerator denominator) / format.unit =
        dividend / divisor := by
  have divided := Nat.div_add_mod dividend divisor
  have rest := Nat.mod_lt dividend stands.divisor_pos
  have one : 1 ≤ divisor := stands.divisor_pos
  have part : dividend / divisor ≤ dividend := Nat.div_le_self ..
  rw [Nat.mul_comm] at divided
  obtain ⟨rank, finite, exact⟩ := reaches.exists_rank (show dividend / divisor + 1 < _ by omega)
  have next : (dividend / divisor + 1) * divisor = dividend / divisor * divisor + divisor :=
    Nat.add_one_mul ..
  have under := stands.quanta_lt exact (by omega) (by omega)
  have low := stands.le_quanta reaches (show dividend / divisor < _ by omega) (by omega)
  rw [Nat.min_eq_left (under.trans finite).le] at low
  refine ⟨under.trans finite, Nat.div_eq_of_lt_le low ?_⟩
  rw [← exact]
  exact format.quanta_strictMono under

/-- The quotient of whole numbers that are together no longer than a fraction is rounded
to something between the same whole numbers, seen from above. -/
theorem Stands.between (stands : format.Stands numerator denominator dividend divisor)
    (reaches : format.Reaches) (small : dividend + divisor < 2 * format.binade) {value : Nat}
    (below : dividend ≤ value * divisor) (above : value * divisor < dividend + divisor) :
    format.quanta (format.nearestRank numerator denominator) ≤ value * format.unit ∧
      value * format.unit < format.quanta (format.nearestRank numerator denominator) +
        format.unit := by
  have unit_pos := format.unit_pos
  have at_most : value ≤ value * divisor := Nat.le_mul_of_pos_right _ stands.divisor_pos
  constructor
  · obtain ⟨rank, -, exact⟩ := reaches.exists_rank (show value < _ by omega)
    rw [← exact]
    refine format.quanta_strictMono.monotone (nearestRank_le stands.denominator_pos ?_)
    rw [exact]
    exact stands.numerator_le below
  · cases value with
    | zero => omega
    | succ before =>
      obtain ⟨rank, -, exact⟩ := reaches.exists_rank (show before < _ by omega)
      rw [Nat.add_one_mul] at above ⊢
      have beyond := format.quanta_strictMono (stands.lt_quanta exact (by omega) small)
      omega

/-- The quotient of whole numbers that are together no longer than a fraction has the
same floor after it is rounded, on either side of zero. -/
theorem Stands.floorQuotient_eq (stands : format.Stands numerator denominator dividend divisor)
    (reaches : format.Reaches) (small : dividend + divisor < 2 * format.binade) (negative : Bool) :
    floorQuotient
        (Binary.signed negative (format.quanta (format.nearestRank numerator denominator)))
        format.unit =
      floorQuotient (Binary.signed negative dividend) divisor := by
  cases negative with
  | false =>
    have whole := (stands.quanta_div reaches small).2
    simp only [floorQuotient, Binary.signed, Bool.false_eq_true, if_false]
    exact_mod_cast whole
  | true =>
    have positive : (0 : Int) < divisor := Int.natCast_pos.mpr stands.divisor_pos
    have unit_pos : (0 : Int) < format.unit := Int.natCast_pos.mpr format.unit_pos
    simp only [floorQuotient, Binary.signed, if_true]
    obtain ⟨low, high⟩ := (Int.ediv_eq_iff_of_pos (x := -(dividend : Int)) positive).mp rfl
    obtain ⟨value, same⟩ : ∃ value : Nat, -(dividend : Int) / divisor = -value := by
      refine ⟨(-(dividend : Int) / divisor).natAbs, ?_⟩
      have nonpos : -(dividend : Int) / divisor < 1 :=
        (Int.ediv_lt_iff_lt_mul positive).mpr (by omega)
      omega
    rw [same, Int.neg_mul] at low high
    rw [same, Int.ediv_eq_iff_of_pos unit_pos, Int.neg_mul]
    obtain ⟨at_most, beyond⟩ := stands.between reaches small
      (show dividend ≤ value * divisor by zify; omega)
      (show value * divisor < dividend + divisor by zify; omega)
    zify at at_most beyond
    omega
end Quotient

end Format

end Rulebook.Numeric
