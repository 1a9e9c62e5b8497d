import Mathlib.Data.List.Basic
import Mathlib.Data.List.Induction
import Mathlib.Tactic.Ring
import Rulebook.Numeric.Style

/-! Laying out keeps the decimal: the numeral of a coefficient and a power of ten
stands for that decimal, and is written as numbers are. -/
namespace Rulebook.Numeric

/-- Only digits. -/
def AllDigits (chars : List Char) : Prop :=
  ∀ char ∈ chars, isDigit char = true

instance : DecidablePred AllDigits :=
  List.decidableBAll (isDigit · = true)

namespace AllDigits
variable {front back : List Char}

theorem append (first : AllDigits front) (second : AllDigits back) : AllDigits (front ++ back) :=
  List.forall_mem_append.mpr ⟨first, second⟩

theorem of_subset (all : AllDigits back) (subset : front ⊆ back) : AllDigits front :=
  fun char mem => all char (subset mem)

end AllDigits

theorem isDigit_eq (char : Char) : isDigit char = char.isDigit := by
  rw [isDigit, digitValue?, Char.isDigit, ← Bool.decide_and]
  split <;> rename_i range
  · exact (decide_eq_true range).symm
  · exact (decide_eq_false range).symm

theorem digitsValue_eq {chars : List Char} (allDigits : AllDigits chars) :
    digitsValue chars = Nat.ofDigitChars 10 chars 0 := by
  rw [digitsValue, Nat.ofDigitChars_eq_foldl]
  apply List.foldl_ext
  intro value char mem
  have digit := allDigits char mem
  simp only [isDigit, digitValue?] at digit ⊢
  split at digit
  · simp [*]
  · simp at digit

theorem digitsValue_nil : digitsValue [] = 0 := rfl

theorem digitsValue_append (front back : List Char) :
    digitsValue (front ++ back) = digitsValue front * 10 ^ back.length + digitsValue back := by
  induction back using List.reverseRecOn with
  | nil => simp [digitsValue_nil]
  | append_singleton back last ih =>
    have step (chars : List Char) : digitsValue (chars ++ [last]) =
        10 * digitsValue chars + (digitValue? last).getD 0 := by
      simp [digitsValue]
    rw [← List.append_assoc, step, step, ih, List.length_append, List.length_singleton,
      Nat.pow_succ]
    ring

theorem digitsValue_zero_cons (chars : List Char) :
    digitsValue ('0' :: chars) = digitsValue chars := rfl

namespace Numeral
variable (whole fraction : List Char) (negative : Bool)

theorem exponentValue_nil : exponentValue ⟨whole, fraction, []⟩ = 0 := rfl

theorem toDecimal_point :
    toDecimal ⟨whole, '.' :: fraction, []⟩ negative =
      ⟨negative, digitsValue (whole ++ fraction), -fraction.length⟩ := by
  simp [toDecimal, exponentValue_nil]

end Numeral

namespace Style
variable {style : Style} {coefficient : Nat} {exponent : Int}

theorem allDigits_digits (value : Nat) : AllDigits (digits value) := by
  intro char mem
  rw [isDigit_eq]
  exact Nat.isDigit_of_mem_toDigits (by decide) (by decide) mem

theorem digitsValue_digits (value : Nat) : digitsValue (digits value) = value := by
  rw [digitsValue_eq (allDigits_digits value)]
  exact Nat.ofDigitChars_ten_toDigits

theorem exponentValue_exponentText (whole fraction : List Char) :
    Numeral.exponentValue ⟨whole, fraction, style.exponentText exponent⟩ = exponent := by
  have value := digitsValue_digits exponent.natAbs
  simp only [Numeral.exponentValue, exponentText, List.drop_succ_cons, List.drop_zero, exponentSign]
  split_ifs with negative plus
  · simp only [List.cons_append, List.nil_append, value]
    omega
  · simp only [List.cons_append, List.nil_append, value]
    omega
  · rw [List.nil_append]
    have unsigned := allDigits_digits exponent.natAbs
    split
    · rename_i rest written
      rw [written] at unsigned
      exact absurd (unsigned '-' (List.mem_cons_self ..)) (by decide)
    · rename_i rest written
      rw [written] at unsigned
      exact absurd (unsigned '+' (List.mem_cons_self ..)) (by decide)
    · omega

theorem length_zeros (count : Nat) : (zeros count).length = count :=
  List.length_replicate

theorem digitsValue_zeros (count : Nat) : digitsValue (zeros count) = 0 := by
  induction count with
  | zero => rfl
  | succ count ih => exact ih

/-- The numeral laid out stands for the coefficient times the power of ten,
written out when the point is behind all digits. -/
theorem toDecimal_layOut (style : Style) (coefficient : Nat) (exponent : Int) (negative : Bool) :
    (style.layOut coefficient exponent).toDecimal negative = ⟨negative, coefficient, exponent⟩ ∨
      0 ≤ exponent ∧ (style.layOut coefficient exponent).toDecimal negative =
        if style.wholePoint then ⟨negative, coefficient * 10 ^ exponent.toNat * 10, -1⟩
        else ⟨negative, coefficient * 10 ^ exponent.toNat, 0⟩ := by
  have value := digitsValue_digits coefficient
  have count : 0 < (digits coefficient).length := Nat.length_toDigits_pos
  simp only [layOut]
  split
  · split
    · rename_i whole
      refine .inr ⟨whole, ?_⟩
      cases point : style.wholePoint <;>
        simp [Numeral.toDecimal, Numeral.exponentValue_nil, wholeMark, point, value,
          digitsValue_append, digitsValue_zeros, digitsValue_zero_cons, digitsValue_nil,
          length_zeros, Nat.pow_succ, Nat.mul_assoc]
    · left
      split
      · rw [Numeral.toDecimal_point, List.take_append_drop, value, List.length_drop]
        congr 1
        omega
      · rw [Numeral.toDecimal_point, List.singleton_append, digitsValue_zero_cons,
          digitsValue_append, digitsValue_zeros, Nat.zero_mul, Nat.zero_add, value,
          List.length_append, length_zeros]
        congr 1
        omega
  · left
    split
    · rename_i none
      simp [none] at count
    · rename_i first one
      rw [one] at value
      simp [Numeral.toDecimal, exponentValue_exponentText, one, value]
    · rename_i first rest _ several
      have counted : (digits coefficient).length = rest.length + 1 := by
        rw [several, List.length_cons]
      rw [several] at value
      simp only [Numeral.toDecimal, exponentValue_exponentText, List.drop_succ_cons, List.drop_zero,
        List.singleton_append, value, List.length_cons, Nat.add_sub_cancel]
      congr 1
      omega

theorem head?_digits {value : Nat} (positive : 0 < value) :
    (digits value).head? ≠ some '0' := by
  induction value using Nat.strongRecOn with
  | _ value ih =>
    rw [digits, Nat.toDigits_eq_if (by decide)]
    split
    · rename_i small
      simp only [List.head?_cons, ne_eq, Option.some.injEq, Nat.digitChar_eq_zero]
      omega
    · rename_i large
      rw [List.head?_append_of_ne_nil _ Nat.toDigits_ne_nil]
      exact ih (value / 10) (by omega) (by omega)

end Style

/-- A numeral is written as a number: digits without a needless zero in front,
a point with digits behind it, if there is one, and likewise an exponent. -/
structure Numeral.WellFormed (numeral : Numeral) : Prop where
  whole_digits : AllDigits numeral.whole
  whole_ne_nil : numeral.whole ≠ []
  zero_alone : numeral.whole.head? = some '0' → numeral.whole = ['0']
  fraction : numeral.fraction = [] ∨
    ∃ digits, numeral.fraction = '.' :: digits ∧ digits ≠ [] ∧ AllDigits digits
  exponent : numeral.exponent = [] ∨
    ∃ sign digits, numeral.exponent = 'e' :: (sign ++ digits) ∧ sign ∈ [[], ['+'], ['-']] ∧
      digits ≠ [] ∧ AllDigits digits

namespace Style
variable {style : Style} {coefficient : Nat} {exponent : Int}

theorem wellFormed_digits (value : Nat) : Numeral.WellFormed ⟨digits value, [], []⟩ where
  whole_digits := allDigits_digits value
  whole_ne_nil := Nat.toDigits_ne_nil
  zero_alone first := by
    obtain rfl | positive := Nat.eq_zero_or_pos value
    · rfl
    · exact absurd first (head?_digits positive)
  fraction := .inl rfl
  exponent := .inl rfl

theorem exponentText_cases (style : Style) (exponent : Int) :
    ∃ sign digits, style.exponentText exponent = 'e' :: (sign ++ digits) ∧
      sign ∈ [[], ['+'], ['-']] ∧ digits ≠ [] ∧ AllDigits digits := by
  refine ⟨_, _, rfl, ?_, Nat.toDigits_ne_nil, allDigits_digits _⟩
  rw [exponentSign]
  split_ifs <;> simp

theorem allDigits_zeros (count : Nat) : AllDigits (zeros count) := by
  intro char mem
  rw [List.eq_of_mem_replicate mem]
  rfl

theorem wholeMark_cases (style : Style) :
    style.wholeMark = [] ∨
      ∃ digits, style.wholeMark = '.' :: digits ∧ digits ≠ [] ∧ AllDigits digits := by
  rw [wholeMark]
  split
  · exact .inr ⟨['0'], rfl, by simp, allDigits_zeros 1⟩
  · exact .inl rfl

theorem wellFormed_layOut (positive : 0 < coefficient) :
    (style.layOut coefficient exponent).WellFormed := by
  have all := allDigits_digits coefficient
  have first := head?_digits positive
  have nonempty : digits coefficient ≠ [] := Nat.toDigits_ne_nil
  simp only [layOut]
  split
  · split
    · refine ⟨all.append (allDigits_zeros _), by simp [nonempty], fun zero => ?_,
        style.wholeMark_cases, .inl rfl⟩
      rw [List.head?_append_of_ne_nil _ nonempty] at zero
      exact absurd zero first
    · split
      · refine ⟨all.of_subset (List.take_subset _ _), ?_, fun zero => ?_,
          .inr ⟨_, rfl, ?_, all.of_subset (List.drop_subset _ _)⟩, .inl rfl⟩
        · simp only [ne_eq, List.take_eq_nil_iff, nonempty, or_false]
          omega
        · rw [List.head?_take] at zero
          split at zero
          · cases zero
          · exact absurd zero first
        · rw [ne_eq, List.drop_eq_nil_iff]
          omega
      · exact ⟨allDigits_zeros 1, by simp, fun _ => rfl,
          .inr ⟨_, rfl, by simp [nonempty], (allDigits_zeros _).append all⟩, .inl rfl⟩
  · split
    · rename_i none
      exact absurd none nonempty
    · exact ⟨all, nonempty, fun zero => absurd zero first, .inl rfl,
        .inr (style.exponentText_cases _)⟩
    · rename_i head rest several written
      rw [written] at all first
      exact ⟨all.of_subset (by simp), by simp, fun zero => absurd zero first,
        .inr ⟨_, rfl, several, all.of_subset (by simp)⟩, .inr (style.exponentText_cases _)⟩

end Style

end Rulebook.Numeric
