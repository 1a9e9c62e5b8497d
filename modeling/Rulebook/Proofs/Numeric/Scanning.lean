import Rulebook.Proofs.Numeric.Layout

/-! Scanning takes the longest number at the start of a text. What it takes is spelled
as numbers are; whatever number the text starts with is a start of what it takes; and a
number that the text does not continue is taken as it stands. -/
namespace Rulebook.Numeric.Numeral

/-- A point and digits. -/
def IsFraction (chars : List Char) : Prop :=
  ∃ digits, chars = '.' :: digits ∧ digits ≠ [] ∧ AllDigits digits

/-- An exponent mark, perhaps a sign, and digits. -/
def IsExponent (chars : List Char) : Prop :=
  ∃ mark sign digits, chars = mark :: (sign ++ digits) ∧ mark ∈ ['e', 'E'] ∧
    sign ∈ [[], ['+'], ['-']] ∧ digits ≠ [] ∧ AllDigits digits

/-- The parts of a numeral are digits, a fraction or none, and an exponent or none. -/
structure Spelled (numeral : Numeral) : Prop where
  whole : AllDigits numeral.whole
  fraction : numeral.fraction = [] ∨ IsFraction numeral.fraction
  exponent : numeral.exponent = [] ∨ IsExponent numeral.exponent

theorem WellFormed.spelled {numeral : Numeral} (formed : numeral.WellFormed) :
    numeral.Spelled where
  whole := formed.whole_digits
  fraction := formed.fraction
  exponent := formed.exponent.imp_right fun ⟨sign, digits, written, rest⟩ =>
    ⟨'e', sign, digits, written, List.mem_cons_self, rest⟩

/-! What is taken is spelled as numbers are. -/

theorem allDigits_takeWhile (input : List Char) : AllDigits (input.takeWhile isDigit) :=
  List.all_eq_true.mp List.all_takeWhile

theorem isFraction_scanFraction (input : List Char) :
    scanFraction input = [] ∨ IsFraction (scanFraction input) := by
  unfold scanFraction
  split
  · rename_i rest
    split
    · exact .inl rfl
    · rename_i digits several
      exact .inr ⟨rest.takeWhile isDigit, rfl, several, allDigits_takeWhile rest⟩
  · exact .inl rfl

private theorem isExponent_scanExponentDigits {mark : Char} (isMark : mark ∈ ['e', 'E'])
    {sign : List Char} (isSign : sign ∈ [[], ['+'], ['-']]) (rest : List Char) :
    scanExponentDigits (mark :: sign) rest = [] ∨
      IsExponent (scanExponentDigits (mark :: sign) rest) := by
  unfold scanExponentDigits
  split
  · exact .inl rfl
  · rename_i several
    exact .inr ⟨mark, sign, _, rfl, isMark, isSign, several, allDigits_takeWhile rest⟩

theorem isExponent_scanExponent (input : List Char) :
    scanExponent input = [] ∨ IsExponent (scanExponent input) := by
  unfold scanExponent
  split
  · rename_i mark rest
    split
    · rename_i isMark
      have listed : mark ∈ ['e', 'E'] := by simpa using isMark
      split
      · exact isExponent_scanExponentDigits listed (by simp) _
      · exact isExponent_scanExponentDigits listed (by simp) _
      · exact isExponent_scanExponentDigits listed (by simp) _
    · exact .inl rfl
  · exact .inl rfl

theorem spelled_scan (input : List Char) : (scan input).Spelled where
  whole := allDigits_takeWhile input
  fraction := isFraction_scanFraction _
  exponent := isExponent_scanExponent _

/-! Digits are read on beyond the end of a part, and nothing else is. -/

variable {rest : List Char}

theorem takeWhile_append {digits : List Char} (all : AllDigits digits) (rest : List Char) :
    (digits ++ rest).takeWhile isDigit = digits ++ rest.takeWhile isDigit :=
  List.takeWhile_append_of_pos all

theorem takeWhile_eq_nil (stop : ∀ char ∈ rest.head?, isDigit char = false) :
    rest.takeWhile isDigit = [] := by
  cases rest with
  | nil => rfl
  | cons first rest => simp [stop first rfl]

theorem scanFraction_append {chars : List Char} (isFraction : IsFraction chars)
    (rest : List Char) : scanFraction (chars ++ rest) = chars ++ rest.takeWhile isDigit := by
  obtain ⟨digits, rfl, several, all⟩ := isFraction
  rw [List.cons_append, scanFraction, takeWhile_append all]
  cases digits with
  | nil => contradiction
  | cons => rfl

theorem scanFraction_eq_nil (stop : ∀ char ∈ rest.head?, char ≠ '.') : scanFraction rest = [] := by
  unfold scanFraction
  split
  · exact absurd rfl (stop '.' rfl)
  · rfl

private theorem scanExponentDigits_append {digits : List Char} (several : digits ≠ [])
    (all : AllDigits digits) (marks rest : List Char) :
    scanExponentDigits marks (digits ++ rest) =
      marks ++ (digits ++ rest.takeWhile isDigit) := by
  rw [scanExponentDigits, takeWhile_append all]
  cases digits with
  | nil => contradiction
  | cons => rfl

theorem scanExponent_append {chars : List Char} (isExponent : IsExponent chars)
    (rest : List Char) : scanExponent (chars ++ rest) = chars ++ rest.takeWhile isDigit := by
  obtain ⟨mark, sign, digits, rfl, isMark, isSign, several, all⟩ := isExponent
  have marked : mark = 'e' ∨ mark = 'E' := by simpa using isMark
  have scanned (marks : List Char) := scanExponentDigits_append several all marks rest
  simp only [List.mem_cons, List.not_mem_nil, or_false] at isSign
  obtain rfl | rfl | rfl := isSign
  · obtain ⟨first, more, rfl⟩ := List.exists_cons_of_ne_nil several
    have digit := all first (List.mem_cons_self ..)
    simp only [scanExponent, List.nil_append, List.cons_append, if_pos marked]
    split
    · rename_i plus
      cases plus
      exact absurd digit (by decide)
    · rename_i minus
      cases minus
      exact absurd digit (by decide)
    · exact scanned [mark]
  · simp [scanExponent, marked, scanned]
  · simp [scanExponent, marked, scanned]

theorem scanExponent_eq_nil (stop : ∀ char ∈ rest.head?, char ∉ ['e', 'E']) :
    scanExponent rest = [] := by
  cases rest with
  | nil => rfl
  | cons first rest =>
    have noMark := stop first rfl
    simp only [List.mem_cons, List.not_mem_nil, or_false] at noMark
    simp [scanExponent, noMark]

theorem IsFraction.head? {chars : List Char} (isFraction : IsFraction chars) (rest : List Char) :
    (chars ++ rest).head? = some '.' := by
  obtain ⟨digits, rfl, -⟩ := isFraction
  rfl

theorem IsExponent.head {chars : List Char} (isExponent : IsExponent chars) (rest : List Char) :
    ∀ char ∈ (chars ++ rest).head?, isDigit char = false ∧ char ≠ '.' := by
  obtain ⟨mark, sign, digits, rfl, isMark, -⟩ := isExponent
  rintro char ⟨rfl⟩
  simp only [List.mem_cons, List.not_mem_nil, or_false] at isMark
  obtain rfl | rfl := isMark <;> decide

/-- A text that does not go on with a number. -/
def Stops (rest : List Char) : Prop :=
  ∀ char ∈ rest.head?, isDigit char = false ∧ char ∉ ['.', 'e', 'E']

theorem stops_nil : Stops [] := nofun

namespace Spelled
variable {numeral : Numeral}

/-- Neither digits nor a fraction go on with an exponent or with what stops a number. -/
theorem exponent_head (spelled : numeral.Spelled) (stops : Stops rest) :
    ∀ char ∈ (numeral.exponent ++ rest).head?, isDigit char = false ∧ char ≠ '.' := by
  obtain missing | isExponent := spelled.exponent
  · rw [missing, List.nil_append]
    intro char mem
    obtain ⟨noDigit, noMark⟩ := stops char mem
    exact ⟨noDigit, fun point => noMark (point ▸ List.mem_cons_self ..)⟩
  · exact isExponent.head rest

/-- A number that the text does not continue is taken as it stands. -/
theorem scan_eq (spelled : numeral.Spelled) (stops : Stops rest) :
    scan (numeral.text ++ rest) = numeral := by
  have head := spelled.exponent_head stops
  have exponent : scanExponent (numeral.exponent ++ rest) = numeral.exponent := by
    obtain missing | isExponent := spelled.exponent
    · rw [missing, List.nil_append]
      exact scanExponent_eq_nil fun char mem mark =>
        (stops char mem).2 (List.mem_cons_of_mem _ mark)
    · rw [scanExponent_append isExponent, takeWhile_eq_nil fun char mem => (stops char mem).1,
        List.append_nil]
  have fraction : scanFraction (numeral.fraction ++ (numeral.exponent ++ rest)) =
      numeral.fraction := by
    obtain missing | isFraction := spelled.fraction
    · rw [missing, List.nil_append]
      exact scanFraction_eq_nil fun char mem => (head char mem).2
    · rw [scanFraction_append isFraction, takeWhile_eq_nil fun char mem => (head char mem).1,
        List.append_nil]
  have whole : (numeral.whole ++ (numeral.fraction ++ (numeral.exponent ++ rest))).takeWhile
      isDigit = numeral.whole := by
    rw [takeWhile_append spelled.whole, takeWhile_eq_nil, List.append_nil]
    obtain missing | isFraction := spelled.fraction
    · rw [missing, List.nil_append]
      exact fun char mem => (head char mem).1
    · rw [isFraction.head?]
      rintro char ⟨rfl⟩
      rfl
  simp only [scan, text, List.append_assoc, whole, List.drop_left, fraction, exponent]

end Spelled

/-- Scanning again what was taken takes all of it. -/
theorem scan_text_scan (input : List Char) : scan (scan input).text = scan input := by
  have again := (spelled_scan input).scan_eq stops_nil
  rwa [List.append_nil] at again

/-- A number that the text starts with is the start of the one taken: only its last part
can be longer. -/
theorem Spelled.text_isPrefix {numeral : Numeral} (spelled : numeral.Spelled)
    {input : List Char} (start : numeral.text <+: input) :
    numeral.text <+: (scan input).text := by
  obtain ⟨rest, rfl⟩ := start
  obtain ⟨whole, fraction, exponent⟩ := numeral
  obtain ⟨allWhole, isFraction, isExponent⟩ := spelled
  simp only at allWhole isFraction isExponent
  simp only [scan, text, List.append_assoc, takeWhile_append allWhole]
  obtain rfl | isExponent := isExponent
  · obtain rfl | isFraction := isFraction
    · exact (List.prefix_append_right_inj whole).mpr (List.nil_prefix)
    · have stop : (fraction ++ rest).takeWhile isDigit = [] :=
        takeWhile_eq_nil (by rw [isFraction.head?]; rintro char ⟨rfl⟩; rfl)
      simp only [List.nil_append, List.append_nil, stop, List.drop_left,
        scanFraction_append isFraction, List.append_assoc, List.prefix_append_right_inj]
      exact List.prefix_append _ _
  · have stopped := isExponent.head rest
    have exponentEnd := scanExponent_append isExponent rest
    obtain rfl | isFraction := isFraction
    · have stop : (exponent ++ rest).takeWhile isDigit = [] :=
        takeWhile_eq_nil fun char mem => (stopped char mem).1
      have noFraction : scanFraction (exponent ++ rest) = [] :=
        scanFraction_eq_nil fun char mem => (stopped char mem).2
      simp only [List.nil_append, List.append_nil, stop, List.drop_left, noFraction,
        List.length_nil, List.drop_zero, exponentEnd, List.prefix_append_right_inj]
      exact List.prefix_append _ _
    · have stop : (fraction ++ (exponent ++ rest)).takeWhile isDigit = [] :=
        takeWhile_eq_nil (by rw [isFraction.head?]; rintro char ⟨rfl⟩; rfl)
      have fractionEnd : scanFraction (fraction ++ (exponent ++ rest)) = fraction := by
        rw [scanFraction_append isFraction, takeWhile_eq_nil fun char mem => (stopped char mem).1,
          List.append_nil]
      simp only [List.nil_append, List.append_nil, stop, List.drop_left, fractionEnd, exponentEnd,
        List.prefix_append_right_inj]
      exact List.prefix_append _ _

/-- The more text there is, the longer the number at its start. -/
theorem text_scan_mono {piece input : List Char} (shorter : piece <+: input) :
    (scan piece).text <+: (scan input).text :=
  (spelled_scan piece).text_isPrefix ((text_scan_isPrefix piece).trans shorter)

/-- A number ends where it ends, whatever part of the text behind it is left away. -/
theorem scan_cut {chars kept after : List Char} (ends : (scan (chars ++ after)).text = chars)
    (shorter : kept <+: after) : scan (chars ++ kept) = scan (chars ++ after) := by
  have longer : chars <+: (scan (chars ++ kept)).text := by
    have start : (scan (chars ++ after)).text <+: chars ++ kept := by
      rw [ends]
      exact List.prefix_append chars kept
    have first := (spelled_scan (chars ++ after)).text_isPrefix start
    rwa [ends] at first
  have atMost := text_scan_mono ((List.prefix_append_right_inj chars).mpr shorter)
  rw [ends] at atMost
  have same : (scan (chars ++ kept)).text = (scan (chars ++ after)).text := by
    rw [ends]
    exact atMost.eq_of_length_le longer.length_le
  rw [← scan_text_scan, same, scan_text_scan]

end Rulebook.Numeric.Numeral
