import Rulebook.Proofs.Script.Lexemes

/-! The walk of the lexer through a text. What it finds is a chain of lexemes with blanks
between them, and where it gives up there is neither a blank nor a lexeme. -/
namespace Rulebook.Script.Lexer

/-! Byte positions. -/

theorem byteLength_nil : byteLength [] = 0 := rfl

theorem byteLength_cons (first : Char) (rest : List Char) :
    byteLength (first :: rest) = first.utf8Size + byteLength rest := rfl

theorem byteLength_append (front back : List Char) :
    byteLength (front ++ back) = byteLength front + byteLength back := by
  induction front with
  | nil => exact (Nat.zero_add _).symm
  | cons first front ih =>
    rw [List.cons_append, byteLength_cons, byteLength_cons, ih, Nat.add_assoc]

theorem utf8ByteSize_ofList (text : List Char) :
    (String.ofList text).utf8ByteSize = byteLength text := by
  induction text with
  | nil => rfl
  | cons first rest ih =>
    rw [String.ofList_cons, String.utf8ByteSize_append, String.utf8ByteSize_singleton, ih,
      byteLength_cons]

theorem byteLength_toList (text : String) : byteLength text.toList = text.utf8ByteSize := by
  rw [← utf8ByteSize_ofList, String.ofList_toList]

theorem length_le_byteLength (text : List Char) : text.length ≤ byteLength text := by
  induction text with
  | nil => exact Nat.le_refl 0
  | cons first rest ih =>
    have positive := first.utf8Size_pos
    rw [byteLength_cons, List.length_cons]
    omega

theorem byteLength_eq_zero_iff {text : List Char} : byteLength text = 0 ↔ text = [] := by
  constructor
  · intro zero
    have short := length_le_byteLength text
    exact List.eq_nil_of_length_eq_zero (by omega)
  · rintro rfl
    rfl

/-! The walk. -/

/-- From a place of the source on, these are the tokens found up to a place behind it. -/
inductive Finds : Nat → List Char → List Located → Nat → List Char → Prop where
  | here (position : Nat) (input : List Char) : Finds position input [] position input
  | blank (blank : isBlank first = true)
      (further : Finds (position + first.utf8Size) rest found stop left) :
      Finds position (first :: rest) found stop left
  | token {tail : List Char} (lexeme : Lexeme first (tail ++ rest) token tail)
      (further : Finds (position + byteLength (first :: tail)) rest found stop left) :
      Finds position (first :: (tail ++ rest))
        (⟨token, position, position + byteLength (first :: tail)⟩ :: found) stop left

variable {first : Char} {rest left input : List Char} {token : Token} {found : List Located}
  {position stop : Nat}

/-- Nothing can be read at a place: there is neither a blank nor a lexeme. -/
structure Stuck (first : Char) (rest : List Char) : Prop where
  noBlank : isBlank first = false
  noLexeme : ∀ token tail, ¬Lexeme first rest token tail

theorem Stuck.lexeme?_eq_none (stuck : Stuck first rest) : lexeme? first rest = none := by
  cases taken : lexeme? first rest with
  | none => rfl
  | some pair => exact absurd (lexeme?_eq_some_iff.mp taken) (stuck.noLexeme pair.1 pair.2)

theorem scan_nil (position : Nat) : scan position [] = .ok [] := by
  rw [scan]

theorem scan_blank (blank : isBlank first = true) (position : Nat) (rest : List Char) :
    scan position (first :: rest) = scan (position + first.utf8Size) rest := by
  rw [scan, if_pos blank]

theorem scan_blanks {gap : List Char} (blanks : Blanks gap) (position : Nat) (rest : List Char) :
    scan position (gap ++ rest) = scan (position + byteLength gap) rest := by
  induction gap generalizing position with
  | nil => rfl
  | cons first gap ih =>
    obtain ⟨blank, others⟩ := List.forall_mem_cons.mp blanks
    rw [List.cons_append, scan_blank ((isBlank_iff first).mpr blank), ih others, byteLength_cons,
      Nat.add_assoc]

theorem scan_lexeme {tail : List Char} (lexeme : Lexeme first (tail ++ rest) token tail)
    (position : Nat) :
    scan position (first :: (tail ++ rest)) =
      (scan (position + byteLength (first :: tail)) rest).map fun found =>
        ⟨token, position, position + byteLength (first :: tail)⟩ :: found := by
  rw [scan, if_neg (by simp [lexeme.noBlank])]
  simp only [lexeme?_eq_some_iff.mpr lexeme, List.drop_left, byteLength_cons, Nat.add_assoc]
  cases scan (position + (first.utf8Size + byteLength tail)) rest <;> rfl

theorem scan_stuck (stuck : Stuck first rest) (position : Nat) :
    scan position (first :: rest) = .error (.invalidToken position) := by
  rw [scan, if_neg (by simp [stuck.noBlank])]
  simp only [stuck.lexeme?_eq_none]

theorem Finds.scan_eq (finds : Finds position input found stop left) :
    scan position input = (scan stop left).map (found ++ ·) := by
  induction finds with
  | here position input => cases scan position input <;> rfl
  | blank blank further ih => rw [scan_blank blank, ih]
  | @token _ _ _ _ _ stop left _ lexeme further ih =>
    rw [scan_lexeme lexeme, ih]
    cases scan stop left <;> rfl

/-- The walk gets to the end of the text or to a place where it is stuck. -/
theorem exists_finds (position : Nat) (input : List Char) :
    ∃ found stop left, Finds position input found stop left ∧
      (left = [] ∨ ∃ first rest, left = first :: rest ∧ Stuck first rest) := by
  match input with
  | [] => exact ⟨[], position, [], .here position [], .inl rfl⟩
  | first :: rest =>
    cases noBlank : isBlank first with
    | true =>
      obtain ⟨found, stop, left, further, ending⟩ := exists_finds (position + first.utf8Size) rest
      exact ⟨found, stop, left, .blank noBlank further, ending⟩
    | false =>
      by_cases some : ∃ token tail, Lexeme first rest token tail
      · obtain ⟨token, tail, lexeme⟩ := some
        obtain ⟨behind, split⟩ := lexeme.isPrefix
        have shorter : behind.length ≤ rest.length := by simp [← split]
        rw [← split] at lexeme ⊢
        obtain ⟨found, stop, left, further, ending⟩ :=
          exists_finds (position + byteLength (first :: tail)) behind
        exact ⟨_, stop, left, .token lexeme further, ending⟩
      · have stuck : Stuck first rest :=
          ⟨noBlank, fun token tail lexeme => some ⟨token, tail, lexeme⟩⟩
        exact ⟨[], position, _, .here position _, .inr ⟨first, rest, rfl, stuck⟩⟩
termination_by input.length
decreasing_by all_goals simp only [List.length_cons]; omega

theorem Finds.byteLength_eq (finds : Finds position input found stop left) :
    position + byteLength input = stop + byteLength left := by
  induction finds with
  | here => rfl
  | blank blank further ih =>
    rw [byteLength_cons]
    omega
  | token lexeme further ih =>
    rw [← List.cons_append, byteLength_append]
    omega

/-- Every token takes up a byte at least. -/
theorem Finds.length_le (finds : Finds position input found stop left) :
    position + found.length ≤ stop := by
  induction finds with
  | here => exact Nat.le_refl _
  | blank blank further ih => omega
  | @token first rest _ _ _ _ _ tail lexeme further ih =>
    have positive := first.utf8Size_pos
    rw [byteLength_cons] at ih
    rw [List.length_cons]
    omega

/-- The tokens of a text are those that the walk finds up to its end. -/
theorem scan_eq_ok_iff :
    scan position input = .ok found ↔ ∃ stop, Finds position input found stop [] := by
  constructor
  · intro scanned
    obtain ⟨found', stop, left, finds, rfl | ⟨first, rest, rfl, stuck⟩⟩ :=
      exists_finds position input
    · rw [finds.scan_eq, scan_nil] at scanned
      obtain rfl : found' ++ [] = found := Except.ok.inj scanned
      exact ⟨stop, (List.append_nil found').symm ▸ finds⟩
    · rw [finds.scan_eq, scan_stuck stuck] at scanned
      cases scanned
  · rintro ⟨stop, finds⟩
    rw [finds.scan_eq, scan_nil]
    exact congrArg Except.ok (List.append_nil found)

/-- The text has no tokens where the walk gets stuck, and that is the place reported. -/
theorem scan_eq_error_iff {error : EvalError} :
    scan position input = .error error ↔ ∃ found stop first rest,
      Finds position input found stop (first :: rest) ∧ Stuck first rest ∧
        error = .invalidToken stop := by
  constructor
  · intro scanned
    obtain ⟨found, stop, left, finds, rfl | ⟨first, rest, rfl, stuck⟩⟩ :=
      exists_finds position input
    · rw [finds.scan_eq, scan_nil] at scanned
      cases scanned
    · rw [finds.scan_eq, scan_stuck stuck] at scanned
      cases scanned
      exact ⟨found, stop, first, rest, finds, stuck, rfl⟩
  · rintro ⟨found, stop, first, rest, finds, stuck, rfl⟩
    rw [finds.scan_eq, scan_stuck stuck]
    rfl

end Rulebook.Script.Lexer
