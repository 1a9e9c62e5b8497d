import Rulebook.Proofs.Numeric.Scanning
import Rulebook.Script.Token.Lexer

/-! What the lexer takes at one place of a text. A lexeme is a start of the text, the more
text there is the longer it may be, and it does not depend on what follows it, apart from
words that are spelled like keywords: right before a point they are names. -/
namespace Rulebook.Script.Lexer
open Numeric

variable {first quote : Char} {piece rest tail kept after : List Char} {token : Token}

/-! Blanks. -/

/-- Spaces, tabs and line ends. -/
def Blanks (text : List Char) : Prop :=
  ∀ char ∈ text, char ∈ [' ', '\t', '\r', '\n']

instance : DecidablePred Blanks :=
  List.decidableBAll (· ∈ [' ', '\t', '\r', '\n'])

theorem isBlank_iff (char : Char) : isBlank char = true ↔ char ∈ [' ', '\t', '\r', '\n'] := by
  simp [isBlank, or_assoc]

theorem blank_cases (blank : isBlank first = true) :
    first = ' ' ∨ first = '\t' ∨ first = '\r' ∨ first = '\n' := by
  simpa [isBlank, or_assoc] using blank

/-! Names. -/

theorem ne_point_of_isNameChar (isName : isNameChar first = true) : first ≠ '.' := by
  rintro rfl
  exact absurd isName (by decide)

theorem nameTail_cons (isName : isNameChar first = true) (rest : List Char) :
    nameTail (first :: rest) = first :: nameTail rest := by
  have noPoint := ne_point_of_isNameChar isName
  rw [nameTail.eq_2 _ _ fun _ _ point _ => noPoint point, if_pos isName]

theorem nameTail_point (start : isNameStart first = true) (rest : List Char) :
    nameTail ('.' :: first :: rest) = '.' :: first :: nameTail rest := by
  rw [nameTail, if_pos start]

theorem nameTail_isPrefix (rest : List Char) : nameTail rest <+: rest := by
  fun_induction nameTail rest with
  | case1 char rest start ih =>
    exact (List.prefix_cons_inj _).mpr ((List.prefix_cons_inj _).mpr ih)
  | case2 => exact List.nil_prefix
  | case3 char rest _ isName ih => exact (List.prefix_cons_inj _).mpr ih
  | case4 => exact List.nil_prefix
  | case5 => exact List.nil_prefix

theorem nameTail_mono (shorter : piece <+: rest) : nameTail piece <+: nameTail rest := by
  fun_induction nameTail piece generalizing rest with
  | case1 char piece start ih =>
    obtain ⟨after, rfl⟩ := shorter
    rw [List.cons_append, List.cons_append, nameTail_point start]
    have longer := ih (List.prefix_append piece after)
    exact (List.prefix_cons_inj _).mpr ((List.prefix_cons_inj _).mpr longer)
  | case2 => exact List.nil_prefix
  | case3 char piece _ isName ih =>
    obtain ⟨after, rfl⟩ := shorter
    rw [List.cons_append, nameTail_cons isName]
    exact (List.prefix_cons_inj _).mpr (ih (List.prefix_append piece after))
  | case4 => exact List.nil_prefix
  | case5 => exact List.nil_prefix

theorem nameTail_nameTail (rest : List Char) : nameTail (nameTail rest) = nameTail rest := by
  fun_induction nameTail rest with
  | case1 char rest start ih => rw [nameTail_point start, ih]
  | case2 => rfl
  | case3 char rest _ isName ih => rw [nameTail_cons isName, ih]
  | case4 => rfl
  | case5 => rfl

/-- A name ends where it ends, whatever part of the text behind it is left away. -/
theorem nameTail_cut (ends : nameTail (tail ++ after) = tail) (shorter : kept <+: after) :
    nameTail (tail ++ kept) = tail := by
  have longer : nameTail (tail ++ kept) <+: tail := by
    have mono := nameTail_mono ((List.prefix_append_right_inj tail).mpr shorter)
    rwa [ends] at mono
  have whole : nameTail tail = tail := by
    have again := nameTail_nameTail (tail ++ after)
    rwa [ends] at again
  have atLeast := nameTail_mono (List.prefix_append tail kept)
  rw [whole] at atLeast
  exact longer.eq_of_length_le atLeast.length_le

/-! Texts. -/

theorem textTail?_quote (noEscape : quote ≠ '\\') (rest : List Char) :
    textTail? quote (quote :: rest) = some ([], [quote]) := by
  rw [textTail?.eq_3 _ _ _ fun _ _ escape _ => noEscape escape, if_pos rfl]

theorem textTail?_plain {char : Char} (noQuote : char ≠ quote) (noEscape : char ≠ '\\')
    (rest : List Char) :
    textTail? quote (char :: rest) =
      (textTail? quote rest).map fun (content, written) => (char :: content, char :: written) := by
  rw [textTail?.eq_3 _ _ _ fun _ _ escape _ => noEscape escape, if_neg noQuote, if_neg noEscape]

theorem textTail?_escape {char : Char} (noLineFeed : char ≠ '\n') (rest : List Char) :
    textTail? quote ('\\' :: char :: rest) = (textTail? quote rest).map fun (content, written) =>
      (unescape char :: content, '\\' :: char :: written) := by
  rw [textTail?, if_neg noLineFeed]

/-- A text literal ends at its quote, and nothing behind that matters. -/
theorem textTail?_append (noEscape : quote ≠ '\\') {content : List Char}
    (taken : textTail? quote rest = some (content, tail)) :
    tail <+: rest ∧ ∀ other, textTail? quote (tail ++ other) = some (content, tail) := by
  fun_induction textTail? quote rest generalizing content tail with
  | case1 => cases taken
  | case2 => cases taken
  | case3 char rest noLineFeed ih =>
    obtain ⟨⟨inner, written⟩, takenInner, same⟩ := Option.map_eq_some_iff.mp taken
    cases same
    obtain ⟨start, others⟩ := ih takenInner
    refine ⟨(List.prefix_cons_inj _).mpr ((List.prefix_cons_inj _).mpr start), fun other => ?_⟩
    rw [List.cons_append, List.cons_append, textTail?_escape noLineFeed, others other]
    rfl
  | case4 rest _ =>
    cases taken
    exact ⟨(List.prefix_cons_inj _).mpr List.nil_prefix, textTail?_quote noEscape⟩
  | case5 => cases taken
  | case6 char rest _ noQuote plain ih =>
    obtain ⟨⟨inner, written⟩, takenInner, same⟩ := Option.map_eq_some_iff.mp taken
    cases same
    obtain ⟨start, others⟩ := ih takenInner
    refine ⟨(List.prefix_cons_inj _).mpr start, fun other => ?_⟩
    rw [List.cons_append, textTail?_plain noQuote plain, others other]
    rfl

theorem ne_escape_of_quote (isQuote : quote = '"' ∨ quote = '\'') : quote ≠ '\\' := by
  obtain rfl | rfl := isQuote <;> decide

/-! Signs. -/

theorem sign?_isPrefix {symbol : Symbol} (taken : sign? first rest = some (symbol, tail)) :
    tail <+: rest := by
  unfold sign? at taken
  split at taken <;> cases taken <;> simp

theorem sign?_cut {symbol : Symbol} (taken : sign? first (tail ++ after) = some (symbol, tail))
    (shorter : kept <+: after) : sign? first (tail ++ kept) = some (symbol, tail) := by
  obtain ⟨left, rfl⟩ := shorter
  unfold sign? at taken ⊢
  split at taken <;> cases taken <;> cases kept <;> simp_all

theorem sign?_mono {symbol : Symbol} (taken : sign? first piece = some (symbol, tail))
    (shorter : piece <+: rest) :
    ∃ other longer, sign? first rest = some (other, longer) ∧ tail <+: longer := by
  obtain ⟨left, rfl⟩ := shorter
  unfold sign? at taken
  split at taken <;> cases taken
  case h_7 | h_8 =>
    -- a sign by itself, which an equals sign behind the piece would extend
    unfold sign?
    split <;> simp_all
  all_goals exact ⟨_, _, rfl, List.prefix_refl _⟩

/-! Words. -/

theorem spelling_of_keyword? {spelling : List Char} {symbol : Symbol}
    (found : Symbol.keyword? spelling = some symbol) : symbol.spelling.toList = spelling := by
  unfold Symbol.keyword? at found
  have same := List.find?_some found
  exact eq_of_beq same

theorem word_of_point (spelling : List Char) (point : after.head? = some '.') :
    word spelling after = .name (String.ofList spelling) := by
  obtain ⟨behind, rfl⟩ := List.head?_eq_some_iff.mp point
  rfl

theorem word_of_other {spelling : List Char} (other : Symbol.keyword? spelling = none)
    (after : List Char) : word spelling after = .name (String.ofList spelling) := by
  unfold word
  rw [other]
  split
  · rfl
  · rfl
  · contradiction

theorem word_of_keyword {spelling : List Char} {symbol : Symbol}
    (found : Symbol.keyword? spelling = some symbol) (noPoint : after.head? ≠ some '.') :
    word spelling after = .symbol symbol := by
  unfold word
  rw [found]
  split
  · exact absurd rfl noPoint
  · contradiction
  · rename_i same
    cases same
    rfl

/-- Of what is behind a word only the first character counts. -/
theorem word_congr (spelling : List Char) (same : kept.head? = after.head?) :
    word spelling kept = word spelling after := by
  by_cases point : after.head? = some '.'
  · rw [word_of_point _ point, word_of_point _ (same.trans point)]
  · cases found : Symbol.keyword? spelling with
    | none => rw [word_of_other found, word_of_other found]
    | some symbol => rw [word_of_keyword found point, word_of_keyword found (same ▸ point)]

/-- How a token is read where the text ends with its lexeme, and not with what is behind it
here. Only the point behind a word that is spelled like a keyword makes a name of it. -/
inductive Alone (after : List Char) : Token → Token → Prop where
  | same (token : Token) : Alone after token token
  | keyword (symbol : Symbol) (isKeyword : Symbol.keyword? symbol.spelling.toList = some symbol)
      (point : after.head? = some '.') : Alone after (.name symbol.spelling) (.symbol symbol)

theorem alone_word (spelling after : List Char) :
    Alone after (word spelling after) (word spelling []) := by
  cases found : Symbol.keyword? spelling with
  | none =>
    rw [word_of_other found, word_of_other found]
    exact .same _
  | some symbol =>
    have alone : word spelling [] = .symbol symbol := word_of_keyword found nofun
    rw [alone]
    by_cases point : after.head? = some '.'
    · rw [word_of_point spelling point, ← spelling_of_keyword? found, String.ofList_toList]
      exact .keyword symbol (spelling_of_keyword? found ▸ found) point
    · rw [word_of_keyword found point]
      exact .same _

/-- Only a point makes another token of a keyword. -/
theorem word_eq_alone_iff (spelling after : List Char) :
    word spelling after = word spelling [] ↔
      Symbol.keyword? spelling = none ∨ after.head? ≠ some '.' := by
  cases found : Symbol.keyword? spelling with
  | none => simp [word_of_other found]
  | some symbol =>
    have alone : word spelling [] = .symbol symbol := word_of_keyword found nofun
    by_cases point : after.head? = some '.'
    · simp [alone, word_of_point spelling point, point]
    · simp [alone, word_of_keyword found point, point]

/-- Keywords start like names. -/
theorem keyword?_eq_none (noStart : isNameStart first = false) (tail : List Char) :
    Symbol.keyword? (first :: tail) = none := by
  cases found : Symbol.keyword? (first :: tail) with
  | none => rfl
  | some symbol =>
    have spelled := spelling_of_keyword? found
    have listed := List.mem_of_find?_eq_some found
    simp only [List.mem_cons, List.not_mem_nil, or_false] at listed
    obtain rfl | rfl | rfl | rfl | rfl | rfl := listed <;>
      · obtain ⟨rfl, -⟩ := List.cons.inj spelled
        exact absurd noStart (by decide)

/-! Lexemes of any sort. -/

/-- A token that starts with a character, the rest of its lexeme being the start of a text. -/
inductive Lexeme (start : Char) (input : List Char) : Token → List Char → Prop where
  | word {written after : List Char} (isStart : isNameStart start = true)
      (split : input = written ++ after) (taken : nameTail input = written) :
      Lexeme start input (word (start :: written) after) written
  | number {written : List Char} (digit : isDigit start = true)
      (taken : (Numeral.scan (start :: input)).text = start :: written) :
      Lexeme start input (.number ((Numeral.scan (start :: input)).toDecimal false).toBinary)
        written
  | text {content written : List Char} (isQuote : start = '"' ∨ start = '\'')
      (taken : textTail? start input = some (content, written)) :
      Lexeme start input (.text (String.ofList content)) written
  | sign {symbol : Symbol} {written : List Char}
      (taken : sign? start input = some (symbol, written)) :
      Lexeme start input (.symbol symbol) written

theorem isNameStart_of_digit (digit : isDigit first = true) : isNameStart first = false := by
  simp only [isDigit, digitValue?] at digit
  split at digit
  · rename_i inRange
    simp only [isNameStart, Bool.or_eq_false_iff, Bool.and_eq_false_iff, decide_eq_false_iff_not,
      beq_eq_false_iff_ne]
    refine ⟨⟨.inl fun letter => ?_, .inl fun letter => ?_⟩, ?_⟩
    · exact absurd (Char.le_trans letter inRange.2) (by decide)
    · exact absurd (Char.le_trans letter inRange.2) (by decide)
    · rintro rfl
      exact absurd inRange.2 (by decide)
  · contradiction

/-- A digit starts a number. -/
theorem exists_text_scan (digit : isDigit first = true) (rest : List Char) :
    ∃ written, (Numeral.scan (first :: rest)).text = first :: written := by
  simp only [Numeral.scan, Numeral.text, List.takeWhile_cons, digit, if_true, List.cons_append]
  exact ⟨_, rfl⟩

theorem not_isNameStart_of_sign {symbol : Symbol} (taken : sign? first rest = some (symbol, tail)) :
    isNameStart first = false ∧ isDigit first = false ∧ ¬(first = '"' ∨ first = '\'') := by
  unfold sign? at taken
  split at taken <;> first | contradiction | decide

theorem lexeme?_eq_some_iff :
    lexeme? first rest = some (token, tail) ↔ Lexeme first rest token tail := by
  constructor
  · intro taken
    unfold lexeme? at taken
    split at taken
    · rename_i isStart
      cases taken
      exact .word isStart (List.prefix_iff_eq_append.mp (nameTail_isPrefix rest)).symm rfl
    · split at taken
      · rename_i digit
        obtain ⟨written, all⟩ := exists_text_scan digit rest
        simp only [all, List.drop_one, List.tail_cons] at taken
        cases taken
        exact .number digit all
      · split at taken
        · rename_i isQuote
          obtain ⟨⟨content, written⟩, takenText, same⟩ := Option.map_eq_some_iff.mp taken
          cases same
          exact .text isQuote takenText
        · obtain ⟨⟨symbol, written⟩, takenSign, same⟩ := Option.map_eq_some_iff.mp taken
          cases same
          exact .sign takenSign
  · rintro (⟨isStart, rfl, taken⟩ | ⟨digit, taken⟩ | ⟨isQuote, taken⟩ | taken)
    · rw [lexeme?, if_pos isStart]
      simp only [taken, List.drop_left]
    · rw [lexeme?, if_neg (by simp [isNameStart_of_digit digit]), if_pos digit]
      simp only [taken, List.drop_one, List.tail_cons]
    · have others : isNameStart first = false ∧ isDigit first = false := by
        obtain rfl | rfl := isQuote <;> decide
      simp [lexeme?, others, isQuote, taken]
    · obtain ⟨noStart, noDigit, noQuote⟩ := not_isNameStart_of_sign taken
      simp [lexeme?, noStart, noDigit, noQuote, taken]

namespace Lexeme

/-- At one place there is one lexeme. -/
theorem unique {other : Token} {longer : List Char} (lexeme : Lexeme first rest token tail)
    (another : Lexeme first rest other longer) : token = other ∧ tail = longer := by
  have same := (lexeme?_eq_some_iff.mpr lexeme).symm.trans (lexeme?_eq_some_iff.mpr another)
  simpa using same

/-- No lexeme starts with a blank. -/
theorem noBlank (lexeme : Lexeme first rest token tail) : isBlank first = false := by
  by_contra blank
  have chars := blank_cases (eq_true_of_ne_false blank)
  cases lexeme with
  | word isStart => obtain rfl | rfl | rfl | rfl := chars <;> exact absurd isStart (by decide)
  | number digit => obtain rfl | rfl | rfl | rfl := chars <;> exact absurd digit (by decide)
  | text isQuote => obtain rfl | rfl | rfl | rfl := chars <;> exact absurd isQuote (by decide)
  | sign taken => obtain rfl | rfl | rfl | rfl := chars <;> cases taken

/-- A lexeme is a start of the text. -/
theorem isPrefix (lexeme : Lexeme first rest token tail) : tail <+: rest := by
  cases lexeme with
  | word _ split => exact ⟨_, split.symm⟩
  | number digit taken =>
    have start := Numeral.text_scan_isPrefix (first :: rest)
    rw [taken] at start
    exact (List.cons_prefix_cons.mp start).2
  | text isQuote taken =>
    exact (textTail?_append (ne_escape_of_quote isQuote) taken).1
  | sign taken => exact sign?_isPrefix taken

/-- The more text there is, the longer the lexeme at its start. -/
theorem mono (lexeme : Lexeme first piece token tail) (shorter : piece <+: rest) :
    ∃ other longer, Lexeme first rest other longer ∧ tail <+: longer := by
  cases lexeme with
  | word isStart _ taken =>
    obtain ⟨behind, split⟩ := nameTail_isPrefix rest
    exact ⟨_, _, .word isStart split.symm rfl, taken ▸ nameTail_mono shorter⟩
  | number digit taken =>
    obtain ⟨written, all⟩ := exists_text_scan digit rest
    have longer := Numeral.text_scan_mono ((List.prefix_cons_inj first).mpr shorter)
    rw [taken, all] at longer
    exact ⟨_, _, .number digit all, (List.cons_prefix_cons.mp longer).2⟩
  | text isQuote taken =>
    obtain ⟨⟨left, rfl⟩, others⟩ := textTail?_append (ne_escape_of_quote isQuote) taken
    obtain ⟨behind, rfl⟩ := shorter
    rw [List.append_assoc]
    exact ⟨_, _, .text isQuote (others _), List.prefix_refl _⟩
  | sign taken =>
    obtain ⟨symbol, longer, takenLonger, start⟩ := sign?_mono taken shorter
    exact ⟨_, _, .sign takenLonger, start⟩

/-- A lexeme ends where it ends, whatever part of the text behind it is left away. Unless
all of it is, the token stays the same. -/
theorem cut (lexeme : Lexeme first rest token tail) (split : rest = tail ++ after)
    (shorter : kept <+: after) :
    ∃ other, Lexeme first (tail ++ kept) other tail ∧ Alone after token other ∧
      (kept ≠ [] → other = token) := by
  cases lexeme with
  | word isStart splitThere taken =>
    obtain rfl := List.append_cancel_left (splitThere.symm.trans split)
    have lexeme := Lexeme.word isStart rfl (nameTail_cut (split ▸ taken) shorter)
    cases kept with
    | nil => exact ⟨_, lexeme, alone_word .., fun some => absurd rfl some⟩
    | cons char kept =>
      obtain ⟨left, rfl⟩ := shorter
      have same : Lexer.word (first :: tail) (char :: kept) =
          Lexer.word (first :: tail) (char :: kept ++ left) := word_congr _ rfl
      exact ⟨_, same ▸ lexeme, .same _, fun _ => rfl⟩
  | number digit taken =>
    have same : Numeral.scan (first :: (tail ++ kept)) = Numeral.scan (first :: rest) := by
      have ends : (Numeral.scan ((first :: tail) ++ after)).text = first :: tail := by
        rw [List.cons_append, ← split, taken]
      rw [split]
      exact Numeral.scan_cut ends shorter
    exact ⟨_, same ▸ .number digit (same ▸ taken), .same _, fun _ => rfl⟩
  | text isQuote taken =>
    have others := (textTail?_append (ne_escape_of_quote isQuote) taken).2
    exact ⟨_, .text isQuote (others kept), .same _, fun _ => rfl⟩
  | sign taken =>
    exact ⟨_, .sign (sign?_cut (split ▸ taken) shorter), .same _, fun _ => rfl⟩

/-- A lexeme makes the same token by itself, unless it is a keyword before a point. -/
theorem alone_iff (lexeme : Lexeme first rest token tail) (split : rest = tail ++ after) :
    Lexeme first tail token tail ↔
      Symbol.keyword? (first :: tail) = none ∨ after.head? ≠ some '.' := by
  obtain ⟨other, alone, reread, -⟩ := lexeme.cut split List.nil_prefix
  rw [List.append_nil] at alone
  cases lexeme with
  | word isStart splitThere taken =>
    obtain rfl := List.append_cancel_left (splitThere.symm.trans split)
    have whole : nameTail tail = tail := by rw [← taken, nameTail_nameTail]
    have itself := Lexeme.word isStart (List.append_nil tail).symm whole
    rw [← word_eq_alone_iff]
    exact ⟨fun lexeme => (lexeme.unique itself).1, fun same => same ▸ itself⟩
  | number digit taken =>
    cases reread
    exact iff_of_true alone (.inl (keyword?_eq_none (isNameStart_of_digit digit) tail))
  | text isQuote taken =>
    cases reread
    have noStart : isNameStart first = false := by obtain rfl | rfl := isQuote <;> rfl
    exact iff_of_true alone (.inl (keyword?_eq_none noStart tail))
  | sign taken =>
    cases reread
    exact iff_of_true alone (.inl (keyword?_eq_none (not_isNameStart_of_sign taken).1 tail))

end Lexeme

end Rulebook.Script.Lexer
