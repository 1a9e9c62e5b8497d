import Rulebook.Proofs.Numeric.ReadBack
import Rulebook.Proofs.Script.Scanning

/-! Writing tokens and reading them again. Whatever ways the tokens are written in, as long
as there is a blank between any two of them the lexer finds these tokens at these places. -/
namespace Rulebook.Script
open Numeric

/-- The first character of a part of a name, and the others. -/
def IsNamePart (part : List Char) : Prop :=
  ∃ first rest, part = first :: rest ∧ (first.isAlpha = true ∨ first = '_') ∧
    ∀ char ∈ rest, char.isAlphanum = true ∨ char = '_'

/-- The characters that write one in a text between quotes. -/
def escaped (quote char : Char) : List Char :=
  if char = quote ∨ char = '\\' then ['\\', char] else [char]

/-- The ways to write a token. -/
inductive Renders : Token → List Char → Prop where
  | symbol (symbol : Symbol) : Renders (.symbol symbol) symbol.spelling.toList
  | notEqual : Renders (.symbol .notEqual) ['!', '=']
  | name {part : List Char} {parts : List (List Char)} (isPart : IsNamePart part)
      (areParts : ∀ part ∈ parts, IsNamePart part) {spelling : List Char}
      (dotted : spelling = part ++ parts.flatMap ('.' :: ·))
      (free : ∀ symbol : Symbol, symbol.spelling.toList ≠ spelling) :
      Renders (.name (String.ofList spelling)) spelling
  | text {quote : Char} (isQuote : quote = '"' ∨ quote = '\'') (value : String) :
      Renders (.text value) (quote :: (value.toList.flatMap (escaped quote) ++ [quote]))
  | number {numeral : Numeral} {value : Double} (spelled : numeral.Spelled)
      (digits : numeral.whole ≠ []) (nearest : (numeral.toDecimal false).Nearest value) :
      Renders (.number value) numeral.text

namespace Lexer

/-- A text ends here, or goes on with a blank. -/
def Ends (rest : List Char) : Prop :=
  ∀ char ∈ rest.head?, isBlank char = true

variable {first quote : Char} {rest tail : List Char} {token : Token}

theorem Ends.cases (ends : Ends rest) :
    rest = [] ∨ ∃ char further, rest = char :: further ∧ isBlank char = true := by
  cases rest with
  | nil => exact .inl rfl
  | cons char further => exact .inr ⟨char, further, rfl, ends char rfl⟩

theorem Ends.stops (ends : Ends rest) : Numeral.Stops rest := by
  obtain rfl | ⟨char, further, rfl, blank⟩ := ends.cases
  · exact Numeral.stops_nil
  · rintro _ ⟨⟩
    obtain rfl | rfl | rfl | rfl := blank_cases blank <;> decide

/-! Names. -/

theorem isNameStart_iff (char : Char) :
    isNameStart char = true ↔ char.isAlpha = true ∨ char = '_' := by
  have letter : char.isAlpha = (char.isUpper || char.isLower) := rfl
  have upper : char.isUpper = true ↔ 'A' ≤ char ∧ char ≤ 'Z' := decide_eq_true_iff
  have lower : char.isLower = (decide ('a' ≤ char) && decide (char ≤ 'z')) := rfl
  simp only [isNameStart, letter, lower, Bool.or_eq_true, upper, Bool.and_eq_true,
    decide_eq_true_eq, beq_iff_eq]
  rw [or_comm (a := _ ∧ _)]

theorem isNameChar_iff (char : Char) :
    isNameChar char = true ↔ char.isAlphanum = true ∨ char = '_' := by
  rw [isNameChar, Bool.or_eq_true, isNameStart_iff, Char.isAlphanum, Bool.or_eq_true, isDigit_eq,
    or_right_comm]

theorem nameTail_append {chars : List Char} (names : ∀ char ∈ chars, isNameChar char = true)
    (rest : List Char) : nameTail (chars ++ rest) = chars ++ nameTail rest := by
  induction chars with
  | nil => rfl
  | cons char chars ih =>
    obtain ⟨isName, others⟩ := List.forall_mem_cons.mp names
    rw [List.cons_append, nameTail_cons isName, ih others, List.cons_append]

theorem nameTail_of_ends (ends : Ends rest) : nameTail rest = [] := by
  obtain rfl | ⟨char, further, rfl, blank⟩ := ends.cases
  · rfl
  · obtain rfl | rfl | rfl | rfl := blank_cases blank <;> rfl

theorem nameTail_dotted {parts : List (List Char)} (areParts : ∀ part ∈ parts, IsNamePart part)
    (ends : Ends rest) :
    nameTail (parts.flatMap ('.' :: ·) ++ rest) = parts.flatMap ('.' :: ·) := by
  induction parts with
  | nil => exact nameTail_of_ends ends
  | cons part parts ih =>
    obtain ⟨⟨first, tail, rfl, isStart, names⟩, others⟩ := List.forall_mem_cons.mp areParts
    have start := (isNameStart_iff first).mpr isStart
    have chars : ∀ char ∈ tail, isNameChar char = true :=
      fun char mem => (isNameChar_iff char).mpr (names char mem)
    simp only [List.flatMap_cons, List.cons_append, List.append_assoc]
    rw [nameTail_point start, nameTail_append chars, ih others]

theorem head_ne_point (ends : Ends rest) : rest.head? ≠ some '.' := by
  intro point
  exact absurd (ends '.' point) (by decide)

/-! Texts. -/

theorem textTail?_escaped (isQuote : quote = '"' ∨ quote = '\'') (value rest : List Char) :
    textTail? quote (value.flatMap (escaped quote) ++ quote :: rest) =
      some (value, value.flatMap (escaped quote) ++ [quote]) := by
  induction value with
  | nil => exact textTail?_quote (ne_escape_of_quote isQuote) rest
  | cons char value ih =>
    by_cases special : char = quote ∨ char = '\\'
    · have itself : char ≠ '\n' ∧ unescape char = char := by
        obtain rfl | rfl := special
        · obtain rfl | rfl := isQuote <;> decide
        · decide
      simp only [List.flatMap_cons, escaped, if_pos special, List.cons_append, List.nil_append]
      rw [textTail?_escape itself.1, ih, itself.2]
      rfl
    · obtain ⟨noQuote, noEscape⟩ := not_or.mp special
      simp only [List.flatMap_cons, escaped, if_neg special, List.cons_append, List.nil_append]
      rw [textTail?_plain noQuote noEscape, ih]
      rfl

/-! Symbols. -/

theorem lexeme_keyword {symbol : Symbol} (isStart : isNameStart first = true)
    (names : tail.all isNameChar = true) (found : Symbol.keyword? (first :: tail) = some symbol)
    (ends : Ends rest) :
    Lexeme first (tail ++ rest) (.symbol symbol) tail := by
  have whole : nameTail (tail ++ rest) = tail := by
    rw [nameTail_append (List.all_eq_true.mp names), nameTail_of_ends ends, List.append_nil]
  have lexeme := Lexeme.word isStart rfl whole
  rwa [word_of_keyword found (head_ne_point ends)] at lexeme

theorem lexeme_symbol (symbol : Symbol) (ends : Ends rest) :
    ∃ first tail, symbol.spelling.toList = first :: tail ∧
      Lexeme first (tail ++ rest) (.symbol symbol) tail := by
  cases symbol with
  | and => exact ⟨'a', ['n', 'd'], rfl, lexeme_keyword rfl rfl rfl ends⟩
  | or => exact ⟨'o', ['r'], rfl, lexeme_keyword rfl rfl rfl ends⟩
  | not => exact ⟨'n', ['o', 't'], rfl, lexeme_keyword rfl rfl rfl ends⟩
  | true => exact ⟨'t', ['r', 'u', 'e'], rfl, lexeme_keyword rfl rfl rfl ends⟩
  | false => exact ⟨'f', ['a', 'l', 's', 'e'], rfl, lexeme_keyword rfl rfl rfl ends⟩
  | nil => exact ⟨'n', ['i', 'l'], rfl, lexeme_keyword rfl rfl rfl ends⟩
  | dotDot | equal | notEqual | lessEqual | greaterEqual => exact ⟨_, _, rfl, .sign rfl⟩
  | less | greater =>
    -- only an equals sign would make them longer
    refine ⟨_, [], rfl, .sign ?_⟩
    obtain rfl | ⟨char, further, rfl, blank⟩ := ends.cases
    · rfl
    · obtain rfl | rfl | rfl | rfl := blank_cases blank <;> rfl
  | _ => exact ⟨_, _, rfl, .sign rfl⟩

theorem keyword?_eq_none_of_free {spelling : List Char}
    (free : ∀ symbol : Symbol, symbol.spelling.toList ≠ spelling) :
    Symbol.keyword? spelling = none := by
  cases found : Symbol.keyword? spelling with
  | none => rfl
  | some symbol => exact absurd (spelling_of_keyword? found) (free symbol)

/-- However a token is written, it is the lexeme at the start of a text that goes on with a
blank. -/
theorem lexeme_of_renders {text : List Char} (renders : Renders token text) (ends : Ends rest) :
    ∃ first tail, text = first :: tail ∧ Lexeme first (tail ++ rest) token tail := by
  cases renders with
  | symbol symbol => exact lexeme_symbol symbol ends
  | notEqual => exact ⟨'!', ['='], rfl, .sign rfl⟩
  | @name part parts isPart areParts spelling dotted free =>
    obtain ⟨first, tail, rfl, isStart, names⟩ := isPart
    have chars : ∀ char ∈ tail, isNameChar char = true :=
      fun char mem => (isNameChar_iff char).mpr (names char mem)
    have whole : nameTail (tail ++ parts.flatMap ('.' :: ·) ++ rest) =
        tail ++ parts.flatMap ('.' :: ·) := by
      rw [List.append_assoc, nameTail_append chars, nameTail_dotted areParts ends]
    have lexeme := Lexeme.word ((isNameStart_iff first).mpr isStart) rfl whole
    rw [List.cons_append] at dotted
    rw [dotted] at free ⊢
    rw [word_of_other (keyword?_eq_none_of_free free)] at lexeme
    exact ⟨first, _, rfl, lexeme⟩
  | text isQuote value =>
    have taken := textTail?_escaped isQuote value.toList rest
    rw [List.append_cons] at taken
    have lexeme := Lexeme.text isQuote taken
    rw [String.ofList_toList] at lexeme
    exact ⟨_, _, rfl, lexeme⟩
  | @number numeral value spelled digits nearest =>
    obtain ⟨first, more, whole⟩ := List.exists_cons_of_ne_nil digits
    have scanned := spelled.scan_eq ends.stops
    have written : numeral.text = first :: (more ++ numeral.fraction ++ numeral.exponent) := by
      rw [Numeral.text, whole, List.cons_append, List.cons_append]
    have digit : isDigit first = true :=
      spelled.whole first (whole ▸ List.mem_cons_self ..)
    rw [written, List.cons_append] at scanned
    obtain rfl := nearest.unique (Decimal.nearest_toBinary (by decide) _)
    refine ⟨first, _, written, ?_⟩
    have lexeme := Lexeme.number digit (scanned.symm ▸ written)
    rwa [scanned] at lexeme

end Lexer

/-- A token as it is written, and what separates it from the next. -/
structure Rendering where
  token : Token
  text : String
  gap : String

namespace Rendering

/-- Tokens written one after the other. -/
def source : List Rendering → String
  | [] => ""
  | piece :: rest => piece.text ++ piece.gap ++ source rest

/-- The places where the tokens are written, if the first starts at a byte position. -/
def located (position : Nat) : List Rendering → List Located
  | [] => []
  | piece :: rest =>
    let stop := position + piece.text.utf8ByteSize
    ⟨piece.token, position, stop⟩ :: located (stop + piece.gap.utf8ByteSize) rest

/-- Tokens are written in one of their ways, and between any two of them is a blank. -/
structure Separated (pieces : List Rendering) : Prop where
  renders : ∀ piece ∈ pieces, Renders piece.token piece.text.toList
  blanks : ∀ piece ∈ pieces, Lexer.Blanks piece.gap.toList
  apart : ∀ piece ∈ pieces.dropLast, piece.gap ≠ ""

variable {piece : Rendering} {following pieces : List Rendering}

theorem Separated.tail (separated : Separated (piece :: following)) : Separated following where
  renders := fun other mem => separated.renders other (List.mem_cons_of_mem _ mem)
  blanks := fun other mem => separated.blanks other (List.mem_cons_of_mem _ mem)
  apart := by
    cases following with
    | nil => exact nofun
    | cons second others =>
      exact fun other mem => separated.apart other (List.mem_cons_of_mem _ mem)

/-- Behind the text of a token nothing is left, or there is a blank. -/
theorem Separated.ends (separated : Separated (piece :: following)) :
    Lexer.Ends (piece.gap ++ source following).toList := by
  have blanks := separated.blanks piece (List.mem_cons_self ..)
  rw [String.toList_append]
  cases gap : piece.gap.toList with
  | cons char gap =>
    rintro _ ⟨⟩
    exact (Lexer.isBlank_iff char).mpr (blanks char (gap ▸ List.mem_cons_self ..))
  | nil =>
    have empty : piece.gap = "" := String.toList_eq_nil_iff.mp gap
    cases following with
    | nil => exact nofun
    | cons second others => exact absurd empty (separated.apart piece (List.mem_cons_self ..))

theorem scan_source (separated : Separated pieces) (position : Nat) :
    Lexer.scan position (source pieces).toList = .ok (located position pieces) := by
  induction pieces generalizing position with
  | nil => exact Lexer.scan_nil position
  | cons piece following ih =>
    have renders := separated.renders piece (List.mem_cons_self ..)
    have blanks := separated.blanks piece (List.mem_cons_self ..)
    obtain ⟨first, tail, written, lexeme⟩ := Lexer.lexeme_of_renders renders separated.ends
    rw [source, String.append_assoc, String.toList_append, written, List.cons_append,
      Lexer.scan_lexeme lexeme, ← written, Lexer.byteLength_toList, String.toList_append,
      Lexer.scan_blanks blanks, ih separated.tail, Lexer.byteLength_toList]
    rfl

end Rendering

/-- Tokenizing undoes rendering: it finds the tokens that were written, in their order and
each at the place of its text. -/
theorem tokenize_rendered {leading : String} {pieces : List Rendering}
    (blanks : Lexer.Blanks leading.toList) (separated : Rendering.Separated pieces) :
    tokenize (leading ++ Rendering.source pieces) =
      .ok (Rendering.located leading.utf8ByteSize pieces) := by
  rw [tokenize, String.toList_append, Lexer.scan_blanks blanks, Rendering.scan_source separated,
    Nat.zero_add, Lexer.byteLength_toList]

/-- A sign in its other spelling, a name that ends in a keyword, a text with its own quote,
a backslash, a line feed and a letter of two bytes, and a number with every part there is. -/
def assorted : List Rendering :=
  [⟨.symbol .notEqual, "!=", " \r\n"⟩, ⟨.name "is.nil", "is.nil", " "⟩,
    ⟨.text "\"\\\né", "\"\\\"\\\\\né\"", "\t"⟩, ⟨.number (.ofInt 15), "01.50E+1", ""⟩]

theorem separated_assorted : Rendering.Separated assorted where
  renders := by
    let numeral : Numeral := ⟨['0', '1'], ['.', '5', '0'], ['E', '+', '1']⟩
    have front : IsNamePart ['i', 's'] := ⟨'i', ['s'], rfl, .inl rfl, by simp⟩
    have back : IsNamePart ['n', 'i', 'l'] := ⟨'n', ['i', 'l'], rfl, .inl rfl, by simp⟩
    have free (symbol : Symbol) : symbol.spelling.toList ≠ "is.nil".toList := by
      cases symbol <;> decide
    have name : Renders (.name "is.nil") "is.nil".toList :=
      .name front (List.forall_mem_singleton.mpr back) rfl free
    have text : Renders (.text "\"\\\né") "\"\\\"\\\\\né\"".toList :=
      .text (.inl rfl) "\"\\\né"
    have spelled : numeral.Spelled := ⟨by decide, .inr ⟨['5', '0'], rfl, by decide, by decide⟩,
      .inr ⟨'E', ['+'], ['1'], rfl, by decide, by decide, by decide, by decide⟩⟩
    have value : (numeral.toDecimal false).toBinary = (.ofInt 15 : Double) := by decide +kernel
    have number : Renders (.number (.ofInt 15)) "01.50E+1".toList :=
      .number spelled (by decide) (value ▸ Decimal.nearest_toBinary (by decide) _)
    simp only [assorted, List.forall_mem_cons]
    exact ⟨.notEqual, name, text, number, nofun⟩
  blanks := by decide
  apart := by decide

theorem tokenize_rendered_assorted :
    tokenize "\t!= \r\nis.nil \"\\\"\\\\\né\"\t01.50E+1" =
      .ok [⟨.symbol .notEqual, 1, 3⟩, ⟨.name "is.nil", 6, 12⟩, ⟨.text "\"\\\né", 13, 22⟩,
        ⟨.number (.ofInt 15), 23, 31⟩] := by
  have blanks : Lexer.Blanks "\t".toList := by decide
  exact tokenize_rendered blanks separated_assorted

end Rulebook.Script
