import Rulebook.Proofs.Script.Scanning

/-! Tokenizing loses nothing and takes as much as it can. The tokens of a text and the
blanks around them make up the text; no token could be longer; and where a text has no
tokens, it is because none can start at some place behind those found so far. The piece
of a text that a token covers is the same token by itself, but for keywords: right before
a point they are read as names. -/
namespace Rulebook.Script

/-- A text is a single token. -/
def IsToken (piece : String) (token : Token) : Prop :=
  tokenize piece = .ok [⟨token, 0, piece.utf8ByteSize⟩]

/-- A token covers a piece of a text and not less than it could. -/
structure Munched (before piece after : String) (located : Located) : Prop where
  start_eq : located.start = before.utf8ByteSize
  stop_eq : located.stop = located.start + piece.utf8ByteSize
  nonempty : piece ≠ ""
  alone : ∃ token, IsToken piece token ∧ Lexer.Alone after.toList located.token token
  same_iff : IsToken piece located.token ↔
    Symbol.keyword? piece.toList = none ∨ after.toList.head? ≠ some '.'
  longest : ∀ more further, after = more ++ further → more ≠ "" →
    ∀ token, ¬IsToken (piece ++ more) token

/-- The tokens of a text and the blanks around them are all of it. -/
structure Divides (source : String) (tokens : List Located) : Prop where
  ordered : tokens.Pairwise fun first second => first.stop ≤ second.start
  munched : ∀ located ∈ tokens, ∃ before piece after, source = before ++ piece ++ after ∧
    Munched before piece after located
  blank_outside : ∀ before char after, source = before ++ String.singleton char ++ after →
    (∀ located ∈ tokens, before.utf8ByteSize < located.start ∨
      located.stop ≤ before.utf8ByteSize) → char ∈ [' ', '\t', '\r', '\n']

namespace Lexer

/-- Tokens found before a place, and the tokens that the text up to there has. They are the
same, but that the last one may be read otherwise. -/
inductive Reread (left : List Char) : List Located → List Located → Prop where
  | nil : Reread left [] []
  | last {token other : Token} (alone : Alone left token other) (start stop : Nat) :
      Reread left [⟨token, start, stop⟩] [⟨other, start, stop⟩]
  | cons {found reread : List Located} (located : Located) (others : Reread left found reread) :
      Reread left (located :: found) (located :: reread)

variable {first : Char} {input left piece rest tail : List Char} {token : Token}
  {found : List Located} {position stop : Nat}

/-! What the walk finds. -/

/-- Each token is a lexeme of the text. -/
theorem Finds.exists_lexeme (finds : Finds position input found stop left) {located : Located}
    (mem : located ∈ found) :
    ∃ before first tail after, input = before ++ first :: (tail ++ after) ∧
      located.start = position + byteLength before ∧
      located.stop = located.start + byteLength (first :: tail) ∧
      Lexeme first (tail ++ after) located.token tail := by
  induction finds with
  | here => cases mem
  | @blank start position rest found stop left isBlank further ih =>
    obtain ⟨before, first, tail, after, rfl, starts, stops, lexeme⟩ := ih mem
    refine ⟨start :: before, first, tail, after, rfl, ?_, stops, lexeme⟩
    rw [starts, byteLength_cons, Nat.add_assoc]
  | @token first rest token position found stop left tail lexeme further ih =>
    obtain rfl | later := List.mem_cons.mp mem
    · exact ⟨[], first, tail, rest, rfl, rfl, rfl, lexeme⟩
    · obtain ⟨before, start, others, after, rfl, starts, stops, later⟩ := ih later
      refine ⟨first :: (tail ++ before), start, others, after, by simp, ?_, stops, later⟩
      rw [starts, ← List.cons_append, byteLength_append, Nat.add_assoc]

/-- Tokens are found one behind the other. -/
theorem Finds.pairwise (finds : Finds position input found stop left) :
    found.Pairwise fun first second => first.stop ≤ second.start := by
  induction finds with
  | here => exact .nil
  | blank isBlank further ih => exact ih
  | token lexeme further ih =>
    refine .cons (fun later mem => ?_) ih
    obtain ⟨before, _, _, _, _, starts, _⟩ := further.exists_lexeme mem
    rw [starts]
    exact Nat.le_add_right ..

/-- What no token covers is blank. -/
theorem Finds.blank_outside (finds : Finds position input found stop left)
    {before after : List Char} {char : Char} (place : input = before ++ char :: (after ++ left))
    (outside : ∀ located ∈ found, position + byteLength before < located.start ∨
      located.stop ≤ position + byteLength before) :
    char ∈ [' ', '\t', '\r', '\n'] := by
  induction finds generalizing before with
  | here position input =>
    have lengths := congrArg List.length place
    simp only [List.length_append, List.length_cons] at lengths
    omega
  | blank isBlank further ih =>
    cases before with
    | nil =>
      obtain ⟨rfl, -⟩ := List.cons.inj place
      exact (isBlank_iff _).mp isBlank
    | cons start before =>
      simp only [byteLength_cons, ← Nat.add_assoc] at outside
      obtain ⟨rfl, behind⟩ := List.cons.inj place
      exact ih behind outside
  | @token first rest token position found stop left tail lexeme further ih =>
    obtain ⟨outsideThis, outsideOthers⟩ := List.forall_mem_cons.mp outside
    rw [← List.cons_append] at place
    obtain ⟨between, split, behind⟩ | ⟨between, split, behind⟩ := List.append_eq_append_iff.mp place
    · rw [split, byteLength_append, ← Nat.add_assoc] at outsideOthers
      exact ih behind outsideOthers
    · cases between with
      | nil =>
        rw [List.append_nil] at split
        rw [← split] at outsideOthers
        have here : rest = [] ++ char :: (after ++ left) := behind.symm
        exact ih here outsideOthers
      | cons start between =>
        -- the character would belong to the token
        have positive := start.utf8Size_pos
        have covered := congrArg byteLength split
        rw [byteLength_append, byteLength_cons start] at covered
        simp only at outsideThis
        omega

/-- The walk through the text before a place finds the same tokens, the last one perhaps
read otherwise. -/
theorem Finds.restrict (finds : Finds position input found stop left) :
    ∃ before reread, input = before ++ left ∧ stop = position + byteLength before ∧
      Finds position before reread stop [] ∧ Reread left found reread := by
  induction finds with
  | here position input => exact ⟨[], [], rfl, rfl, .here position [], .nil⟩
  | @blank start position rest found stop left isBlank further ih =>
    obtain ⟨before, reread, rfl, stops, finds, same⟩ := ih
    refine ⟨start :: before, reread, rfl, ?_, .blank isBlank finds, same⟩
    rw [stops, byteLength_cons, Nat.add_assoc]
  | @token first rest token position found stop left tail lexeme further ih =>
    obtain ⟨before, reread, rfl, stops, finds, same⟩ := ih
    obtain ⟨other, lexeme, alone, kept⟩ := lexeme.cut rfl (List.prefix_append before left)
    refine ⟨first :: (tail ++ before), _, by simp, ?_, .token lexeme finds, ?_⟩
    · rw [stops, ← List.cons_append, byteLength_append, Nat.add_assoc]
    · cases before with
      | nil =>
        obtain rfl : reread = [] := by cases finds; rfl
        obtain rfl : found = [] := by cases same; rfl
        exact .last alone ..
      | cons start before =>
        obtain rfl := kept nofun
        exact .cons _ same

/-! Single tokens. -/

theorem isToken_iff {piece : String} :
    IsToken piece token ↔ ∃ first tail, piece.toList = first :: tail ∧
      Lexeme first tail token tail := by
  constructor
  · intro single
    obtain ⟨stop, finds⟩ := scan_eq_ok_iff.mp single
    obtain ⟨before, first, tail, after, written, starts, stops, lexeme⟩ :=
      finds.exists_lexeme (List.mem_singleton.mpr rfl)
    have size := congrArg byteLength written
    rw [byteLength_toList, byteLength_append, ← List.cons_append, byteLength_append] at size
    simp only at starts stops
    obtain rfl : before = [] := byteLength_eq_zero_iff.mp (by omega)
    obtain rfl : after = [] := byteLength_eq_zero_iff.mp (by omega)
    rw [List.append_nil] at written lexeme
    exact ⟨first, tail, written, lexeme⟩
  · rintro ⟨first, tail, written, lexeme⟩
    have whole : Lexeme first (tail ++ []) token tail := by rwa [List.append_nil]
    have scanned := scan_lexeme whole 0
    rw [List.append_nil, ← written, scan_nil, byteLength_toList, Nat.zero_add] at scanned
    exact scanned

/-- A token stands for itself. -/
theorem munched_of_lexeme {before piece after : String} {located : Located}
    (written : piece.toList = first :: tail)
    (lexeme : Lexeme first (tail ++ after.toList) located.token tail)
    (starts : located.start = before.utf8ByteSize)
    (stops : located.stop = located.start + piece.utf8ByteSize) :
    Munched before piece after located where
  start_eq := starts
  stop_eq := stops
  nonempty := by
    rintro rfl
    cases written
  alone := by
    obtain ⟨token, lexeme, alone, -⟩ := lexeme.cut rfl List.nil_prefix
    rw [List.append_nil] at lexeme
    exact ⟨token, isToken_iff.mpr ⟨first, tail, written, lexeme⟩, alone⟩
  same_iff := by
    rw [isToken_iff, written, ← lexeme.alone_iff rfl]
    constructor
    · rintro ⟨start, behind, same, single⟩
      obtain ⟨rfl, rfl⟩ := List.cons.inj same
      exact single
    · exact fun single => ⟨first, tail, rfl, single⟩
  longest := by
    rintro more further rfl some token single
    obtain ⟨start, longer, writtenLonger, lexemeLonger⟩ := isToken_iff.mp single
    rw [String.toList_append, written, List.cons_append] at writtenLonger
    obtain ⟨rfl, rfl⟩ := List.cons.inj writtenLonger
    have shorter : tail ++ more.toList <+: tail ++ (more ++ further).toList := by
      rw [String.toList_append, List.prefix_append_right_inj]
      exact List.prefix_append ..
    obtain ⟨other, longest, lexemeLongest, start⟩ := lexemeLonger.mono shorter
    obtain ⟨-, rfl⟩ := lexeme.unique lexemeLongest
    have lengths := start.length_le
    rw [List.length_append] at lengths
    exact some (String.toList_eq_nil_iff.mp (List.eq_nil_of_length_eq_zero (by omega)))

theorem divides_of_finds {source : String} (finds : Finds 0 source.toList found stop []) :
    Divides source found where
  ordered := finds.pairwise
  munched := by
    intro located mem
    obtain ⟨before, first, tail, after, written, starts, stops, lexeme⟩ := finds.exists_lexeme mem
    refine ⟨String.ofList before, String.ofList (first :: tail), String.ofList after, ?_, ?_⟩
    · apply String.toList_inj.mp
      simp [written]
    · have behind : after = (String.ofList after).toList := String.toList_ofList.symm
      rw [behind] at lexeme
      refine munched_of_lexeme String.toList_ofList lexeme ?_ ?_
      · rw [starts, utf8ByteSize_ofList, Nat.zero_add]
      · rw [stops, utf8ByteSize_ofList]
  blank_outside := by
    rintro before char after rfl outside
    have place : (before ++ String.singleton char ++ after).toList =
        before.toList ++ char :: (after.toList ++ []) := by simp
    rw [← byteLength_toList, ← Nat.zero_add (byteLength _)] at outside
    exact finds.blank_outside place outside

end Lexer

/-- Nothing can be read at a place of a text, and all is well before it. -/
structure Stopped (source before : String) (first : Char) (after : List Char) : Prop where
  source_eq : source = before ++ String.ofList (first :: after)
  noBlank : first ∉ [' ', '\t', '\r', '\n']
  readable : ∃ found reread, tokenize before = .ok reread ∧
    Lexer.Finds 0 source.toList found before.utf8ByteSize (first :: after) ∧
    Lexer.Reread (first :: after) found reread
  noToken : ∀ piece token, piece.toList <+: first :: after → ¬IsToken piece token

namespace Lexer

theorem Stuck.not_isToken (stuck : Stuck first rest) {piece : String}
    (start : piece.toList <+: first :: rest) (token : Token) : ¬IsToken piece token := by
  intro single
  obtain ⟨begin, tail, written, lexeme⟩ := isToken_iff.mp single
  rw [written] at start
  obtain ⟨rfl, shorter⟩ := List.cons_prefix_cons.mp start
  obtain ⟨other, longer, lexeme, -⟩ := lexeme.mono shorter
  exact stuck.noLexeme other longer lexeme

theorem exists_stopped {source : String} (finds : Finds 0 source.toList found stop (first :: rest))
    (stuck : Stuck first rest) : ∃ before, stop = before.utf8ByteSize ∧
      Stopped source before first rest := by
  obtain ⟨before, reread, written, stops, walked, same⟩ := finds.restrict
  have place : stop = (String.ofList before).utf8ByteSize := by
    rw [stops, utf8ByteSize_ofList, Nat.zero_add]
  refine ⟨String.ofList before, place, ?_, ?_, ⟨found, reread, ?_, place ▸ finds, same⟩, ?_⟩
  · apply String.toList_inj.mp
    simp [written]
  · rw [← isBlank_iff, stuck.noBlank]
    exact Bool.false_ne_true
  · rw [tokenize, String.toList_ofList]
    exact scan_eq_ok_iff.mpr ⟨stop, walked⟩
  · exact fun piece token start => stuck.not_isToken start token

end Lexer

/-- Tokenizing is lossless and takes the longest token at each place: where it succeeds,
tokens and blanks make up the text, each token as long as it can be and, keywords before
points apart, what its piece of the text is by itself. Where it fails, it does so at the
first place at which no token starts. -/
theorem maximal_munch (source : String) :
    (∀ tokens, tokenize source = .ok tokens → Divides source tokens) ∧
    (∀ error, tokenize source = .error error → ∃ before first after,
      error = .invalidToken before.utf8ByteSize ∧ Stopped source before first after) := by
  constructor
  · intro tokens tokenized
    obtain ⟨stop, finds⟩ := Lexer.scan_eq_ok_iff.mp tokenized
    exact Lexer.divides_of_finds finds
  · intro error failed
    obtain ⟨found, stop, first, rest, finds, stuck, rfl⟩ := Lexer.scan_eq_error_iff.mp failed
    obtain ⟨before, rfl, stopped⟩ := Lexer.exists_stopped finds stuck
    exact ⟨before, first, rest, rfl, stopped⟩

/-- An exponent without digits is a name, and a point without digits is nothing. -/
theorem maximal_munch_unfinished :
    Divides "a.nil<=2e+.." [⟨.name "a.nil", 0, 5⟩, ⟨.symbol .lessEqual, 5, 7⟩,
      ⟨.number (.ofInt 2), 7, 8⟩, ⟨.name "e", 8, 9⟩, ⟨.symbol .plus, 9, 10⟩,
      ⟨.symbol .dotDot, 10, 12⟩] ∧
    ∃ before first after, EvalError.invalidToken 1 = .invalidToken before.utf8ByteSize ∧
      Stopped "1.e" before first after := by
  constructor
  · exact (maximal_munch "a.nil<=2e+..").1 _ (by decide +kernel)
  · exact (maximal_munch "1.e").2 _ (by decide +kernel)

/-- A keyword right before a point is read as a name, and not as the token that it is by
itself. -/
theorem keyword_before_point :
    ¬∀ (source : String) (tokens : List Located), tokenize source = .ok tokens →
      ∀ located ∈ tokens, ∀ before piece after : String, source = before ++ piece ++ after →
        located.start = before.utf8ByteSize →
        located.stop = located.start + piece.utf8ByteSize → IsToken piece located.token := by
  intro always
  have tokenized : tokenize "nil..x" =
      .ok [⟨.name "nil", 0, 3⟩, ⟨.symbol .dotDot, 3, 5⟩, ⟨.name "x", 5, 6⟩] := by decide +kernel
  have alone : tokenize "nil" = .ok [⟨.symbol .nil, 0, 3⟩] := by decide +kernel
  have single : IsToken "nil" (.name "nil") :=
    always "nil..x" _ tokenized _ (List.mem_cons_self ..) "" "nil" "..x" (by decide) rfl rfl
  rw [IsToken, alone] at single
  cases single

end Rulebook.Script
