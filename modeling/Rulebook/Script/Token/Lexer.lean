import Rulebook.Numeric.Numeral
import Rulebook.Script.Error

/-! Division of a source text into tokens. At each place the longest possible
token is taken, and spaces, tabs and line ends between tokens are skipped. A
lexeme is given by its first character and the characters that follow it; only
for keywords does the character after the lexeme matter too. -/
namespace Rulebook.Script
open Rulebook.Numeric

namespace Lexer

def isBlank (char : Char) : Bool :=
  char == ' ' || char == '\t' || char == '\r' || char == '\n'

def isNameStart (char : Char) : Bool :=
  ('a' ≤ char && char ≤ 'z') || ('A' ≤ char && char ≤ 'Z') || char == '_'

def isNameChar (char : Char) : Bool :=
  isNameStart char || isDigit char

/-- What continues a name: letters, digits and underscores, and a point where a
further name part follows it. -/
def nameTail : List Char → List Char
  | '.' :: char :: rest => if isNameStart char then '.' :: char :: nameTail rest else []
  | char :: rest => if isNameChar char then char :: nameTail rest else []
  | [] => []

/-- The character that a backslash and another one stand for. -/
def unescape (char : Char) : Char :=
  match char with
  | 'n' => '\n'
  | 't' => '\t'
  | other => other

/-- The content of a text up to its closing quote, and the characters that
write it with that quote. A backslash covers any character but a line feed. -/
def textTail? (quote : Char) : List Char → Option (List Char × List Char)
  | [] => none
  | '\\' :: char :: rest =>
    if char = '\n' then none
    else (textTail? quote rest).map fun (content, written) =>
      (unescape char :: content, '\\' :: char :: written)
  | char :: rest =>
    if char = quote then some ([], [char])
    else if char = '\\' then none
    else (textTail? quote rest).map fun (content, written) => (char :: content, char :: written)

/-- The longest symbol made of signs. -/
def sign? (first : Char) (rest : List Char) : Option (Symbol × List Char) :=
  match first, rest with
  | '.', '.' :: _ => some (.dotDot, ['.'])
  | '=', '=' :: _ => some (.equal, ['='])
  | '~', '=' :: _ => some (.notEqual, ['='])
  | '!', '=' :: _ => some (.notEqual, ['='])
  | '<', '=' :: _ => some (.lessEqual, ['='])
  | '>', '=' :: _ => some (.greaterEqual, ['='])
  | '<', _ => some (.less, [])
  | '>', _ => some (.greater, [])
  | '+', _ => some (.plus, [])
  | '-', _ => some (.minus, [])
  | '*', _ => some (.star, [])
  | '/', _ => some (.slash, [])
  | '%', _ => some (.percent, [])
  | '^', _ => some (.caret, [])
  | '(', _ => some (.leftParen, [])
  | ')', _ => some (.rightParen, [])
  | ',', _ => some (.comma, [])
  | _, _ => none

/-- The token that a word makes, given the characters after it. Where a point
follows, even a keyword is a name, as the point could continue it: `nil..x`
concatenates a variable and not `nil`. -/
def word (spelling after : List Char) : Token :=
  match after, Symbol.keyword? spelling with
  | '.' :: _, _ | _, none => .name (String.ofList spelling)
  | _, some symbol => .symbol symbol

/-- The longest token that starts with a character, and the characters of its
lexeme after that one. -/
def lexeme? (first : Char) (rest : List Char) : Option (Token × List Char) :=
  if isNameStart first then
    let tail := nameTail rest
    some (word (first :: tail) (rest.drop tail.length), tail)
  else if isDigit first then
    let numeral := Numeral.scan (first :: rest)
    some (.number (numeral.toDecimal false).toBinary, numeral.text.drop 1)
  else if first = '"' ∨ first = '\'' then
    (textTail? first rest).map fun (content, written) =>
      (.text (String.ofList content), written)
  else
    (sign? first rest).map fun (symbol, tail) => (.symbol symbol, tail)

/-- The number of bytes of a text. -/
def byteLength (text : List Char) : Nat :=
  text.foldr (fun char length => char.utf8Size + length) 0

/-- The tokens of a text that starts at a byte position of the source. -/
def scan (position : Nat) : List Char → Except EvalError (List Located)
  | [] => .ok []
  | first :: rest =>
    if isBlank first then scan (position + first.utf8Size) rest
    else
      match lexeme? first rest with
      | none => .error (.invalidToken position)
      | some (token, tail) =>
        let stop := position + first.utf8Size + byteLength tail
        match scan stop (rest.drop tail.length) with
        | .error error => .error error
        | .ok tokens => .ok (⟨token, position, stop⟩ :: tokens)
termination_by input => input.length
decreasing_by all_goals simp only [List.length_cons, List.length_drop]; omega

end Lexer

/-- The tokens of a source text. -/
def tokenize (source : String) : Except EvalError (List Located) :=
  Lexer.scan 0 source.toList

end Rulebook.Script
