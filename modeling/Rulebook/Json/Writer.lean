import Rulebook.Json.Basic

/-! Writing of JSON texts, without blanks or with a line for every member. -/
namespace Rulebook

namespace Json

/-- A character as it stands in a string. -/
def writtenChar (char : Char) : List Char :=
  match char with
  | '"' => ['\\', '"']
  | '\\' => ['\\', '\\']
  | '\x08' => ['\\', 'b']
  | '\x0c' => ['\\', 'f']
  | '\n' => ['\\', 'n']
  | '\r' => ['\\', 'r']
  | '\t' => ['\\', 't']
  | _ =>
    if char < ' ' then
      ['\\', 'u', '0', '0', Nat.digitChar (char.toNat / 16), Nat.digitChar (char.toNat % 16)]
    else [char]

def writtenString (text : String) : List Char :=
  '"' :: (text.toList.flatMap writtenChar ++ ['"'])

/-- A string. One that stands for no text is written as an empty one. -/
def writtenText (text : JsonText) : List Char :=
  writtenString (text.getD "")

def writtenScalar : Json → List Char
  | null => ['n', 'u', 'l', 'l']
  | boolean true => ['t', 'r', 'u', 'e']
  | boolean false => ['f', 'a', 'l', 's', 'e']
  | number negative numeral => (if negative then ['-'] else []) ++ numeral.text
  | text value => writtenText value
  | array _ => ['[', ']']
  | object _ => ['{', '}']

/-- A new line with two blanks for every level. -/
def lineBreak (level : Nat) : List Char :=
  '\n' :: List.replicate (2 * level) ' '

mutual

/-- A value without blanks. -/
def compactChars : Json → List Char
  | array (first :: rest) => '[' :: (compactChars first ++ compactItems rest)
  | object ((key, value) :: rest) =>
    '{' :: (writtenText key ++ ':' :: (compactChars value ++ compactFields rest))
  | scalar => writtenScalar scalar

def compactItems : List Json → List Char
  | [] => [']']
  | item :: rest => ',' :: (compactChars item ++ compactItems rest)

def compactFields : List (JsonText × Json) → List Char
  | [] => ['}']
  | (key, value) :: rest =>
    ',' :: (writtenText key ++ ':' :: (compactChars value ++ compactFields rest))

end

mutual

/-- A value with its members on lines of their own, as part of a text of a given
level. -/
def prettyChars (level : Nat) : Json → List Char
  | array (first :: rest) =>
    '[' :: (lineBreak (level + 1) ++ prettyChars (level + 1) first ++ prettyItems level rest)
  | object ((key, value) :: rest) =>
    '{' :: (lineBreak (level + 1) ++ writtenText key ++ ':' :: ' ' ::
      (prettyChars (level + 1) value ++ prettyFields level rest))
  | scalar => writtenScalar scalar

def prettyItems (level : Nat) : List Json → List Char
  | [] => lineBreak level ++ [']']
  | item :: rest =>
    ',' :: (lineBreak (level + 1) ++ prettyChars (level + 1) item ++ prettyItems level rest)

def prettyFields (level : Nat) : List (JsonText × Json) → List Char
  | [] => lineBreak level ++ ['}']
  | (key, value) :: rest =>
    ',' :: (lineBreak (level + 1) ++ writtenText key ++ ':' :: ' ' ::
      (prettyChars (level + 1) value ++ prettyFields level rest))

end

def compact (value : Json) : String :=
  String.ofList (compactChars value)

def pretty (value : Json) : String :=
  String.ofList (prettyChars 0 value)

end Json

end Rulebook
