import Rulebook.Json.Basic

/-! Reading of JSON texts. A text is first divided into items: scalars and
punctuation. The items then drive a machine whose state holds what is open and
what may come next; strings are checked to be text only where they are used. -/
namespace Rulebook
open Numeric

/-- A scalar or a sign of punctuation. -/
inductive JsonItem where
  | scalar (value : Json)
  | leftBracket
  | rightBracket
  | leftBrace
  | rightBrace
  | comma
  | colon

namespace Json

def isBlank (char : Char) : Bool :=
  char == ' ' || char == '\n' || char == '\t' || char == '\r'

def hexValue? (char : Char) : Option Nat :=
  if '0' ≤ char ∧ char ≤ '9' then some (char.toNat - '0'.toNat)
  else if 'a' ≤ char ∧ char ≤ 'f' then some (char.toNat - 'a'.toNat + 10)
  else if 'A' ≤ char ∧ char ≤ 'F' then some (char.toNat - 'A'.toNat + 10)
  else none

/-- The number written by four hexadecimal digits. -/
def hexUnit? (a b c d : Char) : Option Nat := do
  return 4096 * (← hexValue? a) + 256 * (← hexValue? b) + 16 * (← hexValue? c) + (← hexValue? d)

/-- The character that a backslash and a letter or sign stand for. -/
def escape? (char : Char) : Option Char :=
  match char with
  | '"' => some '"'
  | '\\' => some '\\'
  | '/' => some '/'
  | 'b' => some '\x08'
  | 'f' => some '\x0c'
  | 'n' => some '\n'
  | 'r' => some '\r'
  | 't' => some '\t'
  | _ => none

/-- The code points and surrogates of a string up to its closing quote, and the
text after that quote. -/
def scanString : List Char → Option (List Nat × List Char)
  | '"' :: rest => some ([], rest)
  | '\\' :: 'u' :: a :: b :: c :: d :: rest =>
    match hexUnit? a b c d, scanString rest with
    | some unit, some (units, after) => some (unit :: units, after)
    | _, _ => none
  | '\\' :: char :: rest =>
    match escape? char, scanString rest with
    | some meant, some (units, after) => some (meant.toNat :: units, after)
    | _, _ => none
  | char :: rest =>
    if char < ' ' ∨ char = '\\' then none
    else
      match scanString rest with
      | some (units, after) => some (char.toNat :: units, after)
      | none => none
  | [] => none

def isHighSurrogate (unit : Nat) : Bool :=
  0xD800 ≤ unit && unit < 0xDC00

def isLowSurrogate (unit : Nat) : Bool :=
  0xDC00 ≤ unit && unit < 0xE000

/-- The characters that code points and surrogates form; surrogates must come
in pairs. -/
def joinUnits : List Nat → Option (List Char)
  | [] => some []
  | [unit] =>
    if isHighSurrogate unit || isLowSurrogate unit then none else some [Char.ofNat unit]
  | unit :: next :: rest =>
    if isHighSurrogate unit then
      if isLowSurrogate next then
        (joinUnits rest).map
          (Char.ofNat (0x10000 + (unit - 0xD800) * 0x400 + (next - 0xDC00)) :: ·)
      else none
    else if isLowSurrogate unit then none
    else (joinUnits (next :: rest)).map (Char.ofNat unit :: ·)

/-- A number without its sign, if it is written as JSON allows: no zero leads
other digits. -/
def scanNumeral? (input : List Char) : Option Numeral :=
  let numeral := Numeral.scan input
  match numeral.whole with
  | [] => none
  | '0' :: _ :: _ => none
  | _ => some numeral

/-- The first item of a text that starts with a character, and the characters
it takes after that one. -/
def item? (first : Char) (rest : List Char) : Option (JsonItem × Nat) :=
  match first with
  | '[' => some (.leftBracket, 0)
  | ']' => some (.rightBracket, 0)
  | '{' => some (.leftBrace, 0)
  | '}' => some (.rightBrace, 0)
  | ',' => some (.comma, 0)
  | ':' => some (.colon, 0)
  | '"' =>
    (scanString rest).map fun (units, after) =>
      (.scalar (.text ((joinUnits units).map String.ofList)), rest.length - after.length)
  | '-' =>
    (scanNumeral? rest).map fun numeral => (.scalar (.number true numeral), numeral.text.length)
  | 't' => if rest.take 3 = ['r', 'u', 'e'] then some (.scalar (.boolean true), 3) else none
  | 'f' => if rest.take 4 = ['a', 'l', 's', 'e'] then some (.scalar (.boolean false), 4) else none
  | 'n' => if rest.take 3 = ['u', 'l', 'l'] then some (.scalar .null, 3) else none
  | _ =>
    (scanNumeral? (first :: rest)).map fun numeral =>
      (.scalar (.number false numeral), numeral.text.length - 1)

/-- The items of a text. -/
def items? : List Char → Option (List JsonItem)
  | [] => some []
  | first :: rest =>
    if isBlank first then items? rest
    else
      match item? first rest with
      | none => none
      | some (item, taken) =>
        match items? (rest.drop taken) with
        | none => none
        | some items => some (item :: items)
termination_by input => input.length
decreasing_by all_goals simp only [List.length_cons, List.length_drop]; omega

/-- A list or an object whose end is still to come, with what it holds so far. -/
inductive Open where
  | array (items : List Json)
  | object (fields : List (JsonText × Json)) (key : JsonText)

/-- What may come next. -/
inductive ReadState where
  /-- A value is due. -/
  | value (pending : List Open)
  /-- A list has begun. -/
  | arrayStart (pending : List Open)
  /-- An object has begun. -/
  | objectStart (pending : List Open)
  /-- A further key is due. -/
  | key (fields : List (JsonText × Json)) (pending : List Open)
  /-- A colon is due. -/
  | colon (fields : List (JsonText × Json)) (key : JsonText) (pending : List Open)
  /-- A value is complete. -/
  | complete (value : Json) (pending : List Open)

namespace ReadState

def begin? (pending : List Open) : JsonItem → Option ReadState
  | .scalar scalar => some (.complete scalar pending)
  | .leftBracket => some (.arrayStart pending)
  | .leftBrace => some (.objectStart pending)
  | _ => none

/-- Reads one item. -/
def step? : ReadState → JsonItem → Option ReadState
  | value pending, item => begin? pending item
  | arrayStart pending, .rightBracket => some (.complete (.array []) pending)
  | arrayStart pending, item => begin? (.array [] :: pending) item
  | objectStart pending, .rightBrace => some (.complete (.object []) pending)
  | objectStart pending, .scalar (.text name) => some (.colon [] name pending)
  | key fields pending, .scalar (.text name) => some (.colon fields name pending)
  | colon fields name pending, .colon => some (.value (.object fields name :: pending))
  | complete last (.array items :: pending), .comma =>
    some (.value (.array (items ++ [last]) :: pending))
  | complete last (.array items :: pending), .rightBracket =>
    some (.complete (.array (items ++ [last])) pending)
  | complete last (.object fields name :: pending), .comma =>
    some (.key (fields ++ [(name, last)]) pending)
  | complete last (.object fields name :: pending), .rightBrace =>
    some (.complete (.object (fields ++ [(name, last)])) pending)
  | _, _ => none

/-- Reads the remaining items, which must end with one complete value. -/
def run : ReadState → List JsonItem → Option Json
  | complete whole [], [] => some whole
  | _, [] => none
  | state, item :: rest =>
    match step? state item with
    | some next => run next rest
    | none => none

end ReadState

/-- The value that a text writes. -/
def read? (text : String) : Option Json := do
  ReadState.run (.value []) (← items? text.toList)

end Json

end Rulebook
