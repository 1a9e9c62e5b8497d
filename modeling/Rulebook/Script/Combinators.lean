import Rulebook.Script.Token

/-! Parsers that are made of smaller ones. A parser reads tokens from a place on. It ends with
a value or without one, and either way it keeps the furthest place where it got stuck, with
all that could have gone on there; alternatives that were given up count as well. -/
namespace Rulebook.Script

/-- What could have gone on at some place. -/
inductive Pattern where
  | token (which : Token)
  | label (text : String)
  | finish
  | somethingElse
deriving DecidableEq

def Pattern.text : Pattern → String
  | .token which => "'" ++ which.describe ++ "'"
  | .label text => text
  | .finish => "end of expression"
  | .somethingElse => "something else"

/-- A place among tokens: how many were read and which are left. -/
structure Cursor where
  position : Nat
  rest : List Token

/-- A place where parsers got stuck: the token found there, none at the end, and what they
would have gone on with. -/
structure Stuck where
  position : Nat
  found : Option Token
  expected : List Pattern

/-- What could have gone on at one place by two accounts, each pattern once. -/
def Stuck.join (one other : Stuck) : Stuck :=
  { one with
    expected := one.expected ++ other.expected.filter fun pattern =>
      decide (pattern ∉ one.expected) }

/-- Of two places where parsers got stuck the further one. -/
def Stuck.furthest : Option Stuck → Option Stuck → Option Stuck
  | none, other => other
  | one, none => one
  | some one, some other =>
    if other.position < one.position then some one
    else if one.position < other.position then some other
    else some (one.join other)

/-- How reading ends: with a value and the place behind it, or without one. -/
structure Attempt (α : Type) where
  value? : Option (α × Cursor)
  stuck? : Option Stuck

def Parser (α : Type) : Type :=
  Cursor → Attempt α

namespace Parser

variable {α β : Type}

/-- Reads nothing. -/
protected def pure (value : α) : Parser α := fun cursor =>
  ⟨some (value, cursor), none⟩

/-- Reads two things in a row. -/
protected def bind (first : Parser α) (next : α → Parser β) : Parser β := fun cursor =>
  match first cursor with
  | ⟨none, stuck?⟩ => ⟨none, stuck?⟩
  | ⟨some (value, between), stuck?⟩ =>
    let last := next value between
    ⟨last.value?, Stuck.furthest stuck? last.stuck?⟩

instance : Monad Parser where
  pure := Parser.pure
  bind := Parser.bind

/-- Gets stuck at once. -/
def refuse (pattern : Pattern) : Parser α := fun cursor =>
  ⟨none, some ⟨cursor.position, cursor.rest.head?, [pattern]⟩⟩

/-- Reads one token that has a value. -/
def accept (value? : Token → Option α) (pattern : Pattern) : Parser α := fun cursor =>
  match cursor.rest with
  | [] => refuse pattern cursor
  | token :: rest =>
    match value? token with
    | some value => ⟨some (value, ⟨cursor.position + 1, rest⟩), none⟩
    | none => refuse pattern cursor

/-- Reads one of several kinds of tokens. -/
def select (value? : Token → Option α) : Parser α :=
  accept value? .somethingElse

/-- Reads one certain symbol. -/
def just (symbol : Symbol) : Parser Unit :=
  accept (fun token => if token = .symbol symbol then some () else none) (.token (.symbol symbol))

/-- Reads nothing, and nothing may be left. -/
def finish : Parser Unit := fun cursor =>
  match cursor.rest with
  | [] => ⟨some ((), cursor), none⟩
  | _ :: _ => refuse .finish cursor

/-- Tries parsers in turn, each from the same place. -/
def choice : List (Parser α) → Parser α
  | [] => fun _ => ⟨none, none⟩
  | first :: others => fun cursor =>
    match first cursor with
    | ⟨some read, stuck?⟩ => ⟨some read, stuck?⟩
    | ⟨none, stuck?⟩ =>
      let other := choice others cursor
      ⟨other.value?, Stuck.furthest stuck? other.stuck?⟩

/-- Reads what may be missing; without it nothing is read. -/
def orNot (parser : Parser α) : Parser (Option α) := fun cursor =>
  match parser cursor with
  | ⟨some (value, behind), stuck?⟩ => ⟨some (some value, behind), stuck?⟩
  | ⟨none, stuck?⟩ => ⟨some (none, cursor), stuck?⟩

/-- Reads one thing again and again, at most as often as given. -/
def repeatedWithin (parser : Parser α) : Nat → Parser (List α)
  | 0 => pure []
  | bound + 1 => do
    match ← parser.orNot with
    | none => return []
    | some value => return value :: (← repeatedWithin parser bound)

/-- Reads one thing again and again. What reads at least one token each time ends before the
bound does. -/
def repeated (parser : Parser α) : Parser (List α) := fun cursor =>
  repeatedWithin parser (cursor.rest.length + 1) cursor

/-- Reads things with separators between them, if there are any. A separator that nothing
follows is not read. -/
def separatedBy (parser : Parser α) (separator : Parser Unit) : Parser (List α) := do
  match ← parser.orNot with
  | none => return []
  | some first =>
    return first :: (← (do separator; parser).repeated)

/-- Reads something in brackets. -/
def parenthesized (parser : Parser α) : Parser α := do
  just .leftParen
  let value ← parser
  just .rightParen
  return value

/-- Gives all that could have gone on at the first token one name. -/
def labelled (parser : Parser α) (label : String) : Parser α := fun cursor =>
  let attempt := parser cursor
  ⟨attempt.value?, attempt.stuck?.map fun stuck =>
    if stuck.position = cursor.position then { stuck with expected := [.label label] } else stuck⟩

/-- A parser in terms of itself, nested at most as deeply as given. -/
def recursiveWithin (body : Parser α → Parser α) : Nat → Parser α
  | 0 => fun _ => ⟨none, none⟩
  | bound + 1 => body (recursiveWithin body bound)

/-- A parser in terms of itself. What reads a token before it gets back to itself is never
nested as deeply as the bound. -/
def recursive (body : Parser α → Parser α) : Parser α := fun cursor =>
  recursiveWithin body (cursor.rest.length + 1) cursor

end Parser

end Rulebook.Script
