import Rulebook.Numeric.Style
import Rulebook.Text.Quoted

/-! Tokens of scripted expressions: symbols with a fixed spelling, numbers,
texts and names. -/
namespace Rulebook.Script
open Rulebook.Numeric Rulebook.Text

/-- Words and signs with a fixed spelling. -/
inductive Symbol where
  | and
  | or
  | not
  | true
  | false
  | nil
  | plus
  | minus
  | star
  | slash
  | percent
  | caret
  | dotDot
  | equal
  | notEqual
  | less
  | lessEqual
  | greater
  | greaterEqual
  | leftParen
  | rightParen
  | comma
deriving DecidableEq

namespace Symbol

def spelling : Symbol → String
  | and => "and"
  | or => "or"
  | not => "not"
  | true => "true"
  | false => "false"
  | nil => "nil"
  | plus => "+"
  | minus => "-"
  | star => "*"
  | slash => "/"
  | percent => "%"
  | caret => "^"
  | dotDot => ".."
  | equal => "=="
  | notEqual => "~="
  | less => "<"
  | lessEqual => "<="
  | greater => ">"
  | greaterEqual => ">="
  | leftParen => "("
  | rightParen => ")"
  | comma => ","

/-- The symbols that are spelled like names. -/
def keyword? (word : List Char) : Option Symbol :=
  [and, or, not, true, false, nil].find? fun symbol => symbol.spelling.toList == word

end Symbol

inductive Token where
  | symbol (which : Symbol)
  | number (value : Double)
  | text (value : String)
  | name (value : String)
deriving DecidableEq

/-- The token as error messages show it. -/
def Token.describe : Token → String
  | .symbol which => which.spelling
  | .number value => value.text
  | .text value => quoted value
  | .name value => value

/-- A token and the bytes of the source it covers. -/
structure Located where
  token : Token
  start : Nat
  stop : Nat
deriving DecidableEq

end Rulebook.Script
