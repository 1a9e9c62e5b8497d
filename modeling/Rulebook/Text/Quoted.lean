import Rulebook.Text.Combining
import Rulebook.Text.Unprintable

/-! Text in double quotes for messages. Line breaks, tabs, quotes and
backslashes are escaped by a letter or by a backslash, and whatever would not
show by itself, or would join the character before it, by its code point. -/
namespace Rulebook.Text

/-- How one character is written between the quotes. -/
def escaped (char : Char) : String :=
  match char with
  | '\x00' => "\\0"
  | '\t' => "\\t"
  | '\r' => "\\r"
  | '\n' => "\\n"
  | '"' => "\\\""
  | '\\' => "\\\\"
  | _ =>
    if ' ' ≤ char ∧ char ≤ '~' then char.toString
    else if isCombining char || isUnprintable char then
      "\\u\x7b" ++ String.ofList (Nat.toDigits 16 char.toNat) ++ "\x7d"
    else char.toString

/-- The text between double quotes. -/
def quoted (text : String) : String :=
  "\"" ++ String.join (text.toList.map escaped) ++ "\""

end Rulebook.Text
