import Registrar.Text.Digits
import Registrar.Text.Unprintable

/-!
# Quoted text in messages

`quoted` encloses a text in double quotes. Quote, backslash, tab, line feed, carriage return and the
zero character are written with a backslash, characters without a printed form by their hexadecimal
code in braces, and everything else, the apostrophe included, as it is.
-/

namespace Registrar.Text

/-- The written form of one character between quotes. -/
def escapeChar (c : Char) : List Char :=
  if c == '"' then ['\\', '"']
  else if c == '\\' then ['\\', '\\']
  else if c == '\n' then ['\\', 'n']
  else if c == '\t' then ['\\', 't']
  else if c == '\r' then ['\\', 'r']
  else if c == '\x00' then ['\\', '0']
  else if 0x20 ≤ c.toNat && c.toNat < 0x7F then [c]
  else if isUnprintable c then ['\\', 'u', '\x7b'] ++ hexadecimal c.toNat ++ ['\x7d']
  else [c]

/-- A text between double quotes. -/
def quoted (s : String) : String :=
  String.ofList ('"' :: s.toList.flatMap escapeChar ++ ['"'])

end Registrar.Text
