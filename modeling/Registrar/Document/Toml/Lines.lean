/-!
# Blanks, comments and line ends

What may stand between the parts of a TOML document. A line ends in a line feed, with or without a
carriage return before it, and holds no other control character than tabs.
-/

namespace Registrar.Document.Toml

def isBlank (c : Char) : Bool :=
  c == ' ' || c == '\t'

def skipBlanks (cs : List Char) : List Char :=
  cs.dropWhile isBlank

/-- Whether a character may stand in a line, in a comment or between quotes. -/
def mayStandInLine (c : Char) : Bool :=
  c == '\t' || (0x20 ≤ c.toNat && c.toNat ≠ 0x7F)

/-- What follows blanks, line ends and comments; nothing if a comment is broken. -/
def skipFrom (inComment : Bool) : List Char → Option (List Char)
  | [] => some []
  | '\n' :: cs => skipFrom false cs
  | '\r' :: '\n' :: cs => skipFrom false cs
  | c :: cs =>
    if inComment then if mayStandInLine c then skipFrom true cs else none
    else if c == '#' then skipFrom true cs
    else if isBlank c then skipFrom false cs
    else some (c :: cs)

/-- What follows blanks, line ends and comments. -/
def skipGaps (cs : List Char) : Option (List Char) :=
  skipFrom false cs

/-- Whether a line ends here, up to blanks and a comment. -/
def atLineEnd (cs : List Char) : Bool :=
  match skipBlanks cs with
  | [] | '#' :: _ | '\n' :: _ | '\r' :: '\n' :: _ => true
  | _ => false

/-- What follows blanks and line ends. -/
def skipLines : List Char → List Char
  | '\n' :: cs => skipLines cs
  | '\r' :: '\n' :: cs => skipLines cs
  | c :: cs => if isBlank c then skipLines cs else c :: cs
  | [] => []

end Registrar.Document.Toml
