import Registrar.Decimal.Literal
import Registrar.Text.Digits

/-!
# Character references

`unescape` replaces the five predefined entities and the numeric references of a text, and refuses
every other use of `&`: `quick-xml` knows no entities that a document declares. `escape` writes a
text so that `unescape` gives it back.
-/

namespace Registrar.Xml

/-- The number that hexadecimal digits spell; nothing without digits. -/
def readHex? (cs : List Char) : Option Nat :=
  if cs.isEmpty then none else Text.numeral? 16 cs

/-- The character with a code, unless it is zero, a surrogate or too large. -/
def characterOf? (code : Nat) : Option Char :=
  if h : code.isValidChar then (if code = 0 then none else some (Char.ofNatAux code h)) else none

/-- The character that the name between `&` and `;` stands for. -/
def entity? : List Char → Option Char
  | ['l', 't'] => some '<'
  | ['g', 't'] => some '>'
  | ['a', 'm', 'p'] => some '&'
  | ['a', 'p', 'o', 's'] => some '\''
  | ['q', 'u', 'o', 't'] => some '"'
  | '#' :: 'x' :: cs => (readHex? cs).bind characterOf?
  | '#' :: cs =>
    if cs.isEmpty || !cs.all Char.isDigit then none else characterOf? (Decimal.ofDigits cs)
  | _ => none

/-- Replaces references; `pending` holds the characters since an open `&`, last first. -/
def unescapeFrom : Option (List Char) → List Char → Option (List Char)
  | none, [] => some []
  | some _, [] => none
  | none, c :: cs =>
    if c == '&' then unescapeFrom (some []) cs else (unescapeFrom none cs).map (c :: ·)
  | some name, c :: cs =>
    if c == '&' then none
    else if c == ';' then
      (entity? name.reverse).bind fun x => (unescapeFrom none cs).map (x :: ·)
    else unescapeFrom (some (c :: name)) cs

/-- Replaces the references of a text; nothing if one of them is unknown or open. -/
def unescape (cs : List Char) : Option (List Char) :=
  unescapeFrom none cs

/-- The escaped form of a character. -/
def escapeChar (c : Char) : List Char :=
  if c == '<' then ['&', 'l', 't', ';']
  else if c == '>' then ['&', 'g', 't', ';']
  else if c == '&' then ['&', 'a', 'm', 'p', ';']
  else if c == '\'' then ['&', 'a', 'p', 'o', 's', ';']
  else if c == '"' then ['&', 'q', 'u', 'o', 't', ';']
  else [c]

/-- Writes a text with the predefined entities. -/
def escape (cs : List Char) : List Char :=
  cs.flatMap escapeChar

theorem unescape_escape (cs : List Char) : unescape (escape cs) = some cs := by
  induction cs with
  | nil => rfl
  | cons c cs ih =>
    simp only [unescape, escape, List.flatMap_cons] at ih ⊢
    rw [escapeChar]
    repeat' split
    all_goals simp_all [unescapeFrom, entity?]

end Registrar.Xml
