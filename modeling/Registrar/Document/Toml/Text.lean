import Registrar.Document.Toml.Lines
import Registrar.Text.Digits

/-!
# Quoted texts of TOML

A text stands between double quotes, with escapes, or between apostrophes, as it is. Between three
quotes of either kind it may span lines: a line end right after the opening is dropped, and one or
two quotes right before the closing belong to the text.
-/

namespace Registrar.Document.Toml

/-! ## Escapes -/

/-- The character whose code the first `width` characters spell in hexadecimal digits. -/
def coded? (width : Nat) (cs : List Char) : Option (Char × List Char) := do
  let digits := cs.take width
  let n ← Registrar.Text.numeral? 16 digits
  if digits.length = width && n.isValidChar then some (Char.ofNat n, cs.drop width) else none

/-- The character that stands for what follows a backslash, and the rest. -/
def unescape? : List Char → Option (Char × List Char)
  | 'x' :: cs => coded? 2 cs
  | 'u' :: cs => coded? 4 cs
  | 'U' :: cs => coded? 8 cs
  | c :: cs =>
    let plain := [('b', '\x08'), ('t', '\t'), ('n', '\n'), ('f', '\x0c'), ('r', '\r'),
      ('e', '\x1b'), ('"', '"'), ('\\', '\\')]
    (plain.lookup c).map (·, cs)
  | [] => none

/-- Whether blanks and a line end come first, which a backslash joins with the next line. -/
def atFold (cs : List Char) : Bool :=
  match skipBlanks cs with
  | '\n' :: _ | '\r' :: '\n' :: _ => true
  | _ => false

/-- The text that written characters mean; `lines` if it may span lines, `escapes` if a backslash
has a meaning. The fuel is the number of characters. -/
def meaning? (lines escapes : Bool) : Nat → List Char → Option (List Char)
  | _, [] => some []
  | 0, _ => none
  | fuel + 1, '\n' :: cs => if lines then (meaning? lines escapes fuel cs).map ('\n' :: ·) else none
  | fuel + 1, '\r' :: '\n' :: cs =>
    if lines then (meaning? lines escapes fuel cs).map fun s => '\r' :: '\n' :: s else none
  | fuel + 1, c :: cs =>
    if escapes && c == '\\' then
      if lines && atFold cs then meaning? lines escapes fuel (skipLines cs)
      else (unescape? cs).bind fun (x, rest) => (meaning? lines escapes fuel rest).map (x :: ·)
    else if mayStandInLine c then (meaning? lines escapes fuel cs).map (c :: ·)
    else none

/-! ## Quotes -/

/-- What stands before a closing quote, and what stands after it. A character behind a backslash
does not close a text with escapes. -/
def splitQuote? (quote : Char) (escapes : Bool) : List Char → Option (List Char × List Char)
  | [] => none
  | c :: cs =>
    if c == quote then some ([], cs)
    else if escapes && c == '\\' then
      match cs with
      | [] => none
      | d :: cs => (splitQuote? quote escapes cs).map fun (raw, rest) => (c :: d :: raw, rest)
    else (splitQuote? quote escapes cs).map fun (raw, rest) => (c :: raw, rest)

/-- The same for a closing of three quotes; one or two more before it belong to the text. -/
def splitQuotes? (quote : Char) (escapes : Bool) : List Char → Option (List Char × List Char)
  | [] => none
  | c :: cs =>
    if [quote, quote, quote].isPrefixOf (c :: cs) then
      let rest := cs.drop 2
      let more := (rest.take 2).takeWhile (· == quote)
      some (more, rest.drop more.length)
    else if escapes && c == '\\' then
      match cs with
      | [] => none
      | d :: cs => (splitQuotes? quote escapes cs).map fun (raw, rest) => (c :: d :: raw, rest)
    else (splitQuotes? quote escapes cs).map fun (raw, rest) => (c :: raw, rest)

/-- Drops a line end at the front. -/
def dropLineEnd : List Char → List Char
  | '\n' :: cs => cs
  | '\r' :: '\n' :: cs => cs
  | cs => cs

def finish? (lines escapes : Bool) (split : List Char × List Char) : Option (String × List Char) :=
  (meaning? lines escapes split.1.length split.1).map fun s => (String.ofList s, split.2)

/-- The text in one line that starts with this quote, and the rest. -/
def lineText? (quote : Char) (cs : List Char) : Option (String × List Char) :=
  (splitQuote? quote (quote == '"') cs).bind (finish? false (quote == '"'))

/-- The text behind three quotes, and the rest. -/
def linesText? (quote : Char) (cs : List Char) : Option (String × List Char) :=
  (splitQuotes? quote (quote == '"') (dropLineEnd cs)).bind (finish? true (quote == '"'))

/-- The text behind one quote: it may span lines if two more quotes follow. -/
def quotedText? (quote : Char) (cs : List Char) : Option (String × List Char) :=
  if [quote, quote].isPrefixOf cs then linesText? quote (cs.drop 2) else lineText? quote cs

/-! ## Keys -/

def isBareKeyChar (c : Char) : Bool :=
  c.isAlphanum || c == '_' || c == '-'

/-- A key, quoted or bare, and the rest. -/
def key? : List Char → Option (String × List Char)
  | '"' :: cs => lineText? '"' cs
  | '\'' :: cs => lineText? '\'' cs
  | cs =>
    let bare := cs.takeWhile isBareKeyChar
    if bare.isEmpty then none else some (String.ofList bare, cs.dropWhile isBareKeyChar)

/-- Keys with at most `points` points between them, and the rest behind blanks. -/
def keysWithin? (points : Nat) (cs : List Char) : Option (List String × List Char) := do
  let (key, rest) ← key? (skipBlanks cs)
  match points, skipBlanks rest with
  | points + 1, '.' :: rest =>
    (keysWithin? points rest).map fun (keys, rest) => (key :: keys, rest)
  | _, rest => some ([key], rest)

/-- How many keys a path may have. -/
def mostKeys : Nat := 80

/-- A path of keys with points between them, and the rest behind blanks. What follows a path that is
too long starts with a point. -/
def keyPath? (cs : List Char) : Option (List String × List Char) :=
  keysWithin? (mostKeys - 1) cs

end Registrar.Document.Toml
