import Registrar.Decimal.Shortest
import Registrar.Document.Value
import Registrar.Text.Digits

/-!
# JSON

`Json.read?` reads a document, `Json.text` writes one. A number is read from its first digits, as
many as fit into 64 bits, and scaled by a power of ten. A text with half a surrogate pair and a
number beyond the doubles are unreadable values, and so is a table with such a key. The rules are
those of `serde_json`, also where it does not round a number to the nearest double.
-/

namespace Registrar.Document.Json

def isBlank (c : Char) : Bool :=
  c == ' ' || c == '\n' || c == '\t' || c == '\r'

def skipBlanks (cs : List Char) : List Char :=
  cs.dropWhile isBlank

/-! ## Numbers -/

/-- A leading number: sign, whole digits, fraction digits and exponent, and the rest. -/
structure NumberText where
  negative : Bool
  whole : List Char
  fraction : Option (List Char)
  /-- Sign and digits. -/
  exponent : Option (Bool × List Char)

/-- The fraction at the front, if there is one; nothing if a point stands without digits. -/
def splitFraction? : List Char → Option (Option (List Char) × List Char)
  | '.' :: cs =>
    let ds := cs.takeWhile Char.isDigit
    if ds.isEmpty then none else some (some ds, cs.dropWhile Char.isDigit)
  | cs => some (none, cs)

/-- The exponent at the front, if there is one; nothing if it has no digits. -/
def splitExponent? : List Char → Option (Option (Bool × List Char) × List Char)
  | c :: cs =>
    if c == 'e' || c == 'E' then
      let (negative, cs) := match cs with
        | '-' :: cs => (true, cs)
        | '+' :: cs => (false, cs)
        | cs => (false, cs)
      let ds := cs.takeWhile Char.isDigit
      if ds.isEmpty then none else some (some (negative, ds), cs.dropWhile Char.isDigit)
    else some (none, c :: cs)
  | [] => some (none, [])

/-- The whole digits at the front; a zero stands alone. -/
def splitWhole? (cs : List Char) : Option (List Char × List Char) :=
  match cs with
  | '0' :: rest => if (rest.head?.any Char.isDigit) then none else some (['0'], rest)
  | _ =>
    let ds := cs.takeWhile Char.isDigit
    if ds.isEmpty then none else some (ds, cs.dropWhile Char.isDigit)

def splitNumber? (cs : List Char) : Option (NumberText × List Char) := do
  let (negative, cs) := match cs with
    | '-' :: cs => (true, cs)
    | cs => (false, cs)
  let (whole, cs) ← splitWhole? cs
  let (fraction, cs) ← splitFraction? cs
  let (exponent, cs) ← splitExponent? cs
  some (⟨negative, whole, fraction, exponent⟩, cs)

/-- Appends digits to a number as long as it fits into 64 bits; the digits that are left over. -/
def fill (n : Nat) : List Char → Nat × List Char
  | [] => (n, [])
  | c :: cs =>
    let m := 10 * n + (c.toNat - 48)
    if m ≤ Decimal.max64 then fill m cs else (n, c :: cs)

/-- `x · 10^exponent`, in steps that a double can hold; nothing beyond the doubles. -/
def scale (fuel : Nat) (x : Float) (exponent : Int) : Option Float :=
  match fuel with
  | 0 => some x
  | fuel + 1 =>
    if exponent.natAbs ≤ 308 then
      let power := Float.ofScientific 1 false exponent.natAbs
      if 0 ≤ exponent then
        let y := x * power
        if y.isInf then none else some y
      else some (x / power)
    else if x == 0.0 then some x
    else if 0 ≤ exponent then none
    else scale fuel (x / Float.ofScientific 1 false 308) (exponent + 308)

/-- The largest exponent that is counted. -/
def topExponent : Nat := 2147483647

/-- The double of a number with a fraction, an exponent or too many digits. -/
def floatOf (t : NumberText) : Option Float :=
  let (n, surplus) := fill 0 t.whole
  let ds := t.fraction.getD []
  let (m, left) := fill n ds
  let places : Int := (surplus.length : Int) - (ds.length - left.length : Nat)
  let magnitude :=
    match t.exponent with
    | none => scale 10 (Float.ofNat m) places
    | some (negative, es) =>
      let e := es.foldl (fun (e : Nat) (c : Char) => 10 * e + (c.toNat - 48)) 0
      if topExponent < e then if m != 0 && !negative then none else some 0.0
      else
        let e := if negative then places - e else places + e
        scale 10 (Float.ofNat m) (if e.natAbs ≤ 10000 then e else if e < 0 then -10000 else 10000)
  magnitude.map fun x => if t.negative then -x else x

/-- The value of a number. A negative zero and what exceeds 64 bits are doubles. -/
def numberValue (t : NumberText) : Value :=
  let (n, surplus) := fill 0 t.whole
  let asFloat := match floatOf t with
    | some x => Value.float x
    | none => .unreadable
  if t.fraction.isSome || t.exponent.isSome || !surplus.isEmpty then asFloat
  else if !t.negative then .integer n
  else if n = 0 || 9223372036854775808 < n then asFloat
  else .integer (-n)

/-! ## Texts -/

/-- The code unit that four hexadecimal digits spell. -/
def unit? (a b c d : Char) : Option Nat :=
  Text.numeral? 16 [a, b, c, d]

/-- The character that a letter behind a backslash stands for. -/
def shortEscape? (c : Char) : Option Char :=
  [('"', '"'), ('\\', '\\'), ('/', '/'), ('b', '\x08'), ('f', '\x0c'), ('n', '\n'), ('r', '\r'),
    ('t', '\t')].lookup c

/-- The code units of a text up to its closing quote, where a character stands for itself. -/
def units : List Char → Option (List (Char ⊕ Nat) × List Char)
  | [] => none
  | '"' :: cs => some ([], cs)
  | '\\' :: 'u' :: a :: b :: c :: d :: cs => do
    let u ← unit? a b c d
    (units cs).map fun (us, rest) => (.inr u :: us, rest)
  | '\\' :: c :: cs => do
    let x ← shortEscape? c
    (units cs).map fun (us, rest) => (.inl x :: us, rest)
  | c :: cs =>
    if c.toNat < 0x20 || c == '\\' then none
    else (units cs).map fun (us, rest) => (.inl c :: us, rest)

/-- The characters of code units; two halves of a surrogate pair make one. -/
def ofUnits : List (Char ⊕ Nat) → Option (List Char)
  | [] => some []
  | .inl c :: us => (ofUnits us).map (c :: ·)
  | .inr u :: .inr v :: us =>
    if 0xD800 ≤ u && u < 0xDC00 then
      if 0xDC00 ≤ v && v < 0xE000 then
        (ofUnits us).map (Char.ofNat (0x10000 + (u - 0xD800) * 0x400 + (v - 0xDC00)) :: ·)
      else none
    else if 0xDC00 ≤ u && u < 0xE000 then none
    else (ofUnits (.inr v :: us)).map (Char.ofNat u :: ·)
  | .inr u :: us =>
    if 0xD800 ≤ u && u < 0xE000 then none else (ofUnits us).map (Char.ofNat u :: ·)

/-- The text behind an opening quote, if it has one, and the rest. -/
def splitText? (cs : List Char) : Option (Option String × List Char) :=
  (units cs).map fun (us, rest) => ((ofUnits us).map String.ofList, rest)

def textValue : Option String → Value
  | some s => .text s
  | none => .unreadable

/-! ## Values -/

/-- A table, unless one of its keys is unreadable. -/
def tableValue (entries : List (Option String × Value)) : Value :=
  match entries.mapM fun (k, v) => k.map (·, v) with
  | some entries => .table entries
  | none => .unreadable

mutual

/-- A value at the front, and the rest. -/
def value : Nat → List Char → Option (Value × List Char)
  | 0, _ => none
  | fuel + 1, cs =>
    match skipBlanks cs with
    | 'n' :: 'u' :: 'l' :: 'l' :: rest => some (.null, rest)
    | 't' :: 'r' :: 'u' :: 'e' :: rest => some (.bool true, rest)
    | 'f' :: 'a' :: 'l' :: 's' :: 'e' :: rest => some (.bool false, rest)
    | '"' :: rest => (splitText? rest).map fun (s, rest) => (textValue s, rest)
    | '[' :: rest =>
      match skipBlanks rest with
      | ']' :: rest => some (.list [], rest)
      | rest => (items fuel rest).map fun (vs, rest) => (.list vs, rest)
    | '\x7b' :: rest =>
      match skipBlanks rest with
      | '\x7d' :: rest => some (.table [], rest)
      | rest => (entries fuel rest).map fun (es, rest) => (tableValue es, rest)
    | cs => (splitNumber? cs).map fun (t, rest) => (numberValue t, rest)

/-- The items up to the closing bracket. -/
def items : Nat → List Char → Option (List Value × List Char)
  | 0, _ => none
  | fuel + 1, cs => do
    let (v, rest) ← value fuel cs
    match skipBlanks rest with
    | ',' :: rest => (items fuel rest).map fun (vs, rest) => (v :: vs, rest)
    | ']' :: rest => some ([v], rest)
    | _ => none

/-- The entries up to the closing brace. -/
def entries : Nat → List Char → Option (List (Option String × Value) × List Char)
  | 0, _ => none
  | fuel + 1, cs =>
    match skipBlanks cs with
    | '"' :: rest => do
      let (key, rest) ← splitText? rest
      match skipBlanks rest with
      | ':' :: rest => do
        let (v, rest) ← value fuel rest
        match skipBlanks rest with
        | ',' :: rest => (entries fuel rest).map fun (es, rest) => ((key, v) :: es, rest)
        | '\x7d' :: rest => some ([(key, v)], rest)
        | _ => none
      | _ => none
    | _ => none

end

/-- Reads a whole document. -/
def read? (s : String) : Option Value :=
  match value (2 * s.length + 2) s.toList with
  | some (v, rest) => if (skipBlanks rest).isEmpty then some v else none
  | none => none

/-! ## Writing -/

/-- The code of a control character as four hexadecimal digits. -/
def unitText (n : Nat) : List Char :=
  let ds := Nat.toDigits 16 n
  List.replicate (4 - ds.length) '0' ++ ds

def escapeChar (c : Char) : List Char :=
  if c == '"' then ['\\', '"']
  else if c == '\\' then ['\\', '\\']
  else if c == '\x08' then ['\\', 'b']
  else if c == '\x0c' then ['\\', 'f']
  else if c == '\n' then ['\\', 'n']
  else if c == '\r' then ['\\', 'r']
  else if c == '\t' then ['\\', 't']
  else if c.toNat < 0x20 then '\\' :: 'u' :: unitText c.toNat
  else [c]

def textChars (s : String) : List Char :=
  '"' :: s.toList.flatMap escapeChar ++ ['"']

def integerChars (n : Int) : List Char :=
  if n < 0 then '-' :: Decimal.digits n.natAbs else Decimal.digits n.natAbs

mutual

/-- The characters of a value. A number that is not finite, and what has no value, is written as
nothing. -/
def chars : Value → List Char
  | .null | .moment | .unreadable => ['n', 'u', 'l', 'l']
  | .bool true => ['t', 'r', 'u', 'e']
  | .bool false => ['f', 'a', 'l', 's', 'e']
  | .integer n => integerChars n
  | .float x => if x.isFinite then Decimal.literal.chars x else ['n', 'u', 'l', 'l']
  | .text s => textChars s
  | .list vs => '[' :: itemChars vs ++ [']']
  | .table es => '\x7b' :: entryChars es ++ ['\x7d']

def itemChars : List Value → List Char
  | [] => []
  | [v] => chars v
  | v :: vs => chars v ++ ',' :: itemChars vs

def entryChars : List (String × Value) → List Char
  | [] => []
  | [(k, v)] => textChars k ++ ':' :: chars v
  | (k, v) :: es => textChars k ++ ':' :: chars v ++ ',' :: entryChars es

end

/-- Writes a document. -/
def text (v : Value) : String :=
  String.ofList (chars v)

end Registrar.Document.Json
