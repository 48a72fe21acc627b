import Registrar.Decimal.Literal
import Registrar.Document.Value
import Registrar.Text.Digits
import Registrar.Text.Split
import Registrar.Time.Date

/-!
# Words of TOML

A value without quotes or brackets is a word: a truth value, a number, a date or a time.
Underscores may stand between the digits of a number. A whole number may have 128 bits, as the
`toml` reader has them.
-/

namespace Registrar.Document.Toml

/-! ## Numbers -/

/-- Digits without the underscores between them. -/
def joined? (isDigit : Char → Bool) (cs : List Char) : Option (List Char) :=
  let runs := Text.splitOn '_' cs
  if runs.all fun run => !run.isEmpty && run.all isDigit then some runs.flatten else none

/-- Decimal digits without leading zeros. -/
def wholeDigits? (cs : List Char) : Option (List Char) :=
  (joined? Char.isDigit cs).filter fun ds => ds.length == 1 || ds.head? != some '0'

/-- The number that digits of a base spell, with underscores between them. -/
def based? (base : Nat) (cs : List Char) : Option Nat :=
  (joined? (fun c => (Text.digitIn? base c).isSome) cs).bind (Text.numeral? base)

/-- A whole number: decimal with an optional sign, or hexadecimal, octal or binary. -/
def integer? : List Char → Option Int
  | '0' :: 'x' :: ds => (based? 16 ds).map Int.ofNat
  | '0' :: 'o' :: ds => (based? 8 ds).map Int.ofNat
  | '0' :: 'b' :: ds => (based? 2 ds).map Int.ofNat
  | cs =>
    let (negative, ds) := Decimal.splitSign cs
    (wholeDigits? ds).map fun ds =>
      if negative then -(Decimal.ofDigits ds : Int) else Decimal.ofDigits ds

/-- Whole numbers have a value within 128 bits, signed or not. -/
def isHeld (n : Int) : Bool :=
  -(Nat.pow 2 127 : Nat) ≤ n && n < (Nat.pow 2 128 : Nat)

/-- Whether these characters are an exponent without its letter. -/
def isExponent (cs : List Char) : Bool :=
  (joined? Char.isDigit (Decimal.splitSign cs).2).isSome

/-- Whether these characters, up to their sign, are a number with a fraction or an exponent. -/
def isFractional (cs : List Char) : Bool :=
  let inNumber (c : Char) := c.isDigit || c == '_'
  let whole := cs.takeWhile inNumber
  let (fraction, tail) := match cs.dropWhile inNumber with
    | '.' :: more => (some (more.takeWhile inNumber), more.dropWhile inNumber)
    | more => (none, more)
  let exponent := match tail with
    | c :: ds => if c == 'e' || c == 'E' then some (isExponent ds) else some false
    | [] => none
  (wholeDigits? whole).isSome && (fraction.isSome || exponent.isSome) &&
    fraction.all (fun ds => (joined? Char.isDigit ds).isSome) && exponent.getD true

/-- A number with a fraction or an exponent within the doubles, an infinity or no number. -/
def float? (cs : List Char) : Option Float :=
  let (negative, rest) := Decimal.splitSign cs
  if rest == ['i', 'n', 'f'] then some (Decimal.Literal.infinite negative).toFloat
  else if rest == ['n', 'a', 'n'] then some Decimal.Literal.undefined.toFloat
  else if isFractional rest then
    ((Decimal.Literal.readMagnitude negative (rest.filter (· != '_'))).map
      Decimal.Literal.toFloat).filter Float.isFinite
  else none

/-! ## Dates and times -/

/-- A number of exactly `width` digits, and the rest. -/
def fixed? (width : Nat) (cs : List Char) : Option (Nat × List Char) :=
  let ds := cs.take width
  if ds.length = width && ds.all Char.isDigit then some (Decimal.ofDigits ds, cs.drop width)
  else none

/-- What follows a date. -/
def afterDate? (cs : List Char) : Option (List Char) := do
  let (year, rest) ← fixed? 4 cs
  let .cons '-' rest := rest | none
  let (month, rest) ← fixed? 2 rest
  let .cons '-' rest := rest | none
  let (day, rest) ← fixed? 2 rest
  if Date.isValid ⟨year, month, day⟩ then some rest else none

/-- What follows a fraction of a second, if there is one. -/
def afterFraction? : List Char → Option (List Char)
  | '.' :: c :: cs => if c.isDigit then some (cs.dropWhile Char.isDigit) else none
  | '.' :: [] => none
  | cs => some cs

/-- What follows a time; its seconds may be left out. -/
def afterTime? (cs : List Char) : Option (List Char) := do
  let (hour, rest) ← fixed? 2 cs
  let .cons ':' rest := rest | none
  let (minute, rest) ← fixed? 2 rest
  if 23 < hour || 59 < minute then none
  else
    match rest with
    | ':' :: rest =>
      let (second, rest) ← fixed? 2 rest
      if 60 < second then none else afterFraction? rest
    | rest => some rest

/-- Whether these characters are nothing or the offset of a time zone. -/
def isOffset : List Char → Bool
  | [] | ['Z'] | ['z'] => true
  | c :: cs => (c == '+' || c == '-') && (match fixed? 2 cs with
    | some (hour, ':' :: rest) => hour ≤ 23 && (match fixed? 2 rest with
      | some (minute, []) => minute ≤ 59
      | _ => false)
    | _ => false)

/-- Whether these characters are a date, a time or both. -/
def isMoment (cs : List Char) : Bool :=
  match afterDate? cs with
  | some [] => true
  | some (c :: rest) =>
    (c == 'T' || c == 't' || c == ' ') && (afterTime? rest).any isOffset
  | none => afterTime? cs == some []

/-! ## Words -/

def isWordChar (c : Char) : Bool :=
  c.isAlphanum || c == '+' || c == '-' || c == '_' || c == '.' || c == ':'

/-- A word and the rest. A time belongs to the date that is one blank before it. -/
def splitWord (cs : List Char) : List Char × List Char :=
  let word := cs.takeWhile isWordChar
  let rest := cs.dropWhile isWordChar
  match rest with
  | ' ' :: c :: more =>
    if c.isDigit && afterDate? word == some [] then
      (word ++ ' ' :: (c :: more).takeWhile isWordChar, (c :: more).dropWhile isWordChar)
    else (word, rest)
  | _ => (word, rest)

/-- The value of a word. -/
def word? (cs : List Char) : Option Value :=
  if cs == ['t', 'r', 'u', 'e'] then some (.bool true)
  else if cs == ['f', 'a', 'l', 's', 'e'] then some (.bool false)
  else if isMoment cs then some .moment
  else
    match integer? cs with
    | some n => if isHeld n then some (.integer n) else none
    | none => (float? cs).map .float

end Registrar.Document.Toml
