import Registrar.Decimal.Whole

/-!
# Decimal literals

`Literal` is what a number text spells: a signed digit string with a power of ten, an infinity or no
number at all. `Literal.read` is the grammar, `Literal.toFloat` the nearest double.
-/

namespace Registrar.Decimal

/-- What a number text spells; `finite negative digits exponent` is ±digits · 10^exponent. -/
inductive Literal
  | finite (negative : Bool) (digits : Nat) (exponent : Int)
  | infinite (negative : Bool)
  | undefined
  deriving DecidableEq, Repr

/-- Why a text is no number. -/
inductive LiteralFault
  | empty
  | malformed
  deriving DecidableEq, Repr

def LiteralFault.message : LiteralFault → String
  | .empty => "cannot parse float from empty string"
  | .malformed => "invalid float literal"

/-- The number that a digit string spells. -/
def ofDigits (cs : List Char) : Nat :=
  cs.foldl (fun n c => n * 10 + (c.toNat - 48)) 0

/-- A leading sign and the rest; no sign is a plus. -/
def splitSign : List Char → Bool × List Char
  | '-' :: cs => (true, cs)
  | '+' :: cs => (false, cs)
  | cs => (false, cs)

/-- The exponent part: nothing, or `e` with an optional sign and at least one digit. -/
def readExponent : List Char → Option Int
  | [] => some 0
  | c :: cs =>
    if c == 'e' || c == 'E' then
      let (negative, ds) := splitSign cs
      if ds.isEmpty || !ds.all Char.isDigit then none
      else some (if negative then -(ofDigits ds : Int) else (ofDigits ds : Int))
    else none

namespace Literal

/-- An unsigned number: digits on at least one side of an optional point, then the exponent part. -/
def readMagnitude (negative : Bool) (cs : List Char) : Option Literal :=
  let whole := cs.takeWhile Char.isDigit
  let rest := cs.dropWhile Char.isDigit
  let (fraction, tail) := match rest with
    | '.' :: more => (more.takeWhile Char.isDigit, more.dropWhile Char.isDigit)
    | _ => ([], rest)
  if whole.isEmpty && fraction.isEmpty then none
  else (readExponent tail).map fun e =>
    .finite negative (ofDigits (whole ++ fraction)) (e - fraction.length)

/-- Reads a literal: a sign, then a magnitude or one of the names of infinity and of no number. -/
def read (cs : List Char) : Except LiteralFault Literal :=
  if cs.isEmpty then .error .empty
  else
    let (negative, rest) := splitSign cs
    let name := String.ofList (rest.map Char.toLower)
    if name == "nan" then .ok .undefined
    else if name == "inf" || name == "infinity" then .ok (.infinite negative)
    else match readMagnitude negative rest with
      | some literal => .ok literal
      | none => .error .malformed

/-- The double nearest to `digits · 10^exponent`; far exponents need no computation. -/
def nearest (digits : Nat) (exponent : Int) : Float :=
  let size : Int := (Nat.toDigits 10 digits).length + exponent
  if digits == 0 then 0.0
  else if size > 310 then 1.0 / 0.0
  else if size < -330 then 0.0
  else Float.ofScientific digits (exponent < 0) exponent.natAbs

/-- The double nearest to a literal. -/
def toFloat : Literal → Float
  | .finite negative n e => if negative then -(nearest n e) else nearest n e
  | .infinite negative => if negative then -1.0 / 0.0 else 1.0 / 0.0
  | .undefined => 0.0 / 0.0

end Literal

/-- Reads the double nearest to a number text. -/
def readFloat (s : String) : Except LiteralFault Float :=
  (Literal.read s.toList).map Literal.toFloat

end Registrar.Decimal
