import Registrar.Decimal.Binary
import Registrar.Decimal.Whole

/-!
# The fewest digits that read back

`shortest` finds, for m · 2^q, the decimal of fewest digits among those that round to it. It tests
on each decimal grid, coarsest first, the two neighbours of the value; the first grid with a hit
gives the answer. `Style` holds how such a decimal is laid out, and `plain` and `literal` are the
two layouts of this library.
-/

namespace Registrar.Decimal

/-- A quotient of natural numbers, with the denominator kept. -/
structure Ratio where
  num : Nat
  den : Nat
  deriving DecidableEq, Repr

namespace Ratio

/-- The number `n · base^e`. -/
def scaled (base n : Nat) (e : Int) : Ratio :=
  if e < 0 then ⟨n, Nat.pow base e.natAbs⟩ else ⟨n * Nat.pow base e.natAbs, 1⟩

def le (a b : Ratio) : Bool :=
  a.num * b.den ≤ b.num * a.den

def lt (a b : Ratio) : Bool :=
  a.num * b.den < b.num * a.den

/-- Whether `x` is at least as near to `b` as to `a`, for `a ≤ x ≤ b`. -/
def nearerAbove (a x b : Ratio) : Bool :=
  Ratio.le ⟨a.num * b.den + b.num * a.den, a.den * b.den⟩ ⟨2 * x.num, x.den⟩

end Ratio

/-- The numbers that round to m · 2^q: its two ends, and whether the ends belong to it. -/
structure RoundingInterval where
  low : Ratio
  high : Ratio
  closed : Bool

/-- The step below a power of two is half as wide as the step above. -/
def RoundingInterval.of (m : Nat) (q : Int) : RoundingInterval :=
  let below := if m == fractionCount && q > -1074 then 1 else 2
  { low := .scaled 2 (4 * m - below) (q - 2)
    high := .scaled 2 (4 * m + 2) (q - 2)
    closed := m % 2 == 0 }

def RoundingInterval.contains (i : RoundingInterval) (x : Ratio) : Bool :=
  if i.closed then i.low.le x && x.le i.high else i.low.lt x && x.lt i.high

/-- The exponent of the leading decimal digit of a positive number. -/
def leadingExponent (x : Ratio) : Int :=
  ((Nat.toDigits 10 (x.num * Nat.pow 10 400 / x.den)).length : Int) - 401

/-- The neighbours of `x` on the grid of step 10^j, if one of them lies in the interval. -/
def onGrid (i : RoundingInterval) (x : Ratio) (j : Int) : Option Nat :=
  let step := Ratio.scaled 10 1 j
  let c := x.num * step.den / (x.den * step.num)
  let below := Ratio.scaled 10 c j
  let above := Ratio.scaled 10 (c + 1) j
  match i.contains below && c != 0, i.contains above with
  | true, true => some (if Ratio.nearerAbove below x above then c + 1 else c)
  | true, false => some c
  | false, true => some (c + 1)
  | false, false => none

/-- The first grid with a hit among those of `n`, `n + 1`, … digits. -/
def firstGrid (i : RoundingInterval) (x : Ratio) (lead : Int) : Nat → Nat → Nat × Int
  | 0, _ => (0, 0)
  | left + 1, n =>
    let j := lead + 1 - n
    match onGrid i x j with
    | some c => (c, j)
    | none => firstGrid i x lead left (n + 1)

/-- Digits and exponent of the shortest decimal that rounds to m · 2^q, for positive m. -/
def shortest (m : Nat) (q : Int) : Nat × Int :=
  let x := Ratio.scaled 2 m q
  firstGrid (.of m q) x (leadingExponent x) 17 1

/-- How a decimal is laid out. -/
structure Style where
  /-- The leading exponents written with an exponent part. -/
  exponential : Int → Bool
  /-- What follows a whole number. -/
  wholeTail : List Char

/-- Positional for every size, whole numbers without a point. -/
def plain : Style := ⟨fun _ => false, []⟩

/-- Exponential from 10^16 on and below 10^-4, whole numbers with `.0`. -/
def literal : Style := ⟨fun e => e ≥ 16 || e < -4, ['.', '0']⟩

/-- Removes the zeros at the end of a digit string. -/
def stripZeros (ds : List Char) : List Char :=
  (ds.reverse.dropWhile (· == '0')).reverse

/-- Lays out the digits `ds`, of which the first stands for 10^lead. -/
def Style.layOut (style : Style) (ds : List Char) (lead : Int) : List Char :=
  if style.exponential lead then
    let exponent := if lead < 0 then '-' :: digits lead.natAbs else digits lead.natAbs
    match ds with
    | [] => []
    | [d] => d :: 'e' :: exponent
    | d :: more => d :: '.' :: more ++ 'e' :: exponent
  else if lead < 0 then
    '0' :: '.' :: List.replicate (lead.natAbs - 1) '0' ++ ds
  else
    let size := lead.natAbs + 1
    if ds.length ≤ size then ds ++ List.replicate (size - ds.length) '0' ++ style.wholeTail
    else ds.take size ++ '.' :: ds.drop size

/-- The text of a double in a style. -/
def Style.chars (style : Style) (x : Float) : List Char :=
  match Binary.ofFloat x with
  | .undefined => ['N', 'a', 'N']
  | .infinite negative => if negative then ['-', 'i', 'n', 'f'] else ['i', 'n', 'f']
  | .finite negative m q =>
    let magnitude :=
      if m == 0 then '0' :: style.wholeTail
      else
        let (c, j) := shortest m q
        let ds := digits c
        style.layOut (stripZeros ds) (ds.length + j - 1)
    if negative then '-' :: magnitude else magnitude

/-- The text of a double in a style. -/
def Style.text (style : Style) (x : Float) : String :=
  String.ofList (style.chars x)

end Registrar.Decimal
