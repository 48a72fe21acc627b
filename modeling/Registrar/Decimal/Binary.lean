/-!
# Doubles as exact numbers

`Binary.ofFloat` opens a double into sign, whole mantissa and power of two, so that all further
arithmetic on it is exact.
-/

namespace Registrar.Decimal

/-- A double; `finite negative m q` is ±m · 2^q. -/
inductive Binary
  | finite (negative : Bool) (mantissa : Nat) (exponent : Int)
  | infinite (negative : Bool)
  | undefined
  deriving DecidableEq, Repr

/-- How many fractions there are between two powers of two: 2⁵². -/
def fractionCount : Nat := 4503599627370496

namespace Binary

/-- Sign, eleven exponent bits and fifty-two fraction bits. -/
def ofBits (bits : Nat) : Binary :=
  let negative := bits / 9223372036854775808 % 2 == 1
  let power : Nat := bits / fractionCount % 2048
  let fraction := bits % fractionCount
  if power == 2047 then (if fraction == 0 then .infinite negative else .undefined)
  else if power == 0 then .finite negative fraction (-1074)
  else .finite negative (fractionCount + fraction) ((power : Int) - 1075)

def ofFloat (x : Float) : Binary :=
  ofBits x.toBits.toNat

end Binary

/-- The quotient nearest to `num / den`; a tie goes to the even neighbour. -/
def roundHalfEven (num den : Nat) : Nat :=
  let q := num / den
  let twice := 2 * (num % den)
  if twice < den then q
  else if den < twice then q + 1
  else if q % 2 == 0 then q else q + 1

end Registrar.Decimal
