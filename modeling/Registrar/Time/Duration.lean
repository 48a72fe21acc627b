import Registrar.Decimal.Whole

/-!
# Lengths of time

A `Duration` is a number of nanoseconds and an `Instant` the nanoseconds since a fixed start, so the
difference of two instants stops at zero when the later one comes first. `Duration.text` is the
spelling in messages.
-/

namespace Registrar

/-- A length of time in nanoseconds. -/
abbrev Duration := Nat

/-- A point in time: nanoseconds since a fixed start. -/
abbrev Instant := Nat

namespace Duration

def second : Duration := 1000000000
def millisecond : Duration := 1000000

def ofSeconds (n : Nat) : Duration := n * second
def ofMillis (n : Nat) : Duration := n * millisecond

/-- The longest duration: all seconds of 64 bits and all nanoseconds of the last one. -/
def longest : Duration := (Decimal.max64 + 1) * second - 1

/-- Whole milliseconds. -/
def millis (d : Duration) : Nat := d / millisecond

/-- A whole part and a fraction of `places` digits, written without zeros at the end. -/
def withFraction (whole fraction places : Nat) : List Char :=
  let ds := ((Decimal.padded places fraction).reverse.dropWhile (· == '0')).reverse
  Decimal.digits whole ++ (if ds.isEmpty then [] else '.' :: ds)

/-- The text of a duration: the largest unit that it fills, then the exact fraction. -/
def text (d : Duration) : String :=
  if second ≤ d then String.ofList (withFraction (d / second) (d % second) 9) ++ "s"
  else if millisecond ≤ d then
    String.ofList (withFraction (d / millisecond) (d % millisecond) 6) ++ "ms"
  else if 1000 ≤ d then String.ofList (withFraction (d / 1000) (d % 1000) 3) ++ "µs"
  else String.ofList (Decimal.digits d) ++ "ns"

end Duration

end Registrar
