import Registrar.Text.Digits
import Registrar.Text.Split

/-!
# Tables of characters

A property of characters is given as a text: `c0=41+300` is a code with its value, `5d0-5ea` a run
of codes and `100-12e/2=101` a run of every second code, all in hexadecimal. A value belongs to the
first code of its run; it grows with the code.
-/

namespace Registrar.Text

/-- The codes `first`, `first + step` and so on up to `last`, with the value of the first. -/
structure Run where
  first : Nat
  last : Nat
  step : Nat
  value : List Nat
  deriving DecidableEq, Repr

namespace Run

def covers (r : Run) (code : Nat) : Bool :=
  r.first ≤ code && code ≤ r.last && (code - r.first) % r.step == 0

def valueAt (r : Run) (code : Nat) : List Nat :=
  r.value.map (· + (code - r.first))

/-! ## Tables -/

/-- The first run that covers a code. -/
def find? (table : List Run) (c : Char) : Option Run :=
  table.find? (·.covers c.toNat)

/-- Whether a run covers a character. -/
def has (table : List Run) (c : Char) : Bool :=
  (find? table c).isSome

/-- The value of a character as characters. -/
def get? (table : List Run) (c : Char) : Option (List Char) :=
  (find? table c).map fun r => (r.valueAt c.toNat).map Char.ofNat

/-! ## Reading -/

def ofNumeral (cs : List Char) : Nat :=
  (numeral? 16 cs).getD 0

/-- Reads a run; without an end it holds one code, without a step every code. -/
def ofChars (cs : List Char) : Run :=
  let (codes, value) := cut '=' cs
  let (range, step) := cut '/' codes
  let (first, last) := cut '-' range
  { first := ofNumeral first
    last := ofNumeral (last.getD first)
    step := (step.map ofNumeral).getD 1
    value := (value.map fun v => (splitOn '+' v).map ofNumeral).getD [] }

/-- Reads the runs of a table; there are spaces or line ends between them. -/
def readAll (s : String) : List Run :=
  let spaced := s.toList.map fun c => if c == '\n' then ' ' else c
  ((splitOn ' ' spaced).filter (· ≠ [])).map ofChars

end Run

end Registrar.Text
