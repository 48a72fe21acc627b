import Registrar.Text.Blank
import Registrar.Time.Duration

/-!
# Calendar dates

The registrar writes dates as `MM/DD/YYYY` or `YYYY-MM-DD`. `Date.read?` tries the two patterns in
that order; a date outside the Gregorian calendar or outside the supported years is no date.
-/

namespace Registrar

structure Date where
  year : Int
  month : Nat
  day : Nat
  deriving DecidableEq, Repr

namespace Date

def isLeap (year : Int) : Bool :=
  year % 4 == 0 && (year % 100 != 0 || year % 400 == 0)

def daysIn (year : Int) (month : Nat) : Nat :=
  match month with
  | 2 => if isLeap year then 29 else 28
  | 4 | 6 | 9 | 11 => 30
  | _ => 31

/-- Whether the calendar has this date and its year is supported. -/
def isValid (d : Date) : Bool :=
  -262143 ≤ d.year && d.year ≤ 262142 && 1 ≤ d.month && d.month ≤ 12 &&
    1 ≤ d.day && d.day ≤ daysIn d.year d.month

/-- One part of a date pattern. -/
inductive Part
  | month
  | day
  | year
  | mark (c : Char)
  deriving DecidableEq, Repr

def slashed : List Part := [.month, .mark '/', .day, .mark '/', .year]
def dashed : List Part := [.year, .mark '-', .month, .mark '-', .day]

/-- At least one and at most `width` digits at the front, as a number, and the rest. -/
def leadingNumber (width : Nat) (cs : List Char) : Option (Nat × List Char) :=
  let ds := (cs.take width).takeWhile Char.isDigit
  if ds.isEmpty then none
  else some (ds.foldl (fun n c => n * 10 + (c.toNat - 48)) 0, cs.drop ds.length)

/-- A year: up to four digits, or any number of digits after a sign. -/
def leadingYear : List Char → Option (Int × List Char)
  | '-' :: cs => (leadingNumber cs.length cs).map fun (n, rest) => (-(n : Int), rest)
  | '+' :: cs => (leadingNumber cs.length cs).map fun (n, rest) => ((n : Int), rest)
  | cs => (leadingNumber 4 cs).map fun (n, rest) => ((n : Int), rest)

/-- Reads the parts of a pattern in order; white space may stand before a number. -/
def readParts : List Part → Date → List Char → Option Date
  | [], d, cs => if cs.isEmpty then some d else none
  | .mark c :: parts, d, cs =>
    match cs with
    | x :: rest => if x == c then readParts parts d rest else none
    | [] => none
  | .month :: parts, d, cs =>
    (leadingNumber 2 (cs.dropWhile Text.isBlank)).bind fun (n, rest) =>
      readParts parts { d with month := n } rest
  | .day :: parts, d, cs =>
    (leadingNumber 2 (cs.dropWhile Text.isBlank)).bind fun (n, rest) =>
      readParts parts { d with day := n } rest
  | .year :: parts, d, cs =>
    (leadingYear (cs.dropWhile Text.isBlank)).bind fun (n, rest) =>
      readParts parts { d with year := n } rest

/-- The calendar date that a text spells in a pattern. -/
def readAs (parts : List Part) (cs : List Char) : Option Date :=
  (readParts parts ⟨0, 0, 0⟩ cs).filter isValid

/-- Reads a date as the registrar writes it. -/
def read? (s : String) : Option Date :=
  let cs := Text.trimChars s.toList
  (readAs slashed cs).or (readAs dashed cs)

/-- `YYYY-MM-DD`; years outside 0 to 9999 carry a sign. -/
def text (d : Date) : String :=
  let year :=
    if 0 ≤ d.year && d.year ≤ 9999 then Decimal.padded 4 d.year.toNat
    else if d.year < 0 then '-' :: Decimal.padded 4 d.year.natAbs
    else '+' :: Decimal.padded 4 d.year.natAbs
  String.ofList (year ++ '-' :: Decimal.padded 2 d.month ++ '-' :: Decimal.padded 2 d.day)

end Date

end Registrar
