import Registrar.Text.Split

/-!
# Labels in ASCII

`Punycode.encode` spells a label with characters outside ASCII in letters and digits: first its
ASCII characters, then, in the order of their codes, where the others are to be inserted. Each
insertion is a number of steps, written in digits of base 36 whose weights adapt to the numbers
before. `Punycode.decode?` reads such a spelling.
-/

namespace Registrar.Url.Punycode

open Registrar.Text

/-- A digit of base 36: the letters come before the decimal digits. -/
def digit (n : Nat) : Char :=
  if n < 26 then Char.ofNat (97 + n) else Char.ofNat (22 + n)

/-- The digit at `place` ends a number if it is below this; places go up in steps of 36. -/
def threshold (bias place : Nat) : Nat :=
  max 1 (min 26 (place - bias))

theorem threshold_pos (bias place : Nat) : 0 < threshold bias place := by
  unfold threshold; omega

/-- The digits of a number from a place on. -/
def number (bias place n : Nat) : List Char :=
  let t := threshold bias place
  if h : n < t then [digit n]
  else digit (t + (n - t) % (36 - t)) :: number bias (place + 36) ((n - t) / (36 - t))
  termination_by n
  decreasing_by
    have := threshold_pos bias place
    have := Nat.div_le_self (n - threshold bias place) (36 - threshold bias place)
    omega

/-- The bias that suits numbers of this size, after `place`. -/
def biasOf (n place : Nat) : Nat :=
  if 455 < n then biasOf (n / 35) (place + 36) else place + 36 * n / (n + 38)
  termination_by n
  decreasing_by omega

/-- The bias after a number, as the `count`-th character was inserted. -/
def adapted (n count : Nat) (isFirst : Bool) : Nat :=
  let n := if isFirst then n / 700 else n / 2
  biasOf (n + n / count) 0

/-- What is written so far: how many characters are placed, the smallest code that may come next,
the steps since the last insertion and the bias. -/
structure Progress where
  text : List Char
  placed : Nat
  code : Nat
  steps : Nat
  bias : Nat

/-- Passes one character of the label on the way through the places for `code`. -/
def Progress.pass (ascii code : Nat) (p : Progress) (c : Char) : Progress :=
  if c.toNat < code then { p with steps := p.steps + 1 }
  else if c.toNat = code then
    { p with
      text := p.text ++ number p.bias 36 p.steps
      placed := p.placed + 1
      steps := 0
      bias := adapted p.steps (p.placed + 1) (p.placed == ascii) }
  else p

/-- Inserts the characters with this code. -/
def Progress.insert (label : List Char) (ascii : Nat) (p : Progress) (code : Nat) : Progress :=
  let p := { p with steps := p.steps + (code - p.code) * (p.placed + 1) }
  let p := label.foldl (pass ascii code) p
  { p with code := code + 1, steps := p.steps + 1 }

/-- The codes outside ASCII of a label, smallest first. -/
def codes (label : List Char) : List Nat :=
  ((label.map Char.toNat).filter (128 ≤ ·)).foldl
    (fun below n => below.filter (· < n) ++ n :: below.filter (n < ·)) []

def encode (label : List Char) : List Char :=
  let ascii := label.filter (·.toNat < 128)
  let start : List Char := if ascii.isEmpty then [] else ascii ++ ['-']
  ((codes label).foldl (Progress.insert label ascii.length)
    ⟨start, ascii.length, 128, 0, 72⟩).text

/-! ## Reading -/

/-- The value of a digit. -/
def value? (c : Char) : Option Nat :=
  if 'a' ≤ c && c ≤ 'z' then some (c.toNat - 97)
  else if '0' ≤ c && c ≤ '9' then some (c.toNat - 22)
  else none

/-- Reads the digits of a number from a place on, whose first digit weighs `weight`; the rest is
what follows them. -/
def number? (bias place weight : Nat) :
    (cs : List Char) → Option (Nat × { rest : List Char // rest.length < cs.length })
  | [] => none
  | c :: cs => do
    let d ← value? c
    let t := threshold bias place
    if d < t then some (d * weight, ⟨cs, Nat.lt_succ_self _⟩)
    else
      let (n, rest) ← number? bias (place + 36) (weight * (36 - t)) cs
      some (d * weight + n, ⟨rest, Nat.lt_succ_of_lt rest.2⟩)

/-- Inserts the characters that digits spell into a text: `place` is where the last one went, `code`
the smallest that may come next. -/
def insertAll? (text : List Char) (code place bias : Nat) (isFirst : Bool) (cs : List Char) :
    Option (List Char) :=
  if cs.isEmpty then some text
  else
    match number? bias 36 1 cs with
    | none => none
    | some (n, ⟨rest, _⟩) =>
      let count := text.length + 1
      let steps := place + n
      let code := code + steps / count
      if code.isValidChar then
        insertAll? (text.insertIdx (steps % count) (Char.ofNat code)) code (steps % count + 1)
          (adapted n count isFirst) false rest
      else none
  termination_by cs.length

/-- The label that letters and digits spell: its ASCII characters stand before the last hyphen. -/
def decode? (cs : List Char) : Option (List Char) :=
  match cut '-' cs.reverse with
  | (digits, some (c :: before)) =>
    insertAll? (c :: before).reverse 128 0 72 true digits.reverse
  | _ => insertAll? [] 128 0 72 true cs

end Registrar.Url.Punycode
