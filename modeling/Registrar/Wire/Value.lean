import Registrar.Decimal.Literal
import Registrar.Text.Blank
import Registrar.Text.Case
import Registrar.Xml.Fields

/-!
# Values of attributes

The registrar writes flags in several ways and leaves numbers empty. The readers here take the raw
text of an attribute: `flag`, `number` and `amount` allow for that, `identifier` does not.
-/

namespace Registrar.Wire

open Registrar.Xml

/-- A text as it is, with its references replaced. -/
def plainText : Value String := fun raw =>
  match unescape raw with
  | some cs => .ok (String.ofList cs)
  | none => .error .malformed

/-- What a flag says, in any letter case; the empty text is no. -/
def flagOf? (s : String) : Option Bool :=
  let word := Text.lower (Text.trim s)
  if ["true", "yes", "y", "1"].contains word then some true
  else if ["false", "no", "n", "0", ""].contains word then some false
  else none

def flag : Value Bool := fun raw => do
  let s ← plainText raw
  match flagOf? s with
  | some b => .ok b
  | none => .error (.badFlag s)

/-- A number of at most `max`, or nothing. -/
def number (max : Nat) : Value (Option Nat) := fun raw => do
  let s := Text.trim (← plainText raw)
  if s.isEmpty then .ok none
  else
    match Decimal.readWhole max s.toList with
    | .ok n => .ok (some n)
    | .error fault => .error (.badNumber s fault.message)

/-- An amount of money; an empty text means nothing was charged. -/
def amount : Value Float := fun raw => do
  let s := Text.trim (← plainText raw)
  if s.isEmpty then .ok 0.0
  else
    match Decimal.readFloat s with
    | .ok x => .ok x
    | .error fault => .error (.badNumber s fault.message)

/-- A number of 64 bits, without blanks or references. -/
def identifier : Value Nat := fun raw =>
  match Decimal.readWhole Decimal.max64 raw with
  | .ok n => .ok n
  | .error _ => .error .malformed

/-- A number of 64 bits as the text of an element. -/
def identifierReader : Reader Nat := fun tag c => do
  let (s, c) ← textReader tag c
  return (← identifier s.toList, c)

/-! ## Fields with a usual value -/

/-- A text attribute, empty if absent. -/
def textOr (names : List String) : Fields String :=
  (optionalAttribute names plainText).orElse ""

/-- A flag attribute, with a value for when it is absent. -/
def flagOr (absent : Bool) (names : List String) : Fields Bool :=
  (optionalAttribute names flag).orElse absent

/-- A number attribute; nothing if it is absent or empty. -/
def numberOr (max : Nat) (names : List String) : Fields (Option Nat) :=
  (optionalAttribute names (number max)).orElse none

/-- An amount attribute, zero if absent. -/
def amountOr (names : List String) : Fields Float :=
  (optionalAttribute names amount).orElse 0.0

/-- An identifier attribute, zero if absent. -/
def identifierOr (names : List String) : Fields Nat :=
  (optionalAttribute names identifier).orElse 0

end Registrar.Wire
