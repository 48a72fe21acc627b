import Registrar.Decimal.Binary
import Registrar.Time.Duration

/-!
# Quantities

Token counts, rates and seconds are numbers of a type `α` with the arithmetic of `Quantity α`. The
running program takes doubles (`instQuantityFloat`); the laws of the limiter and of the backoff are
stated for every `Quantity`, or for one whose arithmetic is exact.
-/

namespace Registrar

/-- The arithmetic that token counts, rates and seconds need. -/
class Quantity (α : Type) extends Add α, Sub α, Mul α, Div α where
  /-- The number nearest to `n`. -/
  ofNat : Nat → α
  /-- The number nearest to `n / 10^places`. -/
  decimal : Nat → Nat → α
  /-- Order; false when an operand is no number. -/
  le : α → α → Bool
  isFinite : α → Bool
  isUndefined : α → Bool
  /-- A number of seconds as nanoseconds, rounded to the nearest with ties to even, if it is a
  representable duration. -/
  duration? : α → Option Duration
  /-- The whole part as a number of 32 bits, the nearest one if there is none. -/
  word32 : α → Nat

namespace Quantity

variable {α : Type} [Quantity α]

def zero : α := ofNat 0
def one : α := ofNat 1

/-- The smaller of two numbers; an operand that is no number is ignored. -/
def lesser (a b : α) : α :=
  if isUndefined a then b else if isUndefined b then a else if le a b then a else b

/-- The larger of two numbers; an operand that is no number is ignored. -/
def greater (a b : α) : α :=
  if isUndefined a then b else if isUndefined b then a else if le b a then a else b

def lt (a b : α) : Bool := le a b && !le b a

/-- Whether two numbers are equal. -/
def same (a b : α) : Bool := le a b && le b a

/-- A duration in seconds: the whole seconds plus the rest. -/
def seconds (d : Duration) : α :=
  ofNat (d / Duration.second) + ofNat (d % Duration.second) / ofNat Duration.second

/-- `x^n` by repeated squaring, with `acc` as the product so far. -/
def powerOnto (x acc : α) (n : Nat) : α :=
  if h : n = 0 then acc
  else
    let acc := if n % 2 = 1 then acc * x else acc
    if n / 2 = 0 then acc else powerOnto (x * x) acc (n / 2)
  termination_by n
  decreasing_by omega

/-- `x^n` by repeated squaring. -/
def power (x : α) (n : Nat) : α := powerOnto x one n

end Quantity

/-- A finite double of seconds as nanoseconds; negative and oversized numbers are no duration. -/
def Duration.ofBinary? : Decimal.Binary → Option Duration
  | .finite negative m q =>
    if m == 0 then some 0
    else if negative then none
    else
      let nanos :=
        if q < 0 then Decimal.roundHalfEven (m * Duration.second) (Nat.pow 2 q.natAbs)
        else m * Duration.second * Nat.pow 2 q.natAbs
      if nanos ≤ Duration.longest then some nanos else none
  | _ => none

instance instQuantityFloat : Quantity Float where
  ofNat := Float.ofNat
  decimal n places := Float.ofScientific n true places
  le a b := a ≤ b
  isFinite := Float.isFinite
  isUndefined := Float.isNaN
  duration? x := Duration.ofBinary? (Decimal.Binary.ofFloat x)
  word32 x := x.toUInt32.toNat

end Registrar
