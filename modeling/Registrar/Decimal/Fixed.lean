import Registrar.Decimal.Binary
import Registrar.Decimal.Whole

/-!
# Numbers with fixed places

`fixedText` writes a double with a fixed number of decimal places, rounded from its exact value.
-/

namespace Registrar.Decimal

/-- The digits of `n / 10^places`. -/
def placedDigits (places n : Nat) : List Char :=
  digits (n / Nat.pow 10 places) ++
    (if places = 0 then [] else '.' :: padded places (n % Nat.pow 10 places))

/-- A double with `places` decimal places; a tie goes to the even neighbour. -/
def fixedText (places : Nat) (x : Float) : String :=
  match Binary.ofFloat x with
  | .undefined => "NaN"
  | .infinite negative => if negative then "-inf" else "inf"
  | .finite negative m q =>
    let n :=
      if q < 0 then roundHalfEven (m * Nat.pow 10 places) (Nat.pow 2 q.natAbs)
      else m * Nat.pow 10 places * Nat.pow 2 q.natAbs
    String.ofList ((if negative then ['-'] else []) ++ placedDigits places n)

end Registrar.Decimal
