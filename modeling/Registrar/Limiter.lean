import Registrar.Bucket
import Registrar.Caller

/-!
# Waiting for a token

`acquire` tries to take a token and, while there is none, sleeps for as long as the bucket says. It
gives up at once when the token would come after the caller's deadline.
-/

namespace Registrar

/-- Why a caller got no token. -/
inductive SlotRefusal
  | cancelled
  | tooLate (wait : Duration)
  deriving DecidableEq, Repr

namespace SlotRefusal

def message : SlotRefusal → String
  | .cancelled => "rate limiter wait cancelled by caller"
  | .tooLate wait =>
    "next token available in " ++ Duration.text wait ++ ", after the caller deadline"

def ofInterruption : Interruption → SlotRefusal
  | .cancelled => .cancelled
  | .deadlineExceeded => .tooLate 0

end SlotRefusal

namespace Limiter

variable {Q : Type} {A : Q → Type}

/-- Takes a token after at most `tries` waits; `take` answers with the wait when there is none. -/
def acquireWithin (take : Task Q A (Option Duration)) : Nat → Task Q A (Except SlotRefusal Unit)
  | 0 => return .error (.tooLate Duration.longest)
  | tries + 1 => do
    match ← Task.check with
    | some i => return .error (.ofInterruption i)
    | none =>
      match ← take with
      | none => return .ok ()
      | some wait =>
        if (← Task.timeLeft).any (· < wait) then return .error (.tooLate wait)
        else
          match ← Task.sleep wait with
          | some i => return .error (.ofInterruption i)
          | none => acquireWithin take tries

/-- A wait lasts a millisecond at least, in which the slowest bucket refills a millionth of a token:
a caller that nobody overtakes has its token after so many waits. -/
def mostWaits : Nat := 1000001

/-- Waits for a token and takes it; a caller who is overtaken may need more waits than the usual
bound. -/
def acquire (take : Task Q A (Option Duration)) (waits : Nat := mostWaits) :
    Task Q A (Except SlotRefusal Unit) :=
  acquireWithin take waits

end Limiter

/-- The answer of a bucket to a caller who wants a token: nothing, or how long to wait. -/
def Bucket.request {α : Type} [Quantity α] (b : Bucket α) (now : Instant) :
    Option Duration × Bucket α :=
  match b.take now with
  | (true, b) => (none, b)
  | (false, b) => (some b.wait, b)

end Registrar
