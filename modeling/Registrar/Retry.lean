import Registrar.Backoff
import Registrar.Caller

/-!
# Retries

`Retry.execute` repeats an operation until it succeeds, the policy stops it, the attempts run out
or the caller's context ends. Attempts are counted from zero where they are passed in and from one
where they are reported.
-/

namespace Registrar

/-- What a policy says about a failed attempt. -/
inductive RetryDecision
  | retry
  | retryAfter (d : Duration)
  | stop
  deriving DecidableEq, Repr

/-- Why an operation was given up, with the number of attempts made. -/
inductive RetryFailure (ε : Type)
  | exhausted (attempts : Nat) (last : ε)
  | stopped (attempts : Nat) (source : ε)
  | interrupted (attempts : Nat) (cause : Interruption)
  deriving DecidableEq, Repr

namespace RetryFailure

variable {ε : Type}

def attempts : RetryFailure ε → Nat
  | .exhausted n _ => n
  | .stopped n _ => n
  | .interrupted n _ => n

/-- The operation's own error, if one ended the attempts. -/
def inner? : RetryFailure ε → Option ε
  | .exhausted _ e => some e
  | .stopped _ e => some e
  | .interrupted _ _ => none

def message (text : ε → String) : RetryFailure ε → String
  | .exhausted n e => "all " ++ Decimal.wholeText n ++ " attempts failed; last error: " ++ text e
  | .stopped n e => "non-retryable failure on attempt " ++ Decimal.wholeText n ++ ": " ++ text e
  | .interrupted n cause =>
    "retry interrupted after " ++ Decimal.wholeText n ++ " attempts: " ++ cause.message

end RetryFailure

/-- How many attempts there are, and the delay after each. -/
structure RetryPlan where
  maxAttempts : Nat
  maxDelay : Duration
  delay : Nat → Duration

/-- The plan of a backoff, with a number from -1 to 1 for the chance of each delay. -/
def Backoff.plan {α : Type} [Quantity α] (b : Backoff α) (draw : Nat → α) : RetryPlan :=
  ⟨b.maxAttempts, b.maxDelay, fun attempt => b.delayFor attempt (draw attempt)⟩

namespace Retry

variable {Q : Type} {A : Q → Type} {ε α : Type}

/-- The pause after attempt `attempt`, or nothing if the policy stops there. -/
def pauseAfter (plan : RetryPlan) (attempt : Nat) : RetryDecision → Option Duration
  | .stop => none
  | .retry => some (plan.delay attempt)
  | .retryAfter d => some (min d plan.maxDelay)

/-- Makes attempt `attempt` and, if it fails, at most `left` more. -/
def executeFrom (plan : RetryPlan) (policy : ε → Nat → RetryDecision)
    (operation : Nat → Task Q A (Except ε α)) (left attempt : Nat) :
    Task Q A (Except (RetryFailure ε) α) := do
  match ← Task.check with
  | some cause => return .error (.interrupted attempt cause)
  | none =>
    match ← operation attempt with
    | .ok value => return .ok value
    | .error e =>
      match pauseAfter plan attempt (policy e attempt) with
      | none => return .error (.stopped (attempt + 1) e)
      | some delay =>
        match left with
        | 0 => return .error (.exhausted (attempt + 1) e)
        | left + 1 =>
          match ← Task.sleep delay with
          | some cause => return .error (.interrupted (attempt + 1) cause)
          | none => executeFrom plan policy operation left (attempt + 1)

/-- Runs an operation as often as the plan and the policy allow. -/
def execute (plan : RetryPlan) (policy : ε → Nat → RetryDecision)
    (operation : Nat → Task Q A (Except ε α)) : Task Q A (Except (RetryFailure ε) α) :=
  executeFrom plan policy operation (plan.maxAttempts - 1) 0

end Retry

end Registrar
