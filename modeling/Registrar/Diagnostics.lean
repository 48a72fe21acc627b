import Registrar.Backoff
import Registrar.Breaker
import Registrar.Bucket
import Registrar.Decimal.Shortest
import Registrar.Text.Quoted

/-!
# States in logs

How the parts of a client are written in logs: the name of the part and its fields in braces, with
two points at the end where fields are left out.
-/

namespace Registrar.Diagnostics

/-- The written form of a part with these fields; `isWhole` if no field is left out. -/
def record (name : String) (fields : List (String × String)) (isWhole : Bool) : String :=
  let shown := fields.map fun (key, value) => key ++ ": " ++ value
  name ++ " \x7b " ++ ", ".intercalate (if isWhole then shown else shown ++ [".."]) ++ " \x7d"

def floatText (x : Float) : String := Decimal.literal.text x

def limitFault (f : LimitFault) : String :=
  record "Invalid" [("message", Text.quoted f.reason)] true

def breakerLimit (l : BreakerLimit) : String :=
  record "CircuitBreakerConfig"
    [("max_failures", Decimal.wholeText l.maxFailures), ("reset_timeout", l.resetTimeout.text)] true

def breakerMode : BreakerMode → String
  | .closed => "Closed"
  | .opened => "Open"
  | .halfOpen => "HalfOpen"

/-- A breaker; an instant is written as the time since the start. -/
def breaker (b : Breaker) : String :=
  let lastFailure := match b.lastFailure with
    | none => "None"
    | some t => "Some(" ++ Duration.text t ++ ")"
  let state := record "BreakerState"
    [("mode", breakerMode b.mode), ("consecutive_failures", Decimal.wholeText b.failures),
      ("last_failure_at", lastFailure), ("probe_in_flight", if b.probing then "true" else "false")]
    true
  record "CircuitBreaker" [("config", breakerLimit b.limit), ("state", state)] false

def bucket (b : Bucket Float) : String :=
  record "TokenBucket"
    [("capacity", floatText b.limit.capacity),
      ("refill_per_second", floatText b.limit.refillPerSecond),
      ("tokens", floatText b.tokens)] false

def backoff (b : Backoff Float) : String :=
  record "RetryConfig"
    [("max_attempts", Decimal.wholeText b.maxAttempts), ("base_delay", b.baseDelay.text),
      ("max_delay", b.maxDelay.text), ("backoff_factor", floatText b.factor),
      ("jitter_fraction", floatText b.jitter)] true

/-- What repeats operations under a backoff. -/
def retrier (b : Backoff Float) : String :=
  record "RetryExecutor" [("config", backoff b)] false

/-- What sends requests; nothing of it is shown. -/
def transport : String := record "HttpTransport" [] false

end Registrar.Diagnostics
