/-!
# Rejected limits

The limiter, the breaker and the backoff each accept only some settings. `LimitFault` names what was
wrong, `LimitFault.reason` is its text and `LimitFault.message` the text with its introduction.
-/

namespace Registrar

/-- Why settings of the limiter, the breaker or the backoff are refused. -/
inductive LimitFault
  | capacity
  | refillRate
  | failureCount
  | resetTimeout
  | attemptCount
  | delayOrder
  | backoffFactor
  | jitterFraction
  deriving DecidableEq, Repr

namespace LimitFault

def reason : LimitFault → String
  | .capacity => "capacity must be a finite number >= 1"
  | .refillRate => "refill_per_second must be a finite number >= 0.001"
  | .failureCount => "max_failures must be greater than 0"
  | .resetTimeout => "reset_timeout must be greater than zero"
  | .attemptCount => "max_attempts must be greater than 0"
  | .delayOrder => "base_delay must not exceed max_delay"
  | .backoffFactor => "backoff_factor must be a finite number >= 1.0"
  | .jitterFraction => "jitter_fraction must be within [0, 1]"

def message (f : LimitFault) : String :=
  "Invalid configuration: " ++ f.reason

end LimitFault

end Registrar
