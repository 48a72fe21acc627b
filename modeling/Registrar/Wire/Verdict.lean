import Registrar.Breaker
import Registrar.Failure
import Registrar.Limiter
import Registrar.Retry
import Registrar.Wire.Transport

/-!
# Verdicts on failed attempts

An attempt that yields no payload ends in one `Verdict`. It decides whether another attempt is made
(`Verdict.policy`), how the breaker counts the call (`Verdict.outcome`, `judge`) and which failure
the caller sees (`Verdict.toFailure`).
-/

namespace Registrar

inductive Verdict
  /-- The network or the server failed. -/
  | transient (reason : String)
  /-- The registrar asks for fewer requests, and may say how long to wait. -/
  | rateLimited (reason : String) (retryAfter : Option Duration)
  /-- The registrar refused the request. -/
  | fatal (code message : String)
  | notFound (code message : String)
  /-- The answer cannot be understood. -/
  | malformed (detail : String)
  /-- No token came before the caller's deadline. -/
  | throttled
  | interrupted (cause : Interruption)
  deriving DecidableEq, Repr

namespace Verdict

/-- The name of the kind of verdict. -/
def kind : Verdict → String
  | .transient _ => "Transient"
  | .rateLimited .. => "RateLimited"
  | .fatal .. => "Fatal"
  | .notFound .. => "NotFound"
  | .malformed _ => "Malformed"
  | .throttled => "Throttled"
  | .interrupted _ => "Interrupted"

def message : Verdict → String
  | .transient reason => "transient failure: " ++ reason
  | .rateLimited reason _ => "rate limited by registrar: " ++ reason
  | .fatal code message => "registrar error " ++ code ++ ": " ++ message
  | .notFound code message => "not found (" ++ code ++ "): " ++ message
  | .malformed detail => "malformed response: " ++ detail
  | .throttled => "no request slot before the caller deadline"
  | .interrupted cause => cause.message

/-- Adds the server's hint to a rate limit; any other verdict stays as it is. -/
def withRetryAfter (hint : Option Duration) : Verdict → Verdict
  | .rateLimited reason known => .rateLimited reason (hint.or known)
  | v => v

/-- The hint of the server how long to wait. -/
def retryAfter? : Verdict → Option Duration
  | .rateLimited _ hint => hint
  | _ => none

/-- Whether another attempt is worth while. -/
def isRetryable : Verdict → Bool
  | .transient _ | .rateLimited .. => true
  | _ => false

/-- How a call that ends so counts. An item that is not there is an answer, and what the caller or
the limiter did says nothing about the registrar. -/
def outcome : Verdict → Outcome
  | .transient _ | .rateLimited .. | .fatal .. | .malformed _ => .failure
  | .notFound .. | .throttled | .interrupted _ => .ignored

/-- What the caller sees after this many attempts. -/
def toFailure (attempts : Nat) : Verdict → Failure
  | .transient reason => .transient attempts reason
  | .rateLimited reason _ => .transient attempts ("rate limited: " ++ reason)
  | .fatal code message => .remoteRejected code message attempts
  | .notFound code message => .notFound code message
  | .malformed detail => .protocolError detail
  | .throttled => .rateLimitExceeded
  | .interrupted _ => .canceled

/-- Repeats what is retryable, after the server's hint if there is one. -/
def policy (v : Verdict) (_attempt : Nat) : RetryDecision :=
  match v.retryAfter? with
  | some d => .retryAfter d
  | none => if v.isRetryable then .retry else .stop

def ofTransport (e : TransportError) : Verdict :=
  if e.isRetryable then .transient e.message else .fatal "TRANSPORT" e.message

def ofSlotRefusal : SlotRefusal → Verdict
  | .cancelled => .interrupted .cancelled
  | .tooLate _ => .throttled

end Verdict

/-- How a whole call counts, however many attempts it took. -/
def judge {α : Type} : Except (RetryFailure Verdict) α → Outcome
  | .ok _ => .success
  | .error (.exhausted _ last) => last.outcome
  | .error (.stopped _ source) => source.outcome
  | .error (.interrupted ..) => .ignored

/-- What the caller sees when the attempts are given up. -/
def RetryFailure.toFailure (f : RetryFailure Verdict) : Failure :=
  match f.inner? with
  | some v => v.toFailure f.attempts
  | none => .canceled

/-- What the caller sees when the breaker refuses the call. -/
def Refusal.toFailure (r : Refusal) : Failure :=
  .circuitOpen r.failures (min (Duration.millis r.since) Decimal.max64)

end Registrar
