import Registrar.Decimal.Whole

/-!
# Failures of a call

A call that does not succeed ends in one `Failure`. Codes and messages of the registrar are carried
as they came; `Failure.disposition` says what a reconciling caller should do.
-/

namespace Registrar

/-- What a caller should do with a failed call: try again later, give up, or ask a person. -/
inductive Disposition
  | requeue
  | terminal
  | alert
  deriving DecidableEq, Repr

def Disposition.name : Disposition → String
  | .requeue => "requeue"
  | .terminal => "terminal"
  | .alert => "alert"

inductive Failure
  | rateLimitExceeded
  | circuitOpen (failures sinceMillis : Nat)
  | transient (attempts : Nat) (cause : String)
  | remoteRejected (code message : String) (attempts : Nat)
  | notFound (code message : String)
  | protocolError (detail : String)
  | canceled
  | invalidInput (reason : String)
  | operationFailed (command reason : String)
  | config (reason : String)
  deriving DecidableEq, Repr

namespace Failure

/-- The name of the kind of failure. -/
def kind : Failure → String
  | .rateLimitExceeded => "RateLimitExceeded"
  | .circuitOpen .. => "CircuitOpen"
  | .transient .. => "Transient"
  | .remoteRejected .. => "RemoteRejected"
  | .notFound .. => "NotFound"
  | .protocolError _ => "ProtocolError"
  | .canceled => "Canceled"
  | .invalidInput _ => "InvalidInput"
  | .operationFailed .. => "OperationFailed"
  | .config _ => "Config"

def message : Failure → String
  | .rateLimitExceeded => "Rate limit exceeded: no request slot before the caller deadline"
  | .circuitOpen failures sinceMillis =>
    "Circuit open after " ++ Decimal.wholeText failures ++ " consecutive failures (last failure " ++
      Decimal.wholeText sinceMillis ++ "ms ago)"
  | .transient attempts cause =>
    "Transient failure after " ++ Decimal.wholeText attempts ++ " attempts: " ++ cause
  | .remoteRejected code message _ =>
    "Registrar rejected request with code " ++ code ++ ": " ++ message
  | .notFound code message => "Not found (" ++ code ++ "): " ++ message
  | .protocolError detail => "Protocol error: " ++ detail
  | .canceled => "Operation canceled by caller"
  | .invalidInput reason => "Invalid input: " ++ reason
  | .operationFailed command reason => command ++ " reported failure: " ++ reason
  | .config reason => "Configuration error: " ++ reason

def disposition : Failure → Disposition
  | .rateLimitExceeded | .circuitOpen .. | .transient .. => .requeue
  | .remoteRejected .. | .notFound .. | .invalidInput _ | .operationFailed .. => .terminal
  | .protocolError _ | .canceled | .config _ => .alert

/-- Whether the same call may succeed later. -/
def isRetryable (f : Failure) : Bool :=
  f.disposition == .requeue

def isNotFound : Failure → Bool
  | .notFound .. => true
  | _ => false

/-- The code that the registrar gave. -/
def providerCode? : Failure → Option String
  | .remoteRejected code .. => some code
  | .notFound code _ => some code
  | _ => none

/-- The code of a lookup that the registrar answered without the item that was looked for. -/
def localCode : String := "LOCAL"

/-- An item is missing in an answer of the registrar. -/
def absent (message : String) : Failure := .notFound localCode message

end Failure

end Registrar
