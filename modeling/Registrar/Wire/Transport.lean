import Registrar.Time.Duration

/-!
# Exchanges

A transport answers one request with a `Response` or ends in a `TransportError`.
-/

namespace Registrar

/-- What the server answered. -/
structure Response where
  status : Nat
  body : String
  /-- How long the server asks to wait before the next request. -/
  retryAfter : Option Duration
  deriving DecidableEq, Repr

/-- Why there is no answer. -/
inductive TransportError
  | timeout
  | connect (text : String)
  | body (text : String)
  | request (text : String)
  | other (text : String)
  deriving DecidableEq, Repr

namespace TransportError

/-- The name of the kind of error. -/
def kind : TransportError → String
  | .timeout => "Timeout"
  | .connect _ => "Connect"
  | .body _ => "Body"
  | .request _ => "Request"
  | .other _ => "Other"

def message : TransportError → String
  | .timeout => "request timed out"
  | .connect text => "connection failed: " ++ text
  | .body text => "failed to read response body: " ++ text
  | .request text => "request failed: " ++ text
  | .other text => "http client error: " ++ text

/-- Whether another attempt might get through. -/
def isRetryable : TransportError → Bool
  | .other _ => false
  | _ => true

end TransportError

end Registrar
