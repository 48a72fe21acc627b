import Registrar.Records.Domain
import Registrar.Settings
import Registrar.Wire.Envelope

/-!
# Calls of a client

A client asks its connection four questions: whether the breaker admits a call, to settle it, for a
token of the limiter, and to exchange one request. `Client.execute` runs a command: the breaker
sees one call, however many attempts it takes, and each attempt waits for a token of its own.
-/

namespace Registrar

namespace Connection

/-- What a client asks its connection. -/
inductive Question
  | enter
  | settle (a : Admission) (o : Outcome)
  /-- A token, or how long to wait for one. -/
  | take
  /-- One exchange of at most `patience`, and of at most `within` if the caller has a deadline. -/
  | send (request : Request) (patience : Duration) (within : Option Duration)
  deriving DecidableEq, Repr

/-- How an exchange ended. -/
inductive Sent
  | answered (answer : Except TransportError Response)
  | timedOut
  | cut (cause : Interruption)

abbrev Answer : Question → Type
  | .enter => Except Refusal Admission
  | .settle .. => Unit
  | .take => Option Duration
  | .send .. => Sent

end Connection

/-- What a client does on behalf of a caller. -/
abbrev Call (α : Type) := Task Connection.Question Connection.Answer α

/-- A call that may fail. -/
abbrev Operation (α : Type) := ExceptT Failure (Task Connection.Question Connection.Answer) α

namespace Connection

def enter : Call (Except Refusal Admission) := Task.other Question.enter
def settle (a : Admission) (o : Outcome) : Call Unit := Task.other (Question.settle a o)
def take : Call (Option Duration) := Task.other Question.take

def send (request : Request) (patience : Duration) (within : Option Duration) : Call Sent :=
  Task.other (Question.send request patience within)

end Connection

structure Client where
  credentials : Credentials
  endpoint : String
  /-- The longest that one exchange may take. -/
  attemptTimeout : Duration
  plan : RetryPlan
  /-- How often one attempt may wait for its token. -/
  waits : Nat := Limiter.mostWaits

namespace Client

variable {α β : Type}

/-- The client of some settings; `draw` gives the chance of each delay. -/
def ofSettings [Quantity α] (s : Settings α) (draw : Nat → α)
    (waits : Nat := Limiter.mostWaits) : Client where
  credentials := s.credentials
  endpoint := s.endpoint.url
  attemptTimeout := s.http.attemptTimeout
  plan := s.retry.toBackoff.plan draw
  waits := waits

/-- The verdict on an answer: the server's hint goes with its envelope's verdict. -/
def read (extract : Envelope → Except Verdict β) (r : Response) : Except Verdict β :=
  match Envelope.decode r.body r.status with
  | .ok envelope => extract envelope
  | .error v => .error (v.withRetryAfter r.retryAfter)

/-- One exchange, unless the caller's patience is over already. -/
def exchange (c : Client) (request : Request) : Call (Except Verdict Response) := do
  match ← Task.check with
  | some cause => return .error (.interrupted cause)
  | none =>
    let left ← Task.timeLeft
    match ← Connection.send request c.attemptTimeout left with
    | .answered (.ok r) => return .ok r
    | .answered (.error e) => return .error (.ofTransport e)
    | .timedOut =>
      return .error (.transient ("attempt timed out after " ++ Duration.text c.attemptTimeout))
    | .cut cause => return .error (.interrupted cause)

/-- One attempt: a token, an exchange and the reading of its answer. -/
def attempt (c : Client) (command : Command) (extract : Envelope → Except Verdict β) :
    Call (Except Verdict β) := do
  match ← Limiter.acquire Connection.take c.waits with
  | .error refusal => return .error (.ofSlotRefusal refusal)
  | .ok () =>
    match ← c.exchange (.ofCommand command c.credentials c.endpoint) with
    | .error v => return .error v
    | .ok r => return read extract r

/-- All attempts of a command. -/
def attempts (c : Client) (command : Command) (extract : Envelope → Except Verdict β) :
    Call (Except (RetryFailure Verdict) β) :=
  Retry.execute c.plan Verdict.policy fun _ => c.attempt command extract

/-- Runs a command, if the breaker admits it. -/
def execute (c : Client) (command : Command) (extract : Envelope → Except Verdict β) :
    Call (Except Failure β) := do
  match ← Connection.enter with
  | .error refusal => return .error refusal.toFailure
  | .ok admission =>
    let result ← c.attempts command extract
    Connection.settle admission (judge result)
    match result with
    | .ok b => return .ok b
    | .error f => return .error f.toFailure

/-- Runs a command and gives its envelope. -/
def envelope (c : Client) (command : Command) : Operation Envelope :=
  .mk (c.execute command .ok)

/-- Runs a command and reads its payload. -/
def run (c : Client) (command : Command) (fields : Xml.Fields β) : Operation β :=
  .mk (c.execute command (·.payload fields.reader))

/-! ## What operations share -/

/-- Fails before anything is sent. -/
def refuse (reason : String) : Operation β :=
  throw (.invalidInput reason)

def requirePositive (field : String) (n : Nat) : Operation Unit :=
  if n = 0 then refuse (field ++ " must be at least 1") else pure ()

def requireNonEmpty (field value : String) : Operation Unit :=
  if Text.isBlankText value then refuse (field ++ " must not be empty") else pure ()

def parseDomain (name : String) : Operation DomainName :=
  .mk (pure (DomainName.parse name))

/-- Fails if the registrar answered a command with a negative flag. -/
def requireDone (command : Command) (done : Bool) (reason : String) : Operation Unit :=
  if done then pure () else throw (.operationFailed command.name reason)

/-- No instead of an item that is not there. -/
def falseIfAbsent (op : Operation Bool) : Operation Bool :=
  tryCatch op fun failure => if failure.isNotFound then pure false else throw failure

end Client

end Registrar
