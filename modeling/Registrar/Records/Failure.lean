import Registrar.Document.Layout
import Registrar.Failure

/-!
# Failures as documents

A failure is written as a table of its kind and its details. On reading, the two may come in either
order or as a list; a kind without details has nothing in their place.
-/

namespace Registrar

open Document

def Disposition.codec : Codec Disposition := .oneOf Disposition.name [.requeue, .terminal, .alert]

namespace Failure

/-! ## Details -/

def circuitLayout : Layout (Nat × Nat) (Nat × Nat) :=
  Prod.mk <$> .required "consecutive_failures" Prod.fst .word32
    <*> .required "since_last_failure_ms" Prod.snd .word64

def transientLayout : Layout (Nat × String) (Nat × String) :=
  Prod.mk <$> .required "attempts" Prod.fst .word32 <*> .required "cause" Prod.snd .text

def rejectedLayout : Layout (String × String × Nat) (String × String × Nat) :=
  (fun code message attempts => (code, message, attempts)) <$> .required "code" Prod.fst .text
    <*> .required "message" (·.2.1) .text
    <*> .required "attempts" (·.2.2) .word32

def notFoundLayout : Layout (String × String) (String × String) :=
  Prod.mk <$> .required "code" Prod.fst .text <*> .required "message" Prod.snd .text

def protocolLayout : Layout String String := .required "detail" id .text

def operationLayout : Layout (String × String) (String × String) :=
  Prod.mk <$> .required "command" Prod.fst .text <*> .required "reason" Prod.snd .text

/-- The details of a failure, if its kind has any. -/
def details? : Failure → Option Value
  | .rateLimitExceeded | .canceled => none
  | .circuitOpen failures sinceMillis => some (.table (circuitLayout.write (failures, sinceMillis)))
  | .transient attempts cause => some (.table (transientLayout.write (attempts, cause)))
  | .remoteRejected code message attempts =>
    some (.table (rejectedLayout.write (code, message, attempts)))
  | .notFound code message => some (.table (notFoundLayout.write (code, message)))
  | .protocolError detail => some (.table (protocolLayout.write detail))
  | .invalidInput reason => some (.text reason)
  | .operationFailed command reason => some (.table (operationLayout.write (command, reason)))
  | .config reason => some (.text reason)

/-- Reads details that are a table. -/
def readTable {α : Type} (l : Layout α α) (v : Value) : Option α :=
  match v with
  | .table _ => l.readRecord true v
  | _ => none

/-- The failure of a kind with these details. -/
def ofDetails? (kind : String) (details : Option Value) : Option Failure :=
  match kind, details with
  | "RateLimitExceeded", none | "RateLimitExceeded", some .null => some .rateLimitExceeded
  | "Canceled", none | "Canceled", some .null => some .canceled
  | "CircuitOpen", some v => (readTable circuitLayout v).map fun (n, ms) => .circuitOpen n ms
  | "Transient", some v => (readTable transientLayout v).map fun (n, cause) => .transient n cause
  | "RemoteRejected", some v =>
    (readTable rejectedLayout v).map fun (code, message, n) => .remoteRejected code message n
  | "NotFound", some v =>
    (readTable notFoundLayout v).map fun (code, message) => .notFound code message
  | "ProtocolError", some v => (readTable protocolLayout v).map .protocolError
  | "InvalidInput", some (.text reason) => some (.invalidInput reason)
  | "OperationFailed", some v =>
    (readTable operationLayout v).map fun (command, reason) => .operationFailed command reason
  | "Config", some (.text reason) => some (.config reason)
  | _, _ => none

/-! ## Documents -/

/-- How deep details may lie that stand before their kind. -/
def mostDepth : Nat := 126

def isRelevant (e : String × Value) : Bool :=
  e.1 == "type" || e.1 == "details"

/-- Reads kind and details, in the order in which they stand. -/
def ofEntries? : List (String × Value) → Option Failure
  | [("type", .text kind)] => ofDetails? kind none
  | [("type", .text kind), ("details", v)] => ofDetails? kind (some v)
  | [("details", v), ("type", .text kind)] =>
    if v.isReadable mostDepth then ofDetails? kind (some v) else none
  | _ => none

def ofValue? : Value → Option Failure
  | .table entries => ofEntries? (entries.filter isRelevant)
  | .list [.text kind, v] => ofDetails? kind (some v)
  | _ => none

def toValue (f : Failure) : Value :=
  .table (("type", .text f.kind) :: (f.details?.map fun v => ("details", v)).toList)

def codec : Codec Failure := ⟨toValue, ofValue?⟩

end Failure

end Registrar
