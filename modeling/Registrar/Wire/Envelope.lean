import Registrar.Text.Blank
import Registrar.Wire.Value
import Registrar.Wire.Verdict

/-!
# Envelopes

Every answer of the registrar is wrapped in an envelope that tells whether the command succeeded.
`Envelope.decode` gives an answer either its envelope or its verdict; the payload stays undecoded
until `Envelope.payload` reads it.
-/

namespace Registrar

/-- An error or a warning of the registrar. -/
structure ProviderError where
  code : String
  message : String
  deriving DecidableEq, Repr

namespace ProviderError

def rateLimitCodes : List String := ["2030280", "2030281"]
def unavailableCode : String := "2011170"
def notFoundCodes : List String := ["2019166", "2016166"]

/-- The verdict on an error, by its code. -/
def classify (e : ProviderError) : Verdict :=
  if rateLimitCodes.contains e.code then .rateLimited (e.code ++ ": " ++ e.message) none
  else if e.code = unavailableCode then .transient (e.code ++ ": " ++ e.message)
  else if notFoundCodes.contains e.code then .notFound e.code e.message
  else .fatal e.code e.message

end ProviderError

/-- The envelope of a successful answer. -/
structure Envelope where
  requestedCommand : Option String
  warnings : List ProviderError
  /-- The body as it came. -/
  raw : String
  deriving DecidableEq, Repr

namespace Envelope

open Registrar.Xml Registrar.Wire

/-- What an envelope says before it is judged. -/
structure Draft where
  status : Option String
  errors : Option (List ProviderError)
  warnings : Option (List ProviderError)
  requestedCommand : Option String

def entry : Fields ProviderError :=
  (fun code message => ⟨Text.trim code, Text.trim message⟩) <$> textOr ["Number"] <*>
    optionalText.orElse ""

def draft : Fields Draft :=
  Draft.mk <$> optionalAttribute ["Status"] plainText
    <*> optionalChild ["Errors"] (children ["Error"] entry.reader).reader
    <*> optionalChild ["Warnings"] (children ["Warning"] entry.reader).reader
    <*> optionalChild ["RequestedCommand"] textReader

/-- Judges a body by the status that it states. -/
def Draft.judge (d : Draft) (body : String) : Except Verdict Envelope :=
  match d.status.map Text.trim with
  | none => .error (.malformed "response envelope has no Status")
  | some status =>
    if Text.sameFolded status "OK" then
      .ok ⟨d.requestedCommand.map Text.trim, d.warnings.getD [], body⟩
    else if Text.sameFolded status "ERROR" then
      match d.errors.getD [] with
      | first :: _ => .error first.classify
      | [] => .error (.malformed "ERROR response without error entries")
    else .error (.malformed ("unknown response status " ++ Text.quoted status))

/-- Gives a response its envelope or its verdict. Overload and failures of the server are told from
the status alone. -/
def decode (body : String) (status : Nat) : Except Verdict Envelope :=
  if status = 429 then .error (.rateLimited "HTTP 429" none)
  else if 500 ≤ status then .error (.transient ("HTTP " ++ Decimal.wholeText status))
  else if status < 200 || 300 ≤ status then
    .error (.fatal ("HTTP" ++ Decimal.wholeText status)
      ("unexpected HTTP status " ++ Decimal.wholeText status))
  else
    match readDocument draft.reader body with
    | .ok d => d.judge body
    | .error fault => .error (.malformed ("invalid response envelope: " ++ fault.message))

/-- Reads the payload of a command. -/
def payload {α : Type} (reader : Reader α) (e : Envelope) : Except Verdict α :=
  match readDocument (optionalChild ["CommandResponse"] reader).reader e.raw with
  | .ok (some a) => .ok a
  | .ok none => .error (.malformed "response has no CommandResponse")
  | .error fault => .error (.malformed ("invalid command response: " ++ fault.message))

/-- Accepts every payload whose markup is whole. -/
def anyPayload : Reader Unit := passOver

end Envelope

end Registrar
