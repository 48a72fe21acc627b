import Registrar.Settings
import Registrar.Wire.Transport

/-!
# Senders

A `Sender` puts requests on the web under the name of its agent. No socket is opened here:
`Sender.fail` says how sending a request ends as long as no server can be reached.
-/

namespace Registrar

/-- Whether a text may stand in a header: it holds no control character but tabs. -/
def isHeaderValue (s : String) : Bool :=
  s.toList.all fun c => c == '\t' || (0x20 ≤ c.toNat && c.toNat ≠ 0x7F)

/-- What cannot be built: an agent or an address that the web does not know. -/
def TransportError.unbuildable : TransportError := .other "builder error"

/-- Nobody can be reached at an address. -/
def TransportError.unreachable : TransportError := .connect "error sending request"

structure Sender where
  agent : String
  isHeaderValue_agent : isHeaderValue agent

namespace Sender

def new (agent : String) : Except TransportError Sender :=
  if h : isHeaderValue agent then .ok ⟨agent, h⟩ else .error .unbuildable

/-- The sender of the standard agent. -/
def standard : Sender := ⟨HttpSettings.standardAgent, by decide +kernel⟩

/-- The characters that some hosts hold and no request line does. -/
def unsendable : List Char := ['"', '\x60', '\x7b', '\x7d']

/-- The most bytes that a request line has room for. -/
def mostBytes : Nat := 65534

/-- Whether requests can be sent to an address: it is one of the web and fits into a request line.
-/
def canSend (a : Url.Address) : Bool :=
  (a.scheme == "http".toList || a.scheme == "https".toList) &&
    !(a.authority.getD []).any unsendable.contains && a.text.utf8ByteSize ≤ mostBytes

/-- How sending a request ends if no server can be reached. -/
def fail (_ : Sender) (r : Request) : TransportError :=
  match Url.Address.read? r.url with
  | some a => if canSend (a.append r.query) then .unreachable else .unbuildable
  | none => .unbuildable

end Sender

/-- The sender of valid settings. -/
def Settings.sender (s : Settings Float) : Except Failure Sender := do
  s.validate
  (Sender.new s.http.userAgent).mapError fun e =>
    .config ("failed to build HTTP client: " ++ e.message)

end Registrar
