import Registrar.Text.Case
import Registrar.Text.Quoted
import Registrar.Url.Address
import Registrar.Wire.Command

/-!
# Requests

A `Request` is an address and the ordered pairs of its query. The values of redacted keys are sent,
but every text that may be logged shows a mask in their place. `Request.ofCommand` puts a command
under the credentials of its caller.
-/

namespace Registrar

/-- Who calls, and from where. -/
structure Credentials where
  apiUser : String
  apiKey : String
  username : String
  clientIp : String
  deriving DecidableEq, Repr

structure Request where
  url : String
  query : List (String × String)
  redacted : List String
  deriving DecidableEq, Repr

namespace Request

def new (url : String) : Request := ⟨url, [], []⟩

def push (r : Request) (key value : String) : Request :=
  { r with query := r.query ++ [(key, value)] }

def redact (r : Request) (key : String) : Request :=
  if r.redacted.contains key then r else { r with redacted := r.redacted ++ [key] }

/-- The first value that is sent for a key. -/
def get? (r : Request) (key : String) : Option String :=
  r.query.lookup key

/-- Whether the value of a key is hidden; letter case does not matter. -/
def hides (r : Request) (key : String) : Bool :=
  r.redacted.any (Text.sameFolded · key)

/-- What stands in the place of a hidden value. -/
def mask : String := "***"

def maskedQuery (r : Request) : List (String × String) :=
  r.query.map fun (key, value) => (key, if r.hides key then mask else value)

/-- The full address with the hidden values masked; the bare address if it cannot be read. -/
def loggableUrl (r : Request) : String :=
  match Url.Address.read? r.url with
  | some a => (a.append r.maskedQuery).text
  | none => r.url

/-- The request as it is shown in logs, with the hidden values masked. -/
def debugText (r : Request) : String :=
  let pairs := r.maskedQuery.map fun (key, value) =>
    "(" ++ Text.quoted key ++ ", " ++ Text.quoted value ++ ")"
  "WireRequest \x7b url: " ++ Text.quoted r.url ++ ", query: [" ++ ", ".intercalate pairs ++
    "] \x7d"

/-! ## Commands -/

/-- The keys that a command cannot set itself. -/
def reservedKeys : List String := ["ApiUser", "ApiKey", "UserName", "ClientIp", "Command"]

def isReserved (key : String) : Bool :=
  reservedKeys.any (Text.sameFolded · key)

/-- The pairs that introduce every command. -/
def credentialPairs (c : Credentials) (name : String) : List (String × String) :=
  [("ApiUser", c.apiUser), ("ApiKey", c.apiKey), ("UserName", c.username), ("ClientIp", c.clientIp),
    ("Command", name)]

/-- The request of a command; parameters under reserved keys are dropped. -/
def ofCommand (command : Command) (c : Credentials) (endpoint : String) : Request where
  url := endpoint
  query := credentialPairs c command.name ++ command.params.filter fun p => !isReserved p.1
  redacted := ["ApiKey"]

end Request

end Registrar
