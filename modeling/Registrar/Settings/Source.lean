import Registrar.Document.Json
import Registrar.Document.Toml
import Registrar.Files
import Registrar.Settings

/-!
# Sources of settings

Settings come from the environment or from a file, never from both. `Settings.load` takes the
environment if it holds all four credentials, and else the first file that `Settings.search?`
finds; what it loads is valid. A variable that is blank counts as unset.
-/

namespace Registrar

/-- The variables of the process. -/
abbrev Environment := String → Option String

namespace Environment

/-- The trimmed value of a variable that is not blank. -/
def value? (env : Environment) (key : String) : Option String :=
  ((env key).map Text.trim).filter (!·.isEmpty)

/-- Whether a variable is set to a word for yes. -/
def isOn (env : Environment) (key : String) : Bool :=
  (env key).any fun value => ["1", "true", "yes", "on"].contains (Text.lower (Text.trim value))

end Environment

namespace Settings

/-- Why a source gives no settings. -/
inductive SourceFault
  | unset (key : String)
  | requestRate (fault : Decimal.LiteralFault)
  | burst (fault : Decimal.WholeFault)
  | toml
  | json
  | unknownFormat (extension : String)
  | noSuchFile (path : String)
  | isDirectory
  | nothingFound
  deriving DecidableEq, Repr

/-- The names of settings files, the preferred one first. -/
def fileNames : List String := ["registrar.toml", "registrar.json"]

def SourceFault.message : SourceFault → String
  | .unset key => "Missing required environment variable: " ++ key
  | .requestRate fault => "Invalid NAMECHEAP_RATE_LIMIT_RPS: " ++ fault.message
  | .burst fault => "Invalid NAMECHEAP_RATE_LIMIT_BURST: " ++ fault.message
  | .toml => "Invalid TOML format: the document or a field of it cannot be read"
  | .json => "Invalid JSON format: the document or a field of it cannot be read"
  | .unknownFormat extension => "Unsupported config format: " ++ extension
  | .noSuchFile path => "Config file not found: " ++ path
  | .isDirectory => "Failed to read config file: Is a directory (os error 21)"
  | .nothingFound =>
    "No " ++ " or ".intercalate fileNames ++ " found in the working directory or its parents"

def SourceFault.toFailure (f : SourceFault) : Failure := .config f.message

/-! ## Environment -/

/-- The credentials of the environment; the first variable that is unset is the fault. -/
def credentialsOf (env : Environment) : Except SourceFault Credentials := do
  let demand (key : String) : Except SourceFault String :=
    match env.value? key with
    | some value => .ok value
    | none => .error (.unset key)
  return {
    apiUser := ← demand "NAMECHEAP_API_USER"
    apiKey := ← demand "NAMECHEAP_API_KEY"
    username := ← demand "NAMECHEAP_USERNAME"
    clientIp := ← demand "NAMECHEAP_CLIENT_IP" }

/-- The request rate of the environment, else the default. -/
def requestRateOf (env : Environment) : Except SourceFault Float :=
  match env.value? "NAMECHEAP_RATE_LIMIT_RPS" with
  | none => .ok (RateLimit.standard : RateLimit Float).requestsPerSecond
  | some value => (Decimal.readFloat value).mapError .requestRate

/-- The burst of the environment, else the default. -/
def burstOf (env : Environment) : Except SourceFault Nat :=
  match env.value? "NAMECHEAP_RATE_LIMIT_BURST" with
  | none => .ok (RateLimit.standard : RateLimit Float).burst
  | some value => (Decimal.readWhole Decimal.max32 value.toList).mapError .burst

/-- The settings with these credentials that the other variables ask for. -/
def withEnvironment (c : Credentials) (env : Environment) :
    Except SourceFault (Settings Float) := do
  let requestsPerSecond ← requestRateOf env
  let burst ← burstOf env
  return { Settings.new c with
    endpoint := ⟨env.isOn "NAMECHEAP_SANDBOX", env.value? "NAMECHEAP_BASE_URL"⟩
    rateLimit := ⟨requestsPerSecond, burst⟩ }

/-- The settings of the environment, not validated. -/
def fromEnvironment (env : Environment) : Except SourceFault (Settings Float) := do
  withEnvironment (← credentialsOf env) env

/-! ## Files -/

/-- The settings that a file says, not validated. Its extension tells its format; a file without
one is read like `registrar.toml`. -/
def parse (contents : String) (route : Route) : Except SourceFault (Settings Float) :=
  let accept (settings : Option (Settings Float)) (fault : SourceFault) :=
    match settings with
    | some s => .ok s
    | none => .error fault
  match route.extension?.getD "toml" with
  | "toml" => accept ((Document.Toml.read? contents).bind ((layout false).readRecord false)) .toml
  | "json" => accept ((Document.Json.read? contents).bind ((layout true).readRecord true)) .json
  | extension => .error (.unknownFormat extension)

/-- The places where a file is looked for, nearest first. -/
def candidates (start : Route) : List Route :=
  (start.upwards 3).flatMap fun directory => fileNames.map directory.within

/-- The first settings file in a directory, its parent or its grandparent. -/
def search? (tree : FileTree) (start : Route) : Option Route :=
  (candidates start).find? fun route => (tree.contents? route).isSome

/-- The settings of the file at the end of a route. -/
def fromFile (tree : FileTree) (route : Route) : Except SourceFault (Settings Float) :=
  match tree.find? route with
  | none => .error (.noSuchFile route.text)
  | some .directory => .error .isDirectory
  | some (.file contents) => parse contents route

/-- The settings of the first file that is found. -/
def fromSearch (tree : FileTree) (start : Route) : Except SourceFault (Settings Float) :=
  match search? tree start with
  | none => .error .nothingFound
  | some route => parse ((tree.contents? route).getD "") route

/-! ## Both -/

/-- Loads settings from the environment if its credentials are complete, else from a file. -/
def load (env : Environment) (tree : FileTree) (start : Route) :
    Except Failure (Settings Float) := do
  let settings ←
    (match credentialsOf env with
      | .ok c => withEnvironment c env
      | .error _ => fromSearch tree start).mapError SourceFault.toFailure
  settings.validate
  return settings

end Settings

end Registrar
