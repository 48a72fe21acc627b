import Registrar.Text.Blank
import Registrar.Text.Case
import Registrar.Text.Quoted
import Registrar.Text.Split
import Registrar.Decimal.Whole

/-!
# Log filters

A filter is a list of directives with commas between them. A directive names a level, a target, a
span in brackets with the fields it must have, or a place with the level that holds there, in the
grammar of `tracing-subscriber`. `LogFilter.install` puts a filter in force for the process.
-/

namespace Registrar

namespace LogFilter

/-- The filter of the program. -/
def standard : String := "info,registrar_infra=debug"

/-! ## Directives -/

def levels : List String := ["off", "error", "warn", "info", "debug", "trace"]

/-- Whether a text is the name of a level in any letter case or its number; nothing stands for all
levels. -/
def isLevel (cs : List Char) : Bool :=
  cs.isEmpty || levels.contains (Text.lower (String.ofList cs)) ||
    (match Decimal.readWhole 5 cs with
      | .ok _ => true
      | .error _ => false)

/-- Whether a directive may begin with a character. -/
def mayBegin (c : Char) : Bool :=
  c.isAlphanum || c == '-' || c == ':' || c == '_' || c == '[' || 0x80 ≤ c.toNat

/-- What follows a span behind its opening bracket. -/
def afterSpan? (cs : List Char) : Option (List Char) :=
  match cs.dropWhile fun c => c != ']' && c != '\x7b' with
  | ']' :: rest => some rest
  | '\x7b' :: fields =>
    match fields.dropWhile (· != '\x7d') with
    | '\x7d' :: ']' :: rest => if fields.head? == some '\x7d' then none else some rest
    | _ => none
  | _ => none

/-- What follows the place that a directive names. -/
def afterPlace? (cs : List Char) : Option (List Char) :=
  match cs.dropWhile fun c => c != '=' && c != '[' with
  | '[' :: rest => afterSpan? rest
  | rest => some rest

/-- Whether a directive can be read. White space is allowed at its ends if it has no level. -/
def isDirective (cs : List Char) : Bool :=
  let core := Text.trimChars cs
  core.head?.any mayBegin &&
    (match afterPlace? core with
      | some [] => true
      | some ('=' :: level) => core == cs && isLevel level
      | _ => false)

/-- Whether a filter can be read; directives without any character are skipped. -/
def isValid (filter : String) : Bool :=
  ((Text.splitOn ',' filter.toList).filter (!·.isEmpty)).all isDirective

/-! ## Installation -/

/-- Why no filter was put in force. -/
inductive Fault
  | invalid (filter : String)
  | alreadyInstalled
  deriving DecidableEq, Repr

namespace Fault

def kind : Fault → String
  | .invalid _ => "InvalidFilter"
  | .alreadyInstalled => "AlreadyInitialized"

def summary : Fault → String
  | .invalid filter => "Invalid log filter " ++ Text.quoted filter
  | .alreadyInstalled => "Failed to install tracing subscriber"

def reason : Fault → String
  | .invalid _ => "invalid filter directive"
  | .alreadyInstalled => "a global default trace dispatcher has already been set"

def message (f : Fault) : String := f.summary ++ ": " ++ f.reason

end Fault

/-- The filter that counts: the one of the user if it can be read, else that of the program. -/
def choose (wanted : Option String) (filter : String) : Except Fault String :=
  match wanted.filter isValid with
  | some chosen => .ok chosen
  | none => if isValid filter then .ok filter else .error (.invalid filter)

/-- Puts a filter in force, unless the process has one. -/
def install (isInstalled : Bool) (wanted : Option String) (filter : String) :
    Except Fault String := do
  let chosen ← choose wanted filter
  if isInstalled then throw .alreadyInstalled
  return chosen

end LogFilter

end Registrar
