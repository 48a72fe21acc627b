import Registrar.Xml.Token

/-!
# Attributes

`Tag.entries` reads the attributes of an opening tag, as `quick-xml` does. Nothing stands in the
place of an attribute that cannot be read, and reading goes on behind it.
-/

namespace Registrar.Xml

structure Attribute where
  name : List Char
  /-- The text between the quotes, references included. -/
  raw : List Char
  deriving DecidableEq, Repr

/-- A name without its namespace. -/
def localName (name : List Char) : List Char :=
  if name.contains ':' then (name.dropWhile (· != ':')).drop 1 else name

/-- What stands before the first colon of a name that has one. -/
def spaceOf? (name : List Char) : Option (List Char) :=
  if name.contains ':' then some (name.takeWhile (· != ':')) else none

namespace Attribute

/-- What an attribute binds: the default namespace, or the one of a name. -/
inductive Bound
  | default
  | named (name : List Char)
  deriving DecidableEq, Repr

/-- What an attribute binds, if it binds a namespace. -/
def bound? (a : Attribute) : Option Bound :=
  match a.name with
  | ['x', 'm', 'l', 'n', 's'] => some .default
  | 'x' :: 'm' :: 'l' :: 'n' :: 's' :: ':' :: name => some (.named name)
  | _ => none

def isBinding (a : Attribute) : Bool := a.bound?.isSome

/-- The value behind an equals sign, if it stands between quotes, and the rest. -/
def splitValue (cs : List Char) : Option (List Char) × List Char :=
  match cs.dropWhile isSpace with
  | [] => (none, [])
  | quote :: rest =>
    if quote == '"' || quote == '\'' then
      match splitAt? [quote] rest with
      | some (raw, rest) => (some raw, rest)
      | none => (none, [])
    else (none, (quote :: rest).dropWhile (!isSpace ·))

/-- At most `fuel` entries; if they are to be distinct, names of `seen` cannot be read again. -/
def entriesWithin (distinct : Bool) : Nat → List (List Char) → List Char → List (Option Attribute)
  | 0, _, _ => []
  | fuel + 1, seen, cs =>
    match cs.dropWhile isSpace with
    | [] => []
    | c :: cs =>
      let inName (x : Char) := x != '=' && !isSpace x
      let name := c :: cs.takeWhile inName
      match (cs.dropWhile inName).dropWhile isSpace with
      | '=' :: rest =>
        let (raw, rest) := splitValue rest
        (if distinct && seen.contains name then none else raw.map (⟨name, ·⟩)) ::
          entriesWithin distinct fuel (name :: seen) rest
      | rest => none :: entriesWithin distinct fuel seen rest

end Attribute

namespace Tag

/-- The attributes of a tag; a name that is given again cannot be read. -/
def entries (t : Tag) : List (Option Attribute) :=
  Attribute.entriesWithin true t.attributes.length [] t.attributes

/-- The attributes before the first that cannot be read; names may be given again. -/
def firstAttributes (t : Tag) : List Attribute :=
  ((Attribute.entriesWithin false t.attributes.length [] t.attributes).takeWhile
    Option.isSome).filterMap id

end Tag

end Registrar.Xml
