import Registrar.Text.Quoted
import Registrar.Xml.Cursor

/-!
# Reading elements

A `Fields α` reads a value of `α` from the attributes and the parts of an element as they come, and
every reader of a record is put together from readers of single fields. What no field reads is
passed over. The first fault in the document is reported; a field that is missing is noticed at the
end of the element, in the order in which the fields are declared. These are the rules of the
readers that `serde` derives for a record, as the `quick-xml` deserializer drives them.
-/

namespace Registrar.Xml

/-- Why an element cannot be read. -/
inductive Fault
  | malformed
  | badFlag (raw : String)
  | badNumber (raw why : String)
  | missing (field : String)
  | duplicate (field : String)
  deriving DecidableEq, Repr

def Fault.message : Fault → String
  | .malformed => "malformed markup"
  | .badFlag raw => "invalid boolean " ++ Text.quoted raw
  | .badNumber raw why => "invalid number " ++ Text.quoted raw ++ ": " ++ why
  | .missing field => "missing field \x60" ++ field ++ "\x60"
  | .duplicate field => "duplicate field \x60" ++ field ++ "\x60"

/-- A value, or broken markup in its place. -/
def demand {α : Type} : Option α → Except Fault α
  | some a => .ok a
  | none => .error .malformed

/-- A reader of the raw text of an attribute. -/
abbrev Value (α : Type) := List Char → Except Fault α

/-- A reader of an element whose tag was read; it gives the place behind the element, too. -/
abbrev Reader (α : Type) := Tag → Cursor → Except Fault (α × Cursor)

/-- A reader of some fields of an element. What was read so far is a state; each handler gives
nothing for what is none of its fields. -/
structure Fields (α : Type) where
  State : Type
  /-- What is known before anything was read. -/
  unread : State
  onAttribute : State → Attribute → Option (Except Fault State)
  /-- Reads a child element; the first tag is that of the element itself. -/
  onChild : Tag → State → Tag → Option (Cursor → Except Fault (State × Cursor))
  onText : State → List Char → Option (Except Fault State)
  finish : State → Except Fault α

namespace Fields

variable {α β : Type}

/-- Reads both; what both could read is read by the first. -/
def both (f : Fields (α → β)) (x : Fields α) : Fields β where
  State := f.State × x.State
  unread := (f.unread, x.unread)
  onAttribute s a :=
    match f.onAttribute s.1 a with
    | some result => some (result.map (·, s.2))
    | none => (x.onAttribute s.2 a).map fun result => result.map (s.1, ·)
  onChild parent s tag :=
    match f.onChild parent s.1 tag with
    | some read => some fun c => (read c).map fun (t, c) => ((t, s.2), c)
    | none => (x.onChild parent s.2 tag).map fun read c => (read c).map fun (t, c) => ((s.1, t), c)
  onText s cs :=
    match f.onText s.1 cs with
    | some result => some (result.map (·, s.2))
    | none => (x.onText s.2 cs).map fun result => result.map (s.1, ·)
  finish s := do
    let g ← f.finish s.1
    let a ← x.finish s.2
    return g a

instance : Applicative Fields where
  pure a := ⟨Unit, (), fun _ _ => none, fun _ _ _ => none, fun _ _ => none, fun _ => .ok a⟩
  map g f := { f with finish := fun s => (f.finish s).map g }
  seq f x := f.both (x ())

/-- A field that must be there. -/
def required (field : String) (f : Fields (Option α)) : Fields α :=
  { f with
    finish := fun s => do
      match ← f.finish s with
      | some a => .ok a
      | none => .error (.missing field) }

/-- A field with a value for when it is absent. -/
def orElse (f : Fields (Option α)) (absent : α) : Fields α :=
  (·.getD absent) <$> f

end Fields

/-! ## Single fields -/

section

variable {α : Type}

/-- The name under which an attribute is reported. -/
def shownAttribute (names : List String) : String := "@" ++ names.headD ""

/-- The name under which a child element is reported. -/
def shownChild (names : List String) : String := names.headD ""

def hasName (names : List String) (qualified : List Char) : Bool :=
  names.contains (String.ofList (localName qualified))

/-- What a field holds after its value was read, unless it holds something already. -/
def once {β : Type} (field : String) (before : Option α) (result : Except Fault β) :
    Except Fault β :=
  match before with
  | some _ => .error (.duplicate field)
  | none => result

/-- An attribute with one of these names, of which the first is its name in reports. -/
def optionalAttribute (names : List String) (value : Value α) : Fields (Option α) where
  State := Option α
  unread := none
  onAttribute s a :=
    if !a.isBinding && hasName names a.name then
      some (once (shownAttribute names) s ((value a.raw).map some))
    else none
  onChild _ _ _ := none
  onText _ _ := none
  finish := .ok

def requiredAttribute (names : List String) (value : Value α) : Fields α :=
  (optionalAttribute names value).required (shownAttribute names)

/-- A child element with one of these names, read by a reader. -/
def childBy (names : List String) (reader : Tag → Reader α) : Fields (Option α) where
  State := Option α
  unread := none
  onAttribute _ _ := none
  onChild parent s tag :=
    if hasName names tag.name then
      some fun c => once (shownChild names) s
        ((reader parent tag c).map fun (a, c) => (some a, c))
    else none
  onText _ _ := none
  finish := .ok

/-- A child element with a value for when it is absent. -/
def childOr (absent : α) (names : List String) (reader : Reader α) : Fields α :=
  (childBy names fun _ => reader).orElse absent

def requiredChild (names : List String) (reader : Reader α) : Fields α :=
  (childBy names fun _ => reader).required (shownChild names)

/-- Passes over an element. -/
def passOver : Reader Unit := fun tag c => (demand (c.leave? tag)).map ((), ·)

/-- Reads an element, unless it or its parent says that it is nil. -/
def unlessNil (reader : Reader α) (parent : Tag) : Reader (Option α) := fun tag c =>
  if c.scopes.isNil parent || c.scopes.isNil tag then (passOver tag c).map fun (_, c) => (none, c)
  else (reader tag c).map fun (a, c) => (some a, c)

/-- A child element that may be absent or nil. -/
def optionalChild (names : List String) (reader : Reader α) : Fields (Option α) :=
  Option.join <$> childBy names (unlessNil reader)

/-- Reads on after an item of a list, of at most `fuel` parts: elements of the item's name follow,
or texts that are items too. -/
def itemsWithin (reader : Reader α) (ofText : Value α) (name : List Char) :
    Nat → Cursor → Except Fault (List α × Cursor)
  | 0, _ => .error .malformed
  | fuel + 1, c => do
    match ← demand c.next? with
    | (.text cs, c) =>
      let a ← ofText cs
      let (more, c) ← itemsWithin reader ofText name fuel c
      return (a :: more, c)
    | (.opening tag, c) =>
      if tag.name = name then
        let (a, c) ← reader tag c
        let (more, c) ← itemsWithin reader ofText name fuel c
        return (a :: more, c)
      else return ([], c.putBack (.opening tag))
    | (.closing, c) => return ([], c.putBack .closing)

/-- The adjacent items of a list from the first on. -/
def items (reader : Reader α) (ofText : Value α) : Reader (List α) := fun tag c => do
  let (a, c) ← reader tag c
  let (more, c) ← itemsWithin reader ofText tag.name (c.size + 2) c
  return (a :: more, c)

/-- The adjacent child elements with one of these names. -/
def children (names : List String) (reader : Reader α) : Fields (List α) :=
  (childBy names fun _ => items reader fun _ => .error .malformed).orElse []

/-- The text of an element, which its child elements must not divide. -/
def optionalText : Fields (Option String) where
  State := Option String
  unread := none
  onAttribute _ _ := none
  onChild _ _ _ := none
  onText s cs := some (once "$text" s (.ok (some (String.ofList cs))))
  finish := .ok

/-! ## Whole elements -/

namespace Fields

/-- Reads the attributes of a tag. -/
def readAttributes (f : Fields α) : List (Option Attribute) → f.State → Except Fault f.State
  | [], s => .ok s
  | none :: _, _ => .error .malformed
  | some a :: as, s =>
    match f.onAttribute s a with
    | none => f.readAttributes as s
    | some result => result.bind (f.readAttributes as)

/-- Reads the parts of an element, at most `fuel` of them, up to its closing tag. -/
def readPartsWithin (f : Fields α) (parent : Tag) :
    Nat → f.State → Cursor → Except Fault (f.State × Cursor)
  | 0, _, _ => .error .malformed
  | fuel + 1, s, c => do
    match ← demand c.next? with
    | (.closing, c) => return (s, c)
    | (.text cs, c) => f.readPartsWithin parent fuel (← (f.onText s cs).getD (.ok s)) c
    | (.opening tag, c) =>
      let (s, c) ←
        match f.onChild parent s tag with
        | some read => read c
        | none => (passOver tag c).map fun (_, c) => (s, c)
      f.readPartsWithin parent fuel s c

/-- Reads an element by its fields. -/
def reader (f : Fields α) : Reader α := fun tag c => do
  let s ← f.readAttributes tag.entries f.unread
  let (s, c) ← f.readPartsWithin tag (c.size + 1) s c
  return (← f.finish s, c)

end Fields

end

/-- Reads the text of an element that holds nothing else. -/
def textReader : Reader String := fun _ c => do
  match ← demand c.next? with
  | (.closing, c) => return ("", c)
  | (.text cs, c) =>
    match ← demand c.next? with
    | (.closing, c) => return (String.ofList cs, c)
    | _ => throw .malformed
  | (.opening _, _) => throw .malformed

/-- The adjacent child elements with one of these names that hold texts; a text between them is one
more. -/
def texts (names : List String) : Fields (List String) :=
  (childBy names fun _ => items textReader fun cs => .ok (String.ofList cs)).orElse []

/-- Reads the root element of a document. -/
def readDocument {α : Type} (reader : Reader α) (body : String) : Except Fault α := do
  match ← demand (Cursor.ofChars body.toList).next? with
  | (.opening tag, c) => return (← reader tag c).1
  | _ => throw .malformed

end Registrar.Xml
