import Registrar.Xml.Attribute

/-!
# Namespaces

An opening tag may bind names to namespaces, and a binding holds while its scope lasts. Bindings are
asked for one purpose: `Scopes.isNil` tells whether an element says that it is nil, which makes an
optional one absent in the eyes of `quick-xml`.
-/

namespace Registrar.Xml

/-- A name that stands for a namespace. -/
structure Binding where
  name : List Char
  space : List Char
  deriving DecidableEq, Repr

namespace Binding

/-- A namespace that the rules of markup define; these lie on one host. -/
def defined (path : String) : List Char := ("http://" ++ "www.w3.org/" ++ path).toList

def markup : List Char := defined "XML/1998/namespace"
def bindings : List Char := defined "2000/xmlns/"
def schemaInstance : List Char := defined "2001/XMLSchema-instance"

/-- Whether a name may stand for a namespace: two names and two namespaces are reserved. -/
def isAllowed (name space : List Char) : Bool :=
  if name == ['x', 'm', 'l'] then space == markup
  else name != ['x', 'm', 'l', 'n', 's'] && space != markup && space != bindings

end Binding

/-- The bindings of a tag, the last first; nothing if one of them is not allowed. -/
def Tag.bindings? (t : Tag) : Option (List Binding) :=
  t.firstAttributes.foldlM (fun before a =>
    match a.bound? with
    | some (.named name) =>
      if Binding.isAllowed name a.raw then some (⟨name, a.raw⟩ :: before) else none
    | _ => some before) []

/-- The bindings of each scope, the innermost first. -/
abbrev Scopes := List (List Binding)

namespace Scopes

/-- The namespace that a name stands for. -/
def find? (s : Scopes) (name : List Char) : Option (List Char) :=
  (s.flatten.find? (·.name == name)).map (·.space)

/-- Whether an attribute says that its element is nil. -/
def saysNil (s : Scopes) (a : Attribute) : Bool :=
  localName a.name == ['n', 'i', 'l'] &&
    (spaceOf? a.name).any (fun name =>
      !name.isEmpty && s.find? name == some Binding.schemaInstance) &&
    (a.raw == ['1'] || a.raw == ['t', 'r', 'u', 'e'])

/-- Whether a tag says that its element is nil. -/
def isNil (s : Scopes) (t : Tag) : Bool :=
  t.entries.any (·.any s.saysNil)

end Scopes

end Registrar.Xml
