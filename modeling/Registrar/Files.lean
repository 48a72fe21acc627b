import Registrar.Text.Split

/-!
# Files

A `Route` is a path as it is written, a `Path` is where it leads, and a `FileTree` says what lies
there. `FileTree.locate?` follows a route name by name: each name but the last must be a directory,
also before two points. `Route.upwards` goes up by the names that are written and asks no tree.

Every file of a tree can be read and holds text: files that the caller may not read or that are not
UTF-8, links, and trees that change while they are read are left out.
-/

namespace Registrar

/-- The names from the root of a file tree down to a place. Two points lead out of the tree and
stand only at the front. -/
abbrev Path := List String

/-- What stands between the slashes of a path as it is written; a slash at the front leads to a root
outside the tree. -/
abbrev Route := List String

namespace Route

def ofText (s : String) : Route :=
  (Text.splitOn '/' s.toList).map String.ofList

def text (r : Route) : String :=
  "/".intercalate r

/-- Whether a name is a step; nothing and a single point stay where they are. -/
def isStep (name : String) : Bool :=
  !name.isEmpty && name != "."

/-- The names that lead somewhere. -/
def steps (r : Route) : List String := r.filter isStep

/-- Whether a route starts at a root outside the tree. -/
def isOutside : Route → Bool
  | "" :: _ :: _ => true
  | _ => false

/-- Removes what leads nowhere at the end. -/
def trimmed (r : Route) : Route :=
  (r.reverse.dropWhile fun name => !isStep name).reverse

/-- The route without its last name. -/
def parent? (r : Route) : Option Route :=
  if r.steps.isEmpty then none else some (trimmed r.trimmed.dropLast)

/-- The route of a name in the directory of a route. -/
def within (r : Route) (name : String) : Route :=
  if r.getLast? == some "" then r.dropLast ++ [name] else r ++ [name]

/-- The route itself, then its parent and so on up, `count` routes at most. -/
def upwards (r : Route) : Nat → List Route
  | 0 => []
  | count + 1 =>
    r :: match r.parent? with
      | none => []
      | some up => upwards up count

/-- What follows the last point of a name, unless the name starts with it. -/
def nameExtension? (name : List Char) : Option (List Char) :=
  match name.reverse.dropWhile (· != '.') with
  | [] | ['.'] => none
  | _ => some (name.reverse.takeWhile (· != '.')).reverse

/-- The extension of the last name. -/
def extension? (r : Route) : Option String :=
  match r.steps.getLast? with
  | none | some ".." => none
  | some name => (nameExtension? name.toList).map String.ofList

end Route

/-- What lies at a place. -/
inductive FileEntry
  | file (contents : String)
  | directory
  deriving DecidableEq, Repr

/-- What lies at each path, if anything. -/
abbrev FileTree := Path → Option FileEntry

namespace FileTree

/-- The path that one name leads to from another path. -/
def step (here : Path) (name : String) : Path :=
  if !Route.isStep name then here
  else if name == ".." && !here.isEmpty && here.getLast? != some ".." then here.dropLast
  else here ++ [name]

/-- Where a route leads that goes on from a path. -/
def locateFrom? (t : FileTree) (here : Path) : Route → Option Path
  | [] => some here
  | name :: more =>
    if t here == some .directory then t.locateFrom? (step here name) more else none

/-- Where a route leads from the root of the tree. -/
def locate? (t : FileTree) (r : Route) : Option Path :=
  if r.isOutside then none else t.locateFrom? [] r

/-- What lies at the end of a route. -/
def find? (t : FileTree) (r : Route) : Option FileEntry :=
  (t.locate? r).bind t

/-- The contents of the file at the end of a route. -/
def contents? (t : FileTree) (r : Route) : Option String :=
  match t.find? r with
  | some (.file contents) => some contents
  | _ => none

end FileTree

end Registrar
