import Registrar.Document.Value

/-!
# Tables under construction

A TOML document names its tables bit by bit. A `Node` remembers how a table came about, because that
decides what may still be added: a table is opened by one header at most, keys with points add to
tables that such keys began, and what is written as a value is closed.
-/

namespace Registrar.Document.Toml

/-- How a table came about. -/
inductive Origin
  /-- It lies on the way to a header. -/
  | implied
  /-- It has a header of its own. -/
  | header
  /-- It lies on the way to a key. -/
  | key
  deriving DecidableEq, Repr

inductive Node
  | value (v : Value)
  | table (origin : Origin) (entries : List (String × Node))
  /-- Tables under one header, last first. -/
  | tables (items : List (List (String × Node)))

abbrev Entries := List (String × Node)

namespace Entries

def put (entries : Entries) (key : String) (node : Node) : Entries :=
  entries.map fun e => if e.1 == key then (key, node) else e

/-- Adds the value of a key path. -/
def assign (v : Value) : List String → Entries → Option Entries
  | [], _ => none
  | [key], entries =>
    match entries.lookup key with
    | none => some (entries ++ [(key, .value v)])
    | some _ => none
  | key :: more, entries =>
    match entries.lookup key with
    | none => (assign v more []).map fun inner => entries ++ [(key, .table .key inner)]
    | some (.table origin inner) =>
      if origin = .key || (origin = .implied && 1 < more.length) then
        (assign v more inner).map fun inner => entries.put key (.table origin inner)
      else none
    | some (.tables (last :: before)) =>
      if 1 < more.length then
        (assign v more last).map fun last => entries.put key (.tables (last :: before))
      else none
    | some _ => none

/-- Changes the table at the end of a path of headers; the last of several tables counts. Tables
that are missing on the way are implied. -/
def within (change : Entries → Option Entries) : List String → Entries → Option Entries
  | [], entries => change entries
  | key :: more, entries =>
    match entries.lookup key with
    | none => (within change more []).map fun inner => entries ++ [(key, .table .implied inner)]
    | some (.table origin inner) =>
      (within change more inner).map fun inner => entries.put key (.table origin inner)
    | some (.tables (last :: before)) =>
      (within change more last).map fun last => entries.put key (.tables (last :: before))
    | some _ => none

/-- Opens the table of a header. -/
def open? (key : String) (entries : Entries) : Option Entries :=
  match entries.lookup key with
  | none => some (entries ++ [(key, .table .header [])])
  | some (.table .implied inner) => some (entries.put key (.table .header inner))
  | some _ => none

/-- Opens one more table of a header that stands for several. -/
def openNext? (key : String) (entries : Entries) : Option Entries :=
  match entries.lookup key with
  | none => some (entries ++ [(key, .tables [[]])])
  | some (.tables items) => some (entries.put key (.tables ([] :: items)))
  | some _ => none

end Entries

/-! ## Values -/

mutual

def Node.toValue : Node → Value
  | .value v => v
  | .table _ entries => .table (entryValues entries)
  | .tables items => .list (tableValues items).reverse

def entryValues : List (String × Node) → List (String × Value)
  | [] => []
  | (key, node) :: entries => (key, node.toValue) :: entryValues entries

def tableValues : List (List (String × Node)) → List Value
  | [] => []
  | entries :: items => .table (entryValues entries) :: tableValues items

end

/-! ## Documents -/

/-- What is read of a document: its entries, and the path of the header in force. -/
structure Draft where
  root : Entries
  current : List String

namespace Draft

def empty : Draft := ⟨[], []⟩

/-- Adds a value under the header in force. -/
def assign (d : Draft) (path : List String) (v : Value) : Option Draft :=
  (d.root.within (Entries.assign v path) d.current).map fun root => { d with root }

/-- Puts a header in force, of one table or of one of several. -/
def enter (d : Draft) (severals : Bool) (path : List String) : Option Draft :=
  path.getLast?.bind fun key =>
    let change := if severals then Entries.openNext? key else Entries.open? key
    (d.root.within change path.dropLast).map fun root => ⟨root, path⟩

def toValue (d : Draft) : Value := .table (entryValues d.root)

end Draft

end Registrar.Document.Toml
