import Registrar.Document.Value

/-!
# Reading and writing records

A `Codec α` writes values of `α` into documents and reads them back. A `Layout σ α` lists the
fields of a record, each with its codec and with what its absence means; `Layout.codec` makes the
codec of the record, which also reads a list of the fields in order, as the readers that `serde`
derives do.
-/

namespace Registrar.Document

structure Codec (α : Type) where
  write : α → Value
  read : Value → Option α

namespace Codec

def bool : Codec Bool where
  write := .bool
  read
    | .bool b => some b
    | _ => none

/-- Whole numbers up to `max`. -/
def whole (max : Nat) : Codec Nat where
  write n := .integer n
  read
    | .integer n => if 0 ≤ n && n ≤ max then some n.toNat else none
    | _ => none

def word32 : Codec Nat := whole Decimal.max32
def word64 : Codec Nat := whole Decimal.max64

/-- Numbers; a whole number of 64 bits, signed or not, stands for the nearest double. -/
def float : Codec Float where
  write := .float
  read
    | .float x => some x
    | .integer n =>
      if n < -9223372036854775808 || (Decimal.max64 : Int) < n then none
      else some (if n < 0 then -(Float.ofNat n.natAbs) else Float.ofNat n.natAbs)
    | _ => none

def text : Codec String where
  write := .text
  read
    | .text s => some s
    | _ => none

/-- A codec for what is written as something else. -/
def via {α β : Type} (c : Codec α) (toText : β → α) (ofText : α → Option β) : Codec β where
  write b := c.write (toText b)
  read v := (c.read v).bind ofText

/-- A value or nothing. -/
def option {α : Type} (c : Codec α) : Codec (Option α) where
  write
    | none => .null
    | some a => c.write a
  read
    | .null => some none
    | v => (c.read v).map some

def list {α : Type} (c : Codec α) : Codec (List α) where
  write as := .list (as.map c.write)
  read
    | .list vs => vs.mapM c.read
    | _ => none

/-- One of several names; a table with a name as its only key and nothing as its value will do. -/
def oneOf {α : Type} (name : α → String) (all : List α) : Codec α where
  write a := .text (name a)
  read
    | .text s => all.find? fun a => name a == s
    | .table [(s, .null)] => all.find? fun a => name a == s
    | _ => none

end Codec

/-! ## Records -/

/-- The entries that a record is read from; `ordered` if they come from a list, in which no entry
but those with a default may be left out. -/
structure Slots where
  entries : List (String × Value)
  ordered : Bool

/-- The fields of `α` within the record `σ`. -/
structure Layout (σ α : Type) where
  names : List String
  write : σ → List (String × Value)
  read : Slots → Option α

namespace Layout

variable {σ α β : Type}

/-- What the absence of a field means. -/
inductive Absence (α : Type)
  | fault
  /-- In a table the field may be left out. -/
  | means (a : α)
  | default (a : α)

def field (name : String) (get : σ → α) (c : Codec α) (absence : Absence α) : Layout σ α where
  names := [name]
  write s := [(name, c.write (get s))]
  read slots :=
    match slots.entries.lookup name with
    | some v => c.read v
    | none =>
      match absence with
      | .fault => none
      | .means a => if slots.ordered then none else some a
      | .default a => some a

/-- A field that must be there. -/
def required (name : String) (get : σ → α) (c : Codec α) : Layout σ α :=
  field name get c .fault

/-- A field that may be nothing. -/
def optional (name : String) (get : σ → Option α) (c : Codec α) : Layout σ (Option α) :=
  field name get c.option (.means none)

/-- A field with a default. -/
def defaulted (name : String) (get : σ → α) (c : Codec α) (a : α) : Layout σ α :=
  field name get c (.default a)

def map (f : α → β) (l : Layout σ α) : Layout σ β :=
  ⟨l.names, l.write, fun slots => (l.read slots).map f⟩

/-- Puts two groups of fields side by side. -/
def beside (f : Layout σ (α → β)) (x : Layout σ α) : Layout σ β where
  names := f.names ++ x.names
  write s := f.write s ++ x.write s
  read slots := (f.read slots).bind fun g => (x.read slots).map g

instance : Applicative (Layout σ) where
  pure a := ⟨[], fun _ => [], fun _ => some a⟩
  map := map
  seq f x := beside f (x ())

/-- Whether no known field is given twice. -/
def isUnambiguous (l : Layout σ α) (entries : List (String × Value)) : Bool :=
  l.names.all fun name => (entries.filter fun e => e.1 == name).length ≤ 1

/-- Reads a record from a table, or from a list of its fields in order. Items behind the last field
are a fault if lists must be `exact`. A moment is a table of unknown fields. -/
def readRecord (l : Layout σ α) (exact : Bool) : Value → Option α
  | .table entries => if l.isUnambiguous entries then l.read ⟨entries, false⟩ else none
  | .list items =>
    if exact && l.names.length < items.length then none
    else l.read ⟨l.names.zip items, true⟩
  | .moment => l.read ⟨[], false⟩
  | _ => none

/-- The codec of a record; `exact` as in `readRecord`. -/
def codecWith (l : Layout α α) (exact : Bool) : Codec α where
  write a := .table (l.write a)
  read := l.readRecord exact

/-- The codec of a record of a fixed length. -/
def codec (l : Layout α α) : Codec α := l.codecWith true

end Layout

end Registrar.Document
