import Registrar.Document.Layout
import Registrar.Text.Blank
import Registrar.Text.Case

/-!
# Host records

The host set of a domain is a list of records. A record is found by its name, in any letter case,
and its type.
-/

namespace Registrar

open Document

/-- The type of a record; a type without a name of its own is kept as it was written. -/
inductive RecordType
  | a
  | aaaa
  | aliasName
  | caa
  | cname
  | mx
  | mxe
  | ns
  | txt
  | url
  | url301
  | frame
  | other (value : String)
  deriving DecidableEq, Repr

namespace RecordType

def text : RecordType → String
  | a => "A"
  | aaaa => "AAAA"
  | aliasName => "ALIAS"
  | caa => "CAA"
  | cname => "CNAME"
  | mx => "MX"
  | mxe => "MXE"
  | ns => "NS"
  | txt => "TXT"
  | url => "URL"
  | url301 => "URL301"
  | frame => "FRAME"
  | other value => value

def named : List RecordType :=
  [a, aaaa, aliasName, caa, cname, mx, mxe, ns, txt, url, url301, frame]

/-- The type that a text names, in any letter case and with blanks around it. -/
def ofText (s : String) : RecordType :=
  let value := Text.trim s
  match named.find? fun t => t.text == Text.upper value with
  | some t => t
  | none => other value

def isOther : RecordType → Bool
  | other _ => true
  | _ => false

def codec : Codec RecordType :=
  Codec.text.via text fun s => some (ofText s)

theorem ofText_text_of_mem_named {t : RecordType} (h : t ∈ named) : ofText t.text = t := by
  simp only [named, List.mem_cons, List.not_mem_nil, or_false] at h
  rcases h with rfl | rfl | rfl | rfl | rfl | rfl | rfl | rfl | rfl | rfl | rfl | rfl <;>
    decide +kernel

end RecordType

structure HostRecord where
  /-- The registrar's number; absent before the record is written. -/
  hostId : Option Nat
  /-- The label, an at-sign for the domain itself. -/
  name : String
  recordType : RecordType
  address : String
  /-- Counts only for mail exchangers. -/
  mxPref : Option Nat
  /-- Seconds; the registrar has its own default. -/
  ttl : Option Nat
  isActive : Bool
  deriving DecidableEq, Repr

namespace HostRecord

/-- A record that has not been written yet. -/
def new (name : String) (recordType : RecordType) (address : String) : HostRecord :=
  ⟨none, name, recordType, address, none, none, true⟩

/-- Whether a record has this name and type. -/
def isAt (r : HostRecord) (name : String) (recordType : RecordType) : Bool :=
  Text.sameFolded r.name name && r.recordType == recordType

def layout : Layout HostRecord HostRecord :=
  mk <$> .optional "host_id" hostId .word64
    <*> .required "name" name .text
    <*> .required "record_type" recordType RecordType.codec
    <*> .required "address" address .text
    <*> .optional "mx_pref" mxPref .word32
    <*> .optional "ttl" ttl .word32
    <*> .required "is_active" isActive .bool

end HostRecord

end Registrar
