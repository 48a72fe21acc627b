import Registrar.Client
import Registrar.Records.Host

/-!
# Host records of a domain

The registrar can read the whole host set of a domain and replace it. A single record is changed by
reading the set, changing it and writing it back; of two writers at the same time the last one wins.
-/

namespace Registrar

open Xml Wire

/-! ## Payloads -/

/-- A record as the registrar reports it; the preference of anything but a mail exchanger is
dropped. -/
def HostRecord.ofWire (hostId : Option Nat) (name type address : String) (mxPref ttl : Option Nat)
    (isActive : Bool) : HostRecord :=
  let recordType := RecordType.ofText type
  ⟨hostId, name, recordType, address, if recordType = .mx then mxPref else none, ttl, isActive⟩

def HostRecord.fields : Fields HostRecord :=
  ofWire <$> numberOr Decimal.max64 ["HostId"]
    <*> requiredAttribute ["Name"] plainText
    <*> requiredAttribute ["Type"] plainText
    <*> textOr ["Address"]
    <*> numberOr Decimal.max32 ["MXPref"]
    <*> numberOr Decimal.max32 ["TTL"]
    <*> flagOr true ["IsActive"]

/-- The host set of an answer. -/
def hostSetFields : Fields (List HostRecord) :=
  requiredChild ["DomainDNSGetHostsResult"]
    (children ["host", "Host"] HostRecord.fields.reader).reader

/-- Whether the host set was replaced. -/
def hostsReplacedFields : Fields Bool :=
  requiredChild ["DomainDNSSetHostsResult"] (flagOr false ["IsSuccess"]).reader

/-! ## Commands -/

namespace Command

/-- A command on the host set of a domain. -/
def onHosts (name : String) (d : DomainName) : Command :=
  ((new name).set "SLD" d.sld).set "TLD" d.tld

def getHosts (d : DomainName) : Command :=
  onHosts "namecheap.domains.dns.getHosts" d

/-- The preference of a mail exchanger that has none. -/
def standardPreference : Nat := 10

/-- Why a record cannot be written; positions count from one. -/
inductive HostFault
  | noName (position : Nat)
  | noAddress (position : Nat) (record : HostRecord)
  deriving DecidableEq, Repr

def HostFault.message : HostFault → String
  | .noName position => "record " ++ Decimal.wholeText position ++ " has no name"
  | .noAddress position record =>
    "record " ++ Decimal.wholeText position ++ " (" ++ record.name ++ " " ++
      record.recordType.text ++ ") has no address"

/-- The first record that lacks a name or an address. -/
def hostFault? (position : Nat) : List HostRecord → Option HostFault
  | [] => none
  | r :: rs =>
    if Text.isBlankText r.name then some (.noName position)
    else if Text.isBlankText r.address then some (.noAddress position r)
    else hostFault? (position + 1) rs

/-- The parameters of the record at a position. -/
def hostPairs (position : Nat) (r : HostRecord) : List (String × String) :=
  let n := Decimal.wholeText position
  [("HostName" ++ n, r.name), ("RecordType" ++ n, r.recordType.text),
    ("Address" ++ n, r.address)] ++
    (r.ttl.map fun ttl => ("TTL" ++ n, Decimal.wholeText ttl)).toList ++
    (if r.recordType = .mx then
      [("MXPref" ++ n, Decimal.wholeText (r.mxPref.getD standardPreference))]
    else [])

/-- The parameters of the records from a position on. -/
def hostSetPairs (position : Nat) : List HostRecord → List (String × String)
  | [] => []
  | r :: rs => hostPairs position r ++ hostSetPairs (position + 1) rs

/-- The command that replaces the host set, if every record can be written. -/
def setHosts (d : DomainName) (records : List HostRecord) : Except HostFault Command :=
  match hostFault? 1 records with
  | some fault => .error fault
  | none =>
    let command := (onHosts "namecheap.domains.dns.setHosts" d).setAll (hostSetPairs 1 records)
    .ok (if records.any (·.recordType == .mx) then command.set "EmailType" "MX" else command)

theorem name_of_setHosts {d : DomainName} {records : List HostRecord} {command : Command}
    (h : setHosts d records = .ok command) : command.name = "namecheap.domains.dns.setHosts" := by
  unfold setHosts at h
  split at h
  · cases h
  · cases h
    split <;> simp [onHosts, new]

end Command

/-! ## Changes of a host set -/

namespace HostRecord

/-- Replaces the first record with the name and the type of `r`. -/
def replaceFirst (r : HostRecord) : List HostRecord → List HostRecord
  | [] => []
  | x :: xs => if x.isAt r.name r.recordType then r :: xs else x :: replaceFirst r xs

/-- A record in words: its type and its name. -/
def label (name : String) (recordType : RecordType) : String :=
  recordType.text ++ " record " ++ name

end HostRecord

/-! ## Operations -/

namespace Client

def getHostRecords (c : Client) (domain : String) : Operation (List HostRecord) := do
  let domain ← parseDomain domain
  c.run (.getHosts domain) hostSetFields

/-- Replaces the whole host set. -/
def setHostRecords (c : Client) (domain : String) (records : List HostRecord) : Operation Unit := do
  let domain ← parseDomain domain
  match Command.setHosts domain records with
  | .error fault => refuse fault.message
  | .ok command =>
    let done ← c.run command hostsReplacedFields
    requireDone command done ("host records of " ++ domain.text ++ " not updated")

/-- The first record with a name and a type. -/
def findHostRecord (c : Client) (domain name : String) (recordType : RecordType) :
    Operation (Option HostRecord) := do
  let records ← c.getHostRecords domain
  return records.find? (·.isAt name recordType)

def hostRecordExists (c : Client) (domain name : String) (recordType : RecordType) :
    Operation Bool := do
  return (← c.findHostRecord domain name recordType).isSome

/-- Adds a record, unless there is one with its name and type. -/
def createHostRecord (c : Client) (domain : String) (record : HostRecord) : Operation Unit := do
  let records ← c.getHostRecords domain
  if records.any (·.isAt record.name record.recordType) then
    refuse (HostRecord.label record.name record.recordType ++ " already exists on " ++ domain)
  else c.setHostRecords domain (records ++ [record])

/-- Replaces the record with the same name and type. -/
def updateHostRecord (c : Client) (domain : String) (record : HostRecord) : Operation Unit := do
  let records ← c.getHostRecords domain
  if records.any (·.isAt record.name record.recordType) then
    c.setHostRecords domain (record.replaceFirst records)
  else throw (.absent
    (HostRecord.label record.name record.recordType ++ " not found on " ++ domain))

/-- Removes every record with a name and a type. -/
def deleteHostRecord (c : Client) (domain name : String) (recordType : RecordType) :
    Operation Unit := do
  let records ← c.getHostRecords domain
  if records.any (·.isAt name recordType) then
    c.setHostRecords domain (records.filter fun r => !r.isAt name recordType)
  else throw (.absent (HostRecord.label name recordType ++ " not found on " ++ domain))

end Client

end Registrar
