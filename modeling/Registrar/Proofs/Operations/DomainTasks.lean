import Registrar.Proofs.Names.Labels
import Registrar.Proofs.Operations.Lookups

/-!
# Operations on one domain

A `DomainTask` is an operation on the domain with a given name. The name is read first, and a name
that cannot be read is refused before anything is sent (`DomainTask.refused_of_parse`). What can be
read has a label in front of its first point; behind that point there may be another one, and then
the name is sent with an empty label.

Main statement: `DomainName.read_or_refused`.
-/

namespace Registrar

open Dialogue

/-- What can be done with the domain of a given name. -/
inductive DomainTask : Type → Type
  | getDomain : DomainTask DomainInfo
  | domainExists : DomainTask Bool
  | createDomain (years : Nat) : DomainTask DomainRegistration
  | createDomainWith (years : Nat) (extra : List (String × String)) : DomainTask DomainRegistration
  | renewDomain (years : Nat) : DomainTask DomainRenewal
  | setNameservers (servers : List String) : DomainTask Unit
  | setDefaultDns : DomainTask Unit
  | getHostRecords : DomainTask (List HostRecord)
  | setHostRecords (records : List HostRecord) : DomainTask Unit
  | findHostRecord (name : String) (recordType : RecordType) : DomainTask (Option HostRecord)
  | hostRecordExists (name : String) (recordType : RecordType) : DomainTask Bool
  | createHostRecord (record : HostRecord) : DomainTask Unit
  | updateHostRecord (record : HostRecord) : DomainTask Unit
  | deleteHostRecord (name : String) (recordType : RecordType) : DomainTask Unit

namespace DomainTask

variable {β : Type}

def perform (c : Client) (domain : String) : DomainTask β → Operation β
  | getDomain => c.getDomain domain
  | domainExists => c.domainExists domain
  | createDomain years => c.createDomain domain years
  | createDomainWith years extra => c.createDomainWith domain years extra
  | renewDomain years => c.renewDomain domain years
  | setNameservers servers => c.setNameservers domain servers
  | setDefaultDns => c.setDefaultDns domain
  | getHostRecords => c.getHostRecords domain
  | setHostRecords records => c.setHostRecords domain records
  | findHostRecord name recordType => c.findHostRecord domain name recordType
  | hostRecordExists name recordType => c.hostRecordExists domain name recordType
  | createHostRecord record => c.createHostRecord domain record
  | updateHostRecord record => c.updateHostRecord domain record
  | deleteHostRecord name recordType => c.deleteHostRecord domain name recordType

/-- A name that cannot be read is refused, and nothing is asked. -/
theorem refused_of_parse {s : String} {f : Failure} (parsed : DomainName.parse s = .error f)
    (c : Client) (task : DomainTask β) : (task.perform c s).run = .done (.error f) := by
  have unread : (Client.parseDomain s).run = .done (.error f) := congrArg Dialogue.done parsed
  have unlisted : (c.getHostRecords s).run = .done (.error f) := Operation.run_bind_of_error unread
  cases task with
  | getDomain | createDomain | createDomainWith | renewDomain | setNameservers | setDefaultDns
  | getHostRecords | setHostRecords => exact Operation.run_bind_of_error unread
  | domainExists =>
    have missing : (c.getDomain s).run = .done (.error f) := Operation.run_bind_of_error unread
    refine (Client.run_falseIfAbsent_bind_pure (c.getDomain s) fun _ => true).trans ?_
    have known := Lookup.isNotFound_of_parse parsed
    rw [missing, done_andThen, Except.map, Failure.noIfAbsent, known]
    rfl
  | findHostRecord | createHostRecord | updateHostRecord | deleteHostRecord =>
    exact Operation.run_bind_of_error unlisted
  | hostRecordExists =>
    exact Operation.run_bind_of_error (Operation.run_bind_of_error unlisted)

end DomainTask

/-- A name is read if it has a first label once it is clean: that label, and all behind the first
point. Every other name is refused by every operation before anything is sent. So the labels on
both sides of the first point are there for the names that are read, and for no others, except
where points stand in a row behind the first label. -/
theorem DomainName.read_or_refused (s : String) :
    (∀ d, parse s = .ok d ↔
      '.' ∉ d.sld.toList ∧ d.sld ≠ "" ∧ clean s = d.sld.toList ++ '.' :: d.tld.toList) ∧
    ((∃ d, parse s = .ok d) ∨ ∃ reason, parse s = .error (.invalidInput reason) ∧
      ∀ (c : Client) (β : Type) (task : DomainTask β),
        (task.perform c s).run = .done (.error (.invalidInput reason))) ∧
    (((∃ d, parse s = .ok d) ↔ Parted s) ↔ ¬ Gapped s) := by
  refine ⟨fun d => ?_, ?_, ?_⟩
  · rw [parse_eq_ok_iff, toList_text]
  · obtain read | ⟨reason, refused⟩ := parse_eq_ok_or_refused s
    · exact .inl read
    · exact .inr ⟨reason, refused, fun c β task => task.refused_of_parse refused c⟩
  · rw [exists_parse_iff_parted_or_gapped]
    constructor
    · exact fun same gapped => not_parted_of_gapped gapped (same.1 (.inr gapped))
    · exact fun whole => or_iff_left whole

/-- Two points in a row are read and sent: the label between them is empty. -/
theorem DomainName.gap_is_sent :
    let s : Settings ℚ := .new ⟨"user", "key", "user", "10.0.0.1"⟩
    let c : Client := .ofSettings s fun _ => 0
    let body := "<ApiResponse Status=\"OK\"><CommandResponse>" ++
      "<DomainDNSSetDefaultResult Updated=\"true\"/></CommandResponse></ApiResponse>"
    parse "example..com" = .ok ⟨"example", ".com"⟩ ∧ ¬ Parted "example..com" ∧
    ∃ events request, Runs (c.setDefaultDns "example..com").run events (.ok ()) ∧
      Client.traffic events = [(request, .answered (.ok ⟨200, body, none⟩))] ∧
      request.get? "SLD" = some "example" ∧ request.get? "TLD" = some ".com" := by
  intro s c body
  have parsed : parse "example..com" = .ok ⟨"example", ".com"⟩ := by decide +kernel
  have gapped : Gapped "example..com" :=
    ⟨"example".toList, ["com".toList], by decide +kernel, by decide +kernel⟩
  have decoded : Envelope.decode body 200 = .ok ⟨none, [], body⟩ := by decide +kernel
  have held : (⟨none, [], body⟩ : Envelope).payload
      (Xml.requiredChild ["DomainDNSSetDefaultResult"] updatedFields.reader).reader = .ok true := by
    decide +kernel
  refine ⟨parsed, not_parted_of_gapped gapped,
    c.served (.setDefaultDns ⟨"example", ".com"⟩) ⟨200, body, none⟩, _, ?_, rfl,
    by decide +kernel, by decide +kernel⟩
  exact Operation.runs_bind_of_ok (congrArg Dialogue.done parsed)
    (Client.runs_run_bind (by decide) decoded held rfl)

end Registrar
