import Registrar.Operations.Account
import Registrar.Operations.Certificates
import Registrar.Operations.Domains
import Registrar.Operations.Privacy
import Registrar.Proofs.Records.Failures
import Registrar.Proofs.Records.Fitting
import Registrar.Proofs.Xml.Promises

/-!
# Records that are read again

Whatever the registrar reports makes a record that fits, as its readers keep the bounds that the
codecs ask for. Main statement: `RecordKind.rereads_of_accepted_or_reported`, a failure comes back
from its own text as it was, and so does every record without money that was read from a text or
from an answer.
-/

namespace Registrar

open Xml Wire Document

/-! ## What the registrar reports -/

/-- An answer of the registrar holds this payload. -/
def Answers {α : Type} (fields : Fields α) (a : α) : Prop :=
  ∃ (r : Response) (envelope : Envelope), Envelope.decode r.body r.status = .ok envelope ∧
    envelope.payload fields.reader = .ok a

theorem Answers.of_promises {α : Type} {fields : Fields α} {P : α → Prop} {a : α}
    (h : Answers fields a) (promises : fields.Promises P) : P a := by
  obtain ⟨_, _, -, read⟩ := h
  exact Envelope.of_payload promises.reader read

theorem getD_le {o : Option Nat} {n max : Nat} (ho : ∀ m ∈ o, m ≤ max) (hn : n ≤ max) :
    o.getD n ≤ max := by
  cases o with
  | none => exact hn
  | some m => exact ho m rfl

theorem Domain.fields_promises : fields.Promises Fits := by
  unfold Domain.fields
  iterate 10 refine .seq ?_
  refine .map ((promises_requiredIdentifier _).mono fun id hid => ?_)
  iterate 10 refine Fields.promises_of_forall fun _ => ?_
  exact hid

theorem DomainInfo.fields_promises : fields.Promises Fits := by
  unfold DomainInfo.fields
  iterate 7 refine .seq ?_
  refine .map ((promises_requiredIdentifier _).mono fun id hid => ?_)
  iterate 7 refine Fields.promises_of_forall fun _ => ?_
  exact hid

theorem HostRecord.fields_promises : fields.Promises Fits := by
  unfold HostRecord.fields
  iterate 6 refine .seq ?_
  refine .map ((promises_numberOr _ _).mono fun id hid => ?_)
  refine Fields.promises_of_forall fun _ => ?_
  refine Fields.promises_of_forall fun type => ?_
  refine Fields.promises_of_forall fun _ => ?_
  refine (promises_numberOr _ _).mono fun pref hpref => ?_
  refine (promises_numberOr _ _).mono fun ttl httl => ?_
  refine Fields.promises_of_forall fun _ => ⟨hid, RecordType.fits_ofText type, ?_, httl⟩
  unfold ofWire
  dsimp only
  split
  · exact hpref
  · exact nofun

theorem Certificate.fields_promises : fields.Promises Fits := by
  unfold Certificate.fields
  iterate 8 refine .seq ?_
  refine .map ((promises_requiredIdentifier _).mono fun id hid => ?_)
  iterate 7 refine Fields.promises_of_forall fun _ => ?_
  exact (promises_numberOr _ _).mono fun years hyears => ⟨hid, getD_le hyears (Nat.zero_le _)⟩

theorem CertificateDetails.fields_promises {requested : Nat} (h : requested ≤ Decimal.max64) :
    (fields requested).Promises Fits := by
  unfold CertificateDetails.fields
  iterate 8 refine .seq ?_
  refine .map ((promises_numberOr _ _).mono fun id hid => ?_)
  iterate 5 refine Fields.promises_of_forall fun _ => ?_
  refine (promises_numberOr _ _).mono fun years hyears => ?_
  iterate 2 refine Fields.promises_of_forall fun _ => ?_
  exact ⟨getD_le hid h, getD_le hyears (Nat.zero_le _)⟩

theorem WhoisGuard.fields_promises : fields.Promises Fits := by
  unfold WhoisGuard.fields
  iterate 5 refine .seq ?_
  refine .map ((promises_requiredIdentifier _).mono fun id hid => ?_)
  iterate 3 refine Fields.promises_of_forall fun _ => ?_
  refine Fields.promises_of_forall fun status => ?_
  refine Fields.promises_of_forall fun _ => ?_
  exact ⟨hid, WhoisGuardStatus.fits_ofText status⟩

theorem promises_countOr (names : List String) :
    (countOr names).Promises (· ≤ Decimal.max32) :=
  .map ((promises_numberOr _ names).mono fun _ h => getD_le h (Nat.zero_le _))

theorem Tld.fields_promises : fields.Promises Fits := by
  unfold Tld.fields
  iterate 13 refine .seq ?_
  refine .map (Fields.promises_of_forall fun _ => ?_)
  refine Fields.promises_of_forall fun _ => ?_
  refine (promises_countOr _).mono fun _ minRegister => ?_
  refine (promises_countOr _).mono fun _ maxRegister => ?_
  refine (promises_countOr _).mono fun _ minRenew => ?_
  refine (promises_countOr _).mono fun _ maxRenew => ?_
  refine (promises_countOr _).mono fun _ minTransfer => ?_
  refine (promises_countOr _).mono fun _ maxTransfer => ?_
  iterate 6 refine Fields.promises_of_forall fun _ => ?_
  exact ⟨minRegister, maxRegister, minRenew, maxRenew, minTransfer, maxTransfer⟩

/-! ### Lists -/

theorem listed_promises {α : Type} {fields : Fields α} {P : α → Prop} (h : fields.Promises P)
    (list items : List String) :
    (requiredChild list (children items fields.reader).reader).Promises fun as => ∀ a ∈ as, P a :=
  (h.reader.children items).reader.requiredChild list

theorem DomainPage.fields_promises : fields.Promises fun p => ∀ d ∈ p.domains, d.Fits := by
  refine .seq (.map ((listed_promises Domain.fields_promises _ _).mono fun domains fit => ?_))
  exact Fields.promises_of_forall fun _ => fit

theorem hostSetFields_promises : hostSetFields.Promises fun hosts => ∀ r ∈ hosts, r.Fits :=
  listed_promises HostRecord.fields_promises _ _

theorem certificateListFields_promises :
    certificateListFields.Promises fun all => ∀ c ∈ all, c.Fits :=
  listed_promises Certificate.fields_promises _ _

theorem whoisGuardListFields_promises :
    whoisGuardListFields.Promises fun all => ∀ w ∈ all, w.Fits :=
  listed_promises WhoisGuard.fields_promises _ _

theorem tldListFields_promises : tldListFields.Promises fun all => ∀ t ∈ all, t.Fits :=
  listed_promises Tld.fields_promises _ _

/-! ## Records read again -/

/-- The records that hold no money, and the types and states in them. -/
inductive RecordKind
  | credentials
  | domainName
  | domain
  | dnsDetails
  | domainInfo
  | hostRecord
  | recordType
  | certificate
  | certificateDetails
  | activationRequest
  | whoisGuard
  | whoisGuardStatus
  | tld
  deriving DecidableEq, Repr

namespace RecordKind

def Record : RecordKind → Type
  | credentials => Credentials
  | domainName => DomainName
  | domain => Domain
  | dnsDetails => DnsDetails
  | domainInfo => DomainInfo
  | hostRecord => HostRecord
  | recordType => RecordType
  | certificate => Certificate
  | certificateDetails => CertificateDetails
  | activationRequest => ActivationRequest
  | whoisGuard => WhoisGuard
  | whoisGuardStatus => WhoisGuardStatus
  | tld => Tld

def codec : (kind : RecordKind) → Codec kind.Record
  | credentials => Credentials.layout.codec
  | domainName => DomainName.layout.codec
  | domain => Domain.layout.codec
  | dnsDetails => DnsDetails.layout.codec
  | domainInfo => DomainInfo.layout.codec
  | hostRecord => HostRecord.layout.codec
  | recordType => RecordType.codec
  | certificate => Certificate.layout.codec
  | certificateDetails => CertificateDetails.layout.codec
  | activationRequest => ActivationRequest.layout.codec
  | whoisGuard => WhoisGuard.layout.codec
  | whoisGuardStatus => WhoisGuardStatus.codec
  | tld => Tld.layout.codec

/-- The record stands in an answer of the registrar. Credentials, names of domains and requests do
not; their callers make them, of any texts and flags and of numbers of 64 bits. -/
def Reported : (kind : RecordKind) → kind.Record → Prop
  | credentials => fun _ => True
  | domainName => fun _ => True
  | domain => fun d => ∃ p, Answers DomainPage.fields p ∧ d ∈ p.domains
  | dnsDetails => fun dns => ∃ d : DomainInfo,
    Answers (requiredChild ["DomainGetInfoResult"] DomainInfo.fields.reader) d ∧ d.dns = dns
  | domainInfo => Answers (requiredChild ["DomainGetInfoResult"] DomainInfo.fields.reader)
  | hostRecord => fun r => ∃ hosts, Answers hostSetFields hosts ∧ r ∈ hosts
  | recordType => fun t => ∃ hosts, Answers hostSetFields hosts ∧ ∃ r ∈ hosts, r.recordType = t
  | certificate => fun c => ∃ all, Answers certificateListFields all ∧ c ∈ all
  | certificateDetails => fun c => ∃ requested ≤ Decimal.max64, Answers
    (requiredChild ["SSLGetInfoResult"] (CertificateDetails.fields requested).reader) c
  | activationRequest => fun r : ActivationRequest => r.certificateId ≤ Decimal.max64
  | whoisGuard => fun w => ∃ all, Answers whoisGuardListFields all ∧ w ∈ all
  | whoisGuardStatus => fun s => ∃ all, Answers whoisGuardListFields all ∧ ∃ w ∈ all, w.status = s
  | tld => fun t => ∃ all, Answers tldListFields all ∧ t ∈ all

def Fits : (kind : RecordKind) → kind.Record → Prop
  | credentials => fun _ => True
  | domainName => fun _ => True
  | domain => Domain.Fits
  | dnsDetails => fun _ => True
  | domainInfo => DomainInfo.Fits
  | hostRecord => HostRecord.Fits
  | recordType => RecordType.Fits
  | certificate => Certificate.Fits
  | certificateDetails => CertificateDetails.Fits
  | activationRequest => ActivationRequest.Fits
  | whoisGuard => WhoisGuard.Fits
  | whoisGuardStatus => WhoisGuardStatus.Fits
  | tld => Tld.Fits

theorem sound (kind : RecordKind) : kind.codec.Sound kind.Fits := by
  cases kind with
  | credentials => exact Credentials.sound
  | domainName => exact DomainName.sound
  | domain => exact Domain.sound
  | dnsDetails => exact DnsDetails.sound
  | domainInfo => exact DomainInfo.sound
  | hostRecord => exact HostRecord.sound
  | recordType => exact RecordType.sound
  | certificate => exact Certificate.sound
  | certificateDetails => exact CertificateDetails.sound
  | activationRequest => exact ActivationRequest.sound
  | whoisGuard => exact WhoisGuard.sound
  | whoisGuardStatus => exact WhoisGuardStatus.sound
  | tld => exact Tld.sound

/-- What the registrar reports fits. -/
theorem Reported.fits {kind : RecordKind} {a : kind.Record} (h : kind.Reported a) :
    kind.Fits a := by
  cases kind with
  | credentials => trivial
  | domainName => trivial
  | dnsDetails => trivial
  | activationRequest => exact h
  | domain =>
    obtain ⟨p, answers, member⟩ := h
    exact answers.of_promises DomainPage.fields_promises a member
  | domainInfo => exact h.of_promises (DomainInfo.fields_promises.reader.requiredChild _)
  | hostRecord =>
    obtain ⟨hosts, answers, member⟩ := h
    exact answers.of_promises hostSetFields_promises a member
  | recordType =>
    obtain ⟨hosts, answers, r, member, rfl⟩ := h
    exact (answers.of_promises hostSetFields_promises r member).recordType
  | certificate =>
    obtain ⟨all, answers, member⟩ := h
    exact answers.of_promises certificateListFields_promises a member
  | certificateDetails =>
    obtain ⟨requested, bound, answers⟩ := h
    exact answers.of_promises
      ((CertificateDetails.fields_promises bound).reader.requiredChild _)
  | whoisGuard =>
    obtain ⟨all, answers, member⟩ := h
    exact answers.of_promises whoisGuardListFields_promises a member
  | whoisGuardStatus =>
    obtain ⟨all, answers, w, member, rfl⟩ := h
    exact (answers.of_promises whoisGuardListFields_promises w member).status
  | tld =>
    obtain ⟨all, answers, member⟩ := h
    exact answers.of_promises tldListFields_promises a member

/-- A failure comes back from its own text, and so does every record that some text says or the
registrar reports. -/
theorem rereads_of_accepted_or_reported :
    (∀ f : Failure, f.Fits → Failure.codec.Rereads f) ∧
      ∀ (kind : RecordKind) (a : kind.Record), kind.codec.Accepts a ∨ kind.Reported a →
        kind.codec.Rereads a := by
  refine ⟨fun f fits => Codec.rereads_of_keeps (Failure.keeps fits), fun kind a source => ?_⟩
  refine kind.sound.rereads_iff.2 ?_
  rcases source with accepted | reported
  · exact kind.sound.of_accepts accepted
  · exact reported.fits

theorem rereads_of_open_circuit_and_named_type :
    (Failure.circuitOpen 5 1200).Fits ∧ Failure.codec.Rereads (.circuitOpen 5 1200) ∧
      RecordType.codec.Accepts .txt ∧ RecordType.codec.Rereads .txt := by
  have fits : (Failure.circuitOpen 5 1200).Fits := ⟨by decide, by decide⟩
  have accepted : RecordType.codec.Accepts .txt := ⟨"\" txt\"", by decide +kernel⟩
  exact ⟨fits, rereads_of_accepted_or_reported.1 _ fits, accepted,
    rereads_of_accepted_or_reported.2 .recordType .txt (.inl accepted)⟩

end RecordKind

end Registrar
