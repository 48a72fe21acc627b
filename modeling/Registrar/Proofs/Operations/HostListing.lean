import Registrar.Operations.Hosts
import Registrar.Proofs.Decimal.Numerals
import Registrar.Proofs.Wire.Envelopes

/-!
# How a host set is listed

`HostRecord.listed` writes a record as the registrar reports it, each field an attribute of its own.
A record `IsReported` if its fields are what an answer may hold: numbers in their ranges, a type
that a text names, a preference for mail exchangers alone. Main statement: `decode_listing`, a host
set of such records is obtained as it is.
-/

namespace Registrar

namespace Text

theorem not_isBlank_of_isDigit {c : Char} (h : c.isDigit = true) : isBlank c = false := by
  simp only [Char.isDigit, Bool.and_eq_true, decide_eq_true_eq, UInt32.le_iff_toNat_le] at h
  have low : 48 ≤ c.toNat := h.1
  have high : c.toNat ≤ 57 := h.2
  simp only [isBlank, Bool.or_eq_false_iff, Bool.and_eq_false_iff, decide_eq_false_iff_not,
    beq_eq_false_iff_ne]
  omega

end Text

namespace RecordType

theorem ofText_eq (s : String) :
    ofText s =
      (named.find? fun t => t.text == Text.upper (Text.trim s)).getD (other (Text.trim s)) := by
  unfold ofText
  dsimp only
  cases named.find? fun t => t.text == Text.upper (Text.trim s) <;> rfl

/-- The text of a type that was read names that type. -/
theorem ofText_text_ofText (s : String) : ofText (ofText s).text = ofText s := by
  cases found : named.find? fun t => t.text == Text.upper (Text.trim s) with
  | some t =>
    rw [ofText_eq s, found]
    exact ofText_text_of_mem_named (List.mem_of_find?_eq_some found)
  | none =>
    have unnamed : ofText s = other (Text.trim s) := by rw [ofText_eq, found, Option.getD_none]
    have same : (other (Text.trim s)).text = Text.trim s := rfl
    rw [unnamed, same, ofText_eq, Text.trim_trim, found, Option.getD_none]

end RecordType

namespace Wire

open Xml

theorem number_escape {max n : Nat} (h : n ≤ max) :
    number max (escape (Decimal.wholeText n).toList) = .ok (some n) := by
  have digits : (Decimal.wholeText n).toList = Decimal.digits n := String.toList_ofList
  have plain : Text.trim (Decimal.wholeText n) = Decimal.wholeText n := by
    unfold Text.trim
    rw [digits, Text.trimChars_eq_self fun c hc =>
      Text.not_isBlank_of_isDigit (Decimal.isDigit_of_mem_digits hc)]
    rfl
  have given : (Decimal.wholeText n).isEmpty = false := by
    rw [Bool.eq_false_iff, Ne, String.isEmpty_iff, ← String.toList_inj, digits]
    exact Decimal.digits_ne_nil _
  unfold number
  rw [plainText_escape]
  simp only [bind, Except.bind, plain, given, digits, Decimal.readWhole_digits h]
  rfl

theorem number_escape_nil (max : Nat) : number max (escape "".toList) = .ok none := by
  have blank : Text.trim "" = "" := by decide +kernel
  unfold number
  rw [plainText_escape]
  simp only [bind, Except.bind, blank]
  rfl

theorem flag_escape {s : String} {b : Bool} (h : flagOf? s = some b) :
    flag (escape s.toList) = .ok b := by
  unfold flag
  rw [plainText_escape]
  simp only [bind, Except.bind, h]

end Wire

/-! ## Writing -/

namespace HostRecord

open Xml Wire Element

/-- A record with fields that an answer may hold. -/
structure IsReported (r : HostRecord) : Prop where
  hostId : ∀ n, r.hostId = some n → n ≤ Decimal.max64
  mxPref : ∀ n, r.mxPref = some n → n ≤ Decimal.max32
  ttl : ∀ n, r.ttl = some n → n ≤ Decimal.max32
  named : ∃ s, r.recordType = .ofText s
  preferred : r.recordType ≠ .mx → r.mxPref = none

/-- A number, or nothing in its place. -/
def numberText (n : Option Nat) : String := (n.map Decimal.wholeText).getD ""

def flagText (b : Bool) : String := if b then "true" else "false"

/-- The record as it is reported. -/
def listed (r : HostRecord) : Element :=
  .empty ⟨.of "host", [(.of "HostId", numberText r.hostId), (.of "Name", r.name),
      (.type, r.recordType.text), (.of "Address", r.address),
      (.of "MXPref", numberText r.mxPref), (.of "TTL", numberText r.ttl),
      (.of "IsActive", flagText r.isActive)],
    show ["HostId", "Name", "Type", "Address", "MXPref", "TTL", "IsActive"].Nodup by decide⟩

example :
    write .lines [] (listed ⟨some 15, "@", .mx, "<mail>", some 20, none, false⟩) =
      r#"<host HostId="15" Name="@" Type="MX" Address="&lt;mail&gt;" MXPref="20" TTL="" "#.toList ++
        r#"IsActive="false" />"#.toList := by decide +kernel

/-- The records of a domain as they are reported. -/
def listing (domain usesOurDns : String) (hosts : List HostRecord) : Element :=
  .around ⟨.of "DomainDNSGetHostsResult",
    [(.of "Domain", domain), (.of "IsUsingOurDNS", usesOurDns)],
    show ["Domain", "IsUsingOurDNS"].Nodup by decide⟩ (hosts.map listed)

/-! ## Reading -/

theorem number_numberText {max : Nat} {n : Option Nat} (h : ∀ k, n = some k → k ≤ max) :
    number max (escape (numberText n).toList) = .ok n := by
  cases n with
  | none => exact number_escape_nil max
  | some k => exact number_escape (h k rfl)

theorem flag_flagText (b : Bool) : flag (escape (flagText b).toList) = .ok b := by
  cases b with
  | false => exact flag_escape (by decide +kernel)
  | true => exact flag_escape (by decide +kernel)

theorem ofWire_eq {r : HostRecord} (h : r.IsReported) :
    ofWire r.hostId r.name r.recordType.text r.address r.mxPref r.ttl r.isActive = r := by
  obtain ⟨s, named⟩ := h.named
  have type : RecordType.ofText r.recordType.text = r.recordType := by
    rw [named, RecordType.ofText_text_ofText]
  have pref : (if r.recordType = .mx then r.mxPref else none) = r.mxPref := by
    by_cases mail : r.recordType = .mx
    · rw [if_pos mail]
    · rw [if_neg mail, h.preferred mail]
  simp only [ofWire, type, pref]

theorem reads_listed {r : HostRecord} (h : r.IsReported) : Reads fields.reader r.listed r := by
  have hostId : (numberOr Decimal.max64 ["HostId"]).Gets ["HostId"] [] r.listed r.hostId :=
    (Fields.gets_optionalAttribute rfl (number_numberText h.hostId)).orElse none
  have name : (requiredAttribute ["Name"] plainText).Gets ["Name"] [] r.listed r.name :=
    (Fields.gets_optionalAttribute rfl (plainText_escape r.name)).required _
  have type : (requiredAttribute ["Type"] plainText).Gets ["Type"] [] r.listed r.recordType.text :=
    (Fields.gets_optionalAttribute rfl (plainText_escape r.recordType.text)).required _
  have address : (textOr ["Address"]).Gets ["Address"] [] r.listed r.address :=
    (Fields.gets_optionalAttribute rfl (plainText_escape r.address)).orElse ""
  have mxPref : (numberOr Decimal.max32 ["MXPref"]).Gets ["MXPref"] [] r.listed r.mxPref :=
    (Fields.gets_optionalAttribute rfl (number_numberText h.mxPref)).orElse none
  have ttl : (numberOr Decimal.max32 ["TTL"]).Gets ["TTL"] [] r.listed r.ttl :=
    (Fields.gets_optionalAttribute rfl (number_numberText h.ttl)).orElse none
  have isActive : (flagOr true ["IsActive"]).Gets ["IsActive"] [] r.listed r.isActive :=
    (Fields.gets_optionalAttribute rfl (flag_flagText r.isActive)).orElse true
  have gets := (((((((hostId.map ofWire).seq name (by decide) nofun).seq type (by decide) nofun).seq
    address (by decide) nofun).seq mxPref (by decide) nofun).seq ttl (by decide) nofun).seq isActive
    (by decide) nofun)
  rw [ofWire_eq h] at gets
  exact gets.reads nofun

/-- A list of reported records is read in order. -/
theorem reads_listing (domain usesOurDns : String) {hosts : List HostRecord}
    (reported : ∀ r ∈ hosts, r.IsReported) :
    Reads (children ["host", "Host"] fields.reader).reader (listing domain usesOurDns hosts)
      hosts := by
  have written : (listing domain usesOurDns hosts).children = hosts.map listed :=
    children_around ..
  have known : ["host", "Host"].contains (Name.of "host").text = true := rfl
  have reads := Fields.reads_children written known fun r hr => ⟨rfl, reads_listed (reported r hr)⟩
  rwa [List.map_id'] at reads

/-- The host set of an answer is read, whatever stands around it. -/
theorem reads_response (f : Envelope.Frame) (domain usesOurDns : String) {hosts : List HostRecord}
    (reported : ∀ r ∈ hosts, r.IsReported) :
    Reads hostSetFields.reader (f.response [listing domain usesOurDns hosts]) hosts := by
  have single : (f.response [listing domain usesOurDns hosts]).children.filter
      (isNamed ["DomainDNSGetHostsResult"]) = [listing domain usesOurDns hosts] := by
    have named : isNamed ["DomainDNSGetHostsResult"] (listing domain usesOurDns hosts) = true := by
      rw [isNamed, listing, heading_around]
      rfl
    exact List.filter_cons_of_pos named
  have gets := Fields.gets_requiredChild single (reads_listing domain usesOurDns reported)
  refine gets.reads fun x hx other => ?_
  rw [List.mem_singleton.1 hx, isNamed, listing, heading_around] at other
  cases other

theorem isPassable_response (f : Envelope.Frame) (domain usesOurDns : String)
    (hosts : List HostRecord) : (f.response [listing domain usesOurDns hosts]).IsPassable := by
  cases hosts <;> exact trivial

/-- A host set of reported records is obtained as it is listed. -/
theorem decode_listing (f : Envelope.Frame) (domain usesOurDns : String) {hosts : List HostRecord}
    (reported : ∀ r ∈ hosts, r.IsReported) {status : Nat} (good : 200 ≤ status ∧ status < 300) :
    ∃ envelope, Envelope.decode (f.success [listing domain usesOurDns hosts]) status =
        .ok envelope ∧
      envelope.payload hostSetFields.reader = .ok hosts :=
  Envelope.exists_payload_success f (isPassable_response f domain usesOurDns hosts)
    (reads_response f domain usesOurDns reported) good

theorem decode_listing_of_two :
    let f : Envelope.Frame :=
      ⟨.lines, "xml.response", "namecheap.domains.dns.getHosts", "SERVER-TEST", "0.01"⟩
    let mail : HostRecord := ⟨some 15, "@", .mx, "mail.example.com.", some 20, none, false⟩
    let web : HostRecord := ⟨none, "www", .other "svcb", " <1 & 2> ", none, some 1800, true⟩
    (∀ r ∈ [mail, web], r.IsReported) ∧
      ∃ envelope, Envelope.decode (f.success [listing "example.com" "true" [mail, web]]) 200 =
          .ok envelope ∧
        envelope.payload hostSetFields.reader = .ok [mail, web] := by
  intro f mail web
  have first : mail.IsReported :=
    ⟨by decide, by decide, nofun, ⟨"mx", by decide +kernel⟩, fun other => (other rfl).elim⟩
  have second : web.IsReported :=
    ⟨nofun, nofun, by decide, ⟨" svcb", by decide +kernel⟩, fun _ => rfl⟩
  have reported : ∀ r ∈ [mail, web], r.IsReported := by
    intro r hr
    rcases List.mem_pair.1 hr with rfl | rfl
    · exact first
    · exact second
  exact ⟨reported, decode_listing f "example.com" "true" reported (by decide)⟩

end HostRecord

end Registrar
