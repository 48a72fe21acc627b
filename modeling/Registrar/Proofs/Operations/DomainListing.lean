import Registrar.Operations.Domains
import Registrar.Proofs.Operations.HostListing

/-!
# How domains are listed

`Domain.listed` writes a domain as the registrar reports it in the list of an account, each field an
attribute of its own, and `DomainPage.written` the two parts of a page. Main statement:
`DomainPage.holds_response`, a page whose numbers are in range is obtained as it is.
-/

namespace Registrar

open Xml Wire Element

/-! ## Identifiers -/

namespace Xml

variable {cs : List Char}

/-- Digits need no references and are no white space. -/
theorem escape_digits (digits : ∀ c ∈ cs, c.isDigit = true) : escape cs = cs := by
  induction cs with
  | nil => rfl
  | cons c cs ih =>
    obtain ⟨digit, others⟩ := List.forall_mem_cons.1 digits
    have no_mark (mark : Char) (other : mark.isDigit = false) : (c == mark) = false :=
      beq_eq_false_iff_ne.2 fun same => by simp [same, other] at digit
    have plain : escapeChar c = [c] := by
      simp [escapeChar, no_mark '<' rfl, no_mark '>' rfl, no_mark '&' rfl, no_mark '\'' rfl,
        no_mark '"' rfl]
    rw [escape, List.flatMap_cons, plain]
    exact congrArg (c :: ·) (ih others)

theorem strip_digits (digits : ∀ c ∈ cs, c.isDigit = true) : strip cs = cs := by
  have visible (c : Char) (hc : c ∈ cs) : isSpace c = false := by
    by_contra space
    rw [Bool.not_eq_false] at space
    have blank := Text.isBlank_of_isSpace space
    rw [Text.not_isBlank_of_isDigit (digits c hc)] at blank
    cases blank
  have front : cs.dropWhile isSpace = cs := by
    cases cs with
    | nil => rfl
    | cons c cs => exact List.dropWhile_cons_of_neg (by simp [visible c List.mem_cons_self])
  rw [strip, front]
  exact trimEnd_eq_self fun c hc => visible c (List.mem_of_getLast? hc)

end Xml

namespace Wire

theorem identifier_digits {n : Nat} (h : n ≤ Decimal.max64) :
    identifier (Decimal.digits n) = .ok n := by
  unfold identifier
  rw [Decimal.readWhole_digits h]

theorem identifier_escape {n : Nat} (h : n ≤ Decimal.max64) :
    identifier (escape (Decimal.wholeText n).toList) = .ok n := by
  have digits : (Decimal.wholeText n).toList = Decimal.digits n := String.toList_ofList
  rw [digits, escape_digits fun c => Decimal.isDigit_of_mem_digits, identifier_digits h]

/-- An identifier that is the text of an element. -/
theorem reads_identifier (heading : Heading) {n : Nat} (h : n ≤ Decimal.max64) :
    Reads identifierReader (.leaf heading (Decimal.wholeText n)) n := by
  intro gaps path ts c hc
  obtain ⟨c', read, stands⟩ := reads_text heading (Decimal.wholeText n) gaps path ts c hc
  refine ⟨c', ?_, stands⟩
  have digits : (Decimal.wholeText n).toList = Decimal.digits n := String.toList_ofList
  unfold identifierReader
  rw [read, digits, strip_digits fun c => Decimal.isDigit_of_mem_digits]
  simp only [bind, Except.bind, String.toList_ofList, identifier_digits h]
  rfl

end Wire

/-! ## Writing -/

namespace Domain

-- Two names that stand in listings of hosts too, with proofs of their own.

theorem toList_domain_ne_nil : "Domain".toList ≠ [] := by decide +kernel

theorem all_toList_domain : "Domain".toList.all Char.isAlphanum = true := by decide +kernel

theorem toList_name_ne_nil : "Name".toList ≠ [] := by decide +kernel

theorem all_toList_name : "Name".toList.all Char.isAlphanum = true := by decide +kernel

/-- The domain as it is reported. -/
def listed (d : Domain) : Element :=
  .empty ⟨.of "Domain" toList_domain_ne_nil all_toList_domain,
    [(.of "ID", Decimal.wholeText d.id),
      (.of "Name" toList_name_ne_nil all_toList_name, d.name),
      (.of "User", d.user), (.of "Created", d.created), (.of "Expires", d.expires),
      (.of "IsExpired", HostRecord.flagText d.isExpired),
      (.of "IsLocked", HostRecord.flagText d.isLocked),
      (.of "AutoRenew", HostRecord.flagText d.autoRenew), (.of "WhoisGuard", d.whoisGuard),
      (.of "IsPremium", HostRecord.flagText d.isPremium),
      (.of "IsOurDNS", HostRecord.flagText d.isOurDns)],
    show ["ID", "Name", "User", "Created", "Expires", "IsExpired", "IsLocked", "AutoRenew",
      "WhoisGuard", "IsPremium", "IsOurDNS"].Nodup by decide⟩

end Domain

namespace DomainPage

/-- A page with numbers that an answer may hold. -/
structure IsReported (p : DomainPage) : Prop where
  id : ∀ d ∈ p.domains, d.id ≤ Decimal.max64
  total : p.total ≤ Decimal.max64

def listing (p : DomainPage) : Element :=
  .around (.plain (.of "DomainGetListResult")) (p.domains.map Domain.listed)

def paging (p : DomainPage) : Element :=
  .node (.plain (.of "Paging")) [.leaf (.plain (.of "TotalItems")) (Decimal.wholeText p.total)]

/-- The parts of a page. -/
def written (p : DomainPage) : List Element := [p.listing, p.paging]

/-- An answer that holds a page. -/
def response (f : Envelope.Frame) (p : DomainPage) : Response :=
  ⟨200, f.success p.written, none⟩

end DomainPage

/-! ## Reading -/

theorem Domain.reads_listed {d : Domain} (h : d.id ≤ Decimal.max64) :
    Reads fields.reader d.listed d := by
  have text (key : String) {value : String} (given : d.listed.heading.values [key] = [value]) :
      (textOr [key]).Gets [key] [] d.listed value :=
    (Fields.gets_optionalAttribute given (plainText_escape value)).orElse ""
  have flag (key : String) {value : Bool}
      (given : d.listed.heading.values [key] = [HostRecord.flagText value]) :
      (flagOr false [key]).Gets [key] [] d.listed value :=
    (Fields.gets_optionalAttribute given (HostRecord.flag_flagText value)).orElse false
  have id : (requiredAttribute ["ID"] identifier).Gets ["ID"] [] d.listed d.id :=
    (Fields.gets_optionalAttribute rfl (identifier_escape h)).required _
  have name : (requiredAttribute ["Name"] plainText).Gets ["Name"] [] d.listed d.name :=
    (Fields.gets_optionalAttribute rfl (plainText_escape d.name)).required _
  have gets := ((((((((((id.map mk).seq name (by decide) nofun).seq
    (text "User" rfl) (by decide) nofun).seq
    (text "Created" rfl) (by decide) nofun).seq
    (text "Expires" rfl) (by decide) nofun).seq
    (flag "IsExpired" rfl) (by decide) nofun).seq
    (flag "IsLocked" rfl) (by decide) nofun).seq
    (flag "AutoRenew" rfl) (by decide) nofun).seq
    (text "WhoisGuard" rfl) (by decide) nofun).seq
    (flag "IsPremium" rfl) (by decide) nofun).seq
    (flag "IsOurDNS" rfl) (by decide) nofun
  exact gets.reads nofun

namespace DomainPage

variable {p : DomainPage}

theorem reads_listing (h : p.IsReported) :
    Reads (children ["Domain"] Domain.fields.reader).reader p.listing p.domains := by
  have written : p.listing.children = p.domains.map Domain.listed := children_around ..
  have known : ["Domain"].contains (Name.of "Domain").text = true := rfl
  have reads := Fields.reads_children written known fun d hd =>
    ⟨rfl, Domain.reads_listed (h.id d hd)⟩
  rwa [List.map_id'] at reads

theorem reads_paging (h : p.IsReported) : Reads totalFields.reader p.paging p.total := by
  have single : p.paging.children.filter (isNamed ["TotalItems"]) =
      [.leaf (.plain (.of "TotalItems")) (Decimal.wholeText p.total)] := rfl
  have total : (childBy ["TotalItems"] fun _ => identifierReader).Takes p.paging.tag
      (none : Option Nat) p.paging.children (some p.total) :=
    Fields.childBy_single single (reads_identifier _ h.total)
  have gets := (Fields.childBy_gets total).orElse 0
  refine gets.reads fun x hx other => ?_
  rw [List.mem_singleton.1 hx] at other
  cases other

/-- The page of an answer is read, whatever stands around it. -/
theorem reads_response (f : Envelope.Frame) (h : p.IsReported) :
    Reads fields.reader (f.response p.written) p := by
  have named (names : List String) : p.listing.isNamed names =
      names.contains "DomainGetListResult" := by
    rw [isNamed, listing, heading_around]
    rfl
  have list : (f.response p.written).children.filter (isNamed ["DomainGetListResult"]) =
      [p.listing] := by
    show [p.listing, p.paging].filter _ = _
    rw [List.filter_cons_of_pos (named _)]
    rfl
  have rest : (f.response p.written).children.filter (isNamed ["Paging"]) = [p.paging] := by
    show [p.listing, p.paging].filter _ = _
    rw [List.filter_cons_of_neg (by rw [named]; decide)]
    rfl
  have gets := ((Fields.gets_requiredChild list (reads_listing h)).map mk).seq
    ((Fields.gets_optionalChild rest (reads_paging h)).orElse 0)
    (fun _ key => absurd key List.not_mem_nil) (by decide)
  refine gets.reads fun x hx other => ?_
  replace hx : x ∈ [p.listing, p.paging] := hx
  rcases List.mem_pair.1 hx with rfl | rfl
  · rw [named] at other
    cases other
  · cases other

theorem isPassable_response (f : Envelope.Frame) (p : DomainPage) :
    (f.response p.written).IsPassable := by
  obtain ⟨domains, total⟩ := p
  cases domains <;> exact trivial

/-- The response is a success that holds this page. -/
def Holds (r : Response) (p : DomainPage) : Prop :=
  ∃ envelope, Envelope.decode r.body r.status = .ok envelope ∧
    envelope.payload fields.reader = .ok p

theorem Holds.unique {r : Response} {q : DomainPage} (hp : Holds r p) (hq : Holds r q) : p = q := by
  obtain ⟨envelope, decoded, held⟩ := hp
  obtain ⟨envelope', decoded', held'⟩ := hq
  cases decoded.symm.trans decoded'
  exact Except.ok.inj (held.symm.trans held')

theorem holds_response (f : Envelope.Frame) (h : p.IsReported) : Holds (p.response f) p :=
  have good : 200 ≤ 200 ∧ 200 < 300 := by decide
  Envelope.exists_payload_success f (isPassable_response f p) (reads_response f h) good

end DomainPage

end Registrar
