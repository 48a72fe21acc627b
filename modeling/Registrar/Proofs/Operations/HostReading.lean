import Registrar.Proofs.Operations.HostEdits
import Registrar.Proofs.Operations.HostListing

/-!
# What a written host set says

The numbered parameters of a command are read position by position, until there is no further name:
`Command.HoldsFrom`. A command that replaces a host set holds the records that were to be written
and says nothing else (`Command.Encodes`); if one of them cannot be written there is no command, and
the first such record is named (`HostRecord.Lacks`).

Main statement: `setHosts_encodes_or_refuses`.
-/

namespace Registrar

/-- What a record says once it is written: no number of the registrar's, and a preference for mail
exchangers alone. -/
def HostRecord.asWritten (r : HostRecord) : HostRecord :=
  { HostRecord.new r.name r.recordType r.address with
    ttl := r.ttl
    mxPref := if r.recordType = .mx then some (r.mxPref.getD 10) else none }

/-- What is said of a record that has no name or no address. -/
inductive HostRecord.Lacks (r : HostRecord) : String → Prop
  | name (blank : Text.isBlankText r.name = true) : r.Lacks " has no name"
  | address (named : Text.isBlankText r.name = false) (blank : Text.isBlankText r.address = true) :
      r.Lacks (" (" ++ r.name ++ " " ++ r.recordType.text ++ ") has no address")

namespace Command

/-- The records that the parameters of a command hold from a position on, up to the first position
without a name. -/
inductive HoldsFrom (c : Command) : ℕ → List HostRecord → Prop
  | stop {n : ℕ} (absent : c.get? (HostField.name.key n) = none) : HoldsFrom c n []
  | more {n : ℕ} {name type address : String} {ttl mxPref : Option ℕ} {hosts : List HostRecord}
      (hasName : c.get? (HostField.name.key n) = some name)
      (hasType : c.get? (HostField.type.key n) = some type)
      (hasAddress : c.get? (HostField.address.key n) = some address)
      (hasTtl : c.get? (HostField.ttl.key n) = ttl.map Decimal.wholeText)
      (hasPreference : c.get? (HostField.mxPref.key n) = mxPref.map Decimal.wholeText)
      (rest : HoldsFrom c (n + 1) hosts) :
      HoldsFrom c n ({ HostRecord.new name (.ofText type) address with ttl, mxPref } :: hosts)

/-- The command replaces the host set of a domain by these records, and says nothing else. -/
structure Encodes (c : Command) (d : DomainName) (hosts : List HostRecord) : Prop where
  name : c.name = "namecheap.domains.dns.setHosts"
  sld : c.get? "SLD" = some d.sld
  tld : c.get? "TLD" = some d.tld
  holds : ∀ found, c.HoldsFrom 1 found ↔ found = hosts.map HostRecord.asWritten
  mail : c.get? "EmailType" = if ∃ r ∈ hosts, r.recordType = .mx then some "MX" else none
  keys : ∀ p ∈ c.params, p.1 ∈ ["SLD", "TLD", "EmailType"] ∨
    ∃ i < hosts.length, ∃ f : HostField, p.1 = f.key (i + 1)
  distinct : c.Distinct

variable {c : Command} {d : DomainName} {n : ℕ} {hosts hosts' : List HostRecord}

/-! ## Reading -/

/-- What is read does not leave a choice. -/
theorem HoldsFrom.unique (h : c.HoldsFrom n hosts) (h' : c.HoldsFrom n hosts') :
    hosts = hosts' := by
  have same {a b : Option ℕ} {found : Option String} (ha : found = a.map Decimal.wholeText)
      (hb : found = b.map Decimal.wholeText) : a = b :=
    Option.map_injective (fun _ _ => Decimal.wholeText_inj) (ha.symm.trans hb)
  induction h generalizing hosts' with
  | stop absent =>
    cases h' with
    | stop => rfl
    | more hasName => simp [absent] at hasName
  | more hasName hasType hasAddress hasTtl hasPreference _ ih =>
    cases h' with
    | stop absent => simp [hasName] at absent
    | more hasName' hasType' hasAddress' hasTtl' hasPreference' rest =>
      obtain rfl := Option.some.inj (hasName.symm.trans hasName')
      obtain rfl := Option.some.inj (hasType.symm.trans hasType')
      obtain rfl := Option.some.inj (hasAddress.symm.trans hasAddress')
      obtain rfl := same hasTtl hasTtl'
      obtain rfl := same hasPreference hasPreference'
      rw [ih rest]

/-- Fields that stand under their positions are read back. -/
theorem HoldsFrom.of_fields (types : ∀ r ∈ hosts, ∃ s, r.recordType = .ofText s)
    (field : ∀ i (f : HostField), c.get? (f.key (n + i)) = hosts[i]?.bind fun r => f.of r) :
    c.HoldsFrom n (hosts.map HostRecord.asWritten) := by
  induction hosts generalizing n with
  | nil => exact .stop (field 0 .name)
  | cons r rs ih =>
    obtain ⟨s, hs⟩ := types r List.mem_cons_self
    have type : RecordType.ofText r.recordType.text = r.recordType := by
      rw [hs, RecordType.ofText_text_ofText]
    have first (f : HostField) : c.get? (f.key n) = f.of r := field 0 f
    have rest : c.HoldsFrom (n + 1) (rs.map HostRecord.asWritten) := by
      refine ih (fun r hr => types r (List.mem_cons_of_mem _ hr)) fun i f => ?_
      rw [Nat.add_right_comm]
      exact field (i + 1) f
    have preference : c.get? (HostField.mxPref.key n) =
        r.asWritten.mxPref.map Decimal.wholeText := by
      rw [first, HostField.of, HostRecord.asWritten]
      split <;> rfl
    have written :=
      HoldsFrom.more (first .name) (first .type) (first .address) (first .ttl) preference rest
    rw [type] at written
    exact written

/-! ## Writing -/

theorem get?_emailType_of_setHosts (h : setHosts d hosts = .ok c) :
    c.get? "EmailType" = if ∃ r ∈ hosts, r.recordType = .mx then some "MX" else none := by
  have some_mx : (hosts.any (·.recordType == .mx)) = true ↔ ∃ r ∈ hosts, r.recordType = .mx := by
    simp
  have unnumbered : ¬IsNumbered "EmailType" := not_isNumbered_of_plain (by decide)
  have plain (value : String) : ("EmailType", value) ∉ hostSetPairs 1 hosts := fun mem =>
    unnumbered (isNumbered_of_mem_hostSetPairs (List.mem_map.2 ⟨_, mem, rfl⟩))
  refine Option.ext fun value => ?_
  rw [get?_of_setHosts h, hostParams, mailPairs]
  simp only [some_mx]
  split <;> simp [plain, eq_comm]

/-- A parameter belongs to the domain, to the mail exchangers or to a record. -/
theorem keys_of_setHosts (h : setHosts d hosts = .ok c) {p : String × String} (mem : p ∈ c.params) :
    p.1 ∈ ["SLD", "TLD", "EmailType"] ∨
      ∃ i < hosts.length, ∃ f : HostField, p.1 = f.key (i + 1) := by
  obtain ⟨key, value⟩ := p
  rw [params_of_setHosts h, hostParams, List.mem_append, List.mem_append] at mem
  obtain (plain | record) | mail := mem
  · left
    simp only [List.mem_cons, List.not_mem_nil, or_false, Prod.mk.injEq] at plain
    rcases plain with ⟨rfl, -⟩ | ⟨rfl, -⟩ <;> simp
  · obtain ⟨i, r, hr, f, hkey, -⟩ := mem_hostSetPairs_iff.1 record
    exact .inr ⟨i, (List.getElem?_eq_some_iff.1 hr).1, f, by rw [hkey, Nat.add_comm]⟩
  · obtain rfl := eq_of_mem_mailPairs mail
    exact .inl (by simp)

theorem encodes_of_setHosts (types : ∀ r ∈ hosts, ∃ s, r.recordType = .ofText s)
    (h : setHosts d hosts = .ok c) : c.Encodes d hosts where
  name := name_of_setHosts h
  sld := get?_sld_of_setHosts h
  tld := get?_tld_of_setHosts h
  holds found := by
    have read : c.HoldsFrom 1 (hosts.map HostRecord.asWritten) :=
      .of_fields types fun i f => by rw [Nat.add_comm, get?_key_of_setHosts h]
    exact ⟨fun held => held.unique read, fun e => e ▸ read⟩
  mail := get?_emailType_of_setHosts h
  keys _ mem := keys_of_setHosts h mem
  distinct := distinct_of_setHosts h

/-- The first record that cannot be written is named, by its position. -/
theorem exists_hostFault? (lacking : ¬ ∀ r ∈ hosts, r.IsWritable) :
    ∃ before r after fault reason, hosts = before ++ r :: after ∧
      (∀ x ∈ before, x.IsWritable) ∧ r.Lacks reason ∧ hostFault? n hosts = some fault ∧
      fault.message = "record " ++ Decimal.wholeText (n + before.length) ++ reason := by
  induction hosts generalizing n with
  | nil => simp at lacking
  | cons r rs ih =>
    cases named : Text.isBlankText r.name with
    | true =>
      exact ⟨[], r, rs, .noName n, _, rfl, nofun, .name named, if_pos named, rfl⟩
    | false =>
      cases addressed : Text.isBlankText r.address with
      | true =>
        refine ⟨[], r, rs, .noAddress n r, _, rfl, nofun, .address named addressed, ?_, ?_⟩
        · simp [hostFault?, named, addressed]
        · simp [HostFault.message, String.append_assoc]
      | false =>
        have writable : r.IsWritable := ⟨named, addressed⟩
        have later : ¬ ∀ x ∈ rs, x.IsWritable := fun all =>
          lacking (List.forall_mem_cons.2 ⟨writable, all⟩)
        obtain ⟨before, x, after, fault, reason, rfl, first, lacks, found, message⟩ :=
          ih (n := n + 1) later
        refine ⟨r :: before, x, after, fault, reason, rfl,
          List.forall_mem_cons.2 ⟨writable, first⟩, lacks, ?_, ?_⟩
        · simp [hostFault?, named, addressed, found]
        · rw [message, List.length_cons]
          congr 3
          omega

end Command

/-- The command that replaces a host set encodes it, if every record can be written; if not, the
first one that cannot is named, and the call ends with that before anything is sent. -/
theorem setHosts_encodes_or_refuses (d : DomainName) (hosts : List HostRecord) :
    ((∀ r ∈ hosts, r.IsWritable) → (∀ r ∈ hosts, ∃ s, r.recordType = .ofText s) →
      ∃ command, Command.setHosts d hosts = .ok command ∧ command.Encodes d hosts) ∧
    ((¬ ∀ r ∈ hosts, r.IsWritable) →
      ∃ before r after fault reason, hosts = before ++ r :: after ∧
        (∀ x ∈ before, x.IsWritable) ∧ r.Lacks reason ∧ Command.setHosts d hosts = .error fault ∧
        fault.message = "record " ++ Decimal.wholeText (before.length + 1) ++ reason ∧
        ∀ (c : Client) (domain : String), DomainName.parse domain = .ok d →
          (c.setHostRecords domain hosts).run = .done (.error (.invalidInput fault.message))) := by
  refine ⟨fun writable types => ?_, fun lacking => ?_⟩
  · obtain ⟨command, set⟩ := Command.exists_setHosts d writable
    exact ⟨command, set, Command.encodes_of_setHosts types set⟩
  · obtain ⟨before, r, after, fault, reason, split, first, lacks, found, message⟩ :=
      Command.exists_hostFault? (n := 1) lacking
    have refused : Command.setHosts d hosts = .error fault := by
      rw [Command.setHosts, found]
    refine ⟨before, r, after, fault, reason, split, first, lacks, refused, ?_,
      fun c domain parsed => ?_⟩
    · rw [message, Nat.add_comm]
    · rw [setHostRecords_eq parsed, refused]
      rfl

/-- Three records are encoded, a fourth one without an address is refused. -/
theorem encodes_three_refuses_fourth :
    let hosts : List HostRecord :=
      [{ HostRecord.new "@" .a "203.0.113.10" with ttl := some 300 },
        HostRecord.new "@" .mx "mail.example.com.",
        { HostRecord.new "@" .mx "backup.example.com." with mxPref := some 30 }]
    let blank := HostRecord.new "www" .cname " "
    (∃ command, Command.setHosts ⟨"example", "com"⟩ hosts = .ok command ∧
      command.Encodes ⟨"example", "com"⟩ hosts) ∧
    ∃ fault, Command.setHosts ⟨"example", "com"⟩ (hosts ++ [blank]) = .error fault ∧
      fault.message = "record 4 (www CNAME) has no address" := by
  intro hosts blank
  have types : ∀ r ∈ hosts, ∃ s, r.recordType = .ofText s := by
    simp only [hosts, List.forall_mem_cons]
    exact ⟨⟨"a", by decide +kernel⟩, ⟨"MX", by decide +kernel⟩, ⟨" mx ", by decide +kernel⟩, nofun⟩
  have writable : ∀ r ∈ hosts, r.IsWritable := by
    simp only [hosts, List.forall_mem_cons, HostRecord.IsWritable]
    exact ⟨by decide +kernel, by decide +kernel, by decide +kernel, nofun⟩
  have lacking : ¬ ∀ r ∈ hosts ++ [blank], r.IsWritable := fun all => by
    have := (all blank (by simp)).2
    revert this
    decide +kernel
  refine ⟨(setHosts_encodes_or_refuses _ hosts).1 writable types, ?_⟩
  obtain ⟨-, -, -, fault, -, -, -, -, refused, -, -⟩ :=
    (setHosts_encodes_or_refuses ⟨"example", "com"⟩ (hosts ++ [blank])).2 lacking
  refine ⟨fault, refused, ?_⟩
  have fourth : Command.setHosts ⟨"example", "com"⟩ (hosts ++ [blank]) =
      .error (.noAddress 4 blank) := by
    decide +kernel
  obtain rfl := Except.error.inj (refused.symm.trans fourth)
  decide +kernel

end Registrar
