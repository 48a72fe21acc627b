import Registrar.Proofs.Names.Matching
import Registrar.Proofs.Operations.HostListing
import Registrar.Proofs.Operations.HostSets

/-!
# Changes of single records

The registrar replaces host sets as a whole, so a single record is changed by reading the set and
writing another one. `HostEdit.Makes` says which set is to be written, and `HostEdit.Proceeds` what
a call does after it has read the set. Main statement: `HostEdit.proceeds_of_runs`.
-/

namespace Registrar

open Dialogue

inductive HostEdit
  | create (record : HostRecord)
  | update (record : HostRecord)
  | delete (name : String) (recordType : RecordType)

/-- A record can be written if it has a name and an address. -/
def HostRecord.IsWritable (r : HostRecord) : Prop :=
  Text.isBlankText r.name = false ∧ Text.isBlankText r.address = false

namespace HostEdit

def perform (c : Client) (domain : String) : HostEdit → Operation Unit
  | create record => c.createHostRecord domain record
  | update record => c.updateHostRecord domain record
  | delete name recordType => c.deleteHostRecord domain name recordType

/-- The set that is to be written in the place of another one. -/
inductive Makes : HostEdit → List HostRecord → List HostRecord → Prop
  | create {record : HostRecord} {hosts : List HostRecord}
      (new : ∀ x ∈ hosts, ¬x.StandsAt record.name record.recordType) :
      Makes (.create record) hosts (hosts ++ [record])
  | update {record x : HostRecord} {before after : List HostRecord}
      (first : ∀ y ∈ before, ¬y.StandsAt record.name record.recordType)
      (found : x.StandsAt record.name record.recordType) :
      Makes (.update record) (before ++ x :: after) (before ++ record :: after)
  | delete {name : String} {recordType : RecordType} {hosts : List HostRecord}
      (found : ∃ x ∈ hosts, x.StandsAt name recordType) :
      Makes (.delete name recordType) hosts (hosts.filter fun x => ¬x.StandsAt name recordType)

/-- Why there is no set to be written. -/
inductive Refuses : HostEdit → List HostRecord → Failure → Prop
  | create {record : HostRecord} {hosts : List HostRecord}
      (found : ∃ x ∈ hosts, x.StandsAt record.name record.recordType) (reason : String) :
      Refuses (.create record) hosts (.invalidInput reason)
  | update {record : HostRecord} {hosts : List HostRecord}
      (none : ∀ x ∈ hosts, ¬x.StandsAt record.name record.recordType) (message : String) :
      Refuses (.update record) hosts (.notFound "LOCAL" message)
  | delete {name : String} {recordType : RecordType} {hosts : List HostRecord}
      (none : ∀ x ∈ hosts, ¬x.StandsAt name recordType) (message : String) :
      Refuses (.delete name recordType) hosts (.notFound "LOCAL" message)

/-- What a call does after it has read the host set. -/
structure Proceeds (c : Client) (domain : String) (d : DomainName) (e : HostEdit)
    (hosts : List HostRecord) (events : List Client.Event) (answer : Except Failure Unit) :
    Prop where
  refused : (∃ f, e.Refuses hosts f) →
    Client.traffic events = [] ∧ ∃ f, e.Refuses hosts f ∧ answer = .error f
  unwritable : ∀ hosts', e.Makes hosts hosts' → (∃ r ∈ hosts', ¬r.IsWritable) →
    Client.traffic events = [] ∧ ∃ reason, answer = .error (.invalidInput reason)
  /-- The set is written, as often as the command is tried, and once at least if it is done. -/
  written : ∀ hosts', e.Makes hosts hosts' → (∀ r ∈ hosts', r.IsWritable) →
    Runs (c.setHostRecords domain hosts').run events answer ∧
      (∀ x ∈ Client.traffic events, x.1.Writes d hosts') ∧
      (answer = .ok () → Client.traffic events ≠ [])

end HostEdit

/-- The request asks for the host set of a domain. -/
structure Request.AsksHosts (r : Request) (d : DomainName) : Prop where
  command : r.get? "Command" = some "namecheap.domains.dns.getHosts"
  sld : r.get? "SLD" = some d.sld
  tld : r.get? "TLD" = some d.tld

theorem Request.asksHosts_getHosts (d : DomainName) (c : Credentials) (endpoint : String) :
    (Request.ofCommand (.getHosts d) c endpoint).AsksHosts d where
  command := Request.get?_command ..
  sld := by
    rw [Request.get?_ofCommand c endpoint (by decide +kernel)]
    rfl
  tld := by
    rw [Request.get?_ofCommand c endpoint (by decide +kernel)]
    rfl

/-- These events read a host set: every request asks for it, and if it is known in the end, the last
answer holds it. -/
structure ReadsHosts (c : Client) (domain : String) (d : DomainName) (events : List Client.Event)
    (read : Except Failure (List HostRecord)) : Prop where
  run : Runs (c.getHostRecords domain).run events read
  asks : ∀ x ∈ Client.traffic events, x.1.AsksHosts d
  held : ∀ hosts, read = .ok hosts → ∃ request r envelope,
    (Client.traffic events).getLast? = some (request, .answered (.ok r)) ∧
      Envelope.decode r.body r.status = .ok envelope ∧
      envelope.payload hostSetFields.reader = .ok hosts

/-! ## The edits -/

namespace HostEdit

variable {c : Client} {domain : String} {e : HostEdit} {hosts hosts' hosts'' : List HostRecord}
  {f : Failure}

/-- What becomes of a host set that was read. -/
def edit (domain : String) (hosts : List HostRecord) : HostEdit → Except Failure (List HostRecord)
  | create record =>
    if hosts.any (·.isAt record.name record.recordType) then
      .error (.invalidInput
        (HostRecord.label record.name record.recordType ++ " already exists on " ++ domain))
    else .ok (hosts ++ [record])
  | update record =>
    if hosts.any (·.isAt record.name record.recordType) then .ok (record.replaceFirst hosts)
    else .error (.absent
      (HostRecord.label record.name record.recordType ++ " not found on " ++ domain))
  | delete name recordType =>
    if hosts.any (·.isAt name recordType) then
      .ok (hosts.filter fun r => !r.isAt name recordType)
    else .error (.absent (HostRecord.label name recordType ++ " not found on " ++ domain))

theorem perform_eq (c : Client) (domain : String) (e : HostEdit) :
    e.perform c domain = c.getHostRecords domain >>= fun hosts =>
      match e.edit domain hosts with
      | .ok hosts' => c.setHostRecords domain hosts'
      | .error f => throw f := by
  cases e with
  | create | update | delete =>
    refine congrArg (c.getHostRecords domain >>= ·) (funext fun hosts => ?_)
    dsimp only [edit]
    split <;> rfl

/-- The first record with the name and the type is replaced, the others stay. -/
theorem replaceFirst_append {record x : HostRecord} {before after : List HostRecord}
    (first : ∀ y ∈ before, ¬y.StandsAt record.name record.recordType)
    (found : x.StandsAt record.name record.recordType) :
    record.replaceFirst (before ++ x :: after) = before ++ record :: after := by
  induction before with
  | nil => exact if_pos (HostRecord.isAt_iff.2 found)
  | cons y before ih =>
    obtain ⟨hy, first⟩ := List.forall_mem_cons.1 first
    rw [List.cons_append, HostRecord.replaceFirst, if_neg (mt HostRecord.isAt_iff.1 hy), ih first]
    rfl

/-- The only set that an edit makes. -/
theorem Makes.edit_eq (h : e.Makes hosts hosts') (domain : String) :
    e.edit domain hosts = .ok hosts' := by
  cases h with
  | create new => exact if_neg ((HostRecord.not_any_isAt_iff hosts).2 new)
  | @update record x before after first found =>
    have any := (HostRecord.any_isAt_iff (before ++ x :: after)).2 ⟨x, by simp, found⟩
    rw [edit, if_pos any, replaceFirst_append first found]
  | delete found =>
    rw [edit, if_pos ((HostRecord.any_isAt_iff hosts).2 found), HostRecord.filter_isAt]

theorem Refuses.edit_eq (h : e.Refuses hosts f) (domain : String) :
    ∃ f', e.edit domain hosts = .error f' := by
  cases h with
  | create found => exact ⟨_, if_pos ((HostRecord.any_isAt_iff hosts).2 found)⟩
  | update none => exact ⟨_, if_neg ((HostRecord.not_any_isAt_iff hosts).2 none)⟩
  | delete none => exact ⟨_, if_neg ((HostRecord.not_any_isAt_iff hosts).2 none)⟩

/-- An edit makes a set, or it is refused. -/
theorem edit_spec (domain : String) (hosts : List HostRecord) (e : HostEdit) :
    match e.edit domain hosts with
    | .ok hosts' => e.Makes hosts hosts'
    | .error f => e.Refuses hosts f := by
  cases e with
  | create record =>
    by_cases any : hosts.any (·.isAt record.name record.recordType) = true
    · simp only [edit, if_pos any]
      exact .create ((HostRecord.any_isAt_iff hosts).1 any) _
    · simp only [edit, if_neg any]
      exact .create ((HostRecord.not_any_isAt_iff hosts).1 any)
  | update record =>
    cases hx : hosts.find? (·.isAt record.name record.recordType) with
    | some x =>
      obtain ⟨found, before, after, rfl, first⟩ := List.find?_eq_some_iff_append.1 hx
      have makes : Makes (.update record) (before ++ x :: after) (before ++ record :: after) := by
        refine .update (fun y hy stands => ?_) (HostRecord.isAt_iff.1 found)
        simpa [HostRecord.isAt_iff.2 stands] using first y hy
      simp only [makes.edit_eq domain]
      exact makes
    | none =>
      have none : ∀ y ∈ hosts, ¬y.StandsAt record.name record.recordType := fun y hy stands =>
        List.find?_eq_none.1 hx y hy (HostRecord.isAt_iff.2 stands)
      simp only [edit, if_neg ((HostRecord.not_any_isAt_iff hosts).2 none)]
      exact .update none _
  | delete name recordType =>
    by_cases any : hosts.any (·.isAt name recordType) = true
    · simp only [edit, if_pos any, HostRecord.filter_isAt]
      exact .delete ((HostRecord.any_isAt_iff hosts).1 any)
    · simp only [edit, if_neg any]
      exact .delete ((HostRecord.not_any_isAt_iff hosts).1 any) _

end HostEdit

/-! ## Reading and writing -/

section

variable {c : Client} {domain : String} {d : DomainName} {hosts : List HostRecord}
  {events : List Client.Event} (parsed : DomainName.parse domain = .ok d)

theorem Command.hostFault?_eq_none_iff (position : Nat) :
    hostFault? position hosts = none ↔ ∀ r ∈ hosts, r.IsWritable := by
  induction hosts generalizing position with
  | nil => simp [hostFault?]
  | cons r rs ih =>
    rw [List.forall_mem_cons, ← ih (position + 1), hostFault?, HostRecord.IsWritable]
    split
    · simp_all
    · split <;> simp_all

theorem Command.exists_setHosts (d : DomainName) (writable : ∀ r ∈ hosts, r.IsWritable) :
    ∃ command, setHosts d hosts = .ok command := by
  rw [setHosts, (hostFault?_eq_none_iff 1).2 writable]
  exact ⟨_, rfl⟩

include parsed

theorem getHostRecords_eq :
    c.getHostRecords domain = c.run (.getHosts d) hostSetFields := by
  unfold Client.getHostRecords Client.parseDomain
  rw [parsed]
  rfl

theorem setHostRecords_eq :
    c.setHostRecords domain hosts =
      match Command.setHosts d hosts with
      | .error fault => Client.refuse fault.message
      | .ok command => c.run command hostsReplacedFields >>= fun done =>
        Client.requireDone command done ("host records of " ++ d.text ++ " not updated") := by
  unfold Client.setHostRecords Client.parseDomain
  rw [parsed]
  rfl

theorem readsHosts_of_runs {read : Except Failure (List HostRecord)}
    (hpos : 0 < c.plan.maxAttempts) (run : Runs (c.getHostRecords domain).run events read) :
    ReadsHosts c domain d events read := by
  have command := run
  rw [getHostRecords_eq parsed] at command
  refine ⟨run, fun x sent => ?_, ?_⟩
  · rw [(Operation.sends_run c (.getHosts d) hostSetFields).of_runs command x sent]
    exact Request.asksHosts_getHosts d c.credentials c.endpoint
  rintro hosts rfl
  exact last_of_tells (tells_of_runs hpos (readsOnly_payload _) command)

/-- Writing a set sends nothing but the set, and it sends nothing if a record cannot be written. -/
theorem writes_of_runs {answer : Except Failure Unit} (hpos : 0 < c.plan.maxAttempts)
    (run : Runs (c.setHostRecords domain hosts).run events answer) :
    ((∃ r ∈ hosts, ¬r.IsWritable) →
        Client.traffic events = [] ∧ ∃ reason, answer = .error (.invalidInput reason)) ∧
      (∀ x ∈ Client.traffic events, x.1.Writes d hosts) ∧
      (answer = .ok () → Client.traffic events ≠ []) := by
  rw [setHostRecords_eq parsed] at run
  cases h : Command.setHosts d hosts with
  | error fault =>
    rw [h] at run
    obtain ⟨rfl, rfl⟩ := Operation.runs_throw_iff.1 run
    exact ⟨fun _ => ⟨rfl, _, rfl⟩, nofun, nofun⟩
  | ok command =>
    rw [h] at run
    have writable : ∀ r ∈ hosts, r.IsWritable := by
      rw [← Command.hostFault?_eq_none_iff 1]
      unfold Command.setHosts at h
      split at h
      · cases h
      · assumption
    refine ⟨fun ⟨r, hr, lacking⟩ => (lacking (writable r hr)).elim, ?_, ?_⟩
    · have sends : Operation.Sends (· = .ofCommand command c.credentials c.endpoint)
          (c.run command hostsReplacedFields >>= fun done => Client.requireDone command done
            ("host records of " ++ d.text ++ " not updated")) :=
        (Operation.sends_run c command hostsReplacedFields).bind
          fun done => (Operation.silent_requireDone command done _).sends
      intro x hx
      rw [sends.of_runs run x hx]
      exact writes_of_setHosts h c.credentials c.endpoint
    · rintro rfl
      rcases Operation.runs_bind_iff.1 run with ⟨_, he, -⟩ | ⟨before, after, done, rfl, asked, -⟩
      · cases he
      · obtain ⟨request, r, -, last, -⟩ :=
          last_of_tells (tells_of_runs hpos (readsOnly_payload _) asked)
        have sent : Client.traffic before ≠ [] := by
          intro none
          rw [none] at last
          cases last
        simp [sent]

/-- An edit of a host set that was read. -/
theorem HostEdit.proceeds_of_edit {e : HostEdit} {answer : Except Failure Unit}
    (hpos : 0 < c.plan.maxAttempts)
    (run : Runs (match e.edit domain hosts with
      | .ok hosts' => c.setHostRecords domain hosts'
      | .error f => throw f : Operation Unit).run events answer) :
    e.Proceeds c domain d hosts events answer := by
  have spec := e.edit_spec domain hosts
  cases h : e.edit domain hosts with
  | error f =>
    rw [h] at run spec
    obtain ⟨rfl, rfl⟩ := Operation.runs_throw_iff.1 run
    have unmade (hosts' : List HostRecord) : ¬e.Makes hosts hosts' := by
      intro makes
      cases h.symm.trans (makes.edit_eq domain)
    exact ⟨fun _ => ⟨rfl, f, spec, rfl⟩, fun _ makes => (unmade _ makes).elim,
      fun _ makes => (unmade _ makes).elim⟩
  | ok hosts' =>
    rw [h] at run
    obtain ⟨unwritable, writes, sent⟩ := writes_of_runs parsed hpos run
    refine ⟨?_, fun hosts'' makes => ?_, fun hosts'' makes _ => ?_⟩
    · rintro ⟨f, refuses⟩
      obtain ⟨f', hf⟩ := refuses.edit_eq domain
      cases h.symm.trans hf
    · cases h.symm.trans (makes.edit_eq domain)
      exact unwritable
    · cases h.symm.trans (makes.edit_eq domain)
      exact ⟨run, writes, sent⟩

end

section

variable {α : Type} [Quantity α] {s : Settings α}

/-- A change of a single record reads the host set and, if there is one to be made of it that can be
written, writes that set and nothing else, however often it is tried. The settings are any valid
ones; the caller, the breaker, the limiter and the transport answer as they like. -/
theorem HostEdit.proceeds_of_runs (hs : s.fault? = none) (draw : Nat → α) (waits : Nat)
    (e : HostEdit) {domain : String} {d : DomainName} (parsed : DomainName.parse domain = .ok d)
    {events : List Client.Event} {answer : Except Failure Unit}
    (run : Runs (e.perform (.ofSettings s draw waits) domain).run events answer) :
    ∃ before after, events = before ++ after ∧
      ((∃ f, ReadsHosts (.ofSettings s draw waits) domain d before (.error f) ∧
          after = [] ∧ answer = .error f) ∨
        ∃ hosts, ReadsHosts (.ofSettings s draw waits) domain d before (.ok hosts) ∧
          e.Proceeds (.ofSettings s draw waits) domain d hosts after answer) := by
  have hpos : 0 < (Client.ofSettings s draw waits).plan.maxAttempts := s.maxAttempts_pos hs
  rw [e.perform_eq] at run
  rcases Operation.runs_bind_iff.1 run with ⟨f, rfl, read⟩ | ⟨before, after, hosts, rfl, read, rest⟩
  · refine ⟨events, [], (List.append_nil _).symm, .inl ⟨f, ?_, rfl, rfl⟩⟩
    exact readsHosts_of_runs parsed hpos read
  · refine ⟨before, after, rfl, .inr ⟨hosts, ?_, ?_⟩⟩
    · exact readsHosts_of_runs parsed hpos read
    · exact e.proceeds_of_edit parsed hpos rest

end

/-- An edit whose host set is read at once and whose command is done at once. -/
theorem HostEdit.exists_runs_perform {c : Client} (able : 0 < c.waits) {domain : String}
    {d : DomainName} (parsed : DomainName.parse domain = .ok d) {e : HostEdit}
    {hosts hosts' : List HostRecord} {r : Response} {envelope : Envelope}
    (decoded : Envelope.decode r.body r.status = .ok envelope)
    (held : envelope.payload hostSetFields.reader = .ok hosts) (makes : e.Makes hosts hosts')
    (writable : ∀ r ∈ hosts', r.IsWritable) :
    ∃ events, Runs (e.perform c domain).run events (.ok ()) := by
  let written := "<ApiResponse Status=\"OK\"><CommandResponse>" ++
    "<DomainDNSSetHostsResult IsSuccess=\"true\"/></CommandResponse></ApiResponse>"
  have decoded' : Envelope.decode written 200 = .ok ⟨none, [], written⟩ := by decide +kernel
  have held' : (⟨none, [], written⟩ : Envelope).payload hostsReplacedFields.reader = .ok true := by
    decide +kernel
  obtain ⟨command, set⟩ := Command.exists_setHosts d writable
  refine ⟨c.served (.getHosts d) r ++ c.served command ⟨200, written, none⟩, ?_⟩
  rw [e.perform_eq, getHostRecords_eq parsed]
  refine Operation.runs_bind_iff.2 (.inr ⟨_, _, hosts, rfl, ?_, ?_⟩)
  · exact Client.runs_served able decoded held
  · simp only [makes.edit_eq domain, setHostRecords_eq parsed, set]
    exact Client.runs_run_bind able decoded' held' rfl

/-- To a mail exchanger and a page a text is added, the page is replaced, and it is deleted; it is
found in another letter case. -/
theorem HostEdit.proceeds_of_three_edits :
    let s : Settings ℚ := .new ⟨"user", "key", "user", "10.0.0.1"⟩
    let c : Client := .ofSettings s fun _ => 0
    let d : DomainName := ⟨"example", "com"⟩
    let mail : HostRecord := ⟨none, "@", .mx, "mx", some 5, none, true⟩
    let page : HostRecord := ⟨none, "www", .a, "10.0.0.2", none, none, true⟩
    let text : HostRecord := .new "@" .txt "text"
    let moved : HostRecord := .new "WWW" .a "10.0.0.3"
    let done : Except Failure Unit := .ok ()
    let proceeds (e : HostEdit) (hosts' : List HostRecord) : Prop :=
      e.Makes [mail, page] hosts' ∧ ∃ events, Runs (e.perform c "example.com").run events done ∧
        ∃ before after, events = before ++ after ∧
          ((∃ f, ReadsHosts c "example.com" d before (.error f) ∧ after = [] ∧ done = .error f) ∨
            ∃ hosts, ReadsHosts c "example.com" d before (.ok hosts) ∧
              e.Proceeds c "example.com" d hosts after done)
    s.fault? = none ∧ DomainName.parse "example.com" = .ok d ∧
      proceeds (.create text) [mail, page, text] ∧ proceeds (.update moved) [mail, moved] ∧
      proceeds (.delete "WWW" .a) [mail] := by
  intro s c d mail page text moved done proceeds
  let frame : Envelope.Frame := ⟨.lines, "xml.response", "command", "SERVER-TEST", "0.01"⟩
  let listing := frame.success [HostRecord.listing "example.com" "true" [mail, page]]
  have valid : s.fault? = none := by decide +kernel
  have parsed : DomainName.parse "example.com" = .ok d := by decide +kernel
  have reported : ∀ r ∈ [mail, page], r.IsReported := by
    refine List.forall_mem_cons.2 ⟨?_, List.forall_mem_singleton.2 ?_⟩
    · exact ⟨nofun, by decide, nofun, ⟨"mx", by decide +kernel⟩, fun other => (other rfl).elim⟩
    · exact ⟨nofun, nofun, nofun, ⟨"a", by decide +kernel⟩, fun _ => rfl⟩
  have good : 200 ≤ 200 ∧ 200 < 300 := by decide
  obtain ⟨envelope, decoded, held⟩ := Envelope.exists_payload_success frame
    (HostRecord.isPassable_response frame "example.com" "true" [mail, page])
    (HostRecord.reads_response frame "example.com" "true" reported) good
  have other : ¬mail.StandsAt "WWW" .a := fun stands => nomatch stands.type
  have found : page.StandsAt "WWW" .a := by
    have letter : Text.SameLetter 'w' 'W' := .inr ⟨22, by decide⟩
    refine ⟨?_, rfl⟩
    show List.Forall₂ Text.SameLetter "www".toList "WWW".toList
    exact .cons letter (.cons letter (.cons letter .nil))
  have each {e : HostEdit} {hosts' : List HostRecord} (makes : e.Makes [mail, page] hosts')
      (writable : ∀ r ∈ hosts', r.IsWritable) : proceeds e hosts' := by
    obtain ⟨events, run⟩ := HostEdit.exists_runs_perform (c := c) (r := ⟨200, listing, none⟩)
      (by decide) parsed decoded held makes writable
    exact ⟨makes, events, run, HostEdit.proceeds_of_runs valid _ _ e parsed run⟩
  have mailWritable : mail.IsWritable := ⟨by decide +kernel, by decide +kernel⟩
  have pageWritable : page.IsWritable := ⟨by decide +kernel, by decide +kernel⟩
  have textWritable : text.IsWritable := ⟨by decide +kernel, by decide +kernel⟩
  have movedWritable : moved.IsWritable := ⟨by decide +kernel, by decide +kernel⟩
  have first : ∀ x ∈ [mail], ¬x.StandsAt "WWW" .a := List.forall_mem_singleton.2 other
  have updates : HostEdit.Makes (.update moved) ([mail] ++ [page]) ([mail] ++ [moved]) :=
    .update first found
  refine ⟨valid, parsed, each (.create ?_) ?_, each updates ?_, each ?_ ?_⟩
  · simp only [List.forall_mem_cons]
    exact ⟨fun stands => (nomatch stands.type), fun stands => (nomatch stands.type), nofun⟩
  · simp [mailWritable, pageWritable, textWritable]
  · simp [mailWritable, movedWritable]
  · have kept : [mail, page].filter (fun x => ¬x.StandsAt "WWW" .a) = [mail] := by
      simp [other, found]
    rw [← kept]
    exact .delete ⟨page, by simp, found⟩
  · simpa using mailWritable

end Registrar
