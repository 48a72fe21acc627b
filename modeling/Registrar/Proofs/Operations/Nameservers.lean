import Registrar.Operations.Domains
import Registrar.Proofs.Operations.Runs
import Registrar.Proofs.Text.Splitting
import Registrar.Proofs.Text.Trimming
import Registrar.Proofs.Wire.Queries

/-!
# Who serves the names of a domain

The servers of a domain are sent as one list, divided by commas, and the registrar reads as many
names as the list has parts (`Text.namesIn`). A list of servers that is empty or has a blank entry
is refused. Of all others, those are read as they were given in which no entry has a comma of its
own; an entry with a comma is sent all the same, and is read as several names, which may be blank.

Main statement: `delegates_iff`.
-/

namespace Registrar

open Dialogue

/-! ## Lists divided by commas -/

namespace Text

/-- The names in a list that is divided by commas. -/
def namesIn (value : String) : List String :=
  (value.toList.splitOn ',').map String.ofList

theorem not_mem_of_mem_namesIn {name value : String} (h : name ∈ namesIn value) :
    ',' ∉ name.toList := by
  obtain ⟨part, hp, rfl⟩ := List.mem_map.1 h
  rw [String.toList_ofList]
  exact not_mem_of_mem_parts hp

theorem namesIn_of_not_mem {name : String} (h : ',' ∉ name.toList) : namesIn name = [name] := by
  rw [namesIn, List.splitOn_eq_singleton h, List.map_singleton, String.ofList_toList]

variable {names : List String}

theorem namesIn_intercalate (h : names ≠ []) :
    namesIn (",".intercalate names) = names.flatMap namesIn := by
  have parts : names.map String.toList ≠ [] := mt List.map_eq_nil_iff.1 h
  have whole : (",".intercalate names).toList = [','].intercalate (names.map String.toList) :=
    String.toList_intercalate
  rw [namesIn, whole, splitOn_intercalate parts, List.flatMap_map, List.map_flatMap]
  rfl

/-- A list is read as it was put together if no entry can be taken for several. -/
theorem namesIn_intercalate_eq_iff (h : names ≠ []) :
    namesIn (",".intercalate names) = names ↔ ∀ name ∈ names, ',' ∉ name.toList := by
  constructor
  · intro same name mem
    rw [← same] at mem
    exact not_mem_of_mem_namesIn mem
  · intro plain
    rw [namesIn_intercalate h]
    calc names.flatMap namesIn
      _ = names.flatMap fun name => [name] :=
        List.flatMap_congr fun name mem => namesIn_of_not_mem (plain name mem)
      _ = names := List.flatMap_singleton' names

end Text

/-! ## Servers -/

/-- The request hands a domain over to these servers: one name is read for each, and none is
blank. -/
structure Request.Delegates (r : Request) (d : DomainName) (servers : List String) : Prop where
  command : r.get? "Command" = some "namecheap.domains.dns.setCustom"
  sld : r.get? "SLD" = some d.sld
  tld : r.get? "TLD" = some d.tld
  names : (r.get? "Nameservers").map Text.namesIn = some (servers.map Text.trim)
  inked : ∀ s ∈ servers.map Text.trim, Text.isBlankText s = false

/-- Some entry of the list is blank, or there is none. -/
def LacksServer (servers : List String) : Prop :=
  servers = [] ∨ ∃ s ∈ servers, Text.isBlankText s = true

section

variable {servers : List String} {c : Client} {name : String} {d : DomainName}

theorem cleanNameservers_of_lacksServer (h : LacksServer servers) :
    ∃ reason, cleanNameservers servers = .error (.invalidInput reason) := by
  unfold cleanNameservers
  split
  · exact ⟨_, rfl⟩
  · next some_server =>
    obtain rfl | blank := h
    · exact absurd rfl some_server
    · rw [if_pos (List.any_eq_true.2 blank)]
      exact ⟨_, rfl⟩

theorem cleanNameservers_of_not_lacksServer (h : ¬ LacksServer servers) :
    cleanNameservers servers = .ok (servers.map Text.trim) := by
  obtain ⟨some_server, inked⟩ := not_or.1 h
  have no_blank : servers.any Text.isBlankText = false :=
    List.any_eq_false.2 fun s hs blank => inked ⟨s, hs, blank⟩
  rw [cleanNameservers, if_neg (by simpa using some_server), no_blank]
  rfl

theorem get?_setNameservers (d : DomainName) (names : List String) :
    (Command.setNameservers d names).get? "SLD" = some d.sld ∧
      (Command.setNameservers d names).get? "TLD" = some d.tld ∧
      (Command.setNameservers d names).get? "Nameservers" = some (",".intercalate names) := by
  refine ⟨?_, ?_, Command.get?_set_self _ _ _⟩
  · rw [Command.setNameservers, Command.get?_set_ne _ (by decide), Command.onDomain,
      Command.get?_set_ne _ (by decide), Command.get?_set_self]
  · rw [Command.setNameservers, Command.get?_set_ne _ (by decide), Command.onDomain,
      Command.get?_set_self]

/-- What the operation sends hands the domain over to the servers, if no entry has a comma. -/
theorem delegates_ofCommand_iff (given : ¬ LacksServer servers) (credentials : Credentials)
    (endpoint : String) :
    (Request.ofCommand (.setNameservers d (servers.map Text.trim)) credentials endpoint).Delegates
      d servers ↔ ∀ s ∈ servers, ',' ∉ s.toList := by
  obtain ⟨some_server, inked⟩ := not_or.1 given
  have some_name : servers.map Text.trim ≠ [] := mt List.map_eq_nil_iff.1 some_server
  obtain ⟨sld, tld, names⟩ := get?_setNameservers d (servers.map Text.trim)
  have commas : (∀ name ∈ servers.map Text.trim, ',' ∉ name.toList) ↔
      ∀ s ∈ servers, ',' ∉ s.toList := by
    simp only [List.forall_mem_map, Text.mem_trim_iff (by decide : Text.isBlank ',' = false)]
  rw [← commas, ← Text.namesIn_intercalate_eq_iff some_name]
  constructor
  · intro h
    have read := h.names
    rw [Request.get?_ofCommand credentials endpoint (by decide +kernel), names] at read
    exact Option.some.inj read
  · intro same
    refine ⟨?_, ?_, ?_, ?_, ?_⟩
    · rw [Request.get?_command]
      rfl
    · rw [Request.get?_ofCommand credentials endpoint (by decide +kernel), sld]
    · rw [Request.get?_ofCommand credentials endpoint (by decide +kernel), tld]
    · rw [Request.get?_ofCommand credentials endpoint (by decide +kernel), names]
      exact congrArg some same
    · refine List.forall_mem_map.2 fun s hs => ?_
      rw [Text.isBlankText_trim]
      exact Bool.eq_false_iff.2 fun blank => inked ⟨s, hs, blank⟩

theorem setNameservers_of_lacksServer (c : Client) (parsed : DomainName.parse name = .ok d)
    (h : LacksServer servers) :
    ∃ reason, (c.setNameservers name servers).run = .done (.error (.invalidInput reason)) := by
  obtain ⟨reason, refused⟩ := cleanNameservers_of_lacksServer h
  refine ⟨reason, ?_⟩
  unfold Client.setNameservers Client.parseDomain
  rw [parsed, refused]
  rfl

theorem setNameservers_of_not_lacksServer (c : Client) (parsed : DomainName.parse name = .ok d)
    (h : ¬ LacksServer servers) :
    c.setNameservers name servers =
      (c.run (.setNameservers d (servers.map Text.trim))
          (Xml.requiredChild ["DomainDNSSetCustomResult"] updatedFields.reader) >>= fun done =>
        Client.requireDone (.setNameservers d (servers.map Text.trim)) done
          ("nameservers of " ++ d.text ++ " not updated")) := by
  unfold Client.setNameservers Client.parseDomain
  rw [parsed, cleanNameservers_of_not_lacksServer h]
  rfl

/-- A list of servers that is empty or has a blank entry is refused before anything is asked. Any
other list is sent, and read as its entries are; that gives the servers back, one by one, if and
only if no entry has a comma. -/
theorem delegates_iff (c : Client) (parsed : DomainName.parse name = .ok d)
    (servers : List String) :
    let command := Command.setNameservers d (servers.map Text.trim)
    (LacksServer servers →
      ∃ reason, (c.setNameservers name servers).run = .done (.error (.invalidInput reason))) ∧
    (¬ LacksServer servers →
      c.setNameservers name servers =
        (c.run command (Xml.requiredChild ["DomainDNSSetCustomResult"] updatedFields.reader) >>=
          fun done => Client.requireDone command done
            ("nameservers of " ++ d.text ++ " not updated")) ∧
      (command.get? "Nameservers").map Text.namesIn =
        some (servers.flatMap fun s => Text.namesIn (Text.trim s)) ∧
      ((Request.ofCommand command c.credentials c.endpoint).Delegates d servers ↔
        ∀ s ∈ servers, ',' ∉ s.toList)) := by
  intro command
  refine ⟨setNameservers_of_lacksServer c parsed, fun given => ?_⟩
  have some_name : servers.map Text.trim ≠ [] := mt List.map_eq_nil_iff.1 (not_or.1 given).1
  refine ⟨setNameservers_of_not_lacksServer c parsed given, ?_,
    delegates_ofCommand_iff given c.credentials c.endpoint⟩
  rw [(get?_setNameservers d _).2.2, Option.map_some, Text.namesIn_intercalate some_name,
    List.flatMap_map]

end

/-- Two servers are trimmed and come back from one list; with a blank one beside them there is no
list. -/
theorem delegates_two :
    let s : Settings ℚ := .new ⟨"user", "key", "user", "10.0.0.1"⟩
    let c : Client := .ofSettings s fun _ => 0
    let d : DomainName := ⟨"example", "com"⟩
    let servers := [" ns1.example.net", "ns2.example.net "]
    let command := Command.setNameservers d ["ns1.example.net", "ns2.example.net"]
    DomainName.parse "example.com" = .ok d ∧
    ¬ LacksServer servers ∧
    (Request.ofCommand command c.credentials c.endpoint).Delegates d servers ∧
    LacksServer ("  " :: servers) ∧
    ∃ reason, (c.setNameservers "example.com" ("  " :: servers)).run =
      .done (.error (.invalidInput reason)) := by
  intro s c d servers command
  have parsed : DomainName.parse "example.com" = .ok d := by decide +kernel
  have given : ¬ LacksServer servers := by
    unfold LacksServer
    decide +kernel
  have blank : LacksServer ("  " :: servers) := .inr ⟨"  ", List.mem_cons_self, by decide +kernel⟩
  have trimmed : servers.map Text.trim = ["ns1.example.net", "ns2.example.net"] := by
    decide +kernel
  obtain ⟨-, -, delegates⟩ := (delegates_iff c parsed servers).2 given
  rw [trimmed] at delegates
  exact ⟨parsed, given, delegates.2 (by decide +kernel), blank,
    (delegates_iff c parsed ("  " :: servers)).1 blank⟩

/-- A comma behind a name is sent with it, and read as a second name that is blank. -/
theorem comma_is_sent :
    let s : Settings ℚ := .new ⟨"user", "key", "user", "10.0.0.1"⟩
    let c : Client := .ofSettings s fun _ => 0
    let d : DomainName := ⟨"example", "com"⟩
    let servers := ["ns1.example.net,"]
    let body := "<ApiResponse Status=\"OK\"><CommandResponse>" ++
      "<DomainDNSSetCustomResult Updated=\"true\"/></CommandResponse></ApiResponse>"
    ∃ events request, Runs (c.setNameservers "example.com" servers).run events (.ok ()) ∧
      Client.traffic events = [(request, .answered (.ok ⟨200, body, none⟩))] ∧
      (request.get? "Nameservers").map Text.namesIn = some ["ns1.example.net", ""] ∧
      ¬ request.Delegates d servers := by
  intro s c d servers body
  have parsed : DomainName.parse "example.com" = .ok d := by decide +kernel
  have given : ¬ LacksServer servers := by
    unfold LacksServer
    decide +kernel
  have decoded : Envelope.decode body 200 = .ok ⟨none, [], body⟩ := by decide +kernel
  have held : (⟨none, [], body⟩ : Envelope).payload
      (Xml.requiredChild ["DomainDNSSetCustomResult"] updatedFields.reader).reader = .ok true := by
    decide +kernel
  refine ⟨c.served (.setNameservers d (servers.map Text.trim)) ⟨200, body, none⟩, _, ?_, rfl,
    by decide +kernel, ?_⟩
  · rw [setNameservers_of_not_lacksServer c parsed given]
    refine Operation.runs_bind_iff.2 (.inr ⟨_, [], true, (List.append_nil _).symm, ?_, ?_⟩)
    · exact Client.runs_served (by decide) decoded held
    · exact Operation.runs_pure_iff.2 ⟨rfl, rfl⟩
  · rw [delegates_ofCommand_iff given]
    decide +kernel

end Registrar
