import Registrar.Operations.Account
import Registrar.Operations.Certificates
import Registrar.Operations.Domains
import Registrar.Operations.Hosts
import Registrar.Operations.Privacy
import Registrar.Proofs.Names.Matching
import Registrar.Proofs.Operations.HostListing
import Registrar.Proofs.Operations.Runs

/-!
# Lookups that answer yes or no

A `Lookup` runs one command and says yes or no to what it read. Some of them take the registrar's
word that an item is not there for a no; no other failure is taken for one. `Lookup.Shows` says
what stands behind an answer, and `Lookup.Accords` what that comes to if the registrar wrote a
refusal or a host set. Main statement: `Lookup.shows_of_runs`.
-/

namespace Registrar

open Dialogue Xml

/-- What may be looked up, each item of one domain or of a top-level domain. -/
inductive Lookup
  | item (domain : String)
  | tld (name : String) (operation : TldOperation)
  | privacy (domain : String)
  | hostRecord (domain name : String) (recordType : RecordType)
  | certificate (domain : String)

/-! ## Commands in the place of operations -/

/-- A failure that tells that an item is not there, as a no. -/
def Failure.noIfAbsent : Except Failure Bool → Except Failure Bool
  | .ok b => .ok b
  | .error f => if f.isNotFound then .ok false else .error f

namespace Client

variable {α : Type}

theorem run_falseIfAbsent (op : Operation Bool) :
    (falseIfAbsent op).run = op.run.andThen fun result => .done (Failure.noIfAbsent result) := by
  refine congrArg (andThen op.run) (funext fun result => ?_)
  cases result with
  | ok b => rfl
  | error f =>
    show (if f.isNotFound then pure false else throw f : Operation Bool).run = _
    simp only [Failure.noIfAbsent]
    split <;> rfl

theorem run_bind_pure {β : Type} (op : Operation α) (f : α → β) :
    (op >>= fun a => pure (f a)).run = op.run.andThen fun result => .done (result.map f) := by
  refine (Operation.run_bind_of_done (g := fun a => .ok (f a)) fun a => rfl).trans ?_
  refine congrArg (andThen op.run) (funext fun result => ?_)
  cases result <;> rfl

theorem run_falseIfAbsent_bind_pure (op : Operation α) (f : α → Bool) :
    (falseIfAbsent (op >>= fun a => pure (f a))).run =
      op.run.andThen fun result => .done (Failure.noIfAbsent (result.map f)) := by
  rw [run_falseIfAbsent, run_bind_pure, andThen_andThen]
  rfl

theorem run_requireNonEmpty (field value : String) :
    (requireNonEmpty field value).run =
      .done (if Text.isBlankText value then .error (.invalidInput (field ++ " must not be empty"))
        else .ok ()) := by
  unfold requireNonEmpty
  split <;> rfl

end Client

namespace Lookup

/-- What a lookup reads. -/
abbrev Value : Lookup → Type
  | item _ => DomainInfo
  | tld .. => List Tld
  | privacy _ => List WhoisGuard
  | hostRecord .. => List HostRecord
  | certificate _ => List Certificate

def fields : (l : Lookup) → Fields l.Value
  | item _ => requiredChild ["DomainGetInfoResult"] DomainInfo.fields.reader
  | tld .. => tldListFields
  | privacy _ => whoisGuardListFields
  | hostRecord .. => hostSetFields
  | certificate _ => certificateListFields

/-- The command, unless there is nothing to look up. -/
def command : Lookup → Except Failure Command
  | item domain => (DomainName.parse domain).map .domainInfo
  | tld name _ =>
    if (Tld.cleanName name).isEmpty then .error (.invalidInput "TLD name must not be empty")
    else .ok (.new "namecheap.domains.getTldList")
  | privacy domain =>
    if Text.isBlankText domain then .error (.invalidInput "domain must not be empty")
    else .ok (.new "namecheap.whoisguard.getList")
  | hostRecord domain .. => (DomainName.parse domain).map .getHosts
  | certificate domain =>
    if Text.isBlankText domain then .error (.invalidInput "domain must not be empty")
    else .ok (.new "namecheap.ssl.getList")

/-- What the first entry that matches says; no, if there is none. -/
def tells : (l : Lookup) → l.Value → Bool
  | item _, _ => true
  | tld name operation, tlds =>
    (tlds.find? fun t => Text.sameFolded (Tld.cleanName t.name) (Tld.cleanName name)).any
      (·.supports operation)
  | privacy domain, guards =>
    (guards.find? (Text.sameFolded ·.domainName (Text.trim domain))).any (·.isEnabled)
  | hostRecord _ name recordType, records => records.any (·.isAt name recordType)
  | certificate domain, certificates => certificates.any (·.covers domain)

/-- Whether the registrar's word that the item is not there counts as a no. -/
def trustsAbsence : Lookup → Bool
  | item _ | tld .. | privacy _ => true
  | hostRecord .. | certificate _ => false

/-- The command of a lookup alone. -/
def ask (c : Client) (l : Lookup) : Operation l.Value := do
  let command ← .mk (pure l.command)
  c.run command l.fields

def perform (c : Client) : Lookup → Operation Bool
  | item domain => c.domainExists domain
  | tld name operation => c.isTldSupported name operation
  | privacy domain => c.isWhoisGuardEnabled domain
  | hostRecord domain name recordType => c.hostRecordExists domain name recordType
  | certificate domain => c.certificateExists domain

/-- The answer to what the command of a lookup came to. -/
def conclude (l : Lookup) : Except Failure l.Value → Except Failure Bool
  | .ok v => .ok (l.tells v)
  | .error f => if l.trustsAbsence && f.isNotFound then .ok false else .error f

/-- What stands behind a yes or a no: the registrar's word that the item is not there, or an answer
that was read, by what it says. -/
inductive Shows (l : Lookup) (events : List Client.Event) : Bool → Prop
  | absent {request : Request} {sent : Connection.Sent} {code message : String}
      (trusted : l.trustsAbsence = true)
      (last : (Client.traffic events).getLast? = some (request, sent))
      (lacks : sent.Lacks code message) : Shows l events false
  | held {request : Request} {r : Response} {envelope : Envelope} {v : l.Value}
      (last : (Client.traffic events).getLast? = some (request, .answered (.ok r)))
      (decoded : Envelope.decode r.body r.status = .ok envelope)
      (read : envelope.payload l.fields.reader = .ok v) : Shows l events (l.tells v)

/-- What a yes or a no comes to if the last answer is one as the registrar writes it: after a
refusal there is a no at most, if its first error says that the item is not there, and after a host
set a yes if one of its records is the one that is looked for. -/
structure Accords (l : Lookup) (events : List Client.Event) (b : Bool) : Prop where
  refusal : ∀ {request : Request} {status : Nat} {hint : Option Duration} {frame : Envelope.Frame}
    {first : ProviderError} {later : List ProviderError},
    (Client.traffic events).getLast? =
      some (request, .answered (.ok ⟨status, frame.refusal (first :: later), hint⟩)) →
    b = false ∧ l.trustsAbsence = true ∧ 200 ≤ status ∧ status < 300 ∧
      first.trimmed.code ∈ ["2019166", "2016166"]
  listing : ∀ {domain name : String} {recordType : RecordType} {request : Request} {status : Nat}
    {hint : Option Duration} {frame : Envelope.Frame} {owner usesOurDns : String}
    {hosts : List HostRecord}, l = hostRecord domain name recordType →
    (∀ r ∈ hosts, r.IsReported) →
    (Client.traffic events).getLast? = some (request, .answered
      (.ok ⟨status, frame.success [HostRecord.listing owner usesOurDns hosts], hint⟩)) →
    (b = true ↔ ∃ r ∈ hosts, r.StandsAt name recordType)

theorem isNotFound_of_parse {name : String} {f : Failure} (h : DomainName.parse name = .error f) :
    f.isNotFound = false := by
  unfold DomainName.parse at h
  split at h
  · cases h
  · cases h
    rfl

/-- A lookup that is refused does not tell that the item is not there. -/
theorem isNotFound_of_command {l : Lookup} {f : Failure} (h : l.command = .error f) :
    f.isNotFound = false := by
  cases l with
  | item domain | hostRecord domain =>
    simp only [command] at h
    cases parsed : DomainName.parse domain with
    | error e =>
      rw [parsed] at h
      cases h
      exact isNotFound_of_parse parsed
    | ok d =>
      rw [parsed] at h
      cases h
  | tld | privacy | certificate =>
    simp only [command] at h
    split at h
    · cases h
      rfl
    · cases h

section

variable (c : Client) (l : Lookup)

theorem run_ask_of_ok {command : Command} (h : l.command = .ok command) :
    (l.ask c).run = (c.run command l.fields).run :=
  Operation.run_bind_of_ok (congrArg Dialogue.done h)

theorem run_ask_of_error {f : Failure} (h : l.command = .error f) :
    (l.ask c).run = .done (.error f) :=
  Operation.run_bind_of_error (congrArg Dialogue.done h)

/-- An operation that reads a domain and runs the command on it runs what a lookup asks. -/
theorem run_parseDomain_bind {domain : String} {f : DomainName → Command}
    (asks : l.command = (DomainName.parse domain).map f) :
    (Client.parseDomain domain >>= fun d => c.run (f d) l.fields).run = (l.ask c).run := by
  cases parsed : DomainName.parse domain with
  | error e =>
    rw [parsed] at asks
    rw [run_ask_of_error c l asks]
    exact Operation.run_bind_of_error (congrArg Dialogue.done parsed)
  | ok d =>
    rw [parsed] at asks
    rw [run_ask_of_ok c l asks]
    exact Operation.run_bind_of_ok (congrArg Dialogue.done parsed)

theorem run_getDomain (domain : String) :
    (c.getDomain domain).run = (ask c (.item domain)).run :=
  run_parseDomain_bind c (.item domain) rfl

theorem run_getHostRecords (domain name : String) (recordType : RecordType) :
    (c.getHostRecords domain).run = (ask c (.hostRecord domain name recordType)).run :=
  run_parseDomain_bind c (.hostRecord domain name recordType) rfl

/-- So does one that checks that a domain is given. -/
theorem run_requireNonEmpty_bind {β : Type} {domain : String} {command : Command}
    (asks : l.command =
      if Text.isBlankText domain then .error (.invalidInput "domain must not be empty")
      else .ok command)
    {f : l.Value → Operation β} {g : l.Value → Except Failure β}
    (done : ∀ v, (f v).run = .done (g v)) :
    (Client.requireNonEmpty "domain" domain >>= fun _ => c.run command l.fields >>= f).run =
      (l.ask c).run.andThen fun result => .done (result.bind g) := by
  have checked := Client.run_requireNonEmpty "domain" domain
  by_cases blank : Text.isBlankText domain = true
  · rw [if_pos blank] at asks checked
    rw [run_ask_of_error c l asks]
    exact Operation.run_bind_of_error checked
  · rw [if_neg blank] at asks checked
    rw [run_ask_of_ok c l asks, Operation.run_bind_of_ok checked]
    exact Operation.run_bind_of_done done

/-- The entry that is looked for, or the failure that there is none. -/
def pick {α : Type} (message : String) : Option α → Except Failure α
  | some a => .ok a
  | none => .error (.absent message)

theorem noIfAbsent_pick {α : Type} (message : String) (found : Option α) (f : α → Bool) :
    Failure.noIfAbsent ((pick message found).map f) = .ok (found.any f) := by
  cases found <;> rfl

theorem run_getTld (name : String) (operation : TldOperation) :
    (c.getTld name).run = (ask c (.tld name operation)).run.andThen fun result =>
      .done (result.bind fun tlds =>
        pick ("TLD " ++ Tld.cleanName name ++ " is not offered")
          (tlds.find? fun t => Text.sameFolded (Tld.cleanName t.name) (Tld.cleanName name))) := by
  unfold Client.getTld
  by_cases empty : (Tld.cleanName name).isEmpty = true
  · have refused : command (.tld name operation) =
        .error (.invalidInput "TLD name must not be empty") := by
      simp only [command, if_pos empty]
    rw [run_ask_of_error c _ refused]
    simp only [if_pos empty]
    rfl
  · have asked : command (.tld name operation) = .ok (.new "namecheap.domains.getTldList") := by
      simp only [command, if_neg empty]
    rw [run_ask_of_ok c _ asked]
    simp only [if_neg empty]
    refine Operation.run_bind_of_done fun tlds => ?_
    cases tlds.find? fun t => Text.sameFolded (Tld.cleanName t.name) (Tld.cleanName name) <;> rfl

theorem run_whoisGuardForDomain (domain : String) :
    (c.whoisGuardForDomain domain).run = (ask c (.privacy domain)).run.andThen fun result =>
      .done (result.bind fun guards =>
        pick ("no WhoisGuard subscription for " ++ Text.trim domain)
          (guards.find? (Text.sameFolded ·.domainName (Text.trim domain)))) := by
  refine run_requireNonEmpty_bind c (.privacy domain) rfl fun guards => ?_
  cases guards.find? (Text.sameFolded ·.domainName (Text.trim domain)) <;> rfl

theorem run_certificatesForDomain (domain : String) :
    (c.certificatesForDomain domain).run = (ask c (.certificate domain)).run.andThen fun result =>
      .done (result.map fun certificates => certificates.filter (·.covers domain)) := by
  refine (run_requireNonEmpty_bind c (.certificate domain) rfl fun _ => rfl).trans ?_
  refine congrArg (andThen _) (funext fun result => ?_)
  cases result <;> rfl

/-- A lookup is its command and a conclusion. -/
theorem run_perform : (l.perform c).run = (l.ask c).run.andThen fun r => .done (l.conclude r) := by
  cases l with
  | item domain =>
    refine (Client.run_falseIfAbsent_bind_pure (c.getDomain domain) fun _ => true).trans ?_
    rw [run_getDomain]
    refine congrArg (andThen _) (funext fun result => ?_)
    cases result <;> rfl
  | tld name operation =>
    refine (Client.run_falseIfAbsent_bind_pure (c.getTld name) (·.supports operation)).trans ?_
    rw [run_getTld c name operation, andThen_andThen]
    refine congrArg (andThen _) (funext fun result => congrArg Dialogue.done ?_)
    cases result with
    | error f => rfl
    | ok tlds => exact noIfAbsent_pick ..
  | privacy domain =>
    refine (Client.run_falseIfAbsent_bind_pure (c.whoisGuardForDomain domain)
      (·.isEnabled)).trans ?_
    rw [run_whoisGuardForDomain, andThen_andThen]
    refine congrArg (andThen _) (funext fun result => congrArg Dialogue.done ?_)
    cases result with
    | error f => rfl
    | ok guards => exact noIfAbsent_pick ..
  | hostRecord domain name recordType =>
    refine (Client.run_bind_pure (c.findHostRecord domain name recordType) (·.isSome)).trans ?_
    have found : (c.findHostRecord domain name recordType).run = _ :=
      Client.run_bind_pure (c.getHostRecords domain)
        (List.find? fun r : HostRecord => r.isAt name recordType)
    rw [found, andThen_andThen, run_getHostRecords c domain name recordType]
    refine congrArg (andThen _) (funext fun result => congrArg Dialogue.done ?_)
    cases result with
    | error f => rfl
    | ok records => exact congrArg Except.ok List.isSome_find?
  | certificate domain =>
    refine (Client.run_bind_pure (c.certificatesForDomain domain) (!·.isEmpty)).trans ?_
    rw [run_certificatesForDomain, andThen_andThen]
    refine congrArg (andThen _) (funext fun result => congrArg Dialogue.done ?_)
    cases result with
    | error f => rfl
    | ok certificates =>
      have any : (!(certificates.filter (·.covers domain)).isEmpty) =
          certificates.any (·.covers domain) := by
        rw [Bool.eq_iff_iff]
        simp
      exact congrArg Except.ok any

end

/-- A failure of the command that a lookup takes for a no is the registrar's word that the item is
not there, and its value is read off the last answer. -/
theorem shows_of_ask {c : Client} (hpos : 0 < c.plan.maxAttempts) {l : Lookup}
    {events : List Client.Event} {result : Except Failure l.Value} {b : Bool}
    (run : Runs (l.ask c).run events result) (h : l.conclude result = .ok b) :
    l.Shows events b := by
  cases asked : l.command with
  | error f =>
    rw [run_ask_of_error c l asked] at run
    obtain ⟨-, rfl⟩ := runs_done_iff.1 run
    have known := isNotFound_of_command asked
    simp only [conclude, known, Bool.and_false] at h
    cases h
  | ok command =>
    rw [run_ask_of_ok c l asked] at run
    have tells := tells_of_runs hpos (readsOnly_payload l.fields.reader) run
    cases result with
    | ok v =>
      obtain ⟨request, r, envelope, last, decoded, read⟩ := last_of_tells tells
      cases h
      exact .held last decoded read
    | error f =>
      simp only [conclude] at h
      split at h
      case isFalse => cases h
      case isTrue no =>
        cases h
        obtain ⟨trusted, absent⟩ := Bool.and_eq_true_iff.1 no
        cases f with
        | notFound code message =>
          obtain ⟨request, sent, last, lacks, -⟩ := last_traffic_of_endedBy tells.2
          exact .absent trusted last lacks
        | rateLimitExceeded | circuitOpen | transient | remoteRejected | protocolError | canceled
        | invalidInput | operationFailed | config => cases absent

/-- The last answer says what it was written to say. -/
theorem Shows.accords {l : Lookup} {events : List Client.Event} {b : Bool}
    (shows : l.Shows events b) : l.Accords events b where
  refusal := by
    intro request status hint frame first later last
    have complaint := Response.firstError?_refusal frame first later status hint
    cases shows with
    | absent trusted last' lacks =>
      cases last.symm.trans last'
      obtain ⟨low, high, stated, code⟩ := lacks
      cases complaint.symm.trans stated
      exact ⟨rfl, trusted, low, high, code⟩
    | held last' decoded read =>
      cases last.symm.trans last'
      cases complaint.symm.trans (firstError?_of_decode decoded)
  listing := by
    rintro domain name recordType request status hint frame owner usesOurDns hosts rfl reported last
    cases shows with
    | absent trusted => cases trusted
    | held last' decoded read =>
      cases last.symm.trans last'
      obtain ⟨envelope, decoded', listed⟩ := Envelope.exists_payload_success frame
        (HostRecord.isPassable_response frame owner usesOurDns hosts)
        (HostRecord.reads_response frame owner usesOurDns reported) (success_of_decode decoded)
      cases decoded.symm.trans decoded'
      cases read.symm.trans listed
      exact HostRecord.any_isAt_iff hosts

section

variable {α : Type} [Quantity α] {s : Settings α}

/-- A lookup answers yes or no after the registrar did: it says no to the word that the item is not
there, and otherwise what the answer that was read says. Every other failure of its command is the
answer itself. The settings are any valid ones; the caller, the breaker, the limiter and the
transport answer as they like. -/
theorem shows_of_runs (hs : s.fault? = none) (draw : Nat → α) (waits : Nat) (l : Lookup)
    {events : List Client.Event} {answer : Except Failure Bool}
    (run : Runs (l.perform (.ofSettings s draw waits)).run events answer) :
    (∀ b, answer = .ok b → l.Shows events b ∧ l.Accords events b) ∧
      ∀ f, Runs (l.ask (.ofSettings s draw waits)).run events (.error f) → f.isNotFound = false →
        answer = .error f := by
  have hpos : 0 < (Client.ofSettings s draw waits).plan.maxAttempts := s.maxAttempts_pos hs
  rw [run_perform] at run
  obtain ⟨before, after, result, rfl, asked, concluded⟩ := runs_andThen_iff.1 run
  obtain ⟨rfl, rfl⟩ := runs_done_iff.1 concluded
  rw [List.append_nil]
  refine ⟨fun b h => ?_, fun f failed other => ?_⟩
  · have shown := shows_of_ask hpos asked h
    exact ⟨shown, shown.accords⟩
  obtain rfl := asked.unique failed
  simp only [conclude, other, Bool.and_false]
  rfl

end

/-! ### Lookups that are answered at once -/

section

variable {c : Client} {l : Lookup} {command : Command} (able : 0 < c.waits)
  (asked : l.command = .ok command)

include able asked

theorem runs_of_held {r : Response} {envelope : Envelope} {v : l.Value}
    (decoded : Envelope.decode r.body r.status = .ok envelope)
    (held : envelope.payload l.fields.reader = .ok v) :
    Runs (l.perform c).run (c.served command r) (.ok (l.tells v)) := by
  rw [run_perform, run_ask_of_ok c l asked]
  refine runs_andThen_iff.2 ⟨_, [], .ok v, (List.append_nil _).symm, ?_, .done _⟩
  exact Client.runs_served able decoded held

theorem runs_of_absent {frame : Envelope.Frame} {first : ProviderError}
    {later : List ProviderError} {hint : Option Duration} (trusted : l.trustsAbsence = true)
    (absent : first.trimmed.code ∈ ["2019166", "2016166"]) :
    Runs (l.perform c).run
      (c.served command ⟨200, frame.refusal (first :: later), hint⟩ .ignored) (.ok false) := by
  have decoded := Envelope.decode_complaints frame first later (by decide : 200 ≤ 200 ∧ 200 < 300)
  have reads : Client.read (·.payload l.fields.reader)
      ⟨200, frame.refusal (first :: later), hint⟩ =
        .error (.notFound first.trimmed.code first.trimmed.message) := by
    rw [Client.read, decoded, ProviderError.classify_of_absent absent]
    rfl
  have concluded : l.conclude (.error (.notFound first.trimmed.code first.trimmed.message)) =
      .ok false := by
    simp [conclude, trusted, Failure.isNotFound]
  rw [run_perform, run_ask_of_ok c l asked]
  refine runs_andThen_iff.2 ⟨_, [], _, (List.append_nil _).symm,
    Client.runs_declined able reads rfl, ?_⟩
  rw [← concluded]
  exact .done _

end

/-- A domain without a subscription is not protected, one that the registrar does not know is not
there, and a record is found in another letter case. -/
theorem shows_after_three_answers :
    let s : Settings ℚ := .new ⟨"user", "key", "user", "10.0.0.1"⟩
    let c : Client := .ofSettings s fun _ => 0
    let d : DomainName := ⟨"example", "com"⟩
    let frame : Envelope.Frame := ⟨.lines, "xml.response", "command", "SERVER-TEST", "0.01"⟩
    let subscriptions := "<ApiResponse Status=\"OK\"><CommandResponse><WhoisguardGetListResult>" ++
      "<Whoisguard ID=\"1\" DomainName=\"example.org\" Status=\"enabled\"/>" ++
      "</WhoisguardGetListResult></CommandResponse></ApiResponse>"
    let privacyEvents := c.served (.new "namecheap.whoisguard.getList") ⟨200, subscriptions, none⟩
    let refusal := frame.refusal [⟨"2019166", "Domain not found"⟩]
    let itemEvents := c.served (.domainInfo d) ⟨200, refusal, none⟩ .ignored
    let web : HostRecord := ⟨none, "WWW", .a, "10.0.0.2", none, none, true⟩
    let listing := frame.success [HostRecord.listing "example.com" "true" [web]]
    let recordEvents := c.served (.getHosts d) ⟨200, listing, none⟩
    s.fault? = none ∧
    (Runs ((privacy "example.com").perform c).run privacyEvents (.ok false) ∧
      (privacy "example.com").Shows privacyEvents false) ∧
    (Runs ((item "example.com").perform c).run itemEvents (.ok false) ∧
      (item "example.com").Shows itemEvents false ∧
      (item "example.com").Accords itemEvents false) ∧
    Runs ((hostRecord "example.com" "www" .a).perform c).run recordEvents (.ok true) ∧
      (hostRecord "example.com" "www" .a).Shows recordEvents true ∧
      (hostRecord "example.com" "www" .a).Accords recordEvents true ∧ web.StandsAt "www" .a := by
  intro s c d frame subscriptions privacyEvents refusal itemEvents web listing recordEvents
  have valid : s.fault? = none := by decide +kernel
  have able : 0 < c.waits := by decide
  have parsed : DomainName.parse "example.com" = .ok d := by decide +kernel
  have privacyRun : Runs ((privacy "example.com").perform c).run privacyEvents (.ok false) := by
    let guard : WhoisGuard := ⟨1, "example.org", "", "", .enabled, none⟩
    have given : ¬Text.isBlankText "example.com" = true := by decide +kernel
    have asked : command (privacy "example.com") = .ok (.new "namecheap.whoisguard.getList") := by
      simp only [command, if_neg given]
    have decoded : Envelope.decode subscriptions 200 = .ok ⟨none, [], subscriptions⟩ := by
      decide +kernel
    have held : Envelope.payload whoisGuardListFields.reader ⟨none, [], subscriptions⟩ =
        .ok [guard] := by decide +kernel
    have unprotected : tells (privacy "example.com") [guard] = false := by decide +kernel
    have run := runs_of_held able asked (r := ⟨200, subscriptions, none⟩) decoded held
    rwa [unprotected] at run
  have itemRun : Runs ((item "example.com").perform c).run itemEvents (.ok false) :=
    runs_of_absent (l := item "example.com") able
      (congrArg (Except.map Command.domainInfo) parsed) rfl (by decide +kernel)
  have stands : web.StandsAt "www" .a := by
    have letter : Text.SameLetter 'W' 'w' := .inr ⟨22, by decide⟩
    refine ⟨?_, rfl⟩
    show List.Forall₂ Text.SameLetter "WWW".toList "www".toList
    exact .cons letter (.cons letter (.cons letter .nil))
  have recordRun :
      Runs ((hostRecord "example.com" "www" .a).perform c).run recordEvents (.ok true) := by
    have asked : command (hostRecord "example.com" "www" .a) = .ok (.getHosts d) :=
      congrArg (Except.map Command.getHosts) parsed
    have reported : ∀ r ∈ [web], r.IsReported := List.forall_mem_singleton.2
      ⟨nofun, nofun, nofun, ⟨"a", by decide +kernel⟩, fun _ => rfl⟩
    have good : 200 ≤ 200 ∧ 200 < 300 := by decide
    obtain ⟨envelope, decoded, held⟩ := Envelope.exists_payload_success frame
      (HostRecord.isPassable_response frame "example.com" "true" [web])
      (HostRecord.reads_response frame "example.com" "true" reported) good
    have found : tells (hostRecord "example.com" "www" .a) [web] = true :=
      List.any_eq_true.2 ⟨web, List.mem_singleton_self web, HostRecord.isAt_iff.2 stands⟩
    have run := runs_of_held able asked (r := ⟨200, listing, none⟩) decoded held
    rwa [found] at run
  obtain ⟨shown, accords⟩ := (shows_of_runs valid _ _ _ recordRun).1 _ rfl
  exact ⟨valid, ⟨privacyRun, ((shows_of_runs valid _ _ _ privacyRun).1 _ rfl).1⟩,
    ⟨itemRun, (shows_of_runs valid _ _ _ itemRun).1 _ rfl⟩, recordRun, shown, accords, stands⟩

end Lookup

end Registrar
