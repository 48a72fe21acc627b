import Registrar.Operations.Certificates
import Registrar.Operations.Domains
import Registrar.Operations.Hosts
import Registrar.Operations.Privacy
import Registrar.Proofs.Operations.Runs
import Registrar.Proofs.Xml.Flag

/-!
# What an operation reports as done

A `Mutation` is an operation that changes something at the registrar, and its `Receipt` says where
the answer to its last command carries the flag that confirms the change. Every mutation `Confirms`
its receipt, which follows its shape: checks and other commands first, then the command whose flag
it demands. Main statement: `Mutation.decides`.
-/

namespace Registrar

open Dialogue Xml

/-- How the registrar acknowledges a command: a result with one of these names, in whose tag a flag
with one of these names says whether it was done. -/
structure Receipt where
  command : String
  results : List String
  flags : List String
  Value : Type
  fields : Fields Value
  isDone : Value → Bool

namespace Receipt

variable (receipt : Receipt) (envelope : Envelope) (tag : Tag)

/-- The payload holds the result, whose tag is this one. -/
def Decodes : Prop :=
  ∃ v, envelope.payload
    (requiredChild receipt.results (tagged receipt.fields.reader)).reader = .ok (tag, v)

/-- The payload holds the result, whose tag is this one, but for the flag, which may be anything. -/
def DecodesBesides : Prop :=
  ∃ v, envelope.payload (requiredChild receipt.results
    (tagged (receipt.fields.without receipt.flags).reader)).reader = .ok (tag, v)

/-- The last exchange of a call answered a request of the receipt's command with this envelope. -/
def Ends (events : List Client.Event) (envelope : Envelope) : Prop :=
  ∃ request r, (Client.traffic events).getLast? = some (request, .answered (.ok r)) ∧
    request.get? "Command" = some receipt.command ∧
    Envelope.decode r.body r.status = .ok envelope

/-- What an answer promises of the flag, and the flag of the answer. -/
structure Decides {β : Type} (events : List Client.Event) (answer : Except Failure β) : Prop where
  /-- Nothing is done without an affirmative flag. -/
  affirmed : ∀ b, answer = .ok b → ∃ envelope tag,
    receipt.Ends events envelope ∧ receipt.Decodes envelope tag ∧ tag.Affirms receipt.flags
  denied : ∀ envelope tag, receipt.Ends events envelope → receipt.DecodesBesides envelope tag →
    tag.Denies receipt.flags → ∃ reason, answer = .error (.operationFailed receipt.command reason)
  unreadable : ∀ envelope tag, receipt.Ends events envelope → receipt.DecodesBesides envelope tag →
    ¬tag.Affirms receipt.flags → ¬tag.Denies receipt.flags →
      ∃ detail, answer = .error (.protocolError detail)

/-- The request is one of another command. -/
def Other (r : Request) : Prop := r.get? "Command" ≠ some receipt.command

/-- The operation demands the receipt, after commands of other names. -/
inductive Confirms (c : Client) : {β : Type} → Operation β → Prop
  | throws {β : Type} (e : Failure) : Confirms c (throw e : Operation β)
  | after {α β : Type} {op : Operation α} {f : α → Operation β} (other : op.Sends receipt.Other)
      (then_ : ∀ a, Confirms c (f a)) : Confirms c (op >>= f)
  | demands {β : Type} {command : Command} {f : receipt.Value → Operation β}
      (name : command.name = receipt.command) (silent : ∀ v, (f v).Silent)
      (refuses : ∀ v, receipt.isDone v = false →
        ∃ reason, f v = throw (.operationFailed receipt.command reason)) :
      Confirms c (c.run command (requiredChild receipt.results receipt.fields.reader) >>= f)

section

variable {receipt envelope tag} {c : Client} {β : Type} {op : Operation β}
  {before after events : List Client.Event} {answer : Except Failure β} {e : Failure}

theorem ends_append_iff (other : ∀ x ∈ Client.traffic before, receipt.Other x.1) :
    receipt.Ends (before ++ after) envelope ↔ receipt.Ends after envelope := by
  unfold Ends
  rw [Client.traffic_append, List.getLast?_append]
  cases Client.traffic after |>.getLast? with
  | some last => rfl
  | none =>
    constructor
    · rintro ⟨request, r, last, command, -⟩
      exact absurd command (other _ (List.mem_of_getLast? last))
    · rintro ⟨request, r, last, -⟩
      cases last

theorem ends_append_of_silent (silent : Client.traffic after = []) :
    receipt.Ends (before ++ after) envelope ↔ receipt.Ends before envelope := by
  unfold Ends
  rw [Client.traffic_append, silent, List.append_nil]

theorem decides_of_other (other : ∀ x ∈ Client.traffic events, receipt.Other x.1) :
    receipt.Decides events (.error e : Except Failure β) := by
  have never (envelope : Envelope) : ¬receipt.Ends events envelope := by
    rintro ⟨request, r, last, command, -⟩
    exact other _ (List.mem_of_getLast? last) command
  exact ⟨nofun, fun envelope _ h => (never envelope h).elim,
    fun envelope _ h => (never envelope h).elim⟩

theorem Decides.prepend (other : ∀ x ∈ Client.traffic before, receipt.Other x.1)
    (h : receipt.Decides after answer) : receipt.Decides (before ++ after) answer := by
  refine ⟨fun b hb => ?_, fun envelope tag ends => ?_, fun envelope tag ends => ?_⟩
  · obtain ⟨envelope, tag, ends, rest⟩ := h.affirmed b hb
    exact ⟨envelope, tag, (ends_append_iff other).2 ends, rest⟩
  · exact h.denied envelope tag ((ends_append_iff other).1 ends)
  · exact h.unreadable envelope tag ((ends_append_iff other).1 ends)

/-- What the command of the receipt answers, if its last answer is decoded but for the flag. -/
theorem answer_of_ends {n : Nat} {answer : Except Failure receipt.Value}
    (flagged : receipt.fields.Tells receipt.flags receipt.isDone)
    (tells : Tells n
      (·.payload (requiredChild receipt.results receipt.fields.reader).reader) events answer)
    (ends : receipt.Ends events envelope) (decodes : receipt.DecodesBesides envelope tag) :
    (∃ v, answer = .ok v ∧ (receipt.isDone v = true ∧ tag.Affirms receipt.flags ∨
        receipt.isDone v = false ∧ tag.Denies receipt.flags)) ∨
      (∃ detail, answer = .error (.protocolError detail)) ∧
        ¬tag.Affirms receipt.flags ∧ ¬tag.Denies receipt.flags := by
  obtain ⟨request, r, last, -, decoded⟩ := ends
  obtain ⟨w, decodes⟩ := decodes
  have last : (Client.exchanges events).getLast? = some (.answered (.ok r)) := by
    rw [Client.exchanges_eq_map_traffic, List.getLast?_map, last]
    rfl
  rcases answer_of_last tells last decoded with ⟨v, hv, rfl⟩ | ⟨detail, hd, rfl⟩
  · rcases payload_of_without flagged decodes with ⟨v', hv', flag⟩ | ⟨⟨detail, hd⟩, -⟩
    · cases hv.symm.trans hv'
      exact .inl ⟨v, rfl, flag⟩
    · cases hv.symm.trans hd
  · rcases payload_of_without flagged decodes with ⟨v', hv', -⟩ | ⟨-, unreadable⟩
    · cases hd.symm.trans hv'
    · exact .inr ⟨⟨detail, rfl⟩, unreadable⟩

/-- The command of the receipt fails. -/
theorem decides_of_failure {n : Nat}
    (flagged : receipt.fields.Tells receipt.flags receipt.isDone)
    (tells : Tells n (·.payload (requiredChild receipt.results receipt.fields.reader).reader)
      events (.error e)) : receipt.Decides events (.error e : Except Failure β) := by
  refine ⟨nofun, fun envelope tag ends decodes denies => ?_,
    fun envelope tag ends decodes _ _ => ?_⟩
  · rcases answer_of_ends flagged tells ends decodes with ⟨v, hv, -⟩ | ⟨-, -, h⟩
    · cases hv
    · exact (h denies).elim
  · rcases answer_of_ends flagged tells ends decodes with ⟨v, hv, -⟩ | ⟨⟨detail, hd⟩, -⟩
    · cases hv
    · cases hd
      exact ⟨detail, rfl⟩

/-- The command of the receipt and what follows it. -/
theorem decides_of_demands {command : Command} {f : receipt.Value → Operation β}
    (flagged : receipt.fields.Tells receipt.flags receipt.isDone) (hpos : 0 < c.plan.maxAttempts)
    (name : command.name = receipt.command) (silent : ∀ v, (f v).Silent)
    (refuses : ∀ v, receipt.isDone v = false →
      ∃ reason, f v = throw (.operationFailed receipt.command reason))
    (run : Runs (c.run command (requiredChild receipt.results receipt.fields.reader) >>= f).run
      events answer) : receipt.Decides events answer := by
  rcases Operation.runs_bind_iff.1 run with ⟨e, rfl, asked⟩ | ⟨before, after, v, rfl, asked, rest⟩
  · exact decides_of_failure flagged (tells_of_runs hpos (readsOnly_payload _) asked)
  · have tells := tells_of_runs hpos (readsOnly_payload _) asked
    have quiet := (silent v).of_runs rest
    have flag {envelope : Envelope} {tag : Tag} (ends : receipt.Ends (before ++ after) envelope)
        (decodes : receipt.DecodesBesides envelope tag) :
        receipt.isDone v = true ∧ tag.Affirms receipt.flags ∨
          receipt.isDone v = false ∧ tag.Denies receipt.flags := by
      rw [ends_append_of_silent quiet] at ends
      rcases answer_of_ends flagged tells ends decodes with ⟨v', hv, flag⟩ | ⟨⟨detail, hd⟩, -⟩
      · cases hv
        exact flag
      · cases hd
    refine ⟨fun b hb => ?_, fun envelope tag ends decodes denies => ?_,
      fun envelope tag ends decodes affirms denies => ?_⟩
    · subst hb
      cases undone : receipt.isDone v with
      | false =>
        obtain ⟨reason, hf⟩ := refuses v undone
        rw [hf] at rest
        cases (Operation.runs_throw_iff.1 rest).2
      | true =>
        obtain ⟨request, r, envelope, last, decoded, hv⟩ := last_of_tells tells
        obtain ⟨tag, decodes, affirms⟩ := payload_tagged flagged hv
        obtain rfl : request = .ofCommand command c.credentials c.endpoint :=
          (Operation.sends_run c command _).of_runs asked _ (List.mem_of_getLast? last)
        refine ⟨envelope, tag, (ends_append_of_silent quiet).2 ⟨_, r, last, ?_, decoded⟩,
          ⟨v, decodes⟩, affirms undone⟩
        rw [Request.get?_command, name]
    · rcases flag ends decodes with ⟨-, affirms⟩ | ⟨undone, -⟩
      · exact (not_denies_of_affirms affirms denies).elim
      · obtain ⟨reason, hf⟩ := refuses v undone
        rw [hf] at rest
        exact ⟨reason, (Operation.runs_throw_iff.1 rest).2⟩
    · rcases flag ends decodes with ⟨-, h⟩ | ⟨-, h⟩
      · exact (affirms h).elim
      · exact (denies h).elim

theorem decides_of_confirms (flagged : receipt.fields.Tells receipt.flags receipt.isDone)
    (hpos : 0 < c.plan.maxAttempts) (h : receipt.Confirms c op)
    (run : Runs op.run events answer) : receipt.Decides events answer := by
  induction h generalizing events with
  | throws e =>
    obtain ⟨rfl, rfl⟩ := Operation.runs_throw_iff.1 run
    exact decides_of_other nofun
  | after other _ ih =>
    rcases Operation.runs_bind_iff.1 run with ⟨e, rfl, first⟩ | ⟨before, after, a, rfl, first, rest⟩
    · exact decides_of_other (other.of_runs first)
    · exact (ih a rest).prepend (other.of_runs first)
  | demands name silent refuses => exact decides_of_demands flagged hpos name silent refuses run

end

end Receipt

/-! ## The operations that change something -/

inductive Mutation : Type → Type
  | createDomain (name : String) (years : Nat) : Mutation DomainRegistration
  | createDomainWith (name : String) (years : Nat) (extra : List (String × String)) :
      Mutation DomainRegistration
  | renewDomain (name : String) (years : Nat) : Mutation DomainRenewal
  | setNameservers (name : String) (servers : List String) : Mutation Unit
  | setDefaultDns (name : String) : Mutation Unit
  | setHostRecords (domain : String) (records : List HostRecord) : Mutation Unit
  | createHostRecord (domain : String) (record : HostRecord) : Mutation Unit
  | updateHostRecord (domain : String) (record : HostRecord) : Mutation Unit
  | deleteHostRecord (domain name : String) (recordType : RecordType) : Mutation Unit
  | createCertificate (type : String) (years : Nat) (names : Option Nat) :
      Mutation CertificateOrder
  | activateCertificate (r : ActivationRequest) : Mutation Unit
  | resendApprovalEmail (id : Nat) : Mutation Unit
  | reissueCertificate (id : Nat) (csr approverEmail : String) : Mutation Unit
  | enableWhoisGuard (id : Nat) (domain : String) (forwardTo : Option String) : Mutation Unit
  | disableWhoisGuard (id : Nat) (domain : String) : Mutation Unit
  | renewWhoisGuard (id years : Nat) : Mutation WhoisGuardRenewal

namespace Mutation

variable {β : Type}

def perform (c : Client) : Mutation β → Operation β
  | createDomain name years => c.createDomain name years
  | createDomainWith name years extra => c.createDomainWith name years extra
  | renewDomain name years => c.renewDomain name years
  | setNameservers name servers => c.setNameservers name servers
  | setDefaultDns name => c.setDefaultDns name
  | setHostRecords domain records => c.setHostRecords domain records
  | createHostRecord domain record => c.createHostRecord domain record
  | updateHostRecord domain record => c.updateHostRecord domain record
  | deleteHostRecord domain name recordType => c.deleteHostRecord domain name recordType
  | createCertificate type years names => c.createCertificate type years names
  | activateCertificate r => c.activateCertificate r
  | resendApprovalEmail id => c.resendApprovalEmail id
  | reissueCertificate id csr approverEmail => c.reissueCertificate id csr approverEmail
  | enableWhoisGuard id domain forwardTo => c.enableWhoisGuard id domain forwardTo
  | disableWhoisGuard id domain => c.disableWhoisGuard id domain
  | renewWhoisGuard id years => c.renewWhoisGuard id years

end Mutation

namespace Receipt

/-- A result that holds nothing but its flag. -/
def bare (command : String) (results flags : List String) : Receipt :=
  ⟨command, results, flags, Bool, Wire.flagOr false flags, id⟩

def registration : Receipt :=
  ⟨"namecheap.domains.create", ["DomainCreateResult"], ["Registered"], DomainRegistration,
    DomainRegistration.fields, DomainRegistration.registered⟩

def renewal : Receipt :=
  ⟨"namecheap.domains.renew", ["DomainRenewResult"], ["Renew"], DomainRenewal,
    DomainRenewal.fields, DomainRenewal.renewed⟩

def hosts : Receipt :=
  bare "namecheap.domains.dns.setHosts" ["DomainDNSSetHostsResult"] ["IsSuccess"]

def purchase : Receipt :=
  ⟨"namecheap.ssl.create", ["SSLCreateResult"], ["IsSuccess"], Purchase, Purchase.fields,
    Purchase.isDone⟩

def privacyRenewal : Receipt :=
  ⟨"namecheap.whoisguard.renew", ["WhoisguardRenewResult"], ["Renew"], WhoisGuardRenewal,
    WhoisGuardRenewal.fields, WhoisGuardRenewal.renewed⟩

end Receipt

namespace Mutation

variable {β : Type}

/-- How the registrar acknowledges the last command of the operation. -/
def receipt : Mutation β → Receipt
  | createDomain .. | createDomainWith .. => .registration
  | renewDomain .. => .renewal
  | setNameservers .. =>
    .bare "namecheap.domains.dns.setCustom" ["DomainDNSSetCustomResult"] ["Updated", "Update"]
  | setDefaultDns .. =>
    .bare "namecheap.domains.dns.setDefault" ["DomainDNSSetDefaultResult"] ["Updated", "Update"]
  | setHostRecords .. | createHostRecord .. | updateHostRecord .. | deleteHostRecord .. => .hosts
  | createCertificate .. => .purchase
  | activateCertificate .. => .bare "namecheap.ssl.activate" ["SSLActivateResult"] ["IsSuccess"]
  | resendApprovalEmail .. =>
    .bare "namecheap.ssl.resendApproverEmail" ["SSLResendApproverEmailResult", "SSLResendResult"]
      ["IsSuccess"]
  | reissueCertificate .. => .bare "namecheap.ssl.reissue" ["SSLReissueResult"] ["IsSuccess"]
  | enableWhoisGuard .. =>
    .bare "namecheap.whoisguard.enable" ["WhoisguardEnableResult"] ["IsSuccess"]
  | disableWhoisGuard .. =>
    .bare "namecheap.whoisguard.disable" ["WhoisguardDisableResult"] ["IsSuccess"]
  | renewWhoisGuard .. => .privacyRenewal

end Mutation

/-! ## Every result says by its flag whether it was done -/

section

open Wire Fields

variable {names others : List String} {γ : Type}

theorem blind_requiredAttribute {value : Value γ} (distinct : ∀ name ∈ names, name ∉ others) :
    (requiredAttribute others value).Blind names :=
  (blind_optionalAttribute distinct).required _

theorem blind_identifierOr (distinct : ∀ name ∈ names, name ∉ others) :
    (identifierOr others).Blind names :=
  (blind_optionalAttribute distinct).orElse 0

theorem tells_registration :
    DomainRegistration.fields.Tells ["Registered"] DomainRegistration.registered := by
  have first : (requiredAttribute ["Domain"] plainText).Blind ["Registered"] :=
    blind_requiredAttribute (by decide)
  unfold DomainRegistration.fields
  refine .seq (.seq (.seq (.seq (.seq (.seq ?_ _) _) _) _) _) _
  exact (first.map _).flagged (yields_map fun domain => by intros; rfl)

theorem tells_renewal : DomainRenewal.fields.Tells ["Renew"] DomainRenewal.renewed := by
  have first : (requiredAttribute ["DomainName"] plainText).Blind ["Renew"] :=
    blind_requiredAttribute (by decide)
  have second : (identifierOr ["DomainID"]).Blind ["Renew"] := blind_identifierOr (by decide)
  unfold DomainRenewal.fields
  refine .seq (.seq (.seq (.seq ?_ _) _) _) _
  exact ((first.map _).seq second).flagged (.seq (yields_map fun domain => by intros; rfl))

theorem tells_purchase : Purchase.fields.Tells ["IsSuccess"] Purchase.isDone := by
  unfold Purchase.fields
  refine .seq (.seq (.seq (.seq (.seq (.map _ ?_) _) _) _) _) _
  exact flagged_flagOr (by intros; rfl)

theorem tells_privacyRenewal :
    WhoisGuardRenewal.fields.Tells ["Renew"] WhoisGuardRenewal.renewed := by
  have first : (identifierOr ["WhoisguardID", "WhoisguardId"]).Blind ["Renew"] :=
    blind_identifierOr (by decide)
  unfold WhoisGuardRenewal.fields
  refine .seq (.seq (.seq ?_ _) _) _
  exact (first.map _).flagged (yields_map fun id => by intros; rfl)

theorem tells_bare (command : String) (results flags : List String) :
    (Receipt.bare command results flags).fields.Tells flags id :=
  flagged_flagOr fun _ => rfl

end

theorem Mutation.tells {β : Type} (m : Mutation β) :
    m.receipt.fields.Tells m.receipt.flags m.receipt.isDone := by
  cases m with
  | createDomain | createDomainWith => exact tells_registration
  | renewDomain => exact tells_renewal
  | createCertificate => exact tells_purchase
  | renewWhoisGuard => exact tells_privacyRenewal
  | _ => exact tells_bare ..

/-! ## Every operation demands its receipt -/

namespace Receipt

variable {receipt : Receipt} {c : Client} {α β : Type}

/-- A check before anything is sent. -/
theorem Confirms.check {op : Operation α} {f : α → Operation β} (silent : op.Silent)
    (then_ : ∀ a, receipt.Confirms c (f a)) : receipt.Confirms c (op >>= f) :=
  .after silent.sends then_

/-- The last command, whose flag is demanded before anything else. -/
theorem Confirms.last {command : Command} {reason : String} {f : receipt.Value → Operation β}
    (name : command.name = receipt.command) (silent : ∀ v, (f v).Silent) :
    receipt.Confirms c
      (c.run command (requiredChild receipt.results receipt.fields.reader) >>= fun v =>
        Client.requireDone command (receipt.isDone v) reason >>= fun _ => f v) := by
  refine .demands name (fun v => ?_) fun v undone => ⟨reason, ?_⟩
  · exact (Operation.silent_requireDone ..).bind fun _ => silent v
  · rw [undone, ← name]
    rfl

/-- The same of an operation that ends there. -/
theorem Confirms.end_ {command : Command} {reason : String}
    (name : command.name = receipt.command) :
    receipt.Confirms c
      (c.run command (requiredChild receipt.results receipt.fields.reader) >>= fun v =>
        Client.requireDone command (receipt.isDone v) reason) := by
  refine .demands name (fun v => ?_) fun v undone => ⟨reason, ?_⟩
  · exact Operation.silent_requireDone ..
  · rw [undone, ← name]
    rfl

end Receipt

section

open Receipt Operation

variable (c : Client)

theorem confirms_createDomainWith (name : String) (years : Nat) (extra : List (String × String)) :
    Receipt.registration.Confirms c (c.createDomainWith name years extra) := by
  refine .check (silent_mk_pure _) fun domain => .check (silent_requirePositive _ _) fun _ => ?_
  exact .last (Command.name_setAll ..) fun _ => silent_pure _

theorem confirms_setHostRecords (domain : String) (records : List HostRecord) :
    Receipt.hosts.Confirms c (c.setHostRecords domain records) := by
  refine .check (silent_mk_pure _) fun domain => ?_
  cases h : Command.setHosts domain records with
  | error fault =>
    exact .throws _
  | ok command =>
    exact .end_ (Command.name_of_setHosts h)

/-- A change of a single record reads the host set first. -/
theorem confirms_getHostRecords {β : Type} (domain : String) {f : List HostRecord → Operation β}
    (then_ : ∀ records, Receipt.hosts.Confirms c (f records)) :
    Receipt.hosts.Confirms c (c.getHostRecords domain >>= f) := by
  refine .after ?_ then_
  refine .bind (silent_mk_pure _).sends fun domain => (sends_run ..).mono ?_
  rintro _ rfl
  have name : (Command.getHosts domain).name = "namecheap.domains.dns.getHosts" := rfl
  rw [Receipt.Other, Request.get?_command, name]
  decide

theorem confirms_createCertificate (type : String) (years : Nat) (names : Option Nat) :
    Receipt.purchase.Confirms c (c.createCertificate type years names) := by
  refine .check (silent_requireNonEmpty _ _) fun _ => ?_
  refine .check (silent_requirePositive _ _) fun _ => ?_
  refine .last (Command.name_setSome ..) fun done => ?_
  cases done.certificateId <;> trivial

theorem confirms_activateCertificate (r : ActivationRequest) :
    (Mutation.activateCertificate r).receipt.Confirms c (c.activateCertificate r) := by
  have name : (Command.activateCertificate r).name = "namecheap.ssl.activate" := by
    simp [Command.activateCertificate, Command.onCertificate, Command.new]
  refine .check (silent_requireNonEmpty _ _) fun _ => ?_
  dsimp only
  split
  · exact .check (silent_requireNonEmpty _ _) fun _ => .end_ name
  · exact .end_ name

theorem Mutation.confirms {β : Type} (m : Mutation β) : m.receipt.Confirms c (m.perform c) := by
  cases m with
  | createDomain name years => exact confirms_createDomainWith c name years []
  | createDomainWith name years extra => exact confirms_createDomainWith c name years extra
  | renewDomain name years =>
    refine .check (silent_mk_pure _) fun domain => .check (silent_requirePositive _ _) fun _ => ?_
    exact .last rfl fun _ => silent_pure _
  | setNameservers name servers =>
    refine .check (silent_mk_pure _) fun domain => .check (silent_mk_pure _) fun servers => ?_
    exact .end_ rfl
  | setDefaultDns name => exact .check (silent_mk_pure _) fun domain => .end_ rfl
  | setHostRecords domain records => exact confirms_setHostRecords c domain records
  | createHostRecord domain record =>
    refine confirms_getHostRecords c domain fun records => ?_
    split
    · exact .throws _
    · exact confirms_setHostRecords c domain _
  | updateHostRecord domain record =>
    refine confirms_getHostRecords c domain fun records => ?_
    split
    · exact confirms_setHostRecords c domain _
    · exact .throws _
  | deleteHostRecord domain name recordType =>
    refine confirms_getHostRecords c domain fun records => ?_
    split
    · exact confirms_setHostRecords c domain _
    · exact .throws _
  | createCertificate type years names => exact confirms_createCertificate c type years names
  | activateCertificate r => exact confirms_activateCertificate c r
  | resendApprovalEmail id => exact .end_ rfl
  | reissueCertificate id csr approverEmail =>
    refine .check (silent_requireNonEmpty _ _) fun _ => ?_
    exact .check (silent_requireNonEmpty _ _) fun _ => .end_ rfl
  | enableWhoisGuard id domain forwardTo =>
    exact .check (silent_requireNonEmpty _ _) fun _ => .end_ (Command.name_setSome ..)
  | disableWhoisGuard id domain => exact .check (silent_requireNonEmpty _ _) fun _ => .end_ rfl
  | renewWhoisGuard id years =>
    exact .check (silent_requirePositive _ _) fun _ => .last rfl fun _ => silent_pure _

end

section

variable {α : Type} [Quantity α] {s : Settings α}

/-- No operation reports a change before the registrar has confirmed it: the result in the last
answer carries an affirmative flag, of the spellings that the registrar has. A flag that is missing,
empty or negative is a failure of the last command, and one that cannot be read is a fault of the
answer. The settings are any valid ones; the caller, the breaker, the limiter and the transport
answer as they like. -/
theorem Mutation.decides {β : Type} (hs : s.fault? = none) (draw : Nat → α) (waits : Nat)
    (m : Mutation β) {events : List Client.Event} {answer : Except Failure β}
    (run : Runs (m.perform (.ofSettings s draw waits)).run events answer) :
    m.receipt.Decides events answer := by
  have hpos : 0 < (Client.ofSettings s draw waits).plan.maxAttempts := s.maxAttempts_pos hs
  exact Receipt.decides_of_confirms m.tells hpos (m.confirms (.ofSettings s draw waits)) run

end

/-- The registrar answers with a result that does not say whether anything was done. -/
theorem Mutation.decides_without_flag :
    let s : Settings ℚ := .new ⟨"user", "key", "user", "10.0.0.1"⟩
    let c : Client := .ofSettings s fun _ => 0
    let m : Mutation Unit := .setDefaultDns "example.com"
    let body := "<ApiResponse Status=\"OK\"><CommandResponse>" ++
      "<DomainDNSSetDefaultResult Domain=\"example.com\"/></CommandResponse></ApiResponse>"
    let events := c.served (.setDefaultDns ⟨"example", "com"⟩) ⟨200, body, none⟩
    let envelope : Envelope := ⟨none, [], body⟩
    let tag : Tag := ⟨"DomainDNSSetDefaultResult".toList, " Domain=\"example.com\"".toList⟩
    let answer : Except Failure Unit :=
      .error (.operationFailed "namecheap.domains.dns.setDefault" "DNS of example.com not reset")
    s.fault? = none ∧ Runs (m.perform c).run events answer ∧ m.receipt.Decides events answer ∧
      m.receipt.Ends events envelope ∧ m.receipt.DecodesBesides envelope tag ∧
      tag.Denies m.receipt.flags := by
  intro s c m body events envelope tag answer
  have valid : s.fault? = none := by decide +kernel
  have decoded : Envelope.decode body 200 = .ok envelope := by decide +kernel
  have held : envelope.payload
      (requiredChild ["DomainDNSSetDefaultResult"] updatedFields.reader).reader = .ok false := by
    decide +kernel
  have besides : envelope.payload (requiredChild ["DomainDNSSetDefaultResult"]
      (tagged (updatedFields.without ["Updated", "Update"]).reader)).reader = .ok (tag, false) := by
    decide +kernel
  have denies : tag.Denies ["Updated", "Update"] := .inl (by decide +kernel)
  have parsed : DomainName.parse "example.com" = .ok ⟨"example", "com"⟩ := by decide +kernel
  have run : Runs (m.perform c).run events answer := by
    refine Operation.runs_bind_iff.2 (.inr ⟨[], events, ⟨"example", "com"⟩, rfl, ?_, ?_⟩)
    · exact runs_done_iff.2 ⟨rfl, parsed.symm⟩
    refine Operation.runs_bind_iff.2 (.inr ⟨events, [], false, (List.append_nil _).symm, ?_, ?_⟩)
    · exact Client.runs_served (by decide) decoded held
    · exact Operation.runs_throw_iff.2 ⟨rfl, rfl⟩
  exact ⟨valid, run, Mutation.decides valid _ _ m run, ⟨_, _, rfl, rfl, decoded⟩, ⟨false, besides⟩,
    denies⟩

end Registrar
