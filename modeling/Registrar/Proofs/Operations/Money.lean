import Registrar.Proofs.Operations.Bills
import Registrar.Proofs.Operations.Runs
import Registrar.Proofs.Wire.Parameters

/-!
# What operations report of money

A `Billing` is an operation whose answer carries amounts of money. It checks what it was given,
sends one command and reports the amounts of its `Bill` (`Demands`); so its answer is settled by the
texts of these amounts. What a text says is taken over as it is: an amount is finite as long as its
text is `Bounded`, and infinity by its name is an amount as well, which no number exceeds.

Main statement: `Billing.settles`.
-/

namespace Registrar

open Dialogue Double Wire Xml

namespace Bill

variable (bill : Bill)

/-- The last exchange of a call answered a request of the bill's command with this envelope. -/
def Ends (events : List Client.Event) (envelope : Envelope) : Prop :=
  ∃ request r, (Client.traffic events).getLast? = some (request, .answered (.ok r)) ∧
    request.get? "Command" = some bill.command ∧
    Envelope.decode r.body r.status = .ok envelope

/-- The payload holds the result, whose amounts have these texts, whatever they say. -/
def Decodes (envelope : Envelope) (texts : List (Option String)) : Prop :=
  envelope.payload (requiredChild bill.results bill.texts.reader).reader = .ok texts

variable {β : Type} (Reports : List (Option String) → List Float → β → Prop)
  (Withholds : Failure → Prop)

/-- How an operation is settled by the texts of the amounts in its last answer. -/
structure Settles (events : List Client.Event) (answer : Except Failure β) : Prop where
  /-- What is reported is what these texts say, one by one. -/
  reported : ∀ b, answer = .ok b → ∃ envelope texts amounts,
    bill.Ends events envelope ∧ bill.Decodes envelope texts ∧
      List.Forall₂ Says texts amounts ∧
      ((∀ x ∈ amounts, x.isFinite = true) ↔ ∀ t ∈ texts, Bounded t) ∧ Reports texts amounts b
  legible : ∀ envelope texts, bill.Ends events envelope → bill.Decodes envelope texts →
    (∀ t ∈ texts, ¬Illegible t) → (∃ b, answer = .ok b) ∨ ∃ e, answer = .error e ∧ Withholds e
  illegible : ∀ envelope texts, bill.Ends events envelope → bill.Decodes envelope texts →
    (∃ t ∈ texts, Illegible t) → ∃ detail, answer = .error (.protocolError detail)

/-- With this result an operation reports its amounts, or withholds them. -/
def Concludes (v : bill.Value) (op : Operation β) : Prop :=
  (∃ b, op = pure b ∧ ∀ texts, List.Forall₂ Says texts (bill.amounts v) →
    Reports texts (bill.amounts v) b) ∨ ∃ e, op = throw e ∧ Withholds e

/-- The operation sends nothing but the command of the bill, and concludes from the result. -/
inductive Demands (c : Client) : Operation β → Prop
  | throws (e : Failure) : Demands c (throw e)
  | check {α : Type} {op : Operation α} {f : α → Operation β} (silent : op.Silent)
      (then_ : ∀ a, Demands c (f a)) : Demands c (op >>= f)
  | asks {command : Command} {f : bill.Value → Operation β} (name : command.name = bill.command)
      (concludes : ∀ v, bill.Concludes Reports Withholds v (f v)) :
      Demands c (c.run command (requiredChild bill.results bill.fields.reader) >>= f)

section

variable {bill Reports Withholds} {c : Client} {op : Operation β}
  {events before after : List Client.Event} {answer : Except Failure β} {envelope : Envelope}
  {texts : List (Option String)} {amounts : List Float}

theorem isFinite_iff_bounded (told : List.Forall₂ Says texts amounts) :
    (∀ x ∈ amounts, x.isFinite = true) ↔ ∀ t ∈ texts, Bounded t := by
  induction told with
  | nil => exact iff_of_true nofun nofun
  | cons h _ ih => rw [List.forall_mem_cons, List.forall_mem_cons, h.isFinite_iff, ih]

theorem not_illegible (told : List.Forall₂ Says texts amounts) : ∀ t ∈ texts, ¬Illegible t := by
  induction told with
  | nil => exact nofun
  | cons h _ ih => exact List.forall_mem_cons.2 ⟨fun illegible => illegible _ h, ih⟩

/-- Where the result can be read, its texts can be, and they say its amounts. -/
theorem decodes_of_payload {v : bill.Value} (h : envelope.payload
    (requiredChild bill.results bill.fields.reader).reader = .ok v) :
    ∃ texts, bill.Decodes envelope texts ∧ List.Forall₂ Says texts (bill.amounts v) := by
  rcases Envelope.payload_of_simulates
    (simulates_requiredChild bill.mirrored.reader.simulated) h with
    ⟨_, decodes, _, ⟨⟩, each⟩ | ⟨-, _, ⟨⟩, -⟩
  exact ⟨_, decodes, each⟩

/-- The result can be read if and only if there is no text in it that says nothing. -/
theorem exists_payload_iff (decodes : bill.Decodes envelope texts) :
    (∃ v, envelope.payload (requiredChild bill.results bill.fields.reader).reader = .ok v) ↔
      ∀ t ∈ texts, ¬Illegible t := by
  constructor
  · rintro ⟨v, h⟩
    obtain ⟨texts', decodes', told⟩ := decodes_of_payload h
    cases decodes.symm.trans decodes'
    exact not_illegible told
  · intro legible
    rcases Envelope.payload_of_simulates
      (simulates_requiredChild bill.mirrored.reader.simulates) decodes with
      ⟨v, h, -⟩ | ⟨-, t, mem, illegible⟩
    · exact ⟨v, h⟩
    · exact absurd illegible (legible t mem)

theorem ends_append_iff (silent : Client.traffic before = []) :
    bill.Ends (before ++ after) envelope ↔ bill.Ends after envelope := by
  rw [Ends, Client.traffic_append, silent, List.nil_append, Ends]

theorem settles_of_silent {e : Failure} (silent : Client.traffic events = []) :
    bill.Settles Reports Withholds events (.error e : Except Failure β) := by
  have never (envelope : Envelope) : ¬bill.Ends events envelope := by
    rintro ⟨request, r, last, -⟩
    rw [silent] at last
    cases last
  exact ⟨nofun, fun envelope _ h => (never envelope h).elim,
    fun envelope _ h => (never envelope h).elim⟩

theorem Settles.prepend (silent : Client.traffic before = [])
    (h : bill.Settles Reports Withholds after answer) :
    bill.Settles Reports Withholds (before ++ after) answer := by
  refine ⟨fun b hb => ?_, fun envelope texts ends => ?_, fun envelope texts ends => ?_⟩
  · obtain ⟨envelope, texts, amounts, ends, rest⟩ := h.reported b hb
    exact ⟨envelope, texts, amounts, (ends_append_iff silent).2 ends, rest⟩
  · exact h.legible envelope texts ((ends_append_iff silent).1 ends)
  · exact h.illegible envelope texts ((ends_append_iff silent).1 ends)

/-- What the command of the bill answers, if the result in its last answer has these texts. -/
theorem answer_of_ends {n : Nat} {answer : Except Failure bill.Value}
    (tells : Tells n (·.payload (requiredChild bill.results bill.fields.reader).reader) events
      answer) (ends : bill.Ends events envelope) (decodes : bill.Decodes envelope texts) :
    (∃ v, answer = .ok v) ∧ (∀ t ∈ texts, ¬Illegible t) ∨
      (∃ detail, answer = .error (.protocolError detail)) ∧ ∃ t ∈ texts, Illegible t := by
  obtain ⟨request, r, last, -, decoded⟩ := ends
  have last : (Client.exchanges events).getLast? = some (.answered (.ok r)) := by
    rw [Client.exchanges_eq_map_traffic, List.getLast?_map, last]
    rfl
  rcases answer_of_last tells last decoded with ⟨v, hv, rfl⟩ | ⟨detail, hd, rfl⟩
  · exact .inl ⟨⟨v, rfl⟩, (exists_payload_iff decodes).1 ⟨v, hv⟩⟩
  · refine .inr ⟨⟨detail, rfl⟩, ?_⟩
    by_contra! legible
    obtain ⟨v, hv⟩ := (exists_payload_iff decodes).2 legible
    cases hd.symm.trans hv

/-- The command of the bill fails. -/
theorem settles_of_failure {n : Nat} {e : Failure}
    (tells : Tells n (·.payload (requiredChild bill.results bill.fields.reader).reader) events
      (.error e)) : bill.Settles Reports Withholds events (.error e : Except Failure β) := by
  refine ⟨nofun, fun envelope texts ends decodes legible => ?_,
    fun envelope texts ends decodes illegible => ?_⟩
  · rcases answer_of_ends tells ends decodes with ⟨⟨v, ⟨⟩⟩, -⟩ | ⟨-, t, mem, illegible⟩
    exact absurd illegible (legible t mem)
  · rcases answer_of_ends tells ends decodes with ⟨⟨v, ⟨⟩⟩, -⟩ | ⟨⟨detail, ⟨⟩⟩, -⟩
    exact ⟨detail, rfl⟩

/-- The command of the bill and what follows it. -/
theorem settles_of_asks {command : Command} {f : bill.Value → Operation β}
    (hpos : 0 < c.plan.maxAttempts) (name : command.name = bill.command)
    (concludes : ∀ v, bill.Concludes Reports Withholds v (f v))
    (run : Runs (c.run command (requiredChild bill.results bill.fields.reader) >>= f).run
      events answer) : bill.Settles Reports Withholds events answer := by
  rcases Operation.runs_bind_iff.1 run with ⟨e, rfl, asked⟩ | ⟨before, after, v, rfl, asked, rest⟩
  · exact settles_of_failure (tells_of_runs hpos (readsOnly_payload _) asked)
  · have tells := tells_of_runs hpos (readsOnly_payload _) asked
    have legible {envelope : Envelope} {texts : List (Option String)}
        (ends : bill.Ends before envelope) (decodes : bill.Decodes envelope texts) :
        ¬∃ t ∈ texts, Illegible t := by
      rcases answer_of_ends tells ends decodes with ⟨-, legible⟩ | ⟨⟨detail, ⟨⟩⟩, -⟩
      exact fun ⟨t, mem, illegible⟩ => legible t mem illegible
    rcases concludes v with ⟨b, hf, reports⟩ | ⟨e, hf, withholds⟩
    · rw [hf] at rest
      obtain ⟨rfl, rfl⟩ := Operation.runs_pure_iff.1 rest
      rw [List.append_nil]
      refine ⟨?_, fun _ _ _ _ _ => .inl ⟨b, rfl⟩, fun envelope texts ends decodes illegible =>
        absurd illegible (legible ends decodes)⟩
      rintro _ ⟨⟩
      obtain ⟨request, r, envelope, last, decoded, hv⟩ := last_of_tells tells
      obtain ⟨texts, decodes, told⟩ := decodes_of_payload hv
      obtain rfl : request = .ofCommand command c.credentials c.endpoint :=
        (Operation.sends_run c command _).of_runs asked _ (List.mem_of_getLast? last)
      refine ⟨envelope, texts, bill.amounts v, ⟨_, r, last, ?_, decoded⟩, decodes, told,
        isFinite_iff_bounded told, reports texts told⟩
      rw [Request.get?_command, name]
    · rw [hf] at rest
      obtain ⟨rfl, rfl⟩ := Operation.runs_throw_iff.1 rest
      rw [List.append_nil]
      exact ⟨nofun, fun _ _ _ _ _ => .inr ⟨e, rfl, withholds⟩,
        fun envelope texts ends decodes illegible => absurd illegible (legible ends decodes)⟩

theorem settles_of_demands (hpos : 0 < c.plan.maxAttempts)
    (h : bill.Demands Reports Withholds c op) (run : Runs op.run events answer) :
    bill.Settles Reports Withholds events answer := by
  induction h generalizing events with
  | throws e =>
    obtain ⟨rfl, rfl⟩ := Operation.runs_throw_iff.1 run
    exact settles_of_silent rfl
  | check silent _ ih =>
    rcases Operation.runs_bind_iff.1 run with ⟨e, rfl, first⟩ | ⟨before, after, a, rfl, first, rest⟩
    · exact settles_of_silent (silent.of_runs first)
    · exact (ih a rest).prepend (silent.of_runs first)
  | asks name concludes => exact settles_of_asks hpos name concludes run

end

end Bill

/-! ## The operations that report money -/

inductive Billing : Type → Type
  | getBalances : Billing Balance
  | hasSufficientBalance (amount : Float) : Billing Bool
  | getPricing (product : ProductType) (category action : Option String) :
      Billing (List PricingEntry)
  | pricingFor (product : ProductType) (action : String) : Billing (List PricingEntry)
  | createDomain (name : String) (years : Nat) : Billing DomainRegistration
  | createDomainWith (name : String) (years : Nat) (extra : List (String × String)) :
      Billing DomainRegistration
  | renewDomain (name : String) (years : Nat) : Billing DomainRenewal
  | createCertificate (type : String) (years : Nat) (names : Option Nat) :
      Billing CertificateOrder
  | renewWhoisGuard (id years : Nat) : Billing WhoisGuardRenewal

namespace Billing

variable {β : Type}

def perform (c : Client) : Billing β → Operation β
  | getBalances => c.getBalances
  | hasSufficientBalance amount => c.hasSufficientBalance amount
  | getPricing product category action => c.getPricing product category action
  | pricingFor product action => c.pricingFor product action
  | createDomain name years => c.createDomain name years
  | createDomainWith name years extra => c.createDomainWith name years extra
  | renewDomain name years => c.renewDomain name years
  | createCertificate type years names => c.createCertificate type years names
  | renewWhoisGuard id years => c.renewWhoisGuard id years

/-- Where the answer carries its amounts. -/
def bill : Billing β → Bill
  | getBalances | hasSufficientBalance _ => .balance
  | getPricing .. | pricingFor .. => .pricing
  | createDomain .. | createDomainWith .. => .registration
  | renewDomain .. => .renewal
  | createCertificate .. => .purchase
  | renewWhoisGuard .. => .privacyRenewal

end Billing

/-- What an account has available covers an amount: it has no end, or it is a number that is not
below the amount. -/
def Covers (amount : Float) (t : Option String) (x : Float) : Prop :=
  (∃ text ∈ t, Decimal.Endless (Text.trim text)) ∨
    ∃ p q, number? amount = some p ∧ number? x = some q ∧ p ≤ q

namespace Billing

variable {β : Type}

/-- What the operation says of the amounts, of which the texts are these. -/
def Reports : Billing β → List (Option String) → List Float → β → Prop
  | getBalances, _, amounts, b =>
    amounts = [b.availableBalance, b.accountBalance, b.earnedAmount, b.withdrawableAmount,
      b.fundsRequiredForAutoRenew]
  | hasSufficientBalance amount, texts, amounts, b =>
    ∃ t ∈ texts.head?, ∃ x ∈ amounts.head?, b = true ↔ Covers amount t x
  | getPricing .., _, amounts, entries | pricingFor .., _, amounts, entries =>
    amounts = entries.flatMap fun e => [e.price, e.regularPrice, e.yourPrice, e.additionalCost]
  | createDomain .., _, amounts, r | createDomainWith .., _, amounts, r =>
    amounts = [r.chargedAmount]
  | renewDomain .., _, amounts, r => amounts = [r.chargedAmount]
  | createCertificate .., _, amounts, order => amounts = [order.chargedAmount]
  | renewWhoisGuard .., _, amounts, r => amounts = [r.chargedAmount]

/-- Why the operation does not report a result that it has read: the registrar has not done what it
was asked for, or names no certificate. -/
def Withholds : Billing β → Failure → Prop
  | getBalances, _ | hasSufficientBalance _, _ | getPricing .., _ | pricingFor .., _ => False
  | m@(createDomain ..), e | m@(createDomainWith ..), e | m@(renewDomain ..), e
  | m@(renewWhoisGuard ..), e => ∃ reason, e = .operationFailed m.bill.command reason
  | createCertificate .., e =>
    (∃ reason, e = .operationFailed "namecheap.ssl.create" reason) ∨
      e = .protocolError "SSLCreateResult carries no certificate id"

end Billing

/-! ## Every operation demands its bill -/

/-- A flag that is demanded before the rest. -/
theorem Bill.Concludes.flagged {bill : Bill} {β : Type}
    {Reports : List (Option String) → List Float → β → Prop} {Withholds : Failure → Prop}
    {v : bill.Value} {op : Operation β} {command : Command} {done : Bool} {reason : String}
    (name : command.name = bill.command)
    (refused : ∀ reason, Withholds (.operationFailed bill.command reason))
    (rest : bill.Concludes Reports Withholds v op) :
    bill.Concludes Reports Withholds v
      (Client.requireDone command done reason >>= fun _ => op) := by
  cases done with
  | true => exact rest
  | false => exact .inr ⟨_, rfl, name ▸ refused reason⟩

section

open Bill Operation

variable (c : Client)

theorem demands_hasSufficientBalance (amount : Float) :
    Bill.balance.Demands (Billing.Reports (.hasSufficientBalance amount))
      (Billing.Withholds (.hasSufficientBalance amount)) c (c.hasSufficientBalance amount) := by
  unfold Client.hasSufficientBalance
  split
  case isTrue => exact .throws _
  case isFalse checked =>
    have finite : amount.isFinite = true := by
      cases h : amount.isFinite with
      | true => rfl
      | false => exact absurd (by rw [h]; rfl) checked
    obtain ⟨p, hp⟩ := (isFinite_iff amount).1 finite
    refine .asks rfl fun b => .inl ⟨_, rfl, ?_⟩
    rintro _ (_ | ⟨told, -⟩)
    refine ⟨_, rfl, _, rfl, ?_⟩
    rw [decide_eq_true_iff, told.le_iff hp]
    exact or_congr_right ⟨fun ⟨q, hq, le⟩ => ⟨p, q, hp, hq, le⟩, fun ⟨p', q, hp', hq, le⟩ =>
      ⟨q, hq, Option.some.inj (hp.symm.trans hp') ▸ le⟩⟩

theorem demands_getPricing (product : ProductType) (category action : Option String) :
    Bill.pricing.Demands (Billing.Reports (.getPricing product category action))
      (Billing.Withholds (.getPricing product category action)) c
      (c.getPricing product category action) := by
  have name : (Command.pricing product category action).name = "namecheap.users.getPricing" := by
    simp only [Command.pricing, Command.name_setSome]
    rfl
  rw [← bind_pure_eq (c.getPricing product category action)]
  exact .asks name fun entries => .inl ⟨entries, rfl, fun _ _ => rfl⟩

theorem demands_createDomainWith (name : String) (years : Nat) (extra : List (String × String)) :
    Bill.registration.Demands (Billing.Reports (.createDomainWith name years extra))
      (Billing.Withholds (.createDomainWith name years extra)) c
      (c.createDomainWith name years extra) := by
  refine .check (silent_mk_pure _) fun domain => .check (silent_requirePositive _ _) fun _ => ?_
  refine .asks (Command.name_setAll ..) fun r =>
    .flagged (Command.name_setAll ..) (fun reason => ⟨reason, rfl⟩) ?_
  exact .inl ⟨r, rfl, fun _ _ => rfl⟩

theorem demands_createCertificate (type : String) (years : Nat) (names : Option Nat) :
    Bill.purchase.Demands (Billing.Reports (.createCertificate type years names))
      (Billing.Withholds (.createCertificate type years names)) c
      (c.createCertificate type years names) := by
  refine .check (silent_requireNonEmpty _ _) fun _ => ?_
  refine .check (silent_requirePositive _ _) fun _ => ?_
  refine .asks (Command.name_setSome ..) fun p =>
    .flagged (Command.name_setSome ..) (fun reason => .inl ⟨reason, rfl⟩) ?_
  cases p.certificateId with
  | none => exact .inr ⟨_, rfl, .inr rfl⟩
  | some id => exact .inl ⟨_, rfl, fun _ _ => rfl⟩

theorem Billing.demands {β : Type} (m : Billing β) :
    m.bill.Demands m.Reports m.Withholds c (m.perform c) := by
  cases m with
  | getBalances =>
    show Bill.Demands _ _ _ c c.getBalances
    rw [← bind_pure_eq c.getBalances]
    exact .asks rfl fun b => .inl ⟨b, rfl, fun _ _ => rfl⟩
  | hasSufficientBalance amount => exact demands_hasSufficientBalance c amount
  | getPricing product category action => exact demands_getPricing c product category action
  | pricingFor product action => exact demands_getPricing c product none (some action)
  | createDomain name years => exact demands_createDomainWith c name years []
  | createDomainWith name years extra => exact demands_createDomainWith c name years extra
  | renewDomain name years =>
    refine .check (silent_mk_pure _) fun domain => .check (silent_requirePositive _ _) fun _ => ?_
    refine .asks rfl fun r => .flagged rfl (fun reason => ⟨reason, rfl⟩) ?_
    exact .inl ⟨r, rfl, fun _ _ => rfl⟩
  | createCertificate type years names => exact demands_createCertificate c type years names
  | renewWhoisGuard id years =>
    refine .check (silent_requirePositive _ _) fun _ => ?_
    refine .asks rfl fun r => .flagged rfl (fun reason => ⟨reason, rfl⟩) ?_
    exact .inl ⟨_, rfl, fun _ _ => rfl⟩

end

section

variable {α : Type} [Quantity α] {s : Settings α}

/-- Every amount that an operation reports is what its text in the last answer says: zero if there
is none or if it is blank, and otherwise the double nearest to the number that it spells, an
infinity if there is none so large, or whatever the text names. So all that is reported is finite if
and only if the texts are bounded, and a balance suffices for an amount if it is a number that is
not below it, but also if it has no end. A text that says nothing is a fault of the answer; without
such a text the result is reported, unless it says that nothing was done. The settings are any valid
ones; the caller, the breaker, the limiter and the transport answer as they like. -/
theorem Billing.settles {β : Type} (hs : s.fault? = none) (draw : Nat → α) (waits : Nat)
    (m : Billing β) {events : List Client.Event} {answer : Except Failure β}
    (run : Runs (m.perform (.ofSettings s draw waits)).run events answer) :
    m.bill.Settles m.Reports m.Withholds events answer := by
  have hpos : 0 < (Client.ofSettings s draw waits).plan.maxAttempts := s.maxAttempts_pos hs
  exact Bill.settles_of_demands hpos (m.demands (.ofSettings s draw waits)) run

end

/-- A balance with blanks around it is reported; of the other amounts one is blank and three are
absent. -/
theorem Billing.settles_blanks :
    let s : Settings ℚ := .new ⟨"user", "key", "user", "10.0.0.1"⟩
    let c : Client := .ofSettings s fun _ => 0
    let m : Billing Balance := .getBalances
    let body := "<ApiResponse Status=\"OK\"><CommandResponse>" ++
      "<UserGetBalancesResult AvailableBalance=\" 12.50 \" AccountBalance=\"\"/>" ++
      "</CommandResponse></ApiResponse>"
    let events := c.served (.new "namecheap.users.getBalances") ⟨200, body, none⟩
    let envelope : Envelope := ⟨none, [], body⟩
    s.fault? = none ∧ m.bill.Ends events envelope ∧
      m.bill.Decodes envelope [some " 12.50 ", some "", none, none, none] ∧
      ∃ b, Runs (m.perform c).run events (.ok b) ∧
        m.bill.Settles m.Reports m.Withholds events (.ok b) := by
  intro s c m body events envelope
  have valid : s.fault? = none := by decide +kernel
  have decoded : Envelope.decode body 200 = .ok envelope := by decide +kernel
  have decodes : m.bill.Decodes envelope [some " 12.50 ", some "", none, none, none] := by
    unfold Bill.Decodes
    decide +kernel
  have read : Decimal.Literal.read (Text.trim " 12.50 ").toList =
      .ok (.finite false 1250 (-2)) := by
    decide +kernel
  have told : List.Forall₂ Says [some " 12.50 ", some "", none, none, none] _ :=
    .cons (.written (by decide +kernel) (.number (Decimal.spells_iff.2 ⟨_, _, _, read, rfl⟩)
      (Decimal.Literal.rounds_toFloat false 1250 (-2)))) (.cons (.blank rfl)
        (.cons .absent (.cons .absent (.cons .absent .nil))))
  obtain ⟨b, held⟩ := (Bill.exists_payload_iff decodes).2 (Bill.not_illegible told)
  have run : Runs (m.perform c).run events (.ok b) := Client.runs_served (by decide) decoded held
  exact ⟨valid, ⟨_, _, rfl, rfl, decoded⟩, decodes, b, run, Billing.settles valid _ _ m run⟩

/-- An infinite balance covers an amount, though its text spells no number. -/
theorem infinite_balance_suffices :
    let s : Settings ℚ := .new ⟨"user", "key", "user", "10.0.0.1"⟩
    let c : Client := .ofSettings s fun _ => 0
    let body := "<ApiResponse Status=\"OK\"><CommandResponse>" ++
      "<UserGetBalancesResult AvailableBalance=\"inf\"/></CommandResponse></ApiResponse>"
    let events := c.served (.new "namecheap.users.getBalances") ⟨200, body, none⟩
    let envelope : Envelope := ⟨none, [], body⟩
    s.fault? = none ∧ Bill.balance.Ends events envelope ∧
      Bill.balance.Decodes envelope [some "inf", none, none, none, none] ∧
      (¬∃ q, Decimal.Spells "inf" q) ∧ Runs (c.hasSufficientBalance 5.0).run events (.ok true) := by
  intro s c body events envelope
  have decoded : Envelope.decode body 200 = .ok envelope := by decide +kernel
  have decodes : Bill.balance.Decodes envelope [some "inf", none, none, none, none] := by
    unfold Bill.Decodes
    decide +kernel
  have named : Decimal.IsNamed ["inf", "infinity"] .unwritten (Text.trim "inf").toList := by
    decide +kernel
  have told : List.Forall₂ Says [some "inf", none, none, none, none] _ :=
    .cons (.written (by decide +kernel) (.infinite named))
      (.cons .absent (.cons .absent (.cons .absent (.cons .absent .nil))))
  have unspelled : ¬∃ q, Decimal.Spells "inf" q := fun ⟨_, spelled⟩ =>
    Decimal.not_spells_of_infinite named spelled
  refine ⟨by decide +kernel, ⟨_, _, rfl, rfl, decoded⟩, decodes, unspelled, ?_⟩
  obtain ⟨b, held⟩ := (Bill.exists_payload_iff decodes).2 (Bill.not_illegible told)
  obtain ⟨texts, decodes', told'⟩ := Bill.decodes_of_payload held
  cases decodes.symm.trans decodes'
  obtain ⟨p, hp⟩ := (isFinite_iff 5.0).1 (by decide +kernel)
  cases told' with
  | cons balance _ =>
    have covered : (5.0 : Float) ≤ b.availableBalance :=
      (balance.le_iff hp).2 (.inl ⟨"inf", rfl, .inl ⟨.unwritten, named, rfl⟩⟩)
    rw [Client.hasSufficientBalance, if_neg (by decide +kernel)]
    refine Client.runs_run_bind (by decide) decoded held ?_
    rw [decide_eq_true covered]
    rfl

end Registrar
