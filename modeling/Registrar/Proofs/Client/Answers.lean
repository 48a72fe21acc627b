import Registrar.Proofs.Bucket.Exact
import Registrar.Proofs.Client.Attempts
import Registrar.Proofs.Wire.Envelopes

/-!
# What an answer tells

A command answers once, after any number of exchanges. The predicates on `Connection.Sent` say how a
single exchange ended, read off what the transport gave; `Tells` says what an answer promises of all
of them. Main statement: `answer_tells`.
-/

namespace Registrar

open Dialogue Retry

/-! ## How an exchange ended -/

/-- The first complaint of the registrar in a body whose status is an error. -/
def Response.firstError? (r : Response) : Option ProviderError :=
  match Xml.readDocument Envelope.draft.reader r.body with
  | .ok d =>
    if (d.status.map Text.trim).any (Text.sameFolded · "ERROR") then (d.errors.getD []).head?
    else none
  | .error _ => none

/-- The first error that is written in a refusal is the first complaint. -/
theorem Response.firstError?_refusal (f : Envelope.Frame) (first : ProviderError)
    (later : List ProviderError) (status : Nat) (hint : Option Duration) :
    Response.firstError? ⟨status, f.refusal (first :: later), hint⟩ = some first.trimmed := by
  have bare : ∀ content ∈ (none : Option (List Xml.Element)), (f.response content).IsPassable :=
    nofun
  have read := Xml.readDocument_document f.gaps
    (Envelope.reads_draft f "ERROR" (first :: later) bare)
  have stated : Text.sameFolded (Text.trim "ERROR") "ERROR" = true := by decide +kernel
  simp [firstError?, Envelope.Frame.refusal, read, stated]

namespace Connection.Sent

variable {β : Type}

/-- Nothing came through, or the server or the registrar is busy. -/
def Retryable : Sent → Prop
  | .answered (.error e) => ∀ text, e ≠ .other text
  | .answered (.ok r) =>
    r.status = 429 ∨ 500 ≤ r.status ∨
      (200 ≤ r.status ∧ r.status < 300 ∧
        ∃ e, r.firstError? = some e ∧ e.code ∈ ["2030280", "2030281", "2011170"])
  | .timedOut => True
  | .cut _ => False

/-- The registrar complains with this code and message, the server has an unexpected status, or the
transport does not say what is wrong. -/
def Rejects (code message : String) : Sent → Prop
  | .answered (.error e) =>
    ∃ text, e = .other text ∧ code = "TRANSPORT" ∧ message = "http client error: " ++ text
  | .answered (.ok r) =>
    (200 ≤ r.status ∧ r.status < 300 ∧ r.firstError? = some ⟨code, message⟩) ∨
      (¬(200 ≤ r.status ∧ r.status < 300) ∧ code = "HTTP" ++ Decimal.wholeText r.status ∧
        message = "unexpected HTTP status " ++ Decimal.wholeText r.status)
  | .timedOut | .cut _ => False

/-- The registrar says that the item is not there. -/
def Lacks (code message : String) : Sent → Prop
  | .answered (.ok r) =>
    200 ≤ r.status ∧ r.status < 300 ∧ r.firstError? = some ⟨code, message⟩ ∧
      code ∈ ["2019166", "2016166"]
  | _ => False

/-- The answer cannot be understood, its envelope or what the envelope holds. -/
def Garbles (extract : Envelope → Except Verdict β) (detail : String) : Sent → Prop
  | .answered (.ok r) =>
    Envelope.decode r.body r.status = .error (.malformed detail) ∨
      ∃ envelope, Envelope.decode r.body r.status = .ok envelope ∧
        extract envelope = .error (.malformed detail)
  | _ => False

/-- The answer holds this value. -/
def Holds (extract : Envelope → Except Verdict β) (b : β) : Sent → Prop
  | .answered (.ok r) =>
    ∃ envelope, Envelope.decode r.body r.status = .ok envelope ∧ extract envelope = .ok b
  | _ => False

end Connection.Sent

namespace ProviderError

/-- A complaint has the verdict of its code. -/
theorem classify_cases (e : ProviderError) :
    (e.code ∈ ["2030280", "2030281", "2011170"] ∧
        ∀ hint, (e.classify.withRetryAfter hint).isRetryable) ∨
      (e.code ∈ ["2019166", "2016166"] ∧ e.code ∉ ["2030280", "2030281", "2011170"] ∧
        e.classify = .notFound e.code e.message) ∨
      (e.code ∉ ["2030280", "2030281", "2011170"] ∧ e.classify = .fatal e.code e.message) := by
  have codes : ["2030280", "2030281", "2011170"] = rateLimitCodes ++ [unavailableCode] := rfl
  unfold classify
  split
  case isTrue h =>
    refine .inl ⟨?_, fun hint => rfl⟩
    rw [codes]
    exact List.mem_append_left _ (List.contains_iff_mem.1 h)
  case isFalse hlimit =>
    split
    case isTrue h =>
      refine .inl ⟨?_, fun hint => rfl⟩
      rw [codes]
      exact List.mem_append_right _ (List.mem_singleton.2 h)
    case isFalse hunavailable =>
      have other : e.code ∉ ["2030280", "2030281", "2011170"] := by
        rw [codes, List.mem_append, List.mem_singleton, not_or]
        exact ⟨fun h => hlimit (List.contains_iff_mem.2 h), hunavailable⟩
      split
      case isTrue h => exact .inr (.inl ⟨List.contains_iff_mem.1 h, other, rfl⟩)
      case isFalse => exact .inr (.inr ⟨other, rfl⟩)

theorem classify_of_absent {e : ProviderError} (h : e.code ∈ ["2019166", "2016166"]) :
    e.classify = .notFound e.code e.message := by
  rcases List.mem_pair.1 h with code | code <;>
    simp [classify, code, rateLimitCodes, unavailableCode, notFoundCodes]

end ProviderError

namespace Envelope

variable {r : Response}

/-- An answer of a server that is well has the verdict of its first complaint, if there is one. -/
theorem decode_of_success (h₁ : 200 ≤ r.status) (h₂ : r.status < 300) :
    (∃ e, r.firstError? = some e ∧ decode r.body r.status = .error e.classify) ∨
      (r.firstError? = none ∧
        ((∃ envelope, decode r.body r.status = .ok envelope) ∨
          ∃ detail, decode r.body r.status = .error (.malformed detail))) := by
  have ordinary : decode r.body r.status =
      match Xml.readDocument draft.reader r.body with
      | .ok d => d.judge r.body
      | .error fault => .error (.malformed ("invalid response envelope: " ++ fault.message)) := by
    have h₃ : r.status ≠ 429 := by omega
    have h₄ : ¬500 ≤ r.status := by omega
    have h₅ : (decide (r.status < 200) || decide (300 ≤ r.status)) = false := by
      simp only [Bool.or_eq_false_iff, decide_eq_false_iff_not]
      omega
    rw [decode, if_neg h₃, if_neg h₄, h₅]
    rfl
  rw [ordinary, Response.firstError?]
  cases Xml.readDocument draft.reader r.body with
  | error fault => exact .inr ⟨rfl, .inr ⟨_, rfl⟩⟩
  | ok d =>
    simp only [Draft.judge]
    cases hs : d.status.map Text.trim with
    | none => exact .inr ⟨rfl, .inr ⟨_, rfl⟩⟩
    | some status =>
      by_cases hok : Text.sameFolded status "OK" = true
      · have herror : Text.sameFolded status "ERROR" = false := by
          have hl : Text.lower status = Text.lower "OK" := by simpa [Text.sameFolded] using hok
          rw [Text.sameFolded, hl]
          decide +kernel
        simp [hok, herror]
      · by_cases herror : Text.sameFolded status "ERROR" = true
        · cases he : d.errors.getD [] with
          | nil => simp [hok, herror]
          | cons first later => simp [hok, herror]
        · simp [hok, herror]

end Envelope

/-! ## Verdicts on an exchange -/

section

variable {β : Type} {c : Client} {extract : Envelope → Except Verdict β} {r : Response}
  {sent : Connection.Sent} {v : Verdict} {b : β}

/-- What a verdict says of the exchange that it is on. -/
def Verdict.Reports (extract : Envelope → Except Verdict β) (sent : Connection.Sent) :
    Verdict → Prop
  | .transient _ | .rateLimited .. => sent.Retryable
  | .fatal code message => sent.Rejects code message ∧ ¬sent.Retryable
  | .notFound code message => sent.Lacks code message ∧ ¬sent.Retryable
  | .malformed detail => sent.Garbles extract detail ∧ ¬sent.Retryable
  | .interrupted cause => sent = .cut cause
  | .throttled => False

theorem not_retryable_of_success (h₁ : 200 ≤ r.status) (h₂ : r.status < 300)
    (hfirst : ∀ e, r.firstError? = some e → e.code ∉ ["2030280", "2030281", "2011170"]) :
    ¬Connection.Sent.Retryable (.answered (.ok r)) := by
  rintro (h | h | ⟨-, -, e, he, hcode⟩)
  · omega
  · omega
  · exact hfirst e he hcode

/-- Reading a payload fails by what cannot be understood alone. -/
def ReadsOnly (extract : Envelope → Except Verdict β) : Prop :=
  ∀ envelope v, extract envelope = .error v → ∃ detail, v = .malformed detail

theorem readsOnly_payload (reader : Xml.Reader β) : ReadsOnly (Envelope.payload reader) := by
  intro envelope v h
  unfold Envelope.payload at h
  split at h
  · cases h
  · cases h
    exact ⟨_, rfl⟩
  · cases h
    exact ⟨_, rfl⟩

/-- The verdict on a server's answer. -/
theorem reports_of_read (hx : ReadsOnly extract) (h : Client.read extract r = .error v) :
    v.Reports extract (.answered (.ok r)) := by
  unfold Client.read at h
  by_cases h₁ : 200 ≤ r.status ∧ r.status < 300
  · obtain ⟨h₁, h₂⟩ := h₁
    rcases Envelope.decode_of_success h₁ h₂ with
      ⟨e, he, hd⟩ | ⟨hnone, ⟨envelope, hd⟩ | ⟨detail, hd⟩⟩
    · rw [hd] at h
      obtain rfl := Except.error.inj h
      have nothing (hcode : e.code ∉ ["2030280", "2030281", "2011170"]) :=
        not_retryable_of_success h₁ h₂ fun e' he' => by rwa [← Option.some.inj (he.symm.trans he')]
      rcases e.classify_cases with ⟨hcode, hretry⟩ | ⟨hcode, hother, hc⟩ | ⟨hother, hc⟩
      · have retryable : Connection.Sent.Retryable (.answered (.ok r)) :=
          .inr (.inr ⟨h₁, h₂, e, he, hcode⟩)
        have hv := hretry r.retryAfter
        revert hv
        cases e.classify.withRetryAfter r.retryAfter <;> intro hv
        case transient | rateLimited => exact retryable
        all_goals cases hv
      · rw [hc]
        exact ⟨⟨h₁, h₂, he, hcode⟩, nothing hother⟩
      · rw [hc]
        exact ⟨.inl ⟨h₁, h₂, he⟩, nothing hother⟩
    · rw [hd] at h
      obtain ⟨detail, rfl⟩ := hx envelope v h
      exact ⟨.inr ⟨envelope, hd, h⟩, not_retryable_of_success h₁ h₂ (by simp [hnone])⟩
    · rw [hd] at h
      obtain rfl := Except.error.inj h
      exact ⟨.inl hd, not_retryable_of_success h₁ h₂ (by simp [hnone])⟩
  · unfold Envelope.decode at h
    split_ifs at h with h₂ h₃ h₄
    · obtain rfl := Except.error.inj h
      exact .inl h₂
    · obtain rfl := Except.error.inj h
      exact .inr (.inl h₃)
    · obtain rfl := Except.error.inj h
      refine ⟨.inr ⟨h₁, rfl, rfl⟩, ?_⟩
      rintro (h | h | ⟨ha, hb, -⟩)
      · exact h₂ h
      · exact h₃ h
      · exact h₁ ⟨ha, hb⟩
    · simp only [Bool.or_eq_true, decide_eq_true_eq] at h₄
      omega

theorem reports_of_readSent (hx : ReadsOnly extract) (h : c.readSent extract sent = .error v) :
    v.Reports extract sent := by
  cases sent with
  | answered answer =>
    cases answer with
    | ok r => exact reports_of_read hx h
    | error e =>
      obtain rfl := Except.error.inj h
      cases e with
      | other text => exact ⟨⟨text, rfl, rfl, rfl⟩, fun h => h text rfl⟩
      | timeout | connect | body | request => exact nofun
  | timedOut =>
    obtain rfl := Except.error.inj h
    trivial
  | cut cause =>
    obtain rfl := Except.error.inj h
    rfl

theorem holds_of_readSent (h : c.readSent extract sent = .ok b) : sent.Holds extract b := by
  rcases sent with ⟨e | r⟩ | _ | _
  · cases h
  · change Client.read extract r = .ok b at h
    unfold Client.read at h
    cases hd : Envelope.decode r.body r.status with
    | error v => simp [hd] at h
    | ok envelope =>
      rw [hd] at h
      exact ⟨envelope, hd, h⟩
  · cases h
  · cases h

end

/-! ## What the attempts come to -/

/-- The exchanges ended with one of this kind, after others that were worth repeating. -/
def EndedBy (last : Connection.Sent → Prop) (exchanges : List Connection.Sent) : Prop :=
  ∃ earlier sent, exchanges = earlier ++ [sent] ∧ (∀ s ∈ earlier, s.Retryable) ∧ last sent

/-- What an answer says of the exchanges of its command. -/
def Tells {β : Type} (maxAttempts : Nat) (extract : Envelope → Except Verdict β)
    (events : List Client.Event) (answer : Except Failure β) : Prop :=
  let exchanges := Client.exchanges events
  exchanges.length ≤ maxAttempts ∧
    match answer with
    | .ok b => EndedBy (·.Holds extract b) exchanges
    | .error (.transient attempts _) =>
      attempts = exchanges.length ∧ attempts = maxAttempts ∧ ∀ s ∈ exchanges, s.Retryable
    | .error (.remoteRejected code message attempts) =>
      attempts = exchanges.length ∧
        EndedBy (fun s => s.Rejects code message ∧ ¬s.Retryable) exchanges
    | .error (.notFound code message) =>
      EndedBy (fun s => s.Lacks code message ∧ ¬s.Retryable) exchanges
    | .error (.protocolError detail) =>
      EndedBy (fun s => s.Garbles extract detail ∧ ¬s.Retryable) exchanges
    | .error (.circuitOpen ..) => exchanges = [] ∧ Client.grants events = 0
    | .error .rateLimitExceeded => ∀ s ∈ exchanges, s.Retryable
    | .error .canceled =>
      (∀ s ∈ exchanges, s.Retryable) ∨ EndedBy (fun s => ∃ cause, s = .cut cause) exchanges
    | .error (.invalidInput _) | .error (.operationFailed ..) | .error (.config _) => False

section

variable {β : Type} {c : Client} {command : Command} {extract : Envelope → Except Verdict β}
  {attempt : Nat} {events : List Client.Event} {attempts : List (List Client.Event)}
  {v : Verdict} {delay : Duration}

theorem isRetryable_of_pause
    (again : pauseAfter c.plan attempt (v.policy attempt) = some delay) : v.isRetryable := by
  cases v with
  | transient | rateLimited => rfl
  | fatal | notFound | malformed | throttled | interrupted => cases again

theorem not_isRetryable_of_stop (last : pauseAfter c.plan attempt (v.policy attempt) = none) :
    ¬v.isRetryable := by
  cases v with
  | transient => cases last
  | rateLimited reason hint => cases hint <;> cases last
  | fatal | notFound | malformed | throttled | interrupted => nofun

/-- An attempt that is to be repeated made an exchange that was worth it. -/
theorem retryable_of_pause (hx : ReadsOnly extract)
    (trial : Runs (c.attempt command extract) events (.error v))
    (again : pauseAfter c.plan attempt (v.policy attempt) = some delay) :
    ∃ sent, Client.exchanges events = [sent] ∧ sent.Retryable := by
  have hv := isRetryable_of_pause again
  rcases Client.ends_of_runs trial with ⟨sent, hs, hr⟩ | ⟨-, hr | ⟨cause, hr⟩⟩
  · refine ⟨sent, hs, ?_⟩
    have reports := reports_of_readSent hx hr.symm
    cases v with
    | transient | rateLimited => exact reports
    | fatal | notFound | malformed | throttled | interrupted => cases hv
  · cases hr
    cases hv
  · cases hr
    cases hv

theorem retryable_of_failed (hx : ReadsOnly extract)
    (h : Failed c.plan Verdict.policy (fun _ => c.attempt command extract) attempt attempts) :
    (Client.exchanges attempts.flatten).length = attempts.length ∧
      ∀ s ∈ Client.exchanges attempts.flatten, s.Retryable := by
  induction attempts generalizing attempt with
  | nil => exact ⟨rfl, nofun⟩
  | cons trial attempts ih =>
    obtain ⟨⟨v, delay, ran, again⟩, later⟩ := h
    obtain ⟨sent, hs, hretry⟩ := retryable_of_pause hx ran again
    obtain ⟨hlen, hall⟩ := ih later
    rw [List.flatten_cons, Client.exchanges_append, hs]
    exact ⟨by simp [hlen], List.forall_mem_cons.2 ⟨hretry, hall⟩⟩

/-- The attempts that a failure counts are as many as the exchanges, its own one among them. -/
theorem attempts_eq_exchanges (hlen : (Client.exchanges attempts.flatten).length = attempts.length)
    (sent : Connection.Sent) :
    0 + attempts.length + 1 = (Client.exchanges attempts.flatten ++ [sent]).length := by
  rw [List.length_append, hlen, List.length_singleton, Nat.zero_add]

/-- What the result of the attempts becomes tells of their exchanges. -/
theorem tells_of_ends {left : Nat} {result : Except (RetryFailure Verdict) β}
    (hx : ReadsOnly extract) (hall : Client.exchanges events = Client.exchanges attempts.flatten)
    (h : Ends c.plan Verdict.policy (fun _ => c.attempt command extract) left 0 attempts
      result) :
    Tells (left + 1) extract events (result.mapError RetryFailure.toFailure) := by
  unfold Tells
  simp only [hall]
  cases h with
  | @succeeded attempts trial value failed few ran =>
    obtain ⟨hlen, hretry⟩ := retryable_of_failed hx failed
    rcases Client.ends_of_runs ran with ⟨sent, hs, hr⟩ | ⟨-, hr | ⟨cause, hr⟩⟩
    · rw [List.flatten_concat, Client.exchanges_append, hs]
      refine ⟨?_, _, sent, rfl, hretry, holds_of_readSent hr.symm⟩
      simp only [List.length_append, List.length_singleton]
      omega
    · cases hr
    · cases hr
  | @stopped attempts trial v failed few ran last =>
    obtain ⟨hlen, hretry⟩ := retryable_of_failed hx failed
    have hv := not_isRetryable_of_stop last
    rw [List.flatten_concat, Client.exchanges_append]
    rcases Client.ends_of_runs ran with ⟨sent, hs, hr⟩ | ⟨hs, hr⟩
    · have reports := reports_of_readSent hx hr.symm
      rw [hs]
      have count := attempts_eq_exchanges hlen sent
      refine ⟨by omega, ?_⟩
      cases v with
      | transient | rateLimited => exact absurd rfl hv
      | fatal code message => exact ⟨count, _, sent, rfl, hretry, reports⟩
      | notFound code message => exact ⟨_, sent, rfl, hretry, reports⟩
      | malformed detail => exact ⟨_, sent, rfl, hretry, reports⟩
      | throttled => exact reports.elim
      | interrupted cause => exact .inr ⟨_, sent, rfl, hretry, cause, reports⟩
    · rw [hs, List.append_nil]
      refine ⟨by omega, ?_⟩
      rcases hr with hr | ⟨cause, hr⟩
      · cases hr
        exact hretry
      · cases hr
        exact .inl hretry
  | @exhausted attempts trial v delay failed all ran again =>
    obtain ⟨hlen, hretry⟩ := retryable_of_failed hx failed
    obtain ⟨sent, hs, hsent⟩ := retryable_of_pause hx ran again
    have hv := isRetryable_of_pause again
    rw [List.flatten_concat, Client.exchanges_append, hs]
    have count := attempts_eq_exchanges hlen sent
    have most : 0 + attempts.length + 1 = left + 1 := by omega
    have hall : ∀ s ∈ Client.exchanges attempts.flatten ++ [sent], s.Retryable :=
      List.forall_mem_append.2 ⟨hretry, List.forall_mem_singleton.2 hsent⟩
    refine ⟨by omega, ?_⟩
    cases v with
    | transient | rateLimited => exact ⟨count, most, hall⟩
    | fatal | notFound | malformed | throttled | interrupted => cases hv
  | interrupted failed few =>
    obtain ⟨hlen, hretry⟩ := retryable_of_failed hx failed
    exact ⟨by omega, .inl hretry⟩

/-- The answer of a command tells of its exchanges, whatever it reads off them. -/
theorem tells_of_runs {answer : Except Failure β} (hpos : 0 < c.plan.maxAttempts)
    (hx : ReadsOnly extract) (h : Runs (c.execute command extract) events answer) :
    Tells c.plan.maxAttempts extract events answer := by
  obtain ⟨attempts, makes⟩ := Client.makes_of_reaches (runs_iff_reaches_done.1 h)
  have hall := makes.tally.1
  generalize hd : Dialogue.done answer = d at makes
  cases makes with
  | starts =>
    rw [execute_eq] at hd
    cases hd
  | refused r =>
    cases hd
    exact ⟨Nat.zero_le _, rfl, rfl⟩
  | tries a trials =>
    obtain ⟨result, -, hf⟩ := andThen_eq_done_iff.1 hd.symm
    cases hf
  | ends a trials =>
    cases hd
    have tells := tells_of_ends hx hall trials.ends
    rwa [Nat.sub_add_cancel hpos] at tells

end

section

variable {α : Type} [Quantity α] {s : Settings α}

theorem Settings.maxAttempts_pos (hs : s.fault? = none) : 0 < s.retry.maxAttempts := by
  refine Nat.pos_of_ne_zero fun h => ?_
  unfold fault? at hs
  simp only [h] at hs
  split at hs
  · cases hs
  · split at hs
    · cases hs
    · split_ifs at hs

/-- Every answer of a command, whether it gives the envelope or its payload, tells of the exchanges
that were made: of their number, and how they ended. The settings are any valid ones; the caller,
the breaker, the limiter and the transport answer as they like. -/
theorem answer_tells (hs : s.fault? = none) (draw : Nat → α) (waits : Nat)
    (command : Command) :
    (∀ {events : List Client.Event} {answer : Except Failure Envelope},
      Runs ((Client.ofSettings s draw waits).envelope command).run events answer →
        Tells s.retry.maxAttempts .ok events answer) ∧
    ∀ {β : Type} (fields : Xml.Fields β) {events : List Client.Event} {answer : Except Failure β},
      Runs ((Client.ofSettings s draw waits).run command fields).run events answer →
        Tells s.retry.maxAttempts (·.payload fields.reader) events answer := by
  have hpos : 0 < (Client.ofSettings s draw waits).plan.maxAttempts := s.maxAttempts_pos hs
  constructor
  · intro events answer h
    exact tells_of_runs hpos nofun h
  · intro β fields events answer h
    exact tells_of_runs hpos (readsOnly_payload fields.reader) h

end

/-- Of the two attempts of a command one meets a server that is down, the other one nobody. -/
theorem answer_tells_after_outage :
    let s : Settings ℚ :=
      { Settings.new ⟨"user", "key", "user", "10.0.0.1"⟩ with retry := ⟨2, 100, 1000, 2, 0⟩ }
    let c : Client := .ofSettings s fun _ => 0
    let check : List Client.Event := [⟨.cancelled, false⟩, ⟨.timeLeft, none⟩]
    let attempt (sent : Connection.Sent) : List Client.Event :=
      check ++ Client.granted :: check ++
        [⟨.timeLeft, none⟩, ⟨.other (c.request ⟨"", []⟩ none), sent⟩]
    let pause : List Client.Event :=
      check ++ [⟨.timeLeft, none⟩, ⟨.pause (c.plan.delay 0), false⟩]
    let events : List Client.Event :=
      [⟨.other .enter, .ok .normal⟩] ++
        check ++ attempt (.answered (.ok ⟨503, "", none⟩)) ++ pause ++
        check ++ attempt .timedOut ++ [⟨.other (.settle .normal .failure), ()⟩]
    let answer : Except Failure Envelope :=
      .error (.transient 2 ("attempt timed out after " ++ Duration.text c.attemptTimeout))
    s.fault? = none ∧ Runs (c.envelope ⟨"", []⟩).run events answer ∧ Tells 2 .ok events answer := by
  intro s c check attempt pause events answer
  have valid : s.fault? = none := by decide +kernel
  have passes : Runs Task.check check none :=
    Client.runs_check_iff.2 (.inr (.inr ⟨none, nofun, rfl, rfl⟩))
  have tries (sent : Connection.Sent) :
      Runs (c.attempt ⟨"", []⟩ .ok) (attempt sent) (c.readSent .ok sent) :=
    Client.runs_attempt (by decide) none sent passes passes
  have pauses : Runs (Task.sleep (c.plan.delay 0) : Call _) pause none := by
    rw [sleep_eq]
    refine runs_andThen_iff.2 ⟨check, _, none, rfl, passes, ?_⟩
    exact runs_ask_iff.2 ⟨none, _, rfl, runs_ask_iff.2 ⟨false, [], rfl, .done _⟩⟩
  have trials : Reaches (c.attempts ⟨"", []⟩ .ok) _ _ :=
    reaches_of_course (.repeats passes (tries (.answered (.ok ⟨503, "", none⟩))) rfl pauses
      (.tries passes (runs_iff_reaches_done.1 (tries .timedOut))))
  have run : Runs (c.envelope ⟨"", []⟩).run events answer := by
    rw [show (c.envelope ⟨"", []⟩).run = _ from execute_eq c _ _]
    refine runs_ask_iff.2 ⟨.ok .normal, _, rfl, ?_⟩
    refine runs_andThen_iff.2 ⟨_, [⟨.other (.settle .normal .failure), ()⟩], _, ?_,
      runs_iff_reaches_done.2 trials, ?_⟩
    · rfl
    · exact runs_ask_iff.2 ⟨(), [], rfl, .done _⟩
  exact ⟨valid, run, (answer_tells valid _ _ _).1 run⟩

end Registrar
