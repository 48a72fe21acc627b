import Registrar.Proofs.Client.Answers

/-!
# Runs of operations

An operation is put together from commands and from checks that send nothing. `traffic` is what a
run has sent and how each exchange ended. The requests of a part of an operation are known from the
dialogue alone (`Operation.Sends`), and `runs_bind_iff` takes a run apart into those of the parts.
Main statement: `answer_of_last`, the answer of a command whose last exchange can be decoded.
-/

namespace Registrar

open Dialogue

namespace Dialogue

variable {Q : Type} {A : Q → Type} {α : Type} {p p' : Q → Prop}

theorem AsksOnly.mono {d : Dialogue Q A α} (h : d.AsksOnly p) (hp : ∀ q, p q → p' q) :
    d.AsksOnly p' := by
  induction d with
  | done a => trivial
  | ask q next ih => exact ⟨hp q h.1, fun r => ih r (h.2 r)⟩

/-- The answers to its questions settle what a dialogue ends with. -/
theorem Runs.unique {d : Dialogue Q A α} {events : List (Exchange Q A)} {a b : α}
    (ha : Runs d events a) (hb : Runs d events b) : a = b := by
  induction ha with
  | done a => exact (runs_done_iff.1 hb).2.symm
  | ask r rest ih =>
    obtain ⟨r', events', same, hb⟩ := runs_ask_iff.1 hb
    cases same
    exact ih hb

end Dialogue

/-! ## What is sent -/

namespace Client

/-- The request and how its exchange ended, if the event is one. -/
def Event.exchange? : Event → Option (Request × Connection.Sent)
  | ⟨.other (.send r _ _), sent⟩ => some (r, sent)
  | _ => none

/-- The requests among some events, each with the end of its exchange. -/
def traffic (events : List Event) : List (Request × Connection.Sent) :=
  events.filterMap Event.exchange?

@[simp] theorem traffic_append (before after : List Event) :
    traffic (before ++ after) = traffic before ++ traffic after :=
  List.filterMap_append

theorem exchanges_eq_map_traffic (events : List Event) :
    exchanges events = (traffic events).map Prod.snd := by
  unfold exchanges traffic
  rw [List.map_filterMap]
  refine List.filterMap_congr fun e _ => ?_
  obtain ⟨q, r⟩ := e
  rcases q with _ | _ | _ | _ | _ | _ | _ <;> rfl

/-- The event begins a command: the breaker is asked to admit it. -/
def Event.isEntry : Event → Bool
  | ⟨.other .enter, _⟩ => true
  | _ => false

/-- The number of commands that were begun. -/
def commands (events : List Event) : Nat := events.countP Event.isEntry

end Client

/-- Every request that the question sends has this property. -/
def Connection.Sends (p : Request → Prop) : Ask Connection.Question → Prop
  | .other (.send r _ _) => p r
  | _ => True

section

variable {α β : Type} {p p' : Request → Prop}

theorem Connection.Sends.mono (hp : ∀ r, p r → p' r) {q : Ask Connection.Question}
    (h : Connection.Sends p q) : Connection.Sends p' q := by
  rcases q with _ | _ | _ | _ | _ | _ | _ <;> first | trivial | exact hp _ h

theorem Connection.sends_of_passesTransport {q : Ask Connection.Question}
    (h : Connection.PassesTransport q) : Connection.Sends p q := by
  rcases q with _ | _ | _ | _ | _ | _ | _ <;> trivial

/-- What was sent in a run has the property that the dialogue promises. -/
theorem forall_traffic_of_runs {d : Call α} {events : List Client.Event} {a : α}
    (hd : d.AsksOnly (Connection.Sends p)) (h : Runs d events a) :
    ∀ x ∈ Client.traffic events, p x.1 := by
  intro x hx
  obtain ⟨e, he, hex⟩ := List.mem_filterMap.1 hx
  have asked := (hd.of_reaches (runs_iff_reaches_done.1 h)).1 e he
  obtain ⟨q, r⟩ := e
  rcases q with _ | _ | _ | _ | _ | _ | _
  case other.send => cases hex; exact asked
  all_goals cases hex

/-- All requests of a command are the same. -/
theorem execute_sends (c : Client) (command : Command) (extract : Envelope → Except Verdict β) :
    (c.execute command extract).AsksOnly
      (Connection.Sends (· = .ofCommand command c.credentials c.endpoint)) := by
  have attempt : (c.attempt command extract).AsksOnly
      (Connection.Sends (· = .ofCommand command c.credentials c.endpoint)) := by
    rw [attempt_eq]
    refine ((Client.acquire_asksOnly c.waits).mono fun q => ?_).andThen fun slot => ?_
    · exact Connection.sends_of_passesTransport
    cases slot with
    | error refusal => trivial
    | ok token =>
      rw [exchange_eq]
      refine AsksOnly.andThen ?_ fun answer => ?_
      · refine (check_asksOnly trivial trivial).andThen fun i => ?_
        cases i with
        | some cause => trivial
        | none =>
          refine ⟨trivial, fun left => ⟨rfl, fun sent => ?_⟩⟩
          rcases sent with (_ | _) | _ | _ <;> trivial
      · cases answer <;> trivial
  rw [execute_eq]
  refine ⟨trivial, fun answer => ?_⟩
  cases answer with
  | error refusal => trivial
  | ok a =>
    refine AsksOnly.andThen ?_ fun result => ⟨trivial, fun _ => trivial⟩
    exact executeFrom_asksOnly trivial trivial (fun _ => trivial) (fun _ => attempt) _ _

/-- However many attempts it makes, a command is one. -/
theorem commands_of_runs {c : Client} {command : Command} {extract : Envelope → Except Verdict β}
    {events : List Client.Event} {answer : Except Failure β}
    (h : Runs (c.execute command extract) events answer) : Client.commands events = 1 := by
  rw [execute_eq] at h
  obtain ⟨admission, rest, rfl, told⟩ := runs_ask_iff.1 h
  suffices none : rest.countP Client.Event.isEntry = 0 by
    rw [Client.commands, List.countP_cons_of_pos rfl, none]
  cases admission with
  | error refusal =>
    obtain ⟨rfl, -⟩ := runs_done_iff.1 told
    rfl
  | ok a =>
    obtain ⟨tried, last, result, rfl, attempts, settled⟩ := runs_andThen_iff.1 told
    obtain ⟨u, after, rfl, ended⟩ := runs_ask_iff.1 settled
    obtain ⟨rfl, -⟩ := runs_done_iff.1 ended
    have passing := ((attempts_asksOnly c command extract).of_reaches
      (runs_iff_reaches_done.1 attempts)).1
    have calm : tried.countP Client.Event.isEntry = 0 := by
      refine List.countP_eq_zero.2 fun e he entry => ?_
      have passes := passing e he
      obtain ⟨q, r⟩ := e
      rcases q with _ | _ | _ | _ | _ | _ | _
      case other.enter => exact passes
      all_goals cases entry
    rw [List.countP_append, calm]
    rfl

end

/-! ## Operations -/

namespace Operation

variable {α β : Type} {op : Operation α} {f : α → Operation β} {p p' : Request → Prop}
  {events : List Client.Event} {answer : Except Failure β}

/-- Every request of the operation has this property. -/
def Sends (p : Request → Prop) (op : Operation α) : Prop :=
  op.run.AsksOnly (Connection.Sends p)

/-- The operation sends nothing. -/
def Silent (op : Operation α) : Prop := op.Sends fun _ => False

theorem run_bind (op : Operation α) (f : α → Operation β) :
    (op >>= f).run = op.run.andThen fun
      | .ok a => (f a).run
      | .error e => .done (.error e) := by
  refine congrArg (andThen op.run) (funext fun result => ?_)
  cases result <;> rfl

/-- What follows asks nothing more. -/
theorem run_bind_of_done {g : α → Except Failure β} (h : ∀ a, (f a).run = .done (g a)) :
    (op >>= f).run = op.run.andThen fun result => .done (result.bind g) := by
  rw [run_bind]
  refine congrArg (andThen op.run) (funext fun result => ?_)
  cases result with
  | error e => rfl
  | ok a => exact h a

theorem run_bind_of_ok {a : α} (h : op.run = .done (.ok a)) : (op >>= f).run = (f a).run := by
  rw [run_bind, h]
  rfl

theorem runs_bind_of_ok {a : α} (h : op.run = .done (.ok a)) (rest : Runs (f a).run events answer) :
    Runs (op >>= f).run events answer := by
  rwa [run_bind_of_ok h]

theorem run_bind_of_error {e : Failure} (h : op.run = .done (.error e)) :
    (op >>= f).run = .done (.error e) := by
  rw [run_bind, h]
  rfl

/-- A run of an operation is one of its first part, which fails or is followed by the rest. -/
theorem runs_bind_iff :
    Runs (op >>= f).run events answer ↔
      (∃ e, answer = .error e ∧ Runs op.run events (.error e)) ∨
        ∃ before after a, events = before ++ after ∧ Runs op.run before (.ok a) ∧
          Runs (f a).run after answer := by
  rw [run_bind, runs_andThen_iff]
  constructor
  · rintro ⟨before, after, e | a, rfl, h₁, h₂⟩
    · obtain ⟨rfl, rfl⟩ := runs_done_iff.1 h₂
      exact .inl ⟨e, rfl, by rwa [List.append_nil]⟩
    · exact .inr ⟨before, after, a, rfl, h₁, h₂⟩
  · rintro (⟨e, rfl, h⟩ | ⟨before, after, a, rfl, h₁, h₂⟩)
    · exact ⟨events, [], .error e, (List.append_nil events).symm, h, .done _⟩
    · exact ⟨before, after, .ok a, rfl, h₁, h₂⟩

theorem runs_pure_iff {b : β} :
    Runs (pure b : Operation β).run events answer ↔ events = [] ∧ answer = .ok b :=
  runs_done_iff

theorem runs_throw_iff {e : Failure} :
    Runs (throw e : Operation β).run events answer ↔ events = [] ∧ answer = .error e :=
  runs_done_iff

/-- An operation and what it gives, given on. -/
theorem bind_pure_eq (op : Operation α) : (op >>= pure) = op := by
  show (op >>= pure).run = op.run
  rw [run_bind]
  generalize op.run = d
  induction d with
  | done result => cases result <;> rfl
  | ask q next ih => exact congrArg (ask q) (funext ih)

theorem Sends.mono (h : op.Sends p) (hp : ∀ r, p r → p' r) : op.Sends p' :=
  AsksOnly.mono h fun _ => Connection.Sends.mono hp

theorem Silent.sends (h : op.Silent) : op.Sends p := h.mono fun _ => False.elim

theorem Sends.bind (hop : op.Sends p) (hf : ∀ a, (f a).Sends p) : (op >>= f).Sends p := by
  unfold Sends
  rw [run_bind]
  refine AsksOnly.andThen hop fun result => ?_
  cases result with
  | error e => trivial
  | ok a => exact hf a

theorem Sends.of_runs (hop : op.Sends p) {answer : Except Failure α}
    (h : Runs op.run events answer) : ∀ x ∈ Client.traffic events, p x.1 :=
  forall_traffic_of_runs hop h

theorem Silent.of_runs (hop : op.Silent) {answer : Except Failure α}
    (h : Runs op.run events answer) : Client.traffic events = [] :=
  List.eq_nil_iff_forall_not_mem.2 (Sends.of_runs hop h)

theorem silent_mk_pure (result : Except Failure α) : Silent (.mk (pure result) : Operation α) :=
  trivial

theorem silent_pure (a : α) : (pure a : Operation α).Silent := trivial

theorem silent_requirePositive (field : String) (n : Nat) :
    (Client.requirePositive field n).Silent := by
  unfold Client.requirePositive
  split <;> trivial

theorem silent_requireNonEmpty (field value : String) :
    (Client.requireNonEmpty field value).Silent := by
  unfold Client.requireNonEmpty
  split <;> trivial

theorem silent_requireDone (command : Command) (done : Bool) (reason : String) :
    (Client.requireDone command done reason).Silent := by
  unfold Client.requireDone
  split <;> trivial

theorem sends_run (c : Client) (command : Command) (fields : Xml.Fields β) :
    (c.run command fields).Sends (· = .ofCommand command c.credentials c.endpoint) :=
  execute_sends c command (·.payload fields.reader)

end Operation

/-- A request tells the name of its command. -/
theorem Request.get?_command (command : Command) (c : Credentials) (endpoint : String) :
    (Request.ofCommand command c endpoint).get? "Command" = some command.name := by
  simp [get?, ofCommand, credentialPairs, List.lookup_cons]

/-! ## Answers that can be decoded -/

section

variable {β : Type} {extract : Envelope → Except Verdict β} {r : Response} {envelope : Envelope}

theorem success_of_decode (h : Envelope.decode r.body r.status = .ok envelope) :
    200 ≤ r.status ∧ r.status < 300 := by
  unfold Envelope.decode at h
  split_ifs at h with h₁ h₂ h₃
  simp only [Bool.or_eq_true, decide_eq_true_eq] at h₃
  omega

theorem firstError?_of_decode (h : Envelope.decode r.body r.status = .ok envelope) :
    r.firstError? = none := by
  obtain ⟨h₁, h₂⟩ := success_of_decode h
  rcases Envelope.decode_of_success h₁ h₂ with ⟨e, -, he⟩ | ⟨hnone, -⟩
  · rw [he] at h
    cases h
  · exact hnone

theorem not_retryable_of_decode (h : Envelope.decode r.body r.status = .ok envelope) :
    ¬Connection.Sent.Retryable (.answered (.ok r)) := by
  obtain ⟨h₁, h₂⟩ := success_of_decode h
  exact not_retryable_of_success h₁ h₂ (by simp [firstError?_of_decode h])

theorem EndedBy.of_getLast? {last : Connection.Sent → Prop} {exchanges : List Connection.Sent}
    {sent : Connection.Sent} (h : EndedBy last exchanges) (hs : exchanges.getLast? = some sent) :
    last sent := by
  obtain ⟨earlier, sent', rfl, -, hl⟩ := h
  rw [List.getLast?_concat] at hs
  cases hs
  exact hl

theorem last_traffic_of_endedBy {last : Connection.Sent → Prop} {events : List Client.Event}
    (h : EndedBy last (Client.exchanges events)) :
    ∃ request sent, (Client.traffic events).getLast? = some (request, sent) ∧ last sent := by
  obtain ⟨earlier, sent, hs, -, hlast⟩ := h
  have final : (Client.traffic events).getLast?.map Prod.snd = some sent := by
    rw [← List.getLast?_map, ← Client.exchanges_eq_map_traffic, hs, List.getLast?_concat]
  obtain ⟨⟨request, sent⟩, hrequest, rfl⟩ := Option.map_eq_some_iff.1 final
  exact ⟨request, sent, hrequest, hlast⟩

/-- The value of a command comes from its last answer. -/
theorem last_of_tells {maxAttempts : Nat} {events : List Client.Event} {b : β}
    (tells : Tells maxAttempts extract events (.ok b)) :
    ∃ request r envelope, (Client.traffic events).getLast? = some (request, .answered (.ok r)) ∧
      Envelope.decode r.body r.status = .ok envelope ∧ extract envelope = .ok b := by
  obtain ⟨request, sent, last, holds⟩ := last_traffic_of_endedBy tells.2
  rcases sent with ⟨e | r⟩ | _ | _
  · exact holds.elim
  · obtain ⟨envelope, decoded, hb⟩ := holds
    exact ⟨request, r, envelope, last, decoded, hb⟩
  · exact holds.elim
  · exact holds.elim

/-- What the last answer of a command holds is what the command answers. -/
theorem answer_of_last {maxAttempts : Nat} {events : List Client.Event}
    {answer : Except Failure β} (tells : Tells maxAttempts extract events answer)
    (last : (Client.exchanges events).getLast? = some (.answered (.ok r)))
    (decoded : Envelope.decode r.body r.status = .ok envelope) :
    (∃ b, extract envelope = .ok b ∧ answer = .ok b) ∨
      ∃ detail, extract envelope = .error (.malformed detail) ∧
        answer = .error (.protocolError detail) := by
  -- Such an answer is neither repeated nor a fault of the registrar: what is left is its payload.
  have final := not_retryable_of_decode decoded
  have repeated (h : ∀ s ∈ Client.exchanges events, s.Retryable) : False :=
    final (h _ (List.mem_of_getLast? last))
  have healthy := success_of_decode decoded
  obtain ⟨-, tells⟩ := tells
  rcases answer with f | b
  · cases f with
    | transient attempts cause => exact (repeated tells.2.2).elim
    | rateLimitExceeded => exact (repeated tells).elim
    | circuitOpen failures millis =>
      rw [tells.1] at last
      cases last
    | remoteRejected code message attempts =>
      obtain ⟨⟨-, -, he⟩ | ⟨hne, -⟩, -⟩ := tells.2.of_getLast? last
      · rw [firstError?_of_decode decoded] at he
        cases he
      · exact (hne healthy).elim
    | notFound code message =>
      obtain ⟨⟨-, -, he, -⟩, -⟩ := EndedBy.of_getLast? tells last
      rw [firstError?_of_decode decoded] at he
      cases he
    | protocolError detail =>
      obtain ⟨he | ⟨envelope', he, hx⟩, -⟩ := EndedBy.of_getLast? tells last
      · rw [decoded] at he
        cases he
      · cases decoded.symm.trans he
        exact .inr ⟨detail, hx, rfl⟩
    | canceled =>
      rcases tells with h | h
      · exact (repeated h).elim
      · obtain ⟨cause, hc⟩ := h.of_getLast? last
        cases hc
    | invalidInput | operationFailed | config => exact tells.elim
  · obtain ⟨envelope', he, hx⟩ := EndedBy.of_getLast? tells last
    cases decoded.symm.trans he
    exact .inl ⟨b, hx, rfl⟩

end

/-! ## A command that is served at once -/

namespace Client

variable {β : Type} {c : Client} {command : Command} {extract : Envelope → Except Verdict β}
  {r : Response}

/-- A check that finds a caller without a deadline there. -/
def calm : List Event := [⟨.cancelled, false⟩, ⟨.timeLeft, none⟩]

/-- An attempt that has its token at once and is answered. -/
def answered (c : Client) (command : Command) (r : Response) : List Event :=
  calm ++ granted :: (calm ++
    [⟨.timeLeft, none⟩, ⟨.other (c.request command none), .answered (.ok r)⟩])

/-- A command that is admitted and makes one attempt, which is answered; the breaker hears `o`. -/
def served (c : Client) (command : Command) (r : Response) (o : Outcome := .success) : List Event :=
  ⟨.other .enter, .ok .normal⟩ ::
    (calm ++ c.answered command r ++ [⟨.other (.settle .normal o), ()⟩])

/-- The first answer settles the command, unless it is worth another attempt. -/
theorem runs_of_read {result : Except Verdict β} (hw : 0 < c.waits)
    (reads : read extract r = result) (final : ∀ v, result = .error v → v.policy 0 = .stop) :
    let ended := result.mapError (RetryFailure.stopped 1)
    Runs (c.execute command extract) (c.served command r (judge ended))
      (ended.mapError RetryFailure.toFailure) := by
  intro ended
  have passes : Runs Task.check calm none := runs_check_iff.2 (.inr (.inr ⟨none, nofun, rfl, rfl⟩))
  have tries : Runs (c.attempt command extract) (c.answered command r) result := by
    rw [← reads]
    exact runs_attempt hw none (.answered (.ok r)) passes passes
  have trials : Runs (c.attempts command extract) (calm ++ c.answered command r) ended := by
    unfold attempts Retry.execute
    rw [Retry.executeFrom_eq_andThen]
    refine runs_andThen_iff.2 ⟨calm, _, none, rfl, passes, ?_⟩
    refine runs_andThen_iff.2 ⟨_, [], result, (List.append_nil _).symm, tries, ?_⟩
    rcases result with v | b
    · rw [Retry.afterAttempt_of_stop (final v rfl)]
      exact .done _
    · exact .done _
  rw [execute_eq]
  refine runs_ask_iff.2 ⟨.ok .normal, _, rfl, runs_andThen_iff.2 ⟨_, _, _, rfl, trials, ?_⟩⟩
  exact runs_ask_iff.2 ⟨(), [], rfl, .done _⟩

theorem runs_served {envelope : Envelope} {b : β} (hw : 0 < c.waits)
    (decoded : Envelope.decode r.body r.status = .ok envelope) (held : extract envelope = .ok b) :
    Runs (c.execute command extract) (c.served command r) (.ok b) := by
  have reads : read extract r = .ok b := by
    unfold read
    rw [decoded]
    exact held
  exact runs_of_read hw reads nofun

/-- A command whose only answer says no, or cannot be understood. -/
theorem runs_declined {v : Verdict} (hw : 0 < c.waits) (reads : read extract r = .error v)
    (final : v.policy 0 = .stop) :
    Runs (c.execute command extract) (c.served command r v.outcome) (.error (v.toFailure 1)) :=
  runs_of_read hw reads fun _ h => Except.error.inj h ▸ final

/-- An operation whose command is served at once, and that then sends nothing more. -/
theorem runs_run_bind {γ : Type} {fields : Xml.Fields β} {f : β → Operation γ}
    {envelope : Envelope} {b : β} {answer : Except Failure γ} (hw : 0 < c.waits)
    (decoded : Envelope.decode r.body r.status = .ok envelope)
    (held : envelope.payload fields.reader = .ok b) (rest : (f b).run = .done answer) :
    Runs (c.run command fields >>= f).run (c.served command r) answer := by
  refine Operation.runs_bind_iff.2 (.inr ⟨_, [], b, (List.append_nil _).symm, ?_, ?_⟩)
  · exact runs_served hw decoded held
  · rw [rest]
    exact .done answer

end Client

end Registrar
