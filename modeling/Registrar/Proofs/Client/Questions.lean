import Registrar.Client

/-!
# What a command asks

The tasks of a command written as trees of questions, one equation each (`check_eq` to
`execute_eq`). `d.AsksOnly p` says that every question of the dialogue `d` has the property `p`,
whatever the answers. The attempts of a command never speak to the breaker
(`attempts_asksOnly`), so that a command asks it twice at most: for its permit first, and to settle
it last.
-/

namespace Registrar

namespace Dialogue

variable {Q : Type} {A : Q → Type} {α β : Type} {p : Q → Prop}

/-- Every question that the dialogue can come to has this property. -/
def AsksOnly (p : Q → Prop) : Dialogue Q A α → Prop
  | done _ => True
  | ask q next => p q ∧ ∀ r, (next r).AsksOnly p

theorem AsksOnly.andThen {d : Dialogue Q A α} {f : α → Dialogue Q A β} (hd : d.AsksOnly p)
    (hf : ∀ a, (f a).AsksOnly p) : (d.andThen f).AsksOnly p := by
  induction d with
  | done a => exact hf a
  | ask q next ih => exact ⟨hd.1, fun r => ih r (hd.2 r)⟩

/-- What has been asked has the property, and so has what will be. -/
theorem AsksOnly.of_reaches {d e : Dialogue Q A α} {events : List (Exchange Q A)}
    (hd : d.AsksOnly p) (h : Reaches d events e) : (∀ x ∈ events, p x.1) ∧ e.AsksOnly p := by
  induction h with
  | here d => exact ⟨nofun, hd⟩
  | ask r _ ih =>
    obtain ⟨asked, left⟩ := ih (hd.2 r)
    exact ⟨List.forall_mem_cons.2 ⟨hd.1, asked⟩, left⟩

end Dialogue

open Dialogue

/-- The question is one to the caller. -/
def Ask.ToCaller {Q : Type} : Ask Q → Prop
  | .other _ => False
  | _ => True

/-- A question of a task and its answer. -/
abbrev Task.Event (Q : Type) (A : Q → Type) := Exchange (Ask Q) (Ask.Answer A)

/-! ## Waiting -/

section

variable {Q : Type} {A : Q → Type} {ε α : Type}

theorem check_eq :
    (Task.check : Task Q A _) =
      .ask .cancelled fun (cut : Bool) =>
        if cut then .done (some .cancelled)
        else .ask .timeLeft fun (left : Option Duration) =>
          if left = some 0 then .done (some .deadlineExceeded) else .done none := rfl

theorem sleep_eq (d : Duration) :
    (Task.sleep d : Task Q A _) =
      Task.check.andThen fun
        | some i => .done (some i)
        | none => .ask .timeLeft fun (left : Option Duration) =>
          match left with
          | some left =>
            if left < d then
              .ask (.pause left) fun (cut : Bool) =>
                .done (some (if cut then .cancelled else .deadlineExceeded))
            else .ask (.pause d) fun (cut : Bool) => .done (if cut then some .cancelled else none)
          | none =>
            .ask (.pause d) fun (cut : Bool) => .done (if cut then some .cancelled else none) := by
  refine congrArg (andThen Task.check) (funext fun i => ?_)
  cases i with
  | some i => rfl
  | none =>
    refine congrArg (ask Ask.timeLeft) (funext fun left => ?_)
    cases left <;> rfl

theorem acquireWithin_succ (take : Task Q A (Option Duration)) (tries : Nat) :
    Limiter.acquireWithin take (tries + 1) =
      Task.check.andThen fun
        | some i => .done (.error (.ofInterruption i))
        | none => take.andThen fun
          | none => .done (.ok ())
          | some wait => .ask .timeLeft fun (left : Option Duration) =>
            if left.any (· < wait) then .done (.error (.tooLate wait))
            else (Task.sleep wait).andThen fun
              | some i => .done (.error (.ofInterruption i))
              | none => Limiter.acquireWithin take tries := rfl

theorem executeFrom_eq (plan : RetryPlan) (policy : ε → Nat → RetryDecision)
    (operation : Nat → Task Q A (Except ε α)) (left attempt : Nat) :
    Retry.executeFrom plan policy operation left attempt =
      Task.check.andThen fun
        | some cause => .done (.error (.interrupted attempt cause))
        | none => (operation attempt).andThen fun
          | .ok value => .done (.ok value)
          | .error e =>
            match Retry.pauseAfter plan attempt (policy e attempt), left with
            | none, _ => .done (.error (.stopped (attempt + 1) e))
            | some _, 0 => .done (.error (.exhausted (attempt + 1) e))
            | some delay, left + 1 => (Task.sleep delay).andThen fun
              | some cause => .done (.error (.interrupted (attempt + 1) cause))
              | none => Retry.executeFrom plan policy operation left (attempt + 1) := by
  rw [Retry.executeFrom.eq_def]
  refine congrArg (andThen Task.check) (funext fun i => ?_)
  cases i with
  | some cause => rfl
  | none =>
    refine congrArg (andThen (operation attempt)) (funext fun result => ?_)
    cases result with
    | ok value => rfl
    | error e =>
      simp only
      cases Retry.pauseAfter plan attempt (policy e attempt) with
      | none => rfl
      | some delay => cases left <;> rfl

end

/-! ## Commands -/

section

variable {β : Type} (c : Client) (command : Command) (extract : Envelope → Except Verdict β)

theorem exchange_eq (request : Request) :
    c.exchange request =
      (Task.check.andThen fun
        | some cause => .done (.error (.interrupted cause))
        | none => .ask .timeLeft fun (left : Option Duration) =>
          .ask (.other (Connection.Question.send request c.attemptTimeout left))
            fun (sent : Connection.Sent) =>
              match sent with
              | .answered (.ok r) => .done (.ok r)
              | .answered (.error e) => .done (.error (.ofTransport e))
              | .timedOut =>
                .done (.error
                  (.transient ("attempt timed out after " ++ Duration.text c.attemptTimeout)))
              | .cut cause => .done (.error (.interrupted cause)) :
        Call (Except Verdict Response)) := by
  refine congrArg (andThen Task.check) (funext fun i => ?_)
  cases i with
  | some cause => rfl
  | none =>
    refine congrArg (ask Ask.timeLeft) (funext fun left => ?_)
    refine congrArg (ask _) (funext fun sent => ?_)
    rcases sent with (_ | _) | _ | _ <;> rfl

theorem attempt_eq :
    c.attempt command extract =
      (Limiter.acquire Connection.take c.waits).andThen fun
        | .error refusal => .done (.error (.ofSlotRefusal refusal))
        | .ok () => (c.exchange (.ofCommand command c.credentials c.endpoint)).andThen fun
          | .error v => .done (.error v)
          | .ok r => .done (Client.read extract r) := rfl

theorem execute_eq :
    c.execute command extract =
      .ask (.other .enter) fun (answer : Except Refusal Admission) =>
        match answer with
        | .error refusal => .done (.error refusal.toFailure)
        | .ok a => (c.attempts command extract).andThen fun result =>
          .ask (.other (.settle a (judge result))) fun _ =>
            .done (result.mapError RetryFailure.toFailure) := by
  refine congrArg (ask (Ask.other Connection.Question.enter)) (funext fun answer => ?_)
  cases answer with
  | error refusal => rfl
  | ok a =>
    refine congrArg (andThen (c.attempts command extract)) (funext fun result => ?_)
    refine congrArg (ask _) (funext fun _ => ?_)
    cases result <;> rfl

end

/-! ## Questions that do not concern the breaker -/

section

variable {Q : Type} {A : Q → Type} {ε α : Type} {p : Ask Q → Prop}
  (hc : p .cancelled) (ht : p .timeLeft) (hp : ∀ d, p (.pause d))
include hc ht

theorem check_asksOnly : (Task.check : Task Q A _).AsksOnly p := by
  rw [check_eq]
  refine ⟨hc, fun cut => ?_⟩
  dsimp only
  split
  · trivial
  · refine ⟨ht, fun left => ?_⟩
    dsimp only
    split <;> trivial

include hp

theorem sleep_asksOnly (d : Duration) : (Task.sleep d : Task Q A _).AsksOnly p := by
  rw [sleep_eq]
  refine (check_asksOnly hc ht).andThen fun i => ?_
  cases i with
  | some i => trivial
  | none =>
    refine ⟨ht, fun left => ?_⟩
    dsimp only
    split
    · split
      · exact ⟨hp _, fun _ => trivial⟩
      · exact ⟨hp _, fun _ => trivial⟩
    · exact ⟨hp _, fun _ => trivial⟩

theorem acquireWithin_asksOnly {take : Task Q A (Option Duration)} (htake : take.AsksOnly p)
    (tries : Nat) : (Limiter.acquireWithin take tries).AsksOnly p := by
  induction tries with
  | zero => trivial
  | succ tries ih =>
    rw [acquireWithin_succ]
    refine (check_asksOnly hc ht).andThen fun i => ?_
    cases i with
    | some i => trivial
    | none =>
      refine htake.andThen fun wait => ?_
      cases wait with
      | none => trivial
      | some wait =>
        refine ⟨ht, fun left => ?_⟩
        dsimp only
        split
        · trivial
        · refine (sleep_asksOnly hc ht hp wait).andThen fun i => ?_
          cases i with
          | some i => trivial
          | none => exact ih

theorem executeFrom_asksOnly {plan : RetryPlan} {policy : ε → Nat → RetryDecision}
    {operation : Nat → Task Q A (Except ε α)} (hop : ∀ k, (operation k).AsksOnly p)
    (left attempt : Nat) : (Retry.executeFrom plan policy operation left attempt).AsksOnly p := by
  induction left generalizing attempt with
  | zero =>
    rw [executeFrom_eq]
    refine (check_asksOnly hc ht).andThen fun i => ?_
    cases i with
    | some cause => trivial
    | none =>
      refine (hop attempt).andThen fun result => ?_
      cases result with
      | ok value => trivial
      | error e =>
        simp only
        cases Retry.pauseAfter plan attempt (policy e attempt) <;> trivial
  | succ left ih =>
    rw [executeFrom_eq]
    refine (check_asksOnly hc ht).andThen fun i => ?_
    cases i with
    | some cause => trivial
    | none =>
      refine (hop attempt).andThen fun result => ?_
      cases result with
      | ok value => trivial
      | error e =>
        simp only
        cases Retry.pauseAfter plan attempt (policy e attempt) with
        | none => trivial
        | some delay =>
          refine (sleep_asksOnly hc ht hp delay).andThen fun i => ?_
          cases i with
          | some cause => trivial
          | none => exact ih (attempt + 1)

end

/-- The question is not one to the breaker. -/
def Connection.PassesBreaker : Ask Connection.Question → Prop
  | .other .enter | .other (.settle ..) => False
  | _ => True

theorem attempts_asksOnly {β : Type} (c : Client) (command : Command)
    (extract : Envelope → Except Verdict β) :
    (c.attempts command extract).AsksOnly Connection.PassesBreaker := by
  refine executeFrom_asksOnly trivial trivial (fun _ => trivial) (fun k => ?_) _ _
  rw [attempt_eq]
  have htake : Connection.take.AsksOnly Connection.PassesBreaker := ⟨trivial, fun _ => trivial⟩
  refine (acquireWithin_asksOnly trivial trivial (fun _ => trivial) htake _).andThen fun slot => ?_
  cases slot with
  | error refusal => trivial
  | ok token =>
    have hex : (c.exchange (.ofCommand command c.credentials c.endpoint)).AsksOnly
        Connection.PassesBreaker := by
      rw [exchange_eq]
      refine (check_asksOnly trivial trivial).andThen fun i => ?_
      cases i with
      | some cause => trivial
      | none =>
        refine ⟨trivial, fun left => ⟨trivial, fun sent => ?_⟩⟩
        rcases sent with (_ | _) | _ | _ <;> trivial
    refine hex.andThen fun result => ?_
    cases result <;> trivial

end Registrar
