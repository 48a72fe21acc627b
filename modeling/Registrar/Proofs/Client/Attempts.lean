import Registrar.Proofs.Client.Attempt

/-!
# The attempts of a command

Once the breaker has admitted a command, the command makes its attempts and settles its permit.
`Makes events attempts rest` cuts what a command has asked into its attempts; `makes_of_reaches`
shows that this is possible at every moment. All tokens and exchanges of a command are those of its
attempts (`Makes.tally`), and while it does not go on by itself the tokens that brought no exchange
are those of callers who were gone (`Makes.balance`).
-/

namespace Registrar

open Dialogue Retry

/-! ## Where a retry loop stands -/

namespace Retry

variable {Q : Type} {A : Q → Type} {ε α : Type} {plan : RetryPlan}
  {policy : ε → Nat → RetryDecision} {operation : Nat → Task Q A (Except ε α)}
  {left attempt : Nat} {events : List (Task.Event Q A)} {attempts : List (List (Task.Event Q A))}
  {rest : Task Q A (Except (RetryFailure ε) α)}

/-- Every attempt of a loop is one of the operation, as far as it has come. -/
theorem Course.reaches (h : Course plan policy operation left attempt events attempts rest) :
    ∀ trial ∈ attempts, ∃ k d, Reaches (operation k) trial d := by
  induction h with
  | checks => exact nofun
  | tries check trial => exact List.forall_mem_singleton.2 ⟨_, _, trial⟩
  | pauses check trial => exact List.forall_mem_singleton.2 ⟨_, _, runs_iff_reaches_done.1 trial⟩
  | repeats check trial _ _ _ ih =>
    exact List.forall_mem_cons.2 ⟨⟨_, _, runs_iff_reaches_done.1 trial⟩, ih⟩

end Retry

namespace Client

variable {β γ δ : Type}

theorem pending_andThen {d : Call γ} {f : γ → Call δ} (h : ∀ a, pending (f a) = 0) :
    pending (d.andThen f) = pending d := by
  cases d with
  | done a => exact h a
  | ask q next => rcases q with _ | _ | _ | _ | _ | _ | _ <;> rfl

/-- Waiting is no exchange. -/
theorem pending_andThen_of_toCaller {d : Call γ} {f : γ → Call δ} (hd : d.AsksOnly Ask.ToCaller)
    (hf : ∀ a, d = .done a → pending (f a) = 0) : pending (d.andThen f) = 0 := by
  cases d with
  | done a => exact hf a rfl
  | ask q next =>
    cases q with
    | cancelled | timeLeft | pause => rfl
    | other q => exact hd.1.elim

theorem Parked.of_andThen {d : Call γ} {f : γ → Call δ} (h : Parked (d.andThen f)) : Parked d := by
  cases d with
  | done a => trivial
  | ask q next =>
    cases q with
    | cancelled | timeLeft => exact h.elim
    | pause | other => trivial

section

variable {c : Client} {command : Command} {extract : Envelope → Except Verdict β}
  {left attempt : Nat} {events : List Event} {attempts : List (List Event)}
  {d : Call (Except (RetryFailure Verdict) β)}

/-- Where the retry loop of a command stands. -/
abbrev Trials (c : Client) (command : Command) (extract : Envelope → Except Verdict β) :
    Nat → Nat → List Event → List (List Event) → Call (Except (RetryFailure Verdict) β) → Prop :=
  Course c.plan Verdict.policy fun _ => c.attempt command extract

theorem check_toCaller : (Task.check : Call _).AsksOnly Ask.ToCaller :=
  check_asksOnly trivial trivial

theorem sleep_toCaller (length : Duration) : (Task.sleep length : Call _).AsksOnly Ask.ToCaller :=
  sleep_asksOnly trivial trivial (fun _ => trivial) length

theorem pending_afterAttempt (result : Except Verdict β) :
    pending (afterAttempt c.plan Verdict.policy (fun _ => c.attempt command extract) left
      attempt result) = 0 := by
  obtain ⟨answer, h⟩ | ⟨e, delay, later, -, -, -, h⟩ := afterAttempt_cases c.plan Verdict.policy
    (fun _ => c.attempt command extract) left attempt result
  · rw [h]
    rfl
  · rw [h, sleep_eq, andThen_andThen, check_eq]
    rfl

theorem pending_afterCheck {d : Call (Option Interruption)}
    (check : Reaches Task.check events d) (unpassed : d ≠ .done none) :
    pending (d.andThen (afterCheck c.plan Verdict.policy
      (fun _ => c.attempt command extract) left attempt)) = 0 := by
  refine pending_andThen_of_toCaller (check_toCaller.of_reaches check).2 fun i hi => ?_
  cases i with
  | none => exact absurd hi unpassed
  | some cause => rfl

theorem pending_afterPause {d : Call (Option Interruption)} {length : Duration}
    (pause : Reaches (Task.sleep length) events d) (unpassed : d ≠ .done none) :
    pending (d.andThen (afterPause c.plan Verdict.policy
      (fun _ => c.attempt command extract) left attempt)) = 0 := by
  refine pending_andThen_of_toCaller ((sleep_toCaller length).of_reaches pause).2 fun i hi => ?_
  cases i with
  | none => exact absurd hi unpassed
  | some cause => rfl

/-- What the retry loop asks beside its attempts brings no token and is no exchange. -/
theorem exchanges_of_trials (h : Trials c command extract left attempt events attempts d) :
    exchanges events = exchanges attempts.flatten ∧ grants events = grants attempts.flatten := by
  induction h with
  | checks check =>
    have hq := quiet_of_check check
    exact ⟨hq.exchanges, hq.grants⟩
  | tries check trial =>
    have hq := quiet_of_check (runs_iff_reaches_done.1 check)
    simp [hq.exchanges, hq.grants]
  | pauses check trial again pause =>
    have hq := quiet_of_check (runs_iff_reaches_done.1 check)
    have hp := quiet_of_sleep pause
    simp [hq.exchanges, hq.grants, hp.exchanges, hp.grants]
  | repeats check trial again pause course ih =>
    have hq := quiet_of_check (runs_iff_reaches_done.1 check)
    have hp := quiet_of_sleep (runs_iff_reaches_done.1 pause)
    simp [hq.exchanges, hq.grants, hp.exchanges, hp.grants, ih]

/-- An exchange that is under way belongs to the last attempt, which has its token. -/
theorem granted_of_pending (h : Trials c command extract left attempt events attempts d)
    (hp : pending d = 1) :
    ∃ last ∈ attempts.getLast?, grants last = 1 ∧ exchanges last = [] := by
  induction h with
  | checks check unpassed =>
    rw [pending_afterCheck check unpassed] at hp
    cases hp
  | @tries _ _ _ events _ check trial =>
    rw [pending_andThen pending_afterAttempt] at hp
    obtain ⟨lower, upper⟩ := (stage_of_reaches trial).counts
    exact ⟨events, rfl, by omega, List.length_eq_zero_iff.1 (by omega)⟩
  | pauses check trial again pause unpassed =>
    rw [pending_afterPause pause unpassed] at hp
    cases hp
  | repeats check trial again pause course ih =>
    obtain ⟨last, hlast, h⟩ := ih hp
    refine ⟨last, ?_, h⟩
    simp [List.getLast?_cons, Option.mem_def.1 hlast]

theorem countP_lapsed_cons (trial : List Event) (attempts : List (List Event)) :
    (trial :: attempts).countP lapsed = (lapsed trial).toNat + attempts.countP lapsed := by
  rw [List.countP_cons, Nat.add_comm]
  cases lapsed trial <;> rfl

/-- The tokens of a loop that does not go on by itself were spent on its exchanges, but for those of
callers who were gone. -/
theorem balance_of_trials (h : Trials c command extract left attempt events attempts d)
    (parked : Parked d) :
    grants events = (exchanges events).length + pending d + attempts.countP lapsed := by
  induction h with
  | checks check unpassed =>
    have hq := quiet_of_check check
    rw [pending_afterCheck check unpassed]
    simp [hq.exchanges, hq.grants]
  | tries check trial =>
    have hq := quiet_of_check (runs_iff_reaches_done.1 check)
    have hb := (stage_of_reaches trial).balance parked.of_andThen
    rw [pending_andThen pending_afterAttempt, countP_lapsed_cons]
    simpa [hq.exchanges, hq.grants] using hb
  | pauses check trial again pause unpassed =>
    have hq := quiet_of_check (runs_iff_reaches_done.1 check)
    have hp := quiet_of_sleep pause
    have hb := (stage_of_reaches (runs_iff_reaches_done.1 trial)).balance trivial
    rw [pending_afterPause pause unpassed, countP_lapsed_cons]
    simpa [hq.exchanges, hq.grants, hp.exchanges, hp.grants] using hb
  | repeats check trial again pause course ih =>
    have hq := quiet_of_check (runs_iff_reaches_done.1 check)
    have hp := quiet_of_sleep (runs_iff_reaches_done.1 pause)
    have hb := (stage_of_reaches (runs_iff_reaches_done.1 trial)).balance trivial
    have hr := ih parked
    rw [countP_lapsed_cons]
    simp only [exchanges_append, grants_append, hq.exchanges, hq.grants, hp.exchanges, hp.grants,
      List.length_append, List.length_nil, pending_done] at hb ⊢
    omega

/-! ## Commands -/

/-- The end of an admitted command. -/
def finish (a : Admission) (result : Except (RetryFailure Verdict) β) : Call (Except Failure β) :=
  .ask (.other (.settle a (judge result))) fun _ =>
    .done (result.mapError RetryFailure.toFailure)

/-- A command has asked these events, of which those attempts are a part, and this is left of it. -/
inductive Makes (c : Client) (command : Command) (extract : Envelope → Except Verdict β) :
    List Event → List (List Event) → Call (Except Failure β) → Prop
  | starts : Makes c command extract [] [] (c.execute command extract)
  | refused (r : Refusal) :
      Makes c command extract [⟨.other .enter, .error r⟩] [] (.done (.error r.toFailure))
  | tries (a : Admission) {events : List Event} {attempts : List (List Event)}
      {d : Call (Except (RetryFailure Verdict) β)}
      (trials : Trials c command extract (c.plan.maxAttempts - 1) 0 events attempts d) :
      Makes c command extract (⟨.other .enter, .ok a⟩ :: events) attempts
        (d.andThen (finish a))
  | ends (a : Admission) {events : List Event} {attempts : List (List Event)}
      {result : Except (RetryFailure Verdict) β}
      (trials : Trials c command extract (c.plan.maxAttempts - 1) 0 events attempts
        (.done result)) :
      Makes c command extract
        (⟨.other .enter, .ok a⟩ :: (events ++ [⟨.other (.settle a (judge result)), ()⟩])) attempts
        (.done (result.mapError RetryFailure.toFailure))

theorem makes_of_reaches {rest : Call (Except Failure β)}
    (h : Reaches (c.execute command extract) events rest) :
    ∃ attempts, Makes c command extract events attempts rest := by
  have start := execute_eq c command extract
  rw [start] at h
  replace h := reaches_ask_iff.1 h
  obtain ⟨rfl, rfl⟩ | ⟨answer, events, rfl, h⟩ := h
  · rw [← start]
    exact ⟨[], .starts⟩
  cases answer with
  | error r =>
    obtain ⟨rfl, rfl⟩ := reaches_done_iff.1 h
    exact ⟨[], .refused r⟩
  | ok a =>
    replace h := reaches_andThen_iff.1 h
    obtain ⟨q, next, htrials, rfl⟩ | ⟨before, after, result, rfl, htrials, h⟩ := h
    · obtain ⟨attempts, trials⟩ := course_of_reaches htrials
      exact ⟨attempts, .tries a trials⟩
    obtain ⟨attempts, trials⟩ := course_of_reaches (runs_iff_reaches_done.1 htrials)
    refine ⟨attempts, ?_⟩
    replace h := reaches_ask_iff.1 h
    obtain ⟨rfl, rfl⟩ | ⟨_, after, rfl, h⟩ := h
    · rw [List.append_nil]
      exact .tries a trials
    · obtain ⟨rfl, rfl⟩ := reaches_done_iff.1 h
      exact .ends a trials

variable {rest : Call (Except Failure β)}

theorem pending_finish (a : Admission) (result : Except (RetryFailure Verdict) β) :
    pending (finish a result) = 0 := rfl

theorem quiet_settle (a : Admission) (o : Outcome) : Quiet [⟨.other (.settle a o), ()⟩] :=
  ⟨rfl, rfl⟩

/-- Beside its attempts a command speaks to the breaker alone. -/
theorem Makes.tally (h : Makes c command extract events attempts rest) :
    exchanges events = exchanges attempts.flatten ∧ grants events = grants attempts.flatten := by
  cases h with
  | starts | refused => exact ⟨rfl, rfl⟩
  | tries a trials =>
    rw [exchanges_cons_of_none rfl, grants_cons_of_false rfl]
    exact exchanges_of_trials trials
  | ends a trials =>
    rw [exchanges_cons_of_none rfl, grants_cons_of_false rfl, exchanges_append, grants_append]
    simp [(quiet_settle a _).exchanges, (quiet_settle a _).grants, exchanges_of_trials trials]

/-- The attempts of a command are what they are called. -/
theorem Makes.reaches (h : Makes c command extract events attempts rest) :
    ∀ trial ∈ attempts, ∃ d, Reaches (c.attempt command extract) trial d := by
  cases h with
  | starts | refused => exact nofun
  | tries a trials | ends a trials =>
    intro trial ht
    obtain ⟨_, d, hd⟩ := trials.reaches trial ht
    exact ⟨d, hd⟩

theorem Makes.granted_of_pending (h : Makes c command extract events attempts rest)
    (hp : pending rest = 1) :
    ∃ last ∈ attempts.getLast?, grants last = 1 ∧ exchanges last = [] := by
  cases h with
  | starts | refused | ends => cases hp
  | tries a trials =>
    rw [pending_andThen (pending_finish a)] at hp
    exact Client.granted_of_pending trials hp

/-- The tokens of a command that does not go on by itself were spent on its exchanges, but for those
that came when the caller was gone. -/
theorem Makes.balance (h : Makes c command extract events attempts rest)
    (parked : Parked rest) :
    grants events = (exchanges events).length + pending rest + attempts.countP lapsed := by
  cases h with
  | starts | refused => rfl
  | tries a trials =>
    rw [exchanges_cons_of_none rfl, grants_cons_of_false rfl, pending_andThen (pending_finish a)]
    exact balance_of_trials trials parked.of_andThen
  | ends a trials =>
    rw [exchanges_cons_of_none rfl, grants_cons_of_false rfl, exchanges_append, grants_append]
    simpa [(quiet_settle a _).exchanges, (quiet_settle a _).grants] using
      balance_of_trials trials trivial

end

end Client

end Registrar
