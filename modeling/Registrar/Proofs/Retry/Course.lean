import Registrar.Proofs.Client.Questions

/-!
# The course of a retry loop

A loop of retries goes in rounds: it checks its caller, makes an attempt and, if the policy wants
another one, pauses. `Course left attempt events attempts rest` tells where a loop stands that has
`left` attempts after attempt `attempt`: it has asked `events`, of which `attempts` belong to the
operation, one list for each attempt, and `rest` is what it does next. A loop is always at a point
of its course and nowhere else (`course_of_reaches`, `reaches_of_course`); `Course.ends` tells what
its result says of the attempts.
-/

namespace Registrar.Retry

open Dialogue

variable {Q : Type} {A : Q → Type} {ε α : Type} (plan : RetryPlan)
  (policy : ε → Nat → RetryDecision) (operation : Nat → Task Q A (Except ε α))

/-! ## The parts of a round -/

/-- What follows the pause after this many attempts. -/
def afterPause (left attempts : Nat) :
    Option Interruption → Task Q A (Except (RetryFailure ε) α)
  | some cause => .done (.error (.interrupted attempts cause))
  | none => executeFrom plan policy operation left attempts

/-- What follows attempt `attempt`. -/
def afterAttempt (left attempt : Nat) : Except ε α → Task Q A (Except (RetryFailure ε) α)
  | .ok value => .done (.ok value)
  | .error e =>
    match pauseAfter plan attempt (policy e attempt), left with
    | none, _ => .done (.error (.stopped (attempt + 1) e))
    | some _, 0 => .done (.error (.exhausted (attempt + 1) e))
    | some delay, left + 1 =>
      (Task.sleep delay).andThen (afterPause plan policy operation left (attempt + 1))

/-- What follows the check before attempt `attempt`. -/
def afterCheck (left attempt : Nat) :
    Option Interruption → Task Q A (Except (RetryFailure ε) α)
  | some cause => .done (.error (.interrupted attempt cause))
  | none => (operation attempt).andThen (afterAttempt plan policy operation left attempt)

theorem executeFrom_eq_andThen (left attempt : Nat) :
    executeFrom plan policy operation left attempt =
      Task.check.andThen (afterCheck plan policy operation left attempt) := by
  rw [executeFrom_eq]
  refine congrArg (andThen Task.check) (funext fun i => ?_)
  cases i with
  | some cause => rfl
  | none =>
    refine congrArg (andThen (operation attempt)) (funext fun result => ?_)
    cases result with
    | ok value => rfl
    | error e =>
      simp only [afterAttempt]
      cases pauseAfter plan attempt (policy e attempt) with
      | none => rfl
      | some delay =>
        cases left with
        | zero => rfl
        | succ left =>
          refine congrArg (andThen (Task.sleep delay)) (funext fun i => ?_)
          cases i <;> rfl

variable {plan policy operation} in
/-- A failed attempt that the policy does not repeat is the last one. -/
theorem afterAttempt_of_stop {left attempt : Nat} {e : ε} (final : policy e attempt = .stop) :
    afterAttempt plan policy operation left attempt (.error e) =
      .done (.error (.stopped (attempt + 1) e)) := by
  simp only [afterAttempt, final, pauseAfter]

variable {plan policy operation} in
/-- A failed attempt with another one left is followed by its pause. -/
theorem afterAttempt_of_pause {left attempt : Nat} {e : ε} {delay : Duration}
    (again : pauseAfter plan attempt (policy e attempt) = some delay) :
    afterAttempt plan policy operation (left + 1) attempt (.error e) =
      (Task.sleep delay).andThen (afterPause plan policy operation left (attempt + 1)) := by
  simp only [afterAttempt, again]

/-- An attempt is the last one, or it failed and there is a pause after it. -/
theorem afterAttempt_cases (left attempt : Nat) (result : Except ε α) :
    (∃ answer, afterAttempt plan policy operation left attempt result = .done answer) ∨
      ∃ e delay later, result = .error e ∧
        pauseAfter plan attempt (policy e attempt) = some delay ∧ left = later + 1 ∧
        afterAttempt plan policy operation left attempt result =
          (Task.sleep delay).andThen (afterPause plan policy operation later (attempt + 1)) := by
  cases result with
  | ok value => exact .inl ⟨_, rfl⟩
  | error e =>
    simp only [afterAttempt]
    cases hp : pauseAfter plan attempt (policy e attempt) with
    | none => exact .inl ⟨_, rfl⟩
    | some delay =>
      cases left with
      | zero => exact .inl ⟨_, rfl⟩
      | succ later => exact .inr ⟨e, delay, later, rfl, hp, rfl, rfl⟩

/-! ## Where a loop stands -/

inductive Course : Nat → Nat → List (Task.Event Q A) → List (List (Task.Event Q A)) →
    Task Q A (Except (RetryFailure ε) α) → Prop
  /-- Before the attempt, the caller perhaps being gone. -/
  | checks {left attempt : Nat} {before : List (Task.Event Q A)}
      {d : Task Q A (Option Interruption)} (check : Reaches Task.check before d)
      (unpassed : d ≠ .done none) :
      Course left attempt before [] (d.andThen (afterCheck plan policy operation left attempt))
  /-- In the attempt or at its end. -/
  | tries {left attempt : Nat} {before events : List (Task.Event Q A)} {d : Task Q A (Except ε α)}
      (check : Runs Task.check before none)
      (trial : Reaches (operation attempt) events d) :
      Course left attempt (before ++ events) [events]
        (d.andThen (afterAttempt plan policy operation left attempt))
  /-- In the pause after the attempt, or at an end that the caller put to it. -/
  | pauses {left attempt : Nat} {before events after : List (Task.Event Q A)} {e : ε}
      {delay : Duration} {d : Task Q A (Option Interruption)}
      (check : Runs Task.check before none) (trial : Runs (operation attempt) events (.error e))
      (again : pauseAfter plan attempt (policy e attempt) = some delay)
      (pause : Reaches (Task.sleep delay) after d) (unpassed : d ≠ .done none) :
      Course (left + 1) attempt (before ++ events ++ after) [events]
        (d.andThen (afterPause plan policy operation left (attempt + 1)))
  /-- In a later round. -/
  | repeats {left attempt : Nat} {before events after later : List (Task.Event Q A)} {e : ε}
      {delay : Duration} {attempts : List (List (Task.Event Q A))}
      {rest : Task Q A (Except (RetryFailure ε) α)}
      (check : Runs Task.check before none) (trial : Runs (operation attempt) events (.error e))
      (again : pauseAfter plan attempt (policy e attempt) = some delay)
      (pause : Runs (Task.sleep delay) after none)
      (course : Course left (attempt + 1) later attempts rest) :
      Course (left + 1) attempt (before ++ events ++ after ++ later) (events :: attempts) rest

variable {plan policy operation} {left attempt : Nat} {events : List (Task.Event Q A)}
  {attempts : List (List (Task.Event Q A))}
  {rest : Task Q A (Except (RetryFailure ε) α)} {answer : Except (RetryFailure ε) α}

/-- A loop is always at some point of its course. -/
theorem course_of_reaches
    (h : Reaches (executeFrom plan policy operation left attempt) events rest) :
    ∃ attempts, Course plan policy operation left attempt events attempts rest := by
  -- A round that is followed by another one leaves an attempt less.
  induction left using Nat.strongRecOn generalizing attempt events with
  | ind left ih =>
    rw [executeFrom_eq_andThen, reaches_andThen_iff] at h
    obtain ⟨q, next, hcheck, rfl⟩ | ⟨before, events, i, rfl, hcheck, h⟩ := h
    · exact ⟨[], .checks hcheck nofun⟩
    cases i with
    | some cause =>
      obtain ⟨rfl, rfl⟩ := reaches_done_iff.1 h
      rw [List.append_nil]
      exact ⟨[], .checks (runs_iff_reaches_done.1 hcheck) nofun⟩
    | none =>
      rw [afterCheck, reaches_andThen_iff] at h
      obtain ⟨q, next, htrial, rfl⟩ | ⟨events, after, result, rfl, htrial, h⟩ := h
      · exact ⟨[events], .tries hcheck htrial⟩
      obtain ⟨answer, hend⟩ | ⟨e, delay, later, rfl, hp, rfl, hpause⟩ :=
        afterAttempt_cases plan policy operation left attempt result
      · rw [hend, reaches_done_iff] at h
        obtain ⟨rfl, rfl⟩ := h
        rw [List.append_nil, ← hend]
        exact ⟨[events], .tries hcheck (runs_iff_reaches_done.1 htrial)⟩
      · rw [hpause, reaches_andThen_iff] at h
        obtain ⟨q, next, hsleep, rfl⟩ | ⟨after, events', i, rfl, hsleep, h⟩ := h
        · rw [← List.append_assoc]
          exact ⟨[events], .pauses hcheck htrial hp hsleep nofun⟩
        cases i with
        | some cause =>
          obtain ⟨rfl, rfl⟩ := reaches_done_iff.1 h
          rw [List.append_nil, ← List.append_assoc]
          exact ⟨[events], .pauses hcheck htrial hp (runs_iff_reaches_done.1 hsleep) nofun⟩
        | none =>
          obtain ⟨attempts, hlater⟩ := ih later (Nat.lt_succ_self later) h
          rw [← List.append_assoc, ← List.append_assoc]
          exact ⟨events :: attempts, .repeats hcheck htrial hp hsleep hlater⟩

/-- Every point of the course is one that a loop comes to. -/
theorem reaches_of_course (h : Course plan policy operation left attempt events attempts rest) :
    Reaches (executeFrom plan policy operation left attempt) events rest := by
  induction h with
  | checks check =>
    rw [executeFrom_eq_andThen]
    exact check.andThen _
  | @tries _ _ before events _ check trial =>
    rw [executeFrom_eq_andThen]
    exact reaches_andThen_iff.2 (.inr ⟨before, events, none, rfl, check, trial.andThen _⟩)
  | @pauses left attempt before events after e delay d check trial again pause =>
    rw [executeFrom_eq_andThen, List.append_assoc]
    refine reaches_andThen_iff.2 (.inr ⟨before, events ++ after, none, rfl, check, ?_⟩)
    refine reaches_andThen_iff.2 (.inr ⟨events, after, .error e, rfl, trial, ?_⟩)
    rw [afterAttempt_of_pause again]
    exact pause.andThen _
  | @repeats left attempt before events after later e delay _ _ check trial again pause _ ih =>
    rw [executeFrom_eq_andThen, List.append_assoc, List.append_assoc]
    refine reaches_andThen_iff.2 (.inr ⟨before, events ++ (after ++ later), none, rfl, check, ?_⟩)
    refine reaches_andThen_iff.2 (.inr ⟨events, after ++ later, .error e, rfl, trial, ?_⟩)
    rw [afterAttempt_of_pause again]
    exact reaches_andThen_iff.2 (.inr ⟨after, later, none, rfl, pause, ih⟩)

/-! ## What a result says -/

variable (plan policy operation)

/-- These attempts, of which the first is attempt `attempt`, failed and were each to be followed by
another one. -/
def Failed (attempt : Nat) : List (List (Task.Event Q A)) → Prop
  | [] => True
  | events :: attempts =>
    (∃ e delay, Runs (operation attempt) events (.error e) ∧
      pauseAfter plan attempt (policy e attempt) = some delay) ∧ Failed (attempt + 1) attempts

/-- What the attempts of a finished loop were, by its result. -/
inductive Ends (left attempt : Nat) :
    List (List (Task.Event Q A)) → Except (RetryFailure ε) α → Prop
  | succeeded (attempts : List (List (Task.Event Q A))) {events : List (Task.Event Q A)} {value : α}
      (failed : Failed plan policy operation attempt attempts) (few : attempts.length ≤ left)
      (trial : Runs (operation (attempt + attempts.length)) events (.ok value)) :
      Ends left attempt (attempts ++ [events]) (.ok value)
  | stopped (attempts : List (List (Task.Event Q A))) {events : List (Task.Event Q A)} {e : ε}
      (failed : Failed plan policy operation attempt attempts) (few : attempts.length ≤ left)
      (trial : Runs (operation (attempt + attempts.length)) events (.error e))
      (last : pauseAfter plan (attempt + attempts.length) (policy e (attempt + attempts.length)) =
        none) :
      Ends left attempt (attempts ++ [events]) (.error (.stopped (attempt + attempts.length + 1) e))
  | exhausted (attempts : List (List (Task.Event Q A))) {events : List (Task.Event Q A)} {e : ε}
      {delay : Duration}
      (failed : Failed plan policy operation attempt attempts) (all : attempts.length = left)
      (trial : Runs (operation (attempt + attempts.length)) events (.error e))
      (again : pauseAfter plan (attempt + attempts.length) (policy e (attempt + attempts.length)) =
        some delay) :
      Ends left attempt (attempts ++ [events])
        (.error (.exhausted (attempt + attempts.length + 1) e))
  | interrupted {attempts : List (List (Task.Event Q A))} {cause : Interruption}
      (failed : Failed plan policy operation attempt attempts) (few : attempts.length ≤ left) :
      Ends left attempt attempts (.error (.interrupted (attempt + attempts.length) cause))

variable {plan policy operation}

/-- A round that was followed by another one comes before the attempts of the later rounds. -/
theorem Ends.cons {e : ε} {delay : Duration}
    (trial : Runs (operation attempt) events (.error e))
    (again : pauseAfter plan attempt (policy e attempt) = some delay)
    (h : Ends plan policy operation left (attempt + 1) attempts answer) :
    Ends plan policy operation (left + 1) attempt (events :: attempts) answer := by
  have shift (n : Nat) : attempt + 1 + n = attempt + (n + 1) := by omega
  have round {attempts : List (List (Task.Event Q A))}
      (failed : Failed plan policy operation (attempt + 1) attempts) :
      Failed plan policy operation attempt (events :: attempts) :=
    ⟨⟨e, delay, trial, again⟩, failed⟩
  cases h with
  | succeeded earlier failed few trial =>
    rw [shift] at trial
    exact .succeeded (events :: earlier) (round failed) (Nat.succ_le_succ few) trial
  | stopped earlier failed few trial last =>
    rw [shift] at trial last ⊢
    exact .stopped (events :: earlier) (round failed) (Nat.succ_le_succ few) trial last
  | exhausted earlier failed all trial again =>
    rw [shift] at trial again ⊢
    exact .exhausted (events :: earlier) (round failed) (congrArg (· + 1) all) trial again
  | interrupted failed few =>
    rw [shift]
    exact .interrupted (round failed) (Nat.succ_le_succ few)

/-- A result that an attempt is given at once makes its round the last one. -/
theorem ends_of_afterAttempt {result : Except ε α} (trial : Runs (operation attempt) events result)
    (h : afterAttempt plan policy operation left attempt result = .done answer) :
    Ends plan policy operation left attempt [events] answer := by
  cases result with
  | ok value =>
    cases h
    exact .succeeded [] trivial (Nat.zero_le _) trial
  | error e =>
    cases hp : pauseAfter plan attempt (policy e attempt) with
    | none =>
      simp only [afterAttempt, hp] at h
      cases h
      exact .stopped [] trivial (Nat.zero_le _) trial hp
    | some delay =>
      simp only [afterAttempt, hp] at h
      cases left with
      | zero =>
        cases h
        exact .exhausted [] trivial rfl trial hp
      | succ left =>
        obtain ⟨i, hsleep, -⟩ := andThen_eq_done_iff.1 h
        rw [sleep_eq, andThen_eq_done_iff] at hsleep
        obtain ⟨_, hcheck, -⟩ := hsleep
        cases hcheck

/-- A loop that is over has made its attempts as its result says. -/
theorem Course.ends (h : Course plan policy operation left attempt events attempts (.done answer)) :
    Ends plan policy operation left attempt attempts answer := by
  generalize hrest : Dialogue.done answer = rest at h
  induction h with
  | checks check unpassed =>
    obtain ⟨i, rfl, hend⟩ := andThen_eq_done_iff.1 hrest.symm
    cases i with
    | none => exact absurd rfl unpassed
    | some cause =>
      cases hend
      exact .interrupted trivial (Nat.zero_le _)
  | tries check trial =>
    obtain ⟨result, rfl, hend⟩ := andThen_eq_done_iff.1 hrest.symm
    exact ends_of_afterAttempt (runs_iff_reaches_done.2 trial) hend
  | pauses check trial again pause unpassed =>
    obtain ⟨i, rfl, hend⟩ := andThen_eq_done_iff.1 hrest.symm
    cases i with
    | none => exact absurd rfl unpassed
    | some cause =>
      cases hend
      exact Ends.cons trial again (.interrupted trivial (Nat.zero_le _))
  | repeats check trial again pause course ih => exact (ih hrest).cons trial again

end Registrar.Retry
