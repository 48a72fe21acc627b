import Registrar.Proofs.Bucket.Waiting

/-!
# Waiting under a deadline

A caller with a deadline who finds no token is told at once if its token comes too late:
`LimiterStage.TurnedAway`. What counts is the length of the pause it would make, which is the time
in which the missing part of a token refills, but never less than the shortest wait. With at least
the shortest wait left, a caller is turned away exactly when its token comes after the deadline;
with less left it is turned away in any case, also from a token that would have come in time.

Main statement: `turnedAway_iff`.
-/

namespace Registrar.LimiterStage

open Dialogue Decimal

section

variable {α : Type} [Quantity α]

/-- The caller is told at once that its token comes too late: it has not paused, and the bucket has
been refilled and no more. -/
structure TurnedAway (s : LimiterStage α) (caller : Caller) (timer : Timer) (tries : ℕ) : Prop where
  refused : ∃ wait, (s.acquire caller timer tries).1 = .error (.tooLate wait)
  unpaused : s.pauses caller timer tries = []
  untaken : (s.acquire caller timer tries).2 = { s with bucket := s.bucket.refill s.now }

/-- The call stands, and this much time is left before its deadline. -/
structure Stands (caller : Caller) (now : Instant) (left : Duration) : Prop where
  uncancelled : caller.hasCancelled now = false
  timeLeft : caller.timeLeft now = some left
  pos : 0 < left

variable {s : LimiterStage α} {caller : Caller} {left : Duration}

theorem Stands.check (h : Stands caller s.now left) (timer : Timer) :
    (Task.check : Task Unit _ _).answer (reply caller timer) s = (none, s) ∧
      ((Task.check : Task Unit _ _).transcript (reply caller timer) s).filterMap pause? = [] := by
  have live : ¬ caller.timeLeft s.now = some 0 := by
    rw [h.timeLeft, Option.some.injEq]
    exact h.pos.ne'
  simp [check_eq, answer, transcript, reply, Caller.reply, h.uncancelled, live, pause?]

/-- A pause that does not reach beyond the deadline is begun. -/
theorem Stands.sleep (h : Stands caller s.now left) (timer : Timer) {d : Duration} (le : d ≤ left) :
    ((Task.sleep d : Task Unit _ _).transcript (reply caller timer) s).filterMap pause? = [d] := by
  obtain ⟨checked, silent⟩ := h.check timer
  rw [sleep_eq, transcript_andThen, checked, List.filterMap_append, silent]
  simp [transcript, reply, Caller.reply, h.timeLeft, le.not_gt]
  rfl

/-- What a caller does who is told how long to wait. -/
def afterWant (wait : Duration) (tries : ℕ) :
    Task Unit (fun _ => Option Duration) (Except SlotRefusal Unit) :=
  .ask .timeLeft fun (left : Option Duration) =>
    if left.any (· < wait) then .done (.error (.tooLate wait))
    else (Task.sleep wait).andThen fun
      | some i => .done (.error (.ofInterruption i))
      | none => Limiter.acquireWithin want tries

/-- Up to there, the caller has not paused. -/
theorem Stands.acquire_eq (h : Stands caller s.now left) (timer : Timer) (tries : ℕ)
    (short : (s.bucket.refill s.now).holdsToken = false) :
    let rest := afterWant (s.bucket.refill s.now).wait tries
    let refilled : LimiterStage α := { s with bucket := s.bucket.refill s.now }
    s.acquire caller timer (tries + 1) = rest.answer (reply caller timer) refilled ∧
      s.pauses caller timer (tries + 1) =
        (rest.transcript (reply caller timer) refilled).filterMap pause? := by
  obtain ⟨checked, silent⟩ := h.check timer
  have told := answer_want_of_short caller timer short
  rw [acquire, pauses, Limiter.acquire, acquireWithin_succ, answer_andThen, transcript_andThen,
    checked, List.filterMap_append, silent]
  dsimp only
  rw [answer_andThen, transcript_andThen, told]
  exact ⟨rfl, rfl⟩

/-- Without a token, the caller is turned away if the pause would reach beyond its deadline. -/
theorem Stands.turnedAway (h : Stands caller s.now left) (timer : Timer) (tries : ℕ)
    (short : (s.bucket.refill s.now).holdsToken = false)
    (late : left < (s.bucket.refill s.now).wait) : TurnedAway s caller timer (tries + 1) := by
  obtain ⟨acquired, paused⟩ := h.acquire_eq timer tries short
  have answer : s.acquire caller timer (tries + 1) =
      (.error (.tooLate (s.bucket.refill s.now).wait),
        { s with bucket := s.bucket.refill s.now }) := by
    rw [acquired]
    simp [afterWant, Dialogue.answer, reply, Caller.reply, h.timeLeft, late]
  refine ⟨⟨_, congrArg Prod.fst answer⟩, ?_, congrArg Prod.snd answer⟩
  rw [paused]
  simp [afterWant, transcript, reply, Caller.reply, h.timeLeft, late, pause?]

/-- Without a token, the caller pauses if its deadline is not before the end of the pause. -/
theorem Stands.head?_pauses (h : Stands caller s.now left) (timer : Timer) (tries : ℕ)
    (short : (s.bucket.refill s.now).holdsToken = false)
    (le : (s.bucket.refill s.now).wait ≤ left) :
    (s.pauses caller timer (tries + 1)).head? = some (s.bucket.refill s.now).wait := by
  have slept := Stands.sleep (s := { s with bucket := s.bucket.refill s.now }) h timer le
  rw [(h.acquire_eq timer tries short).2]
  simp only [afterWant, transcript, reply, Caller.reply, h.timeLeft, Option.any_some, le.not_gt,
    decide_false, Bool.false_eq_true, if_false]
  rw [List.filterMap_cons_none rfl]
  change List.head? (List.filterMap pause? (transcript (reply caller timer) _ _)) = _
  rw [transcript_andThen, List.filterMap_append, slept]
  rfl

end

variable {s : LimiterStage ℚ} {caller : Caller} {left : Duration} {tries : ℕ}

/-- A caller without a token is turned away if what is missing refills, to the nanosecond, after its
deadline only, and if less than the shortest wait is left. So a caller whose token would come in
time is turned away exactly in the second case; in all others it begins its pause. -/
theorem turnedAway_iff (valid : s.bucket.Valid) (stands : Stands caller s.now left) (timer : Timer)
    (short : (s.bucket.refill s.now).holdsToken = false) (some_try : 0 < tries) :
    ∃ d, Nearest d
        ((s.bucket.refill s.now).deficit / s.bucket.limit.refillPerSecond * 1000000000) ∧
      (TurnedAway s caller timer tries ↔ left < d ∨ left < Bucket.shortestWait) ∧
      ((TurnedAway s caller timer tries ↔ left < d) ↔ left < d ∨ Bucket.shortestWait ≤ left) ∧
      (¬ TurnedAway s caller timer tries →
        (s.pauses caller timer tries).head? = some (max d Bucket.shortestWait)) := by
  obtain ⟨d, near, wait⟩ := (valid.refill s.now).wait_eq short
  rw [Bucket.refill_limit] at near
  obtain ⟨tries, rfl⟩ := Nat.exists_eq_add_of_lt some_try
  rw [Nat.zero_add]
  have away : TurnedAway s caller timer (tries + 1) ↔ left < d ∨ left < Bucket.shortestWait := by
    rw [← lt_max_iff, ← wait]
    refine ⟨fun away => ?_, stands.turnedAway timer tries short⟩
    by_contra! le
    have paused := stands.head?_pauses timer tries short le
    rw [away.unpaused] at paused
    cases paused
  refine ⟨d, near, away, ?_, fun kept => ?_⟩
  · rw [away, ← not_lt]
    tauto
  · rw [away, ← lt_max_iff, not_lt, ← wait] at kept
    rw [stands.head?_pauses timer tries short kept, wait]

/-- A third of a second is missing, and so it is, to the nanosecond, left. -/
theorem not_turnedAway_at_a_third :
    ∃ b : Bucket ℚ, Bucket.new ⟨1, 3⟩ 0 = .ok b ∧
      let s : LimiterStage ℚ := ⟨0, b.after [⟨0, 0, .take⟩]⟩
      let caller : Caller := ⟨none, fun _ => some 333333333⟩
      s.bucket.Valid ∧ Stands caller s.now 333333333 ∧
        (s.bucket.refill s.now).holdsToken = false ∧ 0 < Limiter.mostWaits ∧
        ¬ TurnedAway s caller .millisecond Limiter.mostWaits ∧
        (s.pauses caller .millisecond).head? = some 333333333 := by
  have full : Bucket.new ⟨1, 3⟩ 0 = .ok (⟨⟨1, 3⟩, 1, 0⟩ : Bucket ℚ) := by decide +kernel
  refine ⟨_, full, ?_⟩
  intro s caller
  have valid : s.bucket.Valid := (Bucket.valid_of_new full).after _
  have stands : Stands caller s.now 333333333 := ⟨rfl, rfl, by decide⟩
  have short : (s.bucket.refill s.now).holdsToken = false := by decide +kernel
  have tries : 0 < Limiter.mostWaits := by decide
  obtain ⟨d, near, away, -, pause⟩ := turnedAway_iff valid stands .millisecond short tries
  have third : (s.bucket.refill s.now).deficit / s.bucket.limit.refillPerSecond * 1000000000 =
      1000000000 / 3 := by
    decide +kernel
  obtain rfl : d = 333333333 := by
    refine near.unique (third ▸ ⟨?_, ?_⟩) <;> norm_num [abs_of_neg, abs_of_pos]
  have kept : ¬ TurnedAway s caller .millisecond Limiter.mostWaits := by
    rw [away]
    decide
  exact ⟨valid, stands, short, tries, kept, pause kept⟩

/-- A token that comes after a microsecond is in time for a caller who has a nanosecond less than
the shortest wait left, and yet the caller is turned away. -/
theorem turned_away_from_timely_token :
    ∃ b : Bucket ℚ, Bucket.new ⟨1, 1000000⟩ 0 = .ok b ∧
      let s : LimiterStage ℚ := ⟨0, b.after [⟨0, 0, .take⟩]⟩
      let caller : Caller := ⟨none, fun _ => some 999999⟩
      s.bucket.Valid ∧ Stands caller s.now 999999 ∧
        (s.bucket.refill s.now).holdsToken = false ∧
        (s.bucket.refill s.now).deficit / s.bucket.limit.refillPerSecond * 1000000000 = 1000 ∧
        (s.bucket.refill (s.now + 999999)).holdsToken = true ∧
        TurnedAway s caller .millisecond Limiter.mostWaits := by
  have full : Bucket.new ⟨1, 1000000⟩ 0 = .ok (⟨⟨1, 1000000⟩, 1, 0⟩ : Bucket ℚ) := by
    decide +kernel
  refine ⟨_, full, ?_⟩
  intro s caller
  have stands : Stands caller s.now 999999 := ⟨rfl, rfl, by decide⟩
  have short : (s.bucket.refill s.now).holdsToken = false := by decide +kernel
  exact ⟨(Bucket.valid_of_new full).after _, stands, short, by decide +kernel, by decide +kernel,
    stands.turnedAway .millisecond _ short (by decide +kernel)⟩

end Registrar.LimiterStage
