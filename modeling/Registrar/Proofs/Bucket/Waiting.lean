import Registrar.Proofs.Bucket.Visits
import Registrar.Proofs.Quantity.Nearest
import Registrar.Rehearsal

/-!
# Waiting alone

A caller who waits for a token that nobody else takes has it after two pauses: the first one lasts
as long as what is missing needs, to the nanosecond, and the second one makes up for the rounding.
`LimiterStage.Waits` is such a wait, pause by pause, and `Waits.played` says that a patient caller's
calls go like it. Clocks do not run backwards, so no bucket in use is ahead of its clock
(`valid_of_visits`).

Main statement: `acquires_after_two_pauses`.
-/

namespace Registrar

namespace Dialogue

variable {Q : Type} {A : Q → Type} {α σ : Type}

/-- What a dialogue asks when it is played, and the answers. -/
def transcript (reply : (q : Q) → σ → A q × σ) : Dialogue Q A α → σ → List (Exchange Q A)
  | done _, _ => []
  | ask q next, s =>
    ⟨q, (reply q s).1⟩ :: (next (reply q s).1).transcript reply (reply q s).2

section

variable {β : Type} (reply : (q : Q) → σ → A q × σ) (d : Dialogue Q A α)
  (f : α → Dialogue Q A β) (s : σ)

/-- The transcript is a run with what is answered in the end. -/
theorem runs_transcript : Runs d (d.transcript reply s) (d.answer reply s).1 := by
  induction d generalizing s with
  | done a => exact .done a
  | ask q next ih => exact .ask _ (ih _ _)

theorem answer_andThen :
    (d.andThen f).answer reply s = (f (d.answer reply s).1).answer reply (d.answer reply s).2 := by
  induction d generalizing s with
  | done a => rfl
  | ask q next ih => exact ih _ _

theorem transcript_andThen :
    (d.andThen f).transcript reply s =
      d.transcript reply s ++ (f (d.answer reply s).1).transcript reply (d.answer reply s).2 := by
  induction d generalizing s with
  | done a => rfl
  | ask q next ih => exact congrArg (⟨q, (reply q s).1⟩ :: ·) (ih _ _)

end

end Dialogue

/-! ## What a patient caller goes through -/

namespace LimiterStage

section

variable {α : Type} [Quantity α]

/-- The length of a pause. -/
def pause? {Q : Type} {A : Q → Type} : Task.Event Q A → Option Duration
  | ⟨.pause d, _⟩ => some d
  | _ => none

/-- The pauses in a wait for a token. -/
def pauses (caller : Caller) (timer : Timer) (s : LimiterStage α)
    (waits : ℕ := Limiter.mostWaits) : List Duration :=
  ((Limiter.acquire (Task.other ()) waits).transcript (reply caller timer) s).filterMap pause?

/-- A pause later: the bucket has been refilled before it. -/
def waited (timer : Timer) (s : LimiterStage α) : LimiterStage α :=
  ⟨timer.wake s.now (s.bucket.refill s.now).wait, s.bucket.refill s.now⟩

/-- A wait with these pauses, and its end: without a token the caller pauses for as long as the
bucket says, and with one the wait is over. -/
inductive Waits (timer : Timer) : LimiterStage α → List Duration → LimiterStage α → Prop
  | served {s : LimiterStage α} (holds : (s.bucket.refill s.now).holdsToken = true) :
      Waits timer s [] { s with bucket := (s.bucket.refill s.now).spend }
  | short {s ended : LimiterStage α} {pauses : List Duration}
      (short : (s.bucket.refill s.now).holdsToken = false)
      (later : Waits timer (s.waited timer) pauses ended) :
      Waits timer s ((s.bucket.refill s.now).wait :: pauses) ended

variable {timer : Timer} {s ended : LimiterStage α}

/-- A token is asked for. -/
abbrev want : Task Unit (fun _ => Option Duration) (Option Duration) := Task.other ()

theorem answer_want_of_holds (caller : Caller) (timer : Timer)
    (h : (s.bucket.refill s.now).holdsToken = true) :
    want.answer (reply caller timer) s =
      (none, { s with bucket := (s.bucket.refill s.now).spend }) := by
  show give () s = _
  rw [give, Bucket.request_of_holds h]

theorem answer_want_of_short (caller : Caller) (timer : Timer)
    (h : (s.bucket.refill s.now).holdsToken = false) :
    want.answer (reply caller timer) s =
      (some (s.bucket.refill s.now).wait, { s with bucket := s.bucket.refill s.now }) := by
  show give () s = _
  rw [give, Bucket.request_of_short h]

theorem answer_check : (Task.check : Task Unit _ _).answer (reply .patient timer) s = (none, s) :=
  rfl

/-- A caller who is in no hurry waits like this, if it may try often enough. -/
theorem Waits.played {ds : List Duration} (h : Waits timer s ds ended) {tries : ℕ}
    (enough : ds.length < tries) :
    s.acquire .patient timer tries = (.ok (), ended) ∧ s.pauses .patient timer tries = ds := by
  unfold acquire pauses Limiter.acquire
  induction h generalizing tries with
  | served holds =>
    obtain ⟨tries, rfl⟩ := Nat.exists_eq_add_of_lt enough
    have taken := answer_want_of_holds .patient timer holds
    rw [acquireWithin_succ, Dialogue.answer_andThen, Dialogue.transcript_andThen, answer_check]
    dsimp only
    rw [Dialogue.answer_andThen, Dialogue.transcript_andThen, taken]
    exact ⟨rfl, rfl⟩
  | @short s ended pauses short later ih =>
    obtain ⟨tries, rfl⟩ := Nat.exists_eq_add_of_lt enough
    obtain ⟨answer, heard⟩ := ih (by omega : pauses.length < pauses.length + 1 + tries)
    have told := answer_want_of_short .patient timer short
    rw [acquireWithin_succ, Dialogue.answer_andThen, Dialogue.transcript_andThen, answer_check]
    dsimp only
    rw [Dialogue.answer_andThen, Dialogue.transcript_andThen, told]
    exact ⟨answer, congrArg (_ :: ·) heard⟩

end

end LimiterStage

/-! ## How long a wait is -/

namespace Bucket

open Decimal

variable {b : Bucket ℚ} {t : Instant}

theorem deficit_eq (b : Bucket ℚ) : b.deficit = 1 - b.tokens := by
  show ((1 : ℕ) : ℚ) - b.tokens = _
  rw [Nat.cast_one]

theorem seconds_shortestWait : (Quantity.seconds shortestWait : ℚ) = 1 / 1000 := by
  rw [Quantity.seconds_eq]
  norm_num [shortestWait, Duration.millisecond]

theorem deficit_pos (short : b.holdsToken = false) : 0 < b.deficit := by
  have := mt holdsToken_iff.2 (Bool.not_eq_true _ ▸ short)
  rw [deficit_eq]
  linarith

/-- A wait is the time in which the deficit refills, to the nanosecond, but not below the shortest
one. -/
theorem Valid.wait_eq (h : b.Valid) (short : b.holdsToken = false) :
    ∃ d, Nearest d (b.deficit / b.limit.refillPerSecond * 1000000000) ∧
      b.wait = max d shortestWait := by
  have slowest := (BucketLimit.validate_eq_ok_iff.1 h.limit).2
  have nonneg : 0 ≤ b.deficit / b.limit.refillPerSecond :=
    (div_pos (deficit_pos short) h.rate_pos).le
  have le : b.deficit / b.limit.refillPerSecond ≤ Quantity.seconds Duration.longest := by
    have : b.deficit / b.limit.refillPerSecond ≤ 1000 := by
      rw [div_le_iff₀ h.rate_pos, deficit_eq]
      linarith [h.nonneg]
    refine this.trans ?_
    rw [Quantity.seconds_eq]
    norm_num [Duration.longest, Decimal.max64, Duration.second]
  obtain ⟨d, hd, near⟩ := Quantity.exists_duration? nonneg le
  have time : b.limit.timeFor b.deficit = d := by
    have zero : (Quantity.zero : ℚ) = 0 := Nat.cast_zero
    rw [BucketLimit.timeFor, Quantity.greater_eq_max, zero, max_eq_left nonneg, hd,
      Option.getD_some]
  exact ⟨d, near, by rw [wait, time]⟩

/-- After the time of a wait there is a token, up to the rounding of that time. -/
theorem Valid.tokens_after_wait (h : b.Valid) (short : b.holdsToken = false)
    (elapsed : b.refilledAt + b.wait ≤ t) :
    1 - b.limit.refillPerSecond / 2000000000 ≤ (b.refill t).tokens := by
  obtain ⟨d, near, wait⟩ := h.wait_eq short
  have full := (BucketLimit.validate_eq_ok_iff.1 h.limit).1
  have time : (Quantity.seconds d : ℚ) ≤ Quantity.seconds (t - b.refilledAt) :=
    Quantity.seconds_mono
      ((wait.symm ▸ le_max_left d shortestWait).trans (Nat.le_sub_of_add_le' elapsed))
  have rounded : b.deficit / b.limit.refillPerSecond - 1 / 2000000000 ≤ Quantity.seconds d := by
    linarith [(abs_le.1 near.abs_seconds_sub_le).1]
  have inflow := mul_le_mul_of_nonneg_right (rounded.trans time) h.rate_nonneg
  rw [sub_mul, div_mul_cancel₀ _ h.rate_pos.ne', deficit_eq] at inflow
  rw [refill_tokens h.le_capacity]
  exact le_min (by linarith) (by linarith [h.rate_nonneg])

/-- After the shortest wait there is a token, if no more is missing than refills in it. -/
theorem Valid.holdsToken_after_wait (h : b.Valid)
    (small : b.deficit ≤ b.limit.refillPerSecond / 1000)
    (elapsed : b.refilledAt + b.wait ≤ t) : (b.refill t).holdsToken = true := by
  have full := (BucketLimit.validate_eq_ok_iff.1 h.limit).1
  have time : (Quantity.seconds shortestWait : ℚ) ≤ Quantity.seconds (t - b.refilledAt) :=
    Quantity.seconds_mono ((le_max_right _ _).trans (Nat.le_sub_of_add_le' elapsed))
  rw [seconds_shortestWait] at time
  have inflow := mul_le_mul_of_nonneg_right time h.rate_nonneg
  rw [deficit_eq] at small
  rw [holdsToken_iff, refill_tokens h.le_capacity]
  exact le_min (by linarith) (by linarith)

/-- What is missing after a first wait asks for the shortest one only. -/
theorem Valid.wait_eq_shortest (h : b.Valid) (short : b.holdsToken = false)
    (small : b.deficit ≤ b.limit.refillPerSecond / 2000000000) : b.wait = shortestWait := by
  obtain ⟨d, near, wait⟩ := h.wait_eq short
  have part : b.deficit / b.limit.refillPerSecond ≤ 1 / 2000000000 := by
    rw [div_le_iff₀ h.rate_pos]
    linarith
  have le : d ≤ 1 := near.le (nearest_self 1) (by push_cast; linarith)
  rw [wait, max_eq_right (le.trans (by decide))]

/-- A wait is not longer than what is missing needs, or than the shortest one, up to the
rounding. -/
theorem Valid.seconds_wait_le (h : b.Valid) (short : b.holdsToken = false) :
    (Quantity.seconds b.wait : ℚ) ≤
      max (b.deficit / b.limit.refillPerSecond) (1 / 1000) + 1 / 2000000000 := by
  obtain ⟨d, near, wait⟩ := h.wait_eq short
  have rounded : (Quantity.seconds d : ℚ) ≤
      b.deficit / b.limit.refillPerSecond + 1 / 2000000000 := by
    linarith [(abs_le.1 near.abs_seconds_sub_le).2]
  rw [wait]
  rcases max_choice d shortestWait with choice | choice
  · rw [choice]
    linarith [le_max_left (b.deficit / b.limit.refillPerSecond) (1 / 1000)]
  · rw [choice, seconds_shortestWait]
    linarith [le_max_right (b.deficit / b.limit.refillPerSecond) (1 / 1000)]

end Bucket

/-! ## Two pauses -/

namespace LimiterStage

/-- The bucket is valid, and the clock is not behind its last refill. -/
structure Valid (s : LimiterStage ℚ) : Prop where
  bucket : s.bucket.Valid
  past : s.bucket.refilledAt ≤ s.now

variable {s : LimiterStage ℚ} {timer : Timer}

/-- So it is after any use of a bucket, if the clock is past all readings that were taken of it. -/
theorem valid_of_visits {l : BucketLimit ℚ} {b : Bucket ℚ} {start now : Instant}
    (hb : Bucket.new l start = .ok b) (begun : start ≤ now) {visits : List (Bucket.Visit ℚ)}
    (past : ∀ v ∈ visits, v.reading ≤ now) : Valid ⟨now, b.after visits⟩ where
  bucket := (Bucket.valid_of_new hb).after visits
  past := Bucket.refilledAt_after_le (Bucket.refilledAt_of_new hb ▸ begun) past

theorem Valid.refilledAt (h : s.Valid) : (s.bucket.refill s.now).refilledAt = s.now := by
  rw [Bucket.refill_refilledAt, max_eq_right h.past]

/-- The pause was not cut short. -/
theorem Valid.elapsed (h : s.Valid) (timer : Timer) :
    (s.waited timer).bucket.refilledAt + (s.waited timer).bucket.wait ≤ (s.waited timer).now := by
  change (s.bucket.refill s.now).refilledAt + _ ≤ _
  rw [h.refilledAt]
  exact timer.le_wake _ _

theorem Valid.waited (h : s.Valid) : (s.waited timer).Valid where
  bucket := h.bucket.refill s.now
  past := Nat.le_of_add_right_le (h.elapsed timer)

theorem limit_waited (s : LimiterStage ℚ) (timer : Timer) :
    (s.waited timer).bucket.limit = s.bucket.limit :=
  Bucket.refill_limit _ _

theorem now_le_waited (s : LimiterStage ℚ) : s.now ≤ (s.waited timer).now :=
  Nat.le_of_add_right_le (timer.le_wake _ _)

/-- The refill before a pause does not show after it. -/
theorem Valid.refill_waited (h : s.Valid) {t : Instant} (later : (s.waited timer).now ≤ t) :
    (s.waited timer).bucket.refill t = s.bucket.refill t :=
  h.bucket.refill_refill (s.now_le_waited.trans later)

/-- After a first pause the rounding of its length is all that is missing. -/
theorem Valid.deficit_waited (h : s.Valid) (timer : Timer)
    (short : (s.bucket.refill s.now).holdsToken = false) :
    ((s.waited timer).bucket.refill (s.waited timer).now).deficit ≤
      s.bucket.limit.refillPerSecond / 2000000000 := by
  have tokens := (h.bucket.refill s.now).tokens_after_wait short (h.elapsed timer)
  rw [Bucket.refill_limit] at tokens
  rw [Bucket.deficit_eq]
  change 1 - ((s.bucket.refill s.now).refill _).tokens ≤ _
  linarith

/-- After a second pause there is a token in any case. -/
theorem Valid.holdsToken_waited (h : s.Valid) (timer : Timer)
    (short : (s.bucket.refill s.now).holdsToken = false) :
    let next := (s.waited timer).waited timer
    (next.bucket.refill next.now).holdsToken = true := by
  intro next
  have missing := h.deficit_waited timer short
  refine (h.waited.bucket.refill _).holdsToken_after_wait ?_ (h.waited.elapsed timer)
  rw [Bucket.refill_limit, limit_waited]
  linarith [h.bucket.rate_pos]

/-- The wait of a caller whom nobody overtakes. -/
theorem Valid.exists_waits (h : s.Valid) (timer : Timer) :
    ∃ ds ended, Waits timer s ds ended ∧ ds.length ≤ 2 ∧
      ended.bucket = (s.bucket.refill ended.now).spend ∧
      (Quantity.seconds ds.sum : ℚ) ≤
        max ((s.bucket.refill s.now).deficit / s.bucket.limit.refillPerSecond) (1 / 1000) +
          1 / 1000 + 1 / 2000000000 := by
  have least := le_max_right
    ((s.bucket.refill s.now).deficit / s.bucket.limit.refillPerSecond) (1 / 1000)
  cases now : (s.bucket.refill s.now).holdsToken with
  | true =>
    refine ⟨[], _, .served now, Nat.zero_le 2, rfl, ?_⟩
    rw [List.sum_nil, Quantity.seconds_eq, Nat.cast_zero]
    linarith
  | false =>
    have first := (h.bucket.refill s.now).seconds_wait_le now
    rw [Bucket.refill_limit] at first
    cases later : ((s.waited timer).bucket.refill (s.waited timer).now).holdsToken with
    | true =>
      refine ⟨_, _, .short now (.served later), one_le_two, ?_, ?_⟩
      · exact congrArg Bucket.spend (h.refill_waited le_rfl)
      · rw [List.sum_singleton]
        linarith
    | false =>
      have missing := h.deficit_waited timer now
      rw [← s.limit_waited timer, ← Bucket.refill_limit] at missing
      have second := (h.waited.bucket.refill _).wait_eq_shortest later missing
      have served := h.holdsToken_waited timer now
      refine ⟨_, _, .short now (.short later (.served served)), le_rfl, ?_, ?_⟩
      · refine congrArg Bucket.spend ?_
        rw [h.waited.refill_waited le_rfl, h.refill_waited (now_le_waited _)]
      · rw [second, List.sum_cons, List.sum_singleton, Quantity.seconds_add,
          Bucket.seconds_shortestWait]
        linarith

/-- A caller who is in no hurry, and whom nobody overtakes, gets a token after two pauses at most,
and takes no more than that one. Its pauses add up to what the missing part of a token needs, or to
the shortest wait, and to one more shortest wait at most, up to half a nanosecond. -/
theorem acquires_after_two_pauses (h : s.Valid) (timer : Timer) {tries : ℕ} (enough : 2 < tries) :
    let ended := (s.acquire .patient timer tries).2
    let pauses := s.pauses .patient timer tries
    (s.acquire .patient timer tries).1 = .ok () ∧ pauses.length ≤ 2 ∧
      ended.bucket = (s.bucket.refill ended.now).spend ∧
      (Quantity.seconds pauses.sum : ℚ) ≤
        max ((s.bucket.refill s.now).deficit / s.bucket.limit.refillPerSecond) (1 / 1000) +
          1 / 1000 + 1 / 2000000000 := by
  obtain ⟨ds, ended, waits, two, token, sum⟩ := h.exists_waits timer
  obtain ⟨acquired, paused⟩ := waits.played (two.trans_lt enough)
  rw [acquired, paused]
  exact ⟨rfl, two, token, sum⟩

/-- At three hundred tokens a second the first pause ends a third of a nanosecond too early, and a
second one follows. -/
theorem acquires_after_rounded_pause :
    ∃ b : Bucket ℚ, Bucket.new ⟨1, 300⟩ 0 = .ok b ∧
      let s : LimiterStage ℚ := ⟨0, b.after [⟨0, 0, .take⟩]⟩
      s.Valid ∧ (s.acquire .patient .exact).1 = .ok () ∧
        s.pauses .patient .exact = [3333333, 1000000] ∧
        (s.acquire .patient .exact).2.now = 4333333 := by
  have full : Bucket.new ⟨1, 300⟩ 0 = .ok (⟨⟨1, 300⟩, 1, 0⟩ : Bucket ℚ) := by decide +kernel
  refine ⟨_, full, ?_⟩
  intro s
  have valid : s.Valid := valid_of_visits full le_rfl (by simp)
  obtain ⟨served, -⟩ := acquires_after_two_pauses valid .exact
    (by decide : 2 < Limiter.mostWaits)
  exact ⟨valid, served, by decide +kernel, by decide +kernel⟩

end LimiterStage

end Registrar
