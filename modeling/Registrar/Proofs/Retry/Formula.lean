import Registrar.Proofs.Retry.Delays

/-!
# The formula of a backoff

The delay before retry `i` is to be `min maxDelay (baseDelay · factor^i)`, to the nanosecond:
`Backoff.formula` with the mathematical power. Numbers of a limited range miss it in two places. No
delay times an infinite power is no number, so the longest delay is left where there should be none
(`Overreaches`). And the exponent grows up to `topExponent` only, which a factor close to one shows.
`follows_formula_iff` says that these are the only ones.
-/

namespace Registrar.Backoff

open Ranged Decimal

/-- The documented delay before retry `attempt`, in seconds and before it is rounded. -/
def formula (b : Backoff Ranged) (attempt : ℕ) : ℚ :=
  min (Quantity.seconds b.baseDelay * b.factor.toRat ^ attempt) (Quantity.seconds b.maxDelay)

/-- There is no delay to multiply, and the power that it is multiplied by is beyond the range. -/
def Overreaches (b : Backoff Ranged) (attempt : ℕ) : Prop :=
  b.baseDelay = 0 ∧ b.maxDelay ≠ 0 ∧ largest < b.factor.toRat ^ min attempt topExponent

/-- Two numbers of seconds are one duration, once they are rounded. -/
def SameDuration (x y : ℚ) : Prop :=
  ∃ d : Duration, Nearest d (x * 1000000000) ∧ Nearest d (y * 1000000000)

/-! ## The formula -/

section

variable {b : Backoff Ranged} {attempt : ℕ}

theorem formula_eq_zero (none : b.baseDelay = 0) : b.formula attempt = 0 := by
  have zero : (Quantity.seconds b.baseDelay : ℚ) = 0 := by simp [none, Quantity.seconds_eq]
  rw [formula, zero, zero_mul, min_eq_left (Quantity.seconds_nonneg _)]

theorem formula_le : b.formula attempt ≤ Quantity.seconds b.baseDelay * b.factor.toRat ^ attempt :=
  min_le_left _ _

/-- Where the product is a number, it is the one of the formula for the exponent that is raised. -/
theorem exactDelay_eq_formula (h : ¬b.Overreaches attempt) :
    b.exactDelay attempt = b.formula (min attempt topExponent) := by
  unfold exactDelay capped
  split
  next excess =>
    have none : b.maxDelay = 0 := by
      by_contra some
      exact h ⟨excess.1, some, excess.2⟩
    rw [formula_eq_zero excess.1, none]
    simp [Quantity.seconds_eq]
  next => rfl

theorem exactDelay_eq_longest (h : b.Overreaches attempt) :
    b.exactDelay attempt = Quantity.seconds b.maxDelay :=
  if_pos ⟨h.1, h.2.2⟩

end

/-! ## Delays -/

section

variable {b : Backoff Ranged} (h : b.IsExact) (real : b.maxDelay ≤ Duration.longest) {attempt : ℕ}
include h real

/-- No delay at all, and the longest one is taken instead. -/
theorem baseDelayFor_of_overreaches (excess : b.Overreaches attempt) :
    b.baseDelayFor attempt = b.maxDelay := by
  have near := nearest_baseDelayFor h real attempt
  rw [exactDelay_eq_longest excess, Quantity.seconds_eq,
    div_mul_cancel₀ _ (by norm_num : (1000000000 : ℚ) ≠ 0)] at near
  exact near.unique (nearest_self b.maxDelay)

/-- Everywhere else the delay is the one of the formula, for the exponent that is raised. -/
theorem nearest_of_not_overreaches (under : ¬b.Overreaches attempt) :
    Nearest (b.baseDelayFor attempt) (b.formula (min attempt topExponent) * 1000000000) :=
  exactDelay_eq_formula under ▸ nearest_baseDelayFor h real attempt

theorem eq_zero_iff_of_none (none : b.baseDelay = 0) :
    b.baseDelayFor attempt = 0 ↔ ¬b.Overreaches attempt := by
  constructor
  · intro zero excess
    exact excess.2.1 ((baseDelayFor_of_overreaches h real excess).symm.trans zero)
  · intro under
    have near := nearest_of_not_overreaches h real under
    rw [formula_eq_zero none, zero_mul] at near
    exact near.unique (by simpa using nearest_self 0)

/-- An exponent that is raised as it is gives the duration that was meant. -/
theorem sameDuration_of_le (raised : attempt ≤ topExponent) :
    SameDuration (b.formula (min attempt topExponent)) (b.formula attempt) := by
  have nonneg : 0 ≤ b.formula attempt :=
    le_min (mul_nonneg (Quantity.seconds_nonneg _)
      (pow_nonneg (zero_le_one.trans h.one_le_factor) _)) (Quantity.seconds_nonneg _)
  have le : b.formula attempt ≤ Quantity.seconds Duration.longest :=
    (min_le_right _ _).trans (Quantity.seconds_mono real)
  obtain ⟨d, -, near⟩ := Quantity.exists_duration? nonneg le
  rw [min_eq_left raised]
  exact ⟨d, near, near⟩

theorem nearest_formula_iff :
    Nearest (b.baseDelayFor attempt) (b.formula attempt * 1000000000) ↔
      ¬b.Overreaches attempt ∧
        SameDuration (b.formula (min attempt topExponent)) (b.formula attempt) := by
  constructor
  · intro near
    have under : ¬b.Overreaches attempt := by
      intro excess
      rw [formula_eq_zero excess.1, zero_mul] at near
      have zero := near.unique (by simpa using nearest_self 0)
      exact (eq_zero_iff_of_none h real excess.1).1 zero excess
    exact ⟨under, _, nearest_of_not_overreaches h real under, near⟩
  · rintro ⟨under, d, raised, near⟩
    rwa [(nearest_of_not_overreaches h real under).unique raised]

/-- The delay stays under the product of the formula, to half a nanosecond. -/
theorem le_product_iff :
    (b.baseDelayFor attempt : ℚ) ≤ b.baseDelay * b.factor.toRat ^ attempt + 1 / 2 ↔
      ¬b.Overreaches attempt := by
  constructor
  · intro le excess
    have some : (1 : ℚ) ≤ b.maxDelay := by
      exact_mod_cast Nat.one_le_iff_ne_zero.2 excess.2.1
    rw [baseDelayFor_of_overreaches h real excess, excess.1, Nat.cast_zero, zero_mul] at le
    linarith
  · intro under
    have near := (abs_le.1 (nearest_of_not_overreaches h real under).error).2
    have raised : b.formula (min attempt topExponent) ≤ _ := formula_le
    have power : b.factor.toRat ^ min attempt topExponent ≤ b.factor.toRat ^ attempt :=
      pow_le_pow_right₀ h.one_le_factor (min_le_left _ _)
    have product := mul_le_mul_of_nonneg_left power (Nat.cast_nonneg b.baseDelay : (0 : ℚ) ≤ _)
    rw [Quantity.seconds_eq] at raised
    linarith

end

/-! ## Main statement -/

/-- The delay before a retry is the formula's, rounded to the nanosecond, exactly if it is not no
delay multiplied by a power beyond the range, and if the exponent that is raised gives the duration
that was meant, as it does up to `topExponent`. The delay exceeds the product of the formula, and
there is one where there should be none, exactly if no delay is multiplied by a power beyond the
range. -/
theorem follows_formula_iff {b : Backoff Ranged} (valid : b.validate = .ok ())
    (real : b.maxDelay ≤ Duration.longest) (attempt : ℕ) :
    (Nearest (b.baseDelayFor attempt) (b.formula attempt * 1000000000) ↔
        ¬b.Overreaches attempt ∧
          SameDuration (b.formula (min attempt topExponent)) (b.formula attempt)) ∧
      (attempt ≤ topExponent →
        SameDuration (b.formula (min attempt topExponent)) (b.formula attempt)) ∧
      ((b.baseDelayFor attempt : ℚ) ≤ b.baseDelay * b.factor.toRat ^ attempt + 1 / 2 ↔
        ¬b.Overreaches attempt) ∧
      (b.baseDelay = 0 → (b.baseDelayFor attempt = 0 ↔ ¬b.Overreaches attempt)) := by
  have h := isExact_of_validate valid
  exact ⟨nearest_formula_iff h real, sameDuration_of_le h real, le_product_iff h real,
    eq_zero_iff_of_none h real⟩

/-- No delay at first and a factor of two: the 1023rd power is the last one within the range. -/
theorem follows_formula_of_doubling :
    let b : Backoff Ranged := { Backoff.standard with baseDelay := 0 }
    b.validate = .ok () ∧ b.maxDelay ≤ Duration.longest ∧ b.baseDelay = 0 ∧
      b.baseDelayFor 1023 = 0 ∧ b.baseDelayFor 1024 ≠ 0 := by
  intro b
  have valid : b.validate = .ok () := by decide +kernel
  have real : b.maxDelay ≤ Duration.longest := by decide
  have factor : b.factor.toRat = 2 := by decide +kernel
  obtain ⟨-, -, -, within⟩ := follows_formula_iff valid real 1023
  obtain ⟨-, -, -, beyond⟩ := follows_formula_iff valid real 1024
  refine ⟨valid, real, rfl, (within rfl).2 fun excess => ?_, fun zero => ?_⟩
  · have large := excess.2.2
    rw [factor] at large
    exact large.not_ge (two_pow_le_largest (by decide))
  · refine (beyond rfl).1 zero ⟨rfl, by decide, ?_⟩
    rw [factor]
    exact largest_lt_two_pow

/-- Where there should be no delay at all, the longest one is made. -/
theorem longest_delay_of_none :
    let b : Backoff Ranged := { Backoff.standard with baseDelay := 0 }
    b.validate = .ok () ∧ b.formula 1024 = 0 ∧ b.baseDelayFor 1024 = Duration.ofSeconds 30 ∧
      ¬Nearest (b.baseDelayFor 1024) (b.formula 1024 * 1000000000) := by
  intro b
  have valid : b.validate = .ok () := by decide +kernel
  have real : b.maxDelay ≤ Duration.longest := by decide
  have factor : b.factor.toRat = 2 := by decide +kernel
  have excess : b.Overreaches 1024 := by
    refine ⟨rfl, by decide, ?_⟩
    rw [factor]
    exact largest_lt_two_pow
  have h := isExact_of_validate valid
  exact ⟨valid, formula_eq_zero rfl, baseDelayFor_of_overreaches h real excess,
    fun near => ((nearest_formula_iff h real).1 near).1 excess⟩

end Registrar.Backoff
