import Mathlib.Algebra.Order.Group.MinMax
import Registrar.Proofs.Quantity.Ranged
import Registrar.Proofs.Settings.Validity

/-!
# The delays of a backoff

A backoff whose seconds are exact numbers of a limited range (`Ranged`). Its delays grow up to the
longest one, also where the power of its factor leaves the range; `Backoff.capped` is what a delay
is before it is rounded. Main statement: `Backoff.delays_within`.
-/

namespace Registrar.Backoff

open Ranged Decimal

/-! ## Valid backoffs -/

/-- The numbers of a valid backoff. -/
structure IsExact (b : Backoff Ranged) : Prop where
  order : b.baseDelay ≤ b.maxDelay
  factor : b.factor = ofRat b.factor.toRat
  one_le_factor : 1 ≤ b.factor.toRat
  jitter : b.jitter = ofRat b.jitter.toRat
  jitter_nonneg : 0 ≤ b.jitter.toRat
  jitter_le_one : b.jitter.toRat ≤ 1

theorem isExact_of_validate {b : Backoff Ranged} (valid : b.validate = .ok ()) : b.IsExact := by
  obtain ⟨-, order, factor, jitter⟩ := b.validate_iff.1 valid
  obtain ⟨finite, one_le⟩ := Bool.and_eq_true_iff.1 factor
  obtain ⟨zero_le, le_one⟩ := Bool.and_eq_true_iff.1 jitter
  rw [one_eq] at one_le le_one
  rw [zero_eq] at zero_le
  have finite' := isFinite_of_le inRange_zero inRange_one zero_le le_one
  rw [← ofRat_toRat finite, le_ofRat inRange_one (abs_toRat_le _), decide_eq_true_iff] at one_le
  rw [← ofRat_toRat finite', le_ofRat inRange_zero (abs_toRat_le _), decide_eq_true_iff] at zero_le
  rw [← ofRat_toRat finite', le_ofRat (abs_toRat_le _) inRange_one, decide_eq_true_iff] at le_one
  exact {
    order := Nat.le_of_not_lt order
    factor := (ofRat_toRat finite).symm
    one_le_factor := one_le
    jitter := (ofRat_toRat finite').symm
    jitter_nonneg := zero_le
    jitter_le_one := le_one }

/-! ## Delays before rounding -/

/-- The delay for a power of the factor, in seconds. No delay at all times an infinite power is no
number, and the longest delay is taken instead. -/
def capped (base longest : Duration) (power : ℚ) : ℚ :=
  if base = 0 ∧ largest < power then Quantity.seconds longest
  else min (Quantity.seconds base * power) (Quantity.seconds longest)

section

variable {base longest : Duration} {p q : ℚ}

theorem capped_nonneg (hp : 0 ≤ p) : 0 ≤ capped base longest p := by
  have hb := Quantity.seconds_nonneg base
  have hl := Quantity.seconds_nonneg longest
  unfold capped
  split
  · exact hl
  · exact le_min (mul_nonneg hb hp) hl

theorem capped_le : capped base longest p ≤ Quantity.seconds longest := by
  unfold capped
  split
  · exact le_rfl
  · exact min_le_right _ _

theorem capped_mono (h : p ≤ q) : capped base longest p ≤ capped base longest q := by
  by_cases hq : base = 0 ∧ largest < q
  · rw [capped.eq_def base longest q, if_pos hq]
    exact capped_le
  · have hp' : ¬(base = 0 ∧ largest < p) := fun ⟨zero, large⟩ => hq ⟨zero, large.trans_le h⟩
    rw [capped, if_neg hp', capped, if_neg hq]
    exact min_le_min_right _ (mul_le_mul_of_nonneg_left h (Quantity.seconds_nonneg base))

/-- Where the power leaves the range, any delay but none has long reached the longest one. -/
theorem seconds_le_mul (hbase : base ≠ 0) (hlongest : longest ≤ Duration.longest)
    (hp : largest < p) : Quantity.seconds longest ≤ Quantity.seconds base * p := by
  have one : (1 : ℚ) ≤ base := by exact_mod_cast Nat.one_le_iff_ne_zero.2 hbase
  have small : (longest : ℚ) ≤ 2 ^ 100 := by
    have : (longest : ℚ) ≤ Duration.longest := by exact_mod_cast hlongest
    exact this.trans (by norm_num [Duration.longest, Decimal.max64, Duration.second])
  have large : (longest : ℚ) ≤ p := small.trans ((two_pow_le_largest (by decide)).trans hp.le)
  rw [Quantity.seconds_eq, Quantity.seconds_eq, div_mul_eq_mul_div]
  have : p ≤ base * p := le_mul_of_one_le_left ((Nat.cast_nonneg _).trans large) one
  gcongr
  exact large.trans this

theorem lesser_scaled (order : base ≤ longest) (hlongest : longest ≤ Duration.longest)
    (hp : 1 ≤ p) :
    Quantity.lesser (ofRat (Quantity.seconds base) * ofRat p) (ofRat (Quantity.seconds longest)) =
      ofRat (capped base longest p) := by
  have inBase := inRange_seconds (order.trans hlongest)
  have inLongest := inRange_seconds hlongest
  have base_nonneg := Quantity.seconds_nonneg base
  obtain large | small := lt_or_ge largest p
  · rw [ofRat_of_lt large]
    by_cases hbase : base = 0
    · have none : (Quantity.seconds base : ℚ) = 0 := by simp [Quantity.seconds_eq, hbase]
      rw [none, zero_mul_infinite, undefined_lesser, capped, if_pos ⟨hbase, large⟩]
    · have some : (0 : ℚ) < Quantity.seconds base := by
        rw [Quantity.seconds_eq]
        have : (0 : ℚ) < base := by exact_mod_cast Nat.pos_of_ne_zero hbase
        positivity
      rw [ofRat_mul_infinite some, infinite_lesser_ofRat inLongest, capped,
        if_neg fun h => hbase h.1, min_eq_right (seconds_le_mul hbase hlongest large)]
  · have inPower : |p| ≤ largest := by rwa [abs_of_nonneg (zero_le_one.trans hp)]
    rw [ofRat_mul_of_le inBase inPower, capped, if_neg fun h => h.2.not_ge small]
    obtain large | small := lt_or_ge largest (Quantity.seconds base * p)
    · have : Quantity.seconds longest ≤ largest := (le_abs_self _).trans inLongest
      rw [ofRat_of_lt large, infinite_lesser_ofRat inLongest, min_eq_right (this.trans large.le)]
    · refine lesser_ofRat ?_ inLongest
      rwa [abs_of_nonneg (mul_nonneg base_nonneg (zero_le_one.trans hp))]

end

/-! ## Delays -/

/-- The delay before retry `attempt` in seconds, before it is rounded. -/
def exactDelay (b : Backoff Ranged) (attempt : ℕ) : ℚ :=
  capped b.baseDelay b.maxDelay (b.factor.toRat ^ min attempt topExponent)

section

variable {b : Backoff Ranged} (h : b.IsExact) (real : b.maxDelay ≤ Duration.longest)
  (attempt : ℕ)
include h real

theorem nearest_baseDelayFor :
    Nearest (b.baseDelayFor attempt) (b.exactDelay attempt * 1000000000) := by
  have power : Quantity.power b.factor (min attempt topExponent) =
      ofRat (b.factor.toRat ^ min attempt topExponent) := by
    rw [h.factor, power_ofRat h.one_le_factor, ← h.factor]
  have scaled : Quantity.lesser
      (Quantity.seconds b.baseDelay * Quantity.power b.factor (min attempt topExponent))
      (Quantity.seconds b.maxDelay) = ofRat (b.exactDelay attempt) := by
    rw [power, seconds_eq_ofRat (h.order.trans real), seconds_eq_ofRat real,
      lesser_scaled h.order real (one_le_pow₀ h.one_le_factor), exactDelay]
  have nonneg : 0 ≤ b.exactDelay attempt :=
    capped_nonneg (pow_nonneg (zero_le_one.trans h.one_le_factor) _)
  have le : b.exactDelay attempt ≤ Quantity.seconds b.maxDelay := capped_le
  have inRange : |b.exactDelay attempt| ≤ largest := by
    rw [abs_of_nonneg nonneg]
    exact le.trans ((le_abs_self _).trans (inRange_seconds real))
  obtain ⟨d, hd, nearest⟩ := exists_duration? nonneg (le.trans (Quantity.seconds_mono real))
  have delay : b.baseDelayFor attempt = d := by
    unfold baseDelayFor
    simp only [scaled]
    rw [if_pos (isFinite_ofRat inRange), zero_eq, greater_ofRat inRange inRange_zero,
      max_eq_left nonneg, hd, Option.getD_some]
  rwa [delay]

theorem baseDelayFor_le : b.baseDelayFor attempt ≤ b.maxDelay := by
  refine (nearest_baseDelayFor h real attempt).le (nearest_self b.maxDelay) ?_
  have : b.exactDelay attempt ≤ Quantity.seconds b.maxDelay := capped_le
  rwa [Quantity.seconds_eq, le_div_iff₀ (by norm_num)] at this

theorem baseDelayFor_le_succ : b.baseDelayFor attempt ≤ b.baseDelayFor (attempt + 1) := by
  refine (nearest_baseDelayFor h real attempt).le (nearest_baseDelayFor h real (attempt + 1)) ?_
  refine mul_le_mul_of_nonneg_right (capped_mono ?_) (by norm_num)
  exact pow_le_pow_right₀ h.one_le_factor (by omega)

end

/-! ## Chance -/

section

variable {x y low high : ℚ}

theorem clamp_ofRat (hx : |x| ≤ largest) (hl : |low| ≤ largest) (hh : |high| ≤ largest)
    (h : low ≤ high) : clamp (ofRat x) (ofRat low) (ofRat high) = ofRat (max low (min x high)) := by
  simp only [clamp, lt_ofRat hx hl, lt_ofRat hh hx, decide_eq_true_iff]
  split
  next below => rw [min_eq_left (below.le.trans h), max_eq_left below.le]
  next inside =>
    split
    next above => rw [min_eq_right above.le, max_eq_right h]
    next within => rw [min_eq_left (not_lt.1 within), max_eq_right (not_lt.1 inside)]

/-- Clamping moves a number towards those between the bounds. -/
theorem abs_clamp_sub_le (hl : low ≤ y) (hh : y ≤ high) :
    |max low (min x high) - y| ≤ |x - y| :=
  calc |max low (min x high) - y|
    _ = |max (min x high) low - max (min y high) low| := by
      rw [max_comm low, min_eq_left hh, max_eq_left hl]
    _ ≤ |min x high - min y high| := abs_max_sub_max_le_abs ..
    _ ≤ |x - y| := by simpa using abs_min_sub_min_le_max x high y high

end

section

variable {d j u : ℚ} (hd : 0 ≤ d) (hj : 0 ≤ j) (draw : |u| ≤ 1)
include hd hj draw

/-- The chance of a delay is a part of its share. -/
theorem abs_mul_le : |d * j * u| ≤ d * j := by
  rw [abs_mul, abs_of_nonneg (mul_nonneg hd hj)]
  exact mul_le_of_le_one_right (mul_nonneg hd hj) draw

variable (whole : j ≤ 1) (twice : d + d ≤ Duration.longest)
include whole twice

theorem inRange_add_mul : |d + d * j * u| ≤ largest := by
  obtain ⟨down, up⟩ := abs_le.1 (abs_mul_le hd hj draw)
  have share : d * j ≤ d := mul_le_of_le_one_right hd whole
  exact inRange_of_le (by linarith) (by linarith)

theorem ofRat_add_mul : ofRat d + ofRat d * ofRat j * ofRat u = ofRat (d + d * j * u) := by
  have share : d * j ≤ d := mul_le_of_le_one_right hd whole
  have part := abs_mul_le hd hj draw
  have inDelay : |d| ≤ largest := inRange_of_le hd (by linarith)
  have inJitter : |j| ≤ largest := by
    rw [abs_of_nonneg hj]
    exact whole.trans ((le_abs_self 1).trans inRange_one)
  have inDraw : |u| ≤ largest := draw.trans ((le_abs_self 1).trans inRange_one)
  have inShare : |d * j| ≤ largest := inRange_of_le (mul_nonneg hd hj) (by linarith)
  have inPart : |d * j * u| ≤ largest := part.trans ((le_abs_self _).trans inShare)
  rw [ofRat_mul_of_le inDelay inJitter, ofRat_mul_of_le inShare inDraw,
    ofRat_add_of_le inDelay inPart]

end

section

variable {b : Backoff Ranged} (h : b.IsExact) (real : b.maxDelay ≤ Duration.longest)
  (attempt : ℕ) {u : ℚ} (draw : |u| ≤ 1)
include h real draw

/-- A delay moved by chance, in seconds and before it is rounded. -/
theorem exists_moved : ∃ y : ℚ, 0 ≤ y ∧ y ≤ Quantity.seconds b.maxDelay ∧
    |y - Quantity.seconds (b.baseDelayFor attempt)| ≤
      b.jitter.toRat * Quantity.seconds (b.baseDelayFor attempt) ∧
    b.delayFor attempt (ofRat u) = (Quantity.duration? (ofRat y)).getD b.maxDelay := by
  have order := baseDelayFor_le h real attempt
  have nonneg := Quantity.seconds_nonneg (b.baseDelayFor attempt)
  have below := Quantity.seconds_mono order
  have twice : (Quantity.seconds (b.baseDelayFor attempt) : ℚ) +
      Quantity.seconds (b.baseDelayFor attempt) ≤ Duration.longest := by
    have := below.trans (Quantity.seconds_mono real)
    rw [Quantity.seconds_eq Duration.longest] at this
    linarith [(Nat.cast_nonneg Duration.longest : (0 : ℚ) ≤ _)]
  unfold delayFor
  rw [seconds_eq_ofRat (order.trans real), seconds_eq_ofRat real, zero_eq]
  set d : ℚ := Quantity.seconds (b.baseDelayFor attempt)
  set longest : ℚ := Quantity.seconds b.maxDelay
  split
  · refine ⟨max 0 (min (d + d * b.jitter.toRat * u) longest), le_max_left _ _,
      max_le (nonneg.trans below) (min_le_right _ _), ?_, ?_⟩
    · refine (abs_clamp_sub_le nonneg below).trans ?_
      rw [add_sub_cancel_left, mul_comm b.jitter.toRat]
      exact abs_mul_le nonneg h.jitter_nonneg draw
    · have sum := ofRat_add_mul nonneg h.jitter_nonneg draw h.jitter_le_one twice
      have inSum := inRange_add_mul nonneg h.jitter_nonneg draw h.jitter_le_one twice
      rw [← h.jitter] at sum
      simp only [sum]
      rw [clamp_ofRat inSum inRange_zero (inRange_seconds real) (nonneg.trans below)]
  · refine ⟨d, nonneg, below, ?_, rfl⟩
    rw [sub_self, abs_zero]
    exact mul_nonneg h.jitter_nonneg nonneg

/-- A delay stays under the longest one, and moves by its share, to the nanosecond. -/
theorem delayFor_le : b.delayFor attempt (ofRat u) ≤ b.maxDelay ∧
    |(b.delayFor attempt (ofRat u) : ℚ) - b.baseDelayFor attempt| ≤
      b.jitter.toRat * b.baseDelayFor attempt + 1 / 2 := by
  obtain ⟨y, nonneg, le, near, hy⟩ := exists_moved h real attempt draw
  obtain ⟨d, hd, nearest⟩ := exists_duration? nonneg (le.trans (Quantity.seconds_mono real))
  rw [hy, hd, Option.getD_some]
  constructor
  · refine nearest.le (nearest_self b.maxDelay) ?_
    rwa [Quantity.seconds_eq, le_div_iff₀ (by norm_num)] at le
  · have scaled : |y * 1000000000 - b.baseDelayFor attempt| ≤
        b.jitter.toRat * b.baseDelayFor attempt := by
      rw [Quantity.seconds_eq] at near
      obtain ⟨down, up⟩ := abs_le.1 near
      exact abs_le.2 ⟨by linarith, by linarith⟩
    calc |(d : ℚ) - b.baseDelayFor attempt|
      _ ≤ |d - y * 1000000000| + |y * 1000000000 - b.baseDelayFor attempt| := abs_sub_le ..
      _ ≤ 1 / 2 + b.jitter.toRat * b.baseDelayFor attempt := add_le_add nearest.error scaled
      _ = b.jitter.toRat * b.baseDelayFor attempt + 1 / 2 := add_comm ..

end

/-! ## Main statement -/

/-- The delays of a valid backoff grow up to the longest one, and chance moves each by its share at
most, to the nanosecond, and not beyond the longest one. All durations of the program are `real`. -/
theorem delays_within {b : Backoff Ranged} (valid : b.validate = .ok ())
    (real : b.maxDelay ≤ Duration.longest) (attempt : ℕ) :
    b.baseDelayFor attempt ≤ b.maxDelay ∧
      b.baseDelayFor attempt ≤ b.baseDelayFor (attempt + 1) ∧
      ∀ u : ℚ, |u| ≤ 1 → b.delayFor attempt (ofRat u) ≤ b.maxDelay ∧
        |(b.delayFor attempt (ofRat u) : ℚ) - b.baseDelayFor attempt| ≤
          b.jitter.toRat * b.baseDelayFor attempt + 1 / 2 := by
  have h := isExact_of_validate valid
  exact ⟨baseDelayFor_le h real attempt, baseDelayFor_le_succ h real attempt,
    fun _ draw => delayFor_le h real attempt draw⟩

/-- The usual delays double, and chance makes one of them longer by a part; and without a delay at
first there is none from the 1024th retry on, where the power of the factor is infinite. -/
theorem delays_within_of_doubling :
    let b : Backoff Ranged := Backoff.standard
    let still : Backoff Ranged := { Backoff.standard with baseDelay := 0 }
    (b.validate = .ok () ∧ b.maxDelay ≤ Duration.longest ∧ |(1 / 2 : ℚ)| ≤ 1 ∧
      b.baseDelayFor 1 = Duration.ofMillis 200 ∧ b.baseDelayFor 2 = Duration.ofMillis 400 ∧
      b.baseDelayFor 1 ≤ b.maxDelay ∧ b.baseDelayFor 1 ≤ b.baseDelayFor 2 ∧
      b.delayFor 1 (ofRat (1 / 2)) = Duration.ofMillis 210 ∧
      b.delayFor 1 (ofRat (1 / 2)) ≤ b.maxDelay ∧
      |(b.delayFor 1 (ofRat (1 / 2)) : ℚ) - b.baseDelayFor 1| ≤
        b.jitter.toRat * b.baseDelayFor 1 + 1 / 2) ∧
    still.validate = .ok () ∧ still.maxDelay ≤ Duration.longest ∧ |(-1 : ℚ)| ≤ 1 ∧
      still.baseDelayFor 1023 ≤ still.maxDelay ∧
      still.baseDelayFor 1023 ≤ still.baseDelayFor 1024 ∧
      still.delayFor 1024 (ofRat (-1)) ≤ still.maxDelay ∧
      |(still.delayFor 1024 (ofRat (-1)) : ℚ) - still.baseDelayFor 1024| ≤
        still.jitter.toRat * still.baseDelayFor 1024 + 1 / 2 := by
  intro b still
  have valid : b.validate = .ok () := by decide +kernel
  have real : b.maxDelay ≤ Duration.longest := by decide
  have upwards : |(1 / 2 : ℚ)| ≤ 1 := by norm_num
  obtain ⟨le, mono, moved⟩ := delays_within valid real 1
  have valid' : still.validate = .ok () := by decide +kernel
  have downwards : |(-1 : ℚ)| ≤ 1 := by norm_num
  obtain ⟨le', mono', -⟩ := delays_within valid' real 1023
  obtain ⟨-, -, moved'⟩ := delays_within valid' real 1024
  exact ⟨⟨valid, real, upwards, by decide +kernel, by decide +kernel, le, mono, by decide +kernel,
    moved (1 / 2) upwards⟩, valid', real, downwards, le', mono', moved' (-1) downwards⟩

end Registrar.Backoff
