import Registrar.Proofs.Bucket.Exact

/-!
# Rounding to the nearest

A number of seconds becomes the duration nearest to it (`Quantity.exists_duration?`): the nearest
whole number of nanoseconds, the even one of two (`Decimal.Nearest`).
-/

namespace Registrar

namespace Decimal

/-- The whole number nearest to `x`, the even one of two. -/
structure Nearest (n : ℕ) (x : ℚ) : Prop where
  error : |n - x| ≤ 1 / 2
  even : |n - x| = 1 / 2 → Even n

theorem nearest_self (n : ℕ) : Nearest n n := by
  constructor <;> norm_num

/-- Rounding keeps the order. -/
theorem Nearest.le {m n : ℕ} {x y : ℚ} (hx : Nearest m x) (hy : Nearest n y) (h : x ≤ y) :
    m ≤ n := by
  by_contra! hlt
  have step : (n : ℚ) + 1 ≤ m := by exact_mod_cast hlt
  obtain ⟨hx₁, hx₂⟩ := abs_le.1 hx.error
  obtain ⟨hy₁, hy₂⟩ := abs_le.1 hy.error
  -- Only a tie between the two is left, and they cannot both be even.
  have next : m = n + 1 := by
    have : (m : ℚ) = (n + 1 : ℕ) := by
      push_cast
      linarith
    exact_mod_cast this
  have up : |(m : ℚ) - x| = 1 / 2 := by
    rw [abs_of_nonneg (by linarith)]
    linarith
  have down : |(n : ℚ) - y| = 1 / 2 := by
    rw [abs_of_nonpos (by linarith)]
    linarith
  have odd := (hy.even down).add_one
  rw [← next] at odd
  exact Nat.not_even_iff_odd.2 odd (hx.even up)

/-- A number has one nearest whole number. -/
theorem Nearest.unique {m n : ℕ} {x : ℚ} (hm : Nearest m x) (hn : Nearest n x) : m = n :=
  Nat.le_antisymm (hm.le hn le_rfl) (hn.le hm le_rfl)

/-- No whole number is nearer than the nearest one. -/
theorem Nearest.int {n : ℕ} {x : ℚ} (h : Nearest n x) (k : ℤ) :
    |(n : ℚ) - x| < |(k : ℚ) - x| ∨ |(n : ℚ) - x| = |(k : ℚ) - x| ∧ (k = n ∨ Even n) := by
  by_cases same : k = n
  · subst same
    exact .inr ⟨rfl, .inl rfl⟩
  · have apart : (1 : ℚ) ≤ |(k : ℚ) - n| := by
      have : (1 : ℤ) ≤ |k - n| := Int.one_le_abs (sub_ne_zero.2 same)
      exact_mod_cast this
    have triangle : |(k : ℚ) - n| ≤ |(k : ℚ) - x| + |(n : ℚ) - x| := by
      rw [abs_sub_comm (n : ℚ) x]
      exact abs_sub_le _ _ _
    have near := h.error
    rcases lt_or_eq_of_le (by linarith : |(n : ℚ) - x| ≤ |(k : ℚ) - x|) with lt | eq
    · exact .inl lt
    · exact .inr ⟨eq, .inr (h.even (by linarith))⟩

theorem nearest_roundHalfEven (num : ℕ) {den : ℕ} (h : 0 < den) :
    Nearest (roundHalfEven num den) (num / den) := by
  have hden : (0 : ℚ) < den := by exact_mod_cast h
  obtain ⟨q, r, rfl, hq, hr⟩ : ∃ q r, num = den * q + r ∧ num / den = q ∧ num % den = r :=
    ⟨_, _, (Nat.div_add_mod num den).symm, rfl, rfl⟩
  have hx : ((den * q + r : ℕ) : ℚ) / den = q + r / den := by
    push_cast
    field_simp
  unfold roundHalfEven
  simp only [hq, hr, hx]
  obtain hlt | heq | hlt := lt_trichotomy (2 * r) den
  · have part : (r : ℚ) / den < 1 / 2 := by
      rw [div_lt_div_iff₀ hden two_pos]
      exact_mod_cast (by omega : r * 2 < 1 * den)
    have off : |(q : ℚ) - (q + r / den)| = r / den := by
      rw [sub_add_cancel_left, abs_neg, abs_of_nonneg (by positivity)]
    rw [if_pos hlt]
    exact ⟨off.le.trans part.le, fun tie => absurd (off.symm.trans tie) part.ne⟩
  · have part : (r : ℚ) / den = 1 / 2 := by
      rw [div_eq_div_iff hden.ne' two_ne_zero]
      exact_mod_cast (by omega : r * 2 = 1 * den)
    rw [if_neg heq.not_lt, if_neg heq.not_gt, part]
    by_cases even : q % 2 = 0
    · simp only [even, beq_self_eq_true, if_true]
      refine ⟨?_, fun _ => Nat.even_iff.2 even⟩
      rw [sub_add_cancel_left, abs_neg, abs_of_pos one_half_pos]
    · simp only [beq_iff_eq, even, if_false]
      refine ⟨?_, fun _ => Nat.even_add_one.2 (mt Nat.even_iff.1 even)⟩
      push_cast
      rw [add_sub_add_left_eq_sub, sub_half, abs_of_pos one_half_pos]
  · have part : 1 / 2 < (r : ℚ) / den := by
      rw [div_lt_div_iff₀ two_pos hden]
      exact_mod_cast (by omega : 1 * den < r * 2)
    have whole : (r : ℚ) / den ≤ 1 := by
      rw [div_le_one hden]
      exact_mod_cast hr ▸ (Nat.mod_lt _ h).le
    have off : |((q + 1 : ℕ) : ℚ) - (q + r / den)| = 1 - r / den := by
      push_cast
      rw [add_sub_add_left_eq_sub, abs_of_nonneg (by linarith)]
    rw [if_neg hlt.not_gt, if_pos hlt]
    constructor
    · rw [off]
      linarith
    · intro tie
      rw [off] at tie
      linarith

/-- The nearest duration is half a nanosecond off at most. -/
theorem Nearest.abs_seconds_sub_le {d : Duration} {x : ℚ} (h : Nearest d (x * 1000000000)) :
    |Quantity.seconds d - x| ≤ 1 / 2000000000 := by
  obtain ⟨below, above⟩ := abs_le.1 h.error
  rw [Quantity.seconds_eq, abs_le]
  constructor <;> linarith

end Decimal

/-- A number of seconds that is not larger than a duration can be becomes the nearest duration. -/
theorem Quantity.exists_duration? {q : ℚ} (h₀ : 0 ≤ q) (h : q ≤ Quantity.seconds Duration.longest) :
    ∃ d, Quantity.duration? q = some d ∧ Decimal.Nearest d (q * 1000000000) := by
  have nearest : Decimal.Nearest
      (Decimal.roundHalfEven (q.num.natAbs * Duration.second) q.den) (q * 1000000000) := by
    have quotient : ((q.num.natAbs * Duration.second : ℕ) : ℚ) / q.den = q * 1000000000 := by
      rw [Nat.cast_mul, Nat.cast_natAbs, abs_of_nonneg (Rat.num_nonneg.2 h₀), mul_div_right_comm,
        Rat.num_div_den]
      norm_num [Duration.second]
    exact quotient ▸ Decimal.nearest_roundHalfEven _ q.den_pos
  have representable := nearest.le (Decimal.nearest_self Duration.longest) (by
    rwa [Quantity.seconds_eq, le_div_iff₀ (by norm_num)] at h)
  refine ⟨_, ?_, nearest⟩
  show (if q < 0 then none else _) = _
  rw [if_neg h₀.not_gt]
  exact if_pos representable

end Registrar
