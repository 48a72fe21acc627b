import Mathlib.Data.Rat.Floor
import Mathlib.Tactic.Linarith
import Mathlib.Tactic.NormNum
import Mathlib.Tactic.Positivity
import Mathlib.Tactic.Ring
import Registrar.Bucket

/-!
# Exact quantities

Token counts, rates and seconds read as rationals. The operations of a bucket become the arithmetic
of an ordered field: `refill_tokens` and `spend_tokens` say what the store holds after each of them,
and no later statement opens their definitions.
-/

namespace Registrar

instance instQuantityRat : Quantity ℚ where
  ofNat n := n
  decimal n places := n / 10 ^ places
  le a b := a ≤ b
  isFinite _ := true
  isUndefined _ := false
  duration? x :=
    if x < 0 then none
    else
      let nanos := Decimal.roundHalfEven (x.num.natAbs * Duration.second) x.den
      if nanos ≤ Duration.longest then some nanos else none
  word32 x := min ⌊x⌋₊ Decimal.max32

namespace Quantity

theorem lesser_eq_min (x y : ℚ) : lesser x y = min x y := by
  simp [lesser, isUndefined, le, min_def]

theorem greater_eq_max (x y : ℚ) : greater x y = max x y := by
  rw [max_comm, max_def]
  simp [greater, isUndefined, le]

theorem seconds_eq (d : Duration) : (seconds d : ℚ) = d / 1000000000 := by
  have whole : d / Duration.second * Duration.second + d % Duration.second = d :=
    Nat.div_add_mod' d _
  have cast : ((d / Duration.second : ℕ) : ℚ) * 1000000000 + (d % Duration.second : ℕ) = d := by
    exact_mod_cast whole
  have h : (seconds d : ℚ) =
      ((d / Duration.second : ℕ) : ℚ) + ((d % Duration.second : ℕ) : ℚ) / (1000000000 : ℕ) := rfl
  rw [h, ← cast]
  push_cast
  ring

theorem seconds_add (d e : Duration) : (seconds (d + e) : ℚ) = seconds d + seconds e := by
  simp only [seconds_eq]
  push_cast
  ring

theorem seconds_nonneg (d : Duration) : 0 ≤ (seconds d : ℚ) := by
  rw [seconds_eq]
  positivity

theorem seconds_mono {d e : Duration} (h : d ≤ e) : (seconds d : ℚ) ≤ seconds e := by
  obtain ⟨k, rfl⟩ := Nat.exists_eq_add_of_le h
  rw [seconds_add]
  linarith [seconds_nonneg k]

end Quantity

namespace BucketLimit

theorem validate_eq_ok_iff {l : BucketLimit ℚ} :
    l.validate = .ok () ↔ 1 ≤ l.capacity ∧ 1 / 1000 ≤ l.refillPerSecond := by
  have one : (Quantity.one : ℚ) = 1 := by simp [Quantity.one, Quantity.ofNat]
  have slowest : (slowestRefill : ℚ) = 1 / 1000 := by
    norm_num [slowestRefill, Quantity.decimal]
  unfold validate
  simp only [Quantity.isFinite, Quantity.le, one, slowest]
  by_cases hc : 1 ≤ l.capacity <;> simp [hc]

end BucketLimit

namespace Bucket

variable {b : Bucket ℚ} {now : Instant}

theorem holdsToken_iff : b.holdsToken = true ↔ 1 - 1 / 1000000000 ≤ b.tokens := by
  have h : b.holdsToken = decide ((1 : ℕ) ≤ b.tokens + (1 : ℕ) / 10 ^ 9) := rfl
  rw [h, decide_eq_true_iff]
  norm_num
  constructor <;> intro h <;> linarith

theorem spend_tokens (b : Bucket ℚ) : b.spend.tokens = max (b.tokens - 1) 0 := by
  have h : b.spend.tokens = Quantity.greater (b.tokens - (1 : ℕ)) ((0 : ℕ) : ℚ) := rfl
  rw [h, Quantity.greater_eq_max]
  norm_num

/-- A store that is within its capacity holds after a refill what flowed in, up to the capacity. -/
theorem refill_tokens (h : b.tokens ≤ b.limit.capacity) (now : Instant) :
    (b.refill now).tokens =
      min (b.tokens + Quantity.seconds (now - b.refilledAt) * b.limit.refillPerSecond)
        b.limit.capacity := by
  by_cases hn : now ≤ b.refilledAt
  · rw [refill_of_le hn, Nat.sub_eq_zero_of_le hn, Quantity.seconds_eq]
    simp [h]
  · rw [← Quantity.lesser_eq_min, refill, if_neg hn]

end Bucket

end Registrar
