import Registrar.Proofs.Quantity.Nearest
import Registrar.Proofs.Quantity.Number

/-!
# Rounding to a double

What is computed with doubles is rounded to a mantissa and an exponent. The exact result is followed
through this as a rational number: the two bits behind a mantissa say how far from it the number is
(`Shows`), a shift to the right halves both, and what is left in the end is the whole number nearest
to the one that was shifted. Its unit is the finest that a double of this size has (`Scaled`), so
that no other double is nearer (`nearest_of_scaled`).

Main statement: `rounds_of_shows`.
-/

namespace Registrar.Double

open Float.Model Float.Model.UnpackedFloat

/-! ## The bits behind a mantissa -/

/-- A mantissa, the bit behind it and whether there is anything behind that show a number. -/
inductive Shows : ExtendedMantissa → ℚ → Prop
  | whole (m : ℕ) : Shows ⟨m, false, false⟩ m
  | less {m : ℕ} {x : ℚ} (above : m < x) (below : x < m + 1 / 2) : Shows ⟨m, false, true⟩ x
  | half (m : ℕ) : Shows ⟨m, true, false⟩ (m + 1 / 2)
  | more {m : ℕ} {x : ℚ} (above : m + 1 / 2 < x) (below : x < m + 1) : Shows ⟨m, true, true⟩ x

namespace Shows

variable {em : ExtendedMantissa} {x : ℚ}

theorem le (h : Shows em x) : (em.mantissa : ℚ) ≤ x := by
  cases h with
  | whole => exact le_rfl
  | less above => exact above.le
  | half => exact le_add_of_nonneg_right (by norm_num)
  | more above => exact (le_add_of_nonneg_right (by norm_num)).trans above.le

theorem lt (h : Shows em x) : x < em.mantissa + 1 := by
  cases h with
  | whole => exact lt_add_one _
  | less _ below => exact below.trans ((add_lt_add_iff_left _).2 (by norm_num))
  | half => exact (add_lt_add_iff_left _).2 (by norm_num)
  | more _ below => exact below

/-- A shift by one place halves the number. -/
theorem shiftRightOne (h : Shows em x) : Shows em.shiftRightOne (x / 2) := by
  have even (k : ℕ) (r s : Bool) : (⟨2 * k, r, s⟩ : ExtendedMantissa).shiftRightOne =
      ⟨k, false, r || s⟩ := by
    simp [ExtendedMantissa.shiftRightOne]
  have odd (k : ℕ) (r s : Bool) : (⟨2 * k + 1, r, s⟩ : ExtendedMantissa).shiftRightOne =
      ⟨k, true, r || s⟩ := by
    simp [ExtendedMantissa.shiftRightOne, Nat.add_mod, show (2 * k + 1) / 2 = k by omega]
  cases h with
  | whole m =>
    obtain ⟨k, rfl | rfl⟩ := Nat.even_or_odd' m
    · rw [even, show ((2 * k : ℕ) : ℚ) / 2 = k by push_cast; ring]
      exact .whole k
    · rw [odd, show ((2 * k + 1 : ℕ) : ℚ) / 2 = k + 1 / 2 by push_cast; ring]
      exact .half k
  | @less m x above below =>
    obtain ⟨k, rfl | rfl⟩ := Nat.even_or_odd' m <;> push_cast at above below
    · rw [even]
      exact .less (by linarith) (by linarith)
    · rw [odd]
      exact .more (by linarith) (by linarith)
  | half m =>
    obtain ⟨k, rfl | rfl⟩ := Nat.even_or_odd' m
    · rw [even]
      exact .less (by push_cast; linarith) (by push_cast; linarith)
    · rw [odd]
      exact .more (by push_cast; linarith) (by push_cast; linarith)
  | @more m x above below =>
    obtain ⟨k, rfl | rfl⟩ := Nat.even_or_odd' m <;> push_cast at above below
    · rw [even]
      exact .less (by linarith) (by linarith)
    · rw [odd]
      exact .more (by linarith) (by linarith)

theorem shiftRight (h : Shows em x) (n : ℕ) : Shows (em >>> n) (x / 2 ^ n) := by
  induction n with
  | zero => rwa [pow_zero, div_one]
  | succ n ih =>
    rw [pow_succ, ← div_div]
    exact ih.shiftRightOne

/-- What a mantissa is rounded to is nearest to the number that it shows. -/
theorem nearest (h : Shows em x) : Decimal.Nearest em.roundedMantissa x := by
  cases h with
  | whole m => exact Decimal.nearest_self m
  | @less m x above below =>
    have off : |(m : ℚ) - x| < 1 / 2 := abs_lt.2 ⟨by linarith, by linarith⟩
    exact ⟨off.le, fun tie => absurd tie off.ne⟩
  | half m =>
    show Decimal.Nearest (m + m % 2) _
    refine ⟨?_, fun _ => ?_⟩
    · obtain ⟨k, rfl | rfl⟩ := Nat.even_or_odd' m
      · rw [Nat.mul_mod_right, add_zero, sub_add_cancel_left, abs_neg, abs_of_pos one_half_pos]
      · rw [show (2 * k + 1) % 2 = 1 by omega, Nat.cast_add_one, add_sub_add_left_eq_sub, sub_half,
          abs_of_pos one_half_pos]
    · rw [Nat.even_iff]
      omega
  | @more m x above below =>
    have off : |((m + 1 : ℕ) : ℚ) - x| < 1 / 2 := by
      push_cast
      exact abs_lt.2 ⟨by linarith, by linarith⟩
    exact ⟨off.le, fun tie => absurd tie off.ne⟩

end Shows

/-- A quotient with a rest is shown by its whole part and what the rest is of the divisor. -/
theorem shows_div (n : ℕ) {d : ℕ} (hd : 0 < d) :
    Shows (.ofMantissaAndAccuracy (n / d) (accuracyOfFraction (n % d) d)) (n / d) := by
  have hd' : (0 : ℚ) < d := by exact_mod_cast hd
  have value : (n : ℚ) / d = (n / d : ℕ) + (n % d : ℕ) / d := by
    rw [eq_comm, ← mul_div_cancel_left₀ ((n / d : ℕ) : ℚ) hd'.ne', ← add_div]
    congr 1
    exact_mod_cast Nat.div_add_mod n d
  generalize n / d = q at value ⊢
  have small : n % d < d := Nat.mod_lt n hd
  generalize n % d = r at value small ⊢
  rw [value]
  unfold accuracyOfFraction
  split
  case isTrue zero =>
    rw [zero, Nat.cast_zero, zero_div, add_zero]
    exact .whole q
  case isFalse some_rest =>
    have pos : 0 < (r : ℚ) / d := by
      have : (0 : ℚ) < r := by exact_mod_cast Nat.pos_of_ne_zero some_rest
      positivity
    have one : (r : ℚ) / d < 1 := (div_lt_one hd').2 (by exact_mod_cast small)
    rcases lt_trichotomy (2 * r) d with lt | eq | gt
    · rw [Nat.compare_eq_lt.2 lt]
      have : (r : ℚ) / d < 1 / 2 := by
        rw [div_lt_div_iff₀ hd' two_pos]
        exact_mod_cast (by omega : r * 2 < 1 * d)
      exact .less (by linarith) (by linarith)
    · rw [Nat.compare_eq_eq.2 eq]
      have : (r : ℚ) / d = 1 / 2 := by
        rw [div_eq_div_iff hd'.ne' two_ne_zero]
        exact_mod_cast (by omega : r * 2 = 1 * d)
      rw [this]
      exact .half q
    · rw [Nat.compare_eq_gt.2 gt]
      have : 1 / 2 < (r : ℚ) / d := by
        rw [div_lt_div_iff₀ two_pos hd']
        exact_mod_cast (by omega : 1 * d < r * 2)
      exact .more (by linarith) (by linarith)

/-! ## Exponents -/

/-- The exponent that a number has as a double, if it is not too large for one. -/
structure Scaled (t : ℤ) (q : ℚ) : Prop where
  nonneg : 0 ≤ q
  above : -1074 ≤ t
  lt : q < 2 ^ 53 * 2 ^ t
  filled : 2 ^ 52 * 2 ^ t ≤ q ∨ t = -1074

/-- The whole number of units that is left in the end. -/
def place (s : Sign) (r : ℕ) (t : ℤ) : UnpackedFloat :=
  if h : r = 0 then .zero s
  else if r = 2 ^ 53 then .finite s (2 ^ 52) (t + 1) (by decide)
  else .finite s r t (Nat.pos_of_ne_zero h)

section

variable {m : ℕ} {e t : ℤ} {acc : Accuracy} {q : ℚ}

theorem targetExponent_eq (m : ℕ) (e : ℤ) :
    Format.binary64.targetExponent (totalExponent m e) = max (m.log2 + 1 + e - 53) (-1074) := rfl

/-- A number whose mantissa was computed to enough bits gets its exponent. -/
theorem scaled_targetExponent (fine : 2 ^ 52 ≤ m ∨ e ≤ -1074) (le : m * 2 ^ e ≤ q)
    (lt : q < (m + 1) * 2 ^ e) :
    Scaled (Format.binary64.targetExponent (totalExponent m e)) q := by
  rw [targetExponent_eq]
  generalize ht : max ((m.log2 : ℤ) + 1 + e - 53) (-1074) = t
  refine ⟨(by positivity : (0 : ℚ) ≤ m * 2 ^ e).trans le, by omega, ?_, ?_⟩
  · have size : (m : ℚ) + 1 ≤ 2 ^ (m.log2 + 1) := by
      exact_mod_cast Nat.succ_le_of_lt Nat.lt_log2_self
    calc q < (m + 1) * 2 ^ e := lt
      _ ≤ 2 ^ (m.log2 + 1) * 2 ^ e := by gcongr
      _ = 2 ^ ((m.log2 + 1 : ℕ) + e) := by rw [zpow_add₀ two_ne_zero, zpow_natCast]
      _ ≤ 2 ^ ((53 : ℕ) + t) := zpow_le_zpow_right₀ one_le_two (by omega)
      _ = 2 ^ 53 * 2 ^ t := by rw [zpow_add₀ two_ne_zero, zpow_natCast]
  · by_cases least : t = -1074
    · exact .inr least
    · have filled : 2 ^ 52 ≤ m := by
        rcases Nat.lt_or_ge m.log2 52 with small | large
        · exact fine.resolve_right fun low => by omega
        · have : m ≠ 0 := by
            rintro rfl
            exact absurd large (by decide)
          exact (Nat.le_log2 this).1 large
      have size : (2 : ℚ) ^ m.log2 ≤ m := by
        exact_mod_cast Nat.log2_self_le (Nat.ne_of_gt (Nat.lt_of_lt_of_le (by decide) filled))
      left
      calc (2 : ℚ) ^ 52 * 2 ^ t = 2 ^ ((52 : ℕ) + t) := by rw [zpow_add₀ two_ne_zero, zpow_natCast]
        _ = 2 ^ (m.log2 + e) := by congr 1; omega
        _ = 2 ^ m.log2 * 2 ^ e := by rw [zpow_add₀ two_ne_zero, zpow_natCast]
        _ ≤ m * 2 ^ e := by gcongr
        _ ≤ q := le

/-- The first shift. -/
theorem shiftToTargetExponent_of_shows (fine : 2 ^ 52 ≤ m ∨ e ≤ -1074)
    (h : Shows (.ofMantissaAndAccuracy m acc) (q / 2 ^ e)) :
    ∃ em t, shiftToTargetExponent .binary64 m e acc = (em, t) ∧ Shows em (q / 2 ^ t) ∧
      Scaled t q := by
  have mantissa : (ExtendedMantissa.ofMantissaAndAccuracy m acc).mantissa = m := by
    rcases acc with _ | _ | _ | _ <;> rfl
  have unit : (0 : ℚ) < 2 ^ e := by positivity
  have le := h.le
  have lt := h.lt
  rw [mantissa, le_div_iff₀ unit] at le
  rw [mantissa, div_lt_iff₀ unit] at lt
  have scaled := scaled_targetExponent fine le lt
  generalize ht : Format.binary64.targetExponent (totalExponent m e) = t at scaled
  have far : e ≤ t := by
    rw [targetExponent_eq] at ht
    rcases fine with filled | low
    · have := (Nat.le_log2 (Nat.ne_of_gt (Nat.lt_of_lt_of_le (by decide) filled))).2 filled
      omega
    · omega
  obtain ⟨k, rfl⟩ : ∃ k : ℕ, t = e + k := ⟨(t - e).toNat, by omega⟩
  refine ⟨ExtendedMantissa.ofMantissaAndAccuracy m acc >>> k, e + k, ?_, ?_, scaled⟩
  · unfold shiftToTargetExponent shiftToExponent
    rw [ht]
    have amount : (e + k - e).toNat = k := by omega
    simp only [amount]
  · rw [zpow_add₀ two_ne_zero, zpow_natCast, ← div_div]
    exact h.shiftRight k

/-- A whole number of units needs no second shift, unless it has one bit too many. -/
theorem shiftToTargetExponent_of_le {r : ℕ} (h : r ≤ 2 ^ 53) (least : -1074 ≤ t)
    (filled : 2 ^ 52 ≤ r ∨ t = -1074) :
    shiftToTargetExponent .binary64 r t .exact =
      if r = 2 ^ 53 then (⟨2 ^ 52, false, false⟩, t + 1) else (⟨r, false, false⟩, t) := by
  unfold shiftToTargetExponent shiftToExponent
  rw [targetExponent_eq]
  split
  case isTrue full =>
    have log2 : r.log2 = 53 := by rw [full, Nat.log2_two_pow]
    have amount : (max ((53 : ℕ) + 1 + t - 53) (-1074) - t).toNat = 1 := by omega
    rw [log2]
    simp only [amount]
    rw [full]
    rfl
  case isFalse room =>
    have amount : (max ((r.log2 : ℤ) + 1 + t - 53) (-1074) - t).toNat = 0 := by
      rcases Nat.eq_zero_or_pos r with rfl | pos
      · rw [Nat.log2_zero]
        omega
      · have : r.log2 < 53 := (Nat.log2_lt (Nat.ne_of_gt pos)).2 (by omega)
        omega
    simp only [amount]
    exact congrArg (Prod.mk _) (add_zero t)

end

/-! ## What is rounded -/

section

variable {m r : ℕ} {e t : ℤ} {acc : Accuracy} {q : ℚ}

theorem Scaled.unit_pos (t : ℤ) : (0 : ℚ) < 2 ^ t := by positivity

/-- The nearest whole number of units has 53 bits, or one more. -/
theorem Scaled.le (scaled : Scaled t q) (near : Decimal.Nearest r (q / 2 ^ t)) : r ≤ 2 ^ 53 := by
  refine near.le (Decimal.nearest_self (2 ^ 53)) ?_
  rw [div_le_iff₀ (Scaled.unit_pos t)]
  exact_mod_cast scaled.lt.le

theorem Scaled.filled_of_nearest (scaled : Scaled t q) (near : Decimal.Nearest r (q / 2 ^ t)) :
    2 ^ 52 ≤ r ∨ t = -1074 := by
  refine scaled.filled.imp_left fun filled => ?_
  refine (Decimal.nearest_self (2 ^ 52)).le near ?_
  rw [le_div_iff₀ (Scaled.unit_pos t)]
  exact_mod_cast filled

theorem roundWithAccuracy_of_shows (s : Sign) (fine : 2 ^ 52 ≤ m ∨ e ≤ -1074)
    (h : Shows (.ofMantissaAndAccuracy m acc) (q / 2 ^ e)) :
    ∃ r t, roundWithAccuracy .binary64 s m e acc = place s r t ∧
      Decimal.Nearest r (q / 2 ^ t) ∧ Scaled t q := by
  obtain ⟨em, t, shifted, shows_, scaled⟩ := shiftToTargetExponent_of_shows fine h
  have near := shows_.nearest
  refine ⟨em.roundedMantissa, t, ?_, near, scaled⟩
  unfold roundWithAccuracy place
  rw [shifted]
  dsimp only
  rw [shiftToTargetExponent_of_le (scaled.le near) scaled.above (scaled.filled_of_nearest near)]
  by_cases full : em.roundedMantissa = 2 ^ 53
  · rw [if_pos full, dif_neg (show ¬em.roundedMantissa = 0 by omega), if_pos full]
    rfl
  · rw [if_neg full]
    split <;> rfl

/-! ### The number of units as a double -/

/-- The last bit of the mantissa is zero. -/
def HasEvenMantissa (x : Float) : Prop :=
  match x.toModel.unpack with
  | .finite _ m _ _ => Even m
  | _ => True

/-- No finite double is nearer to the number, and of two that are as near it is the even one. -/
def Nearest (q : ℚ) (x : Float) : Prop :=
  ∃ a, number? x = some a ∧ ∀ y b, number? y = some b →
    |a - q| < |b - q| ∨ |a - q| = |b - q| ∧ (b = a ∨ HasEvenMantissa x)

/-- Doubles of a larger size have no exponent. -/
theorem pack_of_large (s : Sign) (pos : 0 < m) (h : 972 ≤ e) :
    pack (.finite s m e pos) = pack (.infinity s) := by
  have packed : UnpackedFloat.pack .binary64 (.finite s m e pos) = packedInfinity .binary64 s := by
    unfold UnpackedFloat.pack
    refine if_pos ?_
    show 2048 ≤ (e + 1023 + 52).toNat + 1
    omega
  unfold Float.Model.pack
  simp only [packed]
  rfl

/-- The unit of the largest doubles. -/
@[irreducible] def lastUnit : ℚ := 2 ^ (971 : ℤ)

theorem lastUnit_pos : 0 < lastUnit := by
  unfold lastUnit
  positivity

theorem unit_le_lastUnit (h : e ≤ 971) : (2 : ℚ) ^ e ≤ lastUnit := by
  unfold lastUnit
  exact zpow_le_zpow_right₀ one_le_two h

theorem two_mul_lastUnit_le (h : 972 ≤ e) : 2 * lastUnit ≤ (2 : ℚ) ^ e := by
  unfold lastUnit
  rw [mul_comm, ← zpow_add_one₀ two_ne_zero]
  exact zpow_le_zpow_right₀ one_le_two h

/-- Numbers that fit but for the exponent are below a power of two if the exponent fits, too. -/
theorem small_iff_exponent (lt : m < 2 ^ 53) (filled : 2 ^ 52 ≤ m ∨ e = -1074) :
    (m : ℚ) * 2 ^ e < 2 ^ 53 * lastUnit ↔ e ≤ 971 := by
  have hm : (m : ℚ) < 2 ^ 53 := by exact_mod_cast lt
  constructor
  · intro small
    by_contra! large
    have filled : (2 ^ 52 : ℚ) ≤ m := by exact_mod_cast filled.resolve_right (by omega)
    refine small.not_ge ?_
    calc 2 ^ 53 * lastUnit = 2 ^ 52 * (2 * lastUnit) := by ring
      _ ≤ (m : ℚ) * 2 ^ e := by
        have := two_mul_lastUnit_le large
        have := lastUnit_pos
        gcongr
  · intro le
    calc (m : ℚ) * 2 ^ e ≤ m * lastUnit := by
          have := unit_le_lastUnit le
          gcongr
      _ < 2 ^ 53 * lastUnit := by
        have := lastUnit_pos
        gcongr

/-- One bit too many is one unit of the next exponent. -/
theorem full_mul (t : ℤ) : ((2 ^ 53 : ℕ) : ℚ) * 2 ^ t = (2 ^ 52 : ℕ) * 2 ^ (t + 1) := by
  rw [zpow_add_one₀ two_ne_zero]
  push_cast
  ring

variable {x : Float}

/-- The units that are left are those of a double, if there are not too many. -/
theorem number?_of_place (h : x.toModel.unpack = (pack (place .positive r t)).unpack)
    (scaled : Scaled t q) (near : Decimal.Nearest r (q / 2 ^ t))
    (small : (r : ℚ) * 2 ^ t < 2 ^ 53 * lastUnit) :
    number? x = some ((r : ℚ) * 2 ^ t) ∧ (Even r → HasEvenMantissa x) := by
  have le := scaled.le near
  have filled := scaled.filled_of_nearest near
  have above := scaled.above
  unfold place at h
  split at h
  case isTrue zero =>
    rw [unpack_pack_zero] at h
    unfold number? HasEvenMantissa
    rw [h, zero, Nat.cast_zero, zero_mul]
    exact ⟨rfl, fun _ => trivial⟩
  case isFalse some_ =>
    split at h
    case isTrue full =>
      rw [full, full_mul] at small ⊢
      have below := (small_iff_exponent (by decide) (.inl le_rfl)).1 small
      rw [unpack_pack_of_fits _ _ ⟨by decide, .inl le_rfl, by omega, below⟩] at h
      unfold HasEvenMantissa
      rw [number?_of_finite h, h]
      exact ⟨rfl, fun _ => (by decide : Even (2 ^ 52))⟩
    case isFalse room =>
      have below := (small_iff_exponent (by omega) filled).1 small
      rw [unpack_pack_of_fits _ _ ⟨by omega, filled, above, below⟩] at h
      unfold HasEvenMantissa
      rw [number?_of_finite h, h]
      exact ⟨rfl, id⟩

/-! ### No other double is nearer -/

/-- A double is a whole number of the units of a number, or smaller than all numbers that have this
unit. -/
theorem whole_or_small {s : Sign} (fits : Fits m e) :
    (∃ k : ℤ, signed s m e = k * 2 ^ t) ∨ t ≠ -1074 ∧ |signed s m e| < 2 ^ 52 * 2 ^ t := by
  rcases le_or_gt t e with le | lt
  · obtain ⟨k, rfl⟩ : ∃ k : ℕ, e = t + k := ⟨(e - t).toNat, by omega⟩
    refine .inl ⟨s.apply m * 2 ^ k, ?_⟩
    rw [signed, zpow_add₀ two_ne_zero, zpow_natCast]
    push_cast
    ring
  · have below := fits.above
    refine .inr ⟨by omega, ?_⟩
    have size : |signed s m e| = m * 2 ^ e := by
      have : (0 : ℚ) ≤ m * 2 ^ e := by positivity
      cases s
      · rw [signed_negative, abs_neg, abs_of_nonneg this]
      · rw [signed_positive, abs_of_nonneg this]
    calc |signed s m e| = m * 2 ^ e := size
      _ < 2 ^ 53 * 2 ^ e := by
        have : (m : ℚ) < 2 ^ 53 := by exact_mod_cast fits.lt
        gcongr
      _ = 2 ^ 52 * 2 ^ (e + 1) := by
        rw [zpow_add_one₀ two_ne_zero]
        ring
      _ ≤ 2 ^ 52 * 2 ^ t := by
        gcongr
        · norm_num
        · exact lt

theorem nearest_of_scaled (scaled : Scaled t q) (near : Decimal.Nearest r (q / 2 ^ t))
    (number : number? x = some ((r : ℚ) * 2 ^ t)) (even : Even r → HasEvenMantissa x) :
    Nearest q x := by
  have unit := Scaled.unit_pos t
  have off (k : ℚ) : |k * 2 ^ t - q| = |k - q / 2 ^ t| * 2 ^ t := by
    rw [← abs_of_pos unit, ← abs_mul, abs_of_pos unit, sub_mul, div_mul_cancel₀ _ unit.ne']
  refine ⟨_, number, fun y b hy => ?_⟩
  obtain ⟨s, m, e, fits, rfl⟩ := exists_of_number? hy
  rcases @whole_or_small _ _ t s fits with ⟨k, hk⟩ | ⟨unfilled, small⟩
  · rw [hk, off, off]
    rcases near.int k with lt | ⟨eq, same | ev⟩
    · exact .inl ((mul_lt_mul_iff_left₀ unit).2 lt)
    · exact .inr ⟨by rw [eq], .inl (by rw [same]; rfl)⟩
    · exact .inr ⟨by rw [eq], .inr (even ev)⟩
  · left
    have filled : 2 ^ 52 * 2 ^ t ≤ q := scaled.filled.resolve_right unfilled
    have least : |(r : ℚ) * 2 ^ t - q| ≤ |(2 : ℚ) ^ 52 * 2 ^ t - q| := by
      rw [off, off]
      have := (near.int (2 ^ 52)).elim le_of_lt fun h => h.1.le
      rw [Int.cast_pow, Int.cast_ofNat] at this
      exact mul_le_mul_of_nonneg_right this unit.le
    have below : signed s m e < 2 ^ 52 * 2 ^ t := (abs_lt.1 small).2
    rw [abs_of_nonpos (by linarith : (2 : ℚ) ^ 52 * 2 ^ t - q ≤ 0)] at least
    rw [abs_of_nonpos (by linarith : signed s m e - q ≤ 0)]
    linarith

/-! ### Numbers beyond the largest double -/

/-- The largest double and half a unit. -/
def limit : ℚ := (2 ^ 53 - 1 / 2) * lastUnit

theorem limit_pos : 0 < limit :=
  mul_pos (by norm_num) lastUnit_pos

/-- The units that are left are those of a double, up to the limit. -/
theorem small_iff (scaled : Scaled t q) (near : Decimal.Nearest r (q / 2 ^ t)) :
    (r : ℚ) * 2 ^ t < 2 ^ 53 * lastUnit ↔ q < limit := by
  have top := lastUnit_pos
  have le : (r : ℚ) ≤ 2 ^ 53 := by exact_mod_cast scaled.le near
  have lt := scaled.lt
  unfold limit
  rcases lt_trichotomy t 971 with less | last | more
  · have half : 2 * (2 : ℚ) ^ t ≤ lastUnit := by
      rw [mul_comm, ← zpow_add_one₀ two_ne_zero]
      exact unit_le_lastUnit less
    have : (r : ℚ) * 2 ^ t ≤ 2 ^ 53 * 2 ^ t := by gcongr
    exact iff_of_true (by linarith) (by linarith)
  · have unit : (2 : ℚ) ^ t = lastUnit := by rw [last, lastUnit]
    rw [unit] at near ⊢
    rw [mul_lt_mul_iff_left₀ top, ← div_lt_iff₀ top]
    have ⟨_, above⟩ := abs_le.1 near.error
    refine ⟨fun room => ?_, fun below => by linarith⟩
    -- The number in the middle is rounded up, since the largest mantissa is odd.
    by_contra! beyond
    have next : (r : ℚ) + 1 ≤ 2 ^ 53 := by exact_mod_cast room
    have off : |(r : ℚ) - q / lastUnit| = 1 / 2 := by
      rw [abs_of_nonpos (by linarith)]
      linarith
    have odd : r + 1 = 2 ^ 53 := by
      have : (r : ℚ) + 1 = 2 ^ 53 := by linarith
      exact_mod_cast this
    have even := Nat.even_iff.1 (near.even off)
    omega
  · have large := two_mul_lastUnit_le more
    have filled : (2 ^ 52 : ℚ) ≤ r := by
      exact_mod_cast (scaled.filled_of_nearest near).resolve_right (by omega)
    have filled' := scaled.filled.resolve_right (by omega)
    have : (2 : ℚ) ^ 52 * 2 ^ t ≤ r * 2 ^ t := by gcongr
    exact iff_of_false (by linarith) (by linarith)

theorem pack_of_place (scaled : Scaled t q) (near : Decimal.Nearest r (q / 2 ^ t))
    (large : limit ≤ q) : pack (place .positive r t) = pack (.infinity .positive) := by
  have beyond : ¬(r : ℚ) * 2 ^ t < 2 ^ 53 * lastUnit := fun small =>
    ((small_iff scaled near).1 small).not_ge large
  have le := scaled.le near
  unfold place
  split
  case isTrue zero =>
    rw [zero, Nat.cast_zero, zero_mul] at beyond
    exact absurd (mul_pos (by norm_num) lastUnit_pos) beyond
  case isFalse some_ =>
    split
    case isTrue full =>
      rw [full, full_mul, small_iff_exponent (by decide) (.inl le_rfl)] at beyond
      exact pack_of_large _ _ (by omega)
    case isFalse room =>
      rw [small_iff_exponent (by omega) (scaled.filled_of_nearest near)] at beyond
      exact pack_of_large _ _ (by omega)

/-- Larger than all numbers. -/
def infinity : Float := 1.0 / 0.0

/-- The bits of zero, of infinity and of what is no number. -/
theorem toModel_special : (0.0 : Float).toModel = pack (.zero .positive) ∧
    infinity.toModel = pack (.infinity .positive) ∧
    (0.0 / 0.0 : Float).toModel = pack .notANumber ∧ infinity = - -infinity := by
  decide +kernel

theorem number?_zero : number? 0.0 = some 0 := by
  rw [number?, toModel_special.1, unpack_pack_zero]

theorem unpack_infinity : infinity.toModel.unpack = .infinity .positive := by
  rw [toModel_special.2.1, unpack_pack_infinity]

theorem number?_infinity : number? infinity = none := by
  rw [number?, unpack_infinity]

theorem number?_neg_infinity : number? (-infinity) = none := by
  rw [number?_neg, number?_infinity, Option.map_none]

theorem unpack_notANumber : (0.0 / 0.0 : Float).toModel.unpack = .notANumber := by
  rw [toModel_special.2.2.1, unpack_pack_notANumber]

theorem number?_notANumber : number? (0.0 / 0.0) = none := by
  rw [number?, unpack_notANumber]

theorem isFinite_eq_false {y : Float} (h : number? y = none) : y.isFinite = false := by
  refine Bool.eq_false_iff.2 fun finite => ?_
  obtain ⟨a, number⟩ := (isFinite_iff y).1 finite
  cases h.symm.trans number

/-- Infinity is above every number, and below none. -/
theorem le_infinity {y : Float} {p : ℚ} (hy : number? y = some p) :
    y ≤ infinity ∧ ¬y ≤ -infinity := by
  rw [le_iff, le_iff, unpack_neg, unpack_infinity]
  unfold number? at hy
  cases h : y.toModel.unpack with
  | finite s | zero s => exact ⟨rfl, Bool.false_ne_true⟩
  | infinity | notANumber =>
    rw [h] at hy
    cases hy

theorem not_le_notANumber (y : Float) : ¬y ≤ 0.0 / 0.0 := by
  rw [le_iff, unpack_notANumber]
  cases y.toModel.unpack <;> exact Bool.false_ne_true

/-! ### The double that a number is rounded to -/

/-- The double that a number is rounded to. -/
structure Rounds (q : ℚ) (x : Float) : Prop where
  nearest : |q| < limit → Nearest q x
  above : limit ≤ q → x = infinity
  below : q ≤ -limit → x = -infinity

theorem rounds_of_place (scaled : Scaled t q) (near : Decimal.Nearest r (q / 2 ^ t))
    (h : x.toModel = pack (place .positive r t)) : Rounds q x where
  nearest small := by
    have small := (small_iff scaled near).2 (abs_of_nonneg scaled.nonneg ▸ small)
    have ⟨number, even⟩ := number?_of_place (congrArg _ h) scaled near small
    exact nearest_of_scaled scaled near number even
  above large := by
    rw [pack_of_place scaled near large] at h
    exact congrArg Float.ofModel h
  below large := absurd scaled.nonneg (by linarith [limit_pos])

/-- What is computed to enough bits is rounded to the right double. -/
theorem rounds_of_shows (fine : 2 ^ 52 ≤ m ∨ e ≤ -1074)
    (h : Shows (.ofMantissaAndAccuracy m acc) (q / 2 ^ e))
    (hx : x.toModel = pack (roundWithAccuracy .binary64 .positive m e acc)) : Rounds q x := by
  obtain ⟨r, t, rounded, near, scaled⟩ := roundWithAccuracy_of_shows .positive fine h
  exact rounds_of_place scaled near (rounded ▸ hx)

theorem rounds_zero (h₀ : 0 ≤ q) (h : 2 * q < 2 ^ (-1074 : ℤ)) : Rounds q 0.0 := by
  have unit := Scaled.unit_pos (-1074)
  have part : q / 2 ^ (-1074 : ℤ) < 1 / 2 := by
    rw [div_lt_iff₀ unit]
    linarith
  have off : |((0 : ℕ) : ℚ) - q / 2 ^ (-1074 : ℤ)| < 1 / 2 := by
    rw [Nat.cast_zero, zero_sub, abs_neg, abs_of_nonneg (by positivity)]
    exact part
  have near : Decimal.Nearest 0 (q / 2 ^ (-1074 : ℤ)) := ⟨off.le, fun tie => absurd tie off.ne⟩
  exact rounds_of_place ⟨h₀, le_rfl, by linarith, .inr rfl⟩ near toModel_special.1

theorem rounds_infinity (h : limit ≤ q) : Rounds q infinity where
  nearest small := absurd ((le_abs_self q).trans_lt small) h.not_gt
  above _ := rfl
  below large := by linarith [limit_pos]

/-! ## Products and quotients -/

theorem rounds_mul {m₁ m₂ : ℕ} {e₁ e₂ : ℤ} (h₁ : 0 < m₁) (h₂ : 0 < m₂) (fine : 2 ^ 52 ≤ m₁ * m₂)
    (hx : x.toModel = pack (UnpackedFloat.mul .binary64 (.finite .positive m₁ e₁ h₁)
      (.finite .positive m₂ e₂ h₂))) : Rounds (m₁ * 2 ^ e₁ * (m₂ * 2 ^ e₂)) x := by
  refine rounds_of_shows (e := e₁ + e₂) (.inl fine) ?_ hx
  have whole : (m₁ * 2 ^ e₁ * (m₂ * 2 ^ e₂) : ℚ) / 2 ^ (e₁ + e₂) = (m₁ * m₂ : ℕ) := by
    rw [zpow_add₀ two_ne_zero]
    have := Scaled.unit_pos e₁
    have := Scaled.unit_pos e₂
    push_cast
    field_simp
  rw [whole]
  exact .whole _

/-- The dividend is shifted far enough to the left for a quotient of 53 bits. -/
theorem le_shiftLeft_div {m₁ m₂ k : ℕ} (h₁ : 0 < m₁) (h₂ : 0 < m₂)
    (far : m₂.log2 + 53 ≤ m₁.log2 + k) : 2 ^ 52 ≤ (m₁ <<< k) / m₂ := by
  rw [Nat.le_div_iff_mul_le h₂, Nat.shiftLeft_eq]
  calc 2 ^ 52 * m₂ ≤ 2 ^ 52 * 2 ^ (m₂.log2 + 1) := by
        have : m₂ < 2 ^ (m₂.log2 + 1) := Nat.lt_log2_self
        gcongr
    _ = 2 ^ (m₂.log2 + 53) := by rw [← pow_add]; congr 1; omega
    _ ≤ 2 ^ (m₁.log2 + k) := Nat.pow_le_pow_right two_pos far
    _ = 2 ^ m₁.log2 * 2 ^ k := pow_add ..
    _ ≤ m₁ * 2 ^ k := Nat.mul_le_mul_right _ (Nat.log2_self_le (Nat.ne_of_gt h₁))

theorem rounds_div {m₁ m₂ : ℕ} {e₁ e₂ : ℤ} (h₁ : 0 < m₁) (h₂ : 0 < m₂)
    (hx : x.toModel = pack (UnpackedFloat.div .binary64 (.finite .positive m₁ e₁ h₁)
      (.finite .positive m₂ e₂ h₂))) : Rounds (m₁ * 2 ^ e₁ / (m₂ * 2 ^ e₂)) x := by
  obtain ⟨t, ht⟩ : ∃ t, t = min (e₁ - e₂) (Format.binary64.targetExponent
      (totalExponent m₁ e₁ - totalExponent m₂ e₂)) := ⟨_, rfl⟩
  obtain ⟨k, hk⟩ : ∃ k : ℕ, e₁ - e₂ = t + k := ⟨(e₁ - e₂ - t).toNat, by omega⟩
  have amount : (e₁ - e₂ - t).toNat = k := by omega
  have core : divCore .binary64 m₁ e₁ m₂ e₂ =
      (m₁ <<< k / m₂, t, accuracyOfFraction (m₁ <<< k % m₂) m₂) := by
    unfold divCore
    simp only [← ht, amount]
  have target : Format.binary64.targetExponent (totalExponent m₁ e₁ - totalExponent m₂ e₂) =
      max ((m₁.log2 : ℤ) + 1 + e₁ - (m₂.log2 + 1 + e₂) - 53) (-1074) := rfl
  have fine : 2 ^ 52 ≤ m₁ <<< k / m₂ ∨ t ≤ -1074 := by
    by_cases low : t ≤ -1074
    · exact .inr low
    · exact .inl (le_shiftLeft_div h₁ h₂ (by omega))
  have quotient : (m₁ * 2 ^ e₁ / (m₂ * 2 ^ e₂) : ℚ) / 2 ^ t = (m₁ <<< k : ℕ) / m₂ := by
    have : e₁ = t + k + e₂ := by omega
    rw [this, zpow_add₀ two_ne_zero, zpow_add₀ two_ne_zero, zpow_natCast, Nat.shiftLeft_eq]
    have := Scaled.unit_pos e₂
    have := Scaled.unit_pos t
    push_cast
    field_simp
  have rounded : UnpackedFloat.div .binary64 (.finite .positive m₁ e₁ h₁)
      (.finite .positive m₂ e₂ h₂) = roundWithAccuracy .binary64 .positive (m₁ <<< k / m₂) t
        (accuracyOfFraction (m₁ <<< k % m₂) m₂) := by
    unfold UnpackedFloat.div
    simp only [core]
    rfl
  exact rounds_of_shows fine (quotient ▸ shows_div _ h₂) (hx.trans (congrArg pack rounded))

/-! ## The other side of zero -/

theorem hasEvenMantissa_neg (h : HasEvenMantissa x) : HasEvenMantissa (-x) := by
  unfold HasEvenMantissa at h ⊢
  rw [unpack_neg]
  cases hx : x.toModel.unpack with
  | finite s m e pos =>
    rw [hx] at h
    exact h
  | _ => trivial

theorem Nearest.neg (h : Nearest q x) : Nearest (-q) (-x) := by
  obtain ⟨a, number, nearest⟩ := h
  have off (a b : ℚ) : |-a - -b| = |a - b| := by rw [neg_sub_neg, abs_sub_comm]
  refine ⟨-a, by rw [number?_neg, number]; rfl, fun y b hy => ?_⟩
  have opposite : number? (-y) = some (-b) := by
    rw [number?_neg, hy]
    rfl
  have off' : |b - -q| = |-b - q| := by rw [← off, neg_neg]
  rw [off, off']
  refine (nearest _ _ opposite).imp_right fun ⟨eq, same⟩ => ⟨eq, same.imp ?_ hasEvenMantissa_neg⟩
  exact fun same => neg_eq_iff_eq_neg.1 same

theorem Rounds.neg (h : Rounds q x) : Rounds (-q) (-x) where
  nearest small := (h.nearest (abs_neg q ▸ small)).neg
  above large := by
    rw [h.below (le_neg_of_le_neg large), ← toModel_special.2.2.2]
  below large := by rw [h.above (neg_le_neg_iff.1 large)]

/-- Only numbers up to the limit are rounded to finite doubles. -/
theorem Rounds.isFinite_iff (h : Rounds q x) : x.isFinite = true ↔ |q| < limit := by
  constructor
  · intro finite
    by_contra! large
    rcases le_abs.1 large with above | below
    · rw [h.above above, isFinite_eq_false number?_infinity] at finite
      cases finite
    · rw [h.below (le_neg_of_le_neg below), isFinite_eq_false number?_neg_infinity] at finite
      cases finite
  · intro small
    obtain ⟨a, number, -⟩ := h.nearest small
    exact (Double.isFinite_iff x).2 ⟨a, number⟩

/-- A number is below what another one is rounded to if that is infinity or a larger number. -/
theorem Rounds.le_iff {y : Float} {p : ℚ} (h : Rounds q x) (hy : number? y = some p) :
    y ≤ x ↔ limit ≤ q ∨ ∃ a, number? x = some a ∧ p ≤ a := by
  rcases le_or_gt limit q with above | below
  · rw [h.above above]
    exact iff_of_true (le_infinity hy).1 (.inl above)
  · rcases le_or_gt q (-limit) with under | beyond
    · rw [h.below under]
      refine iff_of_false (le_infinity hy).2 ?_
      rintro (above | ⟨a, number, -⟩)
      · exact below.not_ge above
      · cases number?_neg_infinity.symm.trans number
    · obtain ⟨a, number, -⟩ := h.nearest (abs_lt.2 ⟨beyond, below⟩)
      rw [le_iff_number hy number]
      refine ⟨fun le => .inr ⟨a, number, le⟩, ?_⟩
      rintro (above | ⟨a', number', le⟩)
      · exact absurd above below.not_ge
      · cases number.symm.trans number'
        exact le

end

end Registrar.Double
