import Mathlib.Tactic.Linarith
import Mathlib.Tactic.NormNum
import Mathlib.Tactic.Positivity
import Registrar.Proofs.Quantity.Nearest

/-!
# Exact numbers of a limited range

`Ranged` has the rational numbers up to the largest double, the two infinities and what is no
number. Its arithmetic is exact, but a result beyond the range is infinite, and zero times an
infinity is no number. So it keeps what doubles do at the ends of their range and leaves out how
they round. Powers of numbers from one on are exact or infinite (`Ranged.power_ofRat`), and a number
of seconds becomes the duration nearest to it (`Ranged.exists_duration?`).
-/

namespace Registrar

/-! ## Numbers -/

namespace Ranged

/-- The largest double. -/
def largest : ℚ := (2 ^ 53 - 1) * 2 ^ 971

end Ranged

/-- A rational number of the range, an infinity, or no number. -/
inductive Ranged
  | finite (q : ℚ) (inRange : |q| ≤ Ranged.largest)
  | infinite (negative : Bool)
  | undefined
  deriving DecidableEq

namespace Ranged

/-- A number, infinite beyond the range. -/
def ofRat (q : ℚ) : Ranged :=
  if h : |q| ≤ largest then finite q h else infinite (q < 0)

/-- The rational number, zero for what is none. -/
def toRat : Ranged → ℚ
  | finite q _ => q
  | _ => 0

def neg : Ranged → Ranged
  | finite q h => finite (-q) (by rwa [abs_neg])
  | infinite negative => infinite !negative
  | undefined => undefined

def add : Ranged → Ranged → Ranged
  | finite p _, finite q _ => ofRat (p + q)
  | finite .., infinite negative => infinite negative
  | infinite negative, finite .. => infinite negative
  | infinite m, infinite n => if m = n then infinite m else undefined
  | undefined, _ => undefined
  | _, undefined => undefined

def mul : Ranged → Ranged → Ranged
  | finite p _, finite q _ => ofRat (p * q)
  | finite p _, infinite n => if p = 0 then undefined else infinite ((p < 0) != n)
  | infinite m, finite q _ => if q = 0 then undefined else infinite (m != (q < 0))
  | infinite m, infinite n => infinite (m != n)
  | undefined, _ => undefined
  | _, undefined => undefined

def div : Ranged → Ranged → Ranged
  | finite p _, finite q _ =>
    if q = 0 then if p = 0 then undefined else infinite (p < 0) else ofRat (p / q)
  | finite .., infinite _ => ofRat 0
  | infinite m, finite q _ => infinite (m != (q < 0))
  | infinite _, infinite _ => undefined
  | undefined, _ => undefined
  | _, undefined => undefined

def le : Ranged → Ranged → Bool
  | finite p _, finite q _ => p ≤ q
  | finite .., infinite n => !n
  | infinite m, finite .. => m
  | infinite m, infinite n => m || !n
  | undefined, _ => false
  | _, undefined => false

instance : Add Ranged := ⟨add⟩
instance : Sub Ranged := ⟨fun x y => add x (neg y)⟩
instance : Mul Ranged := ⟨mul⟩
instance : Div Ranged := ⟨div⟩

/-- Numbers that are finite become durations and words as rational numbers do. -/
instance instQuantity : Quantity Ranged where
  ofNat n := ofRat n
  decimal n places := ofRat (Quantity.decimal n places)
  le := le
  isFinite
    | finite .. => true
    | _ => false
  isUndefined
    | undefined => true
    | _ => false
  duration?
    | finite q _ => Quantity.duration? q
    | _ => none
  word32
    | finite q _ => Quantity.word32 q
    | infinite negative => if negative then 0 else Decimal.max32
    | undefined => 0

theorem zero_eq : (Quantity.zero : Ranged) = ofRat 0 := by
  show ofRat ((0 : ℕ) : ℚ) = _
  rw [Nat.cast_zero]

theorem one_eq : (Quantity.one : Ranged) = ofRat 1 := by
  show ofRat ((1 : ℕ) : ℚ) = _
  rw [Nat.cast_one]

/-- The powers of two within the range. -/
theorem two_pow_le_largest {n : ℕ} (h : n ≤ 1023) : 2 ^ n ≤ largest :=
  calc (2 : ℚ) ^ n ≤ 2 ^ 1023 := pow_le_pow_right₀ one_le_two h
    _ = 2 ^ 52 * 2 ^ 971 := by rw [← pow_add]
    _ ≤ largest := mul_le_mul_of_nonneg_right (by norm_num) (by positivity)

theorem largest_lt_two_pow : largest < 2 ^ 1024 :=
  calc largest < 2 ^ 53 * 2 ^ 971 := mul_lt_mul_of_pos_right (by norm_num) (by positivity)
    _ = 2 ^ 1024 := by rw [← pow_add]

theorem largest_nonneg : 0 ≤ largest :=
  le_trans (by positivity) (two_pow_le_largest (Nat.zero_le _))

theorem inRange_zero : |(0 : ℚ)| ≤ largest := by
  rw [abs_zero]
  exact largest_nonneg

theorem inRange_one : |(1 : ℚ)| ≤ largest := by
  rw [abs_one]
  exact le_trans (by norm_num) (two_pow_le_largest (Nat.zero_le _))

theorem ofRat_of_le {q : ℚ} (h : |q| ≤ largest) : ofRat q = finite q h := dif_pos h

theorem ofRat_of_lt {q : ℚ} (h : largest < q) : ofRat q = infinite false := by
  have pos : 0 < q := largest_nonneg.trans_lt h
  rw [ofRat, dif_neg (by rw [abs_of_pos pos]; exact h.not_ge), decide_eq_false pos.not_gt]

theorem infinite_mul_ofRat {q : ℚ} (h : 0 < q) : infinite false * ofRat q = infinite false := by
  obtain hq | hq := le_or_gt |q| largest
  · rw [ofRat_of_le hq]
    show (if q = 0 then undefined else infinite (false != decide (q < 0))) = _
    rw [if_neg h.ne', decide_eq_false h.not_gt]
    rfl
  · rw [abs_of_pos h] at hq
    rw [ofRat_of_lt hq]
    rfl

theorem ofRat_mul_infinite {q : ℚ} (h : 0 < q) : ofRat q * infinite false = infinite false := by
  obtain hq | hq := le_or_gt |q| largest
  · rw [ofRat_of_le hq]
    show (if q = 0 then undefined else infinite (decide (q < 0) != false)) = _
    rw [if_neg h.ne', decide_eq_false h.not_gt]
    rfl
  · rw [abs_of_pos h] at hq
    rw [ofRat_of_lt hq]
    rfl

theorem ofRat_add_of_le {p q : ℚ} (hp : |p| ≤ largest) (hq : |q| ≤ largest) :
    ofRat p + ofRat q = ofRat (p + q) := by
  rw [ofRat_of_le hp, ofRat_of_le hq]
  rfl

theorem ofRat_div_of_le {p q : ℚ} (hp : |p| ≤ largest) (hq : |q| ≤ largest) (h : q ≠ 0) :
    ofRat p / ofRat q = ofRat (p / q) := by
  rw [ofRat_of_le hp, ofRat_of_le hq]
  exact if_neg h

theorem zero_mul_infinite : ofRat 0 * infinite false = undefined := by
  rw [ofRat_of_le inRange_zero]
  rfl

theorem ofRat_mul_of_le {p q : ℚ} (hp : |p| ≤ largest) (hq : |q| ≤ largest) :
    ofRat p * ofRat q = ofRat (p * q) := by
  rw [ofRat_of_le hp, ofRat_of_le hq]
  rfl

/-- Numbers from one on have the product that they should, be it exact or infinite. -/
theorem ofRat_mul_of_one_le {p q : ℚ} (hp : 1 ≤ p) (hq : 1 ≤ q) :
    ofRat p * ofRat q = ofRat (p * q) := by
  have p_pos : 0 < p := one_pos.trans_le hp
  have q_pos : 0 < q := one_pos.trans_le hq
  obtain hp' | hp' := lt_or_ge largest p
  · rw [ofRat_of_lt hp', infinite_mul_ofRat q_pos,
      ofRat_of_lt (hp'.trans_le (le_mul_of_one_le_right p_pos.le hq))]
  obtain hq' | hq' := lt_or_ge largest q
  · rw [ofRat_of_lt hq', ofRat_mul_infinite p_pos,
      ofRat_of_lt (hq'.trans_le (le_mul_of_one_le_left q_pos.le hp))]
  · exact ofRat_mul_of_le (by rwa [abs_of_pos p_pos]) (by rwa [abs_of_pos q_pos])

theorem powerOnto_ofRat {x acc : ℚ} (hx : 1 ≤ x) (hacc : 1 ≤ acc) (n : ℕ) :
    Quantity.powerOnto (ofRat x) (ofRat acc) n = ofRat (acc * x ^ n) := by
  -- Each round takes the last binary digit off the exponent.
  induction n using Nat.strongRecOn generalizing x acc with
  | ind n ih =>
    rw [Quantity.powerOnto]
    split
    · simp [*]
    · have digit : (if n % 2 = 1 then ofRat acc * ofRat x else ofRat acc) =
          ofRat (acc * x ^ (n % 2)) := by
        obtain h | h := Nat.mod_two_eq_zero_or_one n
        · simp [h]
        · simp [h, ofRat_mul_of_one_le hacc hx]
      have grown : 1 ≤ acc * x ^ (n % 2) := one_le_mul_of_one_le_of_one_le hacc (one_le_pow₀ hx)
      rw [digit]
      simp only
      split
      · rw [show n % 2 = n by omega]
      · rw [ofRat_mul_of_one_le hx hx,
          ih (n / 2) (by omega) (one_le_mul_of_one_le_of_one_le hx hx) grown, mul_assoc, ← pow_two,
          ← pow_mul, ← pow_add, Nat.mod_add_div]

/-- Powers of a number from one on are exact or infinite. -/
theorem power_ofRat {x : ℚ} (hx : 1 ≤ x) (n : ℕ) :
    Quantity.power (ofRat x) n = ofRat (x ^ n) := by
  rw [Quantity.power, one_eq, powerOnto_ofRat hx le_rfl, one_mul]

/-! ## Order -/

theorem ofRat_toRat {x : Ranged} (h : Quantity.isFinite x = true) : ofRat x.toRat = x := by
  cases x with
  | finite q inRange => exact ofRat_of_le inRange
  | infinite | undefined => cases h

theorem abs_toRat_le (x : Ranged) : |x.toRat| ≤ largest := by
  cases x with
  | finite q inRange => exact inRange
  | infinite | undefined => exact inRange_zero

theorem isFinite_ofRat {q : ℚ} (h : |q| ≤ largest) : Quantity.isFinite (ofRat q) = true := by
  rw [ofRat_of_le h]
  rfl

section

variable {p q : ℚ} (hp : |p| ≤ largest) (hq : |q| ≤ largest)
include hp hq

theorem le_ofRat : Quantity.le (ofRat p) (ofRat q) = decide (p ≤ q) := by
  rw [ofRat_of_le hp, ofRat_of_le hq]
  rfl

theorem isFinite_of_le {x : Ranged} (above : Quantity.le (ofRat p) x = true)
    (below : Quantity.le x (ofRat q) = true) : Quantity.isFinite x = true := by
  rw [ofRat_of_le hp] at above
  rw [ofRat_of_le hq] at below
  cases x with
  | finite => rfl
  | infinite negative => cases negative <;> contradiction
  | undefined => cases above

theorem lt_ofRat : Quantity.lt (ofRat p) (ofRat q) = decide (p < q) := by
  rw [Quantity.lt, le_ofRat hp hq, le_ofRat hq hp, Bool.eq_iff_iff]
  simpa using le_of_lt

theorem greater_ofRat : Quantity.greater (ofRat p) (ofRat q) = ofRat (max p q) := by
  have hle := le_ofRat hq hp
  rw [ofRat_of_le hp, ofRat_of_le hq] at hle ⊢
  show (if Quantity.le (finite q hq) (finite p hp) = true then finite p hp else finite q hq) = _
  rw [hle, max_comm, max_def]
  by_cases h : q ≤ p
  · simp [h, ofRat_of_le hp]
  · simp [h, ofRat_of_le hq]

theorem lesser_ofRat : Quantity.lesser (ofRat p) (ofRat q) = ofRat (min p q) := by
  have hle := le_ofRat hp hq
  rw [ofRat_of_le hp, ofRat_of_le hq] at hle ⊢
  show (if Quantity.le (finite p hp) (finite q hq) = true then finite p hp else finite q hq) = _
  rw [hle, min_def]
  by_cases h : p ≤ q
  · simp [h, ofRat_of_le hp]
  · simp [h, ofRat_of_le hq]

end

theorem infinite_lesser_ofRat {q : ℚ} (h : |q| ≤ largest) :
    Quantity.lesser (infinite false) (ofRat q) = ofRat q := by
  rw [ofRat_of_le h]
  rfl

theorem undefined_lesser (x : Ranged) : Quantity.lesser undefined x = x := rfl

/-! ## Seconds -/

/-- A number that is not larger than a duration in nanoseconds can be is in the range. -/
theorem inRange_of_le {q : ℚ} (h₀ : 0 ≤ q) (h : q ≤ Duration.longest) : |q| ≤ largest := by
  rw [abs_of_nonneg h₀]
  refine h.trans (le_trans ?_ (two_pow_le_largest (by decide : 100 ≤ 1023)))
  norm_num [Duration.longest, Decimal.max64, Duration.second]

theorem inRange_natCast {n : ℕ} (h : n ≤ Duration.longest) : |(n : ℚ)| ≤ largest :=
  inRange_of_le (Nat.cast_nonneg n) (by exact_mod_cast h)

theorem inRange_seconds {d : Duration} (h : d ≤ Duration.longest) :
    |(Quantity.seconds d : ℚ)| ≤ largest := by
  have small : (d : ℚ) ≤ Duration.longest := by exact_mod_cast h
  refine inRange_of_le (Quantity.seconds_nonneg d) (le_trans ?_ small)
  rw [Quantity.seconds_eq]
  exact div_le_self (Nat.cast_nonneg d) (by norm_num)

theorem seconds_eq_ofRat {d : Duration} (h : d ≤ Duration.longest) :
    (Quantity.seconds d : Ranged) = ofRat (Quantity.seconds d) := by
  have whole := inRange_natCast ((Nat.div_le_self d Duration.second).trans h)
  have rest := inRange_natCast ((Nat.mod_le d Duration.second).trans h)
  have second : |((Duration.second : ℕ) : ℚ)| ≤ largest := inRange_natCast (by decide)
  have part : |((d % Duration.second : ℕ) : ℚ) / (Duration.second : ℕ)| ≤ largest := by
    rw [abs_div]
    exact (div_le_self (abs_nonneg _) (by norm_num [Duration.second])).trans rest
  show ofRat (d / Duration.second : ℕ) + ofRat (d % Duration.second : ℕ) /
    ofRat (Duration.second : ℕ) = ofRat ((d / Duration.second : ℕ) +
      (d % Duration.second : ℕ) / (Duration.second : ℕ))
  rw [ofRat_div_of_le rest second (by norm_num [Duration.second]), ofRat_add_of_le whole part]

theorem exists_duration? {q : ℚ} (h₀ : 0 ≤ q) (h : q ≤ Quantity.seconds Duration.longest) :
    ∃ d, Quantity.duration? (ofRat q) = some d ∧ Decimal.Nearest d (q * 1000000000) := by
  have inRange : |q| ≤ largest := by
    have := inRange_seconds le_rfl
    rw [abs_of_nonneg (Quantity.seconds_nonneg _)] at this
    rw [abs_of_nonneg h₀]
    exact h.trans this
  rw [ofRat_of_le inRange]
  exact Quantity.exists_duration? h₀ h

end Ranged

end Registrar
