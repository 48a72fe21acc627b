import Mathlib
import Registrar.Quantity

/-!
# Whole numbers as doubles

A whole number of up to 53 bits is a double: nothing of it is rounded away on its way there
(`unpack_ofNat`), so it is finite and keeps its order against one. A number is followed through
its bits: the mantissa is shifted until it fills its place (`Normal`), rounding and packing leave
such a pair as it is, and zeros behind it are shifted out again.
-/

namespace Registrar.Double

open Float.Model Float.Model.UnpackedFloat

/-- A mantissa that fills its bits, and an exponent in range. -/
structure Normal (m : Nat) (e : Int) : Prop where
  le : 2 ^ 52 ≤ m
  lt : m < 2 ^ 53
  above : -1074 ≤ e
  below : e ≤ 971

variable {m : Nat} {e : Int}

namespace Normal

theorem pos (h : Normal m e) : 0 < m :=
  Nat.lt_of_lt_of_le (by decide) h.le

theorem log2 (h : Normal m e) : m.log2 = 52 :=
  (Nat.log2_eq_iff (Nat.ne_of_gt h.pos)).2 ⟨h.le, h.lt⟩

end Normal

/-! ## Rounding -/

/-- Bits that are all zero are shifted out without a trace. -/
theorem shiftRight_exact (m k : Nat) :
    (⟨m * 2 ^ k, false, false⟩ : ExtendedMantissa) >>> k = ⟨m, false, false⟩ := by
  induction k generalizing m with
  | zero => rw [Nat.pow_zero, Nat.mul_one]; rfl
  | succ k ih =>
    have all : m * 2 ^ (k + 1) = m * 2 * 2 ^ k := by rw [Nat.pow_succ]; ac_rfl
    rw [all]
    show ExtendedMantissa.shiftRightOne
      ((⟨m * 2 * 2 ^ k, false, false⟩ : ExtendedMantissa) >>> k) = _
    rw [ih]
    simp [ExtendedMantissa.shiftRightOne]

theorem shiftToTargetExponent_exact (h : Normal m e) (k : Nat) :
    shiftToTargetExponent .binary64 (m * 2 ^ k) (e - k) .exact = (⟨m, false, false⟩, e) := by
  have log2 : (m * 2 ^ k).log2 = 52 + k := by
    have pos : m * 2 ^ k ≠ 0 := Nat.ne_of_gt (Nat.mul_pos h.pos (Nat.two_pow_pos k))
    rw [Nat.log2_eq_iff pos]
    have lo := Nat.mul_le_mul_right (2 ^ k) h.le
    have hi := Nat.mul_lt_mul_of_pos_right h.lt (Nat.two_pow_pos k)
    refine ⟨by rwa [Nat.pow_add], ?_⟩
    have sum : 52 + k + 1 = 53 + k := by omega
    rwa [sum, Nat.pow_add]
  have total : totalExponent (m * 2 ^ k) (e - k) = e + 53 := by
    unfold totalExponent
    rw [log2]
    omega
  have target : Format.binary64.targetExponent (e + 53) = e := by
    have above := h.above
    show max (e + 53 - 53) (-1074) = e
    omega
  unfold shiftToTargetExponent
  simp only [total, target]
  unfold shiftToExponent
  have amount : (e - (e - (k : Int))).toNat = k := by omega
  simp only [amount, ExtendedMantissa.ofMantissaAndAccuracy, shiftRight_exact, Prod.mk.injEq,
    true_and]
  omega

/-- A number that fits needs no rounding, however many zeros follow it. -/
theorem roundWithAccuracy_exact (h : Normal m e) (k : Nat) :
    roundWithAccuracy .binary64 .positive (m * 2 ^ k) (e - k) .exact =
      .finite .positive m e h.pos := by
  have again := shiftToTargetExponent_exact h 0
  simp only [Nat.pow_zero, Nat.mul_one, Int.natCast_zero, Int.sub_zero] at again
  have rounded : (⟨m, false, false⟩ : ExtendedMantissa).roundedMantissa = m := rfl
  unfold roundWithAccuracy
  rw [shiftToTargetExponent_exact h k]
  dsimp only
  rw [rounded, again]
  exact dif_neg (Nat.ne_of_gt h.pos)

/-! ## Bits -/

theorem finite_eq {s s' : Sign} {m m' : Nat} {e e' : Int} (h : 0 < m) (h' : 0 < m') (hs : s = s')
    (hm : m = m') (he : e = e') : UnpackedFloat.finite s m e h = .finite s' m' e' h' := by
  subst hs hm he
  rfl

/-- A number that fits is kept by its bits. -/
theorem unpack_pack (s : Sign) (h : Normal m e) :
    UnpackedFloat.unpack .binary64 (UnpackedFloat.pack .binary64 (.finite s m e h.pos)) =
      .finite s m e h.pos := by
  have ⟨le, lt, above, below⟩ := h
  obtain ⟨b, hb⟩ : ∃ b : Nat, (b : Int) = e + 1075 := ⟨(e + 1075).toNat, by omega⟩
  have biased : (e + (Format.binary64.exponentBias : Int) +
      (Format.binary64.mantissaBitsWithoutImplicit : Int)).toNat = b := by
    show (e + 1023 + 52).toNat = b
    omega
  have packed : UnpackedFloat.pack .binary64 (.finite s m e h.pos) =
      packComponents .binary64 s (BitVec.ofNat 11 b) (BitVec.ofNat 52 m) := by
    unfold UnpackedFloat.pack
    simp only [biased, h.log2]
    rw [if_neg (show ¬2 ^ 11 ≤ b + 1 by omega)]
    exact if_pos rfl
  have exponent : (BitVec.ofNat 11 b).toNat = b := by
    rw [BitVec.toNat_ofNat]
    omega
  have notTop : BitVec.ofNat 11 b ≠ -1#11 := by
    intro top
    have := congrArg BitVec.toNat top
    rw [exponent] at this
    change b = 2047 at this
    omega
  have notZero : BitVec.ofNat 11 b ≠ 0#11 := by
    intro zero
    have := congrArg BitVec.toNat zero
    rw [exponent] at this
    change b = 0 at this
    omega
  have mantissa : (1#1 ++ BitVec.ofNat 52 m).toNat = m := by
    have small : m % 2 ^ 52 < 2 ^ 52 := Nat.mod_lt _ (by decide)
    rw [BitVec.toNat_append, BitVec.toNat_ofNat, Nat.shiftLeft_eq, Nat.or_comm, BitVec.toNat_ofNat]
    show m % 2 ^ 52 ||| 1 * 2 ^ 52 = m
    rw [Nat.one_mul, Nat.or_two_pow_eq_add_of_lt small]
    omega
  have unbiased : (b : Int) - ((Format.binary64.exponentBias : Int) +
      (Format.binary64.mantissaBitsWithoutImplicit : Int)) = e := by
    show (b : Int) - (1023 + 52) = e
    omega
  rw [packed]
  unfold UnpackedFloat.unpack
  dsimp only
  rw [if_neg (by rwa [unpackExponent_packComponents]),
    if_neg (by rwa [unpackExponent_packComponents])]
  refine finite_eq _ _ ?_ ?_ ?_
  · rw [unpackSign_packComponents, Sign.ofBitVec_toBitVec]
  · rw [unpackMantissa_packComponents, mantissa]
  · rw [unpackExponent_packComponents, exponent, unbiased]

/-! ## Whole numbers -/

/-- The mantissa of a whole number, shifted to the left as far as it goes. -/
theorem normal_of_whole {n : Nat} (h₀ : 0 < n) (h : n < 2 ^ 53) :
    Normal (n <<< (52 - n.log2)) ((n.log2 : Int) - 52) := by
  have lo : 2 ^ n.log2 ≤ n := Nat.log2_self_le (Nat.ne_of_gt h₀)
  have hi : n < 2 ^ (n.log2 + 1) := Nat.lt_log2_self
  have top : n.log2 < 53 := (Nat.log2_lt (Nat.ne_of_gt h₀)).2 h
  have pos : 0 < 2 ^ (52 - n.log2) := Nat.two_pow_pos _
  have all (k : Nat) (hk : n.log2 ≤ k) : 2 ^ k = 2 ^ n.log2 * 2 ^ (k - n.log2) := by
    rw [← Nat.pow_add, Nat.add_sub_cancel' hk]
  rw [Nat.shiftLeft_eq]
  refine ⟨?_, ?_, by omega, by omega⟩
  · rw [all 52 (by omega)]
    exact Nat.mul_le_mul_right _ lo
  · have next : 2 ^ 53 = 2 ^ (n.log2 + 1) * 2 ^ (52 - n.log2) := by
      rw [← Nat.pow_add]
      congr 1
      omega
    rw [next]
    exact Nat.mul_lt_mul_of_pos_right hi pos

/-- A number that fits is the double of its mantissa with zeros behind it. -/
theorem unpack_pack_exact (h : Normal m e) (k : Nat) :
    (pack (roundWithAccuracy .binary64 .positive (m * 2 ^ k) (e - k) .exact)).unpack =
      .finite .positive m e h.pos := by
  rw [roundWithAccuracy_exact h k]
  exact unpack_pack .positive h

theorem unpack_toFloat {n : Nat} (h₀ : 0 < n) (h : n < 2 ^ 53) :
    n.toUInt64.toFloat.toModel.unpack =
      .finite .positive (n <<< (52 - n.log2)) ((n.log2 : Int) - 52) (normal_of_whole h₀ h).pos := by
  have top : n.log2 < 53 := (Nat.log2_lt (Nat.ne_of_gt h₀)).2 h
  have word : (UInt64.ofNat n).toNat = n :=
    UInt64.toNat_ofNat_of_lt' (Nat.lt_trans h (by decide))
  have positive : compare (n : Int) 0 = .gt := by
    rw [Int.compare_eq_gt]
    omega
  have target : Format.binary64.targetExponent (totalExponent n 0) = (n.log2 : Int) - 52 := by
    show max ((n.log2 : Int) + 1 + 0 - 53) (-1074) = _
    omega
  have amount : (0 - ((n.log2 : Int) - 52)).toNat = 52 - n.log2 := by omega
  have exponent : 0 - ((52 - n.log2 : Nat) : Int) = (n.log2 : Int) - 52 - (0 : Nat) := by omega
  show (pack (normalize .binary64 ((UInt64.ofNat n).toNat : Int) 0 .positive)).unpack = _
  rw [word, UnpackedFloat.normalize, positive]
  show (pack (round .binary64 .positive (n : Int).toNat 0)).unpack = _
  rw [Int.toNat_natCast, UnpackedFloat.round, target]
  unfold decreaseExponent
  dsimp only
  rw [amount, exponent]
  have exact := unpack_pack_exact (normal_of_whole h₀ h) 0
  rwa [Nat.pow_zero, Nat.mul_one] at exact

/-- A whole number of up to 53 bits is a double. -/
theorem unpack_ofNat {n : Nat} (h₀ : 0 < n) (h : n < 2 ^ 53) :
    (Float.ofNat n).toModel.unpack =
      .finite .positive (n <<< (52 - n.log2)) ((n.log2 : Int) - 52) (normal_of_whole h₀ h).pos := by
  have one : (Float.ofBits 0x3FF0000000000000).toModel.unpack =
      .finite .positive (2 ^ 52) (-52) (by decide) := rfl
  have scaled : Float.ofNat n = n.toUInt64.toFloat * Float.ofBits 0x3FF0000000000000 :=
    dif_pos ⟨h, by decide⟩
  rw [scaled]
  show (pack (UnpackedFloat.mul .binary64 n.toUInt64.toFloat.toModel.unpack
    (Float.ofBits 0x3FF0000000000000).toModel.unpack)).unpack = _
  rw [unpack_toFloat h₀ h, one]
  exact unpack_pack_exact (normal_of_whole h₀ h) 52

theorem isFinite_ofNat {n : Nat} (h : n < 2 ^ 53) : (Float.ofNat n).isFinite = true := by
  rcases Nat.eq_zero_or_pos n with rfl | h₀
  · decide
  · show (Float.ofNat n).toModel.unpack.isFinite = true
    rw [unpack_ofNat h₀ h]
    rfl

theorem le_iff (x y : Float) : x ≤ y ↔ x.toModel.unpack.le y.toModel.unpack = true := by
  show decide (x.toModel ≤ y.toModel) = true ↔ _
  exact decide_eq_true_iff

theorem one_le_ofNat_iff {n : Nat} (h : n < 2 ^ 53) : Float.ofNat 1 ≤ Float.ofNat n ↔ n ≠ 0 := by
  rcases Nat.eq_zero_or_pos n with rfl | h₀
  · decide
  · refine iff_of_true ?_ (Nat.ne_of_gt h₀)
    have normal := normal_of_whole h₀ h
    rw [le_iff, unpack_ofNat h₀ h, unpack_ofNat (by decide) (by decide)]
    show (((compare (-52 : Int) ((n.log2 : Int) - 52)).then
      (compare (2 ^ 52) (n <<< (52 - n.log2)))).isLE) = true
    rcases Nat.eq_zero_or_pos n.log2 with zero | pos
    · have same : compare (-52 : Int) ((n.log2 : Int) - 52) = .eq := by
        rw [Int.compare_eq_eq]
        omega
      rw [same]
      exact Nat.isLE_compare.2 normal.le
    · have less : compare (-52 : Int) ((n.log2 : Int) - 52) = .lt := by
        rw [Int.compare_eq_lt]
        omega
      rw [less]
      rfl

end Registrar.Double
