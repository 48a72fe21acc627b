import Registrar.Proofs.Quantity.Double

/-!
# The numbers that are doubles

A finite double is ±m · 2^e, where the mantissa m has 53 bits at most and fills them unless the
exponent is the least one (`Fits`). Such a pair is kept by the bits of a double
(`unpack_pack_of_fits`), there is no other (`fits_of_unpack`), and with it the order of doubles is
that of their numbers (`le_iff_number`).
-/

namespace Registrar.Double

open Float.Model Float.Model.UnpackedFloat

/-- A mantissa and an exponent of a double. -/
structure Fits (m : Nat) (e : Int) : Prop where
  lt : m < 2 ^ 53
  filled : 2 ^ 52 ≤ m ∨ e = -1074
  above : -1074 ≤ e
  below : e ≤ 971

variable {m m' : Nat} {e e' : Int} {s s' : Sign}

/-! ## Bits -/

/-- A mantissa that does not fill its bits is kept with the least exponent. -/
theorem unpack_pack_of_lt (s : Sign) (pos : 0 < m) (h : m < 2 ^ 52) :
    UnpackedFloat.unpack .binary64 (UnpackedFloat.pack .binary64 (.finite s m (-1074) pos)) =
      .finite s m (-1074) pos := by
  have unfilled : ¬m.log2 + 1 = Format.binary64.mantissaBits := by
    have := (Nat.log2_lt (Nat.ne_of_gt pos)).2 h
    show ¬m.log2 + 1 = 53
    omega
  have packed : UnpackedFloat.pack .binary64 (.finite s m (-1074) pos) =
      packComponents .binary64 s 0#11 (BitVec.ofNat 52 m) := by
    unfold UnpackedFloat.pack
    dsimp only
    rw [if_neg (by decide), if_neg unfilled]
  have mantissa : (BitVec.ofNat 52 m).toNat = m := by
    rw [BitVec.toNat_ofNat]
    omega
  have notZero : BitVec.ofNat 52 m ≠ 0#52 := by
    intro zero
    have := congrArg BitVec.toNat zero
    rw [mantissa] at this
    exact Nat.ne_of_gt pos this
  rw [packed]
  unfold UnpackedFloat.unpack
  dsimp only
  rw [if_neg (by rw [unpackExponent_packComponents]; decide),
    if_pos (by rw [unpackExponent_packComponents]),
    dif_neg (by rwa [unpackMantissa_packComponents])]
  refine finite_eq _ _ ?_ ?_ ?_
  · rw [unpackSign_packComponents, Sign.ofBitVec_toBitVec]
  · rw [unpackMantissa_packComponents, mantissa]
  · rw [unpackExponent_packComponents]
    rfl

/-- The bits of a double keep every mantissa and exponent that fit. -/
theorem unpack_pack_of_fits (s : Sign) (pos : 0 < m) (h : Fits m e) :
    (pack (.finite s m e pos)).unpack = .finite s m e pos := by
  by_cases filled : 2 ^ 52 ≤ m
  · exact unpack_pack s ⟨filled, h.lt, h.above, h.below⟩
  · obtain rfl : e = -1074 := h.filled.resolve_left filled
    exact unpack_pack_of_lt s pos (Nat.lt_of_not_le filled)

/-- What the bits of a double hold fits. -/
theorem fits_of_unpack {x : Float.Model} {pos : 0 < m} (h : x.unpack = .finite s m e pos) :
    Fits m e := by
  change UnpackedFloat.unpack .binary64 x.toBits.toBitVec = _ at h
  let mantissa : BitVec 52 := @unpackMantissa .binary64 x.toBits.toBitVec
  let exponent : BitVec 11 := @unpackExponent .binary64 x.toBits.toBitVec
  have small : mantissa.toNat < 2 ^ 52 := mantissa.isLt
  have bias : (Format.binary64.exponentBias : Int) +
    (Format.binary64.mantissaBitsWithoutImplicit : Int) = 1075 := rfl
  unfold UnpackedFloat.unpack at h
  dsimp only at h
  rw [bias] at h
  split at h
  case isTrue => split at h <;> cases h
  case isFalse notTop =>
    have below : exponent.toNat < 2047 := by
      have bound : exponent.toNat < 2048 := exponent.isLt
      have : exponent.toNat ≠ 2047 := fun top => notTop (BitVec.eq_of_toNat_eq top)
      omega
    split at h
    case isTrue zero =>
      split at h
      case isTrue => cases h
      case isFalse =>
        cases h
        rw [zero]
        exact ⟨Nat.lt_trans small (by decide), .inr rfl, Int.le_refl _, by decide⟩
    case isFalse notZero =>
      cases h
      have above : 1 ≤ exponent.toNat :=
        Nat.one_le_iff_ne_zero.2 fun zero => notZero (BitVec.eq_of_toNat_eq zero)
      have filled : (1#1 ++ mantissa).toNat = 2 ^ 52 + mantissa.toNat := by
        rw [BitVec.toNat_append, Nat.shiftLeft_eq, Nat.or_comm]
        show mantissa.toNat ||| 1 * 2 ^ 52 = _
        rw [Nat.one_mul, Nat.or_two_pow_eq_add_of_lt small, Nat.add_comm]
      show Fits (1#1 ++ mantissa).toNat ((exponent.toNat : Int) - 1075)
      rw [filled]
      exact ⟨by omega, .inl (by omega), by omega, by omega⟩

theorem unpack_pack_infinity (s : Sign) : (pack (.infinity s)).unpack = .infinity s := by
  cases s <;> rfl

theorem unpack_pack_zero (s : Sign) : (pack (.zero s)).unpack = .zero s := by
  cases s <;> rfl

theorem unpack_pack_notANumber : (pack .notANumber).unpack = .notANumber := rfl

/-! ## Numbers -/

/-- The number ±m · 2^e. -/
def signed (s : Sign) (m : Nat) (e : Int) : ℚ := (s.apply m : ℤ) * 2 ^ e

theorem signed_positive (m : Nat) (e : Int) : signed .positive m e = m * 2 ^ e := rfl

theorem signed_negative (m : Nat) (e : Int) : signed .negative m e = -(m * 2 ^ e) := by
  show ((-(m : ℤ) : ℤ) : ℚ) * 2 ^ e = _
  push_cast
  exact neg_mul _ _

theorem signed_neg (s : Sign) (m : Nat) (e : Int) : signed (-s) m e = -signed s m e := by
  cases s with
  | positive => exact signed_negative m e
  | negative => exact (neg_neg ((m : ℚ) * 2 ^ e)).symm.trans (congrArg _ (signed_negative m e).symm)

/-- The number that a double is, if it is finite. -/
def number? (x : Float) : Option ℚ :=
  match x.toModel.unpack with
  | .finite s m e _ => some (signed s m e)
  | .zero _ => some 0
  | .infinity _ | .notANumber => none

variable {x y : Float} {a b : ℚ}

theorem number?_of_finite {pos : 0 < m} (h : x.toModel.unpack = .finite s m e pos) :
    number? x = some (signed s m e) := by
  rw [number?, h]

theorem isFinite_iff (x : Float) : x.isFinite = true ↔ ∃ a, number? x = some a := by
  show x.toModel.unpack.isFinite = true ↔ _
  unfold number?
  cases x.toModel.unpack <;> simp [UnpackedFloat.isFinite]

/-- Zero has any sign, no mantissa and the least exponent. -/
theorem exists_of_number? (h : number? x = some a) : ∃ s m e, Fits m e ∧ a = signed s m e := by
  unfold number? at h
  split at h
  next s m e pos unpacked =>
    cases h
    exact ⟨s, m, e, fits_of_unpack unpacked, rfl⟩
  next =>
    cases h
    exact ⟨.positive, 0, -1074, ⟨by decide, .inr rfl, le_rfl, by decide⟩, by simp [signed_positive]⟩
  next => cases h
  next => cases h

theorem unpack_neg (x : Float) : (-x).toModel.unpack = x.toModel.unpack.neg := by
  show (pack x.toModel.unpack.neg).unpack = _
  cases h : x.toModel.unpack with
  | notANumber => exact unpack_pack_notANumber
  | infinity s => exact unpack_pack_infinity (-s)
  | zero s => exact unpack_pack_zero (-s)
  | finite s m e pos => exact unpack_pack_of_fits (-s) pos (fits_of_unpack h)

theorem number?_neg (x : Float) : number? (-x) = (number? x).map (-·) := by
  unfold number?
  rw [unpack_neg]
  cases x.toModel.unpack with
  | notANumber | infinity => rfl
  | zero => exact congrArg some neg_zero.symm
  | finite s m e => exact congrArg some (signed_neg s m e)

/-! ## Order -/

/-- Of two numbers that fit, the one with the larger exponent is larger. -/
theorem magnitude_lt (h : Fits m e) (h' : Fits m' e') (lt : e < e') :
    (m : ℚ) * 2 ^ e < m' * 2 ^ e' := by
  have filled : 2 ^ 52 ≤ m' := h'.filled.resolve_right fun least => by
    have := h.above
    omega
  calc (m : ℚ) * 2 ^ e < 2 ^ 53 * 2 ^ e := by
        have : (m : ℚ) < 2 ^ 53 := by exact_mod_cast h.lt
        gcongr
    _ = 2 ^ 52 * 2 ^ (e + 1) := by
        rw [zpow_add_one₀ two_ne_zero]
        ring
    _ ≤ m' * 2 ^ e' := by
        have : (2 ^ 52 : ℚ) ≤ m' := by exact_mod_cast filled
        gcongr
        · norm_num
        · omega

theorem compare_magnitudes (h : Fits m e) (h' : Fits m' e') :
    (compare e e').then (compare m m') = compare ((m : ℚ) * 2 ^ e) (m' * 2 ^ e') := by
  have power : (0 : ℚ) < 2 ^ e := by positivity
  rcases lt_trichotomy e e' with lt | rfl | gt
  · rw [compare_lt_iff_lt.2 lt, compare_lt_iff_lt.2 (magnitude_lt h h' lt)]
    rfl
  · rw [compare_eq_iff_eq.2 rfl, Ordering.eq_then]
    rcases lt_trichotomy m m' with lt | rfl | gt
    · rw [compare_lt_iff_lt.2 lt, compare_lt_iff_lt.2]
      gcongr
    · rw [compare_eq_iff_eq.2 rfl, compare_eq_iff_eq.2 rfl]
    · rw [compare_gt_iff_gt.2 gt, compare_gt_iff_gt.2]
      show (m' : ℚ) * 2 ^ e < m * 2 ^ e
      gcongr
  · rw [compare_gt_iff_gt.2 gt, compare_gt_iff_gt.2 (magnitude_lt h' h gt)]
    rfl

theorem isLE_compare_iff (a b : ℚ) : (compare a b).isLE = true ↔ a ≤ b := by
  rw [← compare_le_iff_le]
  cases compare a b <;> decide

/-- Finite doubles are ordered as their numbers are. -/
theorem le_iff_number (hx : number? x = some a) (hy : number? y = some b) : x ≤ y ↔ a ≤ b := by
  have pos {m : Nat} (h : 0 < m) (e : Int) : (0 : ℚ) < m * 2 ^ e := by positivity
  rw [le_iff]
  unfold number? at hx hy
  split at hx
  case h_3 => cases hx
  case h_4 => cases hx
  case h_1 s m e hm ux =>
    cases hx
    split at hy
    case h_3 => cases hy
    case h_4 => cases hy
    case h_1 s' m' e' hm' uy =>
      cases hy
      have order := compare_magnitudes (fits_of_unpack ux) (fits_of_unpack uy)
      have hm := pos hm e
      have hm' := pos hm' e'
      rw [ux, uy]
      cases s <;> cases s'
      · rw [signed_negative, signed_negative, neg_le_neg_iff, ← isLE_compare_iff,
          Std.OrientedOrd.eq_swap, ← order]
        rfl
      · rw [signed_negative, signed_positive]
        exact iff_of_true rfl (by linarith)
      · rw [signed_negative, signed_positive]
        exact iff_of_false Bool.false_ne_true (by linarith)
      · rw [signed_positive, signed_positive, ← isLE_compare_iff, ← order]
        rfl
    case h_2 s' uy =>
      cases hy
      rw [ux, uy]
      cases s
      · rw [signed_negative]
        exact iff_of_true rfl (by linarith [pos hm e])
      · rw [signed_positive]
        exact iff_of_false Bool.false_ne_true (by linarith [pos hm e])
  case h_2 s ux =>
    cases hx
    split at hy
    case h_3 => cases hy
    case h_4 => cases hy
    case h_1 s' m' e' hm' uy =>
      cases hy
      rw [ux, uy]
      cases s'
      · rw [signed_negative]
        exact iff_of_false Bool.false_ne_true (by linarith [pos hm' e'])
      · rw [signed_positive]
        exact iff_of_true rfl (by linarith [pos hm' e'])
    case h_2 s' uy =>
      cases hy
      rw [ux, uy]
      exact iff_of_true rfl le_rfl

end Registrar.Double
