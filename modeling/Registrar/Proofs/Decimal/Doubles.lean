import Registrar.Proofs.Decimal.Numerals
import Registrar.Proofs.Quantity.Rounding

/-!
# The doubles of decimal literals

A literal that spells a number becomes the double that this number is rounded to
(`Literal.rounds_toFloat`). With few digits and a small power of ten it is the product or the
quotient of two doubles that are exact; otherwise it is computed with whole numbers of any size, and
not at all where the power of ten is far from those that a double has.
-/

namespace Registrar

namespace Double

open Float.Model Float.Model.UnpackedFloat

variable {n k : ℕ}

/-! ## Powers of ten -/

/-- The mantissa of a whole number fills its bits, and the number stays what it is. -/
theorem shiftLeft_mul (h₀ : 0 < n) (h : n < 2 ^ 53) :
    ((n <<< (52 - n.log2) : ℕ) : ℚ) * 2 ^ ((n.log2 : ℤ) - 52) = n := by
  have top : n.log2 < 53 := (Nat.log2_lt (Nat.ne_of_gt h₀)).2 h
  obtain ⟨j, hj⟩ : ∃ j : ℕ, 52 - n.log2 = j := ⟨_, rfl⟩
  have exponent : (n.log2 : ℤ) - 52 = -j := by omega
  rw [hj, exponent, Nat.shiftLeft_eq, zpow_neg, zpow_natCast]
  push_cast
  field_simp

/-- Without its twos a power of ten up to the twenty-second has 53 bits at most. -/
theorem toModel_power (k : Fin 23) :
    (Float.exactlyRepresentablePowersOfTen[k.val]).toModel =
      pack (.finite .positive (5 ^ k.val <<< (52 - (5 ^ k.val).log2))
        ((5 ^ k.val).log2 - 52 + k.val)
        (normal_of_whole (Nat.pow_pos (by decide)) (by decide +revert)).pos) := by
  decide +kernel +revert

/-- The tabled powers of ten are exact. -/
theorem exists_unpack_power (h : k < 23) :
    ∃ m e, ∃ pos : 0 < m, (Float.exactlyRepresentablePowersOfTen[k]).toModel.unpack =
      .finite .positive m e pos ∧ 2 ^ 52 ≤ m ∧ (m : ℚ) * 2 ^ e = 10 ^ k := by
  have small : 5 ^ k < 2 ^ 53 :=
    Nat.lt_of_le_of_lt (Nat.pow_le_pow_right (by decide) (Nat.le_of_lt_succ h)) (by decide)
  have pos : 0 < 5 ^ k := Nat.pow_pos (by decide)
  have normal := normal_of_whole pos small
  have below : ((5 ^ k).log2 : ℤ) - 52 + k ≤ 971 := by
    have := (Nat.log2_lt (Nat.ne_of_gt pos)).2 small
    omega
  refine ⟨_, ((5 ^ k).log2 : ℤ) - 52 + k, normal.pos, ?_, normal.le, ?_⟩
  · refine (congrArg Float.Model.unpack (toModel_power ⟨k, h⟩)).trans ?_
    exact unpack_pack .positive ⟨normal.le, normal.lt, by have := normal.above; omega, below⟩
  · rw [zpow_add₀ two_ne_zero, ← mul_assoc, shiftLeft_mul pos small, zpow_natCast]
    push_cast
    rw [← mul_pow]
    norm_num

/-- Few digits and a small power of ten. -/
theorem rounds_ofScientific_small (s : Bool) (h₀ : 0 < n) (h : n < 2 ^ 53) (hk : k < 23) :
    Rounds (n * 10 ^ (if s then -(k : ℤ) else k)) (.ofScientific n s k) := by
  obtain ⟨m, e, pos, power, filled, value⟩ := exists_unpack_power hk
  have whole := unpack_toFloat h₀ h
  have normal := normal_of_whole h₀ h
  have fast : (Float.ofScientific n s k).toModel =
      if s then pack (div .binary64 n.toUInt64.toFloat.toModel.unpack
        (Float.exactlyRepresentablePowersOfTen[k]).toModel.unpack)
      else pack (mul .binary64 n.toUInt64.toFloat.toModel.unpack
        (Float.exactlyRepresentablePowersOfTen[k]).toModel.unpack) := by
    have : Float.ofScientific n s k = _ := dif_pos ⟨h, Nat.le_of_lt_succ hk⟩
    rw [this]
    cases s <;> rfl
  rw [whole, power] at fast
  cases s with
  | true =>
    have rounds := rounds_div normal.pos pos fast
    rw [shiftLeft_mul h₀ h, value] at rounds
    rwa [if_pos rfl, zpow_neg, zpow_natCast, ← div_eq_mul_inv]
  | false =>
    have fine := Nat.mul_le_mul normal.le (Nat.one_le_of_lt pos)
    have rounds := rounds_mul normal.pos pos (by omega) fast
    rw [shiftLeft_mul h₀ h, value] at rounds
    rwa [if_neg Bool.false_ne_true, zpow_natCast]

/-! ## Powers of ten far from those of a double -/

theorem limit_le : limit ≤ 10 ^ 309 := by
  have power : lastUnit = 2 ^ 971 := by rw [lastUnit, zpow_ofNat]
  calc limit ≤ 2 ^ 53 * lastUnit :=
        mul_le_mul_of_nonneg_right (sub_le_self _ one_half_pos.le) lastUnit_pos.le
    _ = 2 ^ 1024 := by rw [power, ← pow_add]
    _ ≤ 10 ^ 309 := by exact_mod_cast (by decide +kernel : 2 ^ 1024 ≤ 10 ^ 309)

variable {e : ℤ} {x : Float}

theorem rounds_infinity_of_le (h : 10 ^ k ≤ n) (far : 309 ≤ k + e) :
    Rounds (n * 10 ^ e) infinity := by
  refine rounds_infinity (limit_le.trans ?_)
  have large : (10 : ℚ) ^ k ≤ n := by exact_mod_cast h
  calc (10 : ℚ) ^ 309 = 10 ^ (309 : ℤ) := (zpow_ofNat 10 309).symm
    _ ≤ 10 ^ (k + e) := zpow_le_zpow_right₀ (by norm_num) far
    _ = 10 ^ k * 10 ^ e := by rw [zpow_add₀ (by norm_num), zpow_natCast]
    _ ≤ n * 10 ^ e := by gcongr

theorem rounds_zero_of_le (h : n < 10 ^ k) (far : k + e ≤ -330) : Rounds (n * 10 ^ e) 0.0 := by
  refine rounds_zero (by positivity) ?_
  have small : (n : ℚ) < 10 ^ k := by exact_mod_cast h
  have gap : (2 : ℚ) ^ 1075 ≤ 10 ^ 330 := by
    exact_mod_cast (by decide +kernel : 2 ^ 1075 ≤ 10 ^ 330)
  calc 2 * ((n : ℚ) * 10 ^ e) < 2 * (10 ^ k * 10 ^ e) := by gcongr
    _ = 2 * 10 ^ (k + e) := by rw [zpow_add₀ (by norm_num), zpow_natCast]
    _ ≤ 2 * 10 ^ (-330 : ℤ) := by
      have : (10 : ℚ) ^ (k + e) ≤ 10 ^ (-330 : ℤ) := zpow_le_zpow_right₀ (by norm_num) far
      gcongr
    _ = 2 / 10 ^ 330 := by rw [zpow_neg, zpow_ofNat, div_eq_mul_inv]
    _ ≤ 2 / 2 ^ 1075 := by gcongr
    _ = 2 ^ (-1074 : ℤ) := by
      rw [zpow_neg, zpow_ofNat, pow_succ' _ 1074, ← div_div, div_self two_ne_zero, one_div]

/-! ## Numbers of any size -/

/-- A number of any size is computed exactly before it is rounded. -/
theorem rounds_ofScientific_model (h₀ : 0 < n) (hx : x.toModel = Float.Model.ofScientific n e) :
    Rounds (n * 10 ^ e) x := by
  have same {y : Float} (h : x.toModel = y.toModel) : x = y := congrArg Float.ofModel h
  unfold Float.Model.ofScientific UnpackedFloat.ofScientific at hx
  rw [dif_neg (Nat.ne_of_gt h₀)] at hx
  split at hx
  case isTrue large =>
    change 2 ^ 11 < e at large
    rw [same (hx : x.toModel = infinity.toModel)]
    exact rounds_infinity_of_le (k := 0) h₀ (by omega)
  case isFalse =>
    split at hx
    case isTrue small =>
      change e < -(2 ^ 11 + (n.log2 : ℤ)) at small
      have bits : n < 10 ^ (n.log2 + 1) :=
        Nat.lt_of_lt_of_le Nat.lt_log2_self (Nat.pow_le_pow_left (by decide) _)
      rw [same (hx.trans toModel_special.1.symm)]
      exact rounds_zero_of_le bits (by omega)
    case isFalse =>
      split at hx
      case isTrue nonneg =>
        have fine : 2 ^ 52 ≤ (n <<< 53) * 10 ^ e.toNat := by
          rw [Nat.shiftLeft_eq]
          have one : 1 ≤ 10 ^ e.toNat := Nat.one_le_pow _ _ (by decide)
          calc 2 ^ 52 ≤ 1 * 2 ^ 53 * 1 := by decide
            _ ≤ n * 2 ^ 53 * 10 ^ e.toNat := by gcongr; exact h₀
        have rounds := rounds_mul _ _ fine hx
        have value : ((n <<< 53 : ℕ) : ℚ) * 2 ^ (-53 : ℤ) * ((10 ^ e.toNat : ℕ) * 2 ^ (0 : ℤ)) =
            n * 10 ^ e := by
          obtain ⟨k, rfl⟩ := Int.eq_ofNat_of_zero_le nonneg
          rw [Nat.shiftLeft_eq, zpow_neg, zpow_zero, zpow_natCast, Int.toNat_natCast]
          push_cast
          field_simp
        exact value ▸ rounds
      case isFalse negative =>
        have rounds := rounds_div _ _ hx
        have value : (n : ℚ) * 2 ^ (0 : ℤ) / ((10 ^ (-e).toNat : ℕ) * 2 ^ (0 : ℤ)) =
            n * 10 ^ e := by
          obtain ⟨k, hk⟩ : ∃ k : ℕ, e = -k := ⟨(-e).toNat, by omega⟩
          rw [hk, neg_neg, Int.toNat_natCast, zpow_neg, zpow_zero, mul_one, mul_one, zpow_natCast,
            div_eq_mul_inv]
          push_cast
          rfl
        exact value ▸ rounds

/-- The library's reading of a decimal number is rounded correctly. -/
theorem rounds_ofScientific (s : Bool) (h₀ : 0 < n) (k : ℕ) :
    Rounds (n * 10 ^ (if s then -(k : ℤ) else k)) (.ofScientific n s k) := by
  by_cases fast : n < 2 ^ 53 ∧ k ≤ 22
  · exact rounds_ofScientific_small s h₀ fast.1 (Nat.lt_succ_of_le fast.2)
  · have slow : Float.ofScientific n s k = _ := dif_neg fast
    refine rounds_ofScientific_model h₀ ?_
    rw [slow]
    cases s with
    | false => rfl
    | true => exact congrArg (Float.Model.ofScientific n) (Int.negOfNat_eq)

end Double

/-! ## Literals -/

namespace Decimal

open Double

namespace Literal

/-- The places of a number are as many as its digits. -/
theorem places {n : ℕ} (h₀ : 0 < n) :
    ∃ k, (Nat.toDigits 10 n).length = k + 1 ∧ 10 ^ k ≤ n ∧ n < 10 ^ (k + 1) := by
  obtain ⟨k, hk⟩ := Nat.exists_eq_succ_of_ne_zero
    (Nat.ne_of_gt (Nat.length_toDigits_pos : 0 < (Nat.toDigits 10 n).length))
  refine ⟨k, hk, ?_, (Nat.length_toDigits_le_iff (by decide) k.succ_pos).1 hk.le⟩
  rcases Nat.eq_zero_or_pos k with rfl | pos
  · exact h₀
  · by_contra! small
    have := (Nat.length_toDigits_le_iff (by decide) pos).2 small
    omega

theorem rounds_nearest (n : ℕ) (e : ℤ) : Rounds (n * 10 ^ e) (nearest n e) := by
  unfold nearest
  dsimp only
  split
  case isTrue zero =>
    rw [beq_iff_eq.1 zero, Nat.cast_zero, zero_mul]
    exact rounds_zero le_rfl (by rw [mul_zero]; positivity)
  case isFalse some_ =>
    have h₀ : 0 < n := Nat.pos_of_ne_zero fun zero => some_ (beq_iff_eq.2 zero)
    obtain ⟨k, length, le, lt⟩ := places h₀
    rw [length]
    split
    case isTrue large => exact rounds_infinity_of_le le (by omega)
    case isFalse =>
      split
      case isTrue small => exact rounds_zero_of_le lt (by omega)
      case isFalse =>
        have rounds := rounds_ofScientific (decide (e < 0)) h₀ e.natAbs
        have exponent : (if decide (e < 0) then -(e.natAbs : ℤ) else e.natAbs) = e := by
          split <;> simp only [decide_eq_true_eq] at * <;> omega
        rwa [exponent] at rounds

/-- A literal becomes the double that its number is rounded to. -/
theorem rounds_toFloat (negative : Bool) (n : ℕ) (e : ℤ) :
    Rounds (if negative then -(n * 10 ^ e) else n * 10 ^ e) (toFloat (.finite negative n e)) := by
  cases negative
  · exact rounds_nearest n e
  · exact (rounds_nearest n e).neg

end Literal

/-! ## Texts -/

/-- The number without its sign. -/
def Magnitude.value (m : Magnitude) : ℚ :=
  Nat.ofDigitChars 10 (m.whole ++ m.fraction) 0 *
    10 ^ (m.power?.elim 0 Power.exponent - m.fraction.length)

/-- The text is this number, written out. -/
def Spells (text : String) (q : ℚ) : Prop :=
  ∃ (s : Sign) (m : Magnitude), text.toList = s.chars ++ m.chars ∧
    q = if s.negative then -m.value else m.value

variable {text : String} {q q' : ℚ} {x : Float}

theorem spells_iff :
    Spells text q ↔ ∃ (negative : Bool) (n : ℕ) (e : ℤ),
      Literal.read text.toList = .ok (.finite negative n e) ∧
        q = if negative then -((n : ℚ) * 10 ^ e) else n * 10 ^ e := by
  constructor
  · rintro ⟨s, m, chars, rfl⟩
    exact ⟨_, _, _, Literal.read_eq_finite_iff.2 ⟨s, m, chars, rfl⟩, rfl⟩
  · rintro ⟨negative, n, e, read, rfl⟩
    obtain ⟨s, m, chars, literal⟩ := Literal.read_eq_finite_iff.1 read
    cases literal
    exact ⟨s, m, chars, rfl⟩

/-- A text is one number at most. -/
theorem Spells.unique (h : Spells text q) (h' : Spells text q') : q = q' := by
  obtain ⟨_, _, _, read, rfl⟩ := spells_iff.1 h
  obtain ⟨_, _, _, read', rfl⟩ := spells_iff.1 h'
  cases read.symm.trans read'
  rfl

/-- Infinity by its name is no number. -/
theorem not_spells_of_infinite {s : Sign} (named : IsNamed ["inf", "infinity"] s text.toList) :
    ¬Spells text q := by
  intro spelled
  obtain ⟨_, _, _, read, -⟩ := spells_iff.1 spelled
  cases read.symm.trans (Literal.read_eq_infinite_iff.2 ⟨s, named, rfl⟩)

theorem not_spells_of_undefined {s : Sign} (named : IsNamed ["nan"] s text.toList) :
    ¬Spells text q := by
  intro spelled
  obtain ⟨_, _, _, read, -⟩ := spells_iff.1 spelled
  cases read.symm.trans (Literal.read_eq_undefined_iff.2 ⟨s, named⟩)

/-- What a text says as a double: a number, an infinity or that it is no number. -/
inductive Denotes (text : String) : Float → Prop
  | number {q : ℚ} {x : Float} (spelled : Spells text q) (rounds : Rounds q x) : Denotes text x
  | infinite {s : Sign} (named : IsNamed ["inf", "infinity"] s text.toList) :
      Denotes text (if s.negative then -infinity else infinity)
  | undefined {s : Sign} (named : IsNamed ["nan"] s text.toList) : Denotes text (0.0 / 0.0)

/-- What is read is what the text says. -/
theorem denotes_of_readFloat (h : readFloat text = .ok x) : Denotes text x := by
  unfold readFloat at h
  cases read : Literal.read text.toList with
  | error fault =>
    rw [read] at h
    cases h
  | ok l =>
    rw [read] at h
    cases h
    cases l with
    | finite negative n e =>
      exact .number (spells_iff.2 ⟨negative, n, e, read, rfl⟩) (Literal.rounds_toFloat negative n e)
    | infinite negative =>
      obtain ⟨s, named, rfl⟩ := Literal.read_eq_infinite_iff.1 read
      have same : Literal.toFloat (.infinite s.negative) =
          if s.negative then -infinity else infinity := by
        cases s <;> decide +kernel
      exact same ▸ .infinite named
    | undefined =>
      obtain ⟨s, named⟩ := Literal.read_eq_undefined_iff.1 read
      exact .undefined named

/-- What says something is read. -/
theorem Denotes.exists_readFloat (h : Denotes text x) : ∃ y, readFloat text = .ok y := by
  have read {l : Literal} (h : Literal.read text.toList = .ok l) : ∃ y, readFloat text = .ok y :=
    ⟨l.toFloat, by rw [readFloat, h]; rfl⟩
  cases h with
  | number spelled =>
    obtain ⟨_, _, _, given, -⟩ := spells_iff.1 spelled
    exact read given
  | infinite named => exact read (Literal.read_eq_infinite_iff.2 ⟨_, named, rfl⟩)
  | undefined named => exact read (Literal.read_eq_undefined_iff.2 ⟨_, named⟩)

/-- What a text says is finite if and only if it is a number up to the limit. -/
theorem Denotes.isFinite_iff (h : Denotes text x) :
    x.isFinite = true ↔ ∃ q, Spells text q ∧ |q| < limit := by
  cases h with
  | number spelled rounds =>
    rw [rounds.isFinite_iff]
    exact ⟨fun small => ⟨_, spelled, small⟩, fun ⟨_, other, small⟩ => spelled.unique other ▸ small⟩
  | infinite named =>
    refine iff_of_false ?_ fun ⟨_, spelled, _⟩ => not_spells_of_infinite named spelled
    split
    · rw [isFinite_eq_false number?_neg_infinity]
      exact Bool.false_ne_true
    · rw [isFinite_eq_false number?_infinity]
      exact Bool.false_ne_true
  | undefined named =>
    rw [isFinite_eq_false number?_notANumber]
    exact iff_of_false Bool.false_ne_true fun ⟨_, spelled, _⟩ =>
      not_spells_of_undefined named spelled

/-- More than every double: infinity by its name, or a number that is too large. -/
def Endless (text : String) : Prop :=
  (∃ s : Sign, IsNamed ["inf", "infinity"] s text.toList ∧ s.negative = false) ∨
    ∃ q, Spells text q ∧ limit ≤ q

theorem endless_iff_of_read {l : Literal} (h : Literal.read text.toList = .ok l) :
    Endless text ↔ l = .infinite false ∨ ∃ q, Spells text q ∧ limit ≤ q := by
  rw [Endless, ← Literal.read_eq_infinite_iff, h, Except.ok.injEq]

theorem not_endless_empty : ¬Endless "" := by
  have unread : Literal.read "".toList = .error .empty := rfl
  rintro (named | ⟨q, spelled, -⟩)
  · cases unread.symm.trans (Literal.read_eq_infinite_iff.2 named)
  · obtain ⟨_, _, _, read, -⟩ := spells_iff.1 spelled
    cases unread.symm.trans read

/-- A number is below what a text says if that has no end or is a larger number. -/
theorem Denotes.le_iff {y : Float} {p : ℚ} (h : Denotes text x) (hy : number? y = some p) :
    y ≤ x ↔ Endless text ∨ ∃ a, number? x = some a ∧ p ≤ a := by
  cases h with
  | @number q x spelled rounds =>
    obtain ⟨negative, n, e, read, -⟩ := spells_iff.1 spelled
    rw [rounds.le_iff hy, endless_iff_of_read read]
    have same : (∃ q', Spells text q' ∧ limit ≤ q') ↔ limit ≤ q :=
      ⟨fun ⟨_, other, large⟩ => spelled.unique other ▸ large, fun large => ⟨q, spelled, large⟩⟩
    simp only [same, reduceCtorEq, false_or]
  | @infinite s named =>
    have read := Literal.read_eq_infinite_iff.2 ⟨s, named, rfl⟩
    rw [endless_iff_of_read read]
    cases negative : s.negative with
    | false => exact iff_of_true (le_infinity hy).1 (.inl (.inl rfl))
    | true =>
      refine iff_of_false (le_infinity hy).2 ?_
      rintro ((other | ⟨q, spelled, -⟩) | ⟨a, number, -⟩)
      · cases other
      · exact not_spells_of_infinite named spelled
      · cases number?_neg_infinity.symm.trans number
  | undefined named =>
    have read := Literal.read_eq_undefined_iff.2 ⟨_, named⟩
    rw [endless_iff_of_read read]
    refine iff_of_false (not_le_notANumber y) ?_
    rintro ((other | ⟨q, spelled, -⟩) | ⟨a, number, -⟩)
    · cases other
    · exact not_spells_of_undefined named spelled
    · cases number?_notANumber.symm.trans number

end Decimal

end Registrar
