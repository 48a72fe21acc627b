import Registrar.Proofs.Quantity.Double
import Registrar.Proofs.Text.Trimming
import Registrar.Rehearsal

/-!
# Settings and the parts they make

Settings are checked before the limiter, the breaker and the backoff are made of them, and each of
those checks its own limits again, in its own units. `Settings.IsSound` asks for everything once,
the limits through the parts that are under them. Main statement:
`Settings.validate_iff_sound_and_staged`.
-/

namespace Registrar

/-! ## Texts -/

namespace Text

/-- A text with a character that can be seen. -/
def HasInk (s : String) : Prop := ∃ c ∈ s.toList, isBlank c = false

theorem isBlankText_eq_false_iff (s : String) : isBlankText s = false ↔ HasInk s := by
  unfold isBlankText HasInk
  rw [List.isEmpty_eq_false_iff, Ne, trimChars_eq_nil_iff]
  simp

end Text

namespace Credentials

/-- Credentials without a blank field. -/
def AreGiven (c : Credentials) : Prop :=
  Text.HasInk c.apiUser ∧ Text.HasInk c.apiKey ∧ Text.HasInk c.username ∧ Text.HasInk c.clientIp

theorem blankField?_eq_none_iff (c : Credentials) : c.blankField? = none ↔ c.AreGiven := by
  unfold blankField? AreGiven fields
  simp [← Text.isBlankText_eq_false_iff]

end Credentials

/-- An address that starts like one of the web. -/
def Settings.IsWebAddress (url : String) : Prop :=
  ∃ rest, url = "http://" ++ rest ∨ url = "https://" ++ rest

theorem Text.isPrefixOf_toList_iff (head s : String) :
    head.toList.isPrefixOf s.toList = true ↔ ∃ rest, s = head ++ rest := by
  rw [List.isPrefixOf_iff_prefix]
  constructor
  · rintro ⟨rest, h⟩
    refine ⟨String.ofList rest, ?_⟩
    rw [← String.toList_inj, String.toList_append, String.toList_ofList, h]
  · rintro ⟨rest, rfl⟩
    rw [String.toList_append]
    exact List.prefix_append ..

theorem Settings.isWebUrl_iff (url : String) : isWebUrl url = true ↔ IsWebAddress url := by
  unfold isWebUrl IsWebAddress
  rw [Bool.or_eq_true, Text.isPrefixOf_toList_iff, Text.isPrefixOf_toList_iff, exists_or]

/-! ## Checks -/

section Checks

variable {ε φ : Type} {p : Prop} [Decidable p]

/-- A check lets through what does not meet its fault. -/
theorem check_eq_ok_iff {e : ε} {rest : Except ε Unit} :
    (if p then .error e else rest) = .ok () ↔ ¬p ∧ rest = .ok () := by
  by_cases h : p <;> simp [h]

theorem check_eq_none_iff {f : φ} {rest : Option φ} :
    (if p then some f else rest) = none ↔ ¬p ∧ rest = none := by
  by_cases h : p <;> simp [h]

end Checks

section Limits

variable {α : Type} [Quantity α]

theorem BucketLimit.validate_iff (l : BucketLimit α) :
    l.validate = .ok () ↔
      (Quantity.isFinite l.capacity && Quantity.le Quantity.one l.capacity) = true ∧
        (Quantity.isFinite l.refillPerSecond &&
          Quantity.le slowestRefill l.refillPerSecond) = true := by
  unfold validate
  rw [check_eq_ok_iff, check_eq_ok_iff]
  simp

theorem BreakerLimit.validate_iff (l : BreakerLimit) :
    l.validate = .ok () ↔ l.maxFailures ≠ 0 ∧ l.resetTimeout ≠ 0 := by
  unfold validate
  rw [check_eq_ok_iff, check_eq_ok_iff]
  simp

theorem Backoff.validate_iff (b : Backoff α) :
    b.validate = .ok () ↔
      b.maxAttempts ≠ 0 ∧ ¬b.maxDelay < b.baseDelay ∧
        (Quantity.isFinite b.factor && Quantity.le Quantity.one b.factor) = true ∧
        (Quantity.le Quantity.zero b.jitter && Quantity.le b.jitter Quantity.one) = true := by
  unfold validate
  rw [check_eq_ok_iff, check_eq_ok_iff, check_eq_ok_iff, check_eq_ok_iff]
  simp

/-! ## Units -/

theorem BreakerSettings.resetTimeout_eq_zero_iff (b : BreakerSettings) :
    b.resetTimeout = 0 ↔ b.resetTimeoutSecs = 0 := by
  show (b.resetTimeoutSecs * 1000000000 : Nat) = 0 ↔ _
  omega

omit [Quantity α] in
theorem RetrySettings.maxDelay_lt_baseDelay_iff (r : RetrySettings α) :
    r.maxDelay < r.baseDelay ↔ r.maxDelayMs < r.baseDelayMs := by
  show (r.maxDelayMs * 1000000 : Nat) < r.baseDelayMs * 1000000 ↔ _
  omega

/-- A number of tokens is a capacity unless it is zero: it has 32 bits, and a double keeps 53. -/
theorem RateLimit.isCapacity_iff {burst : Nat} (h : burst ≤ Decimal.max32) :
    (Quantity.isFinite (Quantity.ofNat burst : Float) &&
      Quantity.le Quantity.one (Quantity.ofNat burst : Float)) = true ↔ burst ≠ 0 := by
  have small : burst < 2 ^ 53 := by
    unfold Decimal.max32 at h
    omega
  show ((Float.ofNat burst).isFinite && decide (Float.ofNat 1 ≤ Float.ofNat burst)) = true ↔ _
  rw [Double.isFinite_ofNat small, Bool.true_and, decide_eq_true_iff]
  exact Double.one_le_ofNat_iff small

end Limits

/-! ## Settings -/

namespace Settings

/-- Settings with which a client can work. -/
structure IsSound {α : Type} [Quantity α] (s : Settings α) : Prop where
  credentials : s.credentials.AreGiven
  address : ∀ url, s.endpoint.baseUrl = some url → IsWebAddress url
  patience : s.http.attemptTimeoutSecs ≠ 0
  bucket : s.rateLimit.toBucketLimit.validate = .ok ()
  breaker : s.breaker.toBreakerLimit.validate = .ok ()
  backoff : s.retry.toBackoff.validate = .ok ()

variable {s : Settings Float}

theorem filter_baseUrl_eq_none_iff (url? : Option String) :
    url?.filter (!isWebUrl ·) = none ↔ ∀ url, url? = some url → IsWebAddress url := by
  rw [Option.filter_eq_none_iff]
  simp [← isWebUrl_iff]

/-- The checks of the settings, in their order. -/
theorem fault?_eq_none_iff :
    s.fault? = none ↔
      s.credentials.blankField? = none ∧ s.endpoint.baseUrl.filter (!isWebUrl ·) = none ∧
        (Quantity.isFinite s.rateLimit.requestsPerSecond &&
          Quantity.le BucketLimit.slowestRefill s.rateLimit.requestsPerSecond) = true ∧
        s.rateLimit.burst ≠ 0 ∧ s.breaker.maxFailures ≠ 0 ∧ s.breaker.resetTimeoutSecs ≠ 0 ∧
        s.retry.maxAttempts ≠ 0 ∧ ¬s.retry.maxDelayMs < s.retry.baseDelayMs ∧
        (Quantity.isFinite s.retry.backoffFactor &&
          Quantity.le Quantity.one s.retry.backoffFactor) = true ∧
        (Quantity.le Quantity.zero s.retry.jitterFraction &&
          Quantity.le s.retry.jitterFraction Quantity.one) = true ∧
        s.http.attemptTimeoutSecs ≠ 0 := by
  unfold fault?
  cases s.credentials.blankField? with
  | some field => simp
  | none =>
    cases s.endpoint.baseUrl.filter (!isWebUrl ·) with
    | some url => simp
    | none =>
      simp only [check_eq_none_iff]
      simp

/-- The check of the settings finds a fault where a part would. -/
theorem fault?_eq_none_iff_isSound (h : s.rateLimit.burst ≤ Decimal.max32) :
    s.fault? = none ↔ s.IsSound := by
  have bucket := BucketLimit.validate_iff s.rateLimit.toBucketLimit
  have breaker := BreakerLimit.validate_iff s.breaker.toBreakerLimit
  have backoff := Backoff.validate_iff s.retry.toBackoff
  unfold RateLimit.toBucketLimit at bucket
  unfold BreakerSettings.toBreakerLimit at breaker
  unfold RetrySettings.toBackoff at backoff
  simp only [RateLimit.isCapacity_iff h] at bucket
  simp only [ne_eq, BreakerSettings.resetTimeout_eq_zero_iff] at breaker
  simp only [RetrySettings.maxDelay_lt_baseDelay_iff] at backoff
  rw [fault?_eq_none_iff, Credentials.blankField?_eq_none_iff, filter_baseUrl_eq_none_iff]
  constructor
  · rintro ⟨given, address, rate, burst, failures, reset, attempts, order, factor, jitter, patience⟩
    exact ⟨given, address, patience, bucket.2 ⟨burst, rate⟩, breaker.2 ⟨failures, reset⟩,
      backoff.2 ⟨attempts, order, factor, jitter⟩⟩
  · rintro ⟨given, address, patience, bucketOk, breakerOk, backoffOk⟩
    obtain ⟨burst, rate⟩ := bucket.1 bucketOk
    obtain ⟨failures, reset⟩ := breaker.1 breakerOk
    obtain ⟨attempts, order, factor, jitter⟩ := backoff.1 backoffOk
    exact ⟨given, address, rate, burst, failures, reset, attempts, order, factor, jitter, patience⟩

theorem validate_eq_ok_iff : s.validate = .ok () ↔ s.fault? = none := by
  unfold validate
  cases s.fault? with
  | none => simp
  | some fault => simp

end Settings

/-! ## Stages -/

namespace Stage

variable {s : Settings Float}

/-- The limiter and the breaker that some limits make. -/
def fresh (s : Settings Float) (script : List Cue) : Stage where
  now := 0
  bucket := ⟨s.rateLimit.toBucketLimit, s.rateLimit.toBucketLimit.capacity, 0⟩
  breaker := ⟨s.breaker.toBreakerLimit, .closed, 0, none, false, 0, 0⟩
  script := script
  sent := []

/-- A stage takes four consents, one of the settings and one of every part. -/
theorem new_eq_ok_iff (script : List Cue) (stage : Stage) :
    Stage.new s script = .ok stage ↔
      s.validate = .ok () ∧ s.rateLimit.toBucketLimit.validate = .ok () ∧
        s.breaker.toBreakerLimit.validate = .ok () ∧ s.retry.toBackoff.validate = .ok () ∧
        stage = fresh s script := by
  unfold Stage.new Bucket.new Breaker.new
  cases s.validate with
  | error failure => simp
  | ok =>
    cases s.rateLimit.toBucketLimit.validate with
    | error fault => simp [Except.map]
    | ok =>
      cases s.breaker.toBreakerLimit.validate with
      | error fault => simp [Except.map]
      | ok =>
        cases s.retry.toBackoff.validate with
        | error fault => simp [Except.map]
        | ok => simp [Except.map, fresh, eq_comm]

theorem new_eq_error {script : List Cue} {f : Failure} (h : s.validate = .error f) :
    Stage.new s script = .error f := by
  unfold Stage.new
  rw [h]

end Stage

namespace Settings

/-- The check of the settings accepts what every part accepts, and nothing else; so no part refuses
accepted settings, and no stage is made of limits that a part would refuse. -/
theorem validate_iff_sound_and_staged (s : Settings Float)
    (hburst : s.rateLimit.burst ≤ Decimal.max32) (script : List Cue) :
    (s.validate = .ok () ↔ s.IsSound) ∧
      (s.validate = .ok () → Stage.new s script = .ok (Stage.fresh s script)) ∧
      (∀ f, s.validate = .error f → Stage.new s script = .error f) ∧
      ∀ stage, Stage.new s script = .ok stage → s.IsSound := by
  have sound : s.validate = .ok () ↔ s.IsSound := by
    rw [validate_eq_ok_iff, fault?_eq_none_iff_isSound hburst]
  refine ⟨sound, ?_, fun f => Stage.new_eq_error, ?_⟩
  · intro accepted
    have parts := sound.1 accepted
    rw [Stage.new_eq_ok_iff]
    exact ⟨accepted, parts.bucket, parts.breaker, parts.backoff, rfl⟩
  · intro stage made
    rw [Stage.new_eq_ok_iff] at made
    exact sound.1 made.1

/-- Settings at the edge of every limit. -/
def tightest : Settings Float where
  credentials := ⟨"u", "k", "u", "203.0.113.7"⟩
  endpoint := ⟨false, some "http://"⟩
  rateLimit := ⟨BucketLimit.slowestRefill, Decimal.max32⟩
  breaker := ⟨1, 1⟩
  retry := ⟨1, 30000, 30000, 1.0, 1.0⟩
  http := ⟨1, ""⟩

theorem validate_tightest :
    tightest.rateLimit.burst ≤ Decimal.max32 ∧ tightest.IsSound ∧
      Stage.new tightest [] = .ok (Stage.fresh tightest []) := by
  have accepted : tightest.validate = .ok () := by
    rw [validate_eq_ok_iff, ← Option.isNone_iff_eq_none]
    decide +kernel
  have burst : tightest.rateLimit.burst ≤ Decimal.max32 := Nat.le_refl _
  have all := validate_iff_sound_and_staged tightest burst []
  exact ⟨burst, all.1.1 accepted, all.2.1 accepted⟩

/-- What is no number keeps no bound. -/
example : { tightest with retry.jitterFraction := 0.0 / 0.0 }.fault?.isSome = true := by
  decide +kernel

end Settings

end Registrar
