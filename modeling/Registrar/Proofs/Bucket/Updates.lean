import Registrar.Proofs.Bucket.Visits
import Registrar.Rehearsal

/-!
# Changes of the limits

Whatever its callers do, and in whatever order their clock readings come, a bucket stays within its
limits, and these stay acceptable (`Valid.after`). `Bucket.Updates` says how a change of the limits
ends: refused, and nothing has changed, or in force, with what had accrued under the old ones.

Main statement: `valid_and_updates`.
-/

namespace Registrar

/-! ## Settings of a limiter -/

namespace RateLimit

/-- A limiter reports the settings that it was given. -/
theorem ofBucketLimit_toBucketLimit {r : RateLimit ℚ} (word : r.burst ≤ Decimal.max32) :
    ofBucketLimit r.toBucketLimit = r := by
  have burst : Quantity.word32 (Quantity.ofNat r.burst : ℚ) = r.burst := by
    show min ⌊(r.burst : ℚ)⌋₊ Decimal.max32 = r.burst
    rw [Nat.floor_natCast, min_eq_left word]
  rw [ofBucketLimit, toBucketLimit, burst]

end RateLimit

namespace Bucket

variable {b : Bucket ℚ} {l : BucketLimit ℚ} {now start : Instant}

/-! ## Updates -/

/-- The tokens that have accrued until now under the limits in force. -/
def accrued (b : Bucket ℚ) (now : Instant) : ℚ :=
  min (b.tokens + Quantity.seconds (now - b.refilledAt) * b.limit.refillPerSecond) b.limit.capacity

/-- How an update ends: the limits are refused, and the bucket is what it was, or they are in force,
and what accrued under the old ones is kept up to the new capacity. -/
inductive Updates (b : Bucket ℚ) (now : Instant) (l : BucketLimit ℚ) :
    Option LimitFault → Bucket ℚ → Prop
  | refused {fault : LimitFault} (invalid : l.validate = .error fault) :
      Updates b now l (some fault) b
  | accepted {next : Bucket ℚ} (valid : l.validate = .ok ()) (limit : next.limit = l)
      (tokens : next.tokens = min (b.accrued now) l.capacity) : Updates b now l none next

theorem Valid.updates (h : b.Valid) (now : Instant) (l : BucketLimit ℚ) :
    b.Updates now l (b.serve now (.updateLimit l)).1 (b.serve now (.updateLimit l)).2 := by
  cases hl : l.validate with
  | error fault =>
    simp only [Bucket.serve, updateLimit_of_error hl]
    exact .refused hl
  | ok u =>
    simp only [Bucket.serve, updateLimit_of_ok hl]
    exact .accepted hl rfl (congrArg (min · l.capacity) (refill_tokens h.le_capacity now))

/-- The same for the owner of a client, who also sees the new settings reported. -/
theorem Valid.updateRateLimit {stage : Stage ℚ} (h : stage.bucket.Valid) (r : RateLimit ℚ)
    (word : r.burst ≤ Decimal.max32) :
    (∃ fault, stage.updateRateLimit r = (.error (.config fault.message), stage) ∧
        stage.bucket.Updates stage.now r.toBucketLimit (some fault) stage.bucket) ∨
      ∃ next : Stage ℚ, stage.updateRateLimit r = (.ok (), next) ∧ next.rateLimit = r ∧
        stage.bucket.Updates stage.now r.toBucketLimit none next.bucket := by
  have updates := h.updates stage.now r.toBucketLimit
  cases hl : r.toBucketLimit.validate with
  | error fault =>
    simp only [Stage.updateRateLimit, Bucket.serve, updateLimit_of_error hl] at updates ⊢
    exact .inl ⟨fault, rfl, updates⟩
  | ok u =>
    simp only [Stage.updateRateLimit, Bucket.serve, updateLimit_of_ok hl] at updates ⊢
    exact .inr ⟨_, rfl, RateLimit.ofBucketLimit_toBucketLimit word, updates⟩

/-! ## Main statement -/

/-- A bucket to which anything has happened, at clock readings in any order, is within limits that
are accepted. An update that is refused then changes nothing, and one that is accepted puts exactly
the given limits in force and keeps what has accrued. So does an update by the owner of a client,
which then reports exactly the given settings. -/
theorem valid_and_updates (hb : new l start = .ok b) (visits : List (Visit ℚ)) :
    (b.after visits).Valid ∧
      (∀ now l', (b.after visits).Updates now l' ((b.after visits).serve now (.updateLimit l')).1
        ((b.after visits).serve now (.updateLimit l')).2) ∧
      ∀ stage : Stage ℚ, stage.bucket = b.after visits →
        ∀ r : RateLimit ℚ, r.burst ≤ Decimal.max32 →
          (∃ fault, stage.updateRateLimit r = (.error (.config fault.message), stage) ∧
            stage.bucket.Updates stage.now r.toBucketLimit (some fault) stage.bucket) ∨
          ∃ next : Stage ℚ, stage.updateRateLimit r = (.ok (), next) ∧ next.rateLimit = r ∧
            stage.bucket.Updates stage.now r.toBucketLimit none next.bucket := by
  have valid := (valid_of_new hb).after visits
  exact ⟨valid, valid.updates, fun stage same r word =>
    (same ▸ valid : stage.bucket.Valid).updateRateLimit r word⟩

/-- After a reading that is older than the last refill, a burst of none is refused, and the largest
one at the slowest rate is taken. -/
theorem valid_and_updates_of_older_reading :
    ∃ b : Bucket ℚ, new ⟨2, 1⟩ 0 = .ok b ∧
      let s := b.after [⟨0, Duration.ofSeconds 5, .take⟩, ⟨1, Duration.ofSeconds 1, .take⟩]
      let stage : Stage ℚ :=
        ⟨Duration.ofSeconds 3, s, ⟨.standard, .closed, 0, none, false, 0, 0⟩, [], []⟩
      s.Valid ∧ s.refilledAt = Duration.ofSeconds 5 ∧
        (stage.updateRateLimit ⟨1 / 2, 0⟩).2 = stage ∧
        (stage.updateRateLimit ⟨1 / 1000, Decimal.max32⟩).2.rateLimit =
          ⟨1 / 1000, Decimal.max32⟩ := by
  have full : new ⟨2, 1⟩ 0 = .ok (⟨⟨2, 1⟩, 2, 0⟩ : Bucket ℚ) := by decide +kernel
  have large : (RateLimit.toBucketLimit ⟨1 / 1000, Decimal.max32⟩ : BucketLimit ℚ).validate =
      .ok () := by decide +kernel
  have none : (RateLimit.toBucketLimit ⟨1 / 2, 0⟩ : BucketLimit ℚ).validate =
      .error .capacity := by decide +kernel
  refine ⟨_, full, ?_⟩
  intro s stage
  obtain ⟨valid, -, owner⟩ := valid_and_updates full
    [⟨0, Duration.ofSeconds 5, .take⟩, ⟨1, Duration.ofSeconds 1, .take⟩]
  refine ⟨valid, by decide +kernel, ?_, ?_⟩
  · obtain ⟨fault, refused, -⟩ | ⟨next, -, -, updates⟩ := owner stage rfl ⟨1 / 2, 0⟩ (by decide)
    · rw [refused]
    · cases updates with
      | accepted accepts => cases none.symm.trans accepts
  · obtain ⟨fault, -, updates⟩ | ⟨next, accepted, reported, -⟩ :=
      owner stage rfl ⟨1 / 1000, Decimal.max32⟩ le_rfl
    · cases updates with
      | refused refuses => cases large.symm.trans refuses
    · rw [accepted]
      exact reported

end Bucket

end Registrar
