import Registrar.Breaker

/-!
# Moves of a breaker

What one entry and one settlement do to a breaker, by cases. `Breaker.Entry` lists the three answers
of `Breaker.enter` with what each of them presupposes; the settlement of a permit counts the call
unless it is an ordinary one that outlived the closed mode.
-/

namespace Registrar.Breaker

variable {b : Breaker} {l : BreakerLimit} {now : Instant} {a : Admission} {o : Outcome}

theorem new_eq_ok_iff :
    new l = .ok b ↔
      l.maxFailures ≠ 0 ∧ l.resetTimeout ≠ 0 ∧ b = ⟨l, .closed, 0, none, false, 0, 0⟩ := by
  unfold new BreakerLimit.validate
  split
  · simp [Except.map, *]
  split
  · simp [Except.map, *]
  · simp [Except.map, *, eq_comm]

theorem limit_of_new (h : new l = .ok b) : b.limit = l := by
  rw [(new_eq_ok_iff.1 h).2.2]

theorem closed_of_new (h : new l = .ok b) : b.mode = .closed := by
  rw [(new_eq_ok_iff.1 h).2.2]

theorem lt_sinceFailure_iff {last : Instant} {d : Duration} (h : b.lastFailure = some last) :
    d < b.sinceFailure now ↔ last + d < now := by
  rw [sinceFailure, h]
  exact Nat.lt_sub_iff_add_lt'

/-- The breaker lets a probe in at this reading. -/
def MayProbe (b : Breaker) (now : Instant) : Prop :=
  b.mode = .opened ∧ b.limit.resetTimeout < b.sinceFailure now ∨
    b.mode = .halfOpen ∧ b.probing = false

/-- What a call that asks for admission can meet. -/
inductive Entry (b : Breaker) (now : Instant) : Except Refusal Admission × Breaker → Prop
  | refused (open_ : b.mode ≠ .closed) (shut : ¬b.MayProbe now) :
      Entry b now (.error ⟨b.failures, b.sinceFailure now⟩, { b with rejected := b.rejected + 1 })
  | admitted (closed : b.mode = .closed) :
      Entry b now (.ok .normal, { b with total := b.total + 1 })
  | probed (may : b.MayProbe now) :
      Entry b now (.ok .probe, { b with mode := .halfOpen, probing := true, total := b.total + 1 })

theorem entry (b : Breaker) (now : Instant) : b.Entry now (b.enter now) := by
  cases hm : b.mode with
  | closed =>
    rw [show b.enter now = (.ok .normal, { b with total := b.total + 1 }) by simp [enter, hm]]
    exact .admitted hm
  | opened =>
    by_cases h : b.limit.resetTimeout < b.sinceFailure now
    · rw [show b.enter now = b.enterProbe by simp [enter, hm, h]]
      exact .probed (.inl ⟨hm, h⟩)
    · rw [show b.enter now = b.refuse now by simp [enter, hm, h]]
      exact .refused (by simp [hm]) (by simp [MayProbe, hm, h])
  | halfOpen =>
    cases hp : b.probing with
    | false =>
      rw [show b.enter now = b.enterProbe by simp [enter, hm, hp]]
      exact .probed (.inr ⟨hm, hp⟩)
    | true =>
      rw [show b.enter now = b.refuse now by simp [enter, hm, hp]]
      exact .refused (by simp [hm]) (by simp [MayProbe, hm, hp])

/-! ## Settlements -/

theorem countUp_of_lt {n : Nat} (h : n < Decimal.max32) : countUp n = n + 1 :=
  Nat.min_eq_left h

theorem le_countUp {m n : Nat} (hm : m ≤ Decimal.max32) (h : m ≤ n) : m ≤ countUp n :=
  Nat.le_min.2 ⟨Nat.le_succ_of_le h, hm⟩

@[simp] theorem count_limit : (b.count now o).limit = b.limit := by
  cases o <;> rfl

@[simp] theorem count_probing : (b.count now o).probing = b.probing := by
  cases o <;> rfl

@[simp] theorem settle_limit : (b.settle now a o).limit = b.limit := by
  cases a with
  | normal => simp only [settle]; split <;> simp
  | probe => simp [settle]

/-- An ordinary call says nothing about the slot. -/
theorem settle_normal_probing : (b.settle now .normal o).probing = b.probing := by
  simp only [settle]; split <;> simp

/-- An ordinary call that outlived the closed mode says nothing at all. -/
theorem settle_normal_of_ne (h : b.mode ≠ .closed) : b.settle now .normal o = b := by
  simp [settle, h]

theorem settle_normal_of_closed (h : b.mode = .closed) :
    b.settle now .normal o = b.count now o := by
  simp [settle, h]

/-- No settlement makes a breaker half-open, and one that leaves it so changes nothing else. -/
theorem halfOpen_of_settle (h : (b.settle now a o).mode = .halfOpen) :
    b.mode = .halfOpen ∧ (b.settle now a o).lastFailure = b.lastFailure := by
  cases a with
  | normal =>
    by_cases hm : b.mode = .closed
    · rw [settle_normal_of_closed hm] at h
      cases o <;> simp [count, succeed, fail, hm] at h
      split at h <;> cases h
    · rw [settle_normal_of_ne hm] at h ⊢
      exact ⟨h, rfl⟩
  | probe =>
    cases o with
    | success => simp [settle, count, succeed] at h; split at h <;> simp_all
    | failure => cases hm : b.mode <;> simp [settle, count, fail, hm] at h; split at h <;> cases h
    | ignored => exact ⟨h, rfl⟩

/-- A breaker that is not closed knows when the last failure was. -/
def Dated (b : Breaker) : Prop := b.mode ≠ .closed → b.lastFailure ≠ none

theorem Dated.settle (h : b.Dated) : (b.settle now a o).Dated := by
  intro hm
  cases a with
  | normal =>
    by_cases hc : b.mode = .closed
    · rw [settle_normal_of_closed hc] at hm ⊢
      cases o <;> simp_all [count, succeed, fail]
    · rw [settle_normal_of_ne hc]
      exact h hc
  | probe =>
    cases o with
    | success => exact h fun hc => hm (by simp [Breaker.settle, count, succeed, hc])
    | failure => simp [Breaker.settle, count, fail]
    | ignored => exact h hm

/-- The streak is below its limit exactly while the breaker is closed. -/
def InStep (b : Breaker) : Prop := b.mode = .closed ↔ b.failures < b.limit.maxFailures

theorem InStep.count (h : b.InStep) (hpos : 0 < b.limit.maxFailures)
    (hmax : b.limit.maxFailures ≤ Decimal.max32) (ho : b.mode = .opened → o ≠ .success) :
    (b.count now o).InStep := by
  unfold InStep at h ⊢
  cases o with
  | success =>
    cases hm : b.mode with
    | closed | halfOpen => simp [Breaker.count, succeed, hm, hpos]
    | opened => exact absurd rfl (ho hm)
  | failure =>
    cases hm : b.mode with
    | closed =>
      simp only [Breaker.count, fail, hm]
      split <;> simp <;> omega
    | opened | halfOpen =>
      have := le_countUp hmax (n := b.failures) (by simpa [hm] using h)
      simpa [Breaker.count, fail, hm] using this
  | ignored => exact h

/-- A settlement keeps the streak in step, unless a probe succeeds while the breaker is open. -/
theorem InStep.settle (h : b.InStep) (hpos : 0 < b.limit.maxFailures)
    (hmax : b.limit.maxFailures ≤ Decimal.max32)
    (ho : a = .probe → b.mode = .opened → o ≠ .success) : (b.settle now a o).InStep := by
  cases a with
  | normal =>
    by_cases hc : b.mode = .closed
    · rw [settle_normal_of_closed hc]
      exact h.count hpos hmax (by simp [hc])
    · rwa [settle_normal_of_ne hc]
  | probe => exact InStep.count (b := { b with probing := false }) h hpos hmax (ho rfl)

end Registrar.Breaker
