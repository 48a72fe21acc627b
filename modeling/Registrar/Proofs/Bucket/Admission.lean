import Registrar.Limiter
import Registrar.Proofs.Bucket.Exact

/-!
# How much a bucket admits

While its limits stand, a bucket admits no more callers than its capacity and what flows in between
the earliest and the latest of their clock readings, each admission a billionth of a token short at
most. The readings come in any order: a caller may have read the clock before another one who was
served first.

`Bucket.potential b lo hi` is what the store could give to callers whose readings lie between `lo`
and `hi`. An operation never raises it and an admission lowers it by a token (`step_potential_le`),
so a run of operations admits at most what the potential was before it.

Main statement: `admissions_mul_le`.
-/

namespace Registrar.Bucket

/-! ## Runs and blocks -/

section

variable {α : Type} [Quantity α]

/-- Whether the operation looks at the clock; an update with limits that are refused does not. -/
def Op.readsClock : Op α → Bool
  | .updateLimit l => l.validate.isOk
  | .take | .available | .reset => true

/-- The clock readings that were taken for a block of operations. -/
def readings (block : List (Instant × Op α)) : List Instant :=
  (block.filter (·.2.readsClock)).map Prod.fst

def earliest (readings : List Instant) : Instant := readings.min?.getD 0

def latest (readings : List Instant) : Instant := readings.max?.getD 0

def Reply.isAdmission : Reply α → Bool
  | .taken granted => granted
  | .tokens _ | .updated _ | .filled => false

/-- How many callers got a token. -/
def admissions (replies : List (Reply α)) : Nat := replies.countP (·.isAdmission)

/-- No operation of the block changes the limits. -/
def KeepsLimit (b : Bucket α) : List (Instant × Op α) → Prop
  | [] => True
  | (now, op) :: block =>
    (b.step now op).2.limit = b.limit ∧ KeepsLimit (b.step now op).2 block

/-- A caller who waits for its token takes it as one who does not: what it is told beside is how
long to wait. -/
theorem step_take_eq_request (b : Bucket α) (now : Instant) :
    b.step now .take = (.taken (b.request now).1.isNone, (b.request now).2) := by
  rcases h : b.take now with ⟨granted, taken⟩
  cases granted <;> simp [step, request, h]

end

variable {b : Bucket ℚ} {l : BucketLimit ℚ} {now lo hi : Instant} {op : Op ℚ}

/-! ## Valid stores -/

/-- The limits are accepted, and the store is within them. -/
structure Valid (b : Bucket ℚ) : Prop where
  limit : b.limit.validate = .ok ()
  nonneg : 0 ≤ b.tokens
  le_capacity : b.tokens ≤ b.limit.capacity

theorem Valid.rate_pos (h : b.Valid) : 0 < b.limit.refillPerSecond := by
  have := (BucketLimit.validate_eq_ok_iff.1 h.limit).2
  linarith

theorem Valid.rate_nonneg (h : b.Valid) : 0 ≤ b.limit.refillPerSecond :=
  h.rate_pos.le

theorem new_eq_ok_iff : new l now = .ok b ↔ l.validate = .ok () ∧ ⟨l, l.capacity, now⟩ = b := by
  cases hl : l.validate <;> simp [new, hl, Except.map]

theorem valid_of_new (hb : new l now = .ok b) : b.Valid := by
  obtain ⟨hl, rfl⟩ := new_eq_ok_iff.1 hb
  have := (BucketLimit.validate_eq_ok_iff.1 hl).1
  exact ⟨hl, by simp only; linarith, le_refl _⟩

theorem refilledAt_of_new (hb : new l now = .ok b) : b.refilledAt = now := by
  obtain ⟨-, rfl⟩ := new_eq_ok_iff.1 hb
  rfl

theorem Valid.refill (h : b.Valid) (now : Instant) : (b.refill now).Valid where
  limit := by rw [refill_limit]; exact h.limit
  nonneg := by
    have inflow := mul_nonneg (Quantity.seconds_nonneg (now - b.refilledAt)) h.rate_nonneg
    rw [refill_tokens h.le_capacity, le_min_iff]
    constructor <;> linarith [h.nonneg, h.le_capacity]
  le_capacity := by
    rw [refill_tokens h.le_capacity, refill_limit]
    exact min_le_right _ _

/-- A refill in between does not show in a later one. -/
theorem Valid.refill_refill (h : b.Valid) (order : lo ≤ now) :
    (b.refill lo).refill now = b.refill now := by
  have inflow := mul_nonneg (Quantity.seconds_nonneg (now - max b.refilledAt lo)) h.rate_nonneg
  have time : (Quantity.seconds (now - b.refilledAt) : ℚ) =
      Quantity.seconds (lo - b.refilledAt) + Quantity.seconds (now - max b.refilledAt lo) := by
    rw [← Quantity.seconds_add]
    congr 1
    grind
  have tokens : ((b.refill lo).refill now).tokens = (b.refill now).tokens := by
    rw [refill_tokens (h.refill lo).le_capacity, refill_tokens h.le_capacity,
      refill_tokens h.le_capacity, refill_limit, refill_refilledAt, time, add_mul, ← add_assoc]
    rcases min_cases (b.tokens + Quantity.seconds (lo - b.refilledAt) * b.limit.refillPerSecond)
      b.limit.capacity with ⟨hm, -⟩ | ⟨hm, above⟩
    · rw [hm]
    · rw [hm, min_eq_right (by linarith), min_eq_right (by linarith)]
  have at_ : ((b.refill lo).refill now).refilledAt = (b.refill now).refilledAt := by
    rw [refill_refilledAt, refill_refilledAt, refill_refilledAt, max_assoc, max_eq_right order]
  have limit : ((b.refill lo).refill now).limit = (b.refill now).limit := by
    simp only [refill_limit]
  exact Bucket.ext limit tokens at_

theorem Valid.spend (h : b.Valid) : b.spend.Valid where
  limit := h.limit
  nonneg := by rw [spend_tokens]; exact le_max_right _ _
  le_capacity := by
    have := h.nonneg
    have := h.le_capacity
    rw [spend_tokens, max_le_iff]
    change b.tokens - 1 ≤ b.limit.capacity ∧ 0 ≤ b.limit.capacity
    constructor <;> linarith

theorem updateLimit_of_error {fault : LimitFault} (hl : l.validate = .error fault) :
    b.updateLimit l now = .error fault := by
  simp [updateLimit, hl, Except.map]

theorem updateLimit_of_ok (hl : l.validate = .ok ()) :
    b.updateLimit l now =
      .ok { b.refill now with limit := l, tokens := min (b.refill now).tokens l.capacity } := by
  simp [updateLimit, hl, Except.map, Quantity.lesser_eq_min]

/-- What an accepted update leaves in the store. -/
theorem step_updateLimit_of_ok (hl : l.validate = .ok ()) :
    b.step now (.updateLimit l) =
      (.updated none, { b.refill now with
        limit := l, tokens := min (b.refill now).tokens l.capacity }) := by
  simp [step, updateLimit_of_ok hl]

/-- A refused update changes nothing. -/
theorem step_updateLimit_of_error {fault : LimitFault} (hl : l.validate = .error fault) :
    b.step now (.updateLimit l) = (.updated (some fault), b) := by
  simp [step, updateLimit_of_error hl]

theorem step_take_of_holds (h : (b.refill now).holdsToken = true) :
    b.step now .take = (.taken true, (b.refill now).spend) := by
  simp [step, take, h]

theorem step_take_of_short (h : (b.refill now).holdsToken = false) :
    b.step now .take = (.taken false, b.refill now) := by
  simp [step, take, h]

/-- Every operation keeps the store valid. -/
theorem Valid.step (h : b.Valid) (now : Instant) (op : Op ℚ) : (b.step now op).2.Valid := by
  cases op with
  | take =>
    cases ht : (b.refill now).holdsToken with
    | true => rw [step_take_of_holds ht]; exact (h.refill now).spend
    | false => rw [step_take_of_short ht]; exact h.refill now
  | available => exact h.refill now
  | updateLimit l =>
    cases hl : l.validate with
    | error fault => rw [step_updateLimit_of_error hl]; exact h
    | ok u =>
      rw [step_updateLimit_of_ok hl]
      have := (BucketLimit.validate_eq_ok_iff.1 hl).1
      exact ⟨hl, le_min (h.refill now).nonneg (by linarith), min_le_right _ _⟩
  | reset => exact ⟨h.limit, h.nonneg.trans h.le_capacity, le_refl _⟩

theorem Valid.run (h : b.Valid) (ops : List (Instant × Op ℚ)) : (b.run ops).2.Valid := by
  induction ops generalizing b with
  | nil => exact h
  | cons x ops ih => exact ih (h.step x.1 x.2)

/-! ## What an operation takes from the store -/

/-- What an admission costs at least: the token is full but for the slack. -/
def cost (reply : Reply ℚ) : ℚ := if reply.isAdmission then 1 - 1 / 1000000000 else 0

/-- An operation that reads the clock refills up to its reading and pays for an admission out of the
store. -/
theorem step_tokens_add_cost_le (b : Bucket ℚ) (now : Instant) (hop : op ≠ .reset)
    (hr : op.readsClock = true) :
    (b.step now op).2.refilledAt = max b.refilledAt now ∧
      (b.step now op).2.tokens + cost (b.step now op).1 ≤ (b.refill now).tokens := by
  cases op with
  | take =>
    cases ht : (b.refill now).holdsToken with
    | true =>
      rw [step_take_of_holds ht]
      refine ⟨refill_refilledAt b now, ?_⟩
      have full : 1 - 1 / 1000000000 ≤ (b.refill now).tokens := holdsToken_iff.1 ht
      change (b.refill now).spend.tokens + (1 - 1 / 1000000000) ≤ _
      rw [spend_tokens]
      rcases max_cases ((b.refill now).tokens - 1) 0 with ⟨h, _⟩ | ⟨h, _⟩ <;> rw [h] <;> linarith
    | false =>
      rw [step_take_of_short ht]
      exact ⟨refill_refilledAt b now, by simp [cost, Reply.isAdmission]⟩
  | available => exact ⟨refill_refilledAt b now, by simp [step, available, cost, Reply.isAdmission]⟩
  | updateLimit l =>
    cases hl : l.validate with
    | error fault => simp [Op.readsClock, hl, Except.isOk, Except.toBool] at hr
    | ok u =>
      rw [step_updateLimit_of_ok hl]
      exact ⟨refill_refilledAt b now, by simp [cost, Reply.isAdmission]⟩
  | reset => exact absurd rfl hop

/-- An operation that does not read the clock does nothing. -/
theorem step_of_not_readsClock (b : Bucket ℚ) (now : Instant) (hr : op.readsClock = false) :
    (b.step now op).2 = b ∧ (b.step now op).1.isAdmission = false := by
  cases op with
  | take | available | reset => simp [Op.readsClock] at hr
  | updateLimit l =>
    cases hl : l.validate with
    | error fault => rw [step_updateLimit_of_error hl]; exact ⟨rfl, rfl⟩
    | ok u => simp [Op.readsClock, hl, Except.isOk, Except.toBool] at hr

/-! ## The potential -/

/-- What the store holds at `lo`, and what flows in from then until `hi`. -/
def potential (b : Bucket ℚ) (lo hi : Instant) : ℚ :=
  (b.refill lo).tokens +
    Quantity.seconds (hi - max b.refilledAt lo) * b.limit.refillPerSecond

theorem potential_nonneg (h : b.Valid) (lo hi : Instant) : 0 ≤ b.potential lo hi :=
  add_nonneg (h.refill lo).nonneg (mul_nonneg (Quantity.seconds_nonneg _) h.rate_nonneg)

theorem potential_le (h : b.Valid) (lo hi : Instant) :
    b.potential lo hi ≤
      b.limit.capacity + b.limit.refillPerSecond * Quantity.seconds (hi - lo) := by
  have store : (b.refill lo).tokens ≤ b.limit.capacity := by
    have := (h.refill lo).le_capacity
    rwa [refill_limit] at this
  have time : (Quantity.seconds (hi - max b.refilledAt lo) : ℚ) ≤ Quantity.seconds (hi - lo) :=
    Quantity.seconds_mono (Nat.sub_le_sub_left (le_max_right _ _) hi)
  have inflow := mul_le_mul_of_nonneg_right time h.rate_nonneg
  rw [potential, mul_comm b.limit.refillPerSecond]
  linarith

/-- Looking at the store at a reading of the block does not raise what it can give: what flowed in
since `lo` is no more than what was counted for that time. -/
theorem refill_tokens_add_le (h : b.Valid) (hlo : lo ≤ now) (hhi : now ≤ hi) :
    (b.refill now).tokens +
        Quantity.seconds (hi - max b.refilledAt now) * b.limit.refillPerSecond ≤
      b.potential lo hi := by
  have later : (Quantity.seconds (hi - max b.refilledAt lo) : ℚ) =
      Quantity.seconds (now - max b.refilledAt lo) +
        Quantity.seconds (hi - max b.refilledAt now) := by
    rw [← Quantity.seconds_add]
    congr 1
    grind
  have step : (b.refill now).tokens ≤ (b.refill lo).tokens +
      Quantity.seconds (now - max b.refilledAt lo) * b.limit.refillPerSecond := by
    rw [← h.refill_refill hlo, refill_tokens (h.refill lo).le_capacity, refill_limit,
      refill_refilledAt]
    exact min_le_left _ _
  rw [potential, later, add_mul]
  linarith

/-- No operation raises the potential, and an admission lowers it by its cost. -/
theorem step_potential_le (h : b.Valid) (hop : op ≠ .reset)
    (hlim : (b.step now op).2.limit = b.limit)
    (hin : op.readsClock = true → lo ≤ now ∧ now ≤ hi) :
    cost (b.step now op).1 + (b.step now op).2.potential lo hi ≤ b.potential lo hi := by
  cases hr : op.readsClock with
  | false =>
    obtain ⟨same, quiet⟩ := step_of_not_readsClock b now hr
    rw [same]
    simp [cost, quiet]
  | true =>
    obtain ⟨hlo, hhi⟩ := hin hr
    obtain ⟨at', paid⟩ := step_tokens_add_cost_le b now hop hr
    have seen : lo ≤ (b.step now op).2.refilledAt := by
      rw [at']
      exact hlo.trans (le_max_right _ _)
    have counted := refill_tokens_add_le h hlo hhi
    rw [potential, refill_of_le seen, max_eq_left seen, hlim, at']
    linarith

/-- A block of operations admits at most what its bucket can give in the time of its readings. -/
theorem run_potential_le (h : b.Valid) {block : List (Instant × Op ℚ)}
    (hop : ∀ x ∈ block, x.2 ≠ .reset) (hlim : b.KeepsLimit block)
    (hin : ∀ t ∈ readings block, lo ≤ t ∧ t ≤ hi) :
    admissions (b.run block).1 * (1 - 1 / 1000000000) + (b.run block).2.potential lo hi ≤
      b.potential lo hi := by
  induction block generalizing b with
  | nil => simp [run, admissions]
  | cons x block ih =>
    obtain ⟨now, op⟩ := x
    have step : cost (b.step now op).1 + (b.step now op).2.potential lo hi ≤ b.potential lo hi :=
      step_potential_le h (hop _ List.mem_cons_self) hlim.1 fun hr =>
        hin now (by simp [readings, hr])
    have rest := ih (h.step now op) (fun y hy => hop y (List.mem_cons_of_mem _ hy)) hlim.2
      fun t ht => hin t (by
        rw [readings, List.filter_cons]
        split
        · exact List.mem_cons_of_mem _ ht
        · exact ht)
    have count : (admissions (b.run ((now, op) :: block)).1 : ℚ) * (1 - 1 / 1000000000) =
        cost (b.step now op).1 +
          admissions ((b.step now op).2.run block).1 * (1 - 1 / 1000000000) := by
      simp only [run, admissions, List.countP_cons, cost]
      split <;> push_cast <;> ring
    rw [count]
    change _ + ((b.step now op).2.run block).2.potential lo hi ≤ _
    linarith

/-- In every block of operations that leaves the limits as they are, the callers who got a token are
no more than the capacity and what flows in between the earliest and the latest clock reading of the
block, up to a billionth of a token for each. The bucket starts full, and nobody resets it; other
limits may have been in force before the block. -/
theorem admissions_mul_le {start : Instant} (hb : new l start = .ok b)
    {before block : List (Instant × Op ℚ)} (hop : ∀ x ∈ before ++ block, x.2 ≠ .reset)
    (hlim : (b.run before).2.KeepsLimit block) :
    (admissions ((b.run before).2.run block).1 : ℚ) * (1 - 1 / 1000000000) ≤
      (b.run before).2.limit.capacity +
        (b.run before).2.limit.refillPerSecond * Quantity.seconds
          (latest (readings block) - earliest (readings block)) := by
  have hv : (b.run before).2.Valid := (valid_of_new hb).run before
  have within : ∀ t ∈ readings block,
      earliest (readings block) ≤ t ∧ t ≤ latest (readings block) := fun t ht =>
    ⟨List.min?_getD_le_of_mem ht, List.le_max?_getD_of_mem ht⟩
  have kept : ∀ x ∈ block, x.2 ≠ .reset := fun x hx => hop x (List.mem_append_right before hx)
  have given := run_potential_le hv kept hlim within
  have left := potential_nonneg (hv.run block) (earliest (readings block)) (latest (readings block))
  have full := potential_le hv (earliest (readings block)) (latest (readings block))
  linarith

/-- Under limits that were lowered before the block, two of three callers get a token, although the
second one comes with a clock reading that is older than the first one's. -/
theorem admissions_mul_le_lowered :
    ∃ b : Bucket ℚ, new ⟨2, 1⟩ 0 = .ok b ∧
      let lowered := (b.run [(0, .updateLimit ⟨1, 1 / 2⟩)]).2
      let block : List (Instant × Op ℚ) :=
        [(3 * Duration.second, .take), (Duration.second, .take), (5 * Duration.second, .take)]
      (lowered.run block).1 = [.taken true, .taken false, .taken true] ∧
        (admissions (lowered.run block).1 : ℚ) * (1 - 1 / 1000000000) ≤
          lowered.limit.capacity + lowered.limit.refillPerSecond * Quantity.seconds
            (latest (readings block) - earliest (readings block)) := by
  refine ⟨⟨⟨2, 1⟩, 2, 0⟩, by decide +kernel, by decide +kernel, ?_⟩
  have full : new ⟨2, 1⟩ 0 = .ok (⟨⟨2, 1⟩, 2, 0⟩ : Bucket ℚ) := by decide +kernel
  refine admissions_mul_le full (by simp) ⟨?_, ?_, ?_, trivial⟩ <;> decide +kernel

end Registrar.Bucket
