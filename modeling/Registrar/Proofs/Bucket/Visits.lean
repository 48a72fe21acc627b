import Registrar.Proofs.Bucket.Admission
import Registrar.Proofs.Client.Questions

/-!
# Callers who leave no trace

A bucket has many callers, each with one call of its own, and `Bucket.log` lists what they hear of
it, visit by visit. A caller who looks at the store, or who tries or waits for a token and gets
none, is `Idle`: it has the bucket refilled and no more, and a refill in between does not show in a
later one (`Valid.refill_refill`). So two buckets that `Agree` on their refills go on alike, and the
other callers hear what they hear when the idle ones stay away.

Main statement: `log_filter_of_idle`.
-/

namespace Registrar.Bucket

open Dialogue

/-! ## Visits -/

section

variable {α : Type} [Quantity α]

/-- What a caller hears; who wants a token is told how long to wait if there is none. -/
abbrev Op.Answer : Op α → Type
  | .take => Option Duration
  | .available => α
  | .updateLimit _ => Option LimitFault
  | .reset => Unit

instance [DecidableEq α] : (op : Op α) → DecidableEq op.Answer
  | .take => inferInstanceAs (DecidableEq (Option Duration))
  | .available => inferInstanceAs (DecidableEq α)
  | .updateLimit _ => inferInstanceAs (DecidableEq (Option LimitFault))
  | .reset => inferInstanceAs (DecidableEq Unit)

/-- An operation and what the caller hears. -/
abbrev Heard (α : Type) [Quantity α] := Exchange (Op α) Op.Answer

/-- One operation of a caller at its clock reading. -/
structure Visit (α : Type) where
  caller : ℕ
  reading : Instant
  op : Op α
  deriving DecidableEq, Repr

/-- Answers an operation. -/
def serve (b : Bucket α) (now : Instant) : (op : Op α) → op.Answer × Bucket α
  | .take => b.request now
  | .available => b.available now
  | .updateLimit l =>
    match b.updateLimit l now with
    | .ok b => (none, b)
    | .error fault => (some fault, b)
  | .reset => ((), b.reset now)

/-- What the callers hear, visit by visit. -/
def log (b : Bucket α) : List (Visit α) → List (ℕ × Heard α)
  | [] => []
  | v :: visits =>
    (v.caller, ⟨v.op, (b.serve v.reading v.op).1⟩) :: (b.serve v.reading v.op).2.log visits

/-- The bucket after some visits. -/
def after (b : Bucket α) : List (Visit α) → Bucket α
  | [] => b
  | v :: visits => (b.serve v.reading v.op).2.after visits

/-- What one caller hears. -/
def heardBy (caller : ℕ) (log : List (ℕ × Heard α)) : List (Heard α) :=
  (log.filter (·.1 = caller)).map Prod.snd

theorem mem_heardBy {x : ℕ × Heard α} {log : List (ℕ × Heard α)} (h : x ∈ log) :
    x.2 ∈ heardBy x.1 log :=
  List.mem_map_of_mem (List.mem_filter.2 ⟨h, decide_eq_true rfl⟩)

theorem exists_of_mem_log {b : Bucket α} {visits : List (Visit α)} {x : ℕ × Heard α}
    (h : x ∈ b.log visits) : ∃ v ∈ visits, v.caller = x.1 := by
  induction visits generalizing b with
  | nil => exact nomatch h
  | cons v visits ih =>
    obtain rfl | h := List.mem_cons.1 h
    · exact ⟨v, List.mem_cons_self, rfl⟩
    · obtain ⟨u, hu, same⟩ := ih h
      exact ⟨u, List.mem_cons_of_mem v hu, same⟩

theorem serve_snd (b : Bucket α) (now : Instant) (op : Op α) :
    (b.serve now op).2 = (b.step now op).2 := by
  cases op with
  | take => rw [step_take_eq_request]; rfl
  | available | reset => rfl
  | updateLimit l =>
    simp only [serve, step]
    cases b.updateLimit l now <;> rfl

theorem request_of_holds {b : Bucket α} {now : Instant} (h : (b.refill now).holdsToken = true) :
    b.request now = (none, (b.refill now).spend) := by
  simp [request, take, h]

theorem request_of_short {b : Bucket α} {now : Instant} (h : (b.refill now).holdsToken = false) :
    b.request now = (some (b.refill now).wait, b.refill now) := by
  simp [request, take, h]

end

/-! ## Idle callers -/

section

variable {α : Type} [Quantity α]

/-- What was asked of the bucket among all that a caller asked. -/
def toBucket (events : List (Task.Event (Op α) Op.Answer)) : List (Heard α) :=
  events.filterMap fun
    | ⟨.other op, answer⟩ => some ⟨op, answer⟩
    | _ => none

/-- What a caller hears who looks at the store, who tries for a token and is refused, or who waits
for one and ends with an error. -/
inductive Idle : List (Heard α) → Prop
  | looked (amount : α) : Idle [⟨.available, amount⟩]
  | refused (wait : Duration) : Idle [⟨.take, some wait⟩]
  | failed {waits : ℕ} {events : List (Task.Event (Op α) Op.Answer)} {refusal : SlotRefusal}
      (h : Runs (Limiter.acquire (Task.other Op.take) waits) events (.error refusal)) :
      Idle (toBucket events)

/-- A look at the store, or a token that was not there. -/
def OnlyRefills : Heard α → Prop
  | ⟨.available, _⟩ => True
  | ⟨.take, wait⟩ => Option.isSome wait
  | ⟨.updateLimit _, _⟩ | ⟨.reset, _⟩ => False

theorem toBucket_append (before after : List (Task.Event (Op α) Op.Answer)) :
    toBucket (before ++ after) = toBucket before ++ toBucket after :=
  List.filterMap_append

theorem toBucket_of_toCaller {events : List (Task.Event (Op α) Op.Answer)}
    (h : ∀ e ∈ events, e.1.ToCaller) : toBucket events = [] := by
  refine List.filterMap_eq_nil_iff.2 fun e he => ?_
  obtain ⟨q, r⟩ := e
  cases q with
  | cancelled | timeLeft | pause => rfl
  | other op => exact (h _ he).elim

/-- Who waits for a token and ends with an error was refused whenever it tried. -/
theorem onlyRefills_of_runs {waits : ℕ} {events : List (Task.Event (Op α) Op.Answer)}
    {refusal : SlotRefusal}
    (h : Runs (Limiter.acquireWithin (Task.other Op.take) waits) events (.error refusal)) :
    ∀ x ∈ toBucket events, OnlyRefills x := by
  have quiet {γ : Type} {d : Task (Op α) Op.Answer γ} {events} {a : γ}
      (asks : d.AsksOnly Ask.ToCaller) (runs : Runs d events a) : toBucket events = [] :=
    toBucket_of_toCaller (asks.of_reaches (runs_iff_reaches_done.1 runs)).1
  induction waits generalizing events with
  | zero =>
    obtain ⟨rfl, -⟩ := runs_done_iff.1 h
    nofun
  | succ waits ih =>
    rw [acquireWithin_succ] at h
    obtain ⟨checked, rest, i, rfl, check, tries⟩ := runs_andThen_iff.1 h
    rw [toBucket_append, quiet (check_asksOnly trivial trivial) check, List.nil_append]
    cases i with
    | some cause =>
      obtain ⟨rfl, -⟩ := runs_done_iff.1 tries
      nofun
    | none =>
      obtain ⟨wait, later, rfl, told⟩ := runs_ask_iff.1 tries
      cases wait with
      | none => exact nomatch (runs_done_iff.1 told).2
      | some wait =>
        refine List.forall_mem_cons.2 ⟨rfl, ?_⟩
        obtain ⟨left, later, rfl, sleeps⟩ := runs_ask_iff.1 told
        by_cases late : left.any (· < wait) = true
        · rw [if_pos late] at sleeps
          obtain ⟨rfl, -⟩ := runs_done_iff.1 sleeps
          nofun
        · rw [if_neg late] at sleeps
          obtain ⟨slept, later, i, rfl, sleep, again⟩ := runs_andThen_iff.1 sleeps
          have asks : (Task.sleep wait : Task (Op α) Op.Answer _).AsksOnly Ask.ToCaller :=
            sleep_asksOnly trivial trivial (fun _ => trivial) wait
          change ∀ x ∈ toBucket (slept ++ later), OnlyRefills x
          rw [toBucket_append, quiet asks sleep, List.nil_append]
          cases i with
          | some cause =>
            obtain ⟨rfl, -⟩ := runs_done_iff.1 again
            nofun
          | none => exact ih again

theorem Idle.onlyRefills {heard : List (Heard α)} (h : Idle heard) :
    ∀ x ∈ heard, OnlyRefills x := by
  cases h with
  | looked amount => simp [OnlyRefills]
  | refused wait => simp [OnlyRefills]
  | failed h => exact onlyRefills_of_runs h

theorem serve_of_onlyRefills {b : Bucket α} {now : Instant} {op : Op α}
    (h : OnlyRefills ⟨op, (b.serve now op).1⟩) : (b.serve now op).2 = b.refill now := by
  cases op with
  | take =>
    change (b.request now).1.isSome = true at h
    change (b.request now).2 = b.refill now
    cases ht : (b.refill now).holdsToken with
    | true => simp [request_of_holds ht] at h
    | false => rw [request_of_short ht]
  | available => rfl
  | updateLimit | reset => exact h.elim

end

/-! ## Buckets that agree -/

variable {a b : Bucket ℚ} {l : BucketLimit ℚ} {t now start : Instant}

theorem Valid.serve (h : b.Valid) (now : Instant) (op : Op ℚ) : (b.serve now op).2.Valid := by
  rw [serve_snd]
  exact h.step now op

theorem Valid.after (h : b.Valid) (visits : List (Visit ℚ)) : (b.after visits).Valid := by
  induction visits generalizing b with
  | nil => exact h
  | cons v visits ih => exact ih (h.serve v.reading v.op)

theorem refilledAt_serve_le (order : b.refilledAt ≤ t) (past : now ≤ t)
    (op : Op ℚ) : (b.serve now op).2.refilledAt ≤ t := by
  rw [serve_snd]
  by_cases hop : op = .reset
  · subst hop
    exact past
  · cases hr : op.readsClock with
    | false => rwa [(step_of_not_readsClock b now hr).1]
    | true =>
      rw [(step_tokens_add_cost_le b now hop hr).1]
      exact max_le order past

/-- A bucket is refilled up to the clock readings that were taken. -/
theorem refilledAt_after_le (order : b.refilledAt ≤ t) {visits : List (Visit ℚ)}
    (past : ∀ v ∈ visits, v.reading ≤ t) : (b.after visits).refilledAt ≤ t := by
  induction visits generalizing b with
  | nil => exact order
  | cons v visits ih =>
    obtain ⟨here, later⟩ := List.forall_mem_cons.1 past
    exact ih (refilledAt_serve_le order here v.op) later

/-- From `t` on the two stores are refilled to the same. -/
def Agree (t : Instant) (a b : Bucket ℚ) : Prop :=
  ∀ now, t ≤ now → a.refill now = b.refill now

theorem Agree.limit (h : Agree t a b) : a.limit = b.limit := by
  rw [← refill_limit a t, h t le_rfl, refill_limit]

theorem Agree.later (h : Agree t a b) (order : t ≤ now) : Agree now a b :=
  fun next hn => h next (order.trans hn)

theorem Agree.refill (h : Agree t a b) (valid : a.Valid) (order : t ≤ now) :
    Agree now (a.refill now) b := by
  intro next hn
  rw [valid.refill_refill hn]
  exact h next (order.trans hn)

/-- Buckets that agree give the same answer, and agree ever after. -/
theorem Agree.serve (h : Agree t a b) (order : t ≤ now) (op : Op ℚ) :
    (a.serve now op).1 = (b.serve now op).1 ∧ Agree now (a.serve now op).2 (b.serve now op).2 := by
  have refilled := h now order
  cases op with
  | take =>
    have same : a.request now = b.request now := by
      simp only [request, Bucket.take, refilled]
    change (a.request now).1 = (b.request now).1 ∧ Agree now (a.request now).2 (b.request now).2
    rw [same]
    exact ⟨rfl, fun _ _ => rfl⟩
  | available =>
    change (a.refill now).tokens = (b.refill now).tokens ∧ Agree now (a.refill now) (b.refill now)
    rw [refilled]
    exact ⟨rfl, fun _ _ => rfl⟩
  | updateLimit l =>
    simp only [Bucket.serve, updateLimit, refilled]
    cases l.validate with
    | error fault => exact ⟨rfl, h.later order⟩
    | ok u => exact ⟨rfl, fun _ _ => rfl⟩
  | reset =>
    have same : a.reset now = b.reset now := by
      simp only [reset, h.limit]
    exact ⟨rfl, fun next _ => congrArg (Bucket.refill · next) same⟩

/-! ## Logs without some callers -/

/-- The callers who stay, in one bucket, hear what they hear in the other one beside callers who
only have it refilled. -/
theorem Agree.log_filter (h : Agree t a b) (valid : a.Valid) {visits : List (Visit ℚ)}
    (inOrder : (t :: visits.map Visit.reading).Pairwise (· ≤ ·)) {extra : ℕ → Bool}
    (idle : ∀ x ∈ a.log visits, extra x.1 = true → OnlyRefills x.2) :
    b.log (visits.filter (!extra ·.caller)) = (a.log visits).filter (!extra ·.1) ∧
      ∀ now, t ≤ now → (∀ v ∈ visits, v.reading ≤ now) →
        (b.after (visits.filter (!extra ·.caller))).refill now = (a.after visits).refill now := by
  induction visits generalizing a b t with
  | nil => exact ⟨rfl, fun now order _ => (h now order).symm⟩
  | cons v visits ih =>
    obtain ⟨first, rest⟩ := List.pairwise_cons.1 inOrder
    have order : t ≤ v.reading := first _ List.mem_cons_self
    have idle' := List.forall_mem_cons.1 idle
    cases away : extra v.caller with
    | true =>
      have spared := serve_of_onlyRefills (idle'.1 away)
      have next : Agree v.reading (a.serve v.reading v.op).2 b := by
        rw [spared]
        exact h.refill valid order
      obtain ⟨same, store⟩ := ih next (valid.serve _ _) rest idle'.2
      rw [List.filter_cons_of_neg (by simp [away]), log,
        List.filter_cons_of_neg (by simp [away])]
      refine ⟨same, fun now _ last => ?_⟩
      obtain ⟨here, last⟩ := List.forall_mem_cons.1 last
      exact store now here last
    | false =>
      obtain ⟨answer, next⟩ := h.serve order v.op
      obtain ⟨same, store⟩ := ih next (valid.serve _ _) rest idle'.2
      rw [List.filter_cons_of_pos (by simp [away]), log, log,
        List.filter_cons_of_pos (by simp [away]), same, answer]
      refine ⟨rfl, fun now _ last => ?_⟩
      obtain ⟨here, last⟩ := List.forall_mem_cons.1 last
      exact store now here last

/-- Idle callers change nothing for the others: in the run without them everybody else hears the
same, admissions, waits and token counts included, and at any later reading the store is the same.
The run begins with a new bucket, and the clock readings are in order. -/
theorem log_filter_of_idle (hb : new l start = .ok b) {visits : List (Visit ℚ)}
    (inOrder : (start :: visits.map Visit.reading).Pairwise (· ≤ ·)) {extra : ℕ → Bool}
    (idle : ∀ v ∈ visits, extra v.caller = true → Idle (heardBy v.caller (b.log visits))) :
    b.log (visits.filter (!extra ·.caller)) = (b.log visits).filter (!extra ·.1) ∧
      ∀ now, start ≤ now → (∀ v ∈ visits, v.reading ≤ now) →
        (b.after (visits.filter (!extra ·.caller))).refill now = (b.after visits).refill now := by
  refine Agree.log_filter (fun _ _ => rfl) (valid_of_new hb) inOrder fun x hx away => ?_
  obtain ⟨v, hv, caller⟩ : ∃ v ∈ visits, v.caller = x.1 := exists_of_mem_log hx
  exact (caller ▸ idle v hv (caller ▸ away)).onlyRefills x.2 (mem_heardBy hx)

/-- Callers 1, 2 and 5 get nothing: one waits in vain, one looks at the store and one is refused. -/
def sevenVisits : List (Visit ℚ) :=
  [⟨0, 0, .take⟩, ⟨1, Duration.ofMillis 500, .take⟩, ⟨2, Duration.ofMillis 600, .available⟩,
    ⟨3, Duration.ofMillis 800, .updateLimit ⟨2, 2⟩⟩, ⟨4, Duration.ofMillis 900, .take⟩,
    ⟨5, Duration.ofMillis 900, .take⟩, ⟨6, Duration.ofMillis 1400, .take⟩]

/-- Without three idle callers, before and after a change of the limits, the last one gets its token
all the same. -/
theorem log_filter_of_three_idle :
    ∃ b : Bucket ℚ, new ⟨1, 1⟩ 0 = .ok b ∧
      let extra : ℕ → Bool := [1, 2, 5].contains
      b.log (sevenVisits.filter (!extra ·.caller)) = (b.log sevenVisits).filter (!extra ·.1) ∧
        heardBy 6 (b.log sevenVisits) = [⟨.take, none⟩] := by
  have full : new ⟨1, 1⟩ 0 = .ok (⟨⟨1, 1⟩, 1, 0⟩ : Bucket ℚ) := by decide +kernel
  have late : Runs (Limiter.acquire (Task.other (A := Op.Answer) (Op.take : Op ℚ)) 1)
      [⟨.cancelled, false⟩, ⟨.timeLeft, some Duration.millisecond⟩,
        ⟨.other .take, some (Duration.ofMillis 500)⟩, ⟨.timeLeft, some Duration.millisecond⟩]
      (.error (.tooLate (Duration.ofMillis 500))) := by
    apply Runs.ask
    apply Runs.ask
    apply Runs.ask
    apply Runs.ask
    exact Runs.done _
  have waited : heardBy 1 (log ⟨⟨1, 1⟩, 1, 0⟩ sevenVisits) =
      [⟨.take, some (Duration.ofMillis 500)⟩] := by decide +kernel
  have looked : heardBy 2 (log ⟨⟨1, 1⟩, 1, 0⟩ sevenVisits) = [⟨.available, 3 / 5⟩] := by
    decide +kernel
  have tried : heardBy 5 (log ⟨⟨1, 1⟩, 1, 0⟩ sevenVisits) =
      [⟨.take, some (Duration.ofMillis 500)⟩] := by decide +kernel
  refine ⟨_, full, (log_filter_of_idle full (by decide) fun v hv away => ?_).1, by decide +kernel⟩
  have extra : v.caller = 1 ∨ v.caller = 2 ∨ v.caller = 5 := by simpa using away
  obtain h | h | h := extra
  · rw [h, waited]
    exact .failed late
  · rw [h, looked]
    exact .looked _
  · rw [h, tried]
    exact .refused _

end Registrar.Bucket
