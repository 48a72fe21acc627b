import Registrar.Proofs.Breaker.Slot

/-!
# The failure streak

The breaker keeps one number of its history. `streak b past` says which: the failures among the
calls that ended since the later of the last success and the last closing, read off the `log` of the
history. While closed the breaker counts exactly these and opens when they reach its limit; while it
is not closed only the probe of that period can change what it has counted.

Main statement: `failures_eq_streak`. The limits of the source are 32-bit numbers, so the counter
does not stop below them.
-/

namespace Registrar.Traffic

variable {b : Breaker} {l : BreakerLimit} {t : Tick} {past : List Tick} {c : CallId}
  {o p : Outcome} {a : Admission}

/-- The tick is the end of a running call that counts as `o`; a drop is no end in this sense. -/
def completes (s : Traffic) (t : Tick) (o : Outcome) : Bool :=
  match t.act with
  | .finish c o' =>
    match s.phase c with
    | .running _ => o' == o
    | _ => false
  | _ => false

/-- One tick of a history between the traffic before and after it. -/
structure Moment where
  tick : Tick
  before : Traffic
  after : Traffic

/-- The moments of a history, last first. -/
def log (b : Breaker) : List Tick → List Moment
  | [] => []
  | t :: past => ⟨t, play b past, play b (t :: past)⟩ :: log b past

namespace Moment

def completes (m : Moment) (o : Outcome) : Bool := m.before.completes m.tick o

def closes (m : Moment) : Bool :=
  m.before.breaker.mode != .closed && m.after.breaker.mode == .closed

end Moment

/-- The failures since the later of the last success and the last closing. -/
def streak (b : Breaker) (past : List Tick) : Nat :=
  ((log b past).takeWhile fun m => !(m.completes .success || m.closes)).countP (·.completes .failure)

def isShut (b : Breaker) : Bool := b.mode != .closed

/-! ## Completions -/

theorem completes_of_ending {s : Traffic} (act : t.act.ending = some (c, o))
    (phase : s.phase c = .running a) (hp : p ≠ .ignored) : s.completes t p = (o == p) := by
  cases ht : t.act with
  | finish d o₁ =>
    obtain ⟨rfl, rfl⟩ : d = c ∧ o₁ = o := by simpa [ht, Act.ending] using act
    simp [completes, ht, phase]
  | drop d =>
    obtain ⟨rfl, rfl⟩ : d = c ∧ .ignored = o := by simpa [ht, Act.ending] using act
    cases p <;> simp_all [completes]
  | enter d => simp [ht, Act.ending] at act
  | reset => simp [ht, Act.ending] at act

theorem completes_of_enter {s : Traffic} (act : t.act = .enter c) : s.completes t o = false := by
  simp [completes, act]

theorem completes_of_quiet {s : Traffic}
    (quiet : ∀ c o a, t.act.ending = some (c, o) → s.phase c ≠ .running a) :
    s.completes t o = false := by
  unfold completes
  split
  · next d o' act =>
    split
    · next a phase => exact absurd phase (quiet d o' a (by rw [act]; rfl))
    · rfl
  · rfl

/-- Only a call that is finished can end with an outcome that counts. -/
theorem finish_of_ending (act : t.act.ending = some (c, o)) (ho : o ≠ .ignored) :
    t.act = .finish c o := by
  cases ht : t.act with
  | finish d o₁ =>
    obtain ⟨rfl, rfl⟩ : d = c ∧ o₁ = o := by simpa [ht, Act.ending] using act
    rfl
  | drop d => simp [ht, Act.ending, ho.symm] at act
  | enter d => simp [ht, Act.ending] at act
  | reset => simp [ht, Act.ending] at act

theorem streak_cons (b : Breaker) (t : Tick) (past : List Tick) :
    streak b (t :: past) =
      if (play b past).completes t .success || Moment.closes ⟨t, play b past, play b (t :: past)⟩
      then 0
      else streak b past + if (play b past).completes t .failure then 1 else 0 := by
  simp only [streak, log, List.takeWhile_cons, Moment.completes]
  split <;> simp_all [List.countP_cons]

/-! ## In step -/

/-- A probe that succeeds while the breaker is open is one that interferes. -/
theorem not_success_of_undisturbed (hk : SlotKept b past) (hi : ¬Interferes b past t)
    (act : t.act.ending = some (c, o)) (phase : (play b past).HasProbe c)
    (hm : (play b past).breaker.mode = .opened) : o ≠ .success := by
  rintro rfl
  by_cases hf : (play b (upToReset past)).phase c = .ahead
  · have := (hk.current c ⟨phase, hf⟩).mode
    rw [hm] at this
    cases this
  · exact hi ⟨c, .success, act, ⟨phase, hf⟩, .inr ⟨hm, rfl⟩⟩

theorem inStep_of_undisturbed (hb : Breaker.new l = .ok b) (hl : l.maxFailures ≤ Decimal.max32)
    (h : Undisturbed b past) : (play b past).breaker.InStep := by
  have hpos : 0 < b.limit.maxFailures := by
    rw [Breaker.limit_of_new hb]
    exact Nat.pos_of_ne_zero (Breaker.new_eq_ok_iff.1 hb).1
  rw [← Breaker.limit_of_new hb] at hl
  induction past with
  | nil =>
    obtain ⟨_, _, rfl⟩ := Breaker.new_eq_ok_iff.1 hb
    simpa [Breaker.InStep, play] using hpos
  | cons t past ih =>
    have ih := ih h.tail
    have hc := change (play b past) t
    rw [play]
    generalize (play b past).step t = s at hc ⊢
    cases hc with
    | idle | refused | admitted => exact ih
    | probed c _ _ may =>
      have hm : (play b past).breaker.mode ≠ .closed := by
        rcases may with ⟨hm, _⟩ | ⟨hm, _⟩ <;> simp [hm]
      simpa [Breaker.InStep, hm] using ih
    | ended c a o act phase =>
      refine ih.settle (by rwa [play_limit]) (by rwa [play_limit]) ?_
      rintro rfl hm
      exact not_success_of_undisturbed (h.tail.slotKept hb) h.head act phase hm
    | reset => simpa [Breaker.InStep, Breaker.reset, play_limit] using hpos

/-! ## Histories without a reset -/

section

variable (hb : Breaker.new l = .ok b) (hr : ∀ u ∈ past, u.act ≠ .reset)
include hb hr

theorem current_of_hasProbe (hp : (play b past).HasProbe c) : Current b past c :=
  ((undisturbed_of_forall_ne hr).slotKept hb).current c ((fresh_iff_hasProbe hr).2 hp)

/-- While the breaker is closed, only ordinary calls run. -/
theorem normal_of_closed (hm : (play b past).breaker.mode = .closed)
    (phase : (play b past).phase c = .running a) : a = .normal := by
  cases a with
  | normal => rfl
  | probe =>
    have := (current_of_hasProbe hb hr phase).mode
    rw [hm] at this
    cases this

end

/-- While the breaker is closed, its count grows with each failure, starts over with each success
and stands still otherwise. -/
theorem step_of_closed (hb : Breaker.new l = .ok b) (hl : l.maxFailures ≤ Decimal.max32)
    (hr : ∀ u ∈ t :: past, u.act ≠ .reset) (hm : (play b past).breaker.mode = .closed) :
    (play b (t :: past)).breaker.failures =
        (if (play b past).completes t .success then 0
          else (play b past).breaker.failures +
            if (play b past).completes t .failure then 1 else 0) ∧
      (play b (t :: past)).breaker.mode =
        if (play b past).completes t .failure = true ∧
            (play b past).breaker.failures + 1 = l.maxFailures
        then .opened else .closed := by
  have hr' : ∀ u ∈ past, u.act ≠ .reset := fun u hu => hr u (List.mem_cons_of_mem t hu)
  have hlt : (play b past).breaker.failures < l.maxFailures := by
    have := (inStep_of_undisturbed hb hl (undisturbed_of_forall_ne hr')).1 hm
    rwa [play_limit, Breaker.limit_of_new hb] at this
  have hc := change (play b past) t
  rw [play]
  generalize (play b past).step t = s at hc ⊢
  cases hc with
  | idle _ quiet => simp [completes_of_quiet quiet, hm]
  | refused d act _ open_ => exact absurd hm open_
  | admitted d act => simp [completes_of_enter act, hm]
  | probed d _ _ may => rcases may with ⟨ho, _⟩ | ⟨ho, _⟩ <;> simp [hm] at ho
  | ended d a o act phase =>
    obtain rfl := normal_of_closed hb hr' hm phase
    rw [completes_of_ending act phase (p := .success) (by simp),
      completes_of_ending act phase (p := .failure) (by simp)]
    simp only [Breaker.settle_normal_of_closed hm]
    cases o with
    | success => simp [Breaker.count, Breaker.succeed, hm]
    | ignored => simp [Breaker.count, hm]
    | failure =>
      have hup := Breaker.countUp_of_lt (Nat.lt_of_lt_of_le hlt hl)
      simp only [Breaker.count, Breaker.fail, hm, play_limit, Breaker.limit_of_new hb, hup]
      simp only [beq_iff_eq, reduceCtorEq, ↓reduceIte, true_and]
      split <;> split <;> simp_all; omega
  | reset act => exact absurd act (hr t List.mem_cons_self)

/-- The circuit closes with an empty count. -/
theorem failures_of_closing (ht : t.act ≠ .reset) (hm : (play b past).breaker.mode ≠ .closed)
    (hm' : (play b (t :: past)).breaker.mode = .closed) :
    (play b (t :: past)).breaker.failures = 0 := by
  have hc := change (play b past) t
  rw [play] at hm' ⊢
  generalize (play b past).step t = s at hc hm' ⊢
  cases hc with
  | idle | refused | admitted => exact absurd hm' hm
  | probed => cases hm'
  | ended d a o =>
    cases a with
    | normal =>
      simp only [Breaker.settle_normal_of_ne hm] at hm'
      exact absurd hm' hm
    | probe =>
      cases o with
      | success => rfl
      | failure =>
        cases h : (play b past).breaker.mode <;>
          simp_all [Breaker.settle, Breaker.count, Breaker.fail]
      | ignored => exact absurd hm' hm
  | reset act => exact absurd act ht

theorem failures_eq_streak_of_closed (hb : Breaker.new l = .ok b)
    (hl : l.maxFailures ≤ Decimal.max32) (hr : ∀ u ∈ past, u.act ≠ .reset)
    (hm : (play b past).breaker.mode = .closed) :
    (play b past).breaker.failures = streak b past := by
  induction past with
  | nil =>
    obtain ⟨_, _, rfl⟩ := Breaker.new_eq_ok_iff.1 hb
    rfl
  | cons t past ih =>
    rw [streak_cons]
    by_cases hc : (play b past).breaker.mode = .closed
    · have ih := ih (fun u hu => hr u (List.mem_cons_of_mem t hu)) hc
      rw [(step_of_closed hb hl hr hc).1, ih]
      simp [Moment.closes, hc]
    · rw [failures_of_closing (hr t List.mem_cons_self) hc hm]
      simp [Moment.closes, hc, hm]

/-- While the breaker is not closed, what it has counted changes only when the probe of that period
brings an outcome. -/
theorem finish_of_change (hb : Breaker.new l = .ok b) (hr : ∀ u ∈ t :: past, u.act ≠ .reset)
    (hm : (play b past).breaker.mode ≠ .closed)
    (h : (play b (t :: past)).breaker.failures ≠ (play b past).breaker.failures ∨
      (play b (t :: past)).breaker.lastFailure ≠ (play b past).breaker.lastFailure) :
    ∃ c o, t.act = .finish c o ∧ (play b past).HasProbe c ∧
      (play b (before isShut b past)).phase c = .ahead := by
  have hr' : ∀ u ∈ past, u.act ≠ .reset := fun u hu => hr u (List.mem_cons_of_mem t hu)
  have hc := change (play b past) t
  rw [play] at h
  generalize (play b past).step t = s at hc h
  cases hc with
  | idle | refused | admitted | probed => simp at h
  | ended c a o act phase =>
    cases a with
    | normal => simp [Breaker.settle_normal_of_ne hm] at h
    | probe =>
      refine ⟨c, o, finish_of_ending act ?_, phase, ?_⟩
      · rintro rfl
        simp [Breaker.settle, Breaker.count] at h
      · have hs := before_suffix_before (p := isHalfOpen) (q := isShut)
          (by simp +contextual [isHalfOpen, isShut]) b past
        exact ahead_of_suffix hs (current_of_hasProbe hb hr' phase).2
  | reset act => exact absurd act (hr t List.mem_cons_self)

/-- Without resets: while the breaker is closed its count is the streak of its history, below the
limit, and it opens exactly at the failure that brings the streak to the limit; while it is not
closed the count has reached the limit, the last failure is known, and only the end of a probe
admitted in that period changes either. -/
theorem failures_eq_streak (hb : Breaker.new l = .ok b) (hl : l.maxFailures ≤ Decimal.max32)
    (hr : ∀ u ∈ t :: past, u.act ≠ .reset) :
    ((play b past).breaker.mode = .closed →
      (play b past).breaker.failures = streak b past ∧ streak b past < l.maxFailures ∧
      (play b (t :: past)).breaker.mode =
        if (play b past).completes t .failure = true ∧ streak b past + 1 = l.maxFailures
        then .opened else .closed) ∧
    ((play b past).breaker.mode ≠ .closed →
      l.maxFailures ≤ (play b past).breaker.failures ∧
      (play b past).breaker.lastFailure ≠ none ∧
      ((play b (t :: past)).breaker.failures ≠ (play b past).breaker.failures ∨
          (play b (t :: past)).breaker.lastFailure ≠ (play b past).breaker.lastFailure →
        ∃ c o, t.act = .finish c o ∧ (play b past).HasProbe c ∧
          (play b (before isShut b past)).phase c = .ahead)) := by
  have hr' : ∀ u ∈ past, u.act ≠ .reset := fun u hu => hr u (List.mem_cons_of_mem t hu)
  have inStep := inStep_of_undisturbed hb hl (undisturbed_of_forall_ne hr')
  rw [Breaker.InStep, play_limit, Breaker.limit_of_new hb] at inStep
  refine ⟨fun hm => ?_, fun hm => ⟨?_, ?_, finish_of_change hb hr hm⟩⟩
  · have he := failures_eq_streak_of_closed hb hl hr' hm
    rw [← he]
    exact ⟨rfl, inStep.1 hm, (step_of_closed hb hl hr hm).2⟩
  · exact Nat.le_of_not_lt fun h => hm (inStep.2 h)
  · exact play_dated (fun h => absurd (Breaker.closed_of_new hb) h) past hm

/-- Two calls fail at once: the first failure is the whole streak, the second opens the breaker. -/
theorem opened_at_second_failure :
    let b : Breaker := ⟨⟨2, 10⟩, .closed, 0, none, false, 0, 0⟩
    let past : List Tick :=
      [⟨5, 5, .finish 0 .failure⟩, ⟨1, 1, .enter 1⟩, ⟨0, 0, .enter 0⟩]
    Breaker.new ⟨2, 10⟩ = .ok b ∧ (2 : Nat) ≤ Decimal.max32 ∧
      (∀ u ∈ (⟨6, 6, .finish 1 .failure⟩ : Tick) :: past, u.act ≠ .reset) ∧
      (play b past).breaker.mode = .closed ∧ (play b past).breaker.failures = streak b past ∧
      (play b (⟨6, 6, .finish 1 .failure⟩ :: past)).breaker.mode = .opened := by
  intro b past
  have hr : ∀ u ∈ (⟨6, 6, .finish 1 .failure⟩ : Tick) :: past, u.act ≠ .reset := by decide
  have h := failures_eq_streak (l := ⟨2, 10⟩) (b := b) rfl (by decide) hr
  exact ⟨rfl, by decide, hr, rfl, (h.1 rfl).1, (h.1 rfl).2.2⟩

end Registrar.Traffic
