import Registrar.Proofs.Breaker.Streak

/-!
# Calls that outlive an opening

A call that was admitted before the breaker opened is a latecomer from then on: it may end while the
breaker is open, while a probe is out, or after a probe has closed the breaker again. Its end should
say nothing any more, and while the breaker is not closed it does not. But a permit does not tell in
which period it was given, so in a breaker that has closed again a latecomer counts like a new call.

Main statement: `unmoved_iff_of_outlived`, which ends of latecomers leave the breaker as it was.
-/

namespace Registrar.Traffic

variable {b : Breaker} {l : BreakerLimit} {t : Tick} {past earlier : List Tick} {c : CallId}
  {o : Outcome} {a : Admission}

/-- The tick opens the breaker, from the closed or the half-open mode. -/
def Opens (b : Breaker) (past : List Tick) (t : Tick) : Prop :=
  (play b past).breaker.mode ≠ .opened ∧ (play b (t :: past)).breaker.mode = .opened

/-- The call was admitted before the breaker opened at a tick of the history, and it still runs. -/
def Outlived (b : Breaker) (past : List Tick) (c : CallId) : Prop :=
  (∃ a, (play b past).phase c = .running a) ∧
    ∃ t earlier, t :: earlier <:+ past ∧ Opens b earlier t ∧ (play b earlier).phase c ≠ .ahead

/-- The tick changes neither the mode of the breaker nor what it has counted. -/
def Unmoved (b : Breaker) (past : List Tick) (t : Tick) : Prop :=
  (play b (t :: past)).breaker.mode = (play b past).breaker.mode ∧
    (play b (t :: past)).breaker.failures = (play b past).breaker.failures ∧
    (play b (t :: past)).breaker.lastFailure = (play b past).breaker.lastFailure

/-- The present stretch of a property begins after every state without it. -/
theorem suffix_before_of_neg {p : Breaker → Bool} (hs : earlier <:+ past)
    (h : p (play b earlier).breaker = false) : earlier <:+ before p b past := by
  induction past with
  | nil => exact hs
  | cons t past ih =>
    rcases List.suffix_cons_iff.1 hs with rfl | hs
    · simp [before_of_neg h]
    · cases hp : p (play b (t :: past)).breaker with
      | true =>
        rw [before_cons_of_pos hp]
        exact ih hs
      | false =>
        rw [before_of_neg hp]
        exact hs.trans (List.suffix_cons t past)

section

variable (hb : Breaker.new l = .ok b) (hr : ∀ u ∈ past, u.act ≠ .reset)
include hb hr

/-- A probe that is out was admitted after the last opening, so a latecomer is an ordinary call. -/
theorem normal_of_outlived (hc : Outlived b past c) (phase : (play b past).phase c = .running a) :
    a = .normal := by
  cases a with
  | normal => rfl
  | probe =>
    obtain ⟨-, t, earlier, hs, ⟨-, opened⟩, made⟩ := hc
    have hcur : Current b past c := current_of_hasProbe hb hr phase
    have hs' : t :: earlier <:+ before isHalfOpen b past :=
      suffix_before_of_neg hs (by simp [isHalfOpen, opened])
    have ahead : (play b earlier).phase c = .ahead := ahead_of_step (ahead_of_suffix hs' hcur.2)
    exact absurd ahead made

/-- While the breaker is not closed, a latecomer ends without a trace. -/
theorem unmoved_of_not_closed (hc : Outlived b past c) (act : t.act.ending = some (c, o))
    (hm : (play b past).breaker.mode ≠ .closed) : Unmoved b past t := by
  obtain ⟨a, phase⟩ := hc.1
  obtain rfl := normal_of_outlived hb hr hc phase
  have hs : play b (t :: past) = _ := step_of_ending act phase
  rw [Breaker.settle_normal_of_ne hm] at hs
  unfold Unmoved
  rw [hs]
  exact ⟨rfl, rfl, rfl⟩

/-- While the breaker is closed, a latecomer counts like any call that was admitted since. -/
theorem unmoved_iff_of_closed (hl : l.maxFailures ≤ Decimal.max32) (hc : Outlived b past c)
    (act : t.act.ending = some (c, o)) (hm : (play b past).breaker.mode = .closed) :
    Unmoved b past t ↔ o = .ignored ∨ o = .success ∧ (play b past).breaker.failures = 0 := by
  obtain ⟨a, phase⟩ := hc.1
  obtain rfl := normal_of_outlived hb hr hc phase
  have hs : play b (t :: past) = _ := step_of_ending act phase
  rw [Breaker.settle_normal_of_closed hm] at hs
  unfold Unmoved
  rw [hs]
  cases o with
  | success => simp [Breaker.count, Breaker.succeed, hm, eq_comm]
  | failure =>
    have inStep := inStep_of_undisturbed hb hl (undisturbed_of_forall_ne hr)
    rw [Breaker.InStep, play_limit, Breaker.limit_of_new hb] at inStep
    have below : (play b past).breaker.failures < l.maxFailures := inStep.1 hm
    have up := Breaker.countUp_of_lt (Nat.lt_of_lt_of_le below hl)
    simp [Breaker.count, Breaker.fail, up]
  | ignored => simp [Breaker.count]

end

/-- In a history without resets, the end of a call that was admitted before the breaker opened
leaves mode, count and last failure as they were exactly while the breaker has not closed again, or
if the call is ignored or dropped, or if it succeeds while nothing is counted. -/
theorem unmoved_iff_of_outlived (hb : Breaker.new l = .ok b) (hl : l.maxFailures ≤ Decimal.max32)
    (hr : ∀ u ∈ past, u.act ≠ .reset) (hc : Outlived b past c)
    (act : t.act.ending = some (c, o)) :
    Unmoved b past t ↔
      (play b past).breaker.mode ≠ .closed ∨ o = .ignored ∨
        o = .success ∧ (play b past).breaker.failures = 0 := by
  by_cases hm : (play b past).breaker.mode = .closed
  · rw [unmoved_iff_of_closed hb hr hl hc act hm]
    simp [hm]
  · exact iff_of_true (unmoved_of_not_closed hb hr hc act hm) (.inl hm)

/-- A call admitted before the opening fails while the probe of the next period is out: nothing
changes. -/
theorem unmoved_while_probing :
    let b : Breaker := ⟨⟨1, 10⟩, .closed, 0, none, false, 0, 0⟩
    let past : List Tick :=
      [⟨11, 11, .enter 2⟩, ⟨0, 0, .finish 1 .failure⟩, ⟨0, 0, .enter 1⟩, ⟨0, 0, .enter 0⟩]
    Breaker.new ⟨1, 10⟩ = .ok b ∧ (1 : Nat) ≤ Decimal.max32 ∧ (∀ u ∈ past, u.act ≠ .reset) ∧
      Outlived b past 0 ∧ Unmoved b past ⟨12, 12, .finish 0 .failure⟩ := by
  intro b past
  have hr : ∀ u ∈ past, u.act ≠ .reset := by decide
  have hc : Outlived b past 0 :=
    ⟨⟨.normal, rfl⟩, ⟨0, 0, .finish 1 .failure⟩, _, List.suffix_cons _ _, ⟨by decide, rfl⟩,
      by decide⟩
  exact ⟨rfl, by decide, hr, hc,
    (unmoved_iff_of_outlived (l := ⟨1, 10⟩) rfl (by decide) hr hc rfl).2 (.inl (by decide))⟩

/-- The probe has closed the breaker when a call from before the opening fails: the breaker opens
again, with no call of the new period having failed. -/
theorem reopened_by_latecomer :
    let b : Breaker := ⟨⟨1, 10⟩, .closed, 0, none, false, 0, 0⟩
    let past : List Tick :=
      [⟨11, 11, .finish 2 .success⟩, ⟨11, 11, .enter 2⟩, ⟨0, 0, .finish 1 .failure⟩,
        ⟨0, 0, .enter 1⟩, ⟨0, 0, .enter 0⟩]
    Breaker.new ⟨1, 10⟩ = .ok b ∧ (∀ u ∈ past, u.act ≠ .reset) ∧ Outlived b past 0 ∧
      (play b past).breaker.mode = .closed ∧
      (play b (⟨12, 12, .finish 0 .failure⟩ :: past)).breaker.mode = .opened ∧
      ¬Unmoved b past ⟨12, 12, .finish 0 .failure⟩ := by
  intro b past
  have hc : Outlived b past 0 :=
    ⟨⟨.normal, rfl⟩, ⟨0, 0, .finish 1 .failure⟩, [⟨0, 0, .enter 1⟩, ⟨0, 0, .enter 0⟩],
      ⟨[⟨11, 11, .finish 2 .success⟩, ⟨11, 11, .enter 2⟩], rfl⟩, ⟨by decide, rfl⟩, by decide⟩
  exact ⟨rfl, by decide, hc, rfl, rfl, fun h => absurd h.1 (by decide)⟩

end Registrar.Traffic
