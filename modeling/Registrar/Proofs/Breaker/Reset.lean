import Registrar.Proofs.Breaker.Streak

/-!
# Resets while calls are out

A reset closes the breaker but cannot recall the permits that are out, and a permit does not say to
which period it belongs. A probe that was out at the reset therefore settles like a probe of the
period it ends in: it may free the slot of the present probe, decide in its place, or clear the
streak of a breaker that is open.

`Respected` is what a tick should leave intact. Main statement: `respected_iff_undisturbed`, every
tick of a history does so exactly when none of them is an interference of such a probe.
-/

namespace Registrar.Traffic

variable {b : Breaker} {l : BreakerLimit} {t : Tick} {past : List Tick} {c : CallId} {o : Outcome}

/-- A tick respects the present half-open period: a stale probe neither frees nor decides the slot
of a present one, no two present probes are out, only a present probe or a reset ends the period,
and a breaker that is open has reached its limit. -/
structure Respected (b : Breaker) (past : List Tick) (t : Tick) : Prop where
  slot : ∀ c d o, t.act.ending = some (c, o) → Stale b past c → Current b past d →
    (play b (t :: past)).breaker.probing = true ∧ (play b (t :: past)).breaker.mode = .halfOpen
  single : ∀ c d, Current b (t :: past) c → Current b (t :: past) d → c = d
  verdict : (play b past).breaker.mode = .halfOpen → (play b (t :: past)).breaker.mode ≠ .halfOpen →
    t.act = .reset ∨ ∃ c o, t.act = .finish c o ∧ Current b past c
  full : (play b (t :: past)).breaker.mode = .opened →
    b.limit.maxFailures ≤ (play b (t :: past)).breaker.failures

/-- What an outcome of a probe does to a half-open breaker. -/
theorem settle_probe_mode {br : Breaker} {now : Instant} (hm : br.mode = .halfOpen) :
    (br.settle now .probe o).mode = .halfOpen ↔ o = .ignored := by
  cases o <;> simp [Breaker.settle, Breaker.count, Breaker.succeed, Breaker.fail, hm]

theorem respected_of_undisturbed (hb : Breaker.new l = .ok b) (hl : l.maxFailures ≤ Decimal.max32)
    (h : Undisturbed b (t :: past)) : Respected b past t where
  slot c d o act hc hd := by
    have taken := (h.tail.slotKept hb).taken d hd.fresh
    exact absurd ⟨c, o, act, hc, .inl ⟨hd.mode, .inl taken⟩⟩ h.head
  single c d hc hd := (h.slotKept hb).unique c d hc.fresh hd.fresh
  verdict hm hm' := by
    have hc := change (play b past) t
    rw [play] at hm'
    generalize (play b past).step t = s at hc hm'
    cases hc with
    | idle | refused | admitted => exact absurd hm hm'
    | probed => exact absurd rfl hm'
    | ended c a o act phase =>
      cases a with
      | normal =>
        simp only [Breaker.settle_normal_of_ne (b := (play b past).breaker) (by simp [hm])] at hm'
        exact absurd hm hm'
      | probe =>
        have ho : o ≠ .ignored := fun ho => hm' ((settle_probe_mode hm).2 ho)
        refine .inr ⟨c, o, finish_of_ending act ho, ?_⟩
        by_cases hf : (play b (upToReset past)).phase c = .ahead
        · exact (h.tail.slotKept hb).current c ⟨phase, hf⟩
        · exact absurd ⟨c, o, act, ⟨phase, hf⟩, .inl ⟨hm, .inr ho⟩⟩ h.head
    | reset act => exact .inl act
  full hm := by
    have := inStep_of_undisturbed hb hl h
    rw [Breaker.InStep, play_limit, hm] at this
    exact Nat.le_of_not_lt fun hlt => by simpa using this.2 hlt

/-- The first interference of a history is a tick that does not respect its period. -/
theorem not_interferes_of_respected (hb : Breaker.new l = .ok b) (h : Undisturbed b past)
    (ht : Respected b past t) : ¬Interferes b past t := by
  rintro ⟨c, o, act, hst, hi⟩
  have hs : play b (t :: past) = _ := step_of_ending act hst.1
  rcases hi with ⟨hm, hp | ho⟩ | ⟨hm, rfl⟩
  · -- A present probe is out, and the stale one frees its slot.
    obtain ⟨d, hd⟩ := (h.slotKept hb).out hp
    have hp' := (ht.slot c d o act hst ((h.slotKept hb).current d hd)).1
    rw [hs, Breaker.settle_probe_probing] at hp'
    cases hp'
  · -- The stale probe ends the period.
    have hm' : (play b (t :: past)).breaker.mode ≠ .halfOpen := by
      rw [hs]
      exact fun h => ho ((settle_probe_mode hm).1 h)
    rcases ht.verdict hm hm' with hr | ⟨d, o', hf, hd⟩
    · simp [hr, Act.ending] at act
    · obtain ⟨rfl, _⟩ : d = c ∧ o' = o := by simpa [hf, Act.ending] using act
      exact hd.not_stale hst
  · -- The stale probe clears the streak of an open breaker.
    have := ht.full (by rw [hs]; simp [Breaker.settle, Breaker.count, Breaker.succeed, hm])
    rw [hs, Breaker.limit_of_new hb] at this
    have := (Breaker.new_eq_ok_iff.1 hb).1
    simp_all [Breaker.settle, Breaker.count, Breaker.succeed]

/-- In a history with resets at any moment, every tick respects the period it falls into exactly
when no probe that was out at a reset interferes later. -/
theorem respected_iff_undisturbed (hb : Breaker.new l = .ok b)
    (hl : l.maxFailures ≤ Decimal.max32) :
    (∀ t earlier, t :: earlier <:+ past → Respected b earlier t) ↔ Undisturbed b past := by
  constructor
  · intro h
    induction past with
    | nil => exact undisturbed_nil b
    | cons t past ih =>
      have earlier := ih fun u e hs => h u e (hs.trans (List.suffix_cons t past))
      exact undisturbed_cons earlier
        (not_interferes_of_respected hb earlier (h t past List.suffix_rfl))
  · intro h t earlier hs
    exact respected_of_undisturbed hb hl fun u e hu => h u e (hu.trans hs)

/-- A probe that was out at the reset is dropped while the breaker is closed: nothing happens. -/
theorem respected_of_drop_while_closed :
    let b : Breaker := ⟨⟨1, 10⟩, .closed, 0, none, false, 0, 0⟩
    Breaker.new ⟨1, 10⟩ = .ok b ∧ (1 : Nat) ≤ Decimal.max32 ∧
      ∀ t earlier, t :: earlier <:+
          [⟨12, 12, .drop 1⟩, ⟨12, 12, .reset⟩, ⟨11, 11, .enter 1⟩, ⟨0, 0, .finish 0 .failure⟩,
            ⟨0, 0, .enter 0⟩] →
        Respected b earlier t := by
  refine ⟨rfl, by decide, (respected_iff_undisturbed (l := ⟨1, 10⟩) rfl (by decide)).2 ?_⟩
  refine undisturbed_cons (undisturbed_cons (undisturbed_cons (undisturbed_cons
    (undisturbed_cons (undisturbed_nil _) ?_) ?_) ?_) ?_) ?_ <;> rintro ⟨c, o, act, hs, hi⟩ <;>
    cases act
  · exact absurd hs.1 (by decide)
  · exact absurd hi (by decide)

/-- A probe that was out at the reset empties the streak of a breaker that opened afterwards, and
the drop of one lets a second probe into the same half-open period. -/
theorem stale_probe_is_not_recalled :
    let b : Breaker := ⟨⟨1, 10⟩, .closed, 0, none, false, 0, 0⟩
    let reopened : List Tick :=
      [⟨11, 11, .finish 2 .failure⟩, ⟨11, 11, .enter 2⟩, ⟨11, 11, .reset⟩, ⟨11, 11, .enter 1⟩,
        ⟨0, 0, .finish 0 .failure⟩, ⟨0, 0, .enter 0⟩]
    Breaker.new ⟨1, 10⟩ = .ok b ∧
    ((play b (⟨11, 11, .finish 1 .success⟩ :: reopened)).breaker.mode = .opened ∧
      (play b (⟨11, 11, .finish 1 .success⟩ :: reopened)).breaker.failures = 0) ∧
    (Current b (⟨22, 22, .enter 4⟩ :: ⟨22, 22, .drop 1⟩ :: ⟨22, 22, .enter 3⟩ :: reopened) 3 ∧
      Current b (⟨22, 22, .enter 4⟩ :: ⟨22, 22, .drop 1⟩ :: ⟨22, 22, .enter 3⟩ :: reopened) 4) :=
  ⟨rfl, ⟨rfl, rfl⟩, ⟨rfl, rfl⟩, rfl, rfl⟩

end Registrar.Traffic
