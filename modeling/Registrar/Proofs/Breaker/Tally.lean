import Registrar.Proofs.Breaker.Moves

/-!
# One call at a time

A breaker that is asked again only when the last call is over. `b.Tallies l now fs held` ties its
state at `now` to the instants `fs` of the failures in a row, latest first, and to the permit that
is out. Its mode and its slot then say no more than `fs` does: `Tallies.enter_eq_error_iff` decides
on a call by the length and the head of this list alone.
-/

namespace Registrar.Breaker

variable {b : Breaker} {l : BreakerLimit} {now : Instant} {fs : List Instant}
  {held : Option Admission} {a : Admission} {o : Outcome}

/-- The breaker remembers these failures in a row while this permit is out. -/
structure Tallies (b : Breaker) (l : BreakerLimit) (now : Instant) (fs : List Instant)
    (held : Option Admission) : Prop where
  limit : b.limit = l
  inStep : b.InStep
  failures : b.failures = min fs.length Decimal.max32
  last : ∀ u ∈ fs.head?, b.lastFailure = some u
  passed : b.mode = .halfOpen → ∀ u ∈ b.lastFailure, u + l.resetTimeout < now
  taken : b.probing = true → held = some .probe
  normal : held = some .normal → b.mode = .closed
  probe : held = some .probe → b.mode ≠ .opened

/-- The failures in a row after a call that ends at `now`. -/
def extend (fs : List Instant) (now : Instant) : Outcome → List Instant
  | .success => []
  | .failure => now :: fs
  | .ignored => fs

namespace Tallies

theorem of_new (hb : new l = .ok b) (now : Instant) : b.Tallies l now [] none := by
  obtain ⟨hl, -, rfl⟩ := new_eq_ok_iff.1 hb
  constructor <;> simp [InStep, Nat.pos_of_ne_zero hl]

theorem wait (h : b.Tallies l now fs held) (d : Duration) : b.Tallies l (now + d) fs held :=
  { h with passed := fun hm u hu => Nat.lt_add_right d (h.passed hm u hu) }

theorem reset (h : b.Tallies l now fs held) (hpos : 0 < l.maxFailures) :
    b.reset.Tallies l now [] held := by
  constructor <;> simp [Breaker.reset, InStep, h.limit, hpos]

theorem closed_iff (h : b.Tallies l now fs held) (hmax : l.maxFailures ≤ Decimal.max32) :
    b.mode = .closed ↔ fs.length < l.maxFailures := by
  have hstep := h.inStep
  rw [InStep, h.limit, h.failures] at hstep
  rw [hstep]
  omega

/-- A breaker that is not closed has seen a failure. -/
theorem exists_last (h : b.Tallies l now fs held) (hpos : 0 < l.maxFailures)
    (hmax : l.maxFailures ≤ Decimal.max32) (hm : b.mode ≠ .closed) :
    ∃ u, fs.head? = some u ∧ b.lastFailure = some u := by
  have hlen : l.maxFailures ≤ fs.length :=
    Nat.le_of_not_lt fun hlt => hm ((h.closed_iff hmax).2 hlt)
  cases fs with
  | nil => exact absurd hpos (Nat.not_lt.2 hlen)
  | cons u fs => exact ⟨u, rfl, h.last u rfl⟩

/-- Without a permit out, a probe may come in once the window has passed. -/
theorem mayProbe_iff (h : b.Tallies l now fs none) (hpos : 0 < l.maxFailures)
    (hmax : l.maxFailures ≤ Decimal.max32) :
    b.MayProbe now ↔
      l.maxFailures ≤ fs.length ∧ ∃ u, fs.head? = some u ∧ u + l.resetTimeout < now := by
  have hfree : b.probing = false := by
    cases hp : b.probing with
    | false => rfl
    | true => cases h.taken hp
  have hopen := not_congr (h.closed_iff hmax)
  rw [Nat.not_lt] at hopen
  constructor
  · rintro (⟨hm, hlt⟩ | ⟨hm, -⟩)
    · obtain ⟨u, hu, hlast⟩ := h.exists_last hpos hmax (by simp [hm])
      rw [h.limit, lt_sinceFailure_iff hlast] at hlt
      exact ⟨hopen.1 (by simp [hm]), u, hu, hlt⟩
    · -- A probe that was ignored left the breaker half-open, so the window had passed before it.
      obtain ⟨u, hu, hlast⟩ := h.exists_last hpos hmax (by simp [hm])
      exact ⟨hopen.1 (by simp [hm]), u, hu, h.passed hm u hlast⟩
  · rintro ⟨hlen, u, hu, hlt⟩
    cases hm : b.mode with
    | closed => exact absurd hm (hopen.2 hlen)
    | opened =>
      refine .inl ⟨hm, ?_⟩
      rw [h.limit, lt_sinceFailure_iff (h.last u hu)]
      exact hlt
    | halfOpen => exact .inr ⟨hm, hfree⟩

/-- A call is refused exactly when the failures in a row reach the limit and the window since the
last of them is not over; the refusal tells their number and the time since the last. -/
theorem enter_eq_error_iff (h : b.Tallies l now fs none) (hpos : 0 < l.maxFailures)
    (hmax : l.maxFailures ≤ Decimal.max32) (r : Refusal) :
    (b.enter now).1 = .error r ↔
      l.maxFailures ≤ fs.length ∧ ∃ u ∈ fs.head?, now - u ≤ l.resetTimeout ∧
        r = ⟨min fs.length Decimal.max32, now - u⟩ := by
  have hclosed := h.closed_iff hmax
  have hmay := h.mayProbe_iff hpos hmax
  have entry := b.entry now
  generalize b.enter now = e at entry
  cases entry with
  | refused open_ shut =>
    obtain ⟨u, hu, hlast⟩ := h.exists_last hpos hmax open_
    have hlen : l.maxFailures ≤ fs.length := Nat.le_of_not_lt fun hlt => open_ (hclosed.2 hlt)
    have hwindow : now ≤ l.resetTimeout + u := by
      rw [hmay] at shut
      exact Nat.add_comm u _ ▸ Nat.le_of_not_lt fun hlt => shut ⟨hlen, u, hu, hlt⟩
    simp [hu, hlen, hwindow, h.failures, sinceFailure, hlast, eq_comm]
  | admitted closed => simp [Nat.not_le.2 (hclosed.1 closed)]
  | probed may =>
    obtain ⟨-, u, hu, hlt⟩ := hmay.1 may
    have hover : ¬now ≤ l.resetTimeout + u := Nat.not_le.2 (Nat.add_comm u _ ▸ hlt)
    simp [hu, hover]

/-- The call that asks holds the permit that it gets. -/
theorem enter (h : b.Tallies l now fs none) (hpos : 0 < l.maxFailures)
    (hmax : l.maxFailures ≤ Decimal.max32) :
    (b.enter now).2.Tallies l now fs (b.enter now).1.toOption := by
  have hmay := h.mayProbe_iff hpos hmax
  have entry := b.entry now
  generalize b.enter now = e at entry
  cases entry with
  | refused => exact { h with }
  | admitted closed =>
    exact { h with
      taken := fun hp => nomatch h.taken hp
      normal := fun _ => closed
      probe := nofun }
  | probed may =>
    obtain ⟨hlen, u, hu, hlt⟩ := hmay.1 may
    have hfull : l.maxFailures ≤ b.failures := h.failures ▸ Nat.le_min.2 ⟨hlen, hmax⟩
    exact { h with
      inStep := by simpa [InStep, h.limit] using hfull
      passed := fun _ v hv => by
        obtain rfl : u = v := Option.some.inj ((h.last u hu).symm.trans hv)
        exact hlt
      taken := fun _ => rfl
      normal := nofun
      probe := nofun }

/-- A call that ends settles its permit, and its outcome counts. -/
theorem settle (h : b.Tallies l now fs (some a)) (hpos : 0 < l.maxFailures)
    (hmax : l.maxFailures ≤ Decimal.max32) (o : Outcome) :
    (b.settle now a o).Tallies l now (extend fs now o) none := by
  have hcount : (b.settle now a o).failures = (b.count now o).failures ∧
      (b.settle now a o).lastFailure = (b.count now o).lastFailure := by
    cases a with
    | normal => simp [settle_normal_of_closed (h.normal rfl)]
    | probe => cases o <;> exact ⟨rfl, rfl⟩
  constructor
  case limit => rw [settle_limit, h.limit]
  case inStep =>
    refine h.inStep.settle (h.limit ▸ hpos) (h.limit ▸ hmax) fun ha hm => ?_
    exact absurd hm (h.probe (ha ▸ rfl))
  case failures =>
    rw [hcount.1]
    cases o with
    | success => rfl
    | failure =>
      simp only [count, fail, countUp, h.failures, extend, List.length_cons]
      omega
    | ignored => exact h.failures
  case last =>
    rw [hcount.2]
    cases o with
    | success => simp [extend]
    | failure => simp [extend, count, fail]
    | ignored => exact h.last
  case passed =>
    intro hm u hu
    obtain ⟨hm', hlast⟩ := halfOpen_of_settle hm
    exact h.passed hm' u (hlast ▸ hu)
  case taken =>
    intro hp
    cases a with
    | normal =>
      rw [settle_normal_probing] at hp
      cases h.taken hp
    | probe =>
      rw [settle_probe_probing] at hp
      cases hp
  case normal | probe =>
    intro ha
    cases ha

end Tallies

end Registrar.Breaker
