import Mathlib.Logic.Function.Basic
import Registrar.Proofs.Breaker.Moves

/-!
# Overlapping calls

`Traffic` is a breaker with the calls that pass through it, each in its `Phase`. A `Tick` is one
moment at which the state of the breaker is locked: a call asks for admission, ends or is dropped,
or the breaker is reset. The clock is read before the lock is taken, so a reading may be stale.
`play b past` is the traffic after the ticks of `past`, listed last first; a tick that finds its
call in the wrong phase changes nothing.

`Change` lists what a tick can do. `before p b past` is the history up to the present stretch of
states with property `p`: a call was made within that stretch if it was still ahead before it.
-/

namespace Registrar

namespace Traffic

abbrev CallId := Nat

/-- Where a call stands: not made yet, running with its permit, or refused, ended or dropped. -/
inductive Phase
  | ahead
  | running (a : Admission)
  | done
  deriving DecidableEq, Repr

inductive Act
  | enter (c : CallId)
  | finish (c : CallId) (o : Outcome)
  | drop (c : CallId)
  | reset
  deriving DecidableEq, Repr

/-- The call that an act ends, and how it counts: a dropped call is ignored. -/
def Act.ending : Act → Option (CallId × Outcome)
  | .finish c o => some (c, o)
  | .drop c => some (c, .ignored)
  | .enter _ | .reset => none

structure Tick where
  /-- When the lock is taken. -/
  instant : Instant
  /-- What the clock showed when it was read before. -/
  reading : Instant
  act : Act
  deriving DecidableEq, Repr

/-- The phase of a call once the breaker has answered it. -/
def Phase.ofAnswer : Except Refusal Admission → Phase
  | .ok a => .running a
  | .error _ => .done

end Traffic

structure Traffic where
  breaker : Breaker
  phase : Traffic.CallId → Traffic.Phase

namespace Traffic

/-- The call moves on to its next phase while the breaker takes an event. -/
def move (s : Traffic) (t : Tick) (e : Breaker.Event) (c : CallId) (p : Phase) : Traffic :=
  ⟨s.breaker.step t.reading e, Function.update s.phase c p⟩

def step (s : Traffic) (t : Tick) : Traffic :=
  match t.act with
  | .enter c =>
    match s.phase c with
    | .ahead => s.move t .enter c (.ofAnswer (s.breaker.enter t.reading).1)
    | _ => s
  | .finish c o =>
    match s.phase c with
    | .running a => s.move t (.settle a o) c .done
    | _ => s
  | .drop c =>
    match s.phase c with
    | .running a => s.move t (.drop a) c .done
    | _ => s
  | .reset => { s with breaker := s.breaker.step t.reading .reset }

/-- The traffic after a history, listed last first. -/
def play (b : Breaker) : List Tick → Traffic
  | [] => ⟨b, fun _ => .ahead⟩
  | t :: past => (play b past).step t

/-- The lock is taken in the order of time, and no reading comes from the future. -/
def Clocked (past : List Tick) : Prop :=
  past.Pairwise (fun later earlier => earlier.instant ≤ later.instant) ∧
    ∀ t ∈ past, t.reading ≤ t.instant

/-- The history up to the present stretch of states with property `p`. -/
def before (p : Breaker → Bool) (b : Breaker) : List Tick → List Tick
  | [] => []
  | t :: past => if p (play b (t :: past)).breaker then before p b past else t :: past

/-- The history up to the last reset. -/
def upToReset (past : List Tick) : List Tick :=
  past.dropWhile fun t => t.act ≠ .reset

/-! ## One tick -/

section

variable {s : Traffic} {t : Tick} {c d : CallId} {a : Admission} {o : Outcome}

/-- What a tick can do. -/
inductive Change (s : Traffic) (t : Tick) : Traffic → Prop
  | idle (act : t.act ≠ .reset)
      (quiet : ∀ c o a, t.act.ending = some (c, o) → s.phase c ≠ .running a) : Change s t s
  | refused (c : CallId) (act : t.act = .enter c) (phase : s.phase c = .ahead)
      (open_ : s.breaker.mode ≠ .closed) :
      Change s t ⟨{ s.breaker with rejected := s.breaker.rejected + 1 },
        Function.update s.phase c .done⟩
  | admitted (c : CallId) (act : t.act = .enter c) (phase : s.phase c = .ahead)
      (closed : s.breaker.mode = .closed) :
      Change s t ⟨{ s.breaker with total := s.breaker.total + 1 },
        Function.update s.phase c (.running .normal)⟩
  | probed (c : CallId) (act : t.act = .enter c) (phase : s.phase c = .ahead)
      (may : s.breaker.MayProbe t.reading) :
      Change s t ⟨{ s.breaker with mode := .halfOpen, probing := true, total := s.breaker.total + 1 },
        Function.update s.phase c (.running .probe)⟩
  | ended (c : CallId) (a : Admission) (o : Outcome) (act : t.act.ending = some (c, o))
      (phase : s.phase c = .running a) :
      Change s t ⟨s.breaker.settle t.reading a o, Function.update s.phase c .done⟩
  | reset (act : t.act = .reset) : Change s t { s with breaker := s.breaker.reset }

theorem step_of_ending (act : t.act.ending = some (c, o)) (phase : s.phase c = .running a) :
    s.step t = ⟨s.breaker.settle t.reading a o, Function.update s.phase c .done⟩ := by
  cases ht : t.act with
  | enter c' => simp [ht, Act.ending] at act
  | reset => simp [ht, Act.ending] at act
  | finish c' o' =>
    obtain ⟨rfl, rfl⟩ : c' = c ∧ o' = o := by simpa [ht, Act.ending] using act
    simp [step, ht, phase, move, Breaker.step]
  | drop c' =>
    obtain ⟨rfl, rfl⟩ : c' = c ∧ .ignored = o := by simpa [ht, Act.ending] using act
    simp [step, ht, phase, move, Breaker.step]

theorem step_of_enter (act : t.act = .enter c) (phase : s.phase c = .ahead) :
    s.step t = ⟨(s.breaker.enter t.reading).2,
      Function.update s.phase c (.ofAnswer (s.breaker.enter t.reading).1)⟩ := by
  simp [step, act, phase, move, Breaker.step]

theorem step_of_reset (act : t.act = .reset) :
    s.step t = { s with breaker := s.breaker.reset } := by
  simp [step, act, Breaker.step]

theorem change (s : Traffic) (t : Tick) : Change s t (s.step t) := by
  cases ht : t.act with
  | enter c =>
    cases hc : s.phase c with
    | ahead =>
      rw [step_of_enter ht hc]
      generalize he : s.breaker.enter t.reading = e
      have entry := he ▸ s.breaker.entry t.reading
      cases entry with
      | refused open_ _ => exact .refused c ht hc open_
      | admitted closed => exact .admitted c ht hc closed
      | probed may => exact .probed c ht hc may
    | running a | done =>
      rw [show s.step t = s by simp [step, ht, hc]]
      exact .idle (by simp [ht]) (by simp [ht, Act.ending])
  | finish c o | drop c =>
    cases hc : s.phase c with
    | running a =>
      rw [step_of_ending (by rw [ht]; rfl) hc]
      exact .ended c a _ (by rw [ht]; rfl) hc
    | ahead | done =>
      rw [show s.step t = s by simp [step, ht, hc]]
      refine .idle (by simp [ht]) fun d o a h => ?_
      rw [ht] at h
      cases h
      simp [hc]
  | reset =>
    rw [step_of_reset ht]
    exact .reset ht

theorem step_limit (s : Traffic) (t : Tick) : (s.step t).breaker.limit = s.breaker.limit := by
  have h := s.change t
  generalize s.step t = s' at h ⊢
  cases h <;> simp [Breaker.reset]

/-- No tick brings a call back. -/
theorem ahead_of_step (h : (s.step t).phase c = .ahead) : s.phase c = .ahead := by
  have h' := s.change t
  generalize s.step t = s' at h h'
  cases h' with
  | idle | reset => exact h
  | refused c' | admitted c' | probed c' | ended c' =>
    by_cases hc : c = c'
    · subst hc; simp at h
    · simpa [hc] using h

end

/-! ## Histories -/

section

variable {b : Breaker} {t : Tick} {past earlier : List Tick} {c : CallId} {p : Breaker → Bool}

theorem play_limit (b : Breaker) (past : List Tick) : (play b past).breaker.limit = b.limit := by
  induction past with
  | nil => rfl
  | cons t past ih => rw [play, step_limit, ih]

/-- What was ahead late in a history was ahead all along. -/
theorem ahead_of_suffix (hs : earlier <:+ past) (h : (play b past).phase c = .ahead) :
    (play b earlier).phase c = .ahead := by
  induction past with
  | nil => rwa [List.suffix_nil.1 hs]
  | cons t past ih =>
    rcases List.suffix_cons_iff.1 hs with rfl | hs
    · exact h
    · exact ih hs (ahead_of_step h)

theorem before_suffix (p : Breaker → Bool) (b : Breaker) (past : List Tick) :
    before p b past <:+ past := by
  induction past with
  | nil => exact List.suffix_rfl
  | cons t past ih =>
    unfold before
    split
    · exact ih.trans (List.suffix_cons t past)
    · exact List.suffix_rfl

/-- A wider property has the longer stretch. -/
theorem before_suffix_before {q : Breaker → Bool} (hpq : ∀ br, p br = true → q br = true)
    (b : Breaker) (past : List Tick) : before q b past <:+ before p b past := by
  induction past with
  | nil => exact List.suffix_rfl
  | cons t past ih =>
    by_cases hp : p (play b (t :: past)).breaker = true
    · simpa [before, hp, hpq _ hp] using ih
    · rw [show before p b (t :: past) = t :: past by simp [before, hp]]
      exact before_suffix q b _

theorem before_cons_of_pos (h : p (play b (t :: past)).breaker = true) :
    before p b (t :: past) = before p b past := by
  simp [before, h]

theorem before_of_neg (h : p (play b past).breaker = false) : before p b past = past := by
  cases past with
  | nil => rfl
  | cons t past => simp [before, h]

/-- A call that was made and runs on was made within the present stretch, so there is one. -/
theorem pos_of_ahead_before (h : (play b past).phase c ≠ .ahead)
    (ha : (play b (before p b past)).phase c = .ahead) : p (play b past).breaker = true := by
  by_contra hp
  rw [before_of_neg (by simpa using hp)] at ha
  exact h ha

theorem upToReset_suffix (past : List Tick) : upToReset past <:+ past :=
  List.dropWhile_suffix _

theorem upToReset_cons_of_ne (h : t.act ≠ .reset) : upToReset (t :: past) = upToReset past := by
  simp [upToReset, h]

theorem upToReset_cons_of_eq (h : t.act = .reset) : upToReset (t :: past) = t :: past := by
  simp [upToReset, h]

end

end Traffic

end Registrar
