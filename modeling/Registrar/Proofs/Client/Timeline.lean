import Registrar.Proofs.Breaker.Moves
import Registrar.Proofs.Client.Suspension
import Registrar.Rehearsal

/-!
# Commands on a clock

A `Moment` is one question of a command with its answer, its beginning and its end. The caller and
the clock answer for themselves, the transport ends an exchange as it likes and the limiter gives
tokens as it likes; others may use the breaker between two moments. Time passes in pauses and in
exchanges alone. Main statement: `interrupted_at_once`, what becomes of a command that its caller
cancels while it is suspended, and of one whose deadline comes.
-/

namespace Registrar

open Dialogue

/-! ## Waiting on a clock -/

/-- More time is never over sooner. -/
def Timer.Monotone (t : Timer) : Prop :=
  ∀ now d d', d ≤ d' → t.wake now d ≤ t.wake now d'

theorem Timer.monotone_exact : Timer.exact.Monotone := fun now _ _ h => Nat.add_le_add_left h now

theorem roundUp_mono (unit : Nat) {n n' : Nat} (h : n ≤ n') : roundUp unit n ≤ roundUp unit n' :=
  Nat.mul_le_mul_right unit (Nat.div_le_div_right (Nat.add_le_add_right h _))

theorem Timer.monotone_millisecond : Timer.millisecond.Monotone :=
  fun now _ _ h => roundUp_mono Duration.millisecond (Nat.add_le_add_left h now)

namespace Caller

variable {now wake at' : Instant}

/-- The same caller, who does not cancel. -/
def staying (caller : Caller) : Caller := { caller with cancelsAt := none }

theorem pauseUntil_of_lt (caller : Caller) (now : Instant) (h : caller.cancelsAt = some at')
    (hlt : at' < wake) :
    caller.pauseUntil now wake = (true, max now at') := by
  simp [pauseUntil, h, hlt]

theorem pauseUntil_bounds (caller : Caller) (h : now ≤ wake) :
    now ≤ (caller.pauseUntil now wake).2 ∧ (caller.pauseUntil now wake).2 ≤ wake := by
  unfold pauseUntil
  split
  · exact ⟨h, Nat.le_refl _⟩
  · split
    · refine ⟨Nat.le_max_left _ _, Nat.max_le.2 ⟨h, ?_⟩⟩
      exact Nat.le_of_lt ‹_›
    · exact ⟨h, Nat.le_refl _⟩

end Caller

namespace Stage

variable (caller : Caller) (timer : Timer) (now : Instant) (cue : Cue) (patience : Duration)
  (within : Option Duration)

/-- A cancellation comes before any other end of an exchange. -/
theorem ending_eq :
    ending caller timer now cue patience within =
      match caller.pauseUntil now (ending caller.staying timer now cue patience within).2 with
      | (true, at') => (.cut .cancelled, at')
      | (false, wake) => ((ending caller.staying timer now cue patience within).1, wake) := rfl

/-- An exchange that nobody cancels ends after it began and by the deadline. -/
theorem ending_staying_bounds :
    now ≤ (ending caller.staying timer now cue patience within).2 ∧
      ∀ left ∈ within,
        (ending caller.staying timer now cue patience within).2 ≤ timer.wake now left := by
  have later (d : Duration) : now ≤ timer.wake now d :=
    Nat.le_trans (Nat.le_add_right now d) (timer.le_wake now d)
  have free : now ≤ (if timer.wake now cue.delay ≤ timer.wake now patience then
      ((.answered cue.answer, timer.wake now cue.delay) : Connection.Sent × Instant)
      else (.timedOut, timer.wake now patience)).2 := by
    split <;> exact later _
  cases within with
  | none => exact ⟨free, nofun⟩
  | some left =>
    constructor
    · change now ≤ (ite _ _ _ : Connection.Sent × Instant).2
      split
      · exact later left
      · exact free
    · rintro _ ⟨⟩
      change (ite _ _ _ : Connection.Sent × Instant).2 ≤ _
      split
      · exact Nat.le_refl _
      · exact Nat.le_of_not_le ‹_›

end Stage

/-! ## Moments -/

structure Moment where
  event : Client.Event
  start : Instant
  /-- When it is over unless the caller cancels. -/
  due : Instant
  finish : Instant
  /-- The breaker at the beginning and at the end. -/
  before : Breaker
  after : Breaker

namespace Moment

inductive Occurs (caller : Caller) (timer : Timer) : Moment → Prop
  | cancelled (now : Instant) (b : Breaker) :
      Occurs caller timer ⟨⟨.cancelled, caller.hasCancelled now⟩, now, now, now, b, b⟩
  | timeLeft (now : Instant) (b : Breaker) :
      Occurs caller timer ⟨⟨.timeLeft, caller.timeLeft now⟩, now, now, now, b, b⟩
  | pause (now : Instant) (b : Breaker) (d : Duration) :
      Occurs caller timer
        ⟨⟨.pause d, (caller.pauseUntil now (timer.wake now d)).1⟩, now, timer.wake now d,
          (caller.pauseUntil now (timer.wake now d)).2, b, b⟩
  | exchange (now : Instant) (b : Breaker) (cue : Cue) (request : Request) (patience : Duration)
      (within : Option Duration) :
      Occurs caller timer
        ⟨⟨.other (.send request patience within),
            (Stage.ending caller timer now cue patience within).1⟩, now,
          (Stage.ending caller.staying timer now cue patience within).2,
          (Stage.ending caller timer now cue patience within).2, b, b⟩
  | take (now : Instant) (b : Breaker) (wait : Option Duration) :
      Occurs caller timer ⟨⟨.other .take, wait⟩, now, now, now, b, b⟩
  | enter (now : Instant) (b : Breaker) :
      Occurs caller timer
        ⟨⟨.other .enter, (b.enter now).1⟩, now, now, now, b, (b.enter now).2⟩
  | settle (now : Instant) (b : Breaker) (a : Admission) (o : Outcome) :
      Occurs caller timer
        ⟨⟨.other (.settle a o), ()⟩, now, now, now, b, b.settle now a o⟩

/-- The streak and its last failure are what they were. -/
def KeepsStreak (m : Moment) : Prop :=
  m.after.failures = m.before.failures ∧ m.after.lastFailure = m.before.lastFailure

/-- A request is exchanged. -/
def IsExchange (m : Moment) : Prop := m.event.sent?.isSome

section

variable {caller : Caller} {timer : Timer} {m : Moment}

theorem Occurs.bounds (h : m.Occurs caller timer) : m.start ≤ m.finish ∧ m.finish ≤ m.due := by
  cases h with
  | cancelled | timeLeft | take | enter | settle => exact ⟨Nat.le_refl _, Nat.le_refl _⟩
  | pause now b d =>
    exact caller.pauseUntil_bounds (Nat.le_trans (Nat.le_add_right now d) (timer.le_wake now d))
  | exchange now b cue request patience within =>
    obtain ⟨hb, -⟩ := Stage.ending_staying_bounds caller timer now cue patience within
    obtain ⟨h₁, h₂⟩ := caller.pauseUntil_bounds hb
    dsimp only
    rw [Stage.ending_eq caller]
    split <;> simp_all

/-- A settlement that counts for nothing leaves the streak, and so does an entry. -/
theorem Occurs.keepsStreak (h : m.Occurs caller timer)
    (ignored : ∀ a o u, m.event = ⟨.other (.settle a o), u⟩ → o = .ignored) : m.KeepsStreak := by
  cases h with
  | cancelled | timeLeft | pause | exchange | take => exact ⟨rfl, rfl⟩
  | enter now b =>
    have := b.entry now
    dsimp only [KeepsStreak]
    generalize b.enter now = e at this
    cases this <;> exact ⟨rfl, rfl⟩
  | settle now b a o =>
    obtain rfl := ignored a o () rfl
    cases a with
    | normal =>
      rw [KeepsStreak, Breaker.settle_ignored_normal]
      exact ⟨rfl, rfl⟩
    | probe => exact ⟨rfl, rfl⟩

/-- The caller answers as it is at the moment. -/
theorem Occurs.of_cancelled (h : m.Occurs caller timer) {cut : Bool}
    (he : m.event = ⟨.cancelled, cut⟩) :
    cut = caller.hasCancelled m.start ∧ m.finish = m.start := by
  cases h <;> cases he
  exact ⟨rfl, rfl⟩

theorem Occurs.of_timeLeft (h : m.Occurs caller timer) {left : Option Duration}
    (he : m.event = ⟨.timeLeft, left⟩) : left = caller.timeLeft m.start ∧ m.finish = m.start := by
  cases h <;> cases he
  exact ⟨rfl, rfl⟩

/-- Who is cancelled in a suspension is woken at that instant. -/
theorem Occurs.of_cancel (h : m.Occurs caller timer) {at' : Instant}
    (hc : caller.cancelsAt = some at') (began : m.start ≤ at') (early : at' < m.due) :
    m.finish = at' ∧
      ((∃ d, m.event = ⟨.pause d, true⟩) ∨
        ∃ request patience within,
          m.event = ⟨.other (.send request patience within), .cut .cancelled⟩) := by
  cases h with
  | cancelled | timeLeft | take | enter | settle => exact absurd early (Nat.not_lt_of_le began)
  | pause now b d =>
    have hcut := caller.pauseUntil_of_lt now hc early
    dsimp only
    rw [hcut]
    exact ⟨Nat.max_eq_right began, .inl ⟨d, rfl⟩⟩
  | exchange now b cue request patience within =>
    have hcut := caller.pauseUntil_of_lt now hc early
    dsimp only
    rw [Stage.ending_eq caller, hcut]
    exact ⟨Nat.max_eq_right began, .inr ⟨request, patience, within, rfl⟩⟩

end

end Moment

/-! ## Timelines -/

/-- Moments that follow one another, from an instant to another. -/
inductive Timeline (caller : Caller) (timer : Timer) : Instant → List Moment → Instant → Prop
  | nil (now : Instant) : Timeline caller timer now [] now
  | cons {m : Moment} {later : List Moment} {finish : Instant} (occurs : m.Occurs caller timer)
      (rest : Timeline caller timer m.finish later finish) :
      Timeline caller timer m.start (m :: later) finish

namespace Timeline

open Client

variable {caller : Caller} {timer : Timer} {start finish : Instant} {m : Moment}
  {earlier later moments : List Moment}

theorem cons_inv (h : Timeline caller timer start (m :: later) finish) :
    m.start = start ∧ m.Occurs caller timer ∧ Timeline caller timer m.finish later finish := by
  cases h with
  | cons occurs rest => exact ⟨rfl, occurs, rest⟩

theorem nil_inv (h : Timeline caller timer start [] finish) : finish = start := by
  cases h
  rfl

theorem append (h : Timeline caller timer start (earlier ++ later) finish) :
    ∃ now, Timeline caller timer start earlier now ∧ Timeline caller timer now later finish := by
  induction earlier generalizing start with
  | nil => exact ⟨start, .nil _, h⟩
  | cons m earlier ih =>
    obtain ⟨rfl, occurs, rest⟩ := h.cons_inv
    obtain ⟨now, h₁, h₂⟩ := ih rest
    exact ⟨now, .cons occurs h₁, h₂⟩

theorem append_cons (h : Timeline caller timer start (earlier ++ m :: later) finish) :
    Timeline caller timer start earlier m.start ∧ m.Occurs caller timer ∧
      Timeline caller timer m.finish later finish := by
  obtain ⟨now, h₁, h₂⟩ := h.append
  obtain ⟨rfl, occurs, rest⟩ := h₂.cons_inv
  exact ⟨h₁, occurs, rest⟩

theorem bounds (h : Timeline caller timer start moments finish) :
    start ≤ finish ∧ ∀ m ∈ moments, m.Occurs caller timer ∧ m.finish ≤ finish := by
  induction h with
  | nil now => exact ⟨Nat.le_refl _, List.forall_mem_nil _⟩
  | @cons m later finish occurs rest ih =>
    obtain ⟨hle, hall⟩ := ih
    refine ⟨Nat.le_trans occurs.bounds.1 hle, List.forall_mem_cons.2 ⟨⟨occurs, hle⟩, hall⟩⟩

/-- A check and a look at the time left tell of the instant at which they are made. -/
theorem of_asked (h : Timeline caller timer start moments finish) {before : List Event}
    {known left : Option Duration} (he : moments.map (·.event) = before ++ asked known left) :
    caller.hasCancelled finish = false ∧ left = caller.timeLeft finish := by
  obtain ⟨earlier, last, rfl, -, hlast⟩ := List.map_eq_append_iff.1 he
  obtain ⟨m₁, last, rfl, he₁, hlast⟩ := List.map_eq_cons_iff.1 hlast
  obtain ⟨m₂, last, rfl, he₂, hlast⟩ := List.map_eq_cons_iff.1 hlast
  obtain ⟨m₃, last, rfl, he₃, hlast⟩ := List.map_eq_cons_iff.1 hlast
  obtain rfl := List.map_eq_nil_iff.1 hlast
  obtain ⟨now, -, h⟩ := h.append
  obtain ⟨-, o₁, h⟩ := h.cons_inv
  obtain ⟨s₂, o₂, h⟩ := h.cons_inv
  obtain ⟨s₃, o₃, h⟩ := h.cons_inv
  obtain ⟨cut, f₁⟩ := o₁.of_cancelled he₁
  obtain ⟨-, f₂⟩ := o₂.of_timeLeft he₂
  obtain ⟨hleft, f₃⟩ := o₃.of_timeLeft he₃
  -- No time passes from the check to the end.
  have now₁ : m₁.start = finish := by rw [h.nil_inv, f₃, s₃, f₂, s₂, f₁]
  have now₃ : m₃.start = finish := by rw [h.nil_inv, f₃]
  rw [← now₁, ← cut, now₁, ← now₃]
  exact ⟨rfl, hleft⟩

/-! ## Plays -/

/-- A question that is answered on a stage is a moment. -/
theorem occurs_of_reply (caller : Caller) (timer : Timer) (q : Ask Connection.Question)
    (s : Stage) :
    ∃ m : Moment, m.Occurs caller timer ∧ m.start = s.now ∧
      let answered := caller.reply timer (Stage.connect caller timer) (·.now)
        (fun now s => { s with now }) q s
      m.event = ⟨q, answered.1⟩ ∧ m.finish = answered.2.now := by
  cases q with
  | cancelled => exact ⟨_, .cancelled s.now s.breaker, rfl, rfl, rfl⟩
  | timeLeft => exact ⟨_, .timeLeft s.now s.breaker, rfl, rfl, rfl⟩
  | pause d => exact ⟨_, .pause s.now s.breaker d, rfl, rfl, rfl⟩
  | other q =>
    cases q with
    | enter => exact ⟨_, .enter s.now s.breaker, rfl, rfl, rfl⟩
    | settle a o => exact ⟨_, .settle s.now s.breaker a o, rfl, rfl, rfl⟩
    | take => exact ⟨_, .take s.now s.breaker _, rfl, rfl, rfl⟩
    | send request patience within =>
      exact ⟨_, .exchange s.now s.breaker (s.script.headD Stage.exhausted) request patience within,
        rfl, rfl, rfl⟩

/-- Whatever is played on a stage has its timeline. -/
theorem exists_of_play {α : Type} (call : Call α) (s : Stage) :
    ∃ moments, Timeline caller timer s.now moments (s.play caller timer call).2.now ∧
      Runs call (moments.map (·.event)) (s.play caller timer call).1 := by
  induction call generalizing s with
  | done a => exact ⟨[], .nil _, .done a⟩
  | ask q next ih =>
    obtain ⟨m, occurs, hs, he, hf⟩ := occurs_of_reply caller timer q s
    obtain ⟨moments, time, run⟩ := ih _ _
    refine ⟨m :: moments, ?_, ?_⟩
    · rw [← hs]
      exact .cons occurs (hf ▸ time)
    · rw [List.map_cons, he]
      exact .ask _ run

/-! ## A command on a clock -/

section

variable {β : Type} {c : Client} {command : Command} {extract : Envelope → Except Verdict β}
  {answer : Except Failure β}

/-- A command that settles as ignored leaves the streak at every moment. -/
theorem keepsStreak_of_ignored (time : Timeline caller timer start moments finish)
    (run : Runs (c.execute command extract) (moments.map (·.event)) answer)
    {before : List Event} {a : Admission}
    (hs : moments.map (·.event) = before ++ [⟨.other (.settle a .ignored), ()⟩]) :
    ∀ m ∈ moments, m.KeepsStreak := by
  intro m hm
  refine (time.bounds.2 m hm).1.keepsStreak fun a' o u he => ?_
  obtain ⟨earlier, later, rfl⟩ := List.append_of_mem hm
  rw [List.map_append, List.map_cons, he] at run hs
  rw [nil_of_settle run] at hs
  cases (List.append_inj' hs rfl).2
  rfl

/-- What remains of a command that gives up after a moment. -/
theorem of_retire (time : Timeline caller timer start (earlier ++ m :: later) finish)
    (run : Runs (c.execute command extract) ((earlier ++ m :: later).map (·.event)) answer)
    {a : Admission} {f : Failure}
    (rest : Runs (retire a f) (later.map (·.event)) answer) :
    answer = .error f ∧ finish = m.finish ∧ (∀ e ∈ later, ¬e.IsExchange) ∧
      ∀ e ∈ earlier ++ m :: later, e.KeepsStreak := by
  obtain ⟨hl, rfl⟩ := runs_retire_iff.1 rest
  have keeps : ∀ e ∈ earlier ++ m :: later, e.KeepsStreak := by
    have hs : (earlier ++ m :: later).map (·.event) =
        earlier.map (·.event) ++ [m.event] ++ [⟨.other (.settle a .ignored), ()⟩] := by
      simp [hl]
    exact keepsStreak_of_ignored time run hs
  obtain ⟨settled, last, rfl, he, hlast⟩ := List.map_eq_cons_iff.1 hl
  obtain rfl := List.map_eq_nil_iff.1 hlast
  obtain ⟨-, -, h⟩ := time.append_cons
  obtain ⟨hstart, occurs, h⟩ := h.cons_inv
  have instant : settled.finish = settled.start := by
    cases occurs <;> cases he
    rfl
  refine ⟨rfl, ?_, ?_, keeps⟩
  · rw [h.nil_inv, instant, hstart]
  · rw [List.forall_mem_singleton, Moment.IsExchange, he]
    exact nofun

/-- A suspension begins with the caller standing by, and takes no longer than it has left. -/
theorem suspended (mono : timer.Monotone)
    (time : Timeline caller timer start (earlier ++ m :: later) finish)
    (run : Runs (c.execute command extract) ((earlier ++ m :: later).map (·.event)) answer)
    (kind : (∃ d cut, m.event = ⟨.pause d, cut⟩) ∨ m.IsExchange) :
    caller.hasCancelled m.start = false ∧
      ∀ left ∈ caller.timeLeft m.start, m.due ≤ timer.wake m.start left := by
  obtain ⟨before, occurs, -⟩ := time.append_cons
  rw [List.map_append, List.map_cons] at run
  cases occurs with
  | cancelled | timeLeft | take | enter | settle =>
    rcases kind with ⟨_, _, h⟩ | h <;> cases h
  | pause now b d =>
    obtain ⟨a, next, ⟨⟨heard, known, left, wanted, hheard, rfl, -⟩, -⟩, -⟩ :=
      placed_of_runs run nofun
    obtain ⟨here, reported⟩ := before.of_asked hheard
    refine ⟨here, fun l hl => mono _ _ _ ?_⟩
    rw [reported, Option.mem_def.1 hl]
    exact Nat.min_le_right _ _
  | exchange now b cue request patience within =>
    obtain ⟨a, next, ⟨⟨heard, known, hheard⟩, -⟩, -⟩ := placed_of_runs run nofun
    obtain ⟨here, reported⟩ := before.of_asked hheard
    exact ⟨here, fun l hl =>
      (Stage.ending_staying_bounds caller timer now cue patience within).2 l (reported.trans hl)⟩

/-- What remains of a command that meets its deadline. -/
theorem retires_of_meetsDeadline {f : Failure}
    (run : Runs (c.execute command extract) ((earlier ++ m :: later).map (·.event)) answer)
    (meets : MeetsDeadline c extract (earlier.map (·.event)) m.event f) :
    ∃ a, Runs (retire a f) (later.map (·.event)) answer := by
  rw [List.map_append, List.map_cons] at run
  generalize earlier.map (·.event) = before at run meets
  generalize m.event = e at run meets
  have known := meets
  cases meets with
  | token | waiting | granted | sent =>
    obtain ⟨a, next, placed, rest⟩ := placed_of_runs run nofun
    rw [placed _ _ known] at rest
    exact ⟨a, rest⟩
  | awaited | backedOff =>
    obtain ⟨a, next, ⟨-, -, placed⟩, rest⟩ := placed_of_runs run nofun
    rw [placed _ known] at rest
    exact ⟨a, rest⟩
  | exchanged =>
    obtain ⟨a, next, ⟨-, hcut⟩, rest⟩ := placed_of_runs run nofun
    rw [hcut] at rest
    exact ⟨a, rest⟩

/-- What remains of a command whose caller cancels in a suspension. -/
theorem retires_of_cancel
    (run : Runs (c.execute command extract) ((earlier ++ m :: later).map (·.event)) answer)
    (cut : (∃ d, m.event = ⟨.pause d, true⟩) ∨ ∃ request patience within,
      m.event = ⟨.other (.send request patience within), .cut .cancelled⟩) :
    ∃ a, Runs (retire a .canceled) (later.map (·.event)) answer := by
  rw [List.map_append, List.map_cons] at run
  rcases cut with ⟨d, he⟩ | ⟨request, patience, within, he⟩
  · rw [he] at run
    obtain ⟨a, next, ⟨-, hcut, -⟩, rest⟩ := placed_of_runs run nofun
    rw [hcut] at rest
    exact ⟨a, rest⟩
  · rw [he] at run
    obtain ⟨a, next, ⟨-, hcut⟩, rest⟩ := placed_of_runs run nofun
    rw [hcut] at rest
    exact ⟨a, rest⟩

theorem of_cancel (mono : timer.Monotone)
    (time : Timeline caller timer start (earlier ++ m :: later) finish)
    (run : Runs (c.execute command extract) ((earlier ++ m :: later).map (·.event)) answer)
    {at' : Instant} (hc : caller.cancelsAt = some at') (began : m.start ≤ at')
    (early : at' < m.due) :
    answer = .error .canceled ∧ finish = at' ∧
      (∀ e ∈ earlier ++ m :: later, e.IsExchange → e.start < at') ∧
      ∀ e ∈ earlier ++ m :: later, e.KeepsStreak := by
  obtain ⟨before, occurs, -⟩ := time.append_cons
  obtain ⟨hfinish, cut⟩ := occurs.of_cancel hc began early
  have kind : (∃ d cut, m.event = ⟨.pause d, cut⟩) ∨ m.IsExchange := by
    rcases cut with ⟨d, he⟩ | ⟨_, _, _, he⟩
    · exact .inl ⟨d, true, he⟩
    · rw [Moment.IsExchange, he]
      exact .inr rfl
  -- The suspension began with a check, so that the caller cancels after its beginning.
  obtain ⟨here, -⟩ := suspended mono time run kind
  have soon : m.start < at' := by simpa [Caller.hasCancelled, hc] using here
  obtain ⟨a, rest⟩ := retires_of_cancel run cut
  obtain ⟨ha, hf, hl, keeps⟩ := time.of_retire run rest
  refine ⟨ha, hf.trans hfinish, fun e he hx => ?_, keeps⟩
  rcases List.mem_append.1 he with he | he
  · have started := before.bounds.2 e he
    exact Nat.lt_of_le_of_lt (Nat.le_trans started.1.bounds.1 started.2) soon
  · rcases List.mem_cons.1 he with rfl | he
    · exact soon
    · exact absurd hx (hl e he)

theorem finish_le_wake (mono : timer.Monotone)
    (time : Timeline caller timer start (earlier ++ m :: later) finish)
    (run : Runs (c.execute command extract) ((earlier ++ m :: later).map (·.event)) answer)
    {left : Duration} (hleft : caller.timeLeft m.start = some left) :
    m.finish ≤ timer.wake m.start left := by
  obtain ⟨-, occurs, -⟩ := time.append_cons
  by_cases kind : (∃ d cut, m.event = ⟨.pause d, cut⟩) ∨ m.IsExchange
  · exact Nat.le_trans occurs.bounds.2 ((suspended mono time run kind).2 left hleft)
  · have instant : m.finish = m.start := by
      cases occurs with
      | cancelled | timeLeft | take | enter | settle => rfl
      | pause => exact absurd (.inl ⟨_, _, rfl⟩) kind
      | exchange => exact absurd (.inr rfl) kind
    rw [instant]
    exact Nat.le_trans (Nat.le_add_right _ _) (timer.le_wake _ _)

/-- A command whose caller cancels while it is suspended returns at that instant, without another
exchange. No suspension is longer than the time that its caller has left, as the timer counts it. A
command that meets its deadline ends with what `MeetsDeadline` says: it is cancelled in an exchange
or between two, and the limiter refuses it in the wait for a token. None of this changes the streak
of failures. -/
theorem interrupted_at_once (mono : timer.Monotone)
    (time : Timeline caller timer start moments finish)
    (run : Runs (c.execute command extract) (moments.map (·.event)) answer) :
    (∀ m ∈ moments, ∀ at' ∈ caller.cancelsAt, m.start ≤ at' → at' < m.due →
      answer = .error .canceled ∧ finish = at' ∧
        (∀ e ∈ moments, e.IsExchange → e.start < at') ∧ ∀ e ∈ moments, e.KeepsStreak) ∧
    (∀ m ∈ moments, ∀ left ∈ caller.timeLeft m.start, m.finish ≤ timer.wake m.start left) ∧
    ∀ earlier m later f, moments = earlier ++ m :: later →
      MeetsDeadline c extract (earlier.map (·.event)) m.event f →
      answer = .error f ∧ ∀ e ∈ moments, e.KeepsStreak := by
  refine ⟨fun m hm at' hc began early => ?_, fun m hm left hleft => ?_,
    fun earlier m later f hs meets => ?_⟩
  · obtain ⟨earlier, later, rfl⟩ := List.append_of_mem hm
    exact of_cancel mono time run hc began early
  · obtain ⟨earlier, later, rfl⟩ := List.append_of_mem hm
    exact finish_le_wake mono time run hleft
  · subst hs
    obtain ⟨a, rest⟩ := retires_of_meetsDeadline run meets
    obtain ⟨ha, -, -, keeps⟩ := time.of_retire run rest
    exact ⟨ha, keeps⟩

end

/-- A caller cancels in the pause after an exchange that timed out. -/
theorem interrupted_in_backoff :
    let c : Client := ⟨⟨"", "", "", ""⟩, "", 100, ⟨2, 10, fun _ => 10⟩, 1⟩
    let caller : Caller := ⟨some 5, fun now => some (8 - now)⟩
    ∃ moments finish answer, Timer.exact.Monotone ∧ Timeline caller .exact 0 moments finish ∧
      Runs (c.execute ⟨"", []⟩ Except.ok) (moments.map (·.event)) answer ∧
      answer = .error .canceled ∧ finish = 5 ∧ ∀ e ∈ moments, e.KeepsStreak := by
  intro c caller
  let b : Breaker := ⟨⟨5, 30⟩, .closed, 2, some 0, false, 0, 0⟩
  let b' : Breaker := { b with total := 1 }
  let request : Request := .ofCommand ⟨"", []⟩ c.credentials c.endpoint
  let gone : Moment := ⟨⟨.pause 5, true⟩, 3, 8, 5, b', b'⟩
  let moments : List Moment :=
    [⟨⟨.other .enter, .ok .normal⟩, 0, 0, 0, b, b'⟩,
      ⟨⟨.cancelled, false⟩, 0, 0, 0, b', b'⟩, ⟨⟨.timeLeft, some 8⟩, 0, 0, 0, b', b'⟩,
      ⟨⟨.cancelled, false⟩, 0, 0, 0, b', b'⟩, ⟨⟨.timeLeft, some 8⟩, 0, 0, 0, b', b'⟩,
      ⟨⟨.other .take, none⟩, 0, 0, 0, b', b'⟩,
      ⟨⟨.cancelled, false⟩, 0, 0, 0, b', b'⟩, ⟨⟨.timeLeft, some 8⟩, 0, 0, 0, b', b'⟩,
      ⟨⟨.timeLeft, some 8⟩, 0, 0, 0, b', b'⟩,
      ⟨⟨.other (.send request 100 (some 8)), .answered (.error .timeout)⟩, 0, 3, 3, b', b'⟩,
      ⟨⟨.cancelled, false⟩, 3, 3, 3, b', b'⟩, ⟨⟨.timeLeft, some 5⟩, 3, 3, 3, b', b'⟩,
      ⟨⟨.timeLeft, some 5⟩, 3, 3, 3, b', b'⟩, gone,
      ⟨⟨.other (.settle .normal .ignored), ()⟩, 5, 5, 5, b', b'⟩]
  have time : Timeline caller .exact 0 moments 5 :=
    .cons (.enter 0 b) <| .cons (.cancelled 0 b') <| .cons (.timeLeft 0 b') <|
    .cons (.cancelled 0 b') <| .cons (.timeLeft 0 b') <| .cons (.take 0 b' none) <|
    .cons (.cancelled 0 b') <| .cons (.timeLeft 0 b') <| .cons (.timeLeft 0 b') <|
    .cons (.exchange 0 b' ⟨3, .error .timeout⟩ request 100 (some 8)) <|
    .cons (.cancelled 3 b') <| .cons (.timeLeft 3 b') <| .cons (.timeLeft 3 b') <|
    .cons (.pause 3 b' 5) <| .cons (.settle 5 b' .normal .ignored) <| .nil 5
  have run : Runs (c.execute ⟨"", []⟩ Except.ok) (moments.map (·.event))
      (.error .canceled) := by
    rw [execute_eq]
    refine .ask _ ?_
    change Runs ((c.attempts ⟨"", []⟩ Except.ok).andThen _) _ _
    rw [show c.attempts ⟨"", []⟩ Except.ok = _ from executeFrom_eq _ _ _ 1 0]
    -- The checks of the retry loop and of the limiter, the token, and the exchange.
    refine .ask _ <| .ask _ <| .ask _ <| .ask _ <| .ask _ <| .ask _ <| .ask _ <| .ask _ <| .ask _ ?_
    -- The pause, which the caller cuts short.
    exact .ask _ <| .ask _ <| .ask _ <| .ask _ <| .ask _ <| .done _
  obtain ⟨ha, hf, -, keeps⟩ := (interrupted_at_once Timer.monotone_exact time run).1 gone
    (by simp [moments]) 5 rfl (by decide) (by decide)
  exact ⟨moments, 5, _, Timer.monotone_exact, time, run, ha, hf, keeps⟩

end Timeline

end Registrar
