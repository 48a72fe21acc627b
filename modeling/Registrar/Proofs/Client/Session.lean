import Registrar.Proofs.Breaker.Tally
import Registrar.Proofs.Client.Questions

/-!
# Commands one after another

A `Session` is a client whose commands follow one another: each ends or is dropped before the next
is issued. Time passes, the breaker is reset and its owner changes the limiter at any moment; the
limiter, the transport and the callers answer as they like. `seen` is what an observer notes of it,
latest first, and `streak` the failures in a row among that: `refused_iff` says that the breaker
refuses by them alone.
-/

namespace Registrar

/-- How a finished command counts, told by what it returned. -/
def Outcome.ofReturn : Option Failure → Outcome
  | none => .success
  | some (.transient ..) | some (.remoteRejected ..) | some (.protocolError _) => .failure
  | some _ => .ignored

/-- Runs a command and gives the failure that it returns, if there is one. -/
def Client.report {β : Type} (c : Client) (command : Command)
    (extract : Envelope → Except Verdict β) : Call (Option Failure) :=
  (c.execute command extract).andThen fun
    | .ok _ => .done none
    | .error f => .done (some f)

namespace Session

inductive Notice
  | issued (at_ : Instant)
  | returned (at_ : Instant) (failure : Option Failure)
  | dropped
  | reset
  deriving DecidableEq, Repr

/-- A command that is under way: its permit, and what is left of it. -/
structure Underway where
  held : Option Admission
  rest : Call (Option Failure)

end Session

structure Session where
  now : Instant
  breaker : Breaker
  current : Option Session.Underway
  /-- Latest first. -/
  seen : List Session.Notice

namespace Session

def held (w : Session) : Option Admission := w.current.bind (·.held)

/-- Goes on with a command, which returns at once when it is done. -/
def proceed (w : Session) (held : Option Admission) : Call (Option Failure) → Session
  | .done f => { w with current := none, seen := .returned w.now f :: w.seen }
  | .ask q next => { w with current := some ⟨held, .ask q next⟩ }

/-- A command that is dropped settles its permit as ignored. -/
def abandon (b : Breaker) (now : Instant) : Option Admission → Breaker
  | none => b
  | some a => b.settle now a .ignored

/-- The breaker answers the first question of a command and the last; `hear` is any other question,
with any answer. -/
inductive Step (c : Client) (w : Session) : Session → Prop
  | wait (d : Duration) : Step c w { w with now := w.now + d }
  | reset : Step c w { w with breaker := w.breaker.reset, seen := .reset :: w.seen }
  | issue {β : Type} (command : Command) (extract : Envelope → Except Verdict β)
      {next : Except Refusal Admission → Call (Option Failure)} (idle : w.current = none)
      (first : c.report command extract = .ask (.other .enter) next) :
      Step c w (({ w with breaker := (w.breaker.enter w.now).2, seen := .issued w.now :: w.seen } :
        Session).proceed (w.breaker.enter w.now).1.toOption (next (w.breaker.enter w.now).1))
  | settle {held : Option Admission} {a : Admission} {o : Outcome}
      {next : Unit → Call (Option Failure)}
      (asks : w.current = some ⟨held, .ask (.other (.settle a o)) next⟩) :
      Step c w (({ w with breaker := w.breaker.settle w.now a o } : Session).proceed none (next ()))
  | hear {held : Option Admission} {q : Ask Connection.Question}
      {next : Ask.Answer Connection.Answer q → Call (Option Failure)}
      (asks : w.current = some ⟨held, .ask q next⟩) (other : Connection.PassesBreaker q)
      (answer : Ask.Answer Connection.Answer q) : Step c w (w.proceed held (next answer))
  | drop {u : Underway} (runs : w.current = some u) :
      Step c w { w with
        breaker := abandon w.breaker w.now u.held
        current := none
        seen := .dropped :: w.seen }

/-- The sessions of a client on a new breaker. -/
inductive Reached (c : Client) (b : Breaker) : Session → Prop
  | start (now : Instant) : Reached c b ⟨now, b, none, []⟩
  | step {w w' : Session} (before : Reached c b w) (s : Step c w w') : Reached c b w'

/-- The instants of the failures in a row. -/
def streak : List Notice → List Instant
  | [] => []
  | .returned t f :: seen => Breaker.extend (streak seen) t (.ofReturn f)
  | .reset :: _ => []
  | .issued _ :: seen | .dropped :: seen => streak seen

/-- Whether a notice clears the streak or extends it. -/
def Notice.tells : Notice → Bool
  | .returned _ f => Outcome.ofReturn f ≠ .ignored
  | .reset => true
  | .issued _ | .dropped => false

/-- What follows the issue of a command begins with its end, resets aside. -/
def ending : List Notice → Option Notice
  | [] => none
  | n :: later => (ending later).or (if n = .reset then none else some n)

/-- The command that was issued before these notices was refused, with these numbers. -/
def Refused (later : List Notice) (failures millis : Nat) : Prop :=
  ∃ t, ending later = some (.returned t (some (.circuitOpen failures millis)))

/-! ## What is left of a command -/

section

variable {c : Client} {a : Admission} {β : Type}

/-- The end of an admitted command. -/
def conclude (a : Admission) (result : Except (RetryFailure Verdict) β) : Call (Option Failure) :=
  .ask (.other (.settle a (judge result))) fun _ =>
    match result with
    | .ok _ => .done none
    | .error f => .done (some f.toFailure)

theorem report_eq (c : Client) (command : Command) (extract : Envelope → Except Verdict β) :
    c.report command extract =
      .ask (.other .enter) fun (answer : Except Refusal Admission) =>
        match answer with
        | .error refusal => .done (some refusal.toFailure)
        | .ok a => (c.attempts command extract).andThen (conclude a) := by
  rw [Client.report, execute_eq]
  refine congrArg (Dialogue.ask (Ask.other Connection.Question.enter)) (funext fun answer => ?_)
  cases answer with
  | error refusal => rfl
  | ok a =>
    refine (Dialogue.andThen_andThen _ _ _).trans ?_
    refine congrArg (Dialogue.andThen (c.attempts command extract)) (funext fun result => ?_)
    refine congrArg (Dialogue.ask _) (funext fun _ => ?_)
    cases result <;> rfl

/-- The rest of a command that holds this permit: it asks on, though not the breaker, and in the end
settles the permit by what it returns. -/
inductive Holds (a : Admission) : Call (Option Failure) → Prop
  | asks {q : Ask Connection.Question} {next : Ask.Answer Connection.Answer q → Call (Option Failure)}
      (other : Connection.PassesBreaker q) (then_ : ∀ r, Holds a (next r)) : Holds a (.ask q next)
  | settles (f : Option Failure) (passed : ∀ n ms, f ≠ some (.circuitOpen n ms)) :
      Holds a (.ask (.other (.settle a (.ofReturn f))) fun _ => .done f)

/-- A verdict counts as the failure that it becomes. -/
theorem ofReturn_toFailure (v : Verdict) (attempts : Nat) :
    Outcome.ofReturn (some (v.toFailure attempts)) = v.outcome := by
  cases v <;> rfl

theorem toFailure_ne_circuitOpen (f : RetryFailure Verdict) (n ms : Nat) :
    f.toFailure ≠ .circuitOpen n ms := by
  rcases f with ⟨k, v⟩ | ⟨k, v⟩ | ⟨k, i⟩
  · cases v <;> nofun
  · cases v <;> nofun
  · nofun

theorem holds_conclude (a : Admission) (result : Except (RetryFailure Verdict) β) :
    Holds a (conclude a result) := by
  cases result with
  | ok _ => exact .settles none nofun
  | error f =>
    have hjudge : judge (.error f : Except (RetryFailure Verdict) β) =
        Outcome.ofReturn (some f.toFailure) := by
      rcases f with ⟨k, v⟩ | ⟨k, v⟩ | ⟨k, i⟩
      · exact (ofReturn_toFailure v k).symm
      · exact (ofReturn_toFailure v k).symm
      · rfl
    rw [conclude, hjudge]
    exact .settles (some f.toFailure) fun n ms h =>
      toFailure_ne_circuitOpen f n ms (Option.some.inj h)

theorem holds_andThen {d : Call (Except (RetryFailure Verdict) β)}
    (h : d.AsksOnly Connection.PassesBreaker) : Holds a (d.andThen (conclude a)) := by
  induction d with
  | done result => exact holds_conclude a result
  | ask q next ih => exact .asks h.1 fun r => ih r (h.2 r)

theorem proceed_of_holds {w : Session} {rest : Call (Option Failure)} (h : Holds a rest)
    (held : Option Admission) : w.proceed held rest = { w with current := some ⟨held, rest⟩ } := by
  cases h <;> rfl

end

/-! ## What is noted of a command -/

section

variable {l : BreakerLimit} {seen later earlier : List Notice} {n : Notice} {t : Instant}
  {f : Option Failure} {k ms : Nat}

/-- After these failures in a row a command is refused at `t`, with these numbers. -/
def Shut (l : BreakerLimit) (fs : List Instant) (t : Instant) (k ms : Nat) : Prop :=
  l.maxFailures ≤ fs.length ∧ ∃ last ∈ fs.head?, t - last ≤ l.resetTimeout ∧
    k = min fs.length Decimal.max32 ∧ ms = min (Duration.millis (t - last)) Decimal.max64

/-- The streak before each command decides on it. -/
def Law (l : BreakerLimit) (seen : List Notice) : Prop :=
  ∀ later t earlier, seen = later ++ .issued t :: earlier →
    ∀ k ms, Refused later k ms ↔ Shut l (streak earlier) t k ms

theorem not_refused_nil : ¬Refused [] k ms := nofun

/-- No notice changes what became of a command, unless it is a refusal. -/
theorem refused_cons_iff (hn : ∀ t k ms, n ≠ .returned t (some (.circuitOpen k ms))) :
    Refused (n :: later) k ms ↔ Refused later k ms := by
  unfold Refused
  rw [ending]
  cases ending later with
  | some e => rfl
  | none => split <;> simp [hn]

/-- Nor does the refusal of a later command. -/
theorem refused_cons_issued_iff :
    Refused (n :: .issued t :: later) k ms ↔ Refused later k ms := by
  refine Iff.trans ?_ (refused_cons_iff (n := .issued t) nofun)
  unfold Refused
  cases h : ending later <;> simp [ending, h]

theorem Law.cons (h : Law l seen) (hn : ∀ t k ms, n ≠ .returned t (some (.circuitOpen k ms)))
    (hi : ∀ t, n ≠ .issued t) : Law l (n :: seen) := by
  intro later t earlier hs k ms
  rcases List.cons_eq_append_iff.1 hs with ⟨-, he⟩ | ⟨later', rfl, rfl⟩
  · exact absurd (List.cons.inj he).1.symm (hi t)
  · rw [refused_cons_iff hn]
    exact h later' t earlier rfl k ms

theorem Law.admit (h : Law l seen) (hopen : ∀ k ms, ¬Shut l (streak seen) t k ms) :
    Law l (.issued t :: seen) := by
  intro later t' earlier hs k ms
  rcases List.cons_eq_append_iff.1 hs with ⟨rfl, he⟩ | ⟨later', rfl, rfl⟩
  · obtain ⟨h₁, rfl⟩ := List.cons.inj he
    cases h₁
    exact iff_of_false not_refused_nil (hopen k ms)
  · rw [refused_cons_iff (n := .issued t) nofun]
    exact h later' t' earlier rfl k ms

theorem Law.refuse (h : Law l seen)
    (hshut : ∀ k ms, Shut l (streak seen) t k ms ↔ f = some (.circuitOpen k ms)) :
    Law l (.returned t f :: .issued t :: seen) := by
  intro later t' earlier hs k ms
  rcases List.cons_eq_append_iff.1 hs with ⟨-, he⟩ | ⟨later', rfl, hs'⟩
  · cases (List.cons.inj he).1
  rcases List.cons_eq_append_iff.1 hs' with ⟨rfl, he⟩ | ⟨later'', rfl, rfl⟩
  · obtain ⟨h₁, rfl⟩ := List.cons.inj he
    cases h₁
    simp [hshut, Refused, ending]
  · rw [refused_cons_issued_iff]
    exact h later'' t' earlier rfl k ms

end

/-! ## What every session keeps -/

section

variable {c : Client} {b : Breaker} {l : BreakerLimit} {w w' : Session} {now : Instant}
  {fs : List Instant}

/-- The answer of the breaker, in the numbers that a command returns. -/
theorem shut_iff (h : b.Tallies l now fs none) (hpos : 0 < l.maxFailures)
    (hmax : l.maxFailures ≤ Decimal.max32) (k ms : Nat) :
    Shut l fs now k ms ↔ ∃ r, (b.enter now).1 = .error r ∧ r.toFailure = .circuitOpen k ms := by
  simp only [h.enter_eq_error_iff hpos hmax]
  constructor
  · rintro ⟨hlen, u, hu, hwindow, rfl, rfl⟩
    exact ⟨_, ⟨hlen, u, hu, hwindow, rfl⟩, rfl⟩
  · rintro ⟨_, ⟨hlen, u, hu, hwindow, rfl⟩, hr⟩
    cases hr
    exact ⟨hlen, u, hu, hwindow, rfl, rfl⟩

/-- The breaker tallies the streak, a command under way holds the permit that is out, and the streak
decided on every command so far. -/
structure Sound (l : BreakerLimit) (w : Session) : Prop where
  tallies : w.breaker.Tallies l w.now (streak w.seen) w.held
  holds : ∀ u, w.current = some u → ∃ a, u.held = some a ∧ Holds a u.rest
  law : Law l w.seen

theorem sound_start (hb : Breaker.new l = .ok b) (now : Instant) :
    Sound l ⟨now, b, none, []⟩ where
  tallies := .of_new hb now
  holds := nofun
  law later t earlier hs := by cases later <;> cases hs

theorem Sound.issue (h : Sound l w) (hpos : 0 < l.maxFailures)
    (hmax : l.maxFailures ≤ Decimal.max32) {β : Type} {command : Command}
    {extract : Envelope → Except Verdict β}
    {next : Except Refusal Admission → Call (Option Failure)} (idle : w.current = none)
    (first : c.report command extract = .ask (.other .enter) next) :
    Sound l (({ w with
      breaker := (w.breaker.enter w.now).2, seen := .issued w.now :: w.seen } : Session).proceed
        (w.breaker.enter w.now).1.toOption (next (w.breaker.enter w.now).1)) := by
  rw [report_eq] at first
  cases first
  have ht : w.breaker.Tallies l w.now (streak w.seen) none := by
    simpa [held, idle] using h.tallies
  have henter := ht.enter hpos hmax
  have hshut := shut_iff ht hpos hmax
  cases he : (w.breaker.enter w.now).1 with
  | error r =>
    rw [he] at henter
    refine ⟨henter, nofun, h.law.refuse fun k ms => ?_⟩
    simp [hshut, he]
  | ok a =>
    rw [he] at henter
    have hrest := holds_andThen (a := a) (attempts_asksOnly c command extract)
    simp only [Except.toOption, proceed_of_holds hrest]
    refine ⟨henter, ?_, h.law.admit fun k ms => ?_⟩
    · rintro _ ⟨⟩
      exact ⟨a, rfl, hrest⟩
    · simp [hshut, he]

theorem Sound.step (h : Sound l w) (hpos : 0 < l.maxFailures)
    (hmax : l.maxFailures ≤ Decimal.max32) (s : Step c w w') : Sound l w' := by
  cases s with
  | wait d => exact ⟨h.tallies.wait d, h.holds, h.law⟩
  | reset => exact ⟨h.tallies.reset hpos, h.holds, h.law.cons nofun nofun⟩
  | issue command extract idle first => exact h.issue hpos hmax idle first
  | @settle _ a _ _ asks =>
    obtain ⟨_, ⟨⟩, hrest⟩ := h.holds _ asks
    -- The breaker is asked to settle only the permit that is out, by what is then returned.
    cases hrest with
    | asks other => exact other.elim
    | settles f passed =>
      have ht : w.breaker.Tallies l w.now (streak w.seen) (some a) := by
        simpa [held, asks] using h.tallies
      refine ⟨ht.settle hpos hmax _, nofun, h.law.cons ?_ nofun⟩
      rintro t k ms ⟨⟩
      exact passed k ms rfl
  | hear asks other answer =>
    obtain ⟨a, ha, hrest⟩ := h.holds _ asks
    cases hrest with
    | asks _ then_ =>
      rw [proceed_of_holds (then_ answer)]
      refine ⟨?_, ?_, h.law⟩
      · simpa [held, asks] using h.tallies
      · rintro _ ⟨⟩
        exact ⟨a, ha, then_ answer⟩
    | settles => exact other.elim
  | drop runs =>
    obtain ⟨a, ha, -⟩ := h.holds _ runs
    have ht : w.breaker.Tallies l w.now (streak w.seen) (some a) := by
      simpa [held, runs, ha] using h.tallies
    rw [ha]
    exact ⟨ht.settle hpos hmax .ignored, nofun, h.law.cons nofun nofun⟩

theorem Reached.sound (hb : Breaker.new l = .ok b) (hmax : l.maxFailures ≤ Decimal.max32)
    (hw : Reached c b w) : Sound l w := by
  induction hw with
  | start now => exact sound_start hb now
  | step _ s ih => exact ih.step (Nat.pos_of_ne_zero (Breaker.new_eq_ok_iff.1 hb).1) hmax s

theorem streak_filter_tells (seen : List Notice) :
    streak (seen.filter Notice.tells) = streak seen := by
  induction seen with
  | nil => rfl
  | cons n seen ih =>
    cases n with
    | issued | dropped => exact ih
    | reset => rfl
    | returned t f =>
      cases ho : Outcome.ofReturn f <;> simp [Notice.tells, streak, Breaker.extend, ho, ih]

/-- A command is refused exactly when the failures in a row before it have reached the limit and the
window since the last of them is not over; the refusal tells their number, in 32 bits, and the whole
milliseconds since the last, in 64. What says nothing of the streak decides on no later command. -/
theorem refused_iff (hb : Breaker.new l = .ok b) (hmax : l.maxFailures ≤ Decimal.max32)
    (hw : Reached c b w) {later earlier : List Notice} {t : Instant}
    (hs : w.seen = later ++ .issued t :: earlier) (k ms : Nat) :
    (Refused later k ms ↔
      l.maxFailures ≤ (streak earlier).length ∧
        ∃ last ∈ (streak earlier).head?, t - last ≤ l.resetTimeout ∧
          k = min (streak earlier).length Decimal.max32 ∧
          ms = min (Duration.millis (t - last)) Decimal.max64) ∧
    ∀ {w' : Session} {later' earlier' : List Notice}, Reached c b w' →
      w'.seen = later' ++ .issued t :: earlier' →
      earlier'.filter Notice.tells = earlier.filter Notice.tells →
      (Refused later' k ms ↔ Refused later k ms) := by
  have law := (hw.sound hb hmax).law later t earlier hs k ms
  refine ⟨law, fun {w' later' earlier'} hw' hs' heq => ?_⟩
  have hstreak : streak earlier' = streak earlier := by
    rw [← streak_filter_tells earlier', heq, streak_filter_tells]
  rw [law, ← hstreak]
  exact (hw'.sound hb hmax).law later' t earlier' hs' k ms

/-- A command that times out opens a breaker of one failure, and the next one is refused. -/
theorem refused_after_timeout :
    let c : Client := ⟨⟨"", "", "", ""⟩, "", 0, ⟨1, 0, fun _ => 0⟩, 1⟩
    let b : Breaker := ⟨⟨1, 5000000⟩, .closed, 0, none, false, 0, 0⟩
    ∃ w later earlier, Breaker.new ⟨1, 5000000⟩ = .ok b ∧ (1 : Nat) ≤ Decimal.max32 ∧
      Reached c b w ∧ w.seen = later ++ .issued 3000000 :: earlier ∧ Refused later 1 3 := by
  intro c b
  have first := report_eq c ⟨"", []⟩ Except.ok
  rw [show c.attempts ⟨"", []⟩ Except.ok = _ from executeFrom_eq _ _ _ 0 0] at first
  have h := (Reached.start (c := c) (b := b) 0).step (.issue _ _ rfl first)
  -- The retry loop and the limiter check the caller, and the limiter takes a token.
  have h := h.step (.hear (q := .cancelled) rfl trivial false)
  have h := h.step (.hear (q := .timeLeft) rfl trivial none)
  have h := h.step (.hear (q := .cancelled) rfl trivial false)
  have h := h.step (.hear (q := .timeLeft) rfl trivial none)
  have h := h.step (.hear (q := .other .take) rfl trivial none)
  -- The exchange times out, and there is no other attempt.
  have h := h.step (.hear (q := .cancelled) rfl trivial false)
  have h := h.step (.hear (q := .timeLeft) rfl trivial none)
  have h := h.step (.hear (q := .timeLeft) rfl trivial none)
  have h := h.step (.hear (q := .other (.send ..)) rfl trivial Connection.Sent.timedOut)
  have h := h.step (.settle rfl)
  have opened : Reached c b ⟨0, ⟨⟨1, 5000000⟩, .opened, 1, some 0, false, 1, 0⟩, none,
      [.returned 0 (some (.transient 1 ("attempt timed out after " ++ Duration.text 0))),
        .issued 0]⟩ := h
  have h := (opened.step (.wait 3000000)).step (.issue ⟨"", []⟩ Except.ok rfl rfl)
  have refused : Reached c b ⟨3000000, ⟨⟨1, 5000000⟩, .opened, 1, some 0, false, 1, 1⟩, none,
      [.returned 3000000 (some (.circuitOpen 1 3)), .issued 3000000,
        .returned 0 (some (.transient 1 ("attempt timed out after " ++ Duration.text 0))),
        .issued 0]⟩ := h
  exact ⟨_, [_], _, rfl, by decide, refused, rfl,
    (refused_iff (l := ⟨1, 5000000⟩) rfl (by decide) refused rfl 1 3).1.2
      ⟨by decide, 0, rfl, by decide, by decide, by decide⟩⟩

end

end Session

end Registrar
