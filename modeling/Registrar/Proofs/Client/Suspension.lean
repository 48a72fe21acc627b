import Registrar.Proofs.Client.Attempts

/-!
# Where a command is suspended

A command is suspended in three places: while it waits for a token, while it pauses between two
attempts and while a request is exchanged. `Placed` says of each question what it follows and which
answers end the command: a cancelled wait, an exchange that was cut short, a deadline before the
token or before the end of a pause. Main statement: `placed_of_reaches`, every question but the
first is in its place. So after such an answer the command only settles its permit, as ignored
(`retire`).
-/

namespace Registrar

open Dialogue Retry

namespace Dialogue

variable {Q : Type} {A : Q → Type} {α : Type}
  {P : List (Exchange Q A) → (q : Q) → (A q → Dialogue Q A α) → Prop}

/-- Every question that the dialogue can come to has this property, given what was heard before. -/
def Always (P : List (Exchange Q A) → (q : Q) → (A q → Dialogue Q A α) → Prop) :
    List (Exchange Q A) → Dialogue Q A α → Prop
  | _, done _ => True
  | heard, ask q next => P heard q next ∧ ∀ r, (next r).Always P (heard ++ [⟨q, r⟩])

/-- A run that goes through an exchange was open there. -/
theorem runs_append_cons {d : Dialogue Q A α} {before after : List (Exchange Q A)} {q : Q} {r : A q}
    {a : α} (h : Runs d (before ++ ⟨q, r⟩ :: after) a) :
    ∃ next, Reaches d before (.ask q next) ∧ Runs (next r) after a := by
  induction before generalizing d with
  | nil =>
    cases h with
    | ask r rest => exact ⟨_, .here _, rest⟩
  | cons e before ih =>
    cases h with
    | ask r' rest =>
      obtain ⟨next, hr, ha⟩ := ih rest
      exact ⟨next, .ask r' hr, ha⟩

theorem Always.of_reaches {heard events : List (Exchange Q A)} {d : Dialogue Q A α} {q : Q}
    {next : A q → Dialogue Q A α} (h : d.Always P heard) (hr : Reaches d events (.ask q next)) :
    P (heard ++ events) q next := by
  generalize he : Dialogue.ask q next = e at hr
  induction hr generalizing heard with
  | here d =>
    subst he
    rw [List.append_nil]
    exact h.1
  | @ask q' _ events _ r _ ih =>
    have := ih (h.2 r) he
    rwa [List.append_assoc] at this

end Dialogue

namespace Client

/-! ## What was heard last -/

/-- The event is one of the connection, not of the caller. -/
def Event.isWord : Event → Bool
  | ⟨.other _, _⟩ => true
  | _ => false

/-- The last that the connection said. -/
def lastWord (events : List Event) : Option Event := (events.filter Event.isWord).getLast?

/-- The last that was heard came from the caller. -/
def FromCaller (events : List Event) : Prop :=
  ∀ before e, events = before ++ [e] → e.1.ToCaller

/-- The limiter had no token and named this wait, and the connection was not asked again. -/
def Awaits (events : List Event) (wait : Duration) : Prop :=
  lastWord events = some ⟨.other .take, some wait⟩

section

variable {β : Type} (c : Client) (extract : Envelope → Except Verdict β)

/-- The delay before the next attempt, if an exchange came last and is to be repeated. Attempts are
counted from zero. -/
def backoff? (events : List Event) : Option Duration :=
  match lastWord events with
  | some ⟨.other (.send ..), sent⟩ =>
    let attempt := (exchanges events).length - 1
    match c.readSent extract sent with
    | .ok _ => none
    | .error v => pauseAfter c.plan attempt (v.policy attempt)
  | _ => none

/-- The command meets its deadline in an event that follows these, and ends with this failure. -/
inductive MeetsDeadline : List Event → Event → Failure → Prop
  /-- The limiter names a wait that is longer than the time left. -/
  | token (before : List Event) {wait left : Duration} (short : left < wait) :
      MeetsDeadline (before ++ [⟨.other .take, some wait⟩]) ⟨.timeLeft, some left⟩
        .rateLimitExceeded
  /-- No time is left to wait for a token. -/
  | waiting {before : List Event} {wait : Duration} (awaits : Awaits before wait) :
      MeetsDeadline (before ++ [⟨.cancelled, false⟩]) ⟨.timeLeft, some 0⟩ .rateLimitExceeded
  /-- The wait for a token is over too soon. -/
  | awaited {before : List Event} {wait d : Duration} (awaits : Awaits before wait)
      (short : d < wait) : MeetsDeadline before ⟨.pause d, false⟩ .rateLimitExceeded
  /-- No time is left after the token is given, for the exchange. -/
  | granted (before : List Event) :
      MeetsDeadline (before ++ [granted] ++ [⟨.cancelled, false⟩]) ⟨.timeLeft, some 0⟩ .canceled
  /-- The exchange is cut short. -/
  | exchanged (before : List Event) (request : Request) (patience : Duration)
      (within : Option Duration) :
      MeetsDeadline before ⟨.other (.send request patience within), .cut .deadlineExceeded⟩
        .canceled
  /-- No time is left after an exchange, for the backoff. -/
  | sent (before : List Event) (request : Request) (patience : Duration)
      (within : Option Duration) (sent : Connection.Sent) :
      MeetsDeadline
        (before ++ [⟨.other (.send request patience within), sent⟩] ++ [⟨.cancelled, false⟩])
        ⟨.timeLeft, some 0⟩ .canceled
  /-- The backoff is over too soon. -/
  | backedOff {before : List Event} {delay d : Duration}
      (backs : c.backoff? extract before = some delay) (short : d < delay) :
      MeetsDeadline before ⟨.pause d, false⟩ .canceled

end

/-- The caller was asked whether the call still stands, and then how much time is left. -/
def asked (known left : Option Duration) : List Event :=
  [⟨.cancelled, false⟩, ⟨.timeLeft, known⟩, ⟨.timeLeft, left⟩]

section

variable {events later : List Event}

theorem lastWord_append_of_toCaller (h : ∀ e ∈ later, e.1.ToCaller) :
    lastWord (events ++ later) = lastWord events := by
  have hf : later.filter Event.isWord = [] := by
    refine List.filter_eq_nil_iff.2 fun e he => ?_
    have hq := h e he
    obtain ⟨q, r⟩ := e
    cases q with
    | cancelled | timeLeft | pause => exact nofun
    | other q => exact hq.elim
  rw [lastWord, List.filter_append, hf, List.append_nil, lastWord]

theorem lastWord_append_other (q : Connection.Question) (r : Connection.Answer q) :
    lastWord (events ++ [⟨.other q, r⟩]) = some ⟨.other q, r⟩ := by
  simp [lastWord, Event.isWord]

theorem exchanges_append_of_toCaller (h : ∀ e ∈ later, e.1.ToCaller) :
    exchanges (events ++ later) = exchanges events := by
  rw [exchanges_append, (quiet_of_toCaller h).exchanges, List.append_nil]

theorem awaits_append_iff {wait : Duration} (h : ∀ e ∈ later, e.1.ToCaller) :
    Awaits (events ++ later) wait ↔ Awaits events wait := by
  rw [Awaits, lastWord_append_of_toCaller h, Awaits]

theorem backoff?_append {β : Type} {c : Client} {extract : Envelope → Except Verdict β}
    (h : ∀ e ∈ later, e.1.ToCaller) :
    c.backoff? extract (events ++ later) = c.backoff? extract events := by
  simp only [backoff?, lastWord_append_of_toCaller h, exchanges_append_of_toCaller h]

theorem Awaits.unique {wait wait' : Duration} (h : Awaits events wait) (h' : Awaits events wait') :
    wait = wait' := by
  cases Option.some.inj (Eq.trans (Eq.symm h) h')
  rfl

theorem not_awaits_of_backoff? {β : Type} {c : Client} {extract : Envelope → Except Verdict β}
    {delay : Duration} (h : c.backoff? extract events = some delay) (wait : Duration) :
    ¬Awaits events wait := by
  intro awaits
  rw [backoff?, awaits] at h
  cases h

theorem fromCaller_append (h : ∀ e ∈ later, e.1.ToCaller) (hne : later ≠ []) :
    FromCaller (events ++ later) := by
  intro before e he
  obtain ⟨first, last, rfl⟩ := (List.eq_nil_or_concat later).resolve_left hne
  rw [List.concat_eq_append, ← List.append_assoc] at he
  cases (List.append_inj' he rfl).2
  exact h _ (by simp)

theorem toCaller_asked (known left : Option Duration) : ∀ e ∈ asked known left, e.1.ToCaller := by
  simp [asked, Ask.ToCaller]

end

/-! ## Giving up -/

section

variable {β : Type} {c : Client} {command : Command} {extract : Envelope → Except Verdict β}
  {a : Admission}

/-- The rest of a command that is given up: its permit is settled, and it counts for nothing. -/
def retire (a : Admission) (f : Failure) : Call (Except Failure β) :=
  .ask (.other (.settle a .ignored)) fun _ => .done (.error f)

/-- The failure that an interruption becomes while a token is waited for. -/
def slotFailure : Interruption → Failure
  | .cancelled => .canceled
  | .deadlineExceeded => .rateLimitExceeded

theorem finish_interrupted (attempts : Nat) (cause : Interruption) :
    finish a (.error (.interrupted attempts cause) : Except (RetryFailure Verdict) β) =
      retire a .canceled := rfl

/-- An attempt whose caller is gone, or that got no token in time, ends the command. -/
theorem afterAttempt_interrupted (left attempt : Nat) (cause : Interruption) :
    (afterAttempt c.plan Verdict.policy (fun _ => c.attempt command extract) left attempt
      (.error (.interrupted cause))).andThen (finish a) = retire a .canceled := rfl

theorem afterAttempt_throttled (left attempt : Nat) :
    (afterAttempt c.plan Verdict.policy (fun _ => c.attempt command extract) left attempt
      (.error .throttled)).andThen (finish a) = retire a .rateLimitExceeded := rfl

/-! ## Places -/

/-- What a question follows, and which answers to it end the command. -/
def Placed (c : Client) (extract : Envelope → Except Verdict β) (a : Admission)
    (heard : List Event) : (q : Ask Connection.Question) →
    (Ask.Answer Connection.Answer q → Call (Except Failure β)) → Prop
  -- A wait takes as long as is wanted, or as long as the caller has.
  | .pause d, next =>
    (∃ before known left wanted, heard = before ++ asked known left ∧
      d = min wanted (left.getD wanted) ∧
      (Awaits heard wanted ∨ c.backoff? extract heard = some wanted)) ∧
    next true = retire a .canceled ∧
    ∀ f, MeetsDeadline c extract heard ⟨.pause d, false⟩ f → next false = retire a f
  | .other (.send _ _ within), next =>
    (∃ before known, heard = before ++ asked known within) ∧
    ∀ cause, next (.cut cause) = retire a .canceled
  | .timeLeft, next =>
    ∀ left f, MeetsDeadline c extract heard ⟨.timeLeft, left⟩ f → next left = retire a f
  | .other (.settle ..), next => ∃ answer, next () = .done answer
  | _, _ => True

/-- Everything that follows is in its place. -/
abbrev AllPlaced (c : Client) (extract : Envelope → Except Verdict β) (a : Admission)
    (heard : List Event) (d : Call (Except Failure β)) : Prop :=
  d.Always (Placed c extract a) heard

variable {heard : List Event} {k : Option Interruption → Call (Except Failure β)}

theorem allPlaced_finish (result : Except (RetryFailure Verdict) β) :
    AllPlaced c extract a heard (finish a result) :=
  ⟨⟨_, rfl⟩, fun _ => trivial⟩

theorem allPlaced_retire (f : Failure) :
    AllPlaced c extract a heard (retire a f : Call (Except Failure β)) :=
  ⟨⟨_, rfl⟩, fun _ => trivial⟩

/-- A second look at the time left, or one before an exchange, does not end the command. -/
theorem not_meetsDeadline_of_timeLeft {known left : Option Duration} {f : Failure} :
    ¬MeetsDeadline c extract (heard ++ [⟨.cancelled, false⟩, ⟨.timeLeft, known⟩])
      ⟨.timeLeft, left⟩ f := by
  rw [show ([⟨.cancelled, false⟩, ⟨.timeLeft, known⟩] : List Event) =
    [⟨.cancelled, false⟩] ++ [⟨.timeLeft, known⟩] from rfl, ← List.append_assoc]
  generalize hl : heard ++ [⟨.cancelled, false⟩] ++ [⟨.timeLeft, known⟩] = events
  rintro (_ | _ | _ | _ | _ | _ | _) <;> cases (List.append_inj' hl rfl).2

/-- What a check that finds no time left ends with: it is for the limiter to refuse, and for the
others to give up. -/
theorem meetsDeadline_check {left : Option Duration} {f : Failure}
    (h : MeetsDeadline c extract (heard ++ [⟨.cancelled, false⟩]) ⟨.timeLeft, left⟩ f) :
    left = some 0 ∧
      ((f = .rateLimitExceeded ∧ ∃ wait, Awaits heard wait) ∨
        (f = .canceled ∧ ¬FromCaller heard ∧ ∀ wait, ¬Awaits heard wait)) := by
  generalize hl : heard ++ [⟨.cancelled, false⟩] = events at h
  cases h with
  | token => cases (List.append_inj' hl rfl).2
  | waiting awaits =>
    obtain rfl := (List.append_inj' hl rfl).1
    exact ⟨rfl, .inl ⟨rfl, _, awaits⟩⟩
  | granted before =>
    obtain rfl := (List.append_inj' hl rfl).1
    refine ⟨rfl, .inr ⟨rfl, fun h => h _ _ rfl, fun wait h => ?_⟩⟩
    rw [Awaits, Client.granted, lastWord_append_other] at h
    cases h
  | sent before request patience within sent =>
    obtain rfl := (List.append_inj' hl rfl).1
    refine ⟨rfl, .inr ⟨rfl, fun h => h _ _ rfl, fun wait h => ?_⟩⟩
    rw [Awaits, lastWord_append_other] at h
    cases h

/-- A check whose caller is gone gives up. -/
theorem allPlaced_check {f : Interruption → Failure} (gone : ∀ i, k (some i) = retire a (f i))
    (late : ∀ g, MeetsDeadline c extract (heard ++ [⟨.cancelled, false⟩]) ⟨.timeLeft, some 0⟩ g →
      f .deadlineExceeded = g)
    (on : ∀ known, AllPlaced c extract a
      (heard ++ [⟨.cancelled, false⟩, ⟨.timeLeft, known⟩]) (k none)) :
    AllPlaced c extract a heard (Task.check.andThen k) := by
  rw [check_eq]
  refine ⟨trivial, fun cut => ?_⟩
  cases cut with
  | true =>
    change AllPlaced c extract a _ (k (some .cancelled))
    rw [gone]
    exact allPlaced_retire _
  | false =>
    refine ⟨?_, fun left => ?_⟩
    · intro left g meets
      obtain ⟨rfl, -⟩ := meetsDeadline_check meets
      rw [← late g meets, ← gone]
      rfl
    · rw [List.append_assoc]
      by_cases hl : left = some 0
      · subst hl
        change AllPlaced c extract a _ (k (some .deadlineExceeded))
        rw [gone]
        exact allPlaced_retire _
      · have := on left
        simpa [hl] using this

/-- A sleep that is cut short gives up. -/
theorem allPlaced_sleep {wanted : Duration} {f : Interruption → Failure}
    (gone : ∀ i, k (some i) = retire a (f i)) (cancelled : f .cancelled = .canceled)
    (standing : (Awaits heard wanted ∧ f .deadlineExceeded = .rateLimitExceeded) ∨
      (c.backoff? extract heard = some wanted ∧ f .deadlineExceeded = .canceled))
    (on : ∀ slept : List Event, (∀ e ∈ slept, e.1.ToCaller) → slept ≠ [] →
      AllPlaced c extract a (heard ++ slept) (k none)) :
    AllPlaced c extract a heard ((Task.sleep wanted).andThen k) := by
  have late : ∀ g, MeetsDeadline c extract (heard ++ [⟨.cancelled, false⟩]) ⟨.timeLeft, some 0⟩ g →
      f .deadlineExceeded = g := by
    intro g meets
    obtain ⟨-, ⟨rfl, wait, awaits⟩ | ⟨rfl, -, unserved⟩⟩ := meetsDeadline_check meets
    · rcases standing with ⟨-, h⟩ | ⟨backs, -⟩
      · exact h
      · exact absurd awaits (not_awaits_of_backoff? backs wait)
    · rcases standing with ⟨awaits, -⟩ | ⟨-, h⟩
      · exact absurd awaits (unserved _)
      · exact h
  rw [sleep_eq, andThen_andThen]
  refine allPlaced_check (f := f) (fun i => gone i) late fun known => ?_
  refine ⟨fun left _ h => absurd h not_meetsDeadline_of_timeLeft, fun left => ?_⟩
  rw [List.append_assoc]
  -- What is asked is the same in all three cases: a pause of the shorter length.
  have place {d : Duration} {next : Bool → Call (Except Failure β)}
      (hd : d = min wanted (left.getD wanted)) (hcut : next true = k (some .cancelled))
      (hend : next false = if d < wanted then k (some .deadlineExceeded) else k none) :
      AllPlaced c extract a (heard ++ asked known left) (.ask (.pause d) next) := by
    rw [← awaits_append_iff (toCaller_asked known left),
      ← backoff?_append (toCaller_asked known left)] at standing
    refine ⟨⟨⟨heard, known, left, wanted, rfl, hd, standing.imp And.left And.left⟩, ?_, ?_⟩,
      fun cut => ?_⟩
    · rw [hcut, gone, cancelled]
    · intro g meets
      generalize heard ++ asked known left = events at standing meets
      -- The deadline ends the wait that is under way.
      cases meets with
      | awaited awaits short =>
        rcases standing with ⟨h, hf⟩ | ⟨backs, -⟩
        · obtain rfl := h.unique awaits
          rw [hend, if_pos short, gone, hf]
        · exact absurd awaits (not_awaits_of_backoff? backs _)
      | backedOff backs short =>
        rcases standing with ⟨h, -⟩ | ⟨backs', hf⟩
        · exact absurd h (not_awaits_of_backoff? backs _)
        · obtain rfl := Option.some.inj (backs'.symm.trans backs)
          rw [hend, if_pos short, gone, hf]
    · cases cut with
      | true =>
        rw [hcut, gone]
        exact allPlaced_retire _
      | false =>
        rw [hend, List.append_assoc]
        split
        · rw [gone]
          exact allPlaced_retire _
        · exact on _ (by simp [asked, Ask.ToCaller]) (by simp)
  cases left with
  | none => exact place (Nat.min_self _).symm rfl (if_neg (Nat.lt_irrefl _)).symm
  | some left =>
    by_cases hl : left < wanted
    · have hd : left = min wanted left := (Nat.min_eq_right (Nat.le_of_lt hl)).symm
      change AllPlaced c extract a (heard ++ asked known (some left)) (andThen (ite _ _ _) _)
      rw [if_pos hl]
      exact place hd rfl (if_pos hl).symm
    · have hd : wanted = min wanted left := (Nat.min_eq_left (Nat.le_of_not_lt hl)).symm
      change AllPlaced c extract a (heard ++ asked known (some left)) (andThen (ite _ _ _) _)
      rw [if_neg hl]
      exact place hd rfl (if_neg (Nat.lt_irrefl _)).symm

/-! ## The parts of a command -/

variable {left attempt : Nat}

/-- Waiting for a token ends the command, or the token is there. -/
theorem allPlaced_acquire {waits : Nat} {k : Except SlotRefusal Unit → Call (Except Failure β)}
    (cancelled : k (.error .cancelled) = retire a .canceled)
    (tooLate : ∀ wait, k (.error (.tooLate wait)) = retire a .rateLimitExceeded)
    (resumed : FromCaller heard)
    (on : ∀ before, exchanges before = exchanges heard →
      AllPlaced c extract a (before ++ [granted]) (k (.ok ()))) :
    AllPlaced c extract a heard ((Limiter.acquireWithin Connection.take waits).andThen k) := by
  have gone (i : Interruption) : k (.error (.ofInterruption i)) = retire a (slotFailure i) := by
    cases i with
    | cancelled => exact cancelled
    | deadlineExceeded => exact tooLate 0
  induction waits generalizing heard with
  | zero =>
    change AllPlaced c extract a heard (k (.error (.tooLate Duration.longest)))
    rw [tooLate]
    exact allPlaced_retire _
  | succ waits ih =>
    rw [acquireWithin_succ, andThen_andThen]
    refine allPlaced_check (f := slotFailure) gone (fun g meets => ?_) fun known => ?_
    · obtain ⟨-, ⟨rfl, -⟩ | ⟨-, h, -⟩⟩ := meetsDeadline_check meets
      · rfl
      · exact absurd resumed h
    refine ⟨trivial, fun wait => ?_⟩
    have asks : exchanges (heard ++ [⟨.cancelled, false⟩, ⟨.timeLeft, known⟩]) = exchanges heard :=
      exchanges_append_of_toCaller (by simp [Ask.ToCaller])
    cases wait with
    | none => exact on _ asks
    | some wait =>
      refine ⟨?_, fun left => ?_⟩
      · intro left g meets
        generalize hl : heard ++ [⟨.cancelled, false⟩, ⟨.timeLeft, known⟩] ++
          [⟨.other .take, some wait⟩] = events at meets
        cases meets with
        | token before short =>
          cases (List.append_inj' hl rfl).2
          change andThen (ite _ _ _) _ = _
          rw [if_pos (by simpa using short)]
          exact tooLate _
        | waiting | granted | sent => cases (List.append_inj' hl rfl).2
      · change AllPlaced c extract a _ (andThen (ite _ _ _) _)
        split
        · change AllPlaced c extract a _ (k (.error (.tooLate wait)))
          rw [tooLate]
          exact allPlaced_retire _
        · rw [andThen_andThen]
          have awaits : Awaits (heard ++ [⟨.cancelled, false⟩, ⟨.timeLeft, known⟩] ++
              [⟨.other .take, some wait⟩] ++ [⟨.timeLeft, left⟩]) wait := by
            rw [awaits_append_iff (by simp [Ask.ToCaller])]
            exact lastWord_append_other .take (some wait)
          refine allPlaced_sleep (f := slotFailure) gone rfl (.inl ⟨awaits, rfl⟩)
            fun slept hs hne => ?_
          refine ih (fromCaller_append hs hne) fun before hb => on before (hb.trans ?_)
          rw [exchanges_append_of_toCaller hs,
            exchanges_append_of_toCaller (by simp [Ask.ToCaller]), exchanges_append, asks]
          exact List.append_nil _

/-- An attempt ends the command, or it has exchanged its request. -/
theorem allPlaced_attempt {k : Except Verdict β → Call (Except Failure β)}
    (interrupted : ∀ cause, k (.error (.interrupted cause)) = retire a .canceled)
    (throttled : k (.error .throttled) = retire a .rateLimitExceeded)
    (resumed : FromCaller heard)
    (on : ∀ before left sent, exchanges before = exchanges heard →
      AllPlaced c extract a (before ++ [⟨.other (c.request command left), sent⟩])
        (k (c.readSent extract sent))) :
    AllPlaced c extract a heard ((c.attempt command extract).andThen k) := by
  rw [attempt_eq_andThen, andThen_andThen]
  refine allPlaced_acquire (interrupted .cancelled) (fun _ => throttled) resumed fun before hb => ?_
  change AllPlaced c extract a _ ((andThen Task.check (c.afterToken command extract)).andThen k)
  rw [andThen_andThen]
  refine allPlaced_check (f := fun _ => .canceled) interrupted (fun g meets => ?_) fun known => ?_
  · obtain ⟨-, ⟨-, wait, awaits⟩ | ⟨rfl, -⟩⟩ := meetsDeadline_check meets
    · rw [Awaits, granted, lastWord_append_other] at awaits
      cases awaits
    · rfl
  refine ⟨fun left _ h => absurd h not_meetsDeadline_of_timeLeft, fun left => ?_⟩
  rw [List.append_assoc]
  refine ⟨⟨⟨_, known, rfl⟩, interrupted⟩, fun sent => on _ left sent ?_⟩
  rw [exchanges_append_of_toCaller (by simp [Ask.ToCaller]), exchanges_append, hb]
  exact List.append_nil _

/-- The retry loop of a command, when it has made as many exchanges as attempts. -/
theorem allPlaced_attempts (count : (exchanges heard).length = attempt)
    (unserved : ∀ wait, ¬Awaits heard wait) :
    AllPlaced c extract a heard
      ((executeFrom c.plan Verdict.policy (fun _ => c.attempt command extract) left
        attempt).andThen (finish a)) := by
  induction left using Nat.strongRecOn generalizing heard attempt with
  | ind left ih =>
    rw [executeFrom_eq_andThen, andThen_andThen]
    refine allPlaced_check (f := fun _ => .canceled) (finish_interrupted attempt)
      (fun g meets => ?_) fun known => ?_
    · obtain ⟨-, ⟨-, wait, awaits⟩ | ⟨rfl, -⟩⟩ := meetsDeadline_check meets
      · exact absurd awaits (unserved wait)
      · rfl
    change AllPlaced c extract a _ ((andThen _ _).andThen _)
    rw [andThen_andThen]
    refine allPlaced_attempt (afterAttempt_interrupted left attempt)
      (afterAttempt_throttled left attempt) (fromCaller_append (by simp [Ask.ToCaller]) nofun)
      fun before within sent hb => ?_
    have one : exchanges (before ++ [⟨.other (c.request command within), sent⟩]) =
        exchanges heard ++ [sent] := by
      rw [exchanges_append, hb, exchanges_append_of_toCaller (by simp [Ask.ToCaller])]
      rfl
    obtain ⟨answer, hend⟩ | ⟨v, delay, later, hv, again, rfl, hpause⟩ :=
      afterAttempt_cases c.plan Verdict.policy (fun _ => c.attempt command extract) left
        attempt (c.readSent extract sent)
    · rw [hend]
      exact allPlaced_finish answer
    · rw [hpause, andThen_andThen]
      have number : (exchanges heard ++ [sent]).length - 1 = attempt := by
        rw [List.length_append, count]
        rfl
      have word : lastWord (before ++ [⟨.other (c.request command within), sent⟩]) =
          some ⟨.other (.send (.ofCommand command c.credentials c.endpoint) c.attemptTimeout
            within), sent⟩ :=
        lastWord_append_other _ _
      have backsOff : c.backoff? extract
          (before ++ [⟨.other (c.request command within), sent⟩]) = some delay := by
        simp only [backoff?, word, hv, one, number]
        exact again
      refine allPlaced_sleep (f := fun _ => .canceled) (finish_interrupted (attempt + 1)) rfl
        (.inr ⟨backsOff, rfl⟩) fun slept hs _ => ?_
      refine ih later (Nat.lt_succ_self later) ?_ fun wait h => ?_
      · rw [exchanges_append_of_toCaller hs, one, List.length_append, count]
        rfl
      · rw [awaits_append_iff hs, Awaits, word] at h
        cases h

/-- Every question of a command but the first is in its place. -/
theorem placed_of_reaches {events : List Event} {q : Ask Connection.Question}
    {next : Ask.Answer Connection.Answer q → Call (Except Failure β)}
    (h : Reaches (c.execute command extract) events (.ask q next)) :
    (events = [] ∧ q = .other .enter) ∨ ∃ a, Placed c extract a events q next := by
  rw [execute_eq] at h
  replace h := reaches_ask_iff.1 h
  obtain ⟨rfl, hd⟩ | ⟨answer, later, rfl, h⟩ := h
  · cases hd
    exact .inl ⟨rfl, rfl⟩
  cases answer with
  | error r => cases (reaches_done_iff.1 h).2
  | ok a =>
    have placed : AllPlaced c extract a [⟨.other .enter, .ok a⟩]
        ((c.attempts command extract).andThen (finish a)) :=
      allPlaced_attempts rfl nofun
    exact .inr ⟨a, placed.of_reaches h⟩

theorem runs_retire_iff {f : Failure} {events : List Event} {answer : Except Failure β} :
    Runs (retire a f) events answer ↔
      events = [⟨.other (.settle a .ignored), ()⟩] ∧ answer = .error f := by
  rw [retire, runs_ask_iff]
  simp only [runs_done_iff]
  constructor
  · rintro ⟨_, _, rfl, rfl, rfl⟩
    exact ⟨rfl, rfl⟩
  · rintro ⟨rfl, rfl⟩
    exact ⟨(), [], rfl, rfl, rfl⟩

/-- A command that has run was in its place at every question. -/
theorem placed_of_runs {before after : List Event} {q : Ask Connection.Question}
    {r : Ask.Answer Connection.Answer q} {answer : Except Failure β}
    (run : Runs (c.execute command extract) (before ++ ⟨q, r⟩ :: after) answer)
    (hq : q ≠ .other .enter) :
    ∃ a next, Placed c extract a before q next ∧ Runs (next r) after answer := by
  obtain ⟨next, hr, ha⟩ := runs_append_cons run
  obtain ⟨-, h⟩ | ⟨a, placed⟩ := placed_of_reaches hr
  · exact absurd h hq
  · exact ⟨a, next, placed, ha⟩

/-- Nothing comes after the settlement of the permit. -/
theorem nil_of_settle {before after : List Event} {a : Admission} {o : Outcome} {u : Unit}
    {answer : Except Failure β}
    (run : Runs (c.execute command extract)
      (before ++ ⟨.other (.settle a o), u⟩ :: after) answer) : after = [] := by
  obtain ⟨_, next, ⟨answer', h⟩, ha⟩ := placed_of_runs run nofun
  rw [show next u = .done answer' from h] at ha
  exact (runs_done_iff.1 ha).1

end

end Client

end Registrar
