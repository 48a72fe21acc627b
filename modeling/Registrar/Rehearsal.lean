import Registrar.Client

/-!
# Rehearsals

A `Stage` answers a client's questions without a network: its clock moves only when the client
waits, and its exchanges follow a script. Every state that a client meets is a value here, so a
whole run of calls can be played and looked at. The limiter counts in doubles if nothing else is
said.
-/

namespace Registrar

/-- One exchange of a script: how long it takes, and how it ends. -/
structure Cue where
  delay : Duration
  answer : Except TransportError Response

structure Stage (α : Type := Float) where
  now : Instant
  bucket : Bucket α
  breaker : Breaker
  /-- The exchanges that are still to come. -/
  script : List Cue
  /-- The requests sent so far, last first. -/
  sent : List Request

namespace Stage

variable {α β : Type} [Quantity α]

/-- A fresh stage for the limits of some settings. -/
def new (s : Settings Float) (script : List Cue) : Except Failure Stage :=
  match s.validate with
  | .error failure => .error failure
  | .ok () =>
    match Bucket.new s.rateLimit.toBucketLimit 0, Breaker.new s.breaker.toBreakerLimit,
        s.retry.toBackoff.validate with
    | .ok bucket, .ok breaker, .ok () => .ok ⟨0, bucket, breaker, script, []⟩
    | .error fault, _, _ | _, .error fault, _ | _, _, .error fault => .error (.config fault.message)

/-- What follows the end of the script. -/
def exhausted : Cue := ⟨0, .error (.other "script exhausted")⟩

/-- How an exchange ends that begins at `now`, and when. What comes first counts: its answer, the
end of the client's patience, the caller's deadline or the caller's cancellation. -/
def ending (caller : Caller) (timer : Timer) (now : Instant) (cue : Cue) (patience : Duration)
    (within : Option Duration) : Connection.Sent × Instant :=
  let finish := timer.wake now cue.delay
  let patienceEnd := timer.wake now patience
  let (free, wake) : Connection.Sent × Instant :=
    if finish ≤ patienceEnd then (.answered cue.answer, finish) else (.timedOut, patienceEnd)
  let (bounded, wake) : Connection.Sent × Instant :=
    match within with
    | none => (free, wake)
    | some left =>
      let deadline := timer.wake now left
      if deadline ≤ wake then (.cut .deadlineExceeded, deadline) else (free, wake)
  match caller.pauseUntil now wake with
  | (true, at') => (.cut .cancelled, at')
  | (false, wake) => (bounded, wake)

/-- Answers a question of a client. -/
def connect (caller : Caller) (timer : Timer) :
    (q : Connection.Question) → Stage α → Connection.Answer q × Stage α
  | .enter, s =>
    let (answer, breaker) := s.breaker.enter s.now
    (answer, { s with breaker })
  | .settle a o, s => ((), { s with breaker := s.breaker.settle s.now a o })
  | .take, s =>
    let (answer, bucket) := s.bucket.request s.now
    (answer, { s with bucket })
  | .send request patience within, s =>
    let (answer, now) :=
      ending caller timer s.now (s.script.headD exhausted) patience within
    (answer, { s with now, script := s.script.drop 1, sent := request :: s.sent })

/-- Plays a call of a caller. -/
def play (caller : Caller) (timer : Timer) (call : Call β) (s : Stage α) : β × Stage α :=
  call.answer (caller.reply timer (connect caller timer) (·.now) fun now s => { s with now }) s

/-- Plays an operation of a caller. -/
def perform (caller : Caller) (timer : Timer) (op : Operation β) (s : Stage α) :
    Except Failure β × Stage α :=
  s.play caller timer op.run

/-- The requests sent so far, first to last. -/
def requests (s : Stage α) : List Request := s.sent.reverse

/-- Forgets the requests sent so far. -/
def forget (s : Stage α) : Stage α := { s with sent := [] }

/-- Lets time pass. -/
def advance (s : Stage α) (d : Duration) : Stage α := { s with now := s.now + d }

/-- The settings that the limiter is under. -/
def rateLimit (s : Stage α) : RateLimit α := .ofBucketLimit s.bucket.limit

/-- Changes the limits; a refused change leaves everything as it was. -/
def updateRateLimit (s : Stage α) (r : RateLimit α) : Except Failure Unit × Stage α :=
  match s.bucket.updateLimit r.toBucketLimit s.now with
  | .ok bucket => (.ok (), { s with bucket })
  | .error fault => (.error (.config fault.message), s)

/-- The tokens in store, after a refill. -/
def availableTokens (s : Stage α) : α × Stage α :=
  let (tokens, bucket) := s.bucket.available s.now
  (tokens, { s with bucket })

def resetBreaker (s : Stage α) : Stage α := { s with breaker := s.breaker.reset }

end Stage

/-! ## A limiter alone -/

/-- The clock and the bucket of a limiter. -/
structure LimiterStage (α : Type := Float) where
  now : Instant
  bucket : Bucket α

namespace LimiterStage

variable {α : Type} [Quantity α]

/-- Answers a caller who wants a token. -/
def give (_ : Unit) (s : LimiterStage α) : Option Duration × LimiterStage α :=
  let (answer, bucket) := s.bucket.request s.now
  (answer, { s with bucket })

/-- Answers what a caller asks who waits for a token. -/
def reply (caller : Caller) (timer : Timer) :
    (q : Ask Unit) → LimiterStage α → Ask.Answer (fun _ => Option Duration) q × LimiterStage α :=
  caller.reply timer give (·.now) fun now s => { s with now }

/-- Plays the wait for a token. -/
def acquire (caller : Caller) (timer : Timer) (s : LimiterStage α)
    (waits : Nat := Limiter.mostWaits) : Except SlotRefusal Unit × LimiterStage α :=
  (Limiter.acquire (Task.other ()) waits).answer (reply caller timer) s

end LimiterStage

/-! ## Retries alone -/

/-- One run of a rehearsed operation: whether the caller cancels at its start, how long it takes and
how it ends. -/
structure Take (ε α : Type) where
  cancels : Bool
  delay : Duration
  result : Except ε α

/-- The clock of a retried operation, the cancellation and the runs so far, last first. -/
structure RetryStage where
  now : Instant
  cancelsAt : Option Instant
  runs : List (Nat × Instant)
  deriving DecidableEq, Repr

namespace RetryStage

variable {ε α : Type}

/-- Plays the run of an operation that goes on until it is over. -/
def perform (timer : Timer) (scene : Nat → Take ε α) (attempt : Nat) (s : RetryStage) :
    Except ε α × RetryStage :=
  let take := scene s.runs.length
  ( take.result,
    { now := timer.wake s.now take.delay
      cancelsAt := if take.cancels then some s.now else s.cancelsAt
      runs := (attempt, s.now) :: s.runs } )

/-- Plays the retries of an operation whose k-th run is `scene k`. -/
def retry (timer : Timer) (left : Option Duration) (plan : RetryPlan)
    (policy : ε → Nat → RetryDecision) (scene : Nat → Take ε α) (s : RetryStage) :
    Except (RetryFailure ε) α × RetryStage :=
  let operation (attempt : Nat) : Task Nat (fun _ => Except ε α) (Except ε α) := Task.other attempt
  (Retry.execute plan policy operation).answer
    (fun q s =>
      Caller.reply ⟨s.cancelsAt, fun _ => left⟩ timer (perform timer scene) (·.now)
        (fun now s => { s with now }) q s)
    s

end RetryStage

end Registrar
