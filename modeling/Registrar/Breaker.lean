import Registrar.Limits
import Registrar.Time.Duration

/-!
# Circuit breaker

After `maxFailures` failures in a row the breaker refuses calls until `resetTimeout` has passed
since the last one; then it admits a single probe, whose outcome closes or reopens it. `enter` and
`settle` are the two moments of a call; calls may overlap, and a call that is dropped settles as
ignored. `Breaker.step` takes one event of such a history.
-/

namespace Registrar

inductive BreakerMode
  | closed
  | opened
  | halfOpen
  deriving DecidableEq, Repr

/-- The name of a mode in reports. -/
def BreakerMode.name : BreakerMode → String
  | .closed => "CLOSED"
  | .opened => "OPEN"
  | .halfOpen => "HALF_OPEN"

/-- How a finished call counts: a success ends the streak, a failure extends it, and an ignored
outcome says nothing about the service. -/
inductive Outcome
  | success
  | failure
  | ignored
  deriving DecidableEq, Repr

structure BreakerLimit where
  maxFailures : Nat
  resetTimeout : Duration
  deriving DecidableEq, Repr

namespace BreakerLimit

def validate (l : BreakerLimit) : Except LimitFault Unit :=
  if l.maxFailures = 0 then .error .failureCount
  else if l.resetTimeout = 0 then .error .resetTimeout
  else .ok ()

def standard : BreakerLimit := ⟨5, Duration.ofSeconds 30⟩

end BreakerLimit

/-- The permit a call holds while it runs. -/
inductive Admission
  | normal
  | probe
  deriving DecidableEq, Repr

/-- What a refused call is told: the streak and the time since its last failure. -/
structure Refusal where
  failures : Nat
  since : Duration
  deriving DecidableEq, Repr

def Refusal.message (r : Refusal) : String :=
  "circuit breaker is open after " ++ Decimal.wholeText r.failures ++
    " consecutive failures (last failure " ++ Duration.text r.since ++ " ago)"

structure Breaker where
  limit : BreakerLimit
  mode : BreakerMode
  failures : Nat
  lastFailure : Option Instant
  /-- Whether the probe slot is taken. -/
  probing : Bool
  total : Nat
  rejected : Nat
  deriving DecidableEq, Repr

namespace Breaker

/-- A closed breaker without history. -/
def new (l : BreakerLimit) : Except LimitFault Breaker :=
  l.validate.map fun _ => ⟨l, .closed, 0, none, false, 0, 0⟩

/-- The streak counter stops at the largest 32-bit number. -/
def countUp (n : Nat) : Nat := min (n + 1) Decimal.max32

/-- The time since the last failure; the longest duration if there was none. -/
def sinceFailure (b : Breaker) (now : Instant) : Duration :=
  match b.lastFailure with
  | none => Duration.longest
  | some at' => now - at'

def refuse (b : Breaker) (now : Instant) : Except Refusal Admission × Breaker :=
  (.error ⟨b.failures, b.sinceFailure now⟩, { b with rejected := b.rejected + 1 })

/-- Lets a probe in and takes the slot. -/
def enterProbe (b : Breaker) : Except Refusal Admission × Breaker :=
  (.ok .probe, { b with mode := .halfOpen, probing := true, total := b.total + 1 })

/-- Decides on a call at its start. -/
def enter (b : Breaker) (now : Instant) : Except Refusal Admission × Breaker :=
  match b.mode with
  | .closed => (.ok .normal, { b with total := b.total + 1 })
  | .opened =>
    if b.limit.resetTimeout < b.sinceFailure now then b.enterProbe else b.refuse now
  | .halfOpen => if b.probing then b.refuse now else b.enterProbe

/-- Counts a success: it ends the streak and closes a half-open breaker. -/
def succeed (b : Breaker) : Breaker :=
  { b with mode := if b.mode = .halfOpen then .closed else b.mode, failures := 0 }

/-- Counts a failure: the streak may open the breaker, and a half-open one opens again. -/
def fail (b : Breaker) (now : Instant) : Breaker :=
  let failures := countUp b.failures
  { b with
    failures
    lastFailure := some now
    mode :=
      match b.mode with
      | .closed => if b.limit.maxFailures ≤ failures then .opened else .closed
      | .halfOpen => .opened
      | .opened => .opened }

def count (b : Breaker) (now : Instant) : Outcome → Breaker
  | .success => b.succeed
  | .failure => b.fail now
  | .ignored => b

/-- Records the end of a call. A probe frees the slot; a normal call that ends after the breaker
left the closed mode says nothing any more. -/
def settle (b : Breaker) (now : Instant) (a : Admission) (o : Outcome) : Breaker :=
  match a with
  | .probe => { b with probing := false }.count now o
  | .normal => if b.mode = .closed then b.count now o else b

/-- Closes the breaker and forgets its history; the call counters stay. -/
def reset (b : Breaker) : Breaker :=
  { b with mode := .closed, failures := 0, lastFailure := none, probing := false }

/-! ## Histories of overlapping calls -/

/-- An event of a history: a call asks for admission, an admitted call ends or is dropped, or the
breaker is reset. -/
inductive Event
  | enter
  | settle (a : Admission) (o : Outcome)
  | drop (a : Admission)
  | reset
  deriving DecidableEq, Repr

/-- One event at one clock reading. -/
def step (b : Breaker) (now : Instant) : Event → Breaker
  | .enter => (b.enter now).2
  | .settle a o => b.settle now a o
  | .drop a => b.settle now a .ignored
  | .reset => b.reset

/-- The state after a history of events, each with its clock reading. -/
def run (b : Breaker) (events : List (Instant × Event)) : Breaker :=
  events.foldl (fun b (now, e) => b.step now e) b

@[simp] theorem settle_ignored_normal (b : Breaker) (now : Instant) :
    b.settle now .normal .ignored = b := by
  simp [settle, count]

/-- Settling a probe frees the slot. -/
theorem settle_probe_probing (b : Breaker) (now : Instant) (o : Outcome) :
    (b.settle now .probe o).probing = false := by
  cases o <;> rfl

end Breaker

end Registrar
