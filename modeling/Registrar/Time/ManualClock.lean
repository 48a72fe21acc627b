import Registrar.Time.Duration

/-!
# Manual clocks

A clock that moves only when it is told to, also backwards. Its instants count from its start, its
calendar time from the epoch.
-/

namespace Registrar

structure ManualClock where
  elapsed : Duration
  deriving DecidableEq, Repr

namespace ManualClock

def start : ManualClock := ⟨0⟩

def advance (c : ManualClock) (d : Duration) : ManualClock := ⟨c.elapsed + d⟩
def advanceMillis (c : ManualClock) (ms : Nat) : ManualClock := c.advance (Duration.ofMillis ms)
def setElapsed (_ : ManualClock) (d : Duration) : ManualClock := ⟨d⟩

def now (c : ManualClock) : Instant := c.elapsed

/-- The time since the epoch. -/
def sinceEpoch (c : ManualClock) : Duration := c.elapsed

end ManualClock

end Registrar
