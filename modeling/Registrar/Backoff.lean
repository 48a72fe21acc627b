import Registrar.Limits
import Registrar.Quantity

/-!
# Backoff

The delay before retry `i` is `min maxDelay (baseDelay · factor^i)`, moved by a random share of
itself of at most `jitter` and kept within zero and `maxDelay`.
-/

namespace Registrar

structure Backoff (α : Type) where
  /-- Attempts in all, the first included. -/
  maxAttempts : Nat
  baseDelay : Duration
  maxDelay : Duration
  factor : α
  jitter : α
  deriving DecidableEq, Repr

namespace Backoff

variable {α : Type} [Quantity α]

def validate (b : Backoff α) : Except LimitFault Unit :=
  if b.maxAttempts = 0 then .error .attemptCount
  else if b.maxDelay < b.baseDelay then .error .delayOrder
  else if !(Quantity.isFinite b.factor && Quantity.le Quantity.one b.factor) then
    .error .backoffFactor
  else if !(Quantity.le Quantity.zero b.jitter && Quantity.le b.jitter Quantity.one) then
    .error .jitterFraction
  else .ok ()

def standard : Backoff α :=
  ⟨4, Duration.ofMillis 100, Duration.ofSeconds 30, Quantity.ofNat 2, Quantity.decimal 1 1⟩

/-- The largest exponent that is raised; later retries use it too. -/
def topExponent : Nat := 2147483647

/-- The delay before retry `attempt`, counted from zero, without jitter. -/
def baseDelayFor (b : Backoff α) (attempt : Nat) : Duration :=
  let scaled :=
    Quantity.seconds b.baseDelay * Quantity.power b.factor (min attempt topExponent)
  let capped := Quantity.lesser scaled (Quantity.seconds b.maxDelay)
  if Quantity.isFinite capped then
    (Quantity.duration? (Quantity.greater capped Quantity.zero)).getD b.maxDelay
  else b.maxDelay

/-- Whether the delay before a retry depends on chance. -/
def isJittered (b : Backoff α) (attempt : Nat) : Bool :=
  !Quantity.same b.jitter Quantity.zero &&
    !Quantity.same (Quantity.seconds (b.baseDelayFor attempt)) (Quantity.zero : α)

/-- `x` moved into the interval from `low` to `high`. -/
def clamp (x low high : α) : α :=
  if Quantity.lt x low then low else if Quantity.lt high x then high else x

/-- The delay before retry `attempt` for a chance of `draw`, a number from -1 to 1. -/
def delayFor (b : Backoff α) (attempt : Nat) (draw : α) : Duration :=
  let base : α := Quantity.seconds (b.baseDelayFor attempt)
  let delay :=
    if b.isJittered attempt then
      clamp (base + base * b.jitter * draw) Quantity.zero (Quantity.seconds b.maxDelay)
    else base
  (Quantity.duration? delay).getD b.maxDelay

end Backoff

/-! ## Chance -/

/-- The largest fraction that 52 random bits spell. -/
def topFraction : Float := (4503599627370496.0 - 1.0) / 4503599627370496.0

/-- A number from -1 to 1 made of 64 random bits: their upper 52 as a fraction, spread so that the
largest fraction gives 1. -/
def chance (bits : Nat) : Float :=
  Float.ofNat (bits / 4096 % Decimal.fractionCount) / 4503599627370496.0 * (2.0 / topFraction) - 1.0

end Registrar
