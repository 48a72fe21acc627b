import Registrar.Limits
import Registrar.Quantity

/-!
# Token bucket

A `Bucket` holds a fractional number of tokens that refills at a constant rate up to its capacity;
each request takes one. Every operation takes the clock reading of its caller, and readings may come
out of order. `Bucket.run` folds a list of operations, whose answers it lists.
-/

namespace Registrar

/-- Capacity and refill rate of a bucket. -/
structure BucketLimit (α : Type) where
  capacity : α
  refillPerSecond : α
  deriving DecidableEq, Repr

namespace BucketLimit

variable {α : Type} [Quantity α]

/-- The slowest accepted refill: one token every thousand seconds. -/
def slowestRefill : α := Quantity.decimal 1 3

def validate (l : BucketLimit α) : Except LimitFault Unit :=
  if !(Quantity.isFinite l.capacity && Quantity.le Quantity.one l.capacity) then .error .capacity
  else if !(Quantity.isFinite l.refillPerSecond &&
      Quantity.le slowestRefill l.refillPerSecond) then .error .refillRate
  else .ok ()

def standard : BucketLimit α := ⟨Quantity.ofNat 5, Quantity.ofNat 2⟩

/-- The time in which `deficit` tokens refill; the longest duration if none is long enough. -/
def timeFor (l : BucketLimit α) (deficit : α) : Duration :=
  (Quantity.duration? (Quantity.greater (deficit / l.refillPerSecond) Quantity.zero)).getD
    Duration.longest

end BucketLimit

/-- Tokens in store and the clock reading up to which they have been refilled. -/
@[ext]
structure Bucket (α : Type) where
  limit : BucketLimit α
  tokens : α
  refilledAt : Instant
  deriving DecidableEq, Repr

namespace Bucket

variable {α : Type} [Quantity α]

/-- The slack that admits a token short by rounding only. -/
def slack : α := Quantity.decimal 1 9

/-- The shortest wait for a token. -/
def shortestWait : Duration := Duration.millisecond

/-- A full bucket. -/
def new (l : BucketLimit α) (now : Instant) : Except LimitFault (Bucket α) :=
  l.validate.map fun _ => ⟨l, l.capacity, now⟩

/-- Adds what flowed in since the last refill; a reading that is not later changes nothing. -/
def refill (b : Bucket α) (now : Instant) : Bucket α :=
  if now ≤ b.refilledAt then b
  else
    { b with
      tokens := Quantity.lesser
        (b.tokens + Quantity.seconds (now - b.refilledAt) * b.limit.refillPerSecond)
        b.limit.capacity
      refilledAt := now }

/-- Whether the store holds a token, up to the slack. -/
def holdsToken (b : Bucket α) : Bool :=
  Quantity.le Quantity.one (b.tokens + slack)

/-- Removes one token from the store. -/
def spend (b : Bucket α) : Bucket α :=
  { b with tokens := Quantity.greater (b.tokens - Quantity.one) Quantity.zero }

/-- What is missing to a full token. -/
def deficit (b : Bucket α) : α := Quantity.one - b.tokens

/-- Refills, then takes a token if there is one. -/
def take (b : Bucket α) (now : Instant) : Bool × Bucket α :=
  let b := b.refill now
  if b.holdsToken then (true, b.spend) else (false, b)

/-- How long a caller who got no token waits before the next try. -/
def wait (b : Bucket α) : Duration :=
  max (b.limit.timeFor b.deficit) shortestWait

/-- Refills and reports the store. -/
def available (b : Bucket α) (now : Instant) : α × Bucket α :=
  let b := b.refill now
  (b.tokens, b)

/-- Replaces the limits; tokens that accrued under the old ones are kept up to the new capacity. -/
def updateLimit (b : Bucket α) (l : BucketLimit α) (now : Instant) :
    Except LimitFault (Bucket α) :=
  l.validate.map fun _ =>
    let b := b.refill now
    { b with limit := l, tokens := Quantity.lesser b.tokens l.capacity }

/-- Fills the bucket. -/
def reset (b : Bucket α) (now : Instant) : Bucket α :=
  { b with tokens := b.limit.capacity, refilledAt := now }

/-! ## Runs of operations -/

/-- An operation on a bucket, without the clock reading it is made at. -/
inductive Op (α : Type)
  | take
  | available
  | updateLimit (l : BucketLimit α)
  | reset
  deriving DecidableEq, Repr

/-- What an operation answers. -/
inductive Reply (α : Type)
  | taken (granted : Bool)
  | tokens (amount : α)
  | updated (fault : Option LimitFault)
  | filled
  deriving DecidableEq, Repr

/-- One operation at one clock reading. A refused update leaves the bucket as it was. -/
def step (b : Bucket α) (now : Instant) : Op α → Reply α × Bucket α
  | .take => let (granted, b) := b.take now; (.taken granted, b)
  | .available => let (amount, b) := b.available now; (.tokens amount, b)
  | .updateLimit l =>
    match b.updateLimit l now with
    | .ok b => (.updated none, b)
    | .error fault => (.updated (some fault), b)
  | .reset => (.filled, b.reset now)

/-- The replies of a run of operations, each with its clock reading, and the last state. -/
def run (b : Bucket α) : List (Instant × Op α) → List (Reply α) × Bucket α
  | [] => ([], b)
  | (now, op) :: ops =>
    let (reply, b) := b.step now op
    let (replies, b) := b.run ops
    (reply :: replies, b)

@[simp] theorem refill_limit (b : Bucket α) (now : Instant) : (b.refill now).limit = b.limit := by
  unfold refill; split <;> rfl

theorem refill_of_le {b : Bucket α} {now : Instant} (h : now ≤ b.refilledAt) :
    b.refill now = b := by
  simp [refill, h]

/-- After a refill the store is refilled up to the later of the two readings. -/
theorem refill_refilledAt (b : Bucket α) (now : Instant) :
    (b.refill now).refilledAt = max b.refilledAt now := by
  unfold refill
  split
  · exact (Nat.max_eq_left ‹_›).symm
  · exact (Nat.max_eq_right (Nat.le_of_not_le ‹_›)).symm

end Bucket

end Registrar
