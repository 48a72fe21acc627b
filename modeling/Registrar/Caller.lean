import Registrar.Dialogue
import Registrar.Time.Duration

/-!
# The caller's patience

Every wait of a command is bounded by its caller, who may cancel it or set a deadline. A command
asks its caller with the questions of `Ask`: whether the call still stands, how much time is left,
and to let time pass. `check` and `sleep` are the two bounded steps built from them. `Caller` is
one caller on a clock, and `Caller.reply` answers for it.
-/

namespace Registrar

/-- Why the caller's context ended a call. -/
inductive Interruption
  | cancelled
  | deadlineExceeded
  deriving DecidableEq, Repr

def Interruption.message : Interruption → String
  | .cancelled => "operation cancelled by caller"
  | .deadlineExceeded => "caller deadline exceeded"

/-- What a command may ask: whether the call is cancelled, the time left before the deadline, to let
time pass, or a question `Q` of its own. -/
inductive Ask (Q : Type)
  | cancelled
  | timeLeft
  | pause (d : Duration)
  | other (q : Q)

/-- The answers. A pause ends early, with `true`, when the caller cancels. -/
abbrev Ask.Answer {Q : Type} (A : Q → Type) : Ask Q → Type
  | .cancelled => Bool
  | .timeLeft => Option Duration
  | .pause _ => Bool
  | .other q => A q

/-- A dialogue whose waits are bounded by a caller. -/
abbrev Task (Q : Type) (A : Q → Type) (α : Type) := Dialogue (Ask Q) (Ask.Answer A) α

namespace Task

variable {Q : Type} {A : Q → Type}

def cancelled : Task Q A Bool := .ask Ask.cancelled .done
def timeLeft : Task Q A (Option Duration) := .ask Ask.timeLeft .done
def pause (d : Duration) : Task Q A Bool := .ask (Ask.pause d) .done
def other (q : Q) : Task Q A (A q) := .ask (Ask.other q) .done

/-- Whether the call has ended already; cancellation is reported before the deadline. -/
def check : Task Q A (Option Interruption) := do
  if ← cancelled then return some .cancelled
  if (← timeLeft) = some 0 then return some .deadlineExceeded
  return none

/-- Lets `d` pass, unless the caller cancels or the deadline comes first. -/
def sleep (d : Duration) : Task Q A (Option Interruption) := do
  if let some i ← check then return some i
  match ← timeLeft with
  | some left =>
    if left < d then
      return some (if ← pause left then .cancelled else .deadlineExceeded)
    else return if ← pause d then some .cancelled else none
  | none => return if ← pause d then some .cancelled else none

end Task

/-! ## Callers on a clock -/

/-- When a pause that begins at an instant is over: never before its length has passed. -/
structure Timer where
  wake : Instant → Duration → Instant
  le_wake : ∀ now d, now + d ≤ wake now d

/-- The next multiple of `unit`, unless `n` is one. -/
def roundUp (unit n : Nat) : Nat := (n + (unit - 1)) / unit * unit

theorem le_roundUp {unit : Nat} (h : 0 < unit) (n : Nat) : n ≤ roundUp unit n := by
  have h₁ := Nat.div_add_mod (n + (unit - 1)) unit
  have h₂ := Nat.mod_lt (n + (unit - 1)) h
  rw [Nat.mul_comm] at h₁
  unfold roundUp
  omega

/-- The timer that wakes at whole milliseconds. -/
def Timer.millisecond : Timer where
  wake now d := roundUp Duration.millisecond (now + d)
  le_wake now d := le_roundUp (by decide) (now + d)

/-- The timer that wakes on time. -/
def Timer.exact : Timer := ⟨fun now d => now + d, fun _ _ => Nat.le_refl _⟩

/-- A caller: the instant of its cancellation, and the time left that it reports at an instant. -/
structure Caller where
  cancelsAt : Option Instant
  timeLeft : Instant → Option Duration

namespace Caller

/-- A caller who never cancels and sets no deadline. -/
def patient : Caller := ⟨none, fun _ => none⟩

def hasCancelled (c : Caller) (now : Instant) : Bool :=
  match c.cancelsAt with
  | none => false
  | some at' => at' ≤ now

/-- The end of a pause until `wake`, and whether the caller cancelled before it. -/
def pauseUntil (c : Caller) (now wake : Instant) : Bool × Instant :=
  match c.cancelsAt with
  | none => (false, wake)
  | some at' => if at' < wake then (true, max now at') else (false, wake)

/-- Answers a question at an instant; a pause moves the clock. -/
def reply {Q σ : Type} {A : Q → Type} (c : Caller) (t : Timer)
    (other : (q : Q) → σ → A q × σ) (now : σ → Instant) (setNow : Instant → σ → σ) :
    (q : Ask Q) → σ → Ask.Answer A q × σ
  | .cancelled, s => (c.hasCancelled (now s), s)
  | .timeLeft, s => (c.timeLeft (now s), s)
  | .pause d, s =>
    let (cut, wake) := c.pauseUntil (now s) (t.wake (now s) d)
    (cut, setNow wake s)
  | .other q, s => other q s

end Caller

/-! ## Shared contexts -/

/-- Contexts share cancellation: each has a token, and a token may have a parent whose cancellation
reaches it. Tokens are numbered in the order of their creation. -/
structure TokenTree where
  /-- Parent and state of each token. -/
  tokens : List (Option Nat × Bool)
  deriving DecidableEq, Repr

namespace TokenTree

def empty : TokenTree := ⟨[]⟩

/-- Adds a token and gives its number. -/
def add (t : TokenTree) (parent : Option Nat) : Nat × TokenTree :=
  (t.tokens.length, ⟨t.tokens ++ [(parent, false)]⟩)

/-- Cancels a token. -/
def cancel (t : TokenTree) (token : Nat) : TokenTree :=
  ⟨t.tokens.modify token fun (parent, _) => (parent, true)⟩

/-- Whether the token or one of its first `fuel` ancestors is cancelled. -/
def reachesCancelled (t : TokenTree) : Nat → Nat → Bool
  | 0, _ => false
  | fuel + 1, token =>
    match t.tokens[token]? with
    | none => false
    | some (parent, cancelled) =>
      cancelled || (match parent with
        | none => false
        | some p => t.reachesCancelled fuel p)

/-- Whether a token is cancelled, itself or through an ancestor. -/
def isCancelled (t : TokenTree) (token : Nat) : Bool :=
  t.reachesCancelled t.tokens.length token

end TokenTree

/-- One context: its token, and the time left before its deadline if it has one. -/
structure Context where
  token : Nat
  timeLeft : Option Duration
  deriving DecidableEq, Repr

namespace Context

/-- A context that nobody has cancelled, without a deadline. -/
def fresh (t : TokenTree) : Context × TokenTree :=
  let (token, t) := t.add none
  (⟨token, none⟩, t)

/-- A context that is cancelled with `c` but can also be cancelled alone. -/
def child (c : Context) (t : TokenTree) : Context × TokenTree :=
  let (token, t) := t.add (some c.token)
  (⟨token, c.timeLeft⟩, t)

/-- The same token without a deadline. -/
def withoutDeadline (c : Context) : Context := { c with timeLeft := none }

/-- The same token with this much time left. -/
def withTimeout (c : Context) (d : Duration) : Context := { c with timeLeft := some d }

/-- The caller that a context makes, who may cancel at a later instant. -/
def caller (c : Context) (t : TokenTree) (now : Instant) (later : Option Instant) : Caller where
  cancelsAt := if t.isCancelled c.token then some now else later
  timeLeft _ := c.timeLeft

end Context

/-- A clock that only waiting moves: plays a wait of a caller and gives the end of it. -/
def Caller.waitFrom (c : Caller) (t : Timer) (now : Instant) (d : Duration) :
    Option Interruption × Instant :=
  let wait : Task Empty (fun _ => Unit) (Option Interruption) := Task.sleep d
  wait.answer (c.reply t (fun q _ => nomatch q) id fun now _ => now) now

end Registrar
