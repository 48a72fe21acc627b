import Registrar.Decimal.Fixed
import Registrar.Operations.Account
import Registrar.Rehearsal
import Registrar.Settings.Source
import Registrar.Wire.Sender

/-!
# Connectivity check

`Probe.balance` loads the settings, builds a client and asks for the balance of the account, and
names what it was doing when it failed. Nobody answers its requests, so the clock and the limiter
are those of a rehearsal, and every exchange ends as `Sender.fail` says.
-/

namespace Registrar.Probe

/-- What went wrong, and during what. -/
structure Problem where
  activity : String
  cause : Failure
  deriving DecidableEq, Repr

/-- The lines that report a problem. -/
def Problem.report (p : Problem) : List String :=
  let lines := Text.splitOn '\n' p.cause.message.toList
  ["Error: " ++ p.activity, "", "Caused by:"] ++ lines.map fun line => "    " ++ String.ofList line

def during {α : Type} (activity : String) (result : Except Failure α) : Except Problem α :=
  result.mapError fun cause => ⟨activity, cause⟩

/-- How long the whole check may take. -/
def deadline : Duration := Duration.ofSeconds 60

/-- Who waits for the check. -/
def caller : Caller := ⟨none, fun now => some (deadline - now)⟩

/-- Answers a client whose requests reach nobody. -/
def connect (sender : Sender) :
    (q : Connection.Question) → Stage → Connection.Answer q × Stage
  | .send request patience within, s =>
    Stage.connect caller .millisecond (.send request patience within)
      { s with script := [⟨0, .error (sender.fail request)⟩] }
  | q, s => Stage.connect caller .millisecond q s

/-- Plays an operation of a client whose requests reach nobody. -/
def attempt {α : Type} (sender : Sender) (stage : Stage) (op : Operation α) : Except Failure α :=
  (op.run.answer
    (caller.reply .millisecond (connect sender) (·.now) fun now s => { s with now }) stage).1

/-- The sender and the first state of a client. -/
def prepare (s : Settings Float) : Except Failure (Sender × Stage) := do
  let sender ← s.sender
  let stage ← Stage.new s []
  return (sender, stage)

/-- Loads the settings and asks for the balance. -/
def balance (env : Environment) (tree : FileTree) (start : Route) : Except Problem Balance := do
  let settings ← during "loading registrar configuration" (Settings.load env tree start)
  let (sender, stage) ← during "building registrar client" (prepare settings)
  let client := Client.ofSettings settings fun _ => (0.0 : Float)
  during "fetching account balance" (attempt sender stage client.getBalances)

/-- The lines that show a balance. -/
def balanceLines (b : Balance) : List String :=
  ["currency:            " ++ b.currency,
    "available balance:   " ++ Decimal.fixedText 2 b.availableBalance,
    "account balance:     " ++ Decimal.fixedText 2 b.accountBalance,
    "earned amount:       " ++ Decimal.fixedText 2 b.earnedAmount,
    "withdrawable amount: " ++ Decimal.fixedText 2 b.withdrawableAmount,
    "auto-renew reserve:  " ++ Decimal.fixedText 2 b.fundsRequiredForAutoRenew]

/-- How the check ends: its exit code, and what it writes to the standard output and to the standard
error. -/
structure Report where
  exitCode : Nat
  output : List String
  error : List String
  deriving DecidableEq, Repr

/-- Runs the check. -/
def run (env : Environment) (tree : FileTree) (start : Route) : Report :=
  match balance env tree start with
  | .ok b => ⟨0, balanceLines b, []⟩
  | .error problem => ⟨1, [], problem.report⟩

end Registrar.Probe
