import Mathlib.Tactic.Choose
import Registrar.Proofs.Bucket.Exact
import Registrar.Proofs.Client.Attempts
import Registrar.Proofs.Client.Session

/-!
# Commands side by side

A `Crowd` is a client with any number of commands under way that share its breaker and its limiter.
They are issued at any moment and go on in any order, each at its next question; the transport and
the callers answer as they like, the clock readings come in any order, and the owner of the client
changes the limits and resets the breaker. A command may be dropped where it waits.

Main statement: `spent_eq_exchanges_add_lapsed`. Every token belongs to one attempt of one command
and every exchange to an attempt with a token of its own; when all commands have ended, the tokens
without an exchange are those of callers who were gone when their token came.
-/

namespace Registrar

open Dialogue

/-! ## One command of many -/

/-- A command that was issued: what it has asked and been answered, and what is left of it. -/
structure Member (c : Client) where
  {β : Type}
  command : Command
  extract : Envelope → Except Verdict β
  heard : List Client.Event
  rest : Call (Except Failure β)
  reached : Reaches (c.execute command extract) heard rest
  dropped : Bool
  /-- It was dropped where it waited. -/
  parked : dropped = true → Client.Parked rest

namespace Member

variable {c : Client}

def issue {β : Type} (command : Command) (extract : Envelope → Except Verdict β) :
    Member c where
  command := command
  extract := extract
  heard := []
  rest := c.execute command extract
  reached := .here _
  dropped := false
  parked := nofun

/-- Goes on with the answer to the next question. -/
def hear (m : Member c) {q : Ask Connection.Question}
    {next : Ask.Answer Connection.Answer q → Call (Except Failure m.β)}
    (asks : m.rest = .ask q next) (r : Ask.Answer Connection.Answer q) : Member c where
  command := m.command
  extract := m.extract
  heard := m.heard ++ [⟨q, r⟩]
  rest := next r
  reached := (asks ▸ m.reached).snoc r
  dropped := false
  parked := nofun

/-- The command is suspended: it has not begun, or it is in a pause or in an exchange. -/
def Waits {γ : Type} : Call γ → Prop
  | .ask (.pause _) _ | .ask (.other (.send ..)) _ | .ask (.other .enter) _ => True
  | _ => False

theorem parked_of_waits {γ : Type} {d : Call γ} (h : Waits d) : Client.Parked d := by
  rcases d with _ | ⟨_ | _ | _ | _, _⟩ <;> trivial

def drop (m : Member c) (h : Waits m.rest) : Member c :=
  { m with dropped := true, parked := fun _ => parked_of_waits h }

/-- The permit of a command that the breaker admitted. -/
def permit? (m : Member c) : Option Admission :=
  match m.heard with
  | ⟨.other .enter, (.ok a : Except Refusal Admission)⟩ :: _ => some a
  | _ => none

/-- The command has returned or was dropped. -/
def Ended (m : Member c) : Prop := m.dropped = true ∨ ∃ answer, m.rest = .done answer

/-- The exchanges that a command has begun. -/
def exchangeCount (m : Member c) : Nat :=
  (Client.exchanges m.heard).length + Client.pending m.rest

/-- These are the attempts of a command: all its tokens and exchanges are theirs, in each an
exchange comes after one token and is the only one, and so it is with an exchange that is under
way. -/
structure Attempted (m : Member c) (attempts : List (List Client.Event)) : Prop where
  makes : Client.Makes c m.command m.extract m.heard attempts m.rest
  exchanges : Client.exchanges m.heard = Client.exchanges attempts.flatten
  grants : Client.grants m.heard = Client.grants attempts.flatten
  orderly : ∀ attempt ∈ attempts, Client.Orderly attempt
  under_way : Client.pending m.rest = 1 →
    ∃ last ∈ attempts.getLast?, Client.grants last = 1 ∧ Client.exchanges last = []

/-- At every moment a command has its attempts, and when it has ended its tokens were spent on its
exchanges but for those of attempts that lapsed. -/
theorem exists_attempted (m : Member c) :
    ∃ attempts, m.Attempted attempts ∧
      (m.Ended → Client.grants m.heard = m.exchangeCount + attempts.countP Client.lapsed) := by
  obtain ⟨attempts, makes⟩ := Client.makes_of_reaches m.reached
  have orderly : ∀ attempt ∈ attempts, Client.Orderly attempt := by
    intro attempt h
    obtain ⟨d, hd⟩ := makes.reaches attempt h
    exact Client.orderly_of_reaches hd
  refine ⟨attempts, ⟨makes, makes.tally.1, makes.tally.2, orderly, makes.granted_of_pending⟩, ?_⟩
  intro ended
  refine makes.balance ?_
  obtain dropped | ⟨answer, h⟩ := ended
  · exact m.parked dropped
  · rw [h]
    trivial

end Member

/-! ## What the commands share -/

/-- The breaker and the limiter of a client, and the number of tokens handed out. -/
structure Pool (α : Type) where
  breaker : Breaker
  bucket : Bucket α
  spent : Nat

/-- Answers a question: the breaker and the bucket by what they are, at any clock reading, the
transport and the caller as they like. -/
inductive Pool.Serves {α : Type} [Quantity α] (p : Pool α) :
    (q : Ask Connection.Question) → Ask.Answer Connection.Answer q → Pool α → Prop
  | enter (now : Instant) :
      Serves p (.other .enter) (p.breaker.enter now).1
        { p with breaker := (p.breaker.enter now).2 }
  | settle (now : Instant) (a : Admission) (o : Outcome) :
      Serves p (.other (.settle a o)) () { p with breaker := p.breaker.settle now a o }
  | grant {now : Instant} {bucket : Bucket α} (served : p.bucket.request now = (none, bucket)) :
      Serves p (.other .take) none { p with bucket := bucket, spent := p.spent + 1 }
  | refuse {now : Instant} {bucket : Bucket α} {wait : Duration}
      (short : p.bucket.request now = (some wait, bucket)) :
      Serves p (.other .take) (some wait) { p with bucket := bucket }
  | exchange (request : Request) (patience : Duration) (within : Option Duration)
      (sent : Connection.Sent) : Serves p (.other (.send request patience within)) sent p
  | caller {q : Ask Connection.Question} (toCaller : q.ToCaller)
      (r : Ask.Answer Connection.Answer q) : Serves p q r p

theorem Pool.Serves.spent_eq {α : Type} [Quantity α] {p p' : Pool α} {q : Ask Connection.Question}
    {r : Ask.Answer Connection.Answer q} (h : p.Serves q r p') :
    p'.spent = p.spent + Client.grants [⟨q, r⟩] := by
  cases h with
  | enter | settle | grant | refuse | exchange => rfl
  | caller toCaller r =>
    have quiet : Client.Quiet [⟨q, r⟩] :=
      Client.quiet_of_toCaller (List.forall_mem_singleton.2 toCaller)
    rw [quiet.grants, Nat.add_zero]

/-! ## Crowds -/

structure Crowd (α : Type) (c : Client) where
  pool : Pool α
  members : List (Member c)

namespace Crowd

variable {α : Type} [Quantity α] {c : Client}

inductive Step (w : Crowd α c) : Crowd α c → Prop
  /-- The owner changes the limits or looks at the store. -/
  | manage (now : Instant) (op : Bucket.Op α) (untaken : op ≠ .take) :
      Step w { w with pool := { w.pool with bucket := (w.pool.bucket.step now op).2 } }
  | reset : Step w { w with pool := { w.pool with breaker := w.pool.breaker.reset } }
  | issue {β : Type} (command : Command) (extract : Envelope → Except Verdict β) :
      Step w { w with members := .issue command extract :: w.members }
  | hear (before after : List (Member c)) {m : Member c} {q : Ask Connection.Question}
      {next : Ask.Answer Connection.Answer q → Call (Except Failure m.β)}
      {r : Ask.Answer Connection.Answer q} {pool : Pool α}
      (among : w.members = before ++ m :: after) (active : m.dropped = false)
      (asks : m.rest = .ask q next) (served : w.pool.Serves q r pool) :
      Step w ⟨pool, before ++ m.hear asks r :: after⟩
  /-- A command that is dropped settles its permit as ignored. -/
  | drop (before after : List (Member c)) {m : Member c} (now : Instant)
      (among : w.members = before ++ m :: after) (active : m.dropped = false)
      (suspended : Member.Waits m.rest) :
      Step w
        ⟨{ w.pool with breaker := Session.abandon w.pool.breaker now m.permit? },
          before ++ m.drop suspended :: after⟩

/-- The crowds of a client with this breaker and this bucket. -/
inductive Reached (b : Breaker) (k : Bucket α) : Crowd α c → Prop
  | start : Reached b k ⟨⟨b, k, 0⟩, []⟩
  | step {w w' : Crowd α c} (before : Reached b k w) (s : Step w w') : Reached b k w'

/-- The tokens that the commands got. -/
def tokens (members : List (Member c)) : Nat :=
  (members.map (Client.grants ·.heard)).sum

theorem Step.spent_eq {w w' : Crowd α c} (h : w.pool.spent = tokens w.members)
    (s : Step w w') : w'.pool.spent = tokens w'.members := by
  cases s with
  | manage | reset => exact h
  | issue command extract => simpa [tokens, Member.issue] using h
  | hear before after among active asks served =>
    rw [served.spent_eq, h, among]
    simp only [tokens, List.map_append, List.map_cons, List.sum_append, List.sum_cons,
      Member.hear, Client.grants_append]
    omega
  | drop before after now among active suspended =>
    rw [among] at h
    simpa [tokens, Member.drop] using h

theorem Reached.spent_eq {b : Breaker} {k : Bucket α} {w : Crowd α c} (hw : Reached b k w) :
    w.pool.spent = tokens w.members := by
  induction hw with
  | start => rfl
  | step _ s ih => exact s.spent_eq ih

/-- Every token that was handed out belongs to one attempt of one command. In each attempt an
exchange comes after its token, which no other exchange has. When all commands have ended, the
tokens are as many as the exchanges and the attempts whose caller was gone between the two. -/
theorem spent_eq_exchanges_add_lapsed {b : Breaker} {k : Bucket α} {w : Crowd α c}
    (hw : Reached b k w) :
    ∃ attempts : Member c → List (List Client.Event),
      (∀ m ∈ w.members, m.Attempted (attempts m)) ∧
        w.pool.spent = (w.members.map fun m => Client.grants (attempts m).flatten).sum ∧
        ((∀ m ∈ w.members, m.Ended) →
          w.pool.spent = (w.members.map Member.exchangeCount).sum +
            (w.members.map fun m => (attempts m).countP Client.lapsed).sum) := by
  choose attempts attempted balance using fun m : Member c => m.exists_attempted
  refine ⟨attempts, fun m _ => attempted m, ?_, fun ended => ?_⟩
  · rw [hw.spent_eq, tokens]
    congr 1
    exact List.map_congr_left fun m _ => (attempted m).grants
  · rw [hw.spent_eq, tokens, ← List.sum_map_add]
    congr 1
    exact List.map_congr_left fun m hm => balance m (ended m hm)

/-- Of two commands that got a token, one was cancelled before its exchange and the other was
dropped in it. -/
theorem spent_eq_of_cancelled_and_dropped :
    let c : Client := ⟨⟨"", "", "", ""⟩, "", 0, ⟨1, 0, fun _ => 0⟩, 1⟩
    let b : Breaker := ⟨⟨1, 5000000⟩, .closed, 0, none, false, 0, 0⟩
    let k : Bucket ℚ := ⟨⟨2, 1⟩, 2, 0⟩
    ∃ w : Crowd ℚ c, Reached b k w ∧ (∀ m ∈ w.members, m.Ended) ∧ w.pool.spent = 2 ∧
      (w.members.map Member.exchangeCount).sum = 1 ∧
      ∃ attempts : Member c → List (List Client.Event),
        (∀ m ∈ w.members, m.Attempted (attempts m)) ∧
          (w.members.map fun m => (attempts m).countP Client.lapsed).sum = 1 := by
  intro c b k
  have first := execute_eq c ⟨"", []⟩ Except.ok
  rw [show c.attempts ⟨"", []⟩ Except.ok = _ from executeFrom_eq _ _ _ 0 0] at first
  have one : k.request 0 = (none, ⟨⟨2, 1⟩, 1, 0⟩) := by decide +kernel
  have two : (⟨⟨2, 1⟩, 1, 0⟩ : Bucket ℚ).request 0 = (none, ⟨⟨2, 1⟩, 0, 0⟩) := by decide +kernel
  have h : Reached b k (⟨⟨b, k, 0⟩, []⟩ : Crowd ℚ c) := .start
  have h := (h.step (.issue ⟨"", []⟩ Except.ok)).step (.issue ⟨"", []⟩ Except.ok)
  have h := h.step (.hear [] _ rfl rfl first (.enter 0))
  have h := h.step (.hear [_] _ rfl rfl first (.enter 0))
  -- Both are checked by the retry loop and by the limiter, and get their tokens.
  have h := h.step (.hear [] _ rfl rfl rfl (.caller (q := .cancelled) trivial false))
  have h := h.step (.hear [] _ rfl rfl rfl (.caller (q := .timeLeft) trivial none))
  have h := h.step (.hear [] _ rfl rfl rfl (.caller (q := .cancelled) trivial false))
  have h := h.step (.hear [_] _ rfl rfl rfl (.caller (q := .cancelled) trivial false))
  have h := h.step (.hear [_] _ rfl rfl rfl (.caller (q := .timeLeft) trivial none))
  have h := h.step (.hear [_] _ rfl rfl rfl (.caller (q := .cancelled) trivial false))
  have h := h.step (.hear [_] _ rfl rfl rfl (.caller (q := .timeLeft) trivial none))
  have h := h.step (.hear [] _ rfl rfl rfl (.caller (q := .timeLeft) trivial none))
  have h := h.step (.hear [] _ rfl rfl rfl (.grant one))
  have h := h.step (.hear [_] _ rfl rfl rfl (.grant two))
  -- The one is cancelled, and the breaker hears of it; the other begins its exchange.
  have h := h.step (.hear [] _ rfl rfl rfl (.caller (q := .cancelled) trivial true))
  have h := h.step (.hear [] _ rfl rfl rfl (.settle 0 .normal .ignored))
  have h := h.step (.hear [_] _ rfl rfl rfl (.caller (q := .cancelled) trivial false))
  have h := h.step (.hear [_] _ rfl rfl rfl (.caller (q := .timeLeft) trivial none))
  have h := h.step (.hear [_] _ rfl rfl rfl (.caller (q := .timeLeft) trivial none))
  have h := h.step (.drop [_] _ 0 rfl rfl (by exact trivial))
  obtain ⟨w, hw, ended, spent, count⟩ : ∃ w : Crowd ℚ c, Reached b k w ∧
      (∀ m ∈ w.members, m.Ended) ∧ w.pool.spent = 2 ∧
      (w.members.map Member.exchangeCount).sum = 1 :=
    ⟨_, h, List.forall_mem_cons.2 ⟨.inr ⟨_, rfl⟩, List.forall_mem_singleton.2 (.inl rfl)⟩, rfl, rfl⟩
  obtain ⟨attempts, attempted, -, balance⟩ := spent_eq_exchanges_add_lapsed hw
  refine ⟨w, hw, ended, spent, count, attempts, attempted, ?_⟩
  have := balance ended
  omega

end Crowd

end Registrar
