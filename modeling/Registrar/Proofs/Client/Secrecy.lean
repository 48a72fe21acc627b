import Mathlib.Data.List.Forall2
import Registrar.Proofs.Bucket.Exact
import Registrar.Proofs.Client.Attempt
import Registrar.Proofs.Client.Session

/-!
# What the key of a caller is seen in

Two clients whose credentials differ in the key alone are put to work side by side: the same
commands are issued and go on in the same order at the same clock readings, their owners do the
same, and the transports answer alike. `Call.Alike` relates two calls that ask the same but for the
key in their requests, and `Service.Alike` two such clients at work; every move preserves it
(`Alike.move`). Main statement: `alike_run_of_withKey`, the key is seen in the requests that are
handed to the transport and nowhere else. Since the answers are the same after every move, so are
the moves of a caller who chooses them by what was returned before.
-/

namespace Registrar

open Dialogue

/-! ## Lists side by side -/

section

variable {α β : Type*} {R : α → α → Prop} {l l' : List α}

theorem map_eq_of_forall₂ {f f' : α → β} (h : List.Forall₂ R l l')
    (hf : ∀ a a', R a a' → f' a' = f a) : l'.map f' = l.map f := by
  induction h with
  | nil => rfl
  | cons hd _ ih => rw [List.map_cons, List.map_cons, hf _ _ hd, ih]

theorem forall₂_set (h : List.Forall₂ R l l') {a a' : α} (ha : R a a') (i : Nat) :
    List.Forall₂ R (l.set i a) (l'.set i a') := by
  induction h generalizing i with
  | nil => exact .nil
  | cons hd tl ih =>
    cases i with
    | zero => exact .cons ha tl
    | succ i => exact .cons hd (ih i)

theorem rel_getElem? (h : List.Forall₂ R l l') (i : Nat) : Option.Rel R l[i]? l'[i]? := by
  induction h generalizing i with
  | nil => exact .none
  | cons hd tl ih =>
    cases i with
    | zero => exact .some hd
    | succ i => exact ih i

end

/-! ## Keys -/

namespace Credentials

def withKey (c : Credentials) (key : String) : Credentials := { c with apiKey := key }

theorem debugText_withKey (c : Credentials) (key : String) :
    (c.withKey key).debugText = c.debugText := rfl

/-- All that is asked of a key is whether it is blank. -/
theorem blankField?_withKey {c : Credentials} {key : String}
    (h : Text.isBlankText key = Text.isBlankText c.apiKey) :
    (c.withKey key).blankField? = c.blankField? := by
  simp only [blankField?, fields, withKey, List.find?, h]
  repeat' split
  all_goals rfl

end Credentials

def Client.withKey (c : Client) (key : String) : Client :=
  { c with credentials := c.credentials.withKey key }

namespace Settings

variable {α : Type} {s : Settings α} {key : String}

def withKey (s : Settings α) (key : String) : Settings α :=
  { s with credentials := s.credentials.withKey key }

theorem fault?_withKey [Quantity α]
    (h : Text.isBlankText key = Text.isBlankText s.credentials.apiKey) :
    (s.withKey key).fault? = s.fault? := by
  have same : (s.withKey key).credentials.blankField? = s.credentials.blankField? :=
    Credentials.blankField?_withKey h
  rw [fault?, same, fault?]
  rfl

end Settings

namespace Request

/-- Both hide the values of their keys, which are all that tells them apart. -/
structure SameButKey (r r' : Request) : Prop where
  url : r'.url = r.url
  redacted : r'.redacted = r.redacted
  hides : r.hides "ApiKey" = true
  query : List.Forall₂ (fun p p' => p'.1 = p.1 ∧ (p.1 ≠ "ApiKey" → p'.2 = p.2)) r.query r'.query

namespace SameButKey

variable {r r' : Request}

theorem maskedQuery_eq (h : r.SameButKey r') : r'.maskedQuery = r.maskedQuery := by
  have hides (key : String) : r'.hides key = r.hides key := by rw [Request.hides, h.redacted]; rfl
  refine map_eq_of_forall₂ h.query ?_
  rintro ⟨key, value⟩ ⟨key', value'⟩ ⟨rfl, shown⟩
  dsimp only at shown ⊢
  rw [hides]
  by_cases hk : key' = "ApiKey"
  · rw [hk, h.hides]
    rfl
  · rw [shown hk]

theorem debugText_eq (h : r.SameButKey r') : r'.debugText = r.debugText := by
  unfold debugText
  rw [h.maskedQuery_eq, h.url]

theorem loggableUrl_eq (h : r.SameButKey r') : r'.loggableUrl = r.loggableUrl := by
  unfold loggableUrl
  rw [h.maskedQuery_eq, h.url]

end SameButKey

/-- The key of the caller stands in no pair but its own. -/
theorem sameButKey_ofCommand (command : Command) (c : Credentials) (endpoint key : String) :
    (ofCommand command c endpoint).SameButKey (ofCommand command (c.withKey key) endpoint) where
  url := rfl
  redacted := rfl
  hides := by simp [hides, ofCommand, Text.sameFolded_refl]
  query := by
    refine List.rel_append ?_ (List.forall₂_same.2 fun p _ => ⟨rfl, fun _ => rfl⟩)
    simp [credentialPairs, Credentials.withKey]

end Request

/-! ## Calls -/

/-- Two calls that go the same way with the same answers: they ask the same, but for the key in
their requests. -/
inductive Call.Alike {β : Type} : Call β → Call β → Prop
  | done (b : β) : Alike (.done b) (.done b)
  | ask (q : Ask Connection.Question) (other : Connection.PassesTransport q)
      {next next' : Ask.Answer Connection.Answer q → Call β}
      (then_ : ∀ r, Alike (next r) (next' r)) : Alike (.ask q next) (.ask q next')
  | send {r r' : Request} (same : r.SameButKey r') (patience : Duration) (within : Option Duration)
      {next next' : Connection.Sent → Call β} (then_ : ∀ sent, Alike (next sent) (next' sent)) :
      Alike (.ask (.other (.send r patience within)) next)
        (.ask (.other (.send r' patience within)) next')

namespace Call.Alike

variable {β γ : Type} {d d' : Call β}

theorem refl (h : d.AsksOnly Connection.PassesTransport) : Alike d d := by
  induction d with
  | done b => exact .done b
  | ask q next ih => exact .ask q h.1 fun r => ih r (h.2 r)

theorem andThen (h : Alike d d') {f f' : β → Call γ} (hf : ∀ b, Alike (f b) (f' b)) :
    Alike (d.andThen f) (d'.andThen f') := by
  induction h with
  | done b => exact hf b
  | ask q other _ ih => exact .ask q other ih
  | send same patience within _ ih => exact .send same patience within ih

end Call.Alike

section

variable {β ε : Type}

/-- Retries of operations that are alike are alike. -/
theorem alike_executeFrom {plan : RetryPlan} {policy : ε → Nat → RetryDecision}
    {operation operation' : Nat → Call (Except ε β)}
    (same : ∀ k, Call.Alike (operation k) (operation' k)) (left attempt : Nat) :
    Call.Alike (Retry.executeFrom plan policy operation left attempt)
      (Retry.executeFrom plan policy operation' left attempt) := by
  induction left using Nat.strongRecOn generalizing attempt with
  | ind left ih =>
    rw [Retry.executeFrom_eq_andThen, Retry.executeFrom_eq_andThen]
    refine (Call.Alike.refl (check_asksOnly trivial trivial)).andThen fun i => ?_
    cases i with
    | some cause => exact .done _
    | none =>
      refine (same attempt).andThen fun result => ?_
      cases result with
      | ok value => exact .done _
      | error e =>
        simp only [Retry.afterAttempt]
        cases Retry.pauseAfter plan attempt (policy e attempt) with
        | none => exact .done _
        | some delay =>
          cases left with
          | zero => exact .done _
          | succ left =>
            refine (Call.Alike.refl ?_).andThen fun i => ?_
            · exact sleep_asksOnly trivial trivial (fun _ => trivial) delay
            cases i with
            | some cause => exact .done _
            | none => exact ih left (Nat.lt_succ_self left) (attempt + 1)

variable {c : Client} {command : Command} {extract : Envelope → Except Verdict β}

theorem alike_exchange {r r' : Request} (same : r.SameButKey r') (key : String) :
    Call.Alike (c.exchange r) ((c.withKey key).exchange r') := by
  rw [exchange_eq, exchange_eq]
  refine (Call.Alike.refl (check_asksOnly trivial trivial)).andThen fun i => ?_
  cases i with
  | some cause => exact .done _
  | none =>
    refine .ask .timeLeft trivial fun left => .send same _ _ fun sent => ?_
    rcases sent with (_ | _) | _ | _ <;> exact .done _

theorem alike_execute (c : Client) (command : Command) (extract : Envelope → Except Verdict β)
    (key : String) :
    Call.Alike (c.execute command extract) ((c.withKey key).execute command extract) := by
  -- The exchange is the only part that shows the key to anybody.
  have attempt : Call.Alike (c.attempt command extract)
      ((c.withKey key).attempt command extract) := by
    rw [attempt_eq, attempt_eq]
    have waiting := Client.acquire_asksOnly c.waits
    refine (Call.Alike.refl waiting).andThen fun slot => ?_
    cases slot with
    | error refusal => exact .done _
    | ok token =>
      refine (alike_exchange (Request.sameButKey_ofCommand ..) key).andThen fun answer => ?_
      cases answer <;> exact .done _
  rw [execute_eq, execute_eq]
  refine .ask (.other .enter) trivial fun admission => ?_
  cases admission with
  | error refusal => exact .done _
  | ok a =>
    refine (alike_executeFrom (fun _ => attempt) _ _).andThen fun result => ?_
    exact .ask (.other (.settle a (judge result))) trivial fun _ => .done _

end

/-! ## Services -/

/-- What answers requests. At an instant it knows the requests that were handed to it so far, latest
first, and is asked about one of them. -/
abbrev Transport :=
  Instant → List Request → Request → Duration → Option Duration → Connection.Sent

/-- Whatever the keys are, the transports answer alike. -/
def Transport.Agrees (t t' : Transport) : Prop :=
  ∀ {handed handed' : List Request} {r r' : Request},
    List.Forall₂ Request.SameButKey handed handed' → r.SameButKey r' →
    ∀ now patience within, t' now handed' r' patience within = t now handed r patience within

/-- A command that was issued: its permit, and what is left of it. -/
structure Errand where
  {β : Type}
  permit : Option Admission
  rest : Call (Except Failure β)
  dropped : Bool

namespace Errand

/-- What a command returned. -/
def answer? : Errand → Option (Σ β : Type, Except Failure β)
  | ⟨_, .done answer, _⟩ => some ⟨_, answer⟩
  | _ => none

/-- The request that a command has handed to the transport and waits for. -/
def request? : Errand → Option Request
  | ⟨_, .ask (.other (.send r _ _)) _, _⟩ => some r
  | _ => none

end Errand

/-- The same but for the keys in the requests. -/
inductive Errand.Alike : Errand → Errand → Prop
  | mk {β : Type} {rest rest' : Call (Except Failure β)} (permit : Option Admission)
      (dropped : Bool) (same : Call.Alike rest rest') :
      Alike ⟨permit, rest, dropped⟩ ⟨permit, rest', dropped⟩

/-- A client at work. -/
structure Service (α : Type) where
  breaker : Breaker
  bucket : Bucket α
  errands : List Errand
  /-- The requests that were handed to the transport, latest first. -/
  handed : List Request

/-- What happens to a service: its owner uses the limiter or resets the breaker, a command is
issued, goes on by one question or is dropped. What the caller says and does comes with the move. -/
inductive Move (α : Type)
  | manage (now : Instant) (op : Bucket.Op α)
  | reset
  | issue {β : Type} (command : Command) (extract : Envelope → Except Verdict β)
  | resume (number : Nat) (now : Instant) (cut : Bool) (left : Option Duration)
  | drop (number : Nat) (now : Instant)

namespace Service

variable {α : Type} [Quantity α]

/-- Answers a question. -/
def reply (t : Transport) (now : Instant) (cut : Bool) (left : Option Duration) (w : Service α) :
    (q : Ask Connection.Question) → Ask.Answer Connection.Answer q × Service α
  | .cancelled => (cut, w)
  | .timeLeft => (left, w)
  | .pause _ => (cut, w)
  | .other .enter => ((w.breaker.enter now).1, { w with breaker := (w.breaker.enter now).2 })
  | .other (.settle a o) => ((), { w with breaker := w.breaker.settle now a o })
  | .other .take => ((w.bucket.request now).1, { w with bucket := (w.bucket.request now).2 })
  | .other (.send r patience within) =>
    (if cut then .cut .cancelled else t now w.handed r patience within, w)

/-- The permit after an answer. -/
def permitAfter (old : Option Admission) : Client.Event → Option Admission
  | ⟨.other .enter, (answer : Except Refusal Admission)⟩ => answer.toOption
  | ⟨.other (.settle ..), _⟩ => none
  | _ => old

/-- Puts a command in its place; a request that it then waits for is handed over. -/
def put (w : Service α) (number : Nat) (e : Errand) : Service α :=
  { w with errands := w.errands.set number e, handed := e.request?.toList ++ w.handed }

def move (c : Client) (t : Transport) (w : Service α) : Move α → Service α
  | .manage now op => { w with bucket := (w.bucket.step now op).2 }
  | .reset => { w with breaker := w.breaker.reset }
  | .issue command extract =>
    { w with errands := w.errands ++ [⟨none, c.execute command extract, false⟩] }
  | .resume number now cut left =>
    match w.errands[number]? with
    | some ⟨permit, .ask q next, false⟩ =>
      let answered := w.reply t now cut left q
      answered.2.put number ⟨permitAfter permit ⟨q, answered.1⟩, next answered.1, false⟩
    | _ => w
  | .drop number now =>
    match w.errands[number]? with
    | some ⟨permit, .ask q next, false⟩ =>
      { w with
        breaker := Session.abandon w.breaker now permit
        errands := w.errands.set number ⟨none, .ask q next, true⟩ }
    | _ => w

/-- What becomes of a service in some moves. -/
def run (c : Client) (t : Transport) (w : Service α) (moves : List (Move α)) : Service α :=
  moves.foldl (move c t) w

/-- The same but for the keys in the requests. -/
structure Alike (w w' : Service α) : Prop where
  breaker : w'.breaker = w.breaker
  bucket : w'.bucket = w.bucket
  errands : List.Forall₂ Errand.Alike w.errands w'.errands
  handed : List.Forall₂ Request.SameButKey w.handed w'.handed

section

variable {c : Client} {key : String} {t t' : Transport} {w w' : Service α}

/-- A question that is not for the transport has the same answer. -/
theorem Alike.reply (h : w.Alike w') (t t' : Transport) (now : Instant) (cut : Bool)
    (left : Option Duration) {q : Ask Connection.Question} (other : Connection.PassesTransport q) :
    (w'.reply t' now cut left q).1 = (w.reply t now cut left q).1 ∧
      (w.reply t now cut left q).2.Alike (w'.reply t' now cut left q).2 := by
  cases q with
  | cancelled | timeLeft | pause => exact ⟨rfl, h⟩
  | other q =>
    cases q with
    | enter =>
      simp only [Service.reply, h.breaker]
      exact ⟨trivial, { h with breaker := rfl }⟩
    | settle a o =>
      simp only [Service.reply, h.breaker]
      exact ⟨trivial, { h with breaker := rfl }⟩
    | take =>
      simp only [Service.reply, h.bucket]
      exact ⟨trivial, { h with bucket := rfl }⟩
    | send => exact other.elim

omit [Quantity α] in
theorem Alike.put (h : w.Alike w') (number : Nat) {e e' : Errand} (he : e.Alike e') :
    (w.put number e).Alike (w'.put number e') where
  breaker := h.breaker
  bucket := h.bucket
  errands := forall₂_set h.errands he number
  handed := by
    refine List.rel_append ?_ h.handed
    cases he with
    | mk permit dropped same =>
      cases same with
      | done => exact .nil
      | send same => exact .cons same .nil
      | ask q other then_ =>
        rcases q with _ | _ | _ | _ | _ | _ | _
        all_goals first | exact .nil | exact other.elim

/-- A command goes on by one question: its request meets transports that answer alike. -/
theorem Alike.resume (h : w.Alike w') (agree : t.Agrees t') (number : Nat) (now : Instant)
    (cut : Bool) (left : Option Duration) :
    (w.move c t (.resume number now cut left)).Alike
      (w'.move (c.withKey key) t' (.resume number now cut left)) := by
  have there := rel_getElem? h.errands number
  unfold Service.move
  dsimp only
  generalize w.errands[number]? = e, w'.errands[number]? = e' at there
  cases there with
  | none => exact h
  | some same =>
    cases same with
    | mk permit dropped same =>
      cases dropped with
      | true => cases same <;> exact h
      | false =>
        cases same with
        | done => exact h
        | ask q other then_ =>
          obtain ⟨same, h⟩ := h.reply t t' now cut left other
          dsimp only
          rw [same]
          exact h.put number (.mk _ _ (then_ _))
        | send same patience within then_ =>
          have answer := agree h.handed same now patience within
          simp only [Service.reply, answer]
          exact h.put number (.mk _ _ (then_ _))

/-- A command is dropped and gives its permit back, wherever it stands. -/
theorem Alike.drop (h : w.Alike w') (number : Nat) (now : Instant) :
    (w.move c t (.drop number now)).Alike
      (w'.move (c.withKey key) t' (.drop number now)) := by
  have gone {e e' : Errand} (he : e.Alike e') (permit : Option Admission) :
      Alike { w with
          breaker := Session.abandon w.breaker now permit, errands := w.errands.set number e }
        { w' with
          breaker := Session.abandon w'.breaker now permit
          errands := w'.errands.set number e' } :=
    ⟨by simp only [h.breaker], h.bucket, forall₂_set h.errands he number, h.handed⟩
  have there := rel_getElem? h.errands number
  unfold Service.move
  dsimp only
  generalize w.errands[number]? = e, w'.errands[number]? = e' at there
  cases there with
  | none => exact h
  | some same =>
    cases same with
    | mk permit dropped same =>
      cases dropped with
      | true => cases same <;> exact h
      | false =>
        cases same with
        | done => exact h
        | ask q other then_ => exact gone (.mk none true (.ask q other then_)) permit
        | send same patience within then_ =>
          exact gone (.mk none true (.send same patience within then_)) permit

theorem Alike.move (h : w.Alike w') (agree : t.Agrees t') (m : Move α) :
    (w.move c t m).Alike (w'.move (c.withKey key) t' m) := by
  cases m with
  | manage now op => exact { h with bucket := by simp only [Service.move, h.bucket] }
  | reset => exact { h with breaker := by simp only [Service.move, h.breaker] }
  | issue command extract =>
    have same := alike_execute c command extract key
    exact { h with errands := List.rel_append h.errands (.cons (.mk none false same) .nil) }
  | resume number now cut left => exact h.resume agree number now cut left
  | drop number now => exact h.drop number now

theorem Alike.run (h : w.Alike w') (agree : t.Agrees t') (moves : List (Move α)) :
    (w.run c t moves).Alike (w'.run (c.withKey key) t' moves) := by
  induction moves generalizing w w' with
  | nil => exact h
  | cons m moves ih => exact ih (h.move agree m)

omit [Quantity α] in
theorem Alike.answers_eq (h : w.Alike w') :
    w'.errands.map Errand.answer? = w.errands.map Errand.answer? := by
  refine map_eq_of_forall₂ h.errands ?_
  rintro _ _ ⟨permit, dropped, same⟩
  cases same <;> rfl

end

/-- A key that is not blank is seen in the requests that are handed to the transport, as the value
of its pair, and nowhere else: other settings with another key are as valid and shown alike, and
their client returns the same, leaves the same breaker and limiter, and its requests, in the same
order, are logged as the same texts. -/
theorem alike_run_of_withKey (s : Settings α) (key : String) (draw : Nat → α) (waits : Nat)
    {t t' : Transport} (breaker : Breaker) (bucket : Bucket α) (moves : List (Move α))
    (known : Text.isBlankText s.credentials.apiKey = false) (given : Text.isBlankText key = false)
    (agree : t.Agrees t') :
    let s' := s.withKey key
    let w := run (.ofSettings s draw waits) t ⟨breaker, bucket, [], []⟩ moves
    let w' := run (.ofSettings s' draw waits) t' ⟨breaker, bucket, [], []⟩ moves
    s'.fault? = s.fault? ∧ s'.credentials.debugText = s.credentials.debugText ∧
      w'.breaker = w.breaker ∧ w'.bucket = w.bucket ∧
      w'.errands.map Errand.answer? = w.errands.map Errand.answer? ∧
      List.Forall₂ Request.SameButKey w.handed w'.handed ∧
      w'.handed.map Request.debugText = w.handed.map Request.debugText ∧
      w'.handed.map Request.loggableUrl = w.handed.map Request.loggableUrl := by
  intro s' w w'
  have start : Alike (⟨breaker, bucket, [], []⟩ : Service α) ⟨breaker, bucket, [], []⟩ :=
    ⟨rfl, rfl, .nil, .nil⟩
  have h : w.Alike w' := start.run agree moves
  refine ⟨Settings.fault?_withKey (given.trans known.symm), Credentials.debugText_withKey _ _,
    h.breaker, h.bucket, h.answers_eq, h.handed, ?_, ?_⟩
  · exact map_eq_of_forall₂ h.handed fun _ _ hr => hr.debugText_eq
  · exact map_eq_of_forall₂ h.handed fun _ _ hr => hr.loggableUrl_eq

/-- The transport tells what it was handed, as far as it is shown. -/
theorem alike_after_exchange :
    let s : Settings ℚ := .new ⟨"user", "secret", "user", "10.0.0.1"⟩
    let t : Transport := fun _ _ r _ _ => .answered (.error (.other r.debugText))
    let b : Breaker := ⟨⟨5, 30⟩, .closed, 0, none, false, 0, 0⟩
    let k : Bucket ℚ := ⟨⟨2, 1⟩, 2, 0⟩
    let moves := .issue ⟨"namecheap.users.getBalances", []⟩ Except.ok ::
      List.replicate 11 (.resume 0 0 false none)
    let w := run (.ofSettings s (fun _ => 0) 1) t ⟨b, k, [], []⟩ moves
    let w' := run (.ofSettings (s.withKey "other") (fun _ => 0) 1) t ⟨b, k, [], []⟩ moves
    Text.isBlankText "secret" = false ∧ Text.isBlankText "other" = false ∧ t.Agrees t ∧
      w.handed.length = 1 ∧ w.handed.map (·.get? "ApiKey") = [some "secret"] ∧
      w'.handed.map (·.get? "ApiKey") = [some "other"] ∧
      w'.errands.map Errand.answer? = w.errands.map Errand.answer? ∧
      w'.handed.map Request.debugText = w.handed.map Request.debugText := by
  intro s t b k moves w w'
  have agree : t.Agrees t := by
    intro _ _ r r' _ same _ _ _
    exact congrArg (fun text => Connection.Sent.answered (.error (.other text))) same.debugText_eq
  have known : Text.isBlankText "secret" = false := by decide +kernel
  have given : Text.isBlankText "other" = false := by decide +kernel
  obtain ⟨-, -, -, -, answers, -, shown, -⟩ :=
    alike_run_of_withKey s "other" (fun _ => 0) 1 b k moves known given agree
  refine ⟨known, given, agree, ?_, ?_, ?_, answers, shown⟩
  · decide +kernel
  · decide +kernel
  · decide +kernel

end Service

end Registrar
