import Mathlib.Data.List.TakeWhile
import Registrar.Proofs.Retry.Course

/-!
# What an attempt asks

An attempt waits for a token, exchanges one request and reads the answer. `Stage events rest` lists
the points at which it can stand, by what it has asked; `stage_of_reaches` shows that there is no
other. So an attempt gets one token at most, sends nothing before it has it, and makes one exchange
at most (`orderly_of_reaches`); a token without an exchange is one of a caller who was gone when it
came (`Stage.balance`).
-/

namespace Registrar

open Dialogue

/-- The question is not the one that exchanges a request. -/
def Connection.PassesTransport : Ask Connection.Question → Prop
  | .other (.send ..) => False
  | _ => True

namespace Client

abbrev Event := Task.Event Connection.Question Connection.Answer

/-- How the exchange ended, if the event is one. -/
def Event.sent? : Event → Option Connection.Sent
  | ⟨.other (.send ..), sent⟩ => some sent
  | _ => none

/-- Whether the event is a token that was handed out. -/
def Event.isGrant : Event → Bool
  | ⟨.other .take, wait⟩ => Option.isNone wait
  | _ => false

/-- The exchanges among some events. -/
def exchanges (events : List Event) : List Connection.Sent := events.filterMap Event.sent?

/-- The number of tokens that were handed out. -/
def grants (events : List Event) : Nat := events.countP Event.isGrant

/-- Whether a check found that the caller's patience is over. -/
def isOver : List Event → Bool
  | [⟨.cancelled, cut⟩] => cut
  | [⟨.cancelled, _⟩, ⟨.timeLeft, left⟩] => left == some 0
  | _ => false

/-- Whether the caller was gone when the attempt had its token, so that nothing else was asked. -/
def lapsed (events : List Event) : Bool := isOver (events.dropWhile (!·.isGrant)).tail

/-- The token that is handed out. -/
def granted : Event := ⟨.other .take, none⟩

section

variable {before after events : List Event} {e : Event}

@[simp] theorem exchanges_nil : exchanges [] = [] := rfl

@[simp] theorem exchanges_append :
    exchanges (before ++ after) = exchanges before ++ exchanges after :=
  List.filterMap_append

@[simp] theorem grants_nil : grants [] = 0 := rfl

@[simp] theorem grants_append : grants (before ++ after) = grants before + grants after :=
  List.countP_append

@[simp] theorem exchanges_timeLeft (left : Option Duration) :
    exchanges (⟨.timeLeft, left⟩ :: after) = exchanges after := rfl

@[simp] theorem grants_timeLeft (left : Option Duration) :
    grants (⟨.timeLeft, left⟩ :: after) = grants after :=
  List.countP_cons_of_neg nofun

@[simp] theorem exchanges_granted : exchanges (granted :: after) = exchanges after := rfl

@[simp] theorem grants_granted : grants (granted :: after) = grants after + 1 :=
  List.countP_cons_of_pos rfl

theorem exchanges_cons_of_none (h : e.sent? = none) : exchanges (e :: events) = exchanges events :=
  List.filterMap_cons_none h

theorem grants_cons_of_false (h : e.isGrant = false) : grants (e :: events) = grants events :=
  List.countP_cons_of_neg (by simp [h])

theorem isGrant_of_sent (h : e.sent?.isSome) : e.isGrant = false := by
  obtain ⟨q, r⟩ := e
  rcases q with _ | _ | _ | _ | _ | _ | _ <;> first | rfl | exact nomatch h

/-- No token and no exchange. -/
structure Quiet (events : List Event) : Prop where
  grants : grants events = 0
  exchanges : exchanges events = []

theorem Quiet.append (hb : Quiet before) (ha : Quiet after) : Quiet (before ++ after) :=
  ⟨by simp [hb.grants, ha.grants], by simp [hb.exchanges, ha.exchanges]⟩

theorem Quiet.cons (hg : e.isGrant = false) (hs : e.sent? = none) (h : Quiet events) :
    Quiet (e :: events) :=
  ⟨by simpa [Client.grants, hg] using h.grants, by simpa [Client.exchanges, hs] using h.exchanges⟩

theorem quiet_of_toCaller (h : ∀ e ∈ events, e.1.ToCaller) : Quiet events := by
  induction events with
  | nil => exact ⟨rfl, rfl⟩
  | cons e events ih =>
    obtain ⟨he, hs⟩ := List.forall_mem_cons.1 h
    obtain ⟨q, r⟩ := e
    cases q with
    | cancelled | timeLeft | pause => exact (ih hs).cons rfl rfl
    | other q => exact he.elim

theorem lapsed_of_grants (h : grants events = 0) : lapsed events = false := by
  have hd : events.dropWhile (!·.isGrant) = [] := by
    refine List.dropWhile_eq_nil_iff.2 fun e he => ?_
    have := List.countP_eq_zero.1 h e he
    simpa using this
  rw [lapsed, hd]
  rfl

theorem lapsed_append (h : grants before = 0) :
    lapsed (before ++ granted :: after) = isOver after := by
  have hd : (before ++ granted :: after).dropWhile (!·.isGrant) = granted :: after := by
    rw [List.dropWhile_append_of_pos]
    · rfl
    · intro e he
      have := List.countP_eq_zero.1 h e he
      simpa using this
  rw [lapsed, hd]
  rfl

end

/-! ## Checks -/

/-- The three ways in which a check goes. -/
theorem runs_check_iff {events : List Event} {i : Option Interruption} :
    Runs Task.check events i ↔
      (events = [⟨.cancelled, true⟩] ∧ i = some .cancelled) ∨
        (events = [⟨.cancelled, false⟩, ⟨.timeLeft, some 0⟩] ∧ i = some .deadlineExceeded) ∨
          ∃ left : Option Duration, left ≠ some 0 ∧
            events = [⟨.cancelled, false⟩, ⟨.timeLeft, left⟩] ∧ i = none := by
  rw [check_eq]
  constructor
  · intro h
    obtain ⟨cut, rest, rfl, h₁⟩ := runs_ask_iff.1 h
    cases cut with
    | true =>
      obtain ⟨rfl, rfl⟩ := runs_done_iff.1 h₁
      exact .inl ⟨rfl, rfl⟩
    | false =>
      obtain ⟨left, rest, rfl, h₂⟩ := runs_ask_iff.1 h₁
      by_cases hl : left = some 0
      · subst hl
        obtain ⟨rfl, rfl⟩ := runs_done_iff.1 h₂
        exact .inr (.inl ⟨rfl, rfl⟩)
      · rw [if_neg hl] at h₂
        obtain ⟨rfl, rfl⟩ := runs_done_iff.1 h₂
        exact .inr (.inr ⟨left, hl, rfl, rfl⟩)
  · rintro (⟨rfl, rfl⟩ | ⟨rfl, rfl⟩ | ⟨left, hl, rfl, rfl⟩)
    · exact runs_ask_iff.2 ⟨true, [], rfl, .done _⟩
    · exact runs_ask_iff.2 ⟨false, _, rfl, runs_ask_iff.2 ⟨some 0, [], rfl, .done _⟩⟩
    · refine runs_ask_iff.2 ⟨false, _, rfl, runs_ask_iff.2 ⟨left, [], rfl, ?_⟩⟩
      rw [if_neg hl]
      exact .done none

theorem quiet_of_check {events : List Event} {d : Call (Option Interruption)}
    (h : Reaches Task.check events d) : Quiet events :=
  quiet_of_toCaller ((check_asksOnly trivial trivial).of_reaches h).1

theorem quiet_of_sleep {events : List Event} {d : Call (Option Interruption)} {length : Duration}
    (h : Reaches (Task.sleep length) events d) : Quiet events :=
  quiet_of_toCaller ((sleep_asksOnly trivial trivial (fun _ => trivial) length).of_reaches h).1

/-- Whether a check that has run found the caller gone is seen by its events. -/
theorem isOver_of_check {events : List Event} {i : Option Interruption}
    (h : Runs Task.check events i) : isOver events = i.isSome := by
  rcases runs_check_iff.1 h with ⟨rfl, rfl⟩ | ⟨rfl, rfl⟩ | ⟨left, hl, rfl, rfl⟩
  · rfl
  · rfl
  · simpa [isOver] using hl

/-! ## Waiting for the token -/

/-- Where a caller stands who waits for a token: until it is served it has got none. -/
inductive Acquiring : List Event → Call (Except SlotRefusal Unit) → Prop
  | waiting {events : List Event} {d : Call (Except SlotRefusal Unit)} (quiet : Quiet events)
      (unserved : d ≠ .done (.ok ())) : Acquiring events d
  | served {events : List Event} (quiet : Quiet events) :
      Acquiring (events ++ [granted]) (.done (.ok ()))

theorem Acquiring.prepend {before events : List Event} {d : Call (Except SlotRefusal Unit)}
    (hb : Quiet before) (h : Acquiring events d) : Acquiring (before ++ events) d := by
  cases h with
  | waiting quiet unserved => exact .waiting (hb.append quiet) unserved
  | served quiet =>
    rw [← List.append_assoc]
    exact .served (hb.append quiet)

theorem Acquiring.cons {e : Event} {events : List Event} {d : Call (Except SlotRefusal Unit)}
    (hg : e.isGrant = false) (hs : e.sent? = none) (h : Acquiring events d) :
    Acquiring (e :: events) d := by
  have quiet : Quiet [e] := Quiet.cons hg hs ⟨rfl, rfl⟩
  exact h.prepend quiet

theorem acquire_asksOnly (waits : Nat) :
    (Limiter.acquireWithin Connection.take waits).AsksOnly Connection.PassesTransport := by
  have htake : Connection.take.AsksOnly Connection.PassesTransport := ⟨trivial, fun _ => trivial⟩
  exact acquireWithin_asksOnly trivial trivial (fun _ => trivial) htake waits

theorem acquiring_of_reaches {waits : Nat} {events : List Event}
    {d : Call (Except SlotRefusal Unit)}
    (h : Reaches (Limiter.acquireWithin Connection.take waits) events d) : Acquiring events d := by
  have none_yet : Quiet [] := ⟨rfl, rfl⟩
  induction waits generalizing events with
  | zero =>
    obtain ⟨rfl, rfl⟩ := reaches_done_iff.1 h
    exact .waiting none_yet nofun
  | succ waits ih =>
    rw [acquireWithin_succ, reaches_andThen_iff] at h
    obtain ⟨q, next, hcheck, rfl⟩ | ⟨before, after, i, rfl, hcheck, h⟩ := h
    · exact .waiting (quiet_of_check hcheck) nofun
    refine Acquiring.prepend (quiet_of_check (runs_iff_reaches_done.1 hcheck)) ?_
    cases i with
    | some cause =>
      obtain ⟨rfl, rfl⟩ := reaches_done_iff.1 h
      exact .waiting none_yet nofun
    | none =>
      replace h := reaches_ask_iff.1 h
      obtain ⟨rfl, rfl⟩ | ⟨wait, after, rfl, h⟩ := h
      · exact .waiting none_yet nofun
      cases wait with
      | none =>
        obtain ⟨rfl, rfl⟩ := reaches_done_iff.1 h
        exact .served none_yet
      | some wait =>
        refine Acquiring.cons rfl rfl ?_
        replace h := reaches_ask_iff.1 h
        obtain ⟨rfl, rfl⟩ | ⟨left, after, rfl, h⟩ := h
        · exact .waiting none_yet nofun
        refine Acquiring.cons rfl rfl ?_
        by_cases hlate : Option.any (· < wait) left = true
        · rw [if_pos hlate] at h
          obtain ⟨rfl, rfl⟩ := reaches_done_iff.1 h
          exact .waiting none_yet nofun
        · rw [if_neg hlate, reaches_andThen_iff] at h
          obtain ⟨q, next, hsleep, rfl⟩ | ⟨before, after, i, rfl, hsleep, h⟩ := h
          · exact .waiting (quiet_of_sleep hsleep) nofun
          refine Acquiring.prepend (quiet_of_sleep (runs_iff_reaches_done.1 hsleep)) ?_
          cases i with
          | some cause =>
            obtain ⟨rfl, rfl⟩ := reaches_done_iff.1 h
            exact .waiting none_yet nofun
          | none => exact ih h

/-! ## The stages of an attempt -/

section

variable {β : Type} (c : Client) (command : Command) (extract : Envelope → Except Verdict β)

/-- The verdict on an exchange, or what its answer holds. -/
def readSent : Connection.Sent → Except Verdict β
  | .answered (.ok r) => read extract r
  | .answered (.error e) => .error (.ofTransport e)
  | .timedOut =>
    .error (.transient ("attempt timed out after " ++ Duration.text c.attemptTimeout))
  | .cut cause => .error (.interrupted cause)

/-- The one exchange of an attempt. -/
def request (left : Option Duration) : Connection.Question :=
  .send (.ofCommand command c.credentials c.endpoint) c.attemptTimeout left

/-- What follows the check after the token. -/
def afterToken : Option Interruption → Call (Except Verdict β)
  | some cause => .done (.error (.interrupted cause))
  | none => .ask .timeLeft fun (left : Option Duration) =>
    .ask (.other (c.request command left)) fun sent => .done (c.readSent extract sent)

/-- What follows the wait for the token. -/
def afterWait : Except SlotRefusal Unit → Call (Except Verdict β)
  | .error refusal => .done (.error (.ofSlotRefusal refusal))
  | .ok () => Task.check.andThen (c.afterToken command extract)

theorem attempt_eq_andThen :
    c.attempt command extract =
      (Limiter.acquire Connection.take c.waits).andThen (c.afterWait command extract) := by
  rw [attempt_eq]
  refine congrArg (andThen (Limiter.acquire Connection.take c.waits)) (funext fun slot => ?_)
  cases slot with
  | error refusal => rfl
  | ok u =>
    rw [exchange_eq]
    refine (andThen_andThen _ _ _).trans ?_
    refine congrArg (andThen Task.check) (funext fun i => ?_)
    cases i with
    | some cause => rfl
    | none =>
      refine congrArg (ask Ask.timeLeft) (funext fun left => ?_)
      refine congrArg (ask _) (funext fun sent => ?_)
      rcases sent with (_ | _) | _ | _ <;> rfl

/-- The points of an attempt: what it has asked, and what is left of it. -/
inductive Stage : List Event → Call (Except Verdict β) → Prop
  | waiting {events : List Event} {q : Ask Connection.Question}
      {next : Ask.Answer Connection.Answer q → Call (Except Verdict β)} (quiet : Quiet events)
      (calm : Connection.PassesTransport q) : Stage events (.ask q next)
  | refused {events : List Event} {refusal : SlotRefusal} (quiet : Quiet events) :
      Stage events (.done (.error (.ofSlotRefusal refusal)))
  | holding {before after : List Event} {q : Ask Connection.Question}
      {next : Ask.Answer Connection.Answer q → Call (Except Verdict β)} (quiet : Quiet before)
      (passing : Quiet after) (asks : q = .cancelled ∨ q = .timeLeft) :
      Stage (before ++ granted :: after) (.ask q next)
  | gone {before after : List Event} {cause : Interruption} (quiet : Quiet before)
      (check : Runs Task.check after (some cause)) :
      Stage (before ++ granted :: after) (.done (.error (.interrupted cause)))
  | sending {before after : List Event} {left : Option Duration}
      {next : Connection.Sent → Call (Except Verdict β)} (quiet : Quiet before)
      (check : Runs Task.check after none) :
      Stage (before ++ granted :: (after ++ [⟨.timeLeft, left⟩]))
        (.ask (.other (c.request command left)) next)
  | sent {before after : List Event} {left : Option Duration} {sent : Connection.Sent}
      (quiet : Quiet before) (check : Runs Task.check after none) :
      Stage (before ++ granted ::
          (after ++ [⟨.timeLeft, left⟩, ⟨.other (c.request command left), sent⟩]))
        (.done (c.readSent extract sent))

variable {c command extract} {events : List Event} {d : Call (Except Verdict β)}

@[simp] theorem exchanges_request (left : Option Duration) (sent : Connection.Sent) :
    exchanges (⟨.other (c.request command left), sent⟩ :: events) = sent :: exchanges events := rfl

@[simp] theorem grants_request (left : Option Duration) (sent : Connection.Sent) :
    grants (⟨.other (c.request command left), sent⟩ :: events) = grants events :=
  List.countP_cons_of_neg nofun

theorem stage_of_reaches (h : Reaches (c.attempt command extract) events d) :
    Stage c command extract events d := by
  rw [attempt_eq_andThen, reaches_andThen_iff] at h
  obtain ⟨q, next, hwait, rfl⟩ | ⟨before, after, slot, rfl, hwait, h⟩ := h
  · have calm := (acquire_asksOnly c.waits).of_reaches hwait
    cases acquiring_of_reaches hwait with
    | waiting quiet _ => exact .waiting quiet calm.2.1
  · cases acquiring_of_reaches (runs_iff_reaches_done.1 hwait) with
    | waiting quiet unserved =>
      cases slot with
      | ok u => exact absurd rfl unserved
      | error refusal =>
        obtain ⟨rfl, rfl⟩ := reaches_done_iff.1 h
        rw [List.append_nil]
        exact .refused quiet
    | @served before quiet =>
      rw [List.append_assoc, List.singleton_append]
      replace h := reaches_andThen_iff.1 h
      obtain ⟨q, next, hcheck, rfl⟩ | ⟨checked, after, i, rfl, hcheck, h⟩ := h
      · have asks := (check_asksOnly (p := fun q => q = .cancelled ∨ q = .timeLeft) (.inl rfl)
          (.inr rfl)).of_reaches hcheck
        exact .holding quiet (quiet_of_check hcheck) asks.2.1
      cases i with
      | some cause =>
        obtain ⟨rfl, rfl⟩ := reaches_done_iff.1 h
        rw [List.append_nil]
        exact .gone quiet hcheck
      | none =>
        replace h := reaches_ask_iff.1 h
        obtain ⟨rfl, rfl⟩ | ⟨left, after, rfl, h⟩ := h
        · rw [List.append_nil]
          exact .holding quiet (quiet_of_check (runs_iff_reaches_done.1 hcheck)) (.inr rfl)
        replace h := reaches_ask_iff.1 h
        obtain ⟨rfl, rfl⟩ | ⟨sent, after, rfl, h⟩ := h
        · exact .sending quiet hcheck
        obtain ⟨rfl, rfl⟩ := reaches_done_iff.1 h
        exact .sent quiet hcheck

/-- An attempt of a caller who is there and is served at once. -/
theorem runs_attempt {before after : List Event} (hw : 0 < c.waits) (left : Option Duration)
    (sent : Connection.Sent) (hb : Runs Task.check before none) (ha : Runs Task.check after none) :
    Runs (c.attempt command extract)
      (before ++ granted :: (after ++ [⟨.timeLeft, left⟩, ⟨.other (c.request command left), sent⟩]))
      (c.readSent extract sent) := by
  obtain ⟨tries, hw⟩ := Nat.exists_eq_add_one.2 hw
  rw [attempt_eq_andThen, ← List.singleton_append, ← List.append_assoc]
  refine runs_andThen_iff.2 ⟨before ++ [granted], _, .ok (), rfl, ?_, ?_⟩
  · rw [Limiter.acquire, hw, acquireWithin_succ]
    refine runs_andThen_iff.2 ⟨before, [granted], none, rfl, hb, ?_⟩
    exact runs_ask_iff.2 ⟨none, [], rfl, .done _⟩
  · refine runs_andThen_iff.2 ⟨after, _, none, rfl, ha, ?_⟩
    exact runs_ask_iff.2 ⟨left, _, rfl, runs_ask_iff.2 ⟨sent, [], rfl, .done _⟩⟩

/-! ## What an attempt gets and makes -/

/-- The number of exchanges that are under way. -/
def pending {γ : Type} : Call γ → Nat
  | .ask (.other (.send ..)) _ => 1
  | _ => 0

@[simp] theorem pending_done {γ : Type} (a : γ) : pending (.done a) = 0 := rfl

/-- The task is over, or its next question takes time or goes to its connection. -/
def Parked {γ : Type} : Call γ → Prop
  | .ask .cancelled _ | .ask .timeLeft _ => False
  | _ => True

theorem pending_of_passesTransport {γ : Type} {q : Ask Connection.Question}
    {next : Ask.Answer Connection.Answer q → Call γ} (h : Connection.PassesTransport q) :
    pending (.ask q next) = 0 := by
  rcases q with _ | _ | _ | _ | _ | _ | _
  all_goals first | rfl | exact h.elim

/-- An exchange is the only one of its attempt, and the one token of the attempt comes before it. -/
structure Orderly (events : List Event) : Prop where
  grants_le : grants events ≤ 1
  granted_before : ∀ before e after, events = before ++ e :: after → e.sent?.isSome →
    grants before = 1 ∧ exchanges before = [] ∧ exchanges after = []

theorem Stage.counts (h : Stage c command extract events d) :
    (exchanges events).length + pending d ≤ grants events ∧ grants events ≤ 1 := by
  cases h with
  | waiting quiet calm =>
    simp [quiet.grants, quiet.exchanges, pending_of_passesTransport calm]
  | refused quiet => simp [quiet.grants, quiet.exchanges, pending]
  | holding quiet passing asks =>
    rcases asks with rfl | rfl <;>
      simp [quiet.grants, quiet.exchanges, passing.grants, passing.exchanges, pending]
  | gone quiet check =>
    have hq := quiet_of_check (runs_iff_reaches_done.1 check)
    simp [quiet.grants, quiet.exchanges, hq.grants, hq.exchanges, pending]
  | sending quiet check =>
    have hq := quiet_of_check (runs_iff_reaches_done.1 check)
    simp [quiet.grants, quiet.exchanges, hq.grants, hq.exchanges, pending, request]
  | sent quiet check =>
    have hq := quiet_of_check (runs_iff_reaches_done.1 check)
    simp [quiet.grants, quiet.exchanges, hq.grants, hq.exchanges, pending]

theorem orderly_of_reaches (h : Reaches (c.attempt command extract) events d) :
    Orderly events where
  grants_le := (stage_of_reaches h).counts.2
  granted_before before e after he hsent := by
    subst he
    -- The counts hold of the whole and, as the attempt has been there, of what ends with `e`.
    obtain ⟨whole, -⟩ := (stage_of_reaches h).counts
    have hgrants := (stage_of_reaches h).counts.2
    rw [← List.singleton_append, ← List.append_assoc] at h
    obtain ⟨m, hm⟩ := h.before
    obtain ⟨upTo, -⟩ := (stage_of_reaches hm).counts
    have hgrant : grants [e] = 0 := by simp [grants, isGrant_of_sent hsent]
    have hexchange : (exchanges [e]).length = 1 := by
      obtain ⟨s, hs⟩ := Option.isSome_iff_exists.1 hsent
      simp [exchanges, hs]
    have split : before ++ e :: after = before ++ ([e] ++ after) := rfl
    simp only [split, exchanges_append, grants_append, List.length_append, hgrant,
      hexchange] at whole upTo hgrants
    refine ⟨by omega, List.length_eq_zero_iff.1 ?_, List.length_eq_zero_iff.1 ?_⟩ <;> omega

/-- A check that passed and what comes after it show no caller who was gone. -/
theorem isOver_of_passed {checked : List Event} {e : Event}
    (check : Runs Task.check checked none) : isOver (checked ++ e :: events) = false := by
  rcases runs_check_iff.1 check with ⟨-, hi⟩ | ⟨-, hi⟩ | ⟨left, -, rfl, -⟩
  · cases hi
  · cases hi
  · rfl

/-- A token is spent on the exchange, unless the caller was gone when it came. -/
theorem Stage.balance (h : Stage c command extract events d) (parked : Parked d) :
    grants events = (exchanges events).length + pending d + (lapsed events).toNat := by
  cases h with
  | waiting quiet calm =>
    simp [quiet.grants, quiet.exchanges, pending_of_passesTransport calm,
      lapsed_of_grants quiet.grants]
  | refused quiet => simp [quiet.grants, quiet.exchanges, pending, lapsed_of_grants quiet.grants]
  | holding quiet passing asks =>
    rcases asks with rfl | rfl
    · exact parked.elim
    · exact parked.elim
  | gone quiet check =>
    have hq := quiet_of_check (runs_iff_reaches_done.1 check)
    simp [quiet.grants, quiet.exchanges, hq.grants, hq.exchanges, pending,
      lapsed_append quiet.grants, isOver_of_check check]
  | sending quiet check =>
    have hq := quiet_of_check (runs_iff_reaches_done.1 check)
    simp [quiet.grants, quiet.exchanges, hq.grants, hq.exchanges, pending, request,
      lapsed_append quiet.grants, isOver_of_passed check]
  | sent quiet check =>
    have hq := quiet_of_check (runs_iff_reaches_done.1 check)
    simp [quiet.grants, quiet.exchanges, hq.grants, hq.exchanges, pending,
      lapsed_append quiet.grants, isOver_of_passed check]

/-- An attempt that is over read its one exchange, or it made none and says why. -/
theorem ends_of_runs {result : Except Verdict β}
    (h : Runs (c.attempt command extract) events result) :
    (∃ sent, exchanges events = [sent] ∧ result = c.readSent extract sent) ∨
      (exchanges events = [] ∧
        (result = .error .throttled ∨ ∃ cause, result = .error (.interrupted cause))) := by
  have hs := stage_of_reaches (runs_iff_reaches_done.1 h)
  generalize hd : Dialogue.done result = d at hs
  cases hs with
  | waiting | holding | sending => cases hd
  | @refused _ refusal quiet =>
    cases hd
    refine .inr ⟨quiet.exchanges, ?_⟩
    cases refusal with
    | cancelled => exact .inr ⟨.cancelled, rfl⟩
    | tooLate wait => exact .inl rfl
  | @gone _ _ cause quiet check =>
    cases hd
    have hq := quiet_of_check (runs_iff_reaches_done.1 check)
    exact .inr ⟨by simp [quiet.exchanges, hq.exchanges], .inr ⟨cause, rfl⟩⟩
  | @sent _ _ _ sent quiet check =>
    cases hd
    have hq := quiet_of_check (runs_iff_reaches_done.1 check)
    exact .inl ⟨sent, by simp [quiet.exchanges, hq.exchanges], rfl⟩

end

end Client

end Registrar
