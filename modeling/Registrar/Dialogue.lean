/-!
# Dialogues

A `Dialogue Q A α` is a computation that asks its surroundings questions `q : Q`, each answered in
`A q`, until it is done with a value of `α`. What a command does is a dialogue; a clock, a limiter
and a transport answer it. `Runs d events a` says that `d` ends with `a` when its questions are
answered as listed in `events`, and `Dialogue.answer` plays a dialogue against a state.
-/

namespace Registrar

inductive Dialogue (Q : Type) (A : Q → Type) (α : Type) : Type
  | done (value : α)
  | ask (question : Q) (next : A question → Dialogue Q A α)

namespace Dialogue

variable {Q : Type} {A : Q → Type} {α β σ : Type}

/-- Continues with the value of a dialogue. -/
def andThen : Dialogue Q A α → (α → Dialogue Q A β) → Dialogue Q A β
  | done a, f => f a
  | ask q next, f => ask q fun r => (next r).andThen f

instance : Monad (Dialogue Q A) where
  pure := done
  bind := andThen

/-- The dialogue of a single question. -/
def query (q : Q) : Dialogue Q A (A q) := ask q done

/-- Plays a dialogue against a state that answers each question and changes. -/
def answer (reply : (q : Q) → σ → A q × σ) : Dialogue Q A α → σ → α × σ
  | done a, s => (a, s)
  | ask q next, s =>
    let (r, s) := reply q s
    (next r).answer reply s

/-- A question together with its answer. -/
abbrev Exchange (Q : Type) (A : Q → Type) := Σ q : Q, A q

/-- The dialogue ends with this value when its questions are answered like this. -/
inductive Runs : Dialogue Q A α → List (Exchange Q A) → α → Prop
  | done (a : α) : Runs (.done a) [] a
  | ask {q : Q} {next : A q → Dialogue Q A α} {events : List (Exchange Q A)} {a : α} (r : A q)
      (rest : Runs (next r) events a) : Runs (.ask q next) (⟨q, r⟩ :: events) a

/-- The questions asked so far and their answers, while the dialogue is still open. -/
inductive Reaches : Dialogue Q A α → List (Exchange Q A) → Dialogue Q A α → Prop
  | here (d : Dialogue Q A α) : Reaches d [] d
  | ask {q : Q} {next : A q → Dialogue Q A α} {events : List (Exchange Q A)}
      {d : Dialogue Q A α} (r : A q) (rest : Reaches (next r) events d) :
      Reaches (.ask q next) (⟨q, r⟩ :: events) d

@[simp] theorem pure_eq (a : α) : (pure a : Dialogue Q A α) = done a := rfl

@[simp] theorem bind_eq (d : Dialogue Q A α) (f : α → Dialogue Q A β) : d >>= f = d.andThen f :=
  rfl

@[simp] theorem done_andThen (a : α) (f : α → Dialogue Q A β) : (done a).andThen f = f a := rfl

@[simp] theorem ask_andThen (q : Q) (next : A q → Dialogue Q A α) (f : α → Dialogue Q A β) :
    (ask q next).andThen f = ask q fun r => (next r).andThen f := rfl

theorem andThen_andThen {γ : Type} (d : Dialogue Q A α) (f : α → Dialogue Q A β)
    (g : β → Dialogue Q A γ) : (d.andThen f).andThen g = d.andThen fun a => (f a).andThen g := by
  induction d with
  | done a => rfl
  | ask q next ih => simp [ih]

theorem andThen_eq_done_iff {d : Dialogue Q A α} {f : α → Dialogue Q A β} {b : β} :
    d.andThen f = done b ↔ ∃ a, d = done a ∧ f a = done b := by
  cases d <;> simp

/-! ## Runs and openings -/

section

variable {d : Dialogue Q A α} {f : α → Dialogue Q A β} {q : Q}
  {next : A q → Dialogue Q A α} {events : List (Exchange Q A)} {a b : α}

theorem runs_done_iff : Runs (done a : Dialogue Q A α) events b ↔ events = [] ∧ b = a := by
  constructor
  · rintro ⟨⟩
    exact ⟨rfl, rfl⟩
  · rintro ⟨rfl, rfl⟩
    exact .done _

theorem runs_ask_iff :
    Runs (ask q next) events a ↔
      ∃ r rest, events = ⟨q, r⟩ :: rest ∧ Runs (next r) rest a := by
  constructor
  · rintro (_ | ⟨r, rest⟩)
    exact ⟨r, _, rfl, rest⟩
  · rintro ⟨r, rest, rfl, h⟩
    exact .ask r h

/-- A run of a continued dialogue is a run of its first part and one of the rest. -/
theorem runs_andThen_iff {b : β} :
    Runs (d.andThen f) events b ↔
      ∃ before after a, events = before ++ after ∧ Runs d before a ∧ Runs (f a) after b := by
  constructor
  · intro h
    induction d generalizing events with
    | done a => exact ⟨[], events, a, rfl, .done a, h⟩
    | ask q next ih =>
      cases h with
      | ask r rest =>
        obtain ⟨before, after, a, rfl, h₁, h₂⟩ := ih r rest
        exact ⟨⟨q, r⟩ :: before, after, a, rfl, .ask r h₁, h₂⟩
  · rintro ⟨before, after, a, rfl, h₁, h₂⟩
    induction h₁ with
    | done a => exact h₂
    | ask r _ ih => exact .ask r (ih h₂)

theorem reaches_done_iff {e : Dialogue Q A α} :
    Reaches (done a) events e ↔ events = [] ∧ e = done a := by
  constructor
  · rintro ⟨⟩
    exact ⟨rfl, rfl⟩
  · rintro ⟨rfl, rfl⟩
    exact .here _

theorem reaches_ask_iff {e : Dialogue Q A α} :
    Reaches (ask q next) events e ↔
      (events = [] ∧ e = ask q next) ∨
        ∃ r rest, events = ⟨q, r⟩ :: rest ∧ Reaches (next r) rest e := by
  constructor
  · rintro (_ | ⟨r, rest⟩)
    · exact .inl ⟨rfl, rfl⟩
    · exact .inr ⟨r, _, rfl, rest⟩
  · rintro (⟨rfl, rfl⟩ | ⟨r, rest, rfl, h⟩)
    · exact .here _
    · exact .ask r h

/-- A dialogue that has run is one that is open no longer. -/
theorem runs_iff_reaches_done : Runs d events a ↔ Reaches d events (done a) := by
  induction d generalizing events with
  | done b =>
    rw [runs_done_iff, reaches_done_iff]
    simp
  | ask q next ih => simp [runs_ask_iff, reaches_ask_iff, ih]

/-- One more answer. -/
theorem Reaches.snoc (h : Reaches d events (.ask q next)) (r : A q) :
    Reaches d (events ++ [⟨q, r⟩]) (next r) := by
  generalize he : Dialogue.ask q next = e at h
  induction h with
  | here d =>
    subst he
    exact .ask r (.here _)
  | ask r' _ ih => exact .ask r' (ih he)

/-- A dialogue has been open at every moment before. -/
theorem Reaches.before {before after : List (Exchange Q A)} {e : Dialogue Q A α}
    (h : Reaches d (before ++ after) e) : ∃ m, Reaches d before m := by
  induction before generalizing d with
  | nil => exact ⟨d, .here d⟩
  | cons x before ih =>
    cases h with
    | ask r rest =>
      obtain ⟨m, hm⟩ := ih rest
      exact ⟨m, .ask r hm⟩

/-- What is reached in the first part of a continued dialogue is reached in the whole. -/
theorem Reaches.andThen {e : Dialogue Q A α} (h : Reaches d events e) (f : α → Dialogue Q A β) :
    Reaches (d.andThen f) events (e.andThen f) := by
  induction h with
  | here d => exact .here _
  | ask r _ ih => exact .ask r ih

/-- A continued dialogue is open in its first part, or the first part has run. -/
theorem reaches_andThen_iff {e : Dialogue Q A β} :
    Reaches (d.andThen f) events e ↔
      (∃ q next, Reaches d events (.ask q next) ∧ e = .ask q fun r => (next r).andThen f) ∨
        ∃ before after a, events = before ++ after ∧ Runs d before a ∧ Reaches (f a) after e := by
  constructor
  · intro h
    induction d generalizing events with
    | done a => exact .inr ⟨[], events, a, rfl, .done a, h⟩
    | ask q next ih =>
      rw [ask_andThen, reaches_ask_iff] at h
      obtain ⟨rfl, rfl⟩ | ⟨r, rest, rfl, h⟩ := h
      · exact .inl ⟨q, next, .here _, rfl⟩
      · obtain ⟨q', next', h₁, rfl⟩ | ⟨before, after, a, rfl, h₁, h₂⟩ := ih r h
        · exact .inl ⟨q', next', .ask r h₁, rfl⟩
        · exact .inr ⟨⟨q, r⟩ :: before, after, a, rfl, .ask r h₁, h₂⟩
  · rintro (⟨q, next, h, rfl⟩ | ⟨before, after, a, rfl, h₁, h₂⟩)
    · exact h.andThen f
    · induction h₁ with
      | done a => exact h₂
      | ask r _ ih => exact .ask r (ih h₂)

end

end Dialogue

end Registrar
