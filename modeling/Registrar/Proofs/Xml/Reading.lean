import Registrar.Wire.Envelope

/-!
# Reading step by step

One equation for each event that an element may come to, and what follows when one reader of a child
element is put in the place of another. `Simulates S r r'` says that where `r` gives a value, `r'`
gives one that is related to it and stands at the same place, or fails; readers of the elements
around it, up to the payload of an answer (`payload_of_simulates`), then do so too.
-/

namespace Registrar.Xml

section

variable {ε α β : Type} {x : Except ε α} {b : β}

theorem bind_eq_ok_iff {f : α → Except ε β} :
    x.bind f = .ok b ↔ ∃ a, x = .ok a ∧ f a = .ok b := by
  cases x <;> simp [Except.bind]

theorem map_eq_ok_iff {f : α → β} : x.map f = .ok b ↔ ∃ a, x = .ok a ∧ f a = b := by
  cases x <;> simp [Except.map]

end

namespace Fields

variable {α β : Type} {f : Fields α} {parent tag : Tag} {fuel : Nat} {s : f.State} {c c' : Cursor}

theorem readAttributes_cons (a : Attribute) (as : List (Option Attribute)) :
    f.readAttributes (some a :: as) s =
      match f.onAttribute s a with
      | none => f.readAttributes as s
      | some result => result.bind (f.readAttributes as) := by
  cases h : f.onAttribute s a <;> simp only [readAttributes, h]

theorem readPartsWithin_none (h : c.next? = none) :
    f.readPartsWithin parent (fuel + 1) s c = .error .malformed := by
  rw [readPartsWithin, h]
  rfl

theorem readPartsWithin_closing (h : c.next? = some (.closing, c')) :
    f.readPartsWithin parent (fuel + 1) s c = .ok (s, c') := by
  rw [readPartsWithin, h]
  rfl

theorem readPartsWithin_text {cs : List Char} (h : c.next? = some (.text cs, c')) :
    f.readPartsWithin parent (fuel + 1) s c =
      ((f.onText s cs).getD (.ok s)).bind fun s => f.readPartsWithin parent fuel s c' := by
  rw [readPartsWithin, h]
  rfl

theorem readPartsWithin_child {read : Cursor → Except Fault (f.State × Cursor)}
    (h : c.next? = some (.opening tag, c')) (hr : f.onChild parent s tag = some read) :
    f.readPartsWithin parent (fuel + 1) s c =
      (read c').bind fun p => f.readPartsWithin parent fuel p.1 p.2 := by
  simp only [readPartsWithin, h, demand, bind, Except.bind, hr]

theorem readPartsWithin_pass (h : c.next? = some (.opening tag, c'))
    (hr : f.onChild parent s tag = none) :
    f.readPartsWithin parent (fuel + 1) s c =
      (passOver tag c').bind fun p => f.readPartsWithin parent fuel s p.2 := by
  simp only [readPartsWithin, h, demand, bind, Except.bind, hr]
  cases passOver tag c' <;> rfl

/-- What is made of the fields in the end does not matter for the attributes. -/
theorem readAttributes_update (finish : f.State → Except Fault β)
    (entries : List (Option Attribute)) (s : f.State) :
    ({ f with finish } : Fields β).readAttributes entries s = f.readAttributes entries s := by
  induction entries generalizing s with
  | nil => rfl
  | cons e entries ih =>
    cases e with
    | none => rfl
    | some a =>
      rw [readAttributes_cons, readAttributes_cons]
      dsimp only
      cases f.onAttribute s a with
      | none => exact ih s
      | some result =>
        cases result with
        | error e => rfl
        | ok s => exact ih s

/-- Nor do the attributes matter for the parts. -/
theorem readPartsWithin_update
    (onAttribute : f.State → Attribute → Option (Except Fault f.State))
    (finish : f.State → Except Fault β) (s : f.State) (c : Cursor) :
    ({ f with onAttribute, finish } : Fields β).readPartsWithin parent fuel s c =
      f.readPartsWithin parent fuel s c := by
  induction fuel generalizing s c with
  | zero => rfl
  | succ fuel ih =>
    cases hn : c.next? with
    | none => rw [readPartsWithin_none hn, readPartsWithin_none hn]
    | some next =>
      obtain ⟨event, c₁⟩ := next
      cases event with
      | closing => rw [readPartsWithin_closing hn, readPartsWithin_closing hn]
      | text cs =>
        rw [readPartsWithin_text hn, readPartsWithin_text hn]
        exact congrArg _ (funext fun s => ih s c₁)
      | opening tag =>
        cases hr : f.onChild parent s tag with
        | none =>
          rw [readPartsWithin_pass hn hr, readPartsWithin_pass hn (by exact hr)]
          exact congrArg _ (funext fun p => ih s p.2)
        | some read =>
          rw [readPartsWithin_child hn hr, readPartsWithin_child hn (by exact hr)]
          exact congrArg _ (funext fun p => ih p.1 p.2)

theorem reader_eq (tag : Tag) (c : Cursor) :
    f.reader tag c =
      (f.readAttributes tag.entries f.unread).bind fun s =>
        (f.readPartsWithin tag (c.size + 1) s c).bind fun p => (f.finish p.1).map (·, p.2) := by
  rw [reader]
  cases f.readAttributes tag.entries f.unread with
  | error e => rfl
  | ok s =>
    change Except.bind (f.readPartsWithin tag (c.size + 1) s c) _ =
      Except.bind (f.readPartsWithin tag (c.size + 1) s c) _
    cases f.readPartsWithin tag (c.size + 1) s c with
    | error e => rfl
    | ok p =>
      change Except.bind (f.finish p.1) _ = Except.map _ (f.finish p.1)
      cases f.finish p.1 <;> rfl

end Fields

/-! ## Lists of elements -/

section

variable {α : Type} {r : Reader α} {ofText : Value α} {name : List Char}

theorem itemsWithin_same {tag : Tag} {fuel : Nat} {c c₁ : Cursor}
    (next : c.next? = some (.opening tag, c₁)) (same : tag.name = name) :
    itemsWithin r ofText name (fuel + 1) c =
      (r tag c₁).bind fun p =>
        (itemsWithin r ofText name fuel p.2).map fun q => (p.1 :: q.1, q.2) := by
  simp only [itemsWithin, next, demand, bind, Except.bind, if_pos same]
  cases r tag c₁ with
  | error e => rfl
  | ok p =>
    dsimp only
    cases itemsWithin r ofText name fuel p.2 <;> rfl

theorem itemsWithin_other {tag : Tag} {fuel : Nat} {c c₁ : Cursor}
    (next : c.next? = some (.opening tag, c₁)) (other : tag.name ≠ name) :
    itemsWithin r ofText name (fuel + 1) c = .ok ([], c₁.putBack (.opening tag)) := by
  simp only [itemsWithin, next, demand, bind, Except.bind, if_neg other]
  rfl

theorem itemsWithin_closing {fuel : Nat} {c c₁ : Cursor} (next : c.next? = some (.closing, c₁)) :
    itemsWithin r ofText name (fuel + 1) c = .ok ([], c₁.putBack .closing) := by
  simp only [itemsWithin, next, demand, bind, Except.bind]
  rfl

theorem items_eq (tag : Tag) (c : Cursor) :
    items r ofText tag c = (r tag c).bind fun p =>
      (itemsWithin r ofText tag.name (p.2.size + 2) p.2).map fun q => (p.1 :: q.1, q.2) := by
  unfold items
  cases r tag c with
  | error e => rfl
  | ok p =>
    dsimp only [bind, Except.bind]
    cases itemsWithin r ofText tag.name (p.2.size + 2) p.2 <;> rfl

end

/-! ## One reader for another -/

section

variable {α β : Type} {S : α → Option β → Prop} {r : Reader α} {r' : Reader β}

/-- Where `r` gives a value, `r'` gives a related one at the same place, or fails. -/
def Simulates (S : α → Option β → Prop) (r : Reader α) (r' : Reader β) : Prop :=
  ∀ ⦃tag c a c'⦄, r tag c = .ok (a, c') →
    (∃ b, r' tag c = .ok (b, c') ∧ S a (some b)) ∨ ((∃ e, r' tag c = .error e) ∧ S a none)

/-- The same of values that may be absent. -/
def Lifts (S : α → Option β → Prop) : Option α → Option (Option β) → Prop
  | none, some none => True
  | some a, some (some b) => S a (some b)
  | some a, none => S a none
  | _, _ => False

variable {names : List String} {read : Tag → Reader α} {read' : Tag → Reader β}

/-! ### A child among the parts of an element -/

section

variable {parent tag : Tag} {fuel : Nat} {s o : Option α} {c c' : Cursor}

/-- Reads on after the child element, if it came already. -/
def childParts (names : List String) (read : Tag → Reader α) (parent : Tag) (fuel : Nat)
    (s : Option α) (c : Cursor) : Except Fault (Option α × Cursor) :=
  (childBy names read).readPartsWithin parent fuel s c

theorem childParts_none (h : c.next? = none) :
    childParts names read parent (fuel + 1) s c = .error .malformed :=
  Fields.readPartsWithin_none h

theorem childParts_closing (h : c.next? = some (.closing, c')) :
    childParts names read parent (fuel + 1) s c = .ok (s, c') :=
  Fields.readPartsWithin_closing h

theorem childParts_text {cs : List Char} (h : c.next? = some (.text cs, c')) :
    childParts names read parent (fuel + 1) s c = childParts names read parent fuel s c' :=
  Fields.readPartsWithin_text h

theorem childParts_first (h : c.next? = some (.opening tag, c'))
    (named : hasName names tag.name = true) :
    childParts names read parent (fuel + 1) none c =
      (read parent tag c').bind fun p => childParts names read parent fuel (some p.1) p.2 := by
  refine (Fields.readPartsWithin_child h (if_pos named)).trans ?_
  dsimp only
  cases read parent tag c' <;> rfl

theorem childParts_second {a : α} (h : c.next? = some (.opening tag, c'))
    (named : hasName names tag.name = true) :
    childParts names read parent (fuel + 1) (some a) c =
      .error (.duplicate (shownChild names)) := by
  have again : (childBy names read).onChild parent (some a) tag =
      some fun c => .error (.duplicate (shownChild names)) := if_pos named
  exact Fields.readPartsWithin_child h again

theorem childParts_pass (h : c.next? = some (.opening tag, c'))
    (other : ¬hasName names tag.name = true) :
    childParts names read parent (fuel + 1) s c =
      (passOver tag c').bind fun p => childParts names read parent fuel s p.2 :=
  Fields.readPartsWithin_pass h (if_neg other)

theorem childBy_reader_eq (tag : Tag) (c : Cursor) :
    (childBy names read).reader tag c =
      if tag.entries.all Option.isSome then
        childParts names read tag (c.size + 1) none c
      else .error .malformed := by
  have entries (l : List (Option Attribute)) : (childBy names read).readAttributes l none =
      if l.all Option.isSome then .ok none else .error .malformed := by
    induction l with
    | nil => rfl
    | cons e l ih =>
      cases e with
      | none => rfl
      | some a => exact ih
  have start : (childBy names read).readAttributes tag.entries (childBy names read).unread = _ :=
    entries tag.entries
  rw [Fields.reader_eq, start]
  split
  · change Except.bind (childParts names read tag (c.size + 1) none c) _ = _
    cases childParts names read tag (c.size + 1) none c <;> rfl
  · rfl

/-- A child element that was read stays as it is, and another one is an error. -/
theorem childParts_some {a : α} (b : β)
    (h : childParts names read parent fuel (some a) c = .ok (o, c')) :
    o = some a ∧ childParts names read' parent fuel (some b) c = .ok (some b, c') := by
  induction fuel generalizing c with
  | zero => cases h
  | succ fuel ih =>
    cases hn : c.next? with
    | none =>
      rw [childParts_none hn] at h
      cases h
    | some next =>
      obtain ⟨event, c₁⟩ := next
      cases event with
      | closing =>
        rw [childParts_closing hn] at h ⊢
        cases h
        exact ⟨rfl, rfl⟩
      | text cs =>
        rw [childParts_text hn] at h ⊢
        exact ih h
      | opening tag =>
        by_cases named : hasName names tag.name = true
        · rw [childParts_second hn named] at h
          cases h
        · rw [childParts_pass hn named] at h ⊢
          obtain ⟨p, hp, h⟩ := bind_eq_ok_iff.1 h
          rw [hp]
          exact ih h

theorem childParts_simulates (sim : ∀ parent, Simulates S (read parent) (read' parent))
    (h : childParts names read parent fuel none c = .ok (o, c')) :
    (∃ o', childParts names read' parent fuel none c = .ok (o', c') ∧ Lifts S o (some o')) ∨
      ((∃ e, childParts names read' parent fuel none c = .error e) ∧ Lifts S o none) := by
  induction fuel generalizing c with
  | zero => cases h
  | succ fuel ih =>
    cases hn : c.next? with
    | none =>
      rw [childParts_none hn] at h
      cases h
    | some next =>
      obtain ⟨event, c₁⟩ := next
      cases event with
      | closing =>
        rw [childParts_closing hn] at h ⊢
        cases h
        exact .inl ⟨none, rfl, trivial⟩
      | text cs =>
        rw [childParts_text hn] at h ⊢
        exact ih h
      | opening tag =>
        by_cases named : hasName names tag.name = true
        · rw [childParts_first hn named] at h ⊢
          obtain ⟨⟨a, c₂⟩, hr, h⟩ := bind_eq_ok_iff.1 h
          -- From here on neither reader is asked again.
          rcases sim parent hr with ⟨b, hb, hS⟩ | ⟨⟨e, he⟩, hS⟩
          · obtain ⟨rfl, h'⟩ := childParts_some b h
            rw [hb]
            exact .inl ⟨some b, h', hS⟩
          · obtain ⟨rfl, -⟩ : o = some a ∧ childParts names read parent fuel (some a) c₂ = _ :=
              childParts_some a h
            rw [he]
            exact .inr ⟨⟨e, rfl⟩, hS⟩
        · rw [childParts_pass hn named] at h ⊢
          obtain ⟨p, hp, h⟩ := bind_eq_ok_iff.1 h
          rw [hp]
          exact ih h

end

theorem simulates_childBy (sim : ∀ parent, Simulates S (read parent) (read' parent)) :
    Simulates (Lifts S) (childBy names read).reader (childBy names read').reader := by
  intro tag c o c' h
  rw [childBy_reader_eq] at h ⊢
  split at h
  · rw [if_pos ‹_›]
    exact childParts_simulates sim h
  · cases h

/-! ### The elements around a child -/

/-- Two readers of the same fields differ in what they make of them. -/
theorem reader_update {f : Fields α} (finish : f.State → Except Fault β) (tag : Tag) (c : Cursor) :
    ({ f with finish } : Fields β).reader tag c =
      (f.readAttributes tag.entries f.unread).bind fun s =>
        (f.readPartsWithin tag (c.size + 1) s c).bind fun p => (finish p.1).map (·, p.2) := by
  rw [Fields.reader_eq, Fields.readAttributes_update]
  refine congrArg _ (funext fun s => ?_)
  rw [Fields.readPartsWithin_update f.onAttribute finish]

theorem reader_map {γ : Type} (f : Fields α) (g : α → γ) (tag : Tag) (c : Cursor) :
    (g <$> f).reader tag c = (f.reader tag c).map (Prod.map g id) := by
  refine (reader_update (fun s => (f.finish s).map g) tag c).trans ?_
  rw [Fields.reader_eq]
  cases f.readAttributes tag.entries f.unread with
  | error e => rfl
  | ok s =>
    dsimp only [Except.bind]
    cases f.readPartsWithin tag (c.size + 1) s c with
    | error e => rfl
    | ok p =>
      dsimp only
      cases f.finish p.1 <;> rfl

theorem reader_required (f : Fields (Option α)) (field : String) (tag : Tag) (c : Cursor) :
    (f.required field).reader tag c = (f.reader tag c).bind fun p =>
      match p.1 with
      | some a => .ok (a, p.2)
      | none => .error (.missing field) := by
  refine (reader_update _ tag c).trans ?_
  rw [Fields.reader_eq]
  cases f.readAttributes tag.entries f.unread with
  | error e => rfl
  | ok s =>
    dsimp only [Except.bind]
    cases f.readPartsWithin tag (c.size + 1) s c with
    | error e => rfl
    | ok p =>
      dsimp only
      rcases f.finish p.1 with _ | ⟨_ | _⟩ <;> rfl

theorem simulates_map {γ δ : Type} {T : γ → Option δ → Prop} {f : Fields α} {f' : Fields β}
    {g : α → γ} {g' : β → δ} (hT : ∀ a o, S a o → T (g a) (o.map g'))
    (sim : Simulates S f.reader f'.reader) :
    Simulates T (g <$> f).reader (g' <$> f').reader := by
  intro tag c b c' h
  rw [reader_map] at h ⊢
  obtain ⟨⟨a, c₁⟩, hf, hp⟩ := map_eq_ok_iff.1 h
  cases hp
  rcases sim hf with ⟨b, hb, hS⟩ | ⟨⟨e, he⟩, hS⟩
  · rw [hb]
    exact .inl ⟨g' b, rfl, hT _ _ hS⟩
  · rw [he]
    exact .inr ⟨⟨e, rfl⟩, hT _ _ hS⟩

theorem simulates_requiredChild (sim : Simulates S r r') :
    Simulates S (requiredChild names r).reader (requiredChild names r').reader := by
  intro tag c a c' h
  unfold requiredChild at h ⊢
  rw [reader_required] at h ⊢
  obtain ⟨⟨o, c₁⟩, hf, hp⟩ := bind_eq_ok_iff.1 h
  cases o with
  | none => cases hp
  | some a =>
    cases hp
    rcases simulates_childBy (fun _ => sim) hf with ⟨o, ho, hS⟩ | ⟨⟨e, he⟩, hS⟩
    · cases o with
      | none => exact hS.elim
      | some b =>
        rw [ho]
        exact .inl ⟨b, rfl, hS⟩
    · rw [he]
      exact .inr ⟨⟨e, rfl⟩, hS⟩

theorem simulates_unlessNil (sim : Simulates S r r') (parent : Tag) :
    Simulates (Lifts S) (unlessNil r parent) (unlessNil r' parent) := by
  intro tag c o c' h
  unfold unlessNil at h ⊢
  split at h
  · rw [if_pos ‹_›]
    obtain ⟨p, hp, ho⟩ := map_eq_ok_iff.1 h
    cases ho
    rw [hp]
    exact .inl ⟨none, rfl, trivial⟩
  · rw [if_neg ‹_›]
    obtain ⟨p, hr, ho⟩ := map_eq_ok_iff.1 h
    cases ho
    rcases sim hr with ⟨b, hb, hS⟩ | ⟨⟨e, he⟩, hS⟩
    · rw [hb]
      exact .inl ⟨some b, rfl, hS⟩
    · rw [he]
      exact .inr ⟨⟨e, rfl⟩, hS⟩

theorem simulates_optionalChild (sim : Simulates S r r') :
    Simulates (Lifts S) (optionalChild names r).reader (optionalChild names r').reader := by
  refine simulates_map ?_ (simulates_childBy (simulates_unlessNil sim))
  rintro (_ | _ | a) (_ | _ | _ | b) h <;> trivial

/-! ### Whole documents -/

theorem readDocument_of_simulates {body : String} {a : α} (sim : Simulates S r r')
    (h : readDocument r body = .ok a) :
    (∃ b, readDocument r' body = .ok b ∧ S a (some b)) ∨
      ((∃ e, readDocument r' body = .error e) ∧ S a none) := by
  unfold readDocument at h ⊢
  cases hn : (Cursor.ofChars body.toList).next? with
  | none =>
    rw [hn] at h
    cases h
  | some next =>
    obtain ⟨event, c⟩ := next
    rw [hn] at h
    cases event with
    | closing => cases h
    | text cs => cases h
    | opening tag =>
      change Except.bind (r tag c) _ = _ at h
      change (∃ b, Except.bind (r' tag c) _ = _ ∧ _) ∨ (∃ e, Except.bind (r' tag c) _ = _) ∧ _
      obtain ⟨p, hr, ha⟩ := bind_eq_ok_iff.1 h
      cases ha
      rcases sim hr with ⟨b, hb, hS⟩ | ⟨⟨e, he⟩, hS⟩
      · rw [hb]
        exact .inl ⟨b, rfl, hS⟩
      · rw [he]
        exact .inr ⟨⟨e, rfl⟩, hS⟩

end

end Registrar.Xml

namespace Registrar.Envelope

open Registrar.Xml

variable {α β : Type} {S : α → Option β → Prop} {r : Reader α} {r' : Reader β} {e : Envelope}
  {a : α}

/-- Where one reader gives the payload of an answer, another one gives a related one or fails. -/
theorem payload_of_simulates (sim : Simulates S r r') (h : e.payload r = .ok a) :
    (∃ b, e.payload r' = .ok b ∧ S a (some b)) ∨
      ((∃ detail, e.payload r' = .error (.malformed detail)) ∧ S a none) := by
  unfold payload at h ⊢
  cases hd : readDocument (optionalChild ["CommandResponse"] r).reader e.raw with
  | error fault =>
    rw [hd] at h
    cases h
  | ok o =>
    rw [hd] at h
    cases o with
    | none => cases h
    | some a' =>
      cases h
      rcases readDocument_of_simulates (simulates_optionalChild sim) hd with
        ⟨o, ho, hS⟩ | ⟨⟨fault, hf⟩, hS⟩
      · cases o with
        | none => exact hS.elim
        | some b => exact .inl ⟨b, by rw [ho], hS⟩
      · exact .inr ⟨⟨_, by rw [hf]⟩, hS⟩

end Registrar.Envelope
