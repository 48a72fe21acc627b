import Mathlib.Data.List.Forall2
import Mathlib.Data.Option.NAry
import Registrar.Proofs.Xml.Reading

/-!
# Two readers side by side

Of two readers of the same elements one may be content with texts of which the other demands more.
The first one then takes whatever the second takes, and reads on where that fails. `Mirrors S r r'`
relates what `r` gives to what `r'` gives at the same place, and to nothing if `r'` fails:
`S a none` says what it was that `r'` could not take.

Fields are compared while they are read (`Follows`): each step of the one goes with a step of the
other, also after that has failed. So the comparison is kept by `map` and `seq`, and a record is
compared by comparing its fields (`Fields.Mirrors`).
-/

namespace Registrar.Xml

variable {α β γ δ : Type}

/-! ## Results side by side -/

/-- What is given is related to what the other one gives; where this one fails, that one does. -/
def Shadows (S : α → Option β → Prop) : Except Fault α → Option β → Prop
  | .ok a, o => S a o
  | .error _, o => o = none

section

variable {S : α → Option β → Prop} {T : γ → Option δ → Prop} {x : Except Fault α} {o : Option β}

theorem Shadows.bind {h : α → Except Fault γ} {h' : β → Option δ} (hx : Shadows S x o)
    (hh : ∀ a o, S a o → Shadows T (h a) (o.bind h')) : Shadows T (x.bind h) (o.bind h') := by
  cases x with
  | error e =>
    rw [show o = none from hx]
    rfl
  | ok a => exact hh a o hx

theorem Shadows.imp {T : α → Option δ → Prop} {o' : Option δ} (hx : Shadows S x o)
    (hh : ∀ a, S a o → T a o') (lost : o = none → o' = none) : Shadows T x o' := by
  cases x with
  | error e => exact lost hx
  | ok a => exact hh a hx

theorem Shadows.mono {T : α → Option β → Prop} (hx : Shadows S x o) (hST : ∀ a o, S a o → T a o) :
    Shadows T x o :=
  hx.imp (fun a => hST a o) id

theorem Shadows.map_right {T : α → Option δ → Prop} {h' : β → δ} (hx : Shadows S x o)
    (hh : ∀ a o, S a o → T a (o.map h')) : Shadows T x (o.map h') :=
  hx.imp (fun a => hh a o) fun lost => by rw [lost]; rfl

theorem shadows_map_iff {h : α → γ} {o' : Option δ} :
    Shadows T (x.map h) o' ↔ Shadows (fun a => T (h a)) x o' := by
  cases x <;> rfl

theorem Shadows.map {h : α → γ} {h' : β → δ} (hx : Shadows S x o)
    (hh : ∀ a o, S a o → T (h a) (o.map h')) : Shadows T (x.map h) (o.map h') :=
  shadows_map_iff.2 (hx.map_right hh)

theorem toOption_bind (x : Except Fault α) (h : α → Except Fault γ) :
    (x.bind h).toOption = x.toOption.bind fun a => (h a).toOption := by
  cases x <;> rfl

theorem toOption_map (x : Except Fault α) (h : α → γ) :
    (x.map h).toOption = x.toOption.map h := by
  cases x <;> rfl

/-- One side is the other. -/
def Same (a : α) (o : Option α) : Prop := o = some a

theorem shadows_same (x : Except Fault α) : Shadows Same x x.toOption := by
  cases x <;> rfl

/-- Both are at the same place. -/
def At (S : α → Option β → Prop) (p : α × Cursor) (o : Option (β × Cursor)) : Prop :=
  match o with
  | some q => p.2 = q.2 ∧ S p.1 (some q.1)
  | none => S p.1 none

theorem At.snd {p : α × Cursor} {q : β × Cursor} (h : At S p (some q)) : p.2 = q.2 := h.1

theorem At.fst {p : α × Cursor} {o : Option (β × Cursor)} (h : At S p o) :
    S p.1 (o.map Prod.fst) := by
  cases o with
  | none => exact h
  | some q => exact h.2

end

/-- The readers give related values at the same place. -/
def Mirrors (S : α → Option β → Prop) (r : Reader α) (r' : Reader β) : Prop :=
  ∀ tag c, Shadows (At S) (r tag c) (r' tag c).toOption

/-! ## Fields while they are read -/

namespace Fields

variable (f : Fields α)

/-- The step of an attribute, also of one that is none of the fields. -/
def takeAttribute (s : f.State) (a : Attribute) : Except Fault f.State :=
  (f.onAttribute s a).getD (.ok s)

def takeChild (parent : Tag) (s : f.State) (tag : Tag) (c : Cursor) :
    Except Fault (f.State × Cursor) :=
  (f.onChild parent s tag).elim ((passOver tag c).map fun p => (s, p.2)) (· c)

def takeText (s : f.State) (cs : List Char) : Except Fault f.State :=
  (f.onText s cs).getD (.ok s)

theorem readAttributes_eq (a : Attribute) (as : List (Option Attribute)) (s : f.State) :
    f.readAttributes (some a :: as) s = (f.takeAttribute s a).bind (f.readAttributes as) := by
  rw [readAttributes_cons, takeAttribute]
  cases f.onAttribute s a <;> rfl

theorem readPartsWithin_opening {parent tag : Tag} {fuel : Nat} {s : f.State} {c c' : Cursor}
    (h : c.next? = some (.opening tag, c')) :
    f.readPartsWithin parent (fuel + 1) s c =
      (f.takeChild parent s tag c').bind fun p => f.readPartsWithin parent fuel p.1 p.2 := by
  unfold takeChild
  cases hr : f.onChild parent s tag with
  | some read => exact readPartsWithin_child h hr
  | none =>
    rw [readPartsWithin_pass h hr]
    cases passOver tag c' <;> rfl

end Fields

/-- Each step of `g` goes with one of `f`, whose state is missing once it has failed. What is a
field of the one is a field of the other. -/
structure Follows (g : Fields α) (f : Fields β) (S : α → Option β → Prop)
    (rel : g.State → Option f.State → Prop) : Prop where
  unread : rel g.unread (some f.unread)
  takeAttribute : ∀ {s o} a, rel s o →
    Shadows rel (g.takeAttribute s a) (o.bind fun t => (f.takeAttribute t a).toOption)
  takeChild : ∀ {s o} parent tag c, rel s o →
    Shadows (At rel) (g.takeChild parent s tag c)
      (o.bind fun t => (f.takeChild parent t tag c).toOption)
  takeText : ∀ {s o} cs, rel s o →
    Shadows rel (g.takeText s cs) (o.bind fun t => (f.takeText t cs).toOption)
  finish : ∀ {s o}, rel s o → Shadows S (g.finish s) (o.bind fun t => (f.finish t).toOption)
  attributes : ∀ {s t} a, rel s (some t) → (g.onAttribute s a).isSome = (f.onAttribute t a).isSome
  children : ∀ {s t} parent tag, rel s (some t) →
    (g.onChild parent s tag).isSome = (f.onChild parent t tag).isSome
  texts : ∀ {s t} cs, rel s (some t) → (g.onText s cs).isSome = (f.onText t cs).isSome

namespace Follows

variable {g : Fields α} {f : Fields β} {S : α → Option β → Prop}
  {rel : g.State → Option f.State → Prop}

theorem readAttributes (h : Follows g f S rel) (entries : List (Option Attribute)) {s : g.State}
    {o : Option f.State} (start : rel s o) :
    Shadows rel (g.readAttributes entries s)
      (o.bind fun t => (f.readAttributes entries t).toOption) := by
  induction entries generalizing s o with
  | nil => cases o <;> exact start
  | cons e entries ih =>
    cases e with
    | none => cases o <;> rfl
    | some a =>
      have step := (h.takeAttribute a start).bind fun s o => ih (s := s) (o := o)
      simp only [Fields.readAttributes_eq, toOption_bind]
      rwa [Option.bind_assoc] at step

theorem readPartsWithin (h : Follows g f S rel) (parent : Tag) (fuel : Nat) {s : g.State}
    {o : Option f.State} (start : rel s o) (c : Cursor) :
    Shadows (At rel) (g.readPartsWithin parent fuel s c)
      (o.bind fun t => (f.readPartsWithin parent fuel t c).toOption) := by
  induction fuel generalizing s o c with
  | zero => cases o <;> rfl
  | succ fuel ih =>
    cases hn : c.next? with
    | none => simp only [Fields.readPartsWithin_none hn]; cases o <;> rfl
    | some next =>
      obtain ⟨event, c'⟩ := next
      cases event with
      | closing =>
        simp only [Fields.readPartsWithin_closing hn]
        cases o with
        | none => exact start
        | some t => exact ⟨rfl, start⟩
      | text cs =>
        have step := (h.takeText cs start).bind fun s o rest => ih (s := s) (o := o) rest c'
        simp only [Fields.readPartsWithin_text hn, toOption_bind]
        rwa [Option.bind_assoc] at step
      | opening tag =>
        have rest (p : g.State × Cursor) (o : Option (f.State × Cursor)) (here : At rel p o) :
            Shadows (At rel) (g.readPartsWithin parent fuel p.1 p.2)
              (o.bind fun q => (f.readPartsWithin parent fuel q.1 q.2).toOption) := by
          cases o with
          | none => exact ih (o := none) here p.2
          | some q => exact here.snd ▸ ih (o := some q.1) here.2 p.2
        have step := (h.takeChild parent tag c' start).bind rest
        simp only [Fields.readPartsWithin_opening _ hn, toOption_bind]
        rwa [Option.bind_assoc] at step

/-- Whole elements, from the attributes to the end. -/
theorem reader (h : Follows g f S rel) : Mirrors S g.reader f.reader := by
  intro tag c
  have finish (p : g.State × Cursor) (o : Option (f.State × Cursor)) (here : At rel p o) :
      Shadows (At S) ((g.finish p.1).map (·, p.2))
        (o.bind fun q => ((f.finish q.1).map (·, q.2)).toOption) := by
    have last := h.finish here.fst
    cases o with
    | none =>
      cases hg : g.finish p.1 with
      | error e => rfl
      | ok a =>
        rw [hg] at last
        exact last
    | some q =>
      rw [Option.bind_some, toOption_map]
      exact last.map fun a o there => by
        cases o with
        | none => exact there
        | some b => exact ⟨here.snd, there⟩
  have parts (s : g.State) (o : Option f.State) (start : rel s o) :
      Shadows (At S) ((g.readPartsWithin tag (c.size + 1) s c).bind fun p =>
          (g.finish p.1).map (·, p.2))
        (o.bind fun t => ((f.readPartsWithin tag (c.size + 1) t c).bind fun q =>
          (f.finish q.1).map (·, q.2)).toOption) := by
    have step := (h.readPartsWithin tag (c.size + 1) start c).bind finish
    simp only [toOption_bind]
    rwa [Option.bind_assoc] at step
  have all := (h.readAttributes tag.entries h.unread).bind parts
  rw [Fields.reader_eq, Fields.reader_eq, toOption_bind]
  exact all

end Follows

/-! ## Fields put together -/

/-- The fields of the one, put together to a value, go with those of the other. -/
def Fields.Mirrors (S : α → Option β → Prop) (g : Fields α) (f : Fields β) : Prop :=
  ∃ rel, Follows g f S rel

/-- Functions that keep the relation, also where there is no argument for the second one. -/
def Arrow (S : α → Option β → Prop) (T : γ → Option δ → Prop) (h : α → γ) (o : Option (β → δ)) :
    Prop :=
  ∀ a o', S a o' → T (h a) (o.bind fun h' => o'.map h')

namespace Fields

variable {S : α → Option β → Prop} {T : γ → Option δ → Prop}

theorem Mirrors.reader {g : Fields α} {f : Fields β} (h : Mirrors S g f) :
    Xml.Mirrors S g.reader f.reader :=
  h.choose_spec.reader

/-- Fields that are the same on both sides. -/
theorem mirrors_same (f : Fields α) : Mirrors Same f f := by
  refine ⟨Same, rfl, ?_, ?_, ?_, ?_, ?_, ?_, ?_⟩
  · rintro s _ a rfl
    exact shadows_same _
  · rintro s _ parent tag c rfl
    refine (shadows_same _).mono fun p o same => ?_
    rw [show o = some p from same]
    exact ⟨rfl, rfl⟩
  · rintro s _ cs rfl
    exact shadows_same _
  · rintro s _ rfl
    exact shadows_same _
  · rintro s _ a ⟨⟩
    rfl
  · rintro s _ parent tag ⟨⟩
    rfl
  · rintro s _ cs ⟨⟩
    rfl

section

variable {g : Fields α} {f : Fields β}

/-- What is made of the fields in the end does not matter before. -/
theorem Mirrors.update {finish : g.State → Except Fault γ} {finish' : f.State → Except Fault δ}
    {rel : g.State → Option f.State → Prop} (follows : Follows g f S rel)
    (last : ∀ s o, rel s o → Shadows T (finish s) (o.bind fun t => (finish' t).toOption)) :
    Mirrors T { g with finish } { f with finish := finish' } :=
  ⟨rel, follows.unread, fun a => follows.takeAttribute a,
    fun parent tag c => follows.takeChild parent tag c, fun cs => follows.takeText cs,
    fun start => last _ _ start, fun a => follows.attributes a,
    fun parent tag => follows.children parent tag, fun cs => follows.texts cs⟩

theorem Mirrors.map {h : α → γ} {h' : β → δ} (hgf : Mirrors S g f)
    (hh : ∀ a o, S a o → T (h a) (o.map h')) : Mirrors T (h <$> g) (h' <$> f) := by
  obtain ⟨rel, follows⟩ := hgf
  refine Mirrors.update follows fun s o start => ?_
  have last := (follows.finish start).map hh
  rw [Option.map_bind] at last
  simp only [toOption_map]
  exact last

/-- Only the second one makes something of its fields. -/
theorem Mirrors.map_right {T : α → Option δ → Prop} {h' : β → δ} (hgf : Mirrors S g f)
    (hh : ∀ a o, S a o → T a (o.map h')) : Mirrors T g (h' <$> f) := by
  obtain ⟨rel, follows⟩ := hgf
  have last {s o} (start : rel s o) := (follows.finish start).map_right hh
  refine (Mirrors.update follows fun s o start => ?_ :
    Mirrors T { g with finish := g.finish } (h' <$> f))
  have last := last start
  rw [Option.map_bind] at last
  simp only [toOption_map]
  exact last

end

/-! ### Both of two fields -/

/-- A step of one of two, after which the other one is as it was. -/
theorem shadows_both {σ₁ σ₂ τ₁ τ₂ τ₁' τ₂' ρ ρ' : Type} {R₁ : σ₁ → Option τ₁' → Prop}
    {R₂ : σ₂ → Option τ₂' → Prop} {Q : ρ → Option ρ' → Prop} {o₁ : Option τ₁} {o₂ : Option τ₂}
    {b : Bool} {own : τ₁ → Bool} {u₁ : Except Fault σ₁} {u₂ : Except Fault σ₂}
    {v₁ : τ₁ → Except Fault τ₁'} {v₂ : τ₂ → Except Fault τ₂'} {left : σ₁ → ρ} {right : σ₂ → ρ}
    {k : τ₁ × τ₂ → Except Fault ρ'} (left' : τ₁' → τ₂ → ρ') (right' : τ₁ → τ₂' → ρ')
    (hk : ∀ t, k t = if own t.1 then (v₁ t.1).map (left' · t.2) else (v₂ t.2).map (right' t.1))
    (hown : ∀ t, o₁ = some t → own t = b)
    (step₁ : Shadows R₁ u₁ (o₁.bind fun t => (v₁ t).toOption))
    (step₂ : Shadows R₂ u₂ (o₂.bind fun t => (v₂ t).toOption))
    (first : ∀ a o, R₁ a o → Q (left a) (Option.map₂ left' o o₂))
    (second : ∀ a o, R₂ a o → Q (right a) (Option.map₂ right' o₁ o)) :
    Shadows Q (if b then u₁.map left else u₂.map right)
      ((Option.map₂ Prod.mk o₁ o₂).bind fun t => (k t).toOption) := by
  cases b with
  | true =>
    have strict : ((Option.map₂ Prod.mk o₁ o₂).bind fun t => (k t).toOption) =
        Option.map₂ left' (o₁.bind fun t => (v₁ t).toOption) o₂ := by
      rcases o₁ with _ | t₁ <;> rcases o₂ with _ | t₂
      · rfl
      · rfl
      · exact (Option.map₂_none_right left' _).symm
      · have hk := hk (t₁, t₂)
        rw [if_pos (hown t₁ rfl)] at hk
        exact (congrArg _ hk).trans ((toOption_map _ _).trans (Option.map₂_coe_right ..).symm)
    rw [strict]
    exact shadows_map_iff.2 (step₁.imp (fun a => first a _) fun lost => by rw [lost]; rfl)
  | false =>
    have strict : ((Option.map₂ Prod.mk o₁ o₂).bind fun t => (k t).toOption) =
        Option.map₂ right' o₁ (o₂.bind fun t => (v₂ t).toOption) := by
      rcases o₁ with _ | t₁ <;> rcases o₂ with _ | t₂
      · rfl
      · rfl
      · rfl
      · have hk := hk (t₁, t₂)
        rw [if_neg (Bool.eq_false_iff.1 (hown t₁ rfl))] at hk
        exact (congrArg _ hk).trans ((toOption_map _ _).trans (Option.map₂_coe_left ..).symm)
    rw [strict]
    exact shadows_map_iff.2 (step₂.imp (fun a => second a _) fun lost => by
      rw [lost, Option.map₂_none_right])

section

variable {g : Fields (α → γ)} {f : Fields (β → δ)} {x : Fields α} {y : Fields β}
  {rel₁ : g.State → Option f.State → Prop} {rel₂ : x.State → Option y.State → Prop}

/-- The states of both, of which one may have failed. -/
def Pair (rel₁ : g.State → Option f.State → Prop) (rel₂ : x.State → Option y.State → Prop)
    (s : g.State × x.State) (o : Option (f.State × y.State)) : Prop :=
  ∃ o₁ o₂, rel₁ s.1 o₁ ∧ rel₂ s.2 o₂ ∧ o = Option.map₂ Prod.mk o₁ o₂

theorem takeAttribute_both (s : g.State × x.State) (a : Attribute) :
    (g.both x).takeAttribute s a =
      if (g.onAttribute s.1 a).isSome then (g.takeAttribute s.1 a).map (·, s.2)
      else (x.takeAttribute s.2 a).map (s.1, ·) := by
  unfold takeAttribute both
  dsimp only
  cases g.onAttribute s.1 a with
  | some result => rfl
  | none => cases x.onAttribute s.2 a <;> rfl

theorem takeText_both (s : g.State × x.State) (cs : List Char) :
    (g.both x).takeText s cs =
      if (g.onText s.1 cs).isSome then (g.takeText s.1 cs).map (·, s.2)
      else (x.takeText s.2 cs).map (s.1, ·) := by
  unfold takeText both
  dsimp only
  cases g.onText s.1 cs with
  | some result => rfl
  | none => cases x.onText s.2 cs <;> rfl

theorem takeChild_both (parent : Tag) (s : g.State × x.State) (tag : Tag) (c : Cursor) :
    (g.both x).takeChild parent s tag c =
      if (g.onChild parent s.1 tag).isSome then
        (g.takeChild parent s.1 tag c).map fun p => ((p.1, s.2), p.2)
      else (x.takeChild parent s.2 tag c).map fun p => ((s.1, p.1), p.2) := by
  unfold takeChild both
  dsimp only
  cases g.onChild parent s.1 tag with
  | some read => rfl
  | none =>
    cases x.onChild parent s.2 tag with
    | some read => rfl
    | none =>
      dsimp only [Option.map_none, Option.isSome_none]
      cases passOver tag c <;> rfl

theorem isSome_onAttribute_both (s : g.State × x.State) (a : Attribute) :
    ((g.both x).onAttribute s a).isSome =
      ((g.onAttribute s.1 a).isSome || (x.onAttribute s.2 a).isSome) := by
  unfold both
  dsimp only
  cases g.onAttribute s.1 a with
  | some result => rfl
  | none => exact Option.isSome_map

theorem isSome_onChild_both (parent : Tag) (s : g.State × x.State) (tag : Tag) :
    ((g.both x).onChild parent s tag).isSome =
      ((g.onChild parent s.1 tag).isSome || (x.onChild parent s.2 tag).isSome) := by
  unfold both
  dsimp only
  cases g.onChild parent s.1 tag with
  | some read => rfl
  | none => exact Option.isSome_map

theorem isSome_onText_both (s : g.State × x.State) (cs : List Char) :
    ((g.both x).onText s cs).isSome =
      ((g.onText s.1 cs).isSome || (x.onText s.2 cs).isSome) := by
  unfold both
  dsimp only
  cases g.onText s.1 cs with
  | some result => rfl
  | none => exact Option.isSome_map

theorem eq_some_of_map₂ {σ τ : Type} {o₁ : Option σ} {o₂ : Option τ} {t : σ × τ}
    (h : some t = Option.map₂ Prod.mk o₁ o₂) : o₁ = some t.1 ∧ o₂ = some t.2 := by
  rcases o₁ with _ | t₁ <;> rcases o₂ with _ | t₂ <;> cases h
  exact ⟨rfl, rfl⟩

/-- The values of both at the end. -/
theorem shadows_finish_both {s : g.State × x.State} {o₁ : Option f.State} {o₂ : Option y.State}
    (last₁ : Shadows (Arrow S T) (g.finish s.1) (o₁.bind fun t => (f.finish t).toOption))
    (last₂ : Shadows S (x.finish s.2) (o₂.bind fun t => (y.finish t).toOption)) :
    Shadows T ((g.both x).finish s)
      ((Option.map₂ Prod.mk o₁ o₂).bind fun t => ((f.both y).finish t).toOption) := by
  have strict : ((Option.map₂ Prod.mk o₁ o₂).bind fun t => ((f.both y).finish t).toOption) =
      (o₁.bind fun t => (f.finish t).toOption).bind fun h' =>
        (o₂.bind fun t => (y.finish t).toOption).map h' := by
    rcases o₁ with _ | t₁
    · rfl
    · rcases o₂ with _ | t₂
      · exact (Option.bind_fun_none _).symm
      · show ((f.both y).finish (t₁, t₂)).toOption =
          (f.finish t₁).toOption.bind fun h' => (y.finish t₂).toOption.map h'
        unfold both
        dsimp only
        cases f.finish t₁ with
        | error e => rfl
        | ok h => cases y.finish t₂ <;> rfl
  rw [strict]
  generalize o₁.bind _ = o₁' at last₁ ⊢
  generalize o₂.bind _ = o₂' at last₂ ⊢
  unfold both
  dsimp only
  cases hg : g.finish s.1 with
  | error e =>
    rw [hg] at last₁
    rw [show o₁' = none from last₁]
    rfl
  | ok h =>
    rw [hg] at last₁
    cases hx : x.finish s.2 with
    | error e =>
      rw [hx] at last₂
      rw [show o₂' = none from last₂]
      cases o₁' <;> rfl
    | ok a =>
      rw [hx] at last₂
      exact last₁ a o₂' last₂

/-- A function and its argument, each as far as it was read. -/
theorem Mirrors.seq (hgf : Mirrors (Arrow S T) g f) (hxy : Mirrors S x y) :
    Mirrors T (g <*> x) (f <*> y) := by
  obtain ⟨rel₁, follows₁⟩ := hgf
  obtain ⟨rel₂, follows₂⟩ := hxy
  refine ⟨Pair rel₁ rel₂, ⟨_, _, follows₁.unread, follows₂.unread, rfl⟩, ?_, ?_, ?_, ?_, ?_, ?_, ?_⟩
  · rintro s _ a ⟨o₁, o₂, h₁, h₂, rfl⟩
    rw [show (g <*> x).takeAttribute s a = _ from takeAttribute_both s a]
    exact shadows_both Prod.mk Prod.mk (fun t => takeAttribute_both t a)
      (fun t live => (follows₁.attributes a (live ▸ h₁)).symm)
      (follows₁.takeAttribute a h₁) (follows₂.takeAttribute a h₂)
      (fun s' o here => ⟨o, o₂, here, h₂, rfl⟩) fun s' o here => ⟨o₁, o, h₁, here, rfl⟩
  · rintro s _ parent tag c ⟨o₁, o₂, h₁, h₂, rfl⟩
    rw [show (g <*> x).takeChild parent s tag c = _ from takeChild_both parent s tag c]
    refine shadows_both (fun p b => ((p.1, b), p.2)) (fun a p => ((a, p.1), p.2))
      (fun t => takeChild_both parent t tag c)
      (fun t live => (follows₁.children parent tag (live ▸ h₁)).symm)
      (follows₁.takeChild parent tag c h₁) (follows₂.takeChild parent tag c h₂) ?_ ?_
    · rintro p (_ | q) here
      · exact ⟨none, o₂, here, h₂, rfl⟩
      · rcases o₂ with _ | t₂
        · exact ⟨some q.1, none, here.2, h₂, rfl⟩
        · exact ⟨here.1, some q.1, some t₂, here.2, h₂, rfl⟩
    · rintro p o here
      rcases o₁ with _ | t₁
      · exact ⟨none, o.map Prod.fst, h₁, here.fst, rfl⟩
      · rcases o with _ | q
        · exact ⟨some t₁, none, h₁, here, rfl⟩
        · exact ⟨here.1, some t₁, some q.1, h₁, here.2, rfl⟩
  · rintro s _ cs ⟨o₁, o₂, h₁, h₂, rfl⟩
    rw [show (g <*> x).takeText s cs = _ from takeText_both s cs]
    exact shadows_both Prod.mk Prod.mk (fun t => takeText_both t cs)
      (fun t live => (follows₁.texts cs (live ▸ h₁)).symm)
      (follows₁.takeText cs h₁) (follows₂.takeText cs h₂)
      (fun s' o here => ⟨o, o₂, here, h₂, rfl⟩) fun s' o here => ⟨o₁, o, h₁, here, rfl⟩
  · rintro s _ ⟨o₁, o₂, h₁, h₂, rfl⟩
    exact shadows_finish_both (follows₁.finish h₁) (follows₂.finish h₂)
  · rintro s t a ⟨o₁, o₂, h₁, h₂, live⟩
    obtain ⟨live₁, live₂⟩ := eq_some_of_map₂ live
    exact (isSome_onAttribute_both s a).trans ((congrArg₂ _ (follows₁.attributes a (live₁ ▸ h₁))
      (follows₂.attributes a (live₂ ▸ h₂))).trans (isSome_onAttribute_both t a).symm)
  · rintro s t parent tag ⟨o₁, o₂, h₁, h₂, live⟩
    obtain ⟨live₁, live₂⟩ := eq_some_of_map₂ live
    exact (isSome_onChild_both parent s tag).trans
      ((congrArg₂ _ (follows₁.children parent tag (live₁ ▸ h₁))
        (follows₂.children parent tag (live₂ ▸ h₂))).trans (isSome_onChild_both parent t tag).symm)
  · rintro s t cs ⟨o₁, o₂, h₁, h₂, live⟩
    obtain ⟨live₁, live₂⟩ := eq_some_of_map₂ live
    exact (isSome_onText_both s cs).trans ((congrArg₂ _ (follows₁.texts cs (live₁ ▸ h₁))
      (follows₂.texts cs (live₂ ▸ h₂))).trans (isSome_onText_both t cs).symm)

end

end Fields

/-! ## Single fields -/

section

variable {S : α → Option β → Prop} {names : List String}

theorem shadows_passOver {σ τ : Type} {rel : σ → Option τ → Prop} {s : σ} {o : Option τ}
    (start : rel s o) (tag : Tag) (c : Cursor) :
    Shadows (At rel) ((passOver tag c).map fun p => (s, p.2))
      (o.bind fun t => ((passOver tag c).map fun p => (t, p.2)).toOption) := by
  cases passOver tag c with
  | error e => cases o <;> rfl
  | ok p =>
    cases o with
    | none => exact start
    | some t => exact ⟨rfl, start⟩

theorem shadows_stay {σ τ : Type} {rel : σ → Option τ → Prop} {s : σ} {o : Option τ}
    (start : rel s o) :
    Shadows rel (.ok s : Except Fault σ) (o.bind fun t => (.ok t : Except Fault τ).toOption) := by
  cases o <;> exact start

/-- A field is read once by both, or not by either. -/
theorem shadows_once {σ τ : Type} {rel : σ → Option τ → Prop} {x : Except Fault σ}
    {y : Except Fault τ} {s : Option α} {o : Option (Option β)} (field : String)
    (start : Lifts S s o) (value : Shadows rel x y.toOption) :
    Shadows rel (once field s x) (o.bind fun t => (once field t y).toOption) := by
  cases s with
  | none =>
    rcases o with _ | _ | b
    · exact start.elim
    · exact value
    · exact start.elim
  | some a =>
    rcases o with _ | _ | b
    · rfl
    · exact start.elim
    · rfl

/-- An attribute of which both read the value, the one after its own manner. -/
theorem mirrors_optionalAttribute {value : Value α} {value' : Value β}
    (h : ∀ raw, Shadows S (value raw) (value' raw).toOption) :
    Fields.Mirrors (Lifts S) (optionalAttribute names value) (optionalAttribute names value') := by
  refine ⟨Lifts S, trivial, ?_, fun parent tag c start => shadows_passOver start tag c,
    fun cs start => shadows_stay start, fun start => shadows_stay start, fun a start => ?_,
    fun parent tag start => rfl, fun cs start => rfl⟩
  · intro s o a start
    unfold Fields.takeAttribute optionalAttribute
    dsimp only
    split
    · refine shadows_once _ start ?_
      rw [toOption_map]
      exact (h a.raw).map fun a o here => by cases o <;> exact here
    · exact shadows_stay start
  · unfold optionalAttribute
    dsimp only
    split <;> rfl

theorem mirrors_childBy {read : Tag → Reader α} {read' : Tag → Reader β}
    (h : ∀ parent, Mirrors S (read parent) (read' parent)) :
    Fields.Mirrors (Lifts S) (childBy names read) (childBy names read') := by
  refine ⟨Lifts S, trivial, fun a start => shadows_stay start, ?_,
    fun cs start => shadows_stay start, fun start => shadows_stay start, fun a start => rfl,
    fun parent tag start => ?_, fun cs start => rfl⟩
  · intro s o parent tag c start
    unfold Fields.takeChild childBy
    dsimp only
    split
    · refine shadows_once _ start ?_
      rw [toOption_map]
      refine (h parent tag c).map fun p o here => ?_
      rcases o with _ | q
      · exact here
      · exact here
    · exact shadows_passOver start tag c
  · unfold childBy
    dsimp only
    split <;> rfl

theorem Fields.Mirrors.orElse {g : Fields (Option α)} {f : Fields (Option β)} {absent : α}
    {absent' : β} (h : Fields.Mirrors (Lifts S) g f) (none_ : S absent (some absent')) :
    Fields.Mirrors S (g.orElse absent) (f.orElse absent') := by
  refine h.map ?_
  rintro (_ | a) (_ | _ | b) here
  · exact here.elim
  · exact none_
  · exact here.elim
  · exact here
  · exact here.elim
  · exact here

/-! ## Lists -/

/-- Related item by item; or there is an item that the other one could not take. -/
def Each (S : α → Option β → Prop) (as : List α) : Option (List β) → Prop
  | some bs => List.Forall₂ (fun a b => S a (some b)) as bs
  | none => ∃ a ∈ as, S a none

theorem Each.cons {a : α} {as : List α} {o : Option β} {l : Option (List β)} (ha : S a o)
    (has : Each S as l) : Each S (a :: as) (o.bind fun b => l.map (b :: ·)) := by
  cases o with
  | none => exact ⟨a, List.mem_cons_self, ha⟩
  | some b =>
    cases l with
    | none =>
      obtain ⟨a', mem, lost⟩ := has
      exact ⟨a', List.mem_cons_of_mem a mem, lost⟩
    | some bs => exact List.Forall₂.cons ha has

/-- Items that are lists, put together. -/
theorem Each.flatten {T : List α → Option γ → Prop} {parts : γ → List β} {ass : List (List α)}
    {o : Option (List γ)} (each : ∀ as o, T as o → Each S as (o.map parts)) (h : Each T ass o) :
    Each S ass.flatten (o.map fun cs => cs.flatMap parts) := by
  cases o with
  | none =>
    obtain ⟨as, mem, lost⟩ := h
    obtain ⟨a, mem', lost⟩ := each as none lost
    exact ⟨a, List.mem_flatten_of_mem mem mem', lost⟩
  | some cs =>
    refine List.rel_flatten ?_
    exact List.forall₂_map_right_iff.2 (h.imp fun as c => each as (some c))

variable {r : Reader α} {r' : Reader β}

/-- An item and those behind it; once there is an item that cannot be taken, the ones behind it do
not matter. -/
theorem shadows_cons {p : α × Cursor} {o : Option (β × Cursor)} (here : At S p o)
    {rest : Cursor → Except Fault (List α × Cursor)}
    {rest' : Cursor → Except Fault (List β × Cursor)}
    (more : ∀ c, Shadows (At (Each S)) (rest c) (rest' c).toOption) :
    Shadows (At (Each S)) ((rest p.2).map fun q => (p.1 :: q.1, q.2))
      (o.bind fun b => ((rest' b.2).map fun q => (b.1 :: q.1, q.2)).toOption) := by
  cases o with
  | none =>
    cases rest p.2 with
    | error e => rfl
    | ok q => exact ⟨p.1, List.mem_cons_self, here⟩
  | some b =>
    rw [here.snd, Option.bind_some, toOption_map]
    refine (more b.2).map fun q o there => ?_
    cases o with
    | none => exact Each.cons (o := some b.1) here.2 (l := none) there
    | some q' => exact ⟨there.1, .cons here.2 there.2⟩

theorem shadows_itemsWithin (h : Mirrors S r r') (name : List Char) (fuel : Nat) (c : Cursor) :
    Shadows (At (Each S)) (itemsWithin r (fun _ => .error .malformed) name fuel c)
      (itemsWithin r' (fun _ => .error .malformed) name fuel c).toOption := by
  induction fuel generalizing c with
  | zero => rfl
  | succ fuel ih =>
    cases hn : c.next? with
    | none =>
      rw [itemsWithin, itemsWithin, hn]
      rfl
    | some next =>
      obtain ⟨event, c'⟩ := next
      cases event with
      | closing =>
        rw [itemsWithin_closing hn, itemsWithin_closing hn]
        exact ⟨rfl, .nil⟩
      | text cs =>
        rw [itemsWithin, itemsWithin, hn]
        rfl
      | opening tag =>
        by_cases same : tag.name = name
        · rw [itemsWithin_same hn same, itemsWithin_same hn same, toOption_bind]
          exact (h tag c').bind fun p o here => shadows_cons here ih
        · rw [itemsWithin_other hn same, itemsWithin_other hn same]
          exact ⟨rfl, .nil⟩

theorem mirrors_items (h : Mirrors S r r') :
    Mirrors (Each S) (items r fun _ => .error .malformed)
      (items r' fun _ => .error .malformed) := by
  intro tag c
  rw [items_eq, items_eq, toOption_bind]
  have more (c : Cursor) := shadows_itemsWithin h tag.name (c.size + 2) c
  exact (h tag c).bind fun p o here => shadows_cons here more

theorem mirrors_children (names : List String) (h : Mirrors S r r') :
    Fields.Mirrors (Each S) (children names r) (children names r') :=
  (mirrors_childBy fun _ => mirrors_items h).orElse .nil

/-! ## What follows for whole elements -/

/-- What the first reader gives is related to what the second one gives, or to its failure. -/
theorem Mirrors.simulates (h : Mirrors S r r') : Simulates S r r' := by
  intro tag c a c' given
  have here := h tag c
  rw [given] at here
  cases hr : r' tag c with
  | error e =>
    rw [hr] at here
    exact .inr ⟨⟨e, rfl⟩, here⟩
  | ok q =>
    rw [hr] at here
    exact .inl ⟨q.1, by rw [show c' = q.2 from here.1], here.2⟩

/-- The first reader takes what the second one takes. -/
theorem Mirrors.simulated (h : Mirrors S r r') :
    Simulates (fun b o => ∃ a, o = some a ∧ S a (some b)) r' r := by
  intro tag c b c' given
  have here := h tag c
  rw [given] at here
  cases hr : r tag c with
  | error e =>
    rw [hr] at here
    cases here
  | ok p =>
    rw [hr] at here
    exact .inl ⟨p.1, by rw [show c' = p.2 from here.1.symm], p.1, rfl, here.2⟩

end

end Registrar.Xml
