import Registrar.Proofs.Xml.Reading

/-!
# The flag of an element

The registrar says in an attribute of a result whether a command was carried out. `Tag.Affirms` and
`Tag.Denies` say of a tag what its flag is, and `Fields.without` reads an element as if it had no
flag. A record is `Flagged` if one of its fields is the flag and the others do not look at it; such
a reader is put together like the record itself. Main statements: `payload_tagged`, an answer that
tells of something done has an affirmative flag, and `payload_of_without`, what the flag makes of an
answer that can be read without it.
-/

namespace Registrar.Xml

open Wire

/-! ## Flags as they stand -/

/-- The attribute is one with these names. -/
def Attribute.isNamed (names : List String) (a : Attribute) : Bool :=
  !a.isBinding && hasName names a.name

/-- The raw values of the attributes with these names. -/
def rawValues (names : List String) (entries : List (Option Attribute)) : List (List Char) :=
  ((entries.filterMap id).filter (·.isNamed names)).map (·.raw)

/-- The raw value is one of these words, in any letter case and with blanks around it. -/
def Spells (words : List String) (raw : List Char) : Prop :=
  ∃ cs, unescape raw = some cs ∧ Text.lower (Text.trim (String.ofList cs)) ∈ words

/-- The tag has one flag, and it is affirmative. -/
def Tag.Affirms (names : List String) (t : Tag) : Prop :=
  ∃ raw, rawValues names t.entries = [raw] ∧ Spells ["true", "yes", "y", "1"] raw

/-- The tag has no flag, or one that is empty or negative. -/
def Tag.Denies (names : List String) (t : Tag) : Prop :=
  rawValues names t.entries = [] ∨
    ∃ raw, rawValues names t.entries = [raw] ∧ Spells ["false", "no", "n", "0", ""] raw

theorem flagOf?_eq_true_iff {s : String} :
    flagOf? s = some true ↔ Text.lower (Text.trim s) ∈ ["true", "yes", "y", "1"] := by
  unfold flagOf?
  simp only [List.contains_iff_mem]
  split
  · simp_all
  · split <;> simp_all

theorem flagOf?_eq_false_iff {s : String} :
    flagOf? s = some false ↔ Text.lower (Text.trim s) ∈ ["false", "no", "n", "0", ""] := by
  unfold flagOf?
  simp only [List.contains_iff_mem]
  generalize Text.lower (Text.trim s) = word
  split
  case isTrue h =>
    simp only [List.mem_cons, List.not_mem_nil, or_false] at h
    rcases h with rfl | rfl | rfl | rfl <;> simp
  case isFalse => split <;> simp_all

theorem flag_eq_ok_iff {raw : List Char} {b : Bool} :
    flag raw = .ok b ↔ ∃ cs, unescape raw = some cs ∧ flagOf? (String.ofList cs) = some b := by
  unfold flag plainText
  cases unescape raw with
  | none => simp [bind, Except.bind]
  | some cs =>
    simp only [bind, Except.bind, Option.some.injEq, exists_eq_left']
    cases flagOf? (String.ofList cs) <;> simp

theorem flag_eq_true_iff {raw : List Char} :
    flag raw = .ok true ↔ Spells ["true", "yes", "y", "1"] raw := by
  simp only [flag_eq_ok_iff, flagOf?_eq_true_iff, Spells]

theorem flag_eq_false_iff {raw : List Char} :
    flag raw = .ok false ↔ Spells ["false", "no", "n", "0", ""] raw := by
  simp only [flag_eq_ok_iff, flagOf?_eq_false_iff, Spells]

/-- What the field of a flag holds after these values. -/
def gather (field : String) (x : Option Bool) : List (List Char) → Except Fault (Option Bool)
  | [] => .ok x
  | raw :: raws => (once field x ((flag raw).map some)).bind fun x => gather field x raws

section

variable {field : String} {names : List String} {t : Tag} {raws : List (List Char)} {b : Bool}

theorem gather_some_eq_ok_iff {x : Option Bool} :
    gather field (some b) raws = .ok x ↔ raws = [] ∧ x = some b := by
  cases raws with
  | nil => simp [gather, eq_comm]
  | cons raw raws => simp [gather, once, Except.bind]

theorem gather_none_eq_ok_iff {x : Option Bool} :
    gather field none raws = .ok x ↔
      (raws = [] ∧ x = none) ∨ ∃ raw b, raws = [raw] ∧ flag raw = .ok b ∧ x = some b := by
  cases raws with
  | nil => simp [gather, eq_comm]
  | cons raw raws =>
    simp only [gather, once]
    cases hb : flag raw with
    | error e => simp [Except.map, Except.bind, hb]
    | ok b =>
      simp only [Except.map, Except.bind, gather_some_eq_ok_iff]
      constructor
      · rintro ⟨rfl, rfl⟩
        exact .inr ⟨raw, b, rfl, hb, rfl⟩
      · rintro (⟨h, -⟩ | ⟨raw', b', h, hb', rfl⟩)
        · cases h
        · cases h
          cases hb.symm.trans hb'
          exact ⟨rfl, rfl⟩

theorem affirms_iff (field : String) :
    t.Affirms names ↔ gather field none (rawValues names t.entries) = .ok (some true) := by
  simp only [gather_none_eq_ok_iff, Tag.Affirms, ← flag_eq_true_iff]
  constructor
  · rintro ⟨raw, h, hb⟩
    exact .inr ⟨raw, true, h, hb, rfl⟩
  · rintro (⟨-, h⟩ | ⟨raw, b, h, hb, hx⟩)
    · cases h
    · cases hx
      exact ⟨raw, h, hb⟩

theorem denies_iff (field : String) :
    t.Denies names ↔
      ∃ x, gather field none (rawValues names t.entries) = .ok x ∧ x.getD false = false := by
  simp only [gather_none_eq_ok_iff, Tag.Denies, ← flag_eq_false_iff]
  constructor
  · rintro (h | ⟨raw, h, hb⟩)
    · exact ⟨none, .inl ⟨h, rfl⟩, rfl⟩
    · exact ⟨some false, .inr ⟨raw, false, h, hb, rfl⟩, rfl⟩
  · rintro ⟨x, ⟨h, -⟩ | ⟨raw, b, h, hb, rfl⟩, hx⟩
    · exact .inl h
    · cases hx
      exact .inr ⟨raw, h, hb⟩

theorem not_denies_of_affirms (affirms : t.Affirms names) : ¬t.Denies names := by
  rw [affirms_iff ""] at affirms
  rw [denies_iff ""]
  rintro ⟨x, hx, hfalse⟩
  cases affirms.symm.trans hx
  cases hfalse

end

/-! ## Records with a flag -/

namespace Fields

variable {α β : Type} {names : List String}

/-- Passes over the attributes with these names. -/
def without (names : List String) (f : Fields α) : Fields α :=
  { f with onAttribute := fun s a => if a.isNamed names then none else f.onAttribute s a }

/-- No field is one with these names. -/
def Blind (names : List String) (f : Fields α) : Prop :=
  ∀ s a, a.isNamed names = true → f.onAttribute s a = none

/-- Whatever is read has this property. -/
def Yields (f : Fields α) (P : α → Prop) : Prop :=
  ∀ s a, f.finish s = .ok a → P a

/-- `mark x s` is the state `s` with `x` for the flag: only an attribute with one of the names asks
for it and sets it. -/
structure Marks (names : List String) (f : Fields α) (mark : Option Bool → f.State → f.State) :
    Prop where
  unread : mark none f.unread = f.unread
  covers : ∀ s, ∃ x, mark x s = s
  flag : ∀ x s a, a.isNamed names = true → f.onAttribute (mark x s) a =
    some (once (shownAttribute names) x ((Wire.flag a.raw).map fun b => mark (some b) s))
  other : ∀ x s a, a.isNamed names = false →
    f.onAttribute (mark x s) a = (f.onAttribute s a).map (·.map (mark x))
  child : ∀ x parent s tag, f.onChild parent (mark x s) tag =
    (f.onChild parent s tag).map fun read c => (read c).map (Prod.map (mark x) id)
  text : ∀ x s cs, f.onText (mark x s) cs = (f.onText s cs).map (·.map (mark x))

/-- One field is the flag. What the others make of it, a value for each flag, has this property. -/
def Flagged (names : List String) (f : Fields α) (P : (Bool → α) → Prop) : Prop :=
  ∃ mark, f.Marks names mark ∧ ∀ s,
    (∃ k, P k ∧ ∀ x, f.finish (mark x s) = .ok (k (x.getD false))) ∨
      ∀ x, ∃ e, f.finish (mark x s) = .error e

/-! ### Readers put together -/

section

variable {σ : Type}

theorem map_id_result (read : Option (Except Fault σ)) : read = read.map (·.map id) := by
  rcases read with _ | ⟨_ | _⟩ <;> rfl

theorem map_id_child (read : Option (Cursor → Except Fault (σ × Cursor))) :
    read = read.map fun read c => (read c).map (Prod.map id id) := by
  cases read with
  | none => rfl
  | some read =>
    refine congrArg some (funext fun c => ?_)
    cases h : read c <;> simp [h, Except.map]

variable (f : Fields (α → β)) (x : Fields α) {m : f.State → f.State} {m' : x.State → x.State}
  (s : f.State) (t : x.State)

theorem seq_onAttribute (a : Attribute) :
    (f <*> x).onAttribute (s, t) a =
      match f.onAttribute s a with
      | some result => some (result.map (·, t))
      | none => (x.onAttribute t a).map fun result => result.map (s, ·) := rfl

theorem seq_onChild (parent tag : Tag) :
    (f <*> x).onChild parent (s, t) tag =
      match f.onChild parent s tag with
      | some read => some fun c => (read c).map fun (u, c) => ((u, t), c)
      | none =>
        (x.onChild parent t tag).map fun read c => (read c).map fun (u, c) => ((s, u), c) := rfl

theorem seq_onText (cs : List Char) :
    (f <*> x).onText (s, t) cs =
      match f.onText s cs with
      | some result => some (result.map (·, t))
      | none => (x.onText t cs).map fun result => result.map (s, ·) := rfl

theorem seq_finish :
    (f <*> x).finish (s, t) = (f.finish s).bind fun g => (x.finish t).map g := by
  change ((f.finish s).bind fun g => (x.finish t).bind fun a => .ok (g a)) = _
  cases f.finish s with
  | error e => rfl
  | ok g => cases x.finish t <;> rfl

variable {f x s t} (m m')

/-- If two readers do not mind a change of their states, the reader of both does not. -/
theorem seq_onAttribute_map {a : Attribute}
    (hf : f.onAttribute (m s) a = (f.onAttribute s a).map (·.map m))
    (hx : x.onAttribute (m' t) a = (x.onAttribute t a).map (·.map m')) :
    (f <*> x).onAttribute (m s, m' t) a =
      ((f <*> x).onAttribute (s, t) a).map (·.map (Prod.map m m')) := by
  rw [seq_onAttribute, seq_onAttribute, hf, hx]
  rcases f.onAttribute s a with _ | ⟨_ | _⟩
  · rcases x.onAttribute t a with _ | ⟨_ | _⟩ <;> rfl
  · rfl
  · rfl

theorem seq_onChild_map {parent tag : Tag}
    (hf : f.onChild parent (m s) tag =
      (f.onChild parent s tag).map fun read c => (read c).map (Prod.map m id))
    (hx : x.onChild parent (m' t) tag =
      (x.onChild parent t tag).map fun read c => (read c).map (Prod.map m' id)) :
    (f <*> x).onChild parent (m s, m' t) tag = ((f <*> x).onChild parent (s, t) tag).map
      fun read c => (read c).map (Prod.map (Prod.map m m') id) := by
  rw [seq_onChild, seq_onChild, hf, hx]
  cases f.onChild parent s tag with
  | some read =>
    refine congrArg some (funext fun c => ?_)
    dsimp only
    cases read c <;> rfl
  | none =>
    cases x.onChild parent t tag with
    | some read =>
      refine congrArg some (funext fun c => ?_)
      dsimp only
      cases read c <;> rfl
    | none => rfl

theorem seq_onText_map {cs : List Char}
    (hf : f.onText (m s) cs = (f.onText s cs).map (·.map m))
    (hx : x.onText (m' t) cs = (x.onText t cs).map (·.map m')) :
    (f <*> x).onText (m s, m' t) cs =
      ((f <*> x).onText (s, t) cs).map (·.map (Prod.map m m')) := by
  rw [seq_onText, seq_onText, hf, hx]
  rcases f.onText s cs with _ | ⟨_ | _⟩
  · rcases x.onText t cs with _ | ⟨_ | _⟩ <;> rfl
  · rfl
  · rfl

end

theorem marks_flagOr (names : List String) : (flagOr false names).Marks names fun x _ => x where
  unread := rfl
  covers s := ⟨s, rfl⟩
  flag x s a ha := by
    change (if a.isNamed names = true then _ else none) = _
    exact if_pos ha
  other x s a ha := by
    have none_ (s : Option Bool) : (flagOr false names).onAttribute s a = none := by
      change (if a.isNamed names = true then _ else none) = _
      exact if_neg (by simp [ha])
    exact (none_ x).trans (congrArg (Option.map _) (none_ s)).symm
  child _ _ _ _ := rfl
  text _ _ _ := rfl

theorem flagged_flagOr {P : (Bool → Bool) → Prop} (h : P id) :
    (flagOr false names).Flagged names P :=
  ⟨_, marks_flagOr names, fun _ => .inl ⟨id, h, fun _ => rfl⟩⟩

theorem Flagged.map {f : Fields α} {P : (Bool → β) → Prop} (g : α → β)
    (h : f.Flagged names fun k => P (g ∘ k)) : (g <$> f).Flagged names P := by
  obtain ⟨mark, marks, finish⟩ := h
  refine ⟨mark, ⟨marks.unread, marks.covers, marks.flag, marks.other, marks.child, marks.text⟩,
    fun s => ?_⟩
  have mapped (x : Option Bool) : (g <$> f).finish (mark x s) = (f.finish (mark x s)).map g := rfl
  rcases finish s with ⟨k, hk, hf⟩ | hf
  · refine .inl ⟨g ∘ k, hk, fun x => ?_⟩
    rw [mapped, hf]
    rfl
  · refine .inr fun x => ?_
    obtain ⟨e, he⟩ := hf x
    rw [mapped, he]
    exact ⟨e, rfl⟩

/-- The flag is among the fields before the last. -/
theorem Flagged.seq {f : Fields (α → β)} {P : (Bool → β) → Prop}
    (h : f.Flagged names fun k => ∀ a, P fun b => k b a) (x : Fields α) :
    (f <*> x).Flagged names P := by
  obtain ⟨mark, marks, finish⟩ := h
  refine ⟨fun y => Prod.map (mark y) id, ⟨?unread, ?covers, ?flag, ?other, ?child, ?text⟩, ?finish⟩
  case unread => exact congrArg (·, x.unread) marks.unread
  case covers =>
    rintro ⟨s, t⟩
    obtain ⟨y, hy⟩ := marks.covers s
    exact ⟨y, congrArg (·, t) hy⟩
  case flag =>
    rintro y ⟨s, t⟩ a ha
    change (match f.onAttribute (mark y s) a with
      | some result => some (result.map (·, t))
      | none => _) = _
    rw [marks.flag y s a ha]
    cases y <;> cases Wire.flag a.raw <;> rfl
  case other =>
    rintro y ⟨s, t⟩ a ha
    exact seq_onAttribute_map (mark y) id (marks.other y s a ha) (map_id_result (x.onAttribute t a))
  case child =>
    rintro y parent ⟨s, t⟩ tag
    exact seq_onChild_map (mark y) id (marks.child y parent s tag)
      (map_id_child (x.onChild parent t tag))
  case text =>
    rintro y ⟨s, t⟩ cs
    exact seq_onText_map (mark y) id (marks.text y s cs) (map_id_result (x.onText t cs))
  case finish =>
    rintro ⟨s, t⟩
    have finished (y : Option Bool) : (f <*> x).finish (Prod.map (mark y) id (s, t)) =
        (f.finish (mark y s)).bind fun g => (x.finish t).map g := seq_finish f x (mark y s) t
    rcases finish s with ⟨k, hk, hf⟩ | hf
    · cases h : x.finish t with
      | ok a => exact .inl ⟨fun b => k b a, hk a, fun y => by rw [finished, hf, h]; rfl⟩
      | error e => exact .inr fun y => ⟨e, by rw [finished, hf, h]; rfl⟩
    · refine .inr fun y => ?_
      obtain ⟨e, he⟩ := hf y
      exact ⟨e, by rw [finished, he]; rfl⟩

/-- The flag is the last field, and the others do not look at it. -/
theorem Blind.flagged {f : Fields (Bool → β)} {P : (Bool → β) → Prop} (blind : f.Blind names)
    (yields : f.Yields P) : (f <*> flagOr false names).Flagged names P := by
  have marks := marks_flagOr names
  refine ⟨fun y => Prod.map id fun _ => y, ⟨rfl, ?covers, ?flag, ?other, ?child, ?text⟩, ?finish⟩
  case covers => exact fun ⟨s, t⟩ => ⟨t, rfl⟩
  case flag =>
    rintro y ⟨s, t⟩ a ha
    refine (seq_onAttribute f (flagOr false names) s y a).trans ?_
    rw [blind s a ha, show (flagOr false names).onAttribute y a = _ from marks.flag y t a ha]
    cases y <;> cases Wire.flag a.raw <;> rfl
  case other =>
    rintro y ⟨s, t⟩ a ha
    exact seq_onAttribute_map (x := flagOr false names) (t := t) id (fun _ => y)
      (map_id_result (f.onAttribute s a)) (marks.other y t a ha)
  case child =>
    rintro y parent ⟨s, t⟩ tag
    exact seq_onChild_map (x := flagOr false names) (t := t) id (fun _ => y)
      (map_id_child (f.onChild parent s tag)) (marks.child y parent t tag)
  case text =>
    rintro y ⟨s, t⟩ cs
    exact seq_onText_map (x := flagOr false names) (t := t) id (fun _ => y)
      (map_id_result (f.onText s cs)) (marks.text y t cs)
  case finish =>
    rintro ⟨s, t⟩
    have finished (y : Option Bool) :
        (f <*> flagOr false names).finish (Prod.map id (fun _ => y) (s, t)) =
          (f.finish s).map (· (y.getD false)) := by
      refine (seq_finish f (flagOr false names) s y).trans ?_
      cases f.finish s <;> rfl
    cases h : f.finish s with
    | ok g => exact .inl ⟨g, yields s g h, fun y => by rw [finished, h]; rfl⟩
    | error e => exact .inr fun y => ⟨e, by rw [finished, h]; rfl⟩

/-! ### Fields before the flag -/

theorem Blind.map {f : Fields α} (h : f.Blind names) (g : α → β) : (g <$> f).Blind names := h

theorem Blind.seq {f : Fields (α → β)} {x : Fields α} (hf : f.Blind names) (hx : x.Blind names) :
    (f <*> x).Blind names := by
  rintro ⟨s, t⟩ a ha
  rw [seq_onAttribute, hf s a ha, hx t a ha]
  rfl

/-- An attribute of other names is not the flag. -/
theorem blind_optionalAttribute {value : Value α} {others : List String}
    (distinct : ∀ name ∈ names, name ∉ others) :
    (optionalAttribute others value).Blind names := by
  intro s a ha
  have other : ¬(!a.isBinding && hasName others a.name) = true := by
    simp only [Attribute.isNamed, hasName, Bool.and_eq_true, List.contains_iff_mem] at ha ⊢
    exact fun h => distinct _ ha.2 h.2
  exact if_neg other

theorem Blind.orElse {f : Fields (Option α)} (h : f.Blind names) (absent : α) :
    (f.orElse absent).Blind names := h

theorem Blind.required {f : Fields (Option α)} (h : f.Blind names) (field : String) :
    (f.required field).Blind names := h

theorem yields_map {f : Fields α} {g : α → β} {P : β → Prop} (h : ∀ a, P (g a)) :
    (g <$> f).Yields P := by
  intro s b hb
  obtain ⟨a, -, rfl⟩ := map_eq_ok_iff.1 hb
  exact h a

theorem Yields.seq {f : Fields (α → β)} {x : Fields α} {P : β → Prop}
    (h : f.Yields fun g => ∀ a, P (g a)) : (f <*> x).Yields P := by
  rintro ⟨s, t⟩ b hb
  rw [seq_finish] at hb
  obtain ⟨g, hs, hb⟩ := bind_eq_ok_iff.1 hb
  obtain ⟨a, -, rfl⟩ := map_eq_ok_iff.1 hb
  exact h s g hs a

/-! ### Reading with the flag and without it -/

section

variable {f : Fields α} {P : (Bool → α) → Prop} {mark : Option Bool → f.State → f.State}
  {tag : Tag} {c c' : Cursor} {v : α}

theorem rawValues_cons_of_isNamed {a : Attribute} {entries : List (Option Attribute)}
    (h : a.isNamed names = true) :
    rawValues names (some a :: entries) = a.raw :: rawValues names entries := by
  simp [rawValues, h]

theorem rawValues_cons_of_not {a : Attribute} {entries : List (Option Attribute)}
    (h : a.isNamed names = false) :
    rawValues names (some a :: entries) = rawValues names entries := by
  simp [rawValues, h]

/-- What is left of the attributes without the flag. -/
def otherEntries (names : List String) (entries : List (Option Attribute)) :
    List (Option Attribute) :=
  entries.filter fun e => !e.any (·.isNamed names)

theorem otherEntries_cons_of_isNamed {a : Attribute} {entries : List (Option Attribute)}
    (h : a.isNamed names = true) :
    otherEntries names (some a :: entries) = otherEntries names entries := by
  simp [otherEntries, h]

theorem otherEntries_cons_of_not {a : Attribute} {entries : List (Option Attribute)}
    (h : a.isNamed names = false) :
    otherEntries names (some a :: entries) = some a :: otherEntries names entries := by
  simp [otherEntries, h]

theorem readAttributes_without (entries : List (Option Attribute)) (s : f.State) :
    (f.without names).readAttributes entries s =
      f.readAttributes (otherEntries names entries) s := by
  induction entries generalizing s with
  | nil => rfl
  | cons e entries ih =>
    cases e with
    | none => rfl
    | some a =>
      refine (readAttributes_cons (f := f.without names) a entries).trans ?_
      by_cases ha : a.isNamed names = true
      · have skipped : (f.without names).onAttribute s a = none := if_pos ha
        rw [skipped, otherEntries_cons_of_isNamed ha]
        exact ih s
      · have same : (f.without names).onAttribute s a = f.onAttribute s a := if_neg ha
        rw [same, otherEntries_cons_of_not (by simpa using ha), readAttributes_cons]
        cases f.onAttribute s a with
        | none => exact ih s
        | some result =>
          cases result with
          | error e => rfl
          | ok t => exact ih t

/-- Attributes that can be read without the flag are read with it, if the flag can be read. -/
theorem Marks.readAttributes (marks : f.Marks names mark) {entries : List (Option Attribute)}
    {s s' : f.State} (h : f.readAttributes (otherEntries names entries) s = .ok s')
    (x : Option Bool) :
    f.readAttributes entries (mark x s) =
      (gather (shownAttribute names) x (rawValues names entries)).map (mark · s') := by
  -- The flag so far goes along with the other fields: where there is one, a second one is an error.
  induction entries generalizing s x with
  | nil =>
    cases h
    rfl
  | cons e entries ih =>
    cases e with
    | none => cases h
    | some a =>
      rw [readAttributes_cons]
      by_cases ha : a.isNamed names = true
      · rw [otherEntries_cons_of_isNamed ha] at h
        rw [marks.flag x s a ha, rawValues_cons_of_isNamed ha, gather]
        cases x with
        | some b => rfl
        | none =>
          cases Wire.flag a.raw with
          | error e => rfl
          | ok b => exact ih h (some b)
      · have ha : a.isNamed names = false := by simpa using ha
        rw [otherEntries_cons_of_not ha, readAttributes_cons] at h
        rw [marks.other x s a ha, rawValues_cons_of_not ha]
        cases hs : f.onAttribute s a with
        | none =>
          rw [hs] at h
          exact ih h x
        | some result =>
          rw [hs] at h
          cases result with
          | error e => cases h
          | ok t => exact ih h x

/-- Attributes that are read with the flag have one that can be read. -/
theorem Marks.exists_gather (marks : f.Marks names mark) {entries : List (Option Attribute)}
    {s t : f.State} {x : Option Bool} (h : f.readAttributes entries (mark x s) = .ok t) :
    ∃ y s', gather (shownAttribute names) x (rawValues names entries) = .ok y ∧ t = mark y s' := by
  induction entries generalizing s x with
  | nil =>
    cases h
    exact ⟨x, s, rfl, rfl⟩
  | cons e entries ih =>
    cases e with
    | none => cases h
    | some a =>
      rw [readAttributes_cons] at h
      by_cases ha : a.isNamed names = true
      · rw [marks.flag x s a ha] at h
        rw [rawValues_cons_of_isNamed ha, gather]
        cases x with
        | some b => cases h
        | none =>
          obtain ⟨t, ht, h⟩ := bind_eq_ok_iff.1 h
          obtain ⟨b, hb, rfl⟩ := map_eq_ok_iff.1 ht
          rw [hb]
          exact ih h
      · have ha : a.isNamed names = false := by simpa using ha
        rw [marks.other x s a ha] at h
        rw [rawValues_cons_of_not ha]
        cases hs : f.onAttribute s a with
        | none =>
          rw [hs] at h
          exact ih h
        | some result =>
          rw [hs] at h
          obtain ⟨t, ht, h⟩ := bind_eq_ok_iff.1 h
          obtain ⟨s', -, rfl⟩ := map_eq_ok_iff.1 ht
          exact ih h

/-- The parts of an element do not ask for the flag. -/
theorem Marks.readPartsWithin (marks : f.Marks names mark) (x : Option Bool) (fuel : Nat)
    (s : f.State) (c : Cursor) :
    f.readPartsWithin tag fuel (mark x s) c =
      (f.readPartsWithin tag fuel s c).map (Prod.map (mark x) id) := by
  induction fuel generalizing s c with
  | zero => rfl
  | succ fuel ih =>
    cases hn : c.next? with
    | none =>
      rw [readPartsWithin_none hn, readPartsWithin_none hn]
      rfl
    | some next =>
      obtain ⟨event, c₁⟩ := next
      cases event with
      | closing =>
        rw [readPartsWithin_closing hn, readPartsWithin_closing hn]
        rfl
      | text cs =>
        rw [readPartsWithin_text hn, readPartsWithin_text hn, marks.text x s cs]
        cases f.onText s cs with
        | none => exact ih s c₁
        | some result =>
          cases result with
          | error e => rfl
          | ok t => exact ih t c₁
      | opening inner =>
        have hc := marks.child x tag s inner
        cases hr : f.onChild tag s inner with
        | none =>
          rw [hr] at hc
          rw [readPartsWithin_pass hn hc, readPartsWithin_pass hn hr]
          cases passOver inner c₁ with
          | error e => rfl
          | ok p => exact ih s p.2
        | some read =>
          rw [hr] at hc
          rw [readPartsWithin_child hn hc, readPartsWithin_child hn hr]
          dsimp only
          cases read c₁ with
          | error e => rfl
          | ok p => exact ih p.1 p.2

theorem without_reader_eq (tag : Tag) (c : Cursor) :
    (f.without names).reader tag c =
      (f.readAttributes (otherEntries names tag.entries) f.unread).bind fun s =>
        (f.readPartsWithin tag (c.size + 1) s c).bind fun p => (f.finish p.1).map (·, p.2) := by
  refine (reader_eq (f := f.without names) tag c).trans ?_
  have attributes : (f.without names).readAttributes tag.entries f.unread = _ :=
    readAttributes_without tag.entries f.unread
  refine (congrArg (Except.bind · _) attributes).trans (congrArg _ (funext fun s => ?_))
  exact congrArg (Except.bind · _) (readPartsWithin_update _ f.finish s c)

/-- An element that can be read without its flag is read with it, if the flag can be read. -/
theorem Flagged.reader_of_without (flagged : f.Flagged names P)
    (h : (f.without names).reader tag c = .ok (v, c')) :
    ∃ k, P k ∧ f.reader tag c =
      (gather (shownAttribute names) none (rawValues names tag.entries)).map
        fun x => (k (x.getD false), c') := by
  obtain ⟨mark, marks, finish⟩ := flagged
  rw [without_reader_eq] at h
  obtain ⟨s, ha, h⟩ := bind_eq_ok_iff.1 h
  obtain ⟨⟨t, c₁⟩, hp, h⟩ := bind_eq_ok_iff.1 h
  obtain ⟨a, ht, hc⟩ := map_eq_ok_iff.1 h
  cases hc
  rcases finish t with ⟨k, hk, hf⟩ | hf
  · refine ⟨k, hk, ?_⟩
    rw [reader_eq, ← marks.unread, marks.readAttributes ha]
    cases gather (shownAttribute names) none (rawValues names tag.entries) with
    | error e => rfl
    | ok x =>
      change Except.bind (f.readPartsWithin tag (c.size + 1) (mark x s) c) _ = _
      rw [marks.readPartsWithin, hp]
      change (f.finish (mark x t)).map (·, c₁) = _
      rw [hf]
      rfl
  · obtain ⟨x, hx⟩ := marks.covers t
    obtain ⟨e, he⟩ := hf x
    rw [hx] at he
    cases ht.symm.trans he

/-- The value of an element that was read is what the flag makes of the other fields. -/
theorem Flagged.exists_gather (flagged : f.Flagged names P) (h : f.reader tag c = .ok (v, c')) :
    ∃ k x, P k ∧ gather (shownAttribute names) none (rawValues names tag.entries) = .ok x ∧
      v = k (x.getD false) := by
  obtain ⟨mark, marks, finish⟩ := flagged
  rw [reader_eq] at h
  obtain ⟨s, ha, h⟩ := bind_eq_ok_iff.1 h
  rw [← marks.unread] at ha
  obtain ⟨x, s', hx, rfl⟩ := marks.exists_gather ha
  rw [marks.readPartsWithin] at h
  obtain ⟨_, hp, h⟩ := bind_eq_ok_iff.1 h
  obtain ⟨p, -, rfl⟩ := map_eq_ok_iff.1 hp
  obtain ⟨a, ha, hv⟩ := map_eq_ok_iff.1 h
  cases hv
  rcases finish p.1 with ⟨k, hk, hf⟩ | hf
  · cases ha.symm.trans (hf x)
    exact ⟨k, x, hk, hx, rfl⟩
  · obtain ⟨e, he⟩ := hf x
    cases ha.symm.trans he

end

end Fields

/-! ## The flag in an answer -/

section

variable {α : Type} {names results : List String} {isDone : α → Bool} {f : Fields α}
  {e : Envelope} {v w : α} {tag : Tag}

/-- Gives the tag of an element with its value. -/
def tagged (r : Reader α) : Reader (Tag × α) := fun tag c =>
  (r tag c).map fun p => ((tag, p.1), p.2)

/-- The element says by its flag whether the value is one of something done. -/
abbrev Fields.Tells (f : Fields α) (names : List String) (isDone : α → Bool) : Prop :=
  f.Flagged names fun k => ∀ b, isDone (k b) = b

theorem simulates_tagged (tells : f.Tells names isDone) :
    Simulates (fun v o => ∃ tag, o = some (tag, v) ∧ (isDone v = true → tag.Affirms names))
      f.reader (tagged f.reader) := by
  intro tag c v c' h
  refine .inl ⟨(tag, v), by rw [tagged, h]; rfl, tag, rfl, fun hv => ?_⟩
  obtain ⟨k, x, hk, hx, rfl⟩ := Fields.Flagged.exists_gather tells h
  rw [hk] at hv
  rw [affirms_iff (shownAttribute names), hx]
  cases x with
  | none => cases hv
  | some b =>
    cases hv
    rfl

theorem simulates_of_without (tells : f.Tells names isDone) :
    Simulates (fun (tag, _) o => match o with
        | some v => isDone v = true ∧ tag.Affirms names ∨ isDone v = false ∧ tag.Denies names
        | none => ¬tag.Affirms names ∧ ¬tag.Denies names)
      (tagged (f.without names).reader) f.reader := by
  intro tag c w c' h
  obtain ⟨p, hr, hw⟩ := map_eq_ok_iff.1 h
  cases hw
  obtain ⟨k, hk, hf⟩ := Fields.Flagged.reader_of_without tells hr
  rw [hf]
  simp only [affirms_iff (shownAttribute names), denies_iff (shownAttribute names)]
  cases gather (shownAttribute names) none (rawValues names tag.entries) with
  | error e => exact .inr ⟨⟨e, rfl⟩, nofun, nofun⟩
  | ok x =>
    refine .inl ⟨_, rfl, ?_⟩
    rw [hk]
    rcases x with _ | _ | _
    · exact .inr ⟨rfl, _, rfl, rfl⟩
    · exact .inr ⟨rfl, _, rfl, rfl⟩
    · exact .inl ⟨rfl, rfl⟩

/-- An answer with the value of something done has an affirmative flag. -/
theorem payload_tagged (tells : f.Tells names isDone)
    (h : e.payload (requiredChild results f.reader).reader = .ok v) :
    ∃ tag, e.payload (requiredChild results (tagged f.reader)).reader = .ok (tag, v) ∧
      (isDone v = true → tag.Affirms names) := by
  rcases Envelope.payload_of_simulates (simulates_requiredChild (simulates_tagged tells)) h with
    ⟨_, hb, tag, hsome, htag⟩ | ⟨-, tag, hnone, -⟩
  · cases hsome
    exact ⟨tag, hb, htag⟩
  · cases hnone

/-- What the flag makes of an answer that can be read without it. -/
theorem payload_of_without (tells : f.Tells names isDone)
    (h : e.payload (requiredChild results (tagged (f.without names).reader)).reader =
      .ok (tag, w)) :
    (∃ v, e.payload (requiredChild results f.reader).reader = .ok v ∧
      (isDone v = true ∧ tag.Affirms names ∨ isDone v = false ∧ tag.Denies names)) ∨
    (∃ detail, e.payload (requiredChild results f.reader).reader = .error (.malformed detail)) ∧
      ¬tag.Affirms names ∧ ¬tag.Denies names :=
  Envelope.payload_of_simulates (simulates_requiredChild (simulates_of_without tells)) h

end

end Registrar.Xml
