import Registrar.Proofs.Xml.Facing
import Registrar.Proofs.Xml.Flag

/-!
# Values of written elements

`Reads r e a` says that a reader gives `a` for a written element and goes behind it, wherever the
element stands. The fields of a record obtain their values each for itself, as long as no two of
them heed the same names (`Fields.Gets.seq`), and a record is read if its fields obtain theirs
(`Fields.Gets.reads`).
-/

namespace Registrar.Xml

open Element Wire

/-! ## Names -/

section

variable {names : List String}

theorem hasName_chars (n : Name) (names : List String) :
    hasName names n.chars = names.contains n.text := by
  have plain : ':' ∉ n.chars := fun colon => n.ne_of_mem colon rfl rfl
  have own : localName n.chars = n.chars := by
    unfold localName
    simp [plain]
  unfold hasName
  rw [own, Name.chars, String.ofList_toList]

theorem hasName_append (names names' : List String) (name : List Char) :
    hasName (names ++ names') name = (hasName names name || hasName names' name) := by
  simp [hasName]

/-- No name is one of both kinds. -/
theorem hasName_apart {names' : List String} (apart : ∀ name ∈ names, name ∉ names')
    (name : List Char) : hasName names name = false ∨ hasName names' name = false := by
  by_cases named : hasName names name = true
  · simp only [hasName, List.contains_iff_mem] at named
    exact .inr (by simpa [hasName] using apart _ named)
  · exact .inl (by simpa using named)

theorem Attribute.isNamed_append (names names' : List String) (a : Attribute) :
    a.isNamed (names ++ names') = (a.isNamed names || a.isNamed names') := by
  simp only [Attribute.isNamed, hasName_append, Bool.and_or_distrib_left]

theorem Attribute.isNamed_apart {names' : List String} (apart : ∀ name ∈ names, name ∉ names')
    (a : Attribute) : a.isNamed names = false ∨ a.isNamed names' = false := by
  unfold Attribute.isNamed
  rcases hasName_apart apart a.name with other | other
  · exact .inl (by rw [other, Bool.and_false])
  · exact .inr (by rw [other, Bool.and_false])

theorem isBinding_chars (n : Name) (raw : List Char) :
    Attribute.isBinding ⟨n.chars, raw⟩ = (n.text == "xmlns") := by
  have spelled : "xmlns".toList = ['x', 'm', 'l', 'n', 's'] := by decide +kernel
  unfold Attribute.isBinding Attribute.bound?
  split
  case h_1 chars =>
    have same : n.text = "xmlns" := by
      rw [← String.toList_inj, spelled]
      exact chars
    simp [same]
  case h_2 name chars =>
    have colon : ':' ∈ n.chars := by
      rw [show n.chars = _ from chars]
      simp
    exact (n.ne_of_mem colon rfl rfl).elim
  case h_3 other _ =>
    have different : n.text ≠ "xmlns" := by
      intro same
      refine other ?_
      rw [Name.chars, same]
      exact spelled
    simp [different]

end

/-- The values of the attributes with some names; what declares a namespace is no attribute. -/
def Heading.values (names : List String) (h : Heading) : List String :=
  (h.attributes.filter fun x => x.1.text != "xmlns" && names.contains x.1.text).map Prod.snd

open Fields in
theorem rawValues_read (names : List String) (h : Heading) :
    rawValues names (h.read.map some) = (h.values names).map fun s => escape s.toList := by
  unfold Heading.read Heading.values
  induction h.attributes with
  | nil => rfl
  | cons x as ih =>
    have named : Attribute.isNamed names ⟨x.1.chars, escape x.2.toList⟩ =
        (x.1.text != "xmlns" && names.contains x.1.text) := by
      rw [Attribute.isNamed, isBinding_chars, hasName_chars]
      rfl
    rw [List.map_cons, List.map_cons]
    cases known : x.1.text != "xmlns" && names.contains x.1.text with
    | true =>
      rw [rawValues_cons_of_isNamed (named.trans known), List.filter_cons, if_pos known, ih]
      rfl
    | false =>
      rw [rawValues_cons_of_not (named.trans known), List.filter_cons, known, ih]
      rfl

namespace Element

/-- The elements in an element. -/
def children : Element → List Element
  | node _ es => es
  | _ => []

@[simp] theorem children_around (h : Heading) (es : List Element) :
    (around h es).children = es := by
  cases es <;> rfl

/-- The element has one of these names. -/
def isNamed (names : List String) (e : Element) : Bool := names.contains e.heading.name.text

theorem name_tag (e : Element) : e.tag.name = e.heading.name.chars := by
  cases e <;> rfl

theorem hasName_tag (names : List String) (e : Element) :
    hasName names e.tag.name = e.isNamed names := by
  rw [name_tag, hasName_chars, isNamed]

end Element

/-! ## Readers -/

section

variable {α β : Type}

/-- The reader gives this value for the element, wherever it stands, and goes behind it. -/
def Reads (r : Reader α) (e : Element) (a : α) : Prop :=
  ∀ (gaps : Gaps) (path : List Nat) (ts : List Token) (c : Cursor),
    c.Stands (inside gaps path e ++ ts) → ∃ c', r e.tag c = .ok (a, c') ∧ c'.Stands ts

/-- Reading on in the first of some siblings takes those in front of `later`. -/
def TakesFrom {σ : Type} (read : Cursor → Except Fault (σ × Cursor)) (s : σ) (e : Element)
    (group later : List Element) : Prop :=
  ∀ (gaps : Gaps) (path : List Nat) (h : Heading) (i : Nat) (ts : List Token) (c : Cursor),
    c.Stands (inside gaps (i :: path) e ++
        (insideFrom gaps path h (i + 1) (group ++ later) ++ ts)) →
      ∃ c', read c = .ok (s, c') ∧
        c'.Faces (insideFrom gaps path h (i + 1 + group.length) later ++ ts)

namespace Fields

/-- What the fields hold after some children of an element. -/
inductive Takes (f : Fields α) (parent : Tag) : f.State → List Element → f.State → Prop
  | nil (s : f.State) : Takes f parent s [] s
  | take {s s' s'' : f.State} {e : Element} {group later es : List Element}
      {read : Cursor → Except Fault (f.State × Cursor)} (split : es = e :: (group ++ later))
      (alike : ∀ g ∈ group, g.tag.name = e.tag.name)
      (heeded : f.onChild parent s e.tag = some read) (taken : TakesFrom read s' e group later)
      (rest : Takes f parent s' later s'') : Takes f parent s es s''
  | pass {s s' : f.State} {e : Element} {es : List Element}
      (unheeded : f.onChild parent s e.tag = none) (rest : Takes f parent s es s') :
      Takes f parent s (e :: es) s'

theorem Takes.eq_of_nil {f : Fields α} {parent : Tag} {s s' : f.State}
    (takes : f.Takes parent s [] s') : s' = s := by
  cases takes with
  | nil => rfl
  | take split => cases split

/-- The children of an element are read up to its closing tag. -/
theorem readParts_of_takes {f : Fields α} {parent : Tag} {s s' : f.State} {es : List Element}
    (takes : f.Takes parent s es s')
    (passable : ∀ x ∈ es, (∃ s, f.onChild parent s x.tag = none) → x.IsPassable)
    {gaps : Gaps} {path : List Nat} {h : Heading} {i fuel : Nat} {ts : List Token} {c : Cursor}
    (hc : c.Faces (insideFrom gaps path h i es ++ ts))
    (enough : es.length < fuel) :
    ∃ c', f.readPartsWithin parent fuel s c = .ok (s', c') ∧ c'.Stands ts := by
  induction takes generalizing i fuel c with
  | nil s =>
    cases fuel with
    | zero => cases enough
    | succ fuel =>
      rw [insideFrom, List.append_assoc, Cursor.faces_blank (gaps.blank _)] at hc
      obtain ⟨c', next, stands⟩ := Cursor.Faces.next?_closing hc
      exact ⟨c', readPartsWithin_closing next, stands⟩
  | @take s s' s'' e group later es read split alike heeded taken rest ih =>
    subst split
    cases fuel with
    | zero => cases enough
    | succ fuel =>
      rw [insideFrom, List.append_assoc, Cursor.faces_blank (gaps.blank _), List.cons_append,
        List.append_assoc] at hc
      obtain ⟨c₁, next, stands⟩ := hc.next?_opening
      obtain ⟨c₂, got, faces⟩ := taken gaps path h i ts c₁ stands
      have less : later.length < fuel := by
        simp only [List.length_cons, List.length_append] at enough
        omega
      have others : ∀ x ∈ later, (∃ s, f.onChild parent s x.tag = none) → x.IsPassable :=
        fun x hx => passable x (List.mem_cons_of_mem e (List.mem_append_right group hx))
      obtain ⟨c', read, stands⟩ := ih others faces less
      refine ⟨c', ?_, stands⟩
      rw [readPartsWithin_child next heeded, got]
      exact read
  | @pass s s' e es unheeded rest ih =>
    cases fuel with
    | zero => cases enough
    | succ fuel =>
      rw [insideFrom, List.append_assoc, Cursor.faces_blank (gaps.blank _), List.cons_append,
        List.append_assoc] at hc
      obtain ⟨c₁, next, stands⟩ := hc.next?_opening
      obtain ⟨here, others⟩ := List.forall_mem_cons.1 passable
      obtain ⟨c₂, passed, stands⟩ := passOver_inside (here ⟨s, unheeded⟩) stands
      obtain ⟨c', read, stands⟩ := ih others stands.faces (Nat.lt_of_succ_lt_succ enough)
      refine ⟨c', ?_, stands⟩
      rw [readPartsWithin_pass next unheeded, passed]
      exact read

end Fields

/-! ### Lists of elements -/

section

variable {r : Reader α} {ofText : Value α} {name : List Char} {gaps : Gaps} {path : List Nat}
  {h : Heading} {ts : List Token}

/-- A list goes on as long as elements of its name follow. -/
theorem itemsWithin_reads {group : List (Element × α)} {later : List Element} {i fuel : Nat}
    {c : Cursor} (alike : ∀ g ∈ group, g.1.tag.name = name ∧ Reads r g.1 g.2)
    (other : ∀ e ∈ later.head?, e.tag.name ≠ name) (enough : group.length < fuel)
    (hc : c.Stands (insideFrom gaps path h i (group.map Prod.fst ++ later) ++ ts)) :
    ∃ c', itemsWithin r ofText name fuel c = .ok (group.map Prod.snd, c') ∧
      c'.Faces (insideFrom gaps path h (i + group.length) later ++ ts) := by
  induction group generalizing i fuel c with
  | nil =>
    cases fuel with
    | zero => cases enough
    | succ fuel =>
      cases later with
      | nil =>
        rw [List.map_nil, List.nil_append, insideFrom, List.append_assoc,
          Cursor.stands_blank (gaps.blank _)] at hc
        obtain ⟨c₁, next, stands⟩ := Cursor.Stands.next?_closing hc
        refine ⟨_, itemsWithin_closing next, ?_⟩
        rw [insideFrom, List.append_assoc, Cursor.faces_blank (gaps.blank _)]
        exact stands.putBack_closing
      | cons e later =>
        rw [List.map_nil, List.nil_append, insideFrom, List.append_assoc,
          Cursor.stands_blank (gaps.blank _), List.cons_append] at hc
        obtain ⟨c₁, next, stands⟩ := hc.next?_opening
        refine ⟨_, itemsWithin_other next (other e rfl), ?_⟩
        rw [insideFrom, List.append_assoc, Cursor.faces_blank (gaps.blank _), List.cons_append]
        exact stands.putBack_opening
  | cons g group ih =>
    cases fuel with
    | zero => cases enough
    | succ fuel =>
      obtain ⟨⟨same, reads⟩, rest⟩ := List.forall_mem_cons.1 alike
      rw [List.map_cons, List.cons_append, insideFrom, List.append_assoc,
        Cursor.stands_blank (gaps.blank _), List.cons_append, List.append_assoc] at hc
      obtain ⟨c₁, next, stands⟩ := hc.next?_opening
      obtain ⟨c₂, got, stands⟩ := reads gaps (i :: path) _ c₁ stands
      obtain ⟨c', more, faces⟩ := ih rest (Nat.lt_of_succ_lt_succ enough) stands
      refine ⟨c', ?_, ?_⟩
      · rw [itemsWithin_same next same, got]
        dsimp only [Except.bind]
        rw [more]
        rfl
      · rwa [List.length_cons, Nat.add_comm group.length, ← Nat.add_assoc]

end

theorem TakesFrom.map {σ τ : Type} {read : Cursor → Except Fault (σ × Cursor)} {s : σ}
    {e : Element} {group later : List Element} (taken : TakesFrom read s e group later)
    (g : σ → τ) : TakesFrom (fun c => (read c).map fun p => (g p.1, p.2)) (g s) e group later := by
  intro gaps path h i ts c hc
  obtain ⟨c', got, faces⟩ := taken gaps path h i ts c hc
  exact ⟨c', by simp only [got]; rfl, faces⟩

/-- A child element of its own is taken alone. -/
theorem takesFrom_of_reads {r : Reader α} {e : Element} {a : α} (reads : Reads r e a)
    (later : List Element) : TakesFrom (r e.tag) a e [] later := by
  intro gaps path h i ts c hc
  obtain ⟨c', got, stands⟩ := reads gaps (i :: path) _ c hc
  exact ⟨c', got, stands.faces⟩

/-- The elements of a list are taken together. -/
theorem takesFrom_items {r : Reader α} {ofText : Value α} {e : Element} {a : α}
    {group : List (Element × α)} {later : List Element} (reads : Reads r e a)
    (alike : ∀ g ∈ group, g.1.tag.name = e.tag.name ∧ Reads r g.1 g.2)
    (other : ∀ x ∈ later.head?, x.tag.name ≠ e.tag.name) :
    TakesFrom (items r ofText e.tag) (a :: group.map Prod.snd) e (group.map Prod.fst) later := by
  intro gaps path h i ts c hc
  obtain ⟨c₁, got, stands⟩ := reads gaps (i :: path) _ c hc
  have enough : group.length < c₁.size + 2 := by
    have := stands.length_lt_size
    simp only [List.length_append, List.length_map] at this
    omega
  obtain ⟨c', more, faces⟩ : ∃ c', itemsWithin r ofText e.tag.name (c₁.size + 2) c₁ =
      .ok (group.map Prod.snd, c') ∧ _ := itemsWithin_reads alike other enough stands
  refine ⟨c', ?_, by rwa [List.length_map]⟩
  simp only [items, bind, Except.bind, got, more]
  rfl

/-! ### Records of single fields -/

namespace Fields

section

variable {f : Fields α} {names : List String} {as : List Attribute} {raw : List Char}
  {s s' : f.State}

theorem readAttributes_ignored (ignored : ∀ a ∈ as, f.onAttribute s a = none) :
    f.readAttributes (as.map some) s = .ok s := by
  induction as with
  | nil => rfl
  | cons a as ih =>
    obtain ⟨here, later⟩ := List.forall_mem_cons.1 ignored
    rw [List.map_cons, readAttributes_cons, here]
    exact ih later

/-- Of the attributes with some names the only one is read. -/
theorem readAttributes_single (ignored : ∀ s a, a.isNamed names = false → f.onAttribute s a = none)
    (heeded : ∀ a, a.isNamed names = true → a.raw = raw → f.onAttribute s a = some (.ok s'))
    (given : rawValues names (as.map some) = [raw]) :
    f.readAttributes (as.map some) s = .ok s' := by
  induction as with
  | nil => cases given
  | cons a as ih =>
    rw [List.map_cons] at given
    rw [List.map_cons, readAttributes_cons]
    cases named : a.isNamed names with
    | true =>
      rw [rawValues_cons_of_isNamed named] at given
      obtain ⟨here, nothing⟩ := List.cons.inj given
      rw [heeded a named here]
      refine readAttributes_ignored fun b hb => ignored s' b ?_
      simp only [rawValues, List.map_eq_nil_iff, List.filter_eq_nil_iff] at nothing
      have other := nothing b (by simpa using hb)
      simpa using other
    | false =>
      rw [rawValues_cons_of_not named] at given
      rw [ignored s a named]
      exact ih given

end

variable {f : Fields (α → β)} {x : Fields α} {parent : Tag}

theorem readAttributes_seq {as : List Attribute} {s s' : f.State} {t t' : x.State}
    (apart : ∀ a ∈ as, (∀ s, f.onAttribute s a = none) ∨ ∀ t, x.onAttribute t a = none)
    (hf : f.readAttributes (as.map some) s = .ok s')
    (hx : x.readAttributes (as.map some) t = .ok t') :
    (f <*> x).readAttributes (as.map some) (s, t) = .ok (s', t') := by
  induction as generalizing s t with
  | nil =>
    cases hf
    cases hx
    rfl
  | cons a as ih =>
    obtain ⟨here, later⟩ := List.forall_mem_cons.1 apart
    rw [List.map_cons, readAttributes_cons] at hf hx
    refine (readAttributes_cons (f := f <*> x) a (as.map some)).trans ?_
    rw [seq_onAttribute]
    rcases here with ignored | ignored
    · rw [ignored] at hf ⊢
      cases hr : x.onAttribute t a with
      | none =>
        rw [hr] at hx
        exact ih later hf hx
      | some result =>
        rw [hr] at hx
        obtain ⟨t₁, rfl, hx⟩ := bind_eq_ok_iff.1 hx
        exact ih later hf hx
    · rw [ignored] at hx ⊢
      cases hr : f.onAttribute s a with
      | none =>
        rw [hr] at hf
        exact ih later hf hx
      | some result =>
        rw [hr] at hf
        obtain ⟨s₁, rfl, hf⟩ := bind_eq_ok_iff.1 hf
        exact ih later hf hx

/-- Fields that do not heed an element take what is behind it. -/
theorem Takes.drop {g : Fields α} {s s' : g.State} {group later : List Element}
    (ignored : ∀ e ∈ group, ∀ s, g.onChild parent s e.tag = none)
    (takes : g.Takes parent s (group ++ later) s') : g.Takes parent s later s' := by
  induction group with
  | nil => exact takes
  | cons e group ih =>
    obtain ⟨here, others⟩ := List.forall_mem_cons.1 ignored
    generalize hes : e :: group ++ later = es at takes
    cases takes with
    | nil => cases hes
    | take split alike heeded taken rest =>
      obtain ⟨rfl, -⟩ := List.cons.inj (hes.trans split)
      rw [here] at heeded
      cases heeded
    | pass unheeded rest =>
      cases hes
      exact ih others rest

theorem seq_onChild_left {s : f.State} {t : x.State} {tag : Tag}
    {read : Cursor → Except Fault (f.State × Cursor)} (h : f.onChild parent s tag = some read) :
    (f <*> x).onChild parent (s, t) tag =
      some fun c => (read c).map fun p => ((p.1, t), p.2) := by
  rw [seq_onChild, h]
  rfl

theorem seq_onChild_right {s : f.State} {t : x.State} {tag : Tag}
    {read : Cursor → Except Fault (x.State × Cursor)} (ignored : f.onChild parent s tag = none)
    (h : x.onChild parent t tag = some read) :
    (f <*> x).onChild parent (s, t) tag =
      some fun c => (read c).map fun p => ((s, p.1), p.2) := by
  rw [seq_onChild, ignored, h]
  rfl

theorem seq_onChild_eq_none_iff {s : f.State} {t : x.State} {tag : Tag} :
    (f <*> x).onChild parent (s, t) tag = none ↔
      f.onChild parent s tag = none ∧ x.onChild parent t tag = none := by
  rw [seq_onChild]
  cases f.onChild parent s tag with
  | none => simp
  | some read => simp

/-- What one of two readers takes, the other passes over. -/
theorem Takes.seq {kids kids' : List String}
    (hf : ∀ s tag, hasName kids tag.name = false → f.onChild parent s tag = none)
    (hx : ∀ t tag, hasName kids' tag.name = false → x.onChild parent t tag = none)
    (apart : ∀ kid ∈ kids, kid ∉ kids') {s s' : f.State} {t t' : x.State} {es : List Element}
    (takes : f.Takes parent s es s') (takes' : x.Takes parent t es t') :
    (f <*> x).Takes parent (s, t) es (s', t') := by
  have either := hasName_apart apart
  -- A step takes several elements at once, so the induction is on how many are left.
  induction hn : es.length using Nat.strongRecOn generalizing es s t with
  | ind n ih =>
    cases takes with
    | nil =>
      cases takes' with
      | nil => exact .nil _
      | take split => cases split
    | @take s s₁ _ e group later _ read split alike heeded taken rest =>
      subst split
      have other : hasName kids' e.tag.name = false := by
        refine (either e.tag.name).resolve_left fun unnamed => ?_
        rw [hf s e.tag unnamed] at heeded
        cases heeded
      have ignored : ∀ g ∈ e :: group, ∀ t, x.onChild parent t g.tag = none := by
        intro g hg t
        refine hx t g.tag ?_
        rcases List.mem_cons.1 hg with rfl | hg
        · exact other
        · rw [alike g hg]
          exact other
      have less : later.length < n := by
        simp only [List.length_cons, List.length_append] at hn
        omega
      have rest' := ih _ less rest (takes'.drop ignored) rfl
      exact .take rfl alike (seq_onChild_left heeded) (taken.map fun u => (u, t)) rest'
    | @pass s _ e es unheeded rest =>
      cases takes' with
      | @take t t₁ _ e' group later _ read split alike heeded taken rest' =>
        obtain ⟨rfl, rfl⟩ := List.cons.inj split
        have other : hasName kids e.tag.name = false := by
          refine (either e.tag.name).resolve_right fun unnamed => ?_
          rw [hx t e.tag unnamed] at heeded
          cases heeded
        have ignored : ∀ g ∈ group, ∀ s, f.onChild parent s g.tag = none := by
          intro g hg s
          refine hf s g.tag ?_
          rw [alike g hg]
          exact other
        have less : later.length < n := by
          simp only [List.length_cons, List.length_append] at hn
          omega
        have rest'' := ih _ less (rest.drop ignored) rest' rfl
        exact .take rfl alike (seq_onChild_right unheeded heeded) (taken.map fun u => (s, u)) rest''
      | pass unheeded' rest' =>
        have less : es.length < n := by
          rw [← hn, List.length_cons]
          exact Nat.lt_succ_self _
        exact .pass (seq_onChild_eq_none_iff.2 ⟨unheeded, unheeded'⟩) (ih _ less rest rest' rfl)

end Fields

/-! ## Whole elements -/

namespace Fields

section

variable {f : Fields α} {e : Element} {s s' : f.State} {a : α}

/-- What the fields hold after the parts of an element; what they do not heed can be passed over. -/
def Meets (f : Fields α) (s : f.State) : Element → f.State → Prop
  | .empty _, s' => s' = s
  | .leaf _ text, s' =>
    if text.toList.dropWhile isSpace = [] then s' = s
    else (f.onText s (strip text.toList)).getD (.ok s) = .ok s'
  | .node h es, s' =>
    f.Takes h.tag s es s' ∧ ∀ x ∈ es, (∃ s, f.onChild h.tag s x.tag = none) → x.IsPassable

theorem size_pos_of_next? {c : Cursor} {p : Event × Cursor} (held : c.held = none)
    (h : c.next? = some p) : 0 < c.size := by
  rw [Cursor.next?_of_held held] at h
  cases ahead : c.ahead with
  | none =>
    rw [Cursor.read?.eq_def] at h
    split at h <;> simp_all
  | some t => simp [Cursor.size, ahead]

theorem reads (attributes : f.readAttributes (e.heading.read.map some) f.unread = .ok s)
    (meets : f.Meets s e s') (finish : f.finish s' = .ok a) : Reads f.reader e a := by
  intro gaps path ts c hc
  suffices parts : ∃ c', f.readPartsWithin e.tag (c.size + 1) s c = .ok (s', c') ∧ c'.Stands ts by
    obtain ⟨c', parts, stands⟩ := parts
    refine ⟨c', ?_, stands⟩
    rw [reader_eq, e.entries_tag, attributes]
    dsimp only [Except.bind]
    rw [parts]
    dsimp only
    rw [finish]
    rfl
  cases e with
  | empty h =>
    cases meets
    rw [inside] at hc
    obtain ⟨c', next, stands⟩ := Cursor.Stands.next?_closing hc
    exact ⟨c', readPartsWithin_closing next, stands⟩
  | leaf h text =>
    rw [inside, List.append_assoc] at hc
    rcases hc.next?_text with ⟨blank, hc⟩ | ⟨visible, c₁, next, hc'⟩
    · rw [Meets, if_pos blank] at meets
      cases meets
      obtain ⟨c', next, stands⟩ := Cursor.Stands.next?_closing hc
      exact ⟨c', readPartsWithin_closing next, stands⟩
    · rw [Meets, if_neg visible] at meets
      obtain ⟨c', next', stands⟩ := Cursor.Stands.next?_closing hc'
      refine ⟨c', ?_, stands⟩
      obtain ⟨k, size⟩ := Nat.exists_eq_succ_of_ne_zero
        (Nat.ne_of_gt (size_pos_of_next? hc.held next))
      rw [readPartsWithin_text next, meets, size]
      exact readPartsWithin_closing next'
  | node h es =>
    rw [inside] at hc
    exact readParts_of_takes meets.1 meets.2 hc.faces (Nat.lt_succ_of_lt hc.length_lt_size)

end

/-- The fields obtain this value from an element; they heed these names alone, and no text. -/
structure Gets (f : Fields α) (names kids : List String) (e : Element) (a : α) : Prop where
  onAttribute : ∀ s x, Attribute.isNamed names x = false → f.onAttribute s x = none
  onChild : ∀ s tag, f.onChild e.tag s tag = none ↔ hasName kids tag.name = false
  onText : ∀ s cs, f.onText s cs = none
  got : ∃ s s', f.readAttributes (e.heading.read.map some) f.unread = .ok s ∧
    f.Takes e.tag s e.children s' ∧ f.finish s' = .ok a

section

variable {names names' kids kids' : List String} {e : Element} {a : α} {b : β}

/-- An element is read if its fields obtain their values and the rest can be passed over. -/
theorem Gets.reads {f : Fields α} (h : f.Gets names kids e a)
    (passable : ∀ x ∈ e.children, x.isNamed kids = false → x.IsPassable) :
    Reads f.reader e a := by
  obtain ⟨s, s', attributes, takes, finish⟩ := h.got
  refine Fields.reads attributes ?_ finish
  cases e with
  | empty => exact takes.eq_of_nil
  | leaf heading text =>
    cases takes.eq_of_nil
    show if text.toList.dropWhile isSpace = [] then s = s else _
    split
    · rfl
    · rw [h.onText]
      rfl
  | node heading es =>
    refine ⟨takes, fun x hx ⟨s, unheeded⟩ => passable x hx ?_⟩
    rw [← hasName_tag]
    exact (h.onChild s x.tag).1 unheeded

theorem Takes.update {f : Fields α} {parent : Tag} {s s' : f.State} {es : List Element}
    (takes : f.Takes parent s es s') (finish : f.State → Except Fault β) :
    ({ f with finish } : Fields β).Takes parent s es s' := by
  induction takes with
  | nil s => exact Takes.nil (f := { f with finish }) s
  | take split alike heeded taken _ ih => exact .take split alike heeded taken ih
  | pass unheeded _ ih => exact .pass unheeded ih

/-- Other values can be made of the same fields. -/
theorem Gets.update {f : Fields α} (h : f.Gets names kids e a) {finish : f.State → Except Fault β}
    (final : ∀ s, f.finish s = .ok a → finish s = .ok b) :
    ({ f with finish } : Fields β).Gets names kids e b := by
  obtain ⟨s, s', attributes, takes, finished⟩ := h.got
  refine ⟨h.onAttribute, h.onChild, h.onText, s, s', ?_, takes.update finish, final s' finished⟩
  rw [readAttributes_update]
  exact attributes

theorem Gets.map {f : Fields α} (h : f.Gets names kids e a) (g : α → β) :
    (g <$> f).Gets names kids e (g a) :=
  h.update fun s finished => by rw [finished]; rfl

theorem Gets.required {f : Fields (Option α)} (h : f.Gets names kids e (some a))
    (field : String) : (f.required field).Gets names kids e a :=
  h.update fun s finished => by rw [finished]; rfl

theorem Gets.orElse {f : Fields (Option α)} {o : Option α} (h : f.Gets names kids e o)
    (absent : α) : (f.orElse absent).Gets names kids e (o.getD absent) :=
  h.map (·.getD absent)

/-- Fields that heed different names do not come into each other's way. -/
theorem Gets.seq {f : Fields (α → β)} {x : Fields α} {g : α → β} (hf : f.Gets names kids e g)
    (hx : x.Gets names' kids' e a) (apart : ∀ name ∈ names, name ∉ names')
    (apart' : ∀ kid ∈ kids, kid ∉ kids') :
    (f <*> x).Gets (names ++ names') (kids ++ kids') e (g a) := by
  obtain ⟨s, s', attributes, takes, finish⟩ := hf.got
  obtain ⟨t, t', attributes', takes', finish'⟩ := hx.got
  refine ⟨?onAttribute, ?onChild, ?onText, (s, t), (s', t'), ?attributes,
    ?takes, ?finish⟩
  case onAttribute =>
    rintro ⟨s, t⟩ y other
    rw [Attribute.isNamed_append, Bool.or_eq_false_iff] at other
    obtain ⟨left, right⟩ := other
    rw [seq_onAttribute, hf.onAttribute s y left, hx.onAttribute t y right]
    rfl
  case onChild =>
    rintro ⟨s, t⟩ tag
    rw [hasName_append, Bool.or_eq_false_iff, ← hf.onChild s, ← hx.onChild t]
    exact seq_onChild_eq_none_iff
  case onText =>
    rintro ⟨s, t⟩ cs
    rw [seq_onText, hf.onText, hx.onText]
    rfl
  case attributes =>
    refine readAttributes_seq (fun y _ => ?_) attributes attributes'
    exact (Attribute.isNamed_apart apart y).imp (fun other s => hf.onAttribute s y other)
      fun other t => hx.onAttribute t y other
  case takes =>
    exact takes.seq (fun s tag => (hf.onChild s tag).2) (fun t tag => (hx.onChild t tag).2)
      apart' takes'
  case finish =>
    rw [seq_finish, finish, finish']
    rfl

/-- Fields that take no attributes may hear the text. -/
theorem Gets.reads_beside {f : Fields (α → β)} {x : Fields α} {g : α → β} {h : Heading}
    {text : String} (hf : f.Gets names kids (.leaf h text) g)
    (deaf : ∀ t y, x.onAttribute t y = none) {t' : x.State}
    (meets : x.Meets x.unread (.leaf h text) t') (finish' : x.finish t' = .ok a) :
    Reads (f <*> x).reader (.leaf h text) (g a) := by
  obtain ⟨s, s', attributes, takes, finish⟩ := hf.got
  obtain rfl : s' = s := takes.eq_of_nil
  have both := readAttributes_seq (fun y _ => .inr fun t => deaf t y) attributes
    (readAttributes_ignored fun y _ => deaf x.unread y)
  have heard : (f <*> x).Meets (s', x.unread) (.leaf h text) (s', t') := by
    show if text.toList.dropWhile isSpace = [] then (s', t') = (s', x.unread) else _
    change if text.toList.dropWhile isSpace = [] then t' = x.unread else _ at meets
    split
    case isTrue blank =>
      rw [if_pos blank] at meets
      rw [meets]
    case isFalse visible =>
      rw [if_neg visible] at meets
      rw [seq_onText, hf.onText]
      cases said : x.onText x.unread (strip text.toList) with
      | none =>
        rw [said] at meets
        cases meets
        rfl
      | some result =>
        rw [said] at meets
        cases meets
        rfl
  refine Fields.reads both heard ?_
  rw [seq_finish, finish, finish']
  rfl

/-- The text of an element comes without the white space at its ends. -/
theorem Gets.reads_text {f : Fields (String → β)} {g : String → β} {h : Heading} {text : String}
    (hf : f.Gets names kids (.leaf h text) g) :
    Reads (f <*> optionalText.orElse "").reader (.leaf h text)
      (g (String.ofList (strip text.toList))) := by
  by_cases blank : text.toList.dropWhile isSpace = []
  · have silent : (optionalText.orElse "").Meets none (.leaf h text) none := by
      show if text.toList.dropWhile isSpace = [] then _ else _
      rw [if_pos blank]
    rw [strip, blank]
    exact hf.reads_beside (fun _ _ => rfl) silent rfl
  · have heard : (optionalText.orElse "").Meets none (.leaf h text)
        (some (String.ofList (strip text.toList))) := by
      show if text.toList.dropWhile isSpace = [] then _ else _
      rw [if_neg blank]
      rfl
    exact hf.reads_beside (fun _ _ => rfl) heard rfl

end

/-! ### Single attributes -/

section

variable {names : List String} {e : Element} {value : Value α} {s : String} {a : α}

theorem Takes.passes {f : Fields α} {parent : Tag} {s : f.State} {es : List Element}
    (unheeded : ∀ x ∈ es, f.onChild parent s x.tag = none) : f.Takes parent s es s := by
  induction es with
  | nil => exact .nil s
  | cons x es ih =>
    obtain ⟨here, others⟩ := List.forall_mem_cons.1 unheeded
    exact .pass here (ih others)

/-- An attribute that is given once is obtained if its value can be read. -/
theorem gets_optionalAttribute (given : e.heading.values names = [s])
    (valued : value (escape s.toList) = .ok a) :
    (optionalAttribute names value).Gets names [] e (some a) where
  onAttribute _ _ other := if_neg (by simpa [Attribute.isNamed] using other)
  onChild _ _ := ⟨fun _ => rfl, fun _ => rfl⟩
  onText _ _ := rfl
  got := by
    refine ⟨some a, some a, ?attributes, Takes.passes fun _ _ => rfl, rfl⟩
    have single : rawValues names (e.heading.read.map some) = [escape s.toList] := by
      rw [rawValues_read, given]
      rfl
    refine readAttributes_single (fun _ x other => ?_) (fun x named same => ?_) single
    · exact if_neg (by simpa [Attribute.isNamed] using other)
    · refine (if_pos named).trans ?_
      rw [same, valued]
      rfl

end

/-! ### Single children -/

section

variable {names : List String} {e x : Element} {a : α} {o : Option α} {r : Reader α}

theorem childBy_onChild {read : Tag → Reader α} {parent tag : Tag} :
    (childBy names read).onChild parent o tag = none ↔ hasName names tag.name = false := by
  show (if hasName names tag.name then some _ else none) = none ↔ _
  split <;> simp_all

theorem childBy_heeds {read : Tag → Reader α} {parent : Tag} (named : x.isNamed names = true) :
    (childBy names read).onChild parent (none : Option α) x.tag =
      some fun c => (read parent x.tag c).map fun p => (some p.1, p.2) := by
  rw [← hasName_tag] at named
  exact if_pos named

theorem childBy_unheeded {read : Tag → Reader α} {parent : Tag} (other : x.isNamed names = false) :
    (childBy names read).onChild parent o x.tag = none := by
  rw [childBy_onChild, hasName_tag, other]

theorem childBy_take {read : Tag → Reader α} {parent : Tag} {group later : List Element}
    (named : x.isNamed names = true) (alike : ∀ g ∈ group, g.tag.name = x.tag.name)
    (taken : TakesFrom (read parent x.tag) a x group later)
    (others : ∀ y ∈ later, y.isNamed names = false) :
    (childBy names read).Takes parent (none : Option α) (x :: (group ++ later)) (some a) :=
  .take rfl alike (childBy_heeds named) (taken.map some)
    (.passes fun y hy => childBy_unheeded (others y hy))

/-- The only one of the children with some names is taken. -/
theorem childBy_single {read : Tag → Reader α} {parent : Tag} {es : List Element}
    (single : es.filter (isNamed names) = [x]) (reads : Reads (read parent) x a) :
    (childBy names read).Takes parent (none : Option α) es (some a) := by
  induction es with
  | nil => cases single
  | cons y es ih =>
    cases named : y.isNamed names with
    | true =>
      rw [List.filter_cons_of_pos named] at single
      obtain ⟨rfl, nothing⟩ := List.cons.inj single
      have others : ∀ z ∈ es, z.isNamed names = false := by
        simpa [List.filter_eq_nil_iff] using nothing
      have alone : (childBy names read).Takes parent none (y :: ([] ++ es)) (some a) :=
        childBy_take named nofun (takesFrom_of_reads reads es) others
      exact alone
    | false =>
      rw [List.filter_cons_of_neg (by simp [named])] at single
      exact .pass (childBy_unheeded named) (ih single)

theorem childBy_gets {read : Tag → Reader α}
    (takes : (childBy names read).Takes e.tag (none : Option α) e.children o) :
    (childBy names read).Gets [] names e o where
  onAttribute _ _ _ := rfl
  onChild _ _ := childBy_onChild
  onText _ _ := rfl
  got := ⟨none, o, readAttributes_ignored fun _ _ => rfl, takes, rfl⟩

/-- A written element is not nil. -/
theorem reads_unlessNil {parent : Element} (reads : Reads r x a) :
    Reads (unlessNil r parent.tag) x (some a) := by
  intro gaps path ts c hc
  obtain ⟨c', got, stands⟩ := reads gaps path ts c hc
  refine ⟨c', ?_, stands⟩
  unfold unlessNil
  rw [parent.isNil_tag, x.isNil_tag, got]
  rfl

theorem gets_optionalChild (single : e.children.filter (isNamed names) = [x])
    (reads : Reads r x a) : (optionalChild names r).Gets [] names e (some a) :=
  (childBy_gets (childBy_single single (reads_unlessNil reads))).map Option.join

theorem gets_requiredChild (single : e.children.filter (isNamed names) = [x])
    (reads : Reads r x a) : (requiredChild names r).Gets [] names e a :=
  (childBy_gets (childBy_single single reads)).required _

section

variable {γ : Type} {name : Name} {xs : List γ} {write : γ → Element} {value : γ → α}

/-- An element with the elements of a list in it. -/
theorem gets_children (split : e.children = xs.map write) (named : names.contains name.text = true)
    (alike : ∀ x ∈ xs, (write x).heading.name = name ∧ Reads r (write x) (value x)) :
    (children names r).Gets [] names e (xs.map value) := by
  unfold children
  cases xs with
  | nil =>
    have nothing : (childBy names fun _ => items r fun _ => .error .malformed).Takes e.tag none
        e.children none := by
      rw [split]
      exact .nil _
    exact (childBy_gets nothing).orElse []
  | cons x xs =>
    obtain ⟨⟨rfl, reads⟩, rest⟩ := List.forall_mem_cons.1 alike
    let group := xs.map fun y => (write y, value y)
    have same : ∀ g ∈ group, g.1.tag.name = (write x).tag.name ∧ Reads r g.1 g.2 := by
      intro g hg
      obtain ⟨y, hy, rfl⟩ := List.mem_map.1 hg
      rw [name_tag, name_tag, (rest y hy).1]
      exact ⟨rfl, (rest y hy).2⟩
    have all : (childBy names fun _ => items r fun _ => .error .malformed).Takes e.tag none
        e.children (some (value x :: group.map Prod.snd)) := by
      have listed : e.children = write x :: (group.map Prod.fst ++ []) := by
        rw [split, List.append_nil, List.map_map]
        rfl
      rw [listed]
      refine childBy_take named ?_ (takesFrom_items reads same nofun) nofun
      intro y hy
      obtain ⟨g, hg, rfl⟩ := List.mem_map.1 hy
      exact (same g hg).1
    rw [List.map_map] at all
    exact (childBy_gets all).orElse []

/-- A list is read, wherever it stands. -/
theorem reads_children (split : e.children = xs.map write)
    (named : names.contains name.text = true)
    (alike : ∀ x ∈ xs, (write x).heading.name = name ∧ Reads r (write x) (value x)) :
    Reads (children names r).reader e (xs.map value) := by
  refine (gets_children split named alike).reads fun y hy other => ?_
  rw [split] at hy
  obtain ⟨x, hx, rfl⟩ := List.mem_map.1 hy
  rw [isNamed, (alike x hx).1, named] at other
  cases other

end

end

end Fields

/-! ## Texts and documents -/

theorem reads_text (h : Heading) (text : String) :
    Reads textReader (.leaf h text) (String.ofList (strip text.toList)) := by
  intro gaps path ts c hc
  rw [inside, List.append_assoc] at hc
  rcases hc.next?_text with ⟨blank, hc⟩ | ⟨-, c₁, next, hc⟩
  · obtain ⟨c', next, stands⟩ := Cursor.Stands.next?_closing hc
    refine ⟨c', ?_, stands⟩
    unfold textReader
    rw [next, strip, blank]
    rfl
  · obtain ⟨c', next', stands⟩ := Cursor.Stands.next?_closing hc
    refine ⟨c', ?_, stands⟩
    unfold textReader
    simp only [next, demand, bind, Except.bind, next']
    rfl

/-- A document is read like its root element. -/
theorem readDocument_document {r : Reader α} {root : Element} {a : α} (gaps : Gaps)
    (reads : Reads r root a) : readDocument r (document gaps root) = .ok a := by
  have stands : (Cursor.ofChars (document gaps root).toList).Stands
      (.opening root.tag :: (inside gaps [] root ++ [])) := by
    rw [← Cursor.stands_blank (gaps.blank []), List.append_nil, ← scan_document]
    exact Cursor.stands_advance rfl rfl
  obtain ⟨c, next, stands⟩ := stands.next?_opening
  obtain ⟨c', got, -⟩ := reads gaps [] [] c stands
  unfold readDocument
  rw [next]
  simp only [demand, bind, Except.bind, got]
  rfl

end

end Registrar.Xml
