import Registrar.Proofs.Xml.Flag

/-!
# What is read holds

A reader `Promises` a property if all that it reads has it, whatever the document says. Fields are
read one after another into a state, so theirs is a promise over the states that can be reached; it
follows from the readers of single values. Main statement: `Envelope.of_payload`, a payload has what
its reader promises.
-/

namespace Registrar.Xml

variable {α β : Type} {P : α → Prop}

/-- Whatever is read from a raw text has this property. -/
def Value.Promises (value : Value α) (P : α → Prop) : Prop :=
  ∀ raw a, value raw = .ok a → P a

/-- Whatever is read from an element has this property. -/
def Reader.Promises (r : Reader α) (P : α → Prop) : Prop :=
  ∀ tag c a c', r tag c = .ok (a, c') → P a

namespace Fields

/-- The states in which the attributes and parts of an element may leave the fields. -/
inductive Reach (f : Fields α) : f.State → Prop
  | unread : Reach f f.unread
  | byAttribute {s t : f.State} {a : Attribute} (before : Reach f s)
    (read : f.onAttribute s a = some (.ok t)) : Reach f t
  | byChild {s t : f.State} {parent tag : Tag} {read : Cursor → Except Fault (f.State × Cursor)}
    {c c' : Cursor} (before : Reach f s) (known : f.onChild parent s tag = some read)
    (found : read c = .ok (t, c')) : Reach f t
  | byText {s t : f.State} {cs : List Char} (before : Reach f s)
    (read : f.onText s cs = some (.ok t)) : Reach f t

/-- Whatever the fields make of an element has this property. -/
def Promises (f : Fields α) (P : α → Prop) : Prop :=
  ∀ s a, f.Reach s → f.finish s = .ok a → P a

variable {f : Fields α} {s t : f.State} {parent : Tag} {c c' : Cursor}

/-! ## Elements -/

theorem Reach.readAttributes {entries : List (Option Attribute)} (hs : f.Reach s)
    (h : f.readAttributes entries s = .ok t) : f.Reach t := by
  induction entries generalizing s with
  | nil =>
    cases h
    exact hs
  | cons entry entries ih =>
    cases entry with
    | none => exact nomatch h
    | some a =>
      rw [readAttributes_cons] at h
      split at h
      case h_1 => exact ih hs h
      case h_2 result read =>
        obtain ⟨u, rfl, rest⟩ := bind_eq_ok_iff.1 h
        exact ih (.byAttribute hs read) rest

theorem Reach.readPartsWithin {fuel : Nat} (hs : f.Reach s)
    (h : f.readPartsWithin parent fuel s c = .ok (t, c')) : f.Reach t := by
  induction fuel generalizing s c with
  | zero => exact nomatch h
  | succ fuel ih =>
    cases next : c.next? with
    | none =>
      rw [readPartsWithin_none next] at h
      exact nomatch h
    | some part =>
      obtain ⟨event, c₁⟩ := part
      cases event with
      | opening tag =>
        cases known : f.onChild parent s tag with
        | none =>
          rw [readPartsWithin_pass next known] at h
          obtain ⟨p, -, rest⟩ := bind_eq_ok_iff.1 h
          exact ih hs rest
        | some read =>
          rw [readPartsWithin_child next known] at h
          obtain ⟨p, found, rest⟩ := bind_eq_ok_iff.1 h
          exact ih (.byChild hs known found) rest
      | closing =>
        rw [readPartsWithin_closing next] at h
        cases h
        exact hs
      | text cs =>
        rw [readPartsWithin_text next] at h
        obtain ⟨u, read, rest⟩ := bind_eq_ok_iff.1 h
        cases known : f.onText s cs with
        | none =>
          rw [known] at read
          cases read
          exact ih hs rest
        | some result =>
          rw [known, Option.getD_some] at read
          exact ih (.byText hs (known.trans (congrArg some read))) rest

/-- An element is read by its fields. -/
theorem Promises.reader (h : f.Promises P) : f.reader.Promises P := by
  intro tag c a c' read
  rw [reader_eq] at read
  obtain ⟨s, attributes, read⟩ := bind_eq_ok_iff.1 read
  obtain ⟨p, parts, read⟩ := bind_eq_ok_iff.1 read
  obtain ⟨b, finish, made⟩ := map_eq_ok_iff.1 read
  cases made
  exact h p.1 a ((Reach.unread.readAttributes attributes).readPartsWithin parts) finish

/-! ## Fields put together -/

theorem Promises.mono {Q : α → Prop} (h : f.Promises P) (weaker : ∀ a, P a → Q a) :
    f.Promises Q := fun s a hs finish => weaker a (h s a hs finish)

theorem promises_of_forall (h : ∀ a, P a) : f.Promises P := fun _ a _ _ => h a

/-- What is made of the fields in the end does not matter for the states. -/
theorem reach_of_update {finish : f.State → Except Fault β}
    {s : ({ f with finish } : Fields β).State} (h : Reach { f with finish } s) : f.Reach s := by
  induction h with
  | unread => exact .unread
  | byAttribute _ read ih => exact .byAttribute ih read
  | byChild _ known found ih => exact .byChild ih known found
  | byText _ read ih => exact .byText ih read

theorem Promises.map {g : α → β} {P : β → Prop} (h : f.Promises fun a => P (g a)) :
    (g <$> f).Promises P := by
  intro s b hs finish
  obtain ⟨a, finished, made⟩ := map_eq_ok_iff.1 finish
  rw [← made]
  exact h s a (reach_of_update hs) finished

theorem Promises.required {f : Fields (Option α)} (h : f.Promises fun o => ∀ a ∈ o, P a)
    (field : String) : (f.required field).Promises P := by
  intro s a hs finish
  obtain ⟨o, before, finish⟩ := bind_eq_ok_iff.1 finish
  cases o with
  | none => exact nomatch finish
  | some b =>
    cases finish
    exact h s (some a) (reach_of_update hs) before a rfl

theorem Promises.orElse {f : Fields (Option α)} (h : f.Promises fun o => ∀ a ∈ o, P a)
    {absent : α} (hb : P absent) : (f.orElse absent).Promises P := by
  refine .map (h.mono fun o present => ?_)
  cases o with
  | none => exact hb
  | some a => exact present a rfl

/-- Fields that stand side by side are read for themselves. -/
theorem Reach.of_seq {f : Fields (α → β)} {x : Fields α} {p : (f <*> x).State}
    (h : (f <*> x).Reach p) : f.Reach p.1 ∧ x.Reach p.2 := by
  induction h with
  | unread => exact ⟨.unread, .unread⟩
  | @byAttribute p q a _ read ih =>
    rw [show (f <*> x).onAttribute p a = _ from seq_onAttribute f x p.1 p.2 a] at read
    split at read
    case h_1 known =>
      obtain ⟨u, rfl, rfl⟩ := map_eq_ok_iff.1 (Option.some.inj read)
      exact ⟨.byAttribute ih.1 known, ih.2⟩
    case h_2 =>
      obtain ⟨result, known, read⟩ := Option.map_eq_some_iff.1 read
      obtain ⟨u, rfl, rfl⟩ := map_eq_ok_iff.1 read
      exact ⟨ih.1, .byAttribute ih.2 known⟩
  | @byChild p q parent tag read c c' _ known found ih =>
    rw [show (f <*> x).onChild parent p tag = _ from seq_onChild f x p.1 p.2 parent tag] at known
    split at known
    case h_1 inner first =>
      cases known
      obtain ⟨u, got, made⟩ := map_eq_ok_iff.1 found
      cases made
      exact ⟨.byChild ih.1 first got, ih.2⟩
    case h_2 =>
      obtain ⟨inner, second, rfl⟩ := Option.map_eq_some_iff.1 known
      obtain ⟨u, got, made⟩ := map_eq_ok_iff.1 found
      cases made
      exact ⟨ih.1, .byChild ih.2 second got⟩
  | @byText p q cs _ read ih =>
    rw [show (f <*> x).onText p cs = _ from seq_onText f x p.1 p.2 cs] at read
    split at read
    case h_1 known =>
      obtain ⟨u, rfl, rfl⟩ := map_eq_ok_iff.1 (Option.some.inj read)
      exact ⟨.byText ih.1 known, ih.2⟩
    case h_2 =>
      obtain ⟨result, known, read⟩ := Option.map_eq_some_iff.1 read
      obtain ⟨u, rfl, rfl⟩ := map_eq_ok_iff.1 read
      exact ⟨ih.1, .byText ih.2 known⟩

theorem Promises.seq {f : Fields (α → β)} {x : Fields α} {P : β → Prop}
    (h : f.Promises fun g => x.Promises fun a => P (g a)) : (f <*> x).Promises P := by
  rintro ⟨s, t⟩ b hs finish
  rw [seq_finish] at finish
  obtain ⟨g, first, finish⟩ := bind_eq_ok_iff.1 finish
  obtain ⟨a, second, rfl⟩ := map_eq_ok_iff.1 finish
  exact h s g hs.of_seq.1 first t a hs.of_seq.2 second

end Fields

/-! ## Single fields -/

open Fields

variable {names : List String}

theorem once_eq_ok_iff {field : String} {before : Option α} {result : Except Fault β} {b : β} :
    once field before result = .ok b ↔ before = none ∧ result = .ok b := by
  cases before <;> simp [once]

theorem Value.Promises.optionalAttribute {value : Value α} (h : value.Promises P) :
    (optionalAttribute names value).Promises fun o => ∀ a ∈ o, P a := by
  intro s o hs finish
  cases finish
  induction hs with
  | unread => exact nofun
  | byAttribute _ read ih =>
    change (if _ then some (once _ _ _) else none) = _ at read
    split at read
    case isTrue =>
      obtain ⟨-, read⟩ := once_eq_ok_iff.1 (Option.some.inj read)
      obtain ⟨a, read, made⟩ := map_eq_ok_iff.1 read
      rw [← made]
      rintro b ⟨⟩
      exact h _ a read
    case isFalse => exact nomatch read
  | byChild _ known => exact nomatch known
  | byText _ read => exact nomatch read

theorem promises_childBy {reader : Tag → Reader α} (h : ∀ parent, (reader parent).Promises P) :
    (childBy names reader).Promises fun o => ∀ a ∈ o, P a := by
  intro s o hs finish
  cases finish
  induction hs with
  | unread => exact nofun
  | byAttribute _ read => exact nomatch read
  | @byChild s t parent tag _ c _ _ known found ih =>
    change (if _ then some (fun c => once _ _ _) else none) = _ at known
    split at known
    case isTrue =>
      cases known
      obtain ⟨-, found⟩ := once_eq_ok_iff.1 found
      obtain ⟨p, read, made⟩ := map_eq_ok_iff.1 found
      cases made
      rintro b ⟨⟩
      exact h parent tag c p.1 p.2 read
    case isFalse => exact nomatch known
  | byText _ read => exact nomatch read

namespace Reader.Promises

variable {reader : Reader α} (h : reader.Promises P)

include h

theorem childBy (names : List String) :
    (childBy names fun _ => reader).Promises fun o => ∀ a ∈ o, P a :=
  promises_childBy fun _ => h

theorem requiredChild (names : List String) : (requiredChild names reader).Promises P :=
  (h.childBy names).required _

theorem unlessNil (parent : Tag) : (unlessNil reader parent).Promises fun o => ∀ a ∈ o, P a := by
  intro tag c o c' read
  unfold Xml.unlessNil at read
  dsimp only at read
  split at read
  case isTrue =>
    obtain ⟨p, -, made⟩ := map_eq_ok_iff.1 read
    cases made
    exact nofun
  case isFalse =>
    obtain ⟨p, inner, made⟩ := map_eq_ok_iff.1 read
    cases made
    rintro a ⟨⟩
    exact h tag c p.1 p.2 inner

theorem optionalChild (names : List String) :
    (optionalChild names reader).Promises fun o => ∀ a ∈ o, P a := by
  refine .map ((promises_childBy fun parent => h.unlessNil parent).mono fun o present a ha => ?_)
  exact present (some a) (Option.join_eq_some_iff.1 ha) a rfl

theorem itemsWithin {ofText : Value α} (texts : ofText.Promises P) {name : List Char} {fuel : Nat}
    {c c' : Cursor} {as : List α} (read : itemsWithin reader ofText name fuel c = .ok (as, c')) :
    ∀ a ∈ as, P a := by
  induction fuel generalizing c as c' with
  | zero => exact nomatch read
  | succ fuel ih =>
    unfold Xml.itemsWithin at read
    obtain ⟨⟨event, c₁⟩, next, read⟩ := bind_eq_ok_iff.1 read
    cases event with
    | closing =>
      cases read
      exact List.forall_mem_nil _
    | text cs =>
      obtain ⟨a, first, read⟩ := bind_eq_ok_iff.1 read
      obtain ⟨⟨more, c₂⟩, others, read⟩ := bind_eq_ok_iff.1 read
      cases read
      exact List.forall_mem_cons.2 ⟨texts _ a first, ih others⟩
    | opening tag =>
      dsimp only at read
      split at read
      case isTrue =>
        obtain ⟨⟨a, c₂⟩, first, read⟩ := bind_eq_ok_iff.1 read
        obtain ⟨⟨more, c₃⟩, others, read⟩ := bind_eq_ok_iff.1 read
        cases read
        exact List.forall_mem_cons.2 ⟨h _ _ a _ first, ih others⟩
      case isFalse =>
        cases read
        exact List.forall_mem_nil _

theorem items {ofText : Value α} (texts : ofText.Promises P) :
    (items reader ofText).Promises fun as => ∀ a ∈ as, P a := by
  intro tag c as c' read
  obtain ⟨⟨a, c₁⟩, first, read⟩ := bind_eq_ok_iff.1 read
  obtain ⟨⟨more, c₂⟩, others, read⟩ := bind_eq_ok_iff.1 read
  cases read
  exact List.forall_mem_cons.2 ⟨h _ _ a _ first, h.itemsWithin texts others⟩

theorem children (names : List String) :
    (children names reader).Promises fun as => ∀ a ∈ as, P a := by
  have noText : Value.Promises (fun _ => .error .malformed) P := fun _ _ => nofun
  exact ((h.items noText).childBy names).orElse fun _ => nofun

theorem readDocument {body : String} {a : α} (read : readDocument reader body = .ok a) : P a := by
  obtain ⟨⟨event, c⟩, -, read⟩ := bind_eq_ok_iff.1 read
  cases event with
  | opening tag =>
    obtain ⟨p, root, made⟩ := bind_eq_ok_iff.1 read
    cases made
    exact h tag c p.1 p.2 root
  | closing => exact nomatch read
  | text cs => exact nomatch read

end Reader.Promises

end Registrar.Xml

namespace Registrar

open Xml

variable {α : Type} {P : α → Prop}

/-- A payload is what its reader promises. -/
theorem Envelope.of_payload {reader : Reader α} (h : reader.Promises P) {e : Envelope} {a : α}
    (read : e.payload reader = .ok a) : P a := by
  unfold payload at read
  split at read
  case h_1 b found =>
    cases read
    exact (h.optionalChild ["CommandResponse"]).reader.readDocument found a rfl
  case h_2 => exact nomatch read
  case h_3 => exact nomatch read

namespace Wire

theorem promises_number (max : Nat) : (number max).Promises fun o => ∀ n ∈ o, n ≤ max := by
  intro raw o read
  obtain ⟨s, -, read⟩ := bind_eq_ok_iff.1 read
  dsimp only at read
  split at read
  case isTrue =>
    cases read
    exact nofun
  case isFalse =>
    split at read
    case h_1 n whole =>
      cases read
      rintro m ⟨⟩
      exact Decimal.readWhole_le whole
    case h_2 => exact nomatch read

theorem promises_identifier : identifier.Promises (· ≤ Decimal.max64) := by
  intro raw n read
  unfold identifier at read
  split at read
  case h_1 whole =>
    cases read
    exact Decimal.readWhole_le whole
  case h_2 => exact nomatch read

theorem promises_numberOr (max : Nat) (names : List String) :
    (numberOr max names).Promises fun o => ∀ n ∈ o, n ≤ max :=
  (promises_number max).optionalAttribute.orElse nofun

theorem promises_requiredIdentifier (names : List String) :
    (requiredAttribute names identifier).Promises (· ≤ Decimal.max64) :=
  promises_identifier.optionalAttribute.required _

end Wire

end Registrar
