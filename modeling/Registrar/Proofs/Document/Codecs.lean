import Registrar.Document.Layout
import Registrar.Proofs.Document.Json
import Registrar.Proofs.Wire.Queries

/-!
# Codecs that read what they write

A codec `Keeps` a value if it writes it plainly and reads it back; it `Promises` what holds of
everything that it reads. Both are said of layouts too, field by field, so that for a record of
distinct fields they follow from its fields. A codec is `Sound` for the values that fit if it keeps
them and reads no others.
-/

namespace Registrar.Document

/-! ## Codecs -/

namespace Codec

variable {α β : Type}

/-- The value is written plainly and read back. -/
structure Keeps (c : Codec α) (a : α) : Prop where
  plain : (c.write a).IsPlain
  read : c.read (c.write a) = some a

/-- Whatever is read satisfies `P`. -/
def Promises (c : Codec α) (P : α → Prop) : Prop := ∀ v a, c.read v = some a → P a

/-- The values that are kept are those that are read. -/
structure Sound (c : Codec α) (Fits : α → Prop) : Prop where
  keeps : ∀ {a}, Fits a → c.Keeps a
  promises : c.Promises Fits

/-- The value is what some text says. -/
def Accepts (c : Codec α) (a : α) : Prop := ∃ s, (Json.read? s).bind c.read = some a

/-- The value is what its own text says. -/
def Rereads (c : Codec α) (a : α) : Prop :=
  (Json.read? (Json.text (c.write a))).bind c.read = some a

theorem rereads_of_keeps {c : Codec α} {a : α} (h : c.Keeps a) : c.Rereads a := by
  unfold Rereads
  rw [Json.read?_text h.plain, Option.bind_some, h.read]

theorem Sound.of_accepts {c : Codec α} {Fits : α → Prop} (h : c.Sound Fits) {a : α}
    (accepted : c.Accepts a) : Fits a := by
  obtain ⟨s, found⟩ := accepted
  obtain ⟨v, -, read⟩ := Option.bind_eq_some_iff.1 found
  exact h.promises v a read

/-- The values that fit are those that come through a text. -/
theorem Sound.rereads_iff {c : Codec α} {Fits : α → Prop} (h : c.Sound Fits) {a : α} :
    c.Rereads a ↔ Fits a :=
  ⟨fun again => h.of_accepts ⟨_, again⟩, fun fits => rereads_of_keeps (h.keeps fits)⟩

theorem Sound.promises_iff {c : Codec α} {Fits P : α → Prop} (h : c.Sound Fits) :
    c.Promises P ↔ ∀ a, Fits a → P a := by
  constructor
  · exact fun promised a fits => promised _ a (h.keeps fits).read
  · exact fun all v a read => all a (h.promises v a read)

theorem Sound.keeps_iff {c : Codec α} {Fits : α → Prop} (h : c.Sound Fits) {a : α} :
    c.Keeps a ↔ Fits a :=
  ⟨fun kept => h.promises _ a kept.read, h.keeps⟩

/-! ### Single values -/

theorem sound_bool : bool.Sound fun _ => True :=
  ⟨fun {b} _ => ⟨.bool b, rfl⟩, fun _ _ _ => trivial⟩

theorem sound_text : text.Sound fun _ => True :=
  ⟨fun {s} _ => ⟨.text s, rfl⟩, fun _ _ _ => trivial⟩

theorem sound_whole {max : Nat} (small : max ≤ Decimal.max64) : (whole max).Sound (· ≤ max) := by
  have read (n : Int) : (whole max).read (.integer n) =
      if (0 ≤ n && n ≤ max) = true then some n.toNat else none := rfl
  constructor
  · intro n bound
    refine ⟨.integer (by omega) (by omega), ?_⟩
    show (whole max).read (.integer n) = some n
    rw [read, if_pos (by simp; omega), Int.toNat_natCast]
  · intro v n found
    cases v with
    | integer m =>
      rw [read] at found
      split at found
      case isFalse => exact nomatch found
      case isTrue within =>
        cases found
        rw [Bool.and_eq_true, decide_eq_true_iff, decide_eq_true_iff] at within
        show m.toNat ≤ max
        omega
    | _ => exact nomatch found

theorem sound_word32 : word32.Sound (· ≤ Decimal.max32) := sound_whole (by decide)

theorem sound_word64 : word64.Sound (· ≤ Decimal.max64) := sound_whole (Nat.le_refl _)

/-! ### Values that are put together -/

section

variable {c : Codec α} {Fits : α → Prop} (h : c.Sound Fits)

include h

theorem Sound.via {toText : β → α} {ofText : α → Option β} {Named : β → Prop}
    (back : ∀ b, Named b → Fits (toText b) ∧ ofText (toText b) = some b)
    (named : ∀ a b, Fits a → ofText a = some b → Named b) : (c.via toText ofText).Sound Named := by
  constructor
  · intro b hb
    obtain ⟨fits, again⟩ := back b hb
    refine ⟨(h.keeps fits).plain, ?_⟩
    show (c.read (c.write (toText b))).bind ofText = some b
    rw [(h.keeps fits).read, Option.bind_some, again]
  · intro v b found
    obtain ⟨a, read, spelled⟩ := Option.bind_eq_some_iff.1 found
    exact named a b (h.promises v a read) spelled

theorem Sound.option (given : ∀ a, c.write a ≠ .null) :
    c.option.Sound fun o => ∀ a ∈ o, Fits a := by
  have read {v : Value} (given : v ≠ .null) : c.option.read v = (c.read v).map some := by
    unfold Codec.option
    dsimp only
    split
    case h_1 => exact (given rfl).elim
    case h_2 => rfl
  constructor
  · intro o fits
    cases o with
    | none => exact ⟨.null, rfl⟩
    | some a =>
      have kept := h.keeps (fits a rfl)
      refine ⟨kept.plain, ?_⟩
      show c.option.read (c.write a) = some (some a)
      rw [read (given a), kept.read, Option.map_some]
  · intro v o found a ha
    by_cases null : v = .null
    · rw [null] at found
      cases found
      exact nomatch ha
    · rw [read null, Option.map_eq_some_iff] at found
      obtain ⟨b, readb, rfl⟩ := found
      cases ha
      exact h.promises v a readb

theorem Sound.list : c.list.Sound fun as => ∀ a ∈ as, Fits a := by
  constructor
  · intro as fits
    refine ⟨.list fun v hv => ?_, ?_⟩
    · obtain ⟨a, ha, rfl⟩ := List.mem_map.1 hv
      exact (h.keeps (fits a ha)).plain
    · show (as.map c.write).mapM c.read = some as
      induction as with
      | nil => rfl
      | cons a as ih =>
        obtain ⟨first, others⟩ := List.forall_mem_cons.1 fits
        rw [List.map_cons, List.mapM_cons, (h.keeps first).read, ih others]
        rfl
  · intro v as found
    cases v with
    | list vs =>
      change vs.mapM c.read = some as at found
      induction vs generalizing as with
      | nil =>
        cases found
        exact fun _ => nofun
      | cons v vs ih =>
        rw [List.mapM_cons] at found
        obtain ⟨a, first, rest⟩ := Option.bind_eq_some_iff.1 found
        obtain ⟨as, others, made⟩ := Option.bind_eq_some_iff.1 rest
        cases made
        exact List.forall_mem_cons.2 ⟨h.promises v a first, ih as others⟩
    | _ => exact nomatch found

end

/-! ### Fields

What the fields of a record ask for, one pair of equivalences for each codec that they have. -/

@[simp] theorem keeps_text (s : String) : text.Keeps s := sound_text.keeps trivial

@[simp] theorem promises_text_iff {P : String → Prop} : text.Promises P ↔ ∀ s, P s := by
  simp [sound_text.promises_iff]

@[simp] theorem keeps_bool (b : Bool) : bool.Keeps b := sound_bool.keeps trivial

@[simp] theorem promises_bool_iff {P : Bool → Prop} : bool.Promises P ↔ ∀ b, P b := by
  simp [sound_bool.promises_iff]

@[simp] theorem keeps_word32_iff {n : Nat} : word32.Keeps n ↔ n ≤ Decimal.max32 :=
  sound_word32.keeps_iff

@[simp] theorem promises_word32_iff {P : Nat → Prop} :
    word32.Promises P ↔ ∀ n ≤ Decimal.max32, P n :=
  sound_word32.promises_iff

@[simp] theorem keeps_word64_iff {n : Nat} : word64.Keeps n ↔ n ≤ Decimal.max64 :=
  sound_word64.keeps_iff

@[simp] theorem promises_word64_iff {P : Nat → Prop} :
    word64.Promises P ↔ ∀ n ≤ Decimal.max64, P n :=
  sound_word64.promises_iff

theorem sound_texts : (list text).Sound fun _ => True :=
  ⟨fun _ => sound_text.list.keeps fun _ _ => trivial, fun _ _ _ => trivial⟩

@[simp] theorem keeps_texts (as : List String) : (list text).Keeps as := sound_texts.keeps trivial

@[simp] theorem promises_texts_iff {P : List String → Prop} :
    (list text).Promises P ↔ ∀ as, P as := by
  simp [sound_texts.promises_iff]

@[simp] theorem keeps_optional_text (o : Option String) : text.option.Keeps o :=
  (sound_text.option fun _ => nofun).keeps fun _ _ => trivial

@[simp] theorem promises_optional_text_iff {P : Option String → Prop} :
    text.option.Promises P ↔ ∀ o, P o := by
  simp [(sound_text.option fun _ => nofun).promises_iff]

@[simp] theorem keeps_optional_word32_iff {o : Option Nat} :
    word32.option.Keeps o ↔ ∀ n ∈ o, n ≤ Decimal.max32 :=
  (sound_word32.option fun _ => nofun).keeps_iff

@[simp] theorem promises_optional_word32_iff {P : Option Nat → Prop} :
    word32.option.Promises P ↔ ∀ o, (∀ n ∈ o, n ≤ Decimal.max32) → P o :=
  (sound_word32.option fun _ => nofun).promises_iff

@[simp] theorem keeps_optional_word64_iff {o : Option Nat} :
    word64.option.Keeps o ↔ ∀ n ∈ o, n ≤ Decimal.max64 :=
  (sound_word64.option fun _ => nofun).keeps_iff

@[simp] theorem promises_optional_word64_iff {P : Option Nat → Prop} :
    word64.option.Promises P ↔ ∀ o, (∀ n ∈ o, n ≤ Decimal.max64) → P o :=
  (sound_word64.option fun _ => nofun).promises_iff

end Codec

/-! ## Layouts -/

namespace Layout

variable {σ α β : Type}

/-- What is written for `s` is plain and stands under the names of the layout, and `a` is read where
it stands. -/
structure Keeps (l : Layout σ α) (s : σ) (a : α) : Prop where
  names : (l.write s).map Prod.fst = l.names
  plain : ∀ e ∈ l.write s, e.2.IsPlain
  read : ∀ slots : Slots, (∀ e ∈ l.write s, slots.entries.lookup e.1 = some e.2) →
    l.read slots = some a

/-- Whatever is read satisfies `P`. -/
def Promises (l : Layout σ α) (P : α → Prop) : Prop := ∀ slots a, l.read slots = some a → P a

variable {s : σ}

theorem Keeps.field {name : String} {get : σ → α} {c : Codec α} {absence : Absence α}
    (h : c.Keeps (get s)) : (field name get c absence).Keeps s (get s) := by
  refine ⟨rfl, ?_, fun slots there => ?_⟩
  · intro e he
    obtain rfl : e = (name, c.write (get s)) := List.mem_singleton.1 he
    exact h.plain
  · have found : slots.entries.lookup name = some (c.write (get s)) :=
      there _ (List.mem_singleton.2 rfl)
    unfold Layout.field
    dsimp only
    rw [found]
    exact h.read

theorem Keeps.required {name : String} {get : σ → α} {c : Codec α} (h : c.Keeps (get s)) :
    (required name get c).Keeps s (get s) := .field h

theorem Keeps.optional {name : String} {get : σ → Option α} {c : Codec α}
    (h : c.option.Keeps (get s)) : (optional name get c).Keeps s (get s) := .field h

theorem Keeps.map {l : Layout σ α} {f : α → β} {a : α} (h : l.Keeps s a) :
    (f <$> l).Keeps s (f a) := by
  refine ⟨h.names, h.plain, fun slots there => ?_⟩
  show (l.read slots).map f = some (f a)
  rw [h.read slots there, Option.map_some]

theorem Keeps.seq {f : Layout σ (α → β)} {x : Layout σ α} {g : α → β} {a : α} (hf : f.Keeps s g)
    (hx : x.Keeps s a) : (f <*> x).Keeps s (g a) := by
  refine ⟨?_, fun e he => ?_, fun slots there => ?_⟩
  · show (f.write s ++ x.write s).map Prod.fst = f.names ++ x.names
    rw [List.map_append, hf.names, hx.names]
  · exact (List.mem_append.1 he).elim (hf.plain e) (hx.plain e)
  · show (f.read slots).bind (fun g => (x.read slots).map g) = some (g a)
    rw [hf.read slots fun e he => there e (List.mem_append_left _ he),
      hx.read slots fun e he => there e (List.mem_append_right _ he)]
    rfl

/-- A record is kept if each of its fields is, and each has a name of its own. -/
theorem Keeps.codecWith {l : Layout α α} {a : α} (h : l.Keeps a a) (distinct : l.names.Nodup)
    (exact_ : Bool) : (l.codecWith exact_).Keeps a := by
  have once : ((l.write a).map Prod.fst).Nodup := h.names ▸ distinct
  have unambiguous : l.isUnambiguous (l.write a) = true := by
    unfold isUnambiguous
    rw [List.all_eq_true]
    intro name _
    have count := List.nodup_iff_count_le_one.1 once name
    rw [List.count_eq_length_filter, List.filter_map, List.length_map] at count
    exact decide_eq_true count
  refine ⟨.table h.plain, ?_⟩
  show (if l.isUnambiguous (l.write a) then l.read ⟨l.write a, false⟩ else none) = some a
  rw [if_pos unambiguous]
  exact h.read _ fun e he => (lookup_eq_some_iff_of_nodup once).2 he

section

variable {name : String} {get : σ → α} {c : Codec α} {absence : Absence α} {P : α → Prop}

theorem promises_of_field (h : (field name get c absence).Promises P) : c.Promises P := by
  intro v a read
  have found : [(name, v)].lookup name = some v := List.lookup_cons_self
  refine h ⟨[(name, v)], false⟩ a ?_
  unfold Layout.field
  dsimp only
  rw [found]
  exact read

theorem promises_field (h : c.Promises P) (means : ∀ a, absence = .means a → P a)
    (default : ∀ a, absence = .default a → P a) : (field name get c absence).Promises P := by
  intro slots a found
  unfold Layout.field at found
  dsimp only at found
  split at found
  case h_1 v _ => exact h v a found
  case h_2 =>
    split at found
    case h_1 => exact nomatch found
    case h_2 b =>
      split at found
      · exact nomatch found
      · cases found
        exact means a rfl
    case h_3 b =>
      cases found
      exact default a rfl

@[simp] theorem promises_required_iff : (required name get c).Promises P ↔ c.Promises P :=
  ⟨promises_of_field, fun h => promises_field h (fun _ => nofun) fun _ => nofun⟩

@[simp] theorem promises_optional_iff {get : σ → Option α} {P : Option α → Prop} :
    (optional name get c).Promises P ↔ c.option.Promises P := by
  refine ⟨promises_of_field, fun h => promises_field h (fun a means => ?_) fun _ => nofun⟩
  cases means
  exact h .null none rfl

end

theorem Promises.map {l : Layout σ α} {f : α → β} {P : β → Prop} (h : l.Promises fun a => P (f a)) :
    (f <$> l).Promises P := by
  intro slots b found
  obtain ⟨a, read, rfl⟩ := Option.map_eq_some_iff.1 found
  exact h slots a read

theorem Promises.seq {f : Layout σ (α → β)} {x : Layout σ α} {P : β → Prop}
    (h : f.Promises fun g => x.Promises fun a => P (g a)) : (f <*> x).Promises P := by
  intro slots b found
  obtain ⟨g, readf, rest⟩ := Option.bind_eq_some_iff.1 found
  obtain ⟨a, readx, rfl⟩ := Option.map_eq_some_iff.1 rest
  exact h slots g readf slots a readx

/-- A record is read from a table or from a list, and by its fields in both. -/
theorem Promises.codecWith {l : Layout α α} {P : α → Prop} (h : l.Promises P) (exact_ : Bool) :
    (l.codecWith exact_).Promises P := by
  intro v a found
  change l.readRecord exact_ v = some a at found
  unfold readRecord at found
  split at found
  · split at found
    · exact h _ a found
    · exact nomatch found
  · split at found
    · exact nomatch found
    · exact h _ a found
  · exact h _ a found
  · exact nomatch found

/-- A record of distinct fields is sound if its layout is. -/
theorem sound {l : Layout α α} {Fits : α → Prop} (distinct : l.names.Nodup)
    (keeps : ∀ {a}, Fits a → l.Keeps a a) (promises : l.Promises Fits) : l.codec.Sound Fits :=
  ⟨fun fits => (keeps fits).codecWith distinct true, promises.codecWith true⟩

end Layout

end Registrar.Document
