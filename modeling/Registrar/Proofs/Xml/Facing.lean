import Registrar.Proofs.Xml.Writing
import Registrar.Xml.Fields

/-!
# Going through a written document

`c.Stands ts` says that a cursor stands in front of the tokens `ts`, and `c.Faces ts` that the event
in front may have been put back. A tag ahead keeps white space from counting, so that the gaps
between the tags of a written element are never met. Each kind of step takes a cursor that stands
in front of an element to one that stands behind what it read: `Faces.next?_opening`,
`Faces.next?_closing`, `Stands.next?_text` and, for an element that is passed over,
`Stands.pass?_insideFrom`.
-/

namespace Registrar.Xml

open Element

/-! ## White space -/

section

variable {raw cs : List Char}

/-- The text without white space at its ends. -/
def strip (cs : List Char) : List Char := trimEnd (cs.dropWhile isSpace)

/-- White space is written as it is, and what is not begins and ends with no white space. -/
theorem escapeChar_space (c : Char) :
    (isSpace c = true ∧ escapeChar c = [c]) ∨
      (isSpace c = false ∧ (∃ x xs, escapeChar c = x :: xs ∧ isSpace x = false) ∧
        ∃ x xs, escapeChar c = xs ++ [x] ∧ isSpace x = false) := by
  by_cases space : isSpace c = true
  · refine .inl ⟨space, ?_⟩
    have known : c = ' ' ∨ c = '\t' ∨ c = '\r' ∨ c = '\n' := by
      simpa [isSpace, or_assoc] using space
    rcases known with rfl | rfl | rfl | rfl <;> rfl
  · rw [Bool.not_eq_true] at space
    refine .inr ⟨space, ?_⟩
    unfold escapeChar
    split
    · exact ⟨⟨'&', _, rfl, rfl⟩, ';', ['&', 'l', 't'], rfl, rfl⟩
    split
    · exact ⟨⟨'&', _, rfl, rfl⟩, ';', ['&', 'g', 't'], rfl, rfl⟩
    split
    · exact ⟨⟨'&', _, rfl, rfl⟩, ';', ['&', 'a', 'm', 'p'], rfl, rfl⟩
    split
    · exact ⟨⟨'&', _, rfl, rfl⟩, ';', ['&', 'a', 'p', 'o', 's'], rfl, rfl⟩
    split
    · exact ⟨⟨'&', _, rfl, rfl⟩, ';', ['&', 'q', 'u', 'o', 't'], rfl, rfl⟩
    · exact ⟨⟨c, [], rfl, space⟩, c, [], rfl, space⟩

theorem escape_append (cs ds : List Char) : escape (cs ++ ds) = escape cs ++ escape ds :=
  List.flatMap_append

theorem dropWhile_escape (cs : List Char) :
    (escape cs).dropWhile isSpace = escape (cs.dropWhile isSpace) := by
  induction cs with
  | nil => rfl
  | cons c cs ih =>
    have all : escape (c :: cs) = escapeChar c ++ escape cs := rfl
    rcases escapeChar_space c with ⟨space, written⟩ | ⟨visible, ⟨x, xs, written, first⟩, -⟩
    · rw [all, written, List.singleton_append, List.dropWhile_cons_of_pos space,
        List.dropWhile_cons_of_pos space, ih]
    · rw [List.dropWhile_cons_of_neg (by simp [visible]), all, written, List.cons_append,
        List.dropWhile_cons_of_neg (by simp [first])]

theorem trimEnd_concat_of_pos {c : Char} (h : isSpace c = true) :
    trimEnd (cs ++ [c]) = trimEnd cs := by
  simp [trimEnd, h]

theorem trimEnd_concat_of_neg {c : Char} (h : isSpace c = false) :
    trimEnd (cs ++ [c]) = cs ++ [c] :=
  trimEnd_eq_self fun x hx => by
    rw [List.getLast?_concat] at hx
    cases hx
    exact h

theorem trimEnd_escape (cs : List Char) : trimEnd (escape cs) = escape (trimEnd cs) := by
  -- The induction goes from the end of the text to its front.
  suffices all : ∀ rs : List Char, trimEnd (escape rs.reverse) = escape (trimEnd rs.reverse) by
    simpa using all cs.reverse
  intro rs
  induction rs with
  | nil => rfl
  | cons c rs ih =>
    have all : escape (rs.reverse ++ [c]) = escape rs.reverse ++ escapeChar c := by
      rw [escape_append]
      simp [escape]
    rw [List.reverse_cons, all]
    rcases escapeChar_space c with ⟨space, written⟩ | ⟨visible, -, x, xs, written, last⟩
    · rw [written, trimEnd_concat_of_pos space, trimEnd_concat_of_pos space, ih]
    · rw [trimEnd_concat_of_neg visible, all, written, ← List.append_assoc,
        trimEnd_concat_of_neg last]

theorem unescape_trimEnd (cs : List Char) :
    unescape (trimEnd ((escape cs).dropWhile isSpace)) = some (strip cs) := by
  rw [dropWhile_escape, trimEnd_escape, unescape_escape, strip]

end

/-! ## Gaps -/

theorem trimFront_blank {raw : List Char} (h : ∀ c ∈ raw, isSpace c = true) (ts : List Token) :
    trimFront (Token.texts raw ++ ts) = trimFront ts := by
  unfold Token.texts
  split
  · rfl
  · show trimFront (.text raw :: ts) = _
    rw [trimFront, List.dropWhile_eq_nil_iff.2 h]

theorem trimFront_opening (tag : Tag) (ts : List Token) :
    trimFront (.opening tag :: ts) = .opening tag :: ts := rfl

theorem trimFront_closing (name : List Char) (ts : List Token) :
    trimFront (.closing name :: ts) = .closing name :: ts := rfl

namespace Cursor

/-- A cursor that has met nothing yet. -/
def fresh : Cursor := ⟨none, none, [], [], false, true⟩

/-- Nothing was put back, and these tokens are in front, behind white space that does not count. -/
def Stands (c : Cursor) (ts : List Token) : Prop :=
  ∃ scopes, c = fresh.goTo scopes (trimFront ts)

/-- The same, but for an event that was put back. -/
def Faces (c : Cursor) (ts : List Token) : Prop :=
  c.Stands ts ∨
    ∃ rest, { c with held := none }.Stands rest ∧
      ((∃ tag, c.held = some (.opening tag) ∧ trimFront ts = .opening tag :: rest) ∨
        ∃ name, c.held = some .closing ∧ trimFront ts = .closing name :: rest)

section

variable {c : Cursor} {e : Element} {name raw : List Char} {ts : List Token}

theorem stands_blank (h : ∀ x ∈ raw, isSpace x = true) :
    c.Stands (Token.texts raw ++ ts) ↔ c.Stands ts := by
  unfold Stands
  rw [trimFront_blank h]

theorem faces_blank (h : ∀ x ∈ raw, isSpace x = true) :
    c.Faces (Token.texts raw ++ ts) ↔ c.Faces ts := by
  unfold Faces
  rw [trimFront_blank h, stands_blank h]

/-- Where a cursor goes does not depend on where it comes from. -/
theorem goTo_eq (h : c.held = none) (trims : c.trims = true) (scopes : Scopes) :
    c.goTo scopes ts = fresh.goTo scopes ts := by
  obtain ⟨held, ahead, tokens, before, leaving, trims⟩ := c
  cases h
  cases trims
  unfold goTo
  split <;> (try split) <;> rfl

theorem stands_advance (h : c.held = none) (trims : c.trims = true) :
    c.advance.Stands c.tokens := by
  unfold advance
  rw [if_pos trims]
  exact ⟨_, goTo_eq h trims _⟩

/-- What a cursor knows of an opening tag ahead. -/
theorem Stands.opening (h : c.Stands (.opening e.tag :: ts)) :
    c.held = none ∧ c.ahead = some (.opening e.tag) ∧ c.tokens = ts ∧ c.trims = true := by
  obtain ⟨scopes, rfl⟩ := h
  rw [trimFront_opening, goTo, e.bindings?_tag]
  exact ⟨rfl, rfl, rfl, rfl⟩

theorem Stands.closing (h : c.Stands (.closing name :: ts)) :
    c.held = none ∧ c.ahead = some (.closing name) ∧ c.tokens = ts ∧ c.trims = true := by
  obtain ⟨scopes, rfl⟩ := h
  rw [trimFront_closing, goTo]
  exact ⟨rfl, rfl, rfl, rfl⟩

theorem next?_of_held (h : c.held = none) : c.next? = c.read? := by
  rw [next?, h]

theorem read?_opening {tag : Tag} (h : c.ahead = some (.opening tag)) :
    c.read? = some (.opening tag, c.advance) := by
  rw [read?.eq_def]
  split <;> simp_all

theorem read?_closing (h : c.ahead = some (.closing name)) :
    c.read? = some (.closing, c.advance) := by
  rw [read?.eq_def]
  split <;> simp_all

/-- A text that a tag follows is read as a whole. -/
theorem read?_text {cs : List Char} (h : c.ahead = some (.text raw))
    (next : c.advance.ahead = some (.closing name)) (visible : raw.all isSpace = false)
    (plain : unescape (trimEnd raw) = some cs) : c.read? = some (.text cs, c.advance) := by
  have ends : c.advance.isAtText = false := by
    unfold isAtText
    rw [next]
  have last : c.advance.run? cs = some (cs, c.advance) := by
    rw [run?.eq_def]
    split <;> simp_all
  have run : c.run? [] = some (cs, c.advance) := by
    rw [run?.eq_def]
    split <;> simp_all
  rw [read?.eq_def]
  split
  case h_7 raw' same =>
    cases h.symm.trans same
    rw [visible, Bool.false_and, if_neg Bool.false_ne_true, run]
    rfl
  all_goals simp_all

theorem Stands.next?_opening (h : c.Stands (.opening e.tag :: ts)) :
    ∃ c', c.next? = some (.opening e.tag, c') ∧ c'.Stands ts := by
  obtain ⟨held, ahead, rfl, trims⟩ := h.opening
  exact ⟨c.advance, (next?_of_held held).trans (read?_opening ahead), stands_advance held trims⟩

theorem Stands.next?_closing (h : c.Stands (.closing name :: ts)) :
    ∃ c', c.next? = some (.closing, c') ∧ c'.Stands ts := by
  obtain ⟨held, ahead, rfl, trims⟩ := h.closing
  exact ⟨c.advance, (next?_of_held held).trans (read?_closing ahead), stands_advance held trims⟩

theorem escape_eq_nil {cs : List Char} (h : escape cs = []) : cs = [] := by
  have same := unescape_escape cs
  rw [h] at same
  exact (Option.some.inj same).symm

/-- The text of an element comes without the white space at its ends, if there is anything else. -/
theorem Stands.next?_text {text : List Char}
    (h : c.Stands (Token.texts (escape text) ++ .closing name :: ts)) :
    (text.dropWhile isSpace = [] ∧ c.Stands (.closing name :: ts)) ∨
      (text.dropWhile isSpace ≠ [] ∧
        ∃ c', c.next? = some (.text (strip text), c') ∧ c'.Stands (.closing name :: ts)) := by
  by_cases nothing : text.dropWhile isSpace = []
  · refine .inl ⟨nothing, ?_⟩
    have dropped : trimFront (Token.texts (escape text) ++ .closing name :: ts) =
        trimFront (.closing name :: ts) := by
      unfold Token.texts
      split
      · rfl
      · show trimFront (.text (escape text) :: .closing name :: ts) = _
        rw [trimFront, dropWhile_escape, nothing]
        rfl
    unfold Stands at h ⊢
    rwa [dropped] at h
  · refine .inr ⟨nothing, ?_⟩
    cases raw : (escape text).dropWhile isSpace with
    | nil =>
      rw [dropWhile_escape] at raw
      exact (nothing (escape_eq_nil raw)).elim
    | cons x xs =>
      have front : trimFront (Token.texts (escape text) ++ .closing name :: ts) =
          .text (x :: xs) :: .closing name :: ts := by
        unfold Token.texts
        split
        · rename_i empty
          rw [List.isEmpty_iff.1 empty] at raw
          cases raw
        · show trimFront (.text (escape text) :: .closing name :: ts) = _
          rw [trimFront, raw]
      have visible : (x :: xs).all isSpace = false := by
        have first := List.head?_dropWhile_not isSpace (escape text)
        rw [raw] at first
        have first : isSpace x = false := by simpa using first
        simp [first]
      have plain : unescape (trimEnd (x :: xs)) = some (strip text) := by
        rw [← raw]
        exact unescape_trimEnd text
      obtain ⟨scopes, rfl⟩ := h
      rw [front]
      refine ⟨_, (next?_of_held rfl).trans (read?_text rfl rfl visible plain), scopes, rfl⟩

/-! ## Passing over -/

variable {h : Heading} {gaps : Gaps} {path : List Nat}

theorem dropElement?_texts (depth : Nat) :
    dropElement? name depth (Token.texts raw ++ ts) = dropElement? name depth ts := by
  unfold Token.texts
  split <;> rfl

/-- A closing tag takes back what its opening tag counted. -/
theorem dropElement?_counted (closed : List Char) (depth : Nat) :
    dropElement? name (if closed = name then depth + 1 else depth) (.closing closed :: ts) =
      dropElement? name depth ts := by
  by_cases same : closed = name
  · rw [if_pos same, dropElement?.eq_def]
    simp [same]
  · rw [if_neg same, dropElement?.eq_def]
    simp [same]

mutual

/-- What lies in an element does not matter when it is dropped. -/
theorem dropElement?_inside (path : List Nat) (depth : Nat) (ts : List Token) :
    (e : Element) → dropElement? name depth (inside gaps path e ++ ts) =
      dropElement? name depth (.closing e.tag.name :: ts)
  | .empty h => by
    rw [inside]
    rfl
  | .leaf h text => by
    rw [inside, List.append_assoc, dropElement?_texts]
    rfl
  | .node h children => by
    rw [inside]
    exact dropElement?_insideFrom path h 0 depth ts children

theorem dropElement?_insideFrom (path : List Nat) (h : Heading) (i depth : Nat) (ts : List Token) :
    (es : List Element) → dropElement? name depth (insideFrom gaps path h i es ++ ts) =
      dropElement? name depth (.closing h.name.chars :: ts)
  | [] => by
    rw [insideFrom, List.append_assoc, dropElement?_texts]
    rfl
  | e :: es => by
    have opens (ts : List Token) : dropElement? name depth (.opening e.tag :: ts) =
        dropElement? name (if e.tag.name = name then depth + 1 else depth) ts := by
      rw [dropElement?]
    rw [insideFrom, List.append_assoc, dropElement?_texts, List.cons_append, List.append_assoc,
      opens, dropElement?_inside, dropElement?_counted]
    exact dropElement?_insideFrom path h (i + 1) depth ts es

end

theorem dropElement?_own (ts : List Token) :
    dropElement? name 0 (.closing name :: ts) = some ts := by
  rw [dropElement?.eq_def]
  simp

/-- A cursor that is somewhere between the children of an element is brought behind it. -/
theorem Stands.pass?_insideFrom {i : Nat} {es : List Element}
    (hc : c.Stands (insideFrom gaps path h i es ++ ts)) :
    ∃ c', c.pass? h.name.chars = some c' ∧ c'.Stands ts := by
  cases es with
  | nil =>
    rw [insideFrom, List.append_assoc, stands_blank (gaps.blank _)] at hc
    obtain ⟨held, ahead, rfl, trims⟩ := hc.closing
    refine ⟨c.advance, ?_, stands_advance held trims⟩
    rw [pass?, ahead]
  | cons e es =>
    rw [insideFrom, List.append_assoc, stands_blank (gaps.blank _), List.cons_append,
      List.append_assoc] at hc
    obtain ⟨held, ahead, tokens, trims⟩ := hc.opening
    have dropped : dropElement? h.name.chars (if e.tag.name = h.name.chars then 1 else 0) c.tokens =
        some ts := by
      rw [tokens, dropElement?_inside]
      refine (dropElement?_counted e.tag.name 0).trans ?_
      rw [dropElement?_insideFrom, dropElement?_own]
    refine ⟨({ c with tokens := ts } : Cursor).advance, ?_, ?_⟩
    · rw [pass?, ahead]
      dsimp only
      rw [dropped]
      rfl
    · exact stands_advance (c := { c with tokens := ts }) held trims

theorem Stands.pass?_closing (hc : c.Stands (.closing name :: ts)) :
    ∃ c', c.pass? name = some c' ∧ c'.Stands ts := by
  obtain ⟨held, ahead, rfl, trims⟩ := hc.closing
  refine ⟨c.advance, ?_, stands_advance held trims⟩
  rw [pass?, ahead]

theorem leave?_closing {c' : Cursor} {tag : Tag} (h : c.next? = some (.closing, c')) :
    c.leave? tag = some c' := by
  rw [leave?, h]

theorem leave?_text {c' : Cursor} {tag : Tag} {cs : List Char} (h : c.next? = some (.text cs, c')) :
    c.leave? tag = c'.pass? tag.name := by
  rw [leave?, h]

theorem leave?_opening {c' : Cursor} {tag inner : Tag} (h : c.next? = some (.opening inner, c')) :
    c.leave? tag = (c'.pass? inner.name).bind (pass? tag.name) := by
  rw [leave?, h]

end

end Cursor

namespace Element

/-- No text stands at the front of the element's first child; elements that are passed over are like
that. -/
def IsPassable : Element → Prop
  | node _ (leaf .. :: _) => False
  | _ => True

variable {c : Cursor} {gaps : Gaps} {path : List Nat} {ts : List Token}

theorem pass?_inside {e : Element} (tight : ∀ h text, e ≠ leaf h text)
    (hc : c.Stands (inside gaps path e ++ ts)) :
    ∃ c', c.pass? e.tag.name = some c' ∧ c'.Stands ts := by
  cases e with
  | empty h =>
    rw [inside] at hc
    exact Cursor.Stands.pass?_closing hc
  | leaf h text => exact (tight h text rfl).elim
  | node h children =>
    rw [inside] at hc
    exact hc.pass?_insideFrom

/-- An element that is passed over is left behind. -/
theorem passOver_inside {e : Element} (passable : e.IsPassable)
    (hc : c.Stands (inside gaps path e ++ ts)) :
    ∃ c', passOver e.tag c = .ok ((), c') ∧ c'.Stands ts := by
  suffices left : ∃ c', c.leave? e.tag = some c' ∧ c'.Stands ts by
    obtain ⟨c', left, stands⟩ := left
    exact ⟨c', by rw [passOver, left]; rfl, stands⟩
  cases e with
  | empty h =>
    rw [inside] at hc
    obtain ⟨c', next, stands⟩ := Cursor.Stands.next?_closing hc
    exact ⟨c', Cursor.leave?_closing next, stands⟩
  | leaf h text =>
    rw [inside, List.append_assoc] at hc
    rcases Cursor.Stands.next?_text hc with ⟨-, hc⟩ | ⟨-, c₁, next, hc⟩
    · obtain ⟨c', next, stands⟩ := hc.next?_closing
      exact ⟨c', Cursor.leave?_closing next, stands⟩
    · rw [Cursor.leave?_text next]
      exact hc.pass?_closing
  | node h children =>
    rw [inside] at hc
    cases children with
    | nil =>
      rw [insideFrom, List.append_assoc, Cursor.stands_blank (gaps.blank _)] at hc
      obtain ⟨c', next, stands⟩ := Cursor.Stands.next?_closing hc
      exact ⟨c', Cursor.leave?_closing next, stands⟩
    | cons first later =>
      rw [insideFrom, List.append_assoc, Cursor.stands_blank (gaps.blank _), List.cons_append,
        List.append_assoc] at hc
      obtain ⟨c₁, next, stands₁⟩ := hc.next?_opening
      have tight : ∀ h text, first ≠ leaf h text := by
        rintro h text rfl
        exact passable
      obtain ⟨c₂, passed, stands₂⟩ := pass?_inside tight stands₁
      obtain ⟨c', left, stands⟩ := stands₂.pass?_insideFrom
      refine ⟨c', ?_, stands⟩
      rw [Cursor.leave?_opening next, passed]
      exact left

end Element

/-! ## Events that were put back -/

namespace Cursor

section

variable {c : Cursor} {e : Element} {name : List Char} {ts : List Token}

theorem Stands.faces (h : c.Stands ts) : c.Faces ts := .inl h

theorem next?_of_put {event : Event} (h : c.held = some event) :
    c.next? = some (event, { c with held := none }) := by
  rw [next?, h]

theorem Faces.next?_opening (h : c.Faces (.opening e.tag :: ts)) :
    ∃ c', c.next? = some (.opening e.tag, c') ∧ c'.Stands ts := by
  rcases h with h | ⟨rest, stands, ⟨tag, held, front⟩ | ⟨name, held, front⟩⟩
  · exact h.next?_opening
  · cases front
    exact ⟨_, next?_of_put held, stands⟩
  · cases front

theorem Faces.next?_closing (h : c.Faces (.closing name :: ts)) :
    ∃ c', c.next? = some (.closing, c') ∧ c'.Stands ts := by
  rcases h with h | ⟨rest, stands, ⟨tag, held, front⟩ | ⟨name, held, front⟩⟩
  · exact h.next?_closing
  · cases front
  · cases front
    exact ⟨_, next?_of_put held, stands⟩

theorem Stands.held (h : c.Stands ts) : c.held = none := by
  obtain ⟨scopes, rfl⟩ := h
  unfold goTo
  split <;> (try split) <;> rfl

theorem Stands.putBack_opening (h : c.Stands ts) :
    (c.putBack (.opening e.tag)).Faces (.opening e.tag :: ts) := by
  have held := h.held
  refine .inr ⟨ts, ?_, .inl ⟨e.tag, rfl, rfl⟩⟩
  obtain ⟨_, ahead, tokens, scopes, leaving, trims⟩ := c
  cases held
  exact h

theorem Stands.putBack_closing (h : c.Stands ts) :
    (c.putBack .closing).Faces (.closing name :: ts) := by
  have held := h.held
  refine .inr ⟨ts, ?_, .inr ⟨name, rfl, rfl⟩⟩
  obtain ⟨_, ahead, tokens, scopes, leaving, trims⟩ := c
  cases held
  exact h

end

end Cursor

/-! ## How much is left -/

theorem Element.length_insideFrom (gaps : Gaps) (path : List Nat) (h : Heading) (i : Nat)
    (es : List Element) : es.length < (insideFrom gaps path h i es).length := by
  induction es generalizing i with
  | nil =>
    rw [insideFrom, List.length_append, List.length_singleton]
    exact Nat.lt_of_lt_of_le Nat.zero_lt_one (Nat.le_add_left _ _)
  | cons e es ih =>
    have := ih (i + 1)
    rw [insideFrom]
    simp only [List.length_append, List.length_cons]
    omega

/-- The children of an element are fewer than the tokens that are left. -/
theorem Cursor.Stands.length_lt_size {c : Cursor} {gaps : Gaps} {path : List Nat} {h : Heading}
    {i : Nat} {es : List Element} {ts : List Token}
    (hc : c.Stands (insideFrom gaps path h i es ++ ts)) : es.length < c.size := by
  cases es with
  | nil =>
    rw [insideFrom, List.append_assoc, stands_blank (gaps.blank _)] at hc
    have ahead := Stands.closing hc |>.2.1
    simp [size, ahead]
  | cons e es =>
    rw [insideFrom, List.append_assoc, stands_blank (gaps.blank _), List.cons_append,
      List.append_assoc] at hc
    obtain ⟨-, ahead, tokens, -⟩ := hc.opening
    have := length_insideFrom gaps path h (i + 1) es
    simp only [size, ahead, tokens, Option.toList_some, List.length_append, List.length_cons,
      List.length_nil]
    omega

end Registrar.Xml
