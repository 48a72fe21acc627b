import Mathlib.Data.List.TakeWhile
import Registrar.Xml.Entity
import Registrar.Xml.Scope

/-!
# Writing a document

An `Element` is a tree of headings and texts, and `Element.document` writes it, with any white space
between its tags. What is written is cut into the tokens that it was made of (`scan_document`): a
name is made of letters and digits, a value is escaped, so none of them holds a mark of the markup.
`Heading.entries_tag` gives the attributes back.
-/

namespace Registrar.Xml

/-! ## Elements -/

/-- A name of letters and digits. -/
structure Name where
  text : String
  given : text.toList ≠ []
  plain : text.toList.all Char.isAlphanum = true

namespace Name

def of (text : String) (given : text.toList ≠ [] := by decide +kernel)
    (plain : text.toList.all Char.isAlphanum = true := by decide +kernel) : Name :=
  ⟨text, given, plain⟩

def chars (n : Name) : List Char := n.text.toList

end Name

/-- What an opening tag says. -/
structure Heading where
  name : Name
  attributes : List (Name × String)
  distinct : (attributes.map fun a => a.1.text).Nodup

inductive Element
  /-- An element whose tag closes it. -/
  | empty (heading : Heading)
  | leaf (heading : Heading) (text : String)
  | node (heading : Heading) (children : List Element)

namespace Heading

/-- A heading without attributes. -/
def plain (name : Name) : Heading := ⟨name, [], List.nodup_nil⟩

/-- A heading with one attribute. -/
def single (name key : Name) (value : String) : Heading :=
  ⟨name, [(key, value)], List.pairwise_singleton _ _⟩

def writeAttribute (a : Name × String) : List Char :=
  ' ' :: (a.1.chars ++ '=' :: '"' :: (escape a.2.toList ++ ['"']))

def writeAttributes (h : Heading) : List Char := h.attributes.flatMap writeAttribute

def opening (h : Heading) : List Char := '<' :: (h.name.chars ++ h.writeAttributes ++ ['>'])

def closing (h : Heading) : List Char := '<' :: '/' :: (h.name.chars ++ ['>'])

/-- The tag that is read. -/
def tag (h : Heading) : Tag := ⟨h.name.chars, h.writeAttributes⟩

/-- The tag that is read where the opening tag closes the element, too. -/
def emptyTag (h : Heading) : Tag := ⟨h.name.chars, h.writeAttributes ++ [' ']⟩

end Heading

/-- White space, one piece for each place between two tags; a place is the path to it. -/
structure Gaps where
  chars : List Nat → List Char
  blank : ∀ path, ∀ c ∈ chars path, isSpace c = true

/-- Every tag stands on a line of its own. -/
def Gaps.lines : Gaps where
  chars path := '\n' :: List.replicate (2 * path.length) ' '
  blank path c hc := by
    rcases List.mem_cons.1 hc with rfl | hc
    · rfl
    · rw [List.eq_of_mem_replicate hc]
      rfl

/-- The token of a text, if there is any text. -/
def Token.texts (raw : List Char) : List Token :=
  if raw.isEmpty then [] else [.text raw]

namespace Element

/-- An element around others; without them its tag closes it. -/
def around (h : Heading) : List Element → Element
  | [] => empty h
  | es => node h es

def heading : Element → Heading
  | empty h | leaf h _ | node h _ => h

@[simp] theorem heading_around (h : Heading) (es : List Element) : (around h es).heading = h := by
  cases es <;> rfl

def tag : Element → Tag
  | empty h => h.emptyTag
  | leaf h _ | node h _ => h.tag

mutual

/-- The element at a path. -/
def write (gaps : Gaps) (path : List Nat) : Element → List Char
  | empty h => '<' :: (h.name.chars ++ h.writeAttributes ++ [' ', '/', '>'])
  | leaf h text => h.opening ++ (escape text.toList ++ h.closing)
  | node h children => h.opening ++ writeRest gaps path h 0 children

/-- The children of an element from the one with this number on, and its closing tag. -/
def writeRest (gaps : Gaps) (path : List Nat) (h : Heading) (i : Nat) : List Element → List Char
  | [] => gaps.chars (i :: path) ++ h.closing
  | e :: es =>
    gaps.chars (i :: path) ++ (write gaps (i :: path) e ++ writeRest gaps path h (i + 1) es)

end

mutual

/-- The tokens behind the opening tag of the element at a path. -/
def inside (gaps : Gaps) (path : List Nat) : Element → List Token
  | empty h => [.closing h.name.chars]
  | leaf h text => Token.texts (escape text.toList) ++ [.closing h.name.chars]
  | node h children => insideFrom gaps path h 0 children

/-- The tokens of the children from the one with this number on, and of the closing tag. -/
def insideFrom (gaps : Gaps) (path : List Nat) (h : Heading) (i : Nat) :
    List Element → List Token
  | [] => Token.texts (gaps.chars (i :: path)) ++ [.closing h.name.chars]
  | e :: es =>
    Token.texts (gaps.chars (i :: path)) ++
      .opening e.tag :: (inside gaps (i :: path) e ++ insideFrom gaps path h (i + 1) es)

end

/-- What stands before the root element. -/
def declaration : List Char := "<?xml version=\"1.0\" encoding=\"utf-8\"?>".toList

def document (gaps : Gaps) (root : Element) : String :=
  String.ofList (declaration ++ (gaps.chars [] ++ write gaps [] root))

end Element

/-! ## Characters -/

namespace Name

variable {n : Name} {c : Char}

theorem ne_of_mem (h : c ∈ n.chars) {mark : Char} (hm : mark.isAlphanum = false) : c ≠ mark := by
  rintro rfl
  rw [List.all_eq_true.1 n.plain c h] at hm
  cases hm

theorem not_isSpace (h : c ∈ n.chars) : isSpace c = false := by
  simp [isSpace, ne_of_mem h]

end Name

/-- A text that does not end in white space. -/
theorem trimEnd_eq_self {cs : List Char} (h : ∀ c, cs.getLast? = some c → isSpace c = false) :
    trimEnd cs = cs := by
  rcases List.eq_nil_or_concat cs with rfl | ⟨ds, c, rfl⟩
  · rfl
  · rw [List.concat_eq_append] at h ⊢
    have last := h c List.getLast?_concat
    simp [trimEnd, last]

theorem escapeChar_safe (x : Char) :
    ∀ c ∈ escapeChar x, c ≠ '<' ∧ c ≠ '>' ∧ c ≠ '"' ∧ c ≠ '\'' := by
  unfold escapeChar
  repeat' split
  case isFalse.isFalse.isFalse.isFalse.isFalse => simp_all
  all_goals simp

theorem escape_safe {cs : List Char} {c : Char} (h : c ∈ escape cs) :
    c ≠ '<' ∧ c ≠ '>' ∧ c ≠ '"' ∧ c ≠ '\'' := by
  obtain ⟨x, -, hx⟩ := List.mem_flatMap.1 h
  exact escapeChar_safe x c hx

/-! ## Tags -/

/-- What stands before a mark whose first character it does not hold. -/
theorem splitAt?_append {m : Char} {mark cs : List Char} (h : m ∉ cs) (rest : List Char) :
    splitAt? (m :: mark) (cs ++ (m :: mark ++ rest)) = some (cs, rest) := by
  induction cs with
  | nil =>
    have head : (m :: mark).isPrefixOf (m :: (mark ++ rest)) = true := by
      rw [List.isPrefixOf_iff_prefix]
      exact List.prefix_append (m :: mark) rest
    show splitAt? (m :: mark) (m :: (mark ++ rest)) = _
    rw [splitAt?, if_pos head]
    simp
  | cons c cs ih =>
    rw [List.mem_cons, not_or] at h
    have other : ¬(m :: mark).isPrefixOf (c :: (cs ++ (m :: mark ++ rest))) = true := by
      simp [List.isPrefixOf, h.1]
    rw [List.cons_append, splitAt?, if_neg other, ih h.2]
    rfl

/-- No mark in this part of a tag ends it, and none of its quotes is left open. -/
def Shut (cs : List Char) : Prop :=
  ∀ rest, splitTag? none (cs ++ rest) = (splitTag? none rest).map fun p => (cs ++ p.1, p.2)

theorem Shut.append {cs ds : List Char} (hc : Shut cs) (hd : Shut ds) : Shut (cs ++ ds) := by
  intro rest
  rw [List.append_assoc, hc, hd, Option.map_map]
  simp [Function.comp_def]

theorem shut_plain {cs : List Char} (h : ∀ c ∈ cs, c ≠ '>' ∧ c ≠ '"' ∧ c ≠ '\'') : Shut cs := by
  intro rest
  induction cs with
  | nil => simp
  | cons c cs ih =>
    obtain ⟨⟨h₁, h₂, h₃⟩, hs⟩ := List.forall_mem_cons.1 h
    rw [List.cons_append, splitTag?]
    simp only [beq_iff_eq, h₁, h₂, h₃, Bool.or_eq_true, or_self, if_false, ih hs, Option.map_map]
    rfl

theorem shut_quoted {cs : List Char} (h : ∀ c ∈ cs, c ≠ '"') : Shut ('"' :: (cs ++ ['"'])) := by
  have closes (rest : List Char) : splitTag? (some '"') (cs ++ '"' :: rest) =
      (splitTag? none rest).map fun p => (cs ++ '"' :: p.1, p.2) := by
    induction cs with
    | nil => simp [splitTag?]
    | cons c cs ih =>
      obtain ⟨hc, hs⟩ := List.forall_mem_cons.1 h
      rw [List.cons_append, splitTag?]
      simp only [beq_iff_eq, hc, if_false, ih hs, Option.map_map]
      rfl
  intro rest
  have all : '"' :: (cs ++ ['"']) ++ rest = '"' :: (cs ++ '"' :: rest) := by simp
  rw [all, splitTag?]
  simp [closes, Function.comp_def]

namespace Heading

variable (h : Heading)

theorem shut_name (n : Name) : Shut n.chars :=
  shut_plain fun _ hc => ⟨n.ne_of_mem hc rfl, n.ne_of_mem hc rfl, n.ne_of_mem hc rfl⟩

theorem shut_writeAttribute (a : Name × String) : Shut (writeAttribute a) := by
  have pieces : writeAttribute a =
      [' '] ++ (a.1.chars ++ (['='] ++ ('"' :: (escape a.2.toList ++ ['"'])))) := by
    simp [writeAttribute]
  rw [pieces]
  have value : Shut ('"' :: (escape a.2.toList ++ ['"'])) :=
    shut_quoted fun c hc => (escape_safe hc).2.2.1
  exact (shut_plain (by simp)).append
    ((shut_name a.1).append ((shut_plain (by simp)).append value))

theorem shut_writeAttributes : Shut h.writeAttributes := by
  unfold writeAttributes
  induction h.attributes with
  | nil => exact shut_plain nofun
  | cons a as ih => exact (shut_writeAttribute a).append ih

theorem splitTag?_content {cs : List Char} (h : Shut cs) (rest : List Char) :
    splitTag? none (cs ++ '>' :: rest) = some (cs, rest) := by
  rw [h, splitTag?]
  simp

/-- The name of a tag ends where its attributes begin. -/
theorem ofContent_append (n : Name) {cs : List Char} (h : cs = [] ∨ ∃ ds, cs = ' ' :: ds) :
    Tag.ofContent (n.chars ++ cs) = ⟨n.chars, cs⟩ := by
  have name : ∀ c ∈ n.chars, (!isSpace c) = true := fun c hc => by simp [n.not_isSpace hc]
  unfold Tag.ofContent
  rw [List.takeWhile_append_of_pos name, List.dropWhile_append_of_pos name]
  rcases h with rfl | ⟨ds, rfl⟩
  · simp
  · simp [isSpace]

theorem writeAttributes_cases : h.writeAttributes = [] ∨ ∃ ds, h.writeAttributes = ' ' :: ds := by
  unfold writeAttributes
  cases h.attributes with
  | nil => exact .inl rfl
  | cons a as => exact .inr ⟨_, rfl⟩

/-- A tag with a value at its end does not close its element, whatever the value ends with. -/
theorem getLast?_content : (h.name.chars ++ h.writeAttributes).getLast? ≠ some '/' := by
  unfold writeAttributes
  rcases List.eq_nil_or_concat h.attributes with none | ⟨as, a, some⟩
  · rw [none, List.flatMap_nil, List.append_nil]
    exact fun last => h.name.ne_of_mem (List.mem_of_getLast? last) rfl rfl
  · rw [some]
    have quoted : (as ++ [a]).flatMap writeAttribute = (as.flatMap writeAttribute ++
        ' ' :: (a.1.chars ++ '=' :: '"' :: escape a.2.toList)) ++ ['"'] := by
      simp [writeAttribute]
    rw [List.concat_eq_append, quoted, ← List.append_assoc, List.getLast?_concat]
    decide

/-- What begins with a letter or a digit is the content of an opening tag. -/
theorem markup?_content (n : Name) (cs rest : List Char) (shut : Shut (n.chars ++ cs)) :
    Token.markup? (n.chars ++ cs ++ '>' :: rest) = some (Token.ofTag (n.chars ++ cs), rest) := by
  have content := splitTag?_content shut rest
  have known {c : Char} (hc : c ∈ n.chars) : c ≠ '!' ∧ c ≠ '?' ∧ c ≠ '/' :=
    ⟨n.ne_of_mem hc rfl, n.ne_of_mem hc rfl, n.ne_of_mem hc rfl⟩
  obtain ⟨c, ds, named⟩ : ∃ c ds, n.chars = c :: ds := List.exists_cons_of_ne_nil n.given
  obtain ⟨bang, question, slash⟩ := known (named ▸ List.mem_cons_self)
  rw [named] at content ⊢
  rw [Token.markup?.eq_def]
  simp only [List.cons_append] at content ⊢
  split <;> simp_all

theorem markup?_opening (rest : List Char) :
    Token.markup? (h.name.chars ++ h.writeAttributes ++ '>' :: rest) =
      some ([.opening h.tag], rest) := by
  rw [markup?_content _ _ _ ((shut_name h.name).append h.shut_writeAttributes), Token.ofTag,
    if_neg (by simpa using h.getLast?_content), ofContent_append _ h.writeAttributes_cases]
  rfl

theorem markup?_empty (rest : List Char) :
    Token.markup? (h.name.chars ++ (h.writeAttributes ++ [' ', '/']) ++ '>' :: rest) =
      some ([.opening h.emptyTag, .closing h.name.chars], rest) := by
  have shut : Shut (h.name.chars ++ (h.writeAttributes ++ [' ', '/'])) :=
    (shut_name h.name).append (h.shut_writeAttributes.append (shut_plain (by simp)))
  have content : h.name.chars ++ (h.writeAttributes ++ [' ', '/']) =
      (h.name.chars ++ (h.writeAttributes ++ [' '])) ++ ['/'] := by simp
  have blank : h.writeAttributes ++ [' '] = [] ∨ ∃ ds, h.writeAttributes ++ [' '] = ' ' :: ds := by
    rcases h.writeAttributes_cases with none | ⟨ds, some⟩
    · exact .inr ⟨[], by rw [none]; rfl⟩
    · exact .inr ⟨ds ++ [' '], by rw [some]; rfl⟩
  rw [markup?_content _ _ _ shut, Token.ofTag, content, List.getLast?_concat,
    if_pos (beq_self_eq_true _), List.dropLast_concat, ofContent_append _ blank]
  rfl

theorem markup?_closing (rest : List Char) :
    Token.markup? ('/' :: (h.name.chars ++ '>' :: rest)) =
      some ([.closing h.name.chars], rest) := by
  have name : trimEnd h.name.chars = h.name.chars :=
    trimEnd_eq_self fun c hc => h.name.not_isSpace (List.mem_of_getLast? hc)
  rw [Token.markup?, splitTag?_content (shut_name h.name)]
  simp [name]

end Heading

/-! ## Cutting -/

theorem Token.scanWithin_succ_markup (fuel : Nat) (cs : List Char) :
    scanWithin (fuel + 1) ('<' :: cs) =
      match markup? cs with
      | none => [.broken]
      | some (tokens, rest) => tokens ++ scanWithin fuel rest := rfl

theorem Token.scanWithin_succ_text {c : Char} (h : c ≠ '<') (fuel : Nat) (cs : List Char) :
    scanWithin (fuel + 1) (c :: cs) =
      .text ((c :: cs).takeWhile (· != '<')) ::
        scanWithin fuel ((c :: cs).dropWhile (· != '<')) := by
  rw [scanWithin.eq_def]
  split <;> simp_all

/-- These characters are cut into these tokens, whatever follows and with any fuel that would do for
all of it. -/
def Cut (cs : List Char) (ts : List Token) : Prop :=
  ∀ rest fuel, (cs ++ rest).length ≤ fuel → ∃ left, rest.length ≤ left ∧
    Token.scanWithin fuel (cs ++ rest) = ts ++ Token.scanWithin left rest

theorem Cut.append {cs ds : List Char} {ts us : List Token} (hc : Cut cs ts) (hd : Cut ds us) :
    Cut (cs ++ ds) (ts ++ us) := by
  intro rest fuel h
  rw [List.append_assoc] at h ⊢
  obtain ⟨left, h, hts⟩ := hc _ fuel h
  obtain ⟨left', h', hus⟩ := hd rest left h
  exact ⟨left', h', by rw [hts, hus, List.append_assoc]⟩

theorem cut_markup {cs : List Char} {ts : List Token}
    (h : ∀ rest, Token.markup? (cs ++ rest) = some (ts, rest)) : Cut ('<' :: cs) ts := by
  intro rest fuel hfuel
  cases fuel with
  | zero => cases hfuel
  | succ fuel =>
    refine ⟨fuel, ?_, ?_⟩
    · simp only [List.cons_append, List.length_cons, List.length_append] at hfuel
      omega
    · rw [List.cons_append, Token.scanWithin_succ_markup, h]

/-- A text reaches up to the next tag. -/
theorem Cut.text {raw cs : List Char} {ts : List Token} (hraw : ∀ c ∈ raw, c ≠ '<')
    (h : Cut ('<' :: cs) ts) : Cut (raw ++ '<' :: cs) (Token.texts raw ++ ts) := by
  cases raw with
  | nil => exact h
  | cons c raw =>
    intro rest fuel hfuel
    cases fuel with
    | zero => cases hfuel
    | succ fuel =>
      have stops (x : Char) (hx : x ∈ c :: raw) : (x != '<') = true := by simp [hraw x hx]
      have less : ('<' :: cs ++ rest).length ≤ fuel := by
        simp only [List.cons_append, List.length_cons, List.length_append] at hfuel ⊢
        omega
      obtain ⟨left, hleft, hts⟩ := h rest fuel less
      refine ⟨left, hleft, ?_⟩
      rw [List.append_assoc, List.cons_append,
        Token.scanWithin_succ_text (hraw c List.mem_cons_self), ← List.cons_append,
        List.takeWhile_append_of_pos stops, List.dropWhile_append_of_pos stops]
      simpa [Token.texts] using hts

namespace Element

variable (gaps : Gaps)

theorem exists_write (path : List Nat) (e : Element) : ∃ cs, write gaps path e = '<' :: cs := by
  cases e with
  | empty h => exact ⟨_, by rw [write]⟩
  | leaf h text => exact ⟨_, by rw [write, Heading.opening]; rfl⟩
  | node h children => exact ⟨_, by rw [write, Heading.opening]; rfl⟩

theorem cut_opening (h : Heading) : Cut h.opening [.opening h.tag] := by
  refine cut_markup fun rest => ?_
  rw [List.append_assoc]
  exact h.markup?_opening rest

theorem cut_closing (h : Heading) : Cut h.closing [.closing h.name.chars] := by
  refine cut_markup fun rest => ?_
  simpa using h.markup?_closing rest

theorem ne_of_gap {path : List Nat} {c : Char} (h : c ∈ gaps.chars path) : c ≠ '<' := by
  rintro rfl
  cases gaps.blank path _ h

mutual

theorem cut_write (path : List Nat) :
    (e : Element) → Cut (write gaps path e) (.opening e.tag :: inside gaps path e)
  | empty h => by
    rw [write, inside, tag]
    refine cut_markup fun rest => ?_
    simpa using h.markup?_empty rest
  | leaf h text => by
    rw [write, inside, tag]
    have safe : ∀ c ∈ escape text.toList, c ≠ '<' := fun c hc => (escape_safe hc).1
    exact (cut_opening h).append (Cut.text safe (cut_closing h))
  | node h children => by
    rw [write, inside, tag]
    exact (cut_opening h).append (cut_writeRest path h 0 children)

theorem cut_writeRest (path : List Nat) (h : Heading) (i : Nat) :
    (es : List Element) → Cut (writeRest gaps path h i es) (insideFrom gaps path h i es)
  | [] => by
    rw [writeRest, insideFrom]
    exact Cut.text (fun c => ne_of_gap gaps) (cut_closing h)
  | e :: es => by
    rw [writeRest, insideFrom]
    have later := (cut_write (i :: path) e).append (cut_writeRest path h (i + 1) es)
    obtain ⟨cs, hcs⟩ := exists_write gaps (i :: path) e
    rw [hcs] at later ⊢
    exact Cut.text (fun c => ne_of_gap gaps) later

end

/-- A text closes nothing. -/
theorem matched_texts (outer : List (List Char)) (raw : List Char) (ts : List Token) :
    Token.matched outer (Token.texts raw ++ ts) = Token.texts raw ++ Token.matched outer ts := by
  unfold Token.texts
  split
  · rfl
  · cases outer <;> rfl

/-- What is left of an element without children closes it. -/
theorem matched_closing (name raw : List Char) (outer : List (List Char)) (ts : List Token) :
    Token.matched (name :: outer) (Token.texts raw ++ [.closing name] ++ ts) =
      Token.texts raw ++ [.closing name] ++ Token.matched outer ts := by
  have closes : Token.matched (name :: outer) (.closing name :: ts) =
      .closing name :: Token.matched outer ts := if_pos rfl
  rw [List.append_assoc, matched_texts, List.singleton_append, closes]
  simp

mutual

/-- Every closing tag closes the element around it. -/
theorem matched_inside (path : List Nat) (outer : List (List Char)) (ts : List Token) :
    (e : Element) → Token.matched (e.tag.name :: outer) (inside gaps path e ++ ts) =
      inside gaps path e ++ Token.matched outer ts
  | empty h => by
    rw [inside]
    exact matched_closing h.name.chars [] outer ts
  | leaf h text => by
    rw [inside]
    exact matched_closing h.name.chars (escape text.toList) outer ts
  | node h children => by
    rw [inside]
    exact matched_insideFrom path h 0 outer ts children

theorem matched_insideFrom (path : List Nat) (h : Heading) (i : Nat) (outer : List (List Char))
    (ts : List Token) : (es : List Element) →
      Token.matched (h.name.chars :: outer) (insideFrom gaps path h i es ++ ts) =
        insideFrom gaps path h i es ++ Token.matched outer ts
  | [] => by
    rw [insideFrom]
    exact matched_closing ..
  | e :: es => by
    rw [insideFrom, List.append_assoc, matched_texts, List.cons_append, List.append_assoc]
    have opens (ts : List Token) : Token.matched (h.name.chars :: outer) (.opening e.tag :: ts) =
        .opening e.tag :: Token.matched (e.tag.name :: h.name.chars :: outer) ts := rfl
    rw [opens, matched_inside, matched_insideFrom path h (i + 1) outer ts es]
    simp

end

theorem cut_declaration : Cut declaration [] := by
  let version := "ml version=\"1.0\" encoding=\"utf-8\"".toList
  have all : declaration = '<' :: ('?' :: 'x' :: (version ++ ['?', '>'])) := by decide +kernel
  have inner : '?' ∉ 'x' :: version := by decide +kernel
  rw [all]
  refine cut_markup fun rest => ?_
  have ends := @splitAt?_append '?' ['>'] ('x' :: version) inner rest
  simp only [List.cons_append, List.append_assoc, List.nil_append, Token.markup?] at ends ⊢
  rw [if_neg (by simp), ends]
  rfl

/-- A document is cut into the tokens that it was made of. -/
theorem scan_document (root : Element) :
    Token.scan (document gaps root).toList =
      Token.texts (gaps.chars []) ++ .opening root.tag :: inside gaps [] root := by
  obtain ⟨cs, hcs⟩ := exists_write gaps [] root
  have body : Cut (gaps.chars [] ++ write gaps [] root)
      (Token.texts (gaps.chars []) ++ .opening root.tag :: inside gaps [] root) := by
    have written := cut_write gaps [] root
    rw [hcs] at written ⊢
    exact Cut.text (fun c => ne_of_gap gaps) written
  let whole := declaration ++ (gaps.chars [] ++ write gaps [] root)
  obtain ⟨left, -, cut⟩ := cut_declaration.append body [] whole.length (by simp [whole])
  have ends : Token.scanWithin left [] = [] := by cases left <;> rfl
  rw [ends, List.append_nil, List.append_nil, List.nil_append] at cut
  have unmarked : ¬(whole.head? == some '\ufeff') = true := by
    have first : declaration = '<' :: declaration.tail := by decide +kernel
    simp only [whole]
    rw [first]
    simp
  have scanned : Token.scan whole = Token.matched [] (Token.scanWithin whole.length whole) := by
    simp only [Token.scan, if_neg unmarked]
  rw [document, String.toList_ofList]
  refine scanned.trans ?_
  rw [cut, matched_texts]
  have opens : Token.matched [] (.opening root.tag :: inside gaps [] root) =
      .opening root.tag :: Token.matched [root.tag.name] (inside gaps [] root ++ []) := by
    rw [List.append_nil]
    rfl
  rw [opens, matched_inside]
  simp [Token.matched]

end Element

/-! ## Attributes -/

namespace Heading

open Attribute

variable (h : Heading)

theorem splitValue_quoted {value : List Char} (safe : '"' ∉ value) (rest : List Char) :
    splitValue ('"' :: (value ++ '"' :: rest)) = (some value, rest) := by
  have ends : splitAt? ['"'] (value ++ '"' :: rest) = some (value, rest) :=
    splitAt?_append safe rest
  have here : ('"' :: (value ++ '"' :: rest)).dropWhile isSpace = '"' :: (value ++ '"' :: rest) :=
    rfl
  unfold splitValue
  rw [here]
  simp [ends]

/-- An attribute that is written is read, unless its name was read before. -/
theorem entriesWithin_writeAttribute (distinct : Bool) (fuel : Nat) (seen : List (List Char))
    (a : Name × String) (rest : List Char) :
    entriesWithin distinct (fuel + 1) seen (writeAttribute a ++ rest) =
      (if distinct && seen.contains a.1.chars then none
        else some ⟨a.1.chars, escape a.2.toList⟩) ::
        entriesWithin distinct fuel (a.1.chars :: seen) rest := by
  obtain ⟨c, cs, named⟩ : ∃ c cs, a.1.chars = c :: cs := List.exists_cons_of_ne_nil a.1.given
  have first : isSpace c = false := a.1.not_isSpace (named ▸ List.mem_cons_self)
  let value := escape a.2.toList
  let behind := '=' :: '"' :: (value ++ '"' :: rest)
  have start : (writeAttribute a ++ rest).dropWhile isSpace = c :: (cs ++ behind) := by
    have all : writeAttribute a ++ rest = ' ' :: c :: (cs ++ behind) := by
      simp [writeAttribute, named, behind, value]
    have blank : isSpace ' ' = true := rfl
    rw [all]
    simp [blank, first]
  have inName : ∀ x ∈ cs, (x != '=' && !isSpace x) = true := by
    intro x hx
    have hx : x ∈ a.1.chars := named ▸ List.mem_cons_of_mem c hx
    simp [a.1.ne_of_mem hx, a.1.not_isSpace hx]
  have name : (cs ++ behind).takeWhile (fun x => x != '=' && !isSpace x) = cs := by
    rw [List.takeWhile_append_of_pos inName]
    simp [behind]
  have after : ((cs ++ behind).dropWhile (fun x => x != '=' && !isSpace x)).dropWhile isSpace =
      behind := by
    rw [List.dropWhile_append_of_pos inName]
    rfl
  have safe : '"' ∉ value := fun hc => (escape_safe hc).2.2.1 rfl
  rw [entriesWithin.eq_def]
  simp only [start, name, after, behind, splitValue_quoted safe rest, named]
  rfl

/-- Behind the last attribute there is nothing to read. -/
theorem entriesWithin_blank (distinct : Bool) (fuel : Nat) (seen : List (List Char))
    {cs : List Char} (h : ∀ c ∈ cs, isSpace c = true) :
    entriesWithin distinct fuel seen cs = [] := by
  cases fuel with
  | zero => rfl
  | succ fuel =>
    rw [entriesWithin.eq_def]
    simp only [List.dropWhile_eq_nil_iff.2 h]

/-- All attributes that are written are read. -/
theorem entriesWithin_flatMap (distinct : Bool) {end_ : List Char}
    (blank : ∀ c ∈ end_, isSpace c = true) (as : List (Name × String)) (fuel : Nat)
    (seen : List (List Char)) (enough : as.length ≤ fuel)
    (new : ∀ a ∈ as, a.1.chars ∉ seen) (nodup : (as.map fun a => a.1.chars).Nodup) :
    entriesWithin distinct fuel seen (as.flatMap writeAttribute ++ end_) =
      as.map fun a => some ⟨a.1.chars, escape a.2.toList⟩ := by
  induction as generalizing fuel seen with
  | nil => exact entriesWithin_blank distinct fuel seen blank
  | cons a as ih =>
    cases fuel with
    | zero => cases enough
    | succ fuel =>
      obtain ⟨fresh, later⟩ := List.forall_mem_cons.1 new
      obtain ⟨other, nodup⟩ := List.nodup_cons.1 nodup
      rw [List.flatMap_cons, List.append_assoc, entriesWithin_writeAttribute]
      rw [ih fuel _ (Nat.le_of_succ_le_succ enough) ?new nodup]
      case new =>
        intro b hb
        rw [List.mem_cons, not_or]
        exact ⟨fun same => other (List.mem_map.2 ⟨b, hb, same⟩), later b hb⟩
      simp [fresh]

/-- The attributes as they are read. -/
def read (h : Heading) : List Attribute :=
  h.attributes.map fun a => ⟨a.1.chars, escape a.2.toList⟩

theorem nodup_chars : (h.attributes.map fun a => a.1.chars).Nodup := by
  have distinct := h.distinct
  rw [List.Nodup, List.pairwise_map] at distinct ⊢
  exact distinct.imp fun other same => other (String.toList_inj.1 same)

theorem length_attributes_le : h.attributes.length ≤ h.writeAttributes.length := by
  unfold writeAttributes
  induction h.attributes with
  | nil => exact Nat.le_refl _
  | cons a as ih =>
    have some_ : 0 < (writeAttribute a).length := Nat.succ_pos _
    rw [List.flatMap_cons, List.length_append, List.length_cons]
    omega

theorem entriesWithin_writeAttributes (distinct : Bool) {end_ : List Char}
    (blank : ∀ c ∈ end_, isSpace c = true) :
    entriesWithin distinct (h.writeAttributes ++ end_).length [] (h.writeAttributes ++ end_) =
      h.read.map some := by
  have enough : h.attributes.length ≤ (h.writeAttributes ++ end_).length := by
    have := h.length_attributes_le
    rw [List.length_append]
    omega
  refine (entriesWithin_flatMap distinct blank h.attributes _ [] enough (fun _ _ => nofun)
    h.nodup_chars).trans ?_
  simp [read]

end Heading

namespace Element

open Attribute

variable (e : Element)

theorem attributes_tag : ∃ end_, (∀ c ∈ end_, isSpace c = true) ∧
    e.tag.attributes = e.heading.writeAttributes ++ end_ := by
  cases e with
  | empty h => exact ⟨[' '], by simp [isSpace], rfl⟩
  | leaf h text => exact ⟨[], nofun, (List.append_nil _).symm⟩
  | node h children => exact ⟨[], nofun, (List.append_nil _).symm⟩

theorem entries_tag : e.tag.entries = e.heading.read.map some := by
  obtain ⟨end_, blank, attributes⟩ := e.attributes_tag
  unfold Tag.entries
  rw [attributes]
  exact e.heading.entriesWithin_writeAttributes true blank

theorem firstAttributes_tag : e.tag.firstAttributes = e.heading.read := by
  obtain ⟨end_, blank, attributes⟩ := e.attributes_tag
  have all (as : List Attribute) :
      ((as.map some).takeWhile Option.isSome).filterMap id = as := by
    induction as with
    | nil => rfl
    | cons a as ih => exact congrArg (a :: ·) ih
  unfold Tag.firstAttributes
  rw [attributes, e.heading.entriesWithin_writeAttributes false blank, all]

theorem not_mem_colon {a : Attribute} (h : a ∈ e.heading.read) : ':' ∉ a.name := by
  obtain ⟨⟨n, value⟩, -, rfl⟩ := List.mem_map.1 h
  exact fun colon => n.ne_of_mem colon rfl rfl

/-- No name is bound to a namespace. -/
theorem bindings?_tag : e.tag.bindings? = some [] := by
  unfold Tag.bindings?
  rw [firstAttributes_tag]
  have names : ∀ a ∈ e.heading.read, ':' ∉ a.name := fun a => e.not_mem_colon
  generalize e.heading.read = as at names
  induction as with
  | nil => rfl
  | cons a as ih =>
    obtain ⟨plain, later⟩ := List.forall_mem_cons.1 names
    rw [List.foldlM_cons]
    have skipped (name : List Char) : a.bound? ≠ some (.named name) := by
      intro bound
      unfold bound? at bound
      split at bound <;> simp_all
    split
    · exact (skipped _ ‹_›).elim
    · exact ih later

theorem isNil_tag (scopes : Scopes) : scopes.isNil e.tag = false := by
  unfold Scopes.isNil
  rw [entries_tag, List.any_eq_false]
  intro x hx
  obtain ⟨a, ha, rfl⟩ := List.mem_map.1 hx
  have plain := e.not_mem_colon ha
  simp [Scopes.saysNil, spaceOf?, plain]

end Element

end Registrar.Xml
