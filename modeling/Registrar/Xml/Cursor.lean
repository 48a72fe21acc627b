import Registrar.Xml.Entity
import Registrar.Xml.Scope

/-!
# Reading a document

A `Cursor` stands in a document and knows the token ahead of it. `Cursor.next?` gives the next
event: a tag, or a run of text with its references replaced and without white space at its ends.
`Cursor.leave?` goes behind the element whose tag was read last; what it passes over must be whole,
but only its first event is looked at. Scopes begin when a tag comes ahead; those that are passed
over do not end. In all of this the cursor goes the way of the `quick-xml` deserializer, which reads
one token ahead.
-/

namespace Registrar.Xml

inductive Event
  | opening (tag : Tag)
  | closing
  | text (cs : List Char)
  deriving DecidableEq, Repr

structure Cursor where
  /-- An event that was put back. -/
  held : Option Event
  /-- The token ahead, unless the document ends. -/
  ahead : Option Token
  /-- What follows the token ahead. -/
  tokens : List Token
  scopes : Scopes
  /-- Whether the innermost scope ends before the next token. -/
  leaving : Bool
  /-- Whether white space counts for nothing here at the front of a text. -/
  trims : Bool
  deriving Repr

/-- Drops white space at the front, with the texts that hold nothing else. -/
def trimFront : List Token → List Token
  | .text raw :: ts =>
    match raw.dropWhile isSpace with
    | [] => trimFront ts
    | raw => .text raw :: ts
  | ts => ts

theorem length_trimFront_le (ts : List Token) : (trimFront ts).length ≤ ts.length := by
  fun_induction trimFront ts with
  | case1 => simp_all; omega
  | case2 => simp
  | case3 => exact Nat.le_refl _

namespace Cursor

/-- How many tokens are still to come. -/
def size (c : Cursor) : Nat := c.tokens.length + c.ahead.toList.length

/-- Goes to the next token, in scopes that hold for it. -/
def goTo (c : Cursor) (scopes : Scopes) : List Token → Cursor
  | [] => { c with ahead := none, tokens := [], scopes, leaving := false }
  | .opening tag :: ts =>
    match tag.bindings? with
    | none => { c with ahead := some .broken, tokens := [], scopes, leaving := false }
    | some bindings =>
      { c with
        ahead := some (.opening tag), tokens := ts, scopes := bindings :: scopes
        leaving := false, trims := true }
  | .closing name :: ts =>
    { c with ahead := some (.closing name), tokens := ts, scopes, leaving := true, trims := true }
  | .doctype :: ts =>
    { c with ahead := some .doctype, tokens := ts, scopes, leaving := false, trims := true }
  | t :: ts => { c with ahead := some t, tokens := ts, scopes, leaving := false, trims := false }

/-- Goes to the next token. -/
def advance (c : Cursor) : Cursor :=
  c.goTo (if c.leaving then c.scopes.drop 1 else c.scopes)
    (if c.trims then trimFront c.tokens else c.tokens)

theorem size_goTo_le (c : Cursor) (scopes : Scopes) (ts : List Token) :
    (c.goTo scopes ts).size ≤ ts.length := by
  unfold goTo
  split <;> (try split) <;> simp [size]

theorem size_advance_lt {c : Cursor} {t : Token} (h : c.ahead = some t) :
    c.advance.size < c.size := by
  have h₁ := length_trimFront_le c.tokens
  have h₂ : ∀ ts : List Token, ts.length ≤ c.tokens.length →
      (c.goTo (if c.leaving then c.scopes.drop 1 else c.scopes) ts).size < c.size := by
    intro ts hts
    have := size_goTo_le c (if c.leaving then c.scopes.drop 1 else c.scopes) ts
    simp only [size, h, Option.toList_some, List.length_singleton] at this ⊢
    omega
  unfold advance
  by_cases ht : c.trims = true
  · rw [if_pos ht]
    exact h₂ _ h₁
  · rw [if_neg ht]
    exact h₂ _ (Nat.le_refl _)

/-- The beginning of a document. -/
def ofChars (cs : List Char) : Cursor :=
  advance ⟨none, none, Token.scan cs, [], false, true⟩

/-- Whether text is ahead. -/
def isAtText (c : Cursor) : Bool :=
  match c.ahead with
  | some (.text _) | some (.data _) => true
  | _ => false

/-- Reads the texts ahead, behind those read before; white space at the end of the last one counts
for nothing. -/
def run? (before : List Char) (c : Cursor) : Option (List Char × Cursor) :=
  match _h : c.ahead with
  | some (.text raw) =>
    match unescape (if c.advance.isAtText then raw else trimEnd raw) with
    | none => none
    | some cs => c.advance.run? (before ++ cs)
  | some (.data raw) => c.advance.run? (before ++ raw)
  | _ => some (before, c)
  termination_by c.size
  decreasing_by all_goals exact size_advance_lt ‹_›

/-- Reads the next event. -/
def read? (c : Cursor) : Option (Event × Cursor) :=
  match _h : c.ahead with
  | none | some .broken => none
  | some .doctype => c.advance.read?
  | some (.opening tag) => some (.opening tag, c.advance)
  | some (.closing _) => some (.closing, c.advance)
  | some (.data _) => (c.run? []).map fun (cs, c) => (.text cs, c)
  | some (.text raw) =>
    if raw.all isSpace && !c.advance.isAtText then c.advance.read?
    else (c.run? []).map fun (cs, c) => (.text cs, c)
  termination_by c.size
  decreasing_by all_goals exact size_advance_lt ‹_›

/-- The next event, which may have been put back. -/
def next? (c : Cursor) : Option (Event × Cursor) :=
  match c.held with
  | some e => some (e, { c with held := none })
  | none => c.read?

def putBack (c : Cursor) (e : Event) : Cursor := { c with held := some e }

/-! ## Passing over -/

/-- What follows the closing tag of an element; elements of its name may lie in it, `depth` of them
open. -/
def dropElement? (name : List Char) : Nat → List Token → Option (List Token)
  | _, [] => none
  | _, .broken :: _ => none
  | depth, .opening tag :: ts => dropElement? name (if tag.name = name then depth + 1 else depth) ts
  | depth, .closing closed :: ts =>
    if closed ≠ name then dropElement? name depth ts
    else
      match depth with
      | 0 => some ts
      | depth + 1 => dropElement? name depth ts
  | depth, _ :: ts => dropElement? name depth ts

/-- Goes behind the element of this name that the token ahead lies in or closes. -/
def pass? (name : List Char) (c : Cursor) : Option Cursor :=
  match c.ahead with
  | none | some .broken => none
  | some (.closing _) => some c.advance
  | some (.opening tag) =>
    (dropElement? name (if tag.name = name then 1 else 0) c.tokens).map fun tokens =>
      { c with tokens }.advance
  | some _ => (dropElement? name 0 c.tokens).map fun tokens => { c with tokens }.advance

/-- Goes behind the element whose tag was read last. -/
def leave? (tag : Tag) (c : Cursor) : Option Cursor :=
  match c.next? with
  | none => none
  | some (.closing, c) => some c
  | some (.opening inner, c) => (c.pass? inner.name).bind (pass? tag.name)
  | some (.text _, c) => c.pass? tag.name

end Cursor

end Registrar.Xml
