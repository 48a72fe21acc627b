import Registrar.Text.Decomposition
import Registrar.Text.Mark

/-!
# Composed texts

`composed` writes a text in its canonical composition: its characters are taken apart, marks are
sorted by their classes, and each mark joins the character that it belongs to where one character
stands for both.
-/

namespace Registrar.Text

/-- Puts a character behind a text, whose last character comes first, or a mark in front of the
marks with higher classes. -/
def addMark (c : Char) : List Char → List Char
  | [] => [c]
  | d :: ds =>
    if 0 < combiningClass c && combiningClass c < combiningClass d then d :: addMark c ds
    else c :: d :: ds

/-- Sorts the marks on each character by their classes. -/
def sortedMarks (cs : List Char) : List Char :=
  (cs.foldl (fun before c => addMark c before) []).reverse

/-- A text on its way to its composition: what is done, last character first, then the last
character that marks may join, and its marks so far, last first. -/
structure Composition where
  done : List Char
  base : Option Char
  marks : List Char

namespace Composition

/-- Everything, last character first. -/
def all (p : Composition) : List Char :=
  p.marks ++ p.base.toList ++ p.done

/-- What the next character and the base make up, unless a mark stands between them. -/
def join? (p : Composition) (c : Char) : Option Char := do
  let base ← p.base
  match p.marks with
  | [] => composite? base c
  | m :: _ => if combiningClass m < combiningClass c then composite? base c else none

def add (p : Composition) (c : Char) : Composition :=
  match p.join? c with
  | some joined => { p with base := some joined }
  | none =>
    if combiningClass c = 0 then ⟨p.all, some c, []⟩ else { p with marks := c :: p.marks }

end Composition

/-- The canonical composition of a text. -/
def composed (cs : List Char) : List Char :=
  ((sortedMarks (decomposed cs)).foldl Composition.add ⟨[], none, []⟩).all.reverse

end Registrar.Text
