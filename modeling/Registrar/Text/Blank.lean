/-!
# White space

`isBlank` is the White_Space property, and `trim` removes it at both ends of a text. Every trimmed
value of this library (names, flags, amounts, variables) is trimmed here.
-/

namespace Registrar.Text

/-- The characters with the White_Space property. -/
def isBlank (c : Char) : Bool :=
  let n := c.toNat
  (9 ≤ n && n ≤ 13) || n == 0x20 || n == 0x85 || n == 0xA0 || n == 0x1680 ||
    (0x2000 ≤ n && n ≤ 0x200A) || n == 0x2028 || n == 0x2029 || n == 0x202F || n == 0x205F ||
    n == 0x3000

/-- Removes the longest end of a list whose members all satisfy `p`. -/
def dropEndWhile {α : Type} (p : α → Bool) (xs : List α) : List α :=
  (xs.reverse.dropWhile p).reverse

/-- Removes white space at both ends. -/
def trimChars (cs : List Char) : List Char :=
  dropEndWhile isBlank (cs.dropWhile isBlank)

/-- Removes white space at both ends. -/
def trim (s : String) : String :=
  String.ofList (trimChars s.toList)

/-- Whether a text is white space only; the empty text is. -/
def isBlankText (s : String) : Bool :=
  (trimChars s.toList).isEmpty

/-- What is left ends in a member that does not satisfy `p`. -/
theorem dropEndWhile_getLast? {α : Type} (p : α → Bool) (xs : List α) {x : α}
    (h : (dropEndWhile p xs).getLast? = some x) : p x = false := by
  rw [dropEndWhile, List.getLast?_reverse] at h
  have := List.head?_dropWhile_not p xs.reverse
  rw [h] at this
  simpa using this

end Registrar.Text
