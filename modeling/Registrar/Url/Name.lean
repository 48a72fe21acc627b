import Registrar.Url.Name.Direction
import Registrar.Url.Name.Folding
import Registrar.Url.Name.Joining
import Registrar.Url.Punycode

/-!
# Names of hosts

A name is labels with points between them. `Name.ascii?` reads a name in any spelling and writes it
in ASCII: a label with other characters is marked and spelled by `Punycode`. The rules are those of
internationalized names (Unicode 17), in the lenient form in which the URL Standard asks for them.
-/

namespace Registrar.Url.Name

open Registrar.Text

/-- What a label in another script starts with when it is written in ASCII. -/
def asciiMark : List Char := ['x', 'n', '-', '-']

/-- The most characters of a label that are encoded. -/
def mostEncoded : Nat := 1000

/-- The most letters and digits behind the mark that are decoded. -/
def mostDecoded : Nat := 2000

/-- The characters of ASCII that no label holds, apart from the blank and the controls. -/
def forbidden : List Char :=
  ['%', '#', '/', ':', '<', '>', '?', '@', '[', '\\', ']', '^', '|']

def mayHold (c : Char) : Bool :=
  0x80 ≤ c.toNat || (0x20 < c.toNat && c.toNat ≠ 0x7F && !forbidden.contains c)

def isAscii (cs : List Char) : Bool :=
  cs.all (·.toNat < 0x80)

/-- The label that is spelled behind the mark; it must be in its shared spelling. -/
def unmarked? (cs : List Char) : Option (List Char) := do
  if cs.isEmpty || cs.getLast? == some '-' || !isAscii cs || mostDecoded < cs.length then none
  else
    let label ← Punycode.decode? cs
    if folded? label == some label then some label else none

/-- A label of a name in its shared spelling, with all its characters. -/
def label? (cs : List Char) : Option (List Char) := do
  let label ← if asciiMark.isPrefixOf cs then unmarked? (cs.drop asciiMark.length) else some cs
  if label.all mayHold && !label.head?.any isMark && joinersCount [] label &&
      (isAscii label || label.length ≤ mostEncoded) then
    some label
  else none

/-- A label in ASCII. -/
def asciiLabel (label : List Char) : List Char :=
  if isAscii label then label else asciiMark ++ Punycode.encode label

/-- A name in ASCII. -/
def ascii? (cs : List Char) : Option (List Char) := do
  let labels ← (splitOn '.' (← folded? cs)).mapM label?
  if areOrdered labels then some (List.intercalate ['.'] (labels.map asciiLabel)) else none

end Registrar.Url.Name
