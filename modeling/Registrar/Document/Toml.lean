import Registrar.Document.Toml.Draft
import Registrar.Document.Toml.Text
import Registrar.Document.Toml.Word

/-!
# TOML

`Toml.read?` reads a document, by the rules of the `toml` reader: those of TOML 1.1 and its own
limits. Lists and tables in braces may span lines, hold comments and end in a comma; they lie at
most `mostDepth` deep.
-/

namespace Registrar.Document.Toml

/-- How deep lists and tables in braces may lie. -/
def mostDepth : Nat := 80

/-! ## Values -/

mutual

/-- A value at the front, and the rest. Its lists and tables lie at most `depth` deep. -/
def value : Nat → Nat → List Char → Option (Value × List Char)
  | 0, _, _ => none
  | fuel + 1, depth, cs =>
    match cs with
    | '"' :: rest => (quotedText? '"' rest).map fun (s, rest) => (.text s, rest)
    | '\'' :: rest => (quotedText? '\'' rest).map fun (s, rest) => (.text s, rest)
    | '[' :: rest =>
      match depth with
      | 0 => none
      | depth + 1 => (items fuel depth rest).map fun (vs, rest) => (.list vs, rest)
    | '\x7b' :: rest =>
      match depth with
      | 0 => none
      | depth + 1 =>
        (braced fuel depth [] rest).map fun (es, rest) => (.table (entryValues es), rest)
    | cs =>
      let (word, rest) := splitWord cs
      (word? word).map (·, rest)

/-- The items up to the closing bracket. -/
def items : Nat → Nat → List Char → Option (List Value × List Char)
  | 0, _, _ => none
  | fuel + 1, depth, cs => do
    match ← skipGaps cs with
    | ']' :: rest => some ([], rest)
    | cs =>
      let (v, rest) ← value fuel depth cs
      match ← skipGaps rest with
      | ']' :: rest => some ([v], rest)
      | ',' :: rest => (items fuel depth rest).map fun (vs, rest) => (v :: vs, rest)
      | _ => none

/-- The entries up to the closing brace, after those before them. -/
def braced : Nat → Nat → Entries → List Char → Option (Entries × List Char)
  | 0, _, _, _ => none
  | fuel + 1, depth, before, cs => do
    match ← skipGaps cs with
    | '\x7d' :: rest => some (before, rest)
    | cs =>
      let (path, rest) ← keyPath? cs
      let .cons '=' rest := ← skipGaps rest | none
      let (v, rest) ← value fuel depth (← skipGaps rest)
      let entries ← before.assign v path
      match ← skipGaps rest with
      | '\x7d' :: rest => some (entries, rest)
      | ',' :: rest => braced fuel depth entries rest
      | _ => none

end

/-! ## Documents -/

/-- The path of a header up to its closing brackets, and the rest of the line. -/
def header? (closing cs : List Char) : Option (List String × List Char) := do
  let (path, rest) ← keyPath? cs
  if closing.isPrefixOf rest then some (path, rest.drop closing.length) else none

/-- A header or a key with its value, and the rest of its line. -/
def statement? (d : Draft) : List Char → Option (Draft × List Char)
  | '[' :: '[' :: cs => do
    let (path, rest) ← header? [']', ']'] cs
    some (← d.enter true path, rest)
  | '[' :: cs => do
    let (path, rest) ← header? [']'] cs
    some (← d.enter false path, rest)
  | cs => do
    let (path, rest) ← keyPath? cs
    let .cons '=' rest := rest | none
    let (v, rest) ← value (2 * rest.length + 2) mostDepth (skipBlanks rest)
    some (← d.assign path v, rest)

/-- Reads the lines of a document; each statement takes a character of the fuel at least. -/
def statements : Nat → Draft → List Char → Option Draft
  | fuel, d, cs => do
    match fuel, ← skipGaps cs with
    | _, [] => some d
    | 0, _ => none
    | fuel + 1, cs =>
      let (d, rest) ← statement? d cs
      if atLineEnd rest then statements fuel d rest else none

/-- Reads a document; a byte-order mark at its start is skipped. -/
def read? (s : String) : Option Value :=
  let cs := s.toList
  let cs := if cs.head? == some '\ufeff' then cs.drop 1 else cs
  (statements cs.length .empty cs).map Draft.toValue

end Registrar.Document.Toml
