/-!
# Markup tokens

`Token.scan` cuts a document into tags, text and character data. Comments and processing
instructions leave no token, so the text on their two sides is adjacent; where the markup cannot be
read, or a closing tag does not match the innermost open element, the list ends in `broken`.

What is taken for markup here, and in the other modules on XML, is what the reader of the answers,
`quick-xml`, takes for it. It checks less than the standard of XML asks for: a name is whatever
stands before the first blank.
-/

namespace Registrar.Xml

/-- White space of markup. -/
def isSpace (c : Char) : Bool :=
  c == ' ' || c == '\t' || c == '\r' || c == '\n'

/-- The content of an opening tag. -/
structure Tag where
  name : List Char
  /-- What stands behind the name. -/
  attributes : List Char
  deriving DecidableEq, Repr

inductive Token
  | text (raw : List Char)
  | data (raw : List Char)
  | opening (tag : Tag)
  | closing (name : List Char)
  | doctype
  | broken
  deriving DecidableEq, Repr

/-- What stands before the first occurrence of a mark, and what stands after it. -/
def splitAt? (mark : List Char) : List Char → Option (List Char × List Char)
  | [] => if mark.isEmpty then some ([], []) else none
  | c :: cs =>
    if mark.isPrefixOf (c :: cs) then some ([], (c :: cs).drop mark.length)
    else (splitAt? mark cs).map fun (before, after) => (c :: before, after)

/-- The content of a tag up to its `>`, which does not count between quotes. -/
def splitTag? : Option Char → List Char → Option (List Char × List Char)
  | _, [] => none
  | none, c :: cs =>
    if c == '>' then some ([], cs)
    else
      (splitTag? (if c == '"' || c == '\'' then some c else none) cs).map
        fun (before, after) => (c :: before, after)
  | some quote, c :: cs =>
    (splitTag? (if c == quote then none else some quote) cs).map
      fun (before, after) => (c :: before, after)

/-- The content of a declaration up to the `>` that balances its opening. -/
def splitBalanced? : Nat → List Char → Option (List Char × List Char)
  | _, [] => none
  | depth, c :: cs =>
    if c == '>' && depth == 0 then some ([], cs)
    else
      let depth := if c == '<' then depth + 1 else if c == '>' then depth - 1 else depth
      (splitBalanced? depth cs).map fun (before, after) => (c :: before, after)

/-- Removes white space at the end. -/
def trimEnd (cs : List Char) : List Char :=
  (cs.reverse.dropWhile isSpace).reverse

def Tag.ofContent (content : List Char) : Tag :=
  ⟨content.takeWhile (!isSpace ·), content.dropWhile (!isSpace ·)⟩

/-- The tokens of an opening tag with this content; a slash at the end closes the element too. -/
def Token.ofTag (content : List Char) : List Token :=
  if content.getLast? == some '/' then
    let tag := Tag.ofContent content.dropLast
    [.opening tag, .closing tag.name]
  else [.opening (.ofContent content)]

/-- The tokens of the markup that follows a `<`, and the rest; nothing if it is broken. -/
def Token.markup? : List Char → Option (List Token × List Char)
  | '!' :: '-' :: '-' :: cs => (splitAt? ['-', '-', '>'] cs).map fun (_, rest) => ([], rest)
  | '!' :: '[' :: 'C' :: 'D' :: 'A' :: 'T' :: 'A' :: '[' :: cs =>
    (splitAt? [']', ']', '>'] cs).map fun (raw, rest) => ([.data raw], rest)
  | '!' :: cs =>
    if (cs.take 7).map Char.toUpper == ['D', 'O', 'C', 'T', 'Y', 'P', 'E'] then
      (splitBalanced? 0 cs).bind fun (content, rest) =>
        if (content.drop 7).all isSpace then none else some ([.doctype], rest)
    else none
  | '?' :: cs =>
    if cs.head? == some '>' then none
    else (splitAt? ['?', '>'] cs).map fun (_, rest) => ([], rest)
  | '/' :: cs => (splitTag? none cs).map fun (name, rest) => ([.closing (trimEnd name)], rest)
  | [] => none
  | cs => (splitTag? none cs).map fun (content, rest) => (Token.ofTag content, rest)

/-- The tokens of a text, of at most `fuel` pieces. -/
def Token.scanWithin : Nat → List Char → List Token
  | _, [] => []
  | 0, _ => [.broken]
  | fuel + 1, '<' :: cs =>
    match markup? cs with
    | none => [.broken]
    | some (tokens, rest) => tokens ++ scanWithin fuel rest
  | fuel + 1, cs => .text (cs.takeWhile (· != '<')) :: scanWithin fuel (cs.dropWhile (· != '<'))

/-- The tokens up to the first closing tag that does not match; `outer` are the names of the open
elements, the innermost first. -/
def Token.matched : List (List Char) → List Token → List Token
  | _, [] => []
  | outer, .opening tag :: ts => .opening tag :: matched (tag.name :: outer) ts
  | [], .closing _ :: _ => [.broken]
  | top :: outer, .closing name :: ts =>
    if name = top then .closing name :: matched outer ts else [.broken]
  | outer, t :: ts => t :: matched outer ts

/-- The tokens of a document; a byte-order mark at its start is skipped. -/
def Token.scan (cs : List Char) : List Token :=
  let cs := if cs.head? == some '\ufeff' then cs.drop 1 else cs
  matched [] (scanWithin cs.length cs)

end Registrar.Xml
