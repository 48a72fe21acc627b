import Registrar.Text.Digits

/-!
# Percent encoding

A character outside the allowed ones is written as its bytes, each as `%` and two hexadecimal
digits. The parts of an address differ in what the URL Standard allows in them; `form` is the
encoding of names and values in a query.
-/

namespace Registrar.Url

/-- An upper-case hexadecimal digit. -/
def hexDigit (n : Nat) : Char :=
  if n < 10 then Char.ofNat (48 + n) else Char.ofNat (55 + n)

def encodeByte (b : UInt8) : List Char :=
  ['%', hexDigit (b.toNat / 16), hexDigit (b.toNat % 16)]

/-- The bytes of a character, percent-encoded. -/
def encodeChar (c : Char) : List Char :=
  (String.utf8EncodeChar c).flatMap encodeByte

/-- Encodes the characters that are not allowed. -/
def encodeUnless (allowed : Char → Bool) (cs : List Char) : List Char :=
  cs.flatMap fun c => if allowed c then [c] else encodeChar c

/-! ## What each part allows -/

/-- Printable ASCII; every part encodes the rest. -/
def isPrintable (c : Char) : Bool :=
  0x20 ≤ c.toNat && c.toNat ≤ 0x7E

/-- Printable ASCII except for some characters. -/
def printableExcept (forbidden : List Char) (c : Char) : Bool :=
  isPrintable c && !forbidden.contains c

def inFragment : Char → Bool :=
  printableExcept [' ', '"', '<', '>', '\x60']

def inPath : Char → Bool :=
  printableExcept [' ', '"', '<', '>', '\x60', '#', '?', '\x7b', '\x7d']

def inUser : Char → Bool :=
  printableExcept [' ', '"', '<', '>', '\x60', '#', '?', '\x7b', '\x7d', '/', ':', ';', '=',
    '@', '[', '\\', ']', '^', '|']

/-- The query of an address with a special scheme does not allow the apostrophe. -/
def inQuery (special : Bool) : Char → Bool :=
  printableExcept (if special then [' ', '"', '#', '<', '>', '\''] else [' ', '"', '#', '<', '>'])

/-! ## Queries -/

def inForm (c : Char) : Bool :=
  c.isAlphanum || ['*', '-', '.', '_'].contains c

/-- A name or a value in a query; a space becomes a plus sign. -/
def form (cs : List Char) : List Char :=
  cs.flatMap fun c => if c == ' ' then ['+'] else if inForm c then [c] else encodeChar c

/-- Pairs of names and values as a query. -/
def formPairs (pairs : List (String × String)) : List Char :=
  List.intercalate ['&'] (pairs.map fun (k, v) => form k.toList ++ '=' :: form v.toList)

/-! ## Decoding -/

/-- The bytes of a text, with its percent-encoded bytes decoded. -/
def decodeBytes : List Char → List UInt8
  | [] => []
  | '%' :: a :: b :: cs =>
    match Text.hexValue? a, Text.hexValue? b with
    | some x, some y => (16 * x + y).toUInt8 :: decodeBytes cs
    | _, _ => String.utf8EncodeChar '%' ++ decodeBytes (a :: b :: cs)
  | c :: cs => String.utf8EncodeChar c ++ decodeBytes cs

/-- A text with its percent-encoded bytes decoded, if the result is a text. -/
def decode? (cs : List Char) : Option (List Char) :=
  (String.fromUTF8? ⟨(decodeBytes cs).toArray⟩).map String.toList

end Registrar.Url
