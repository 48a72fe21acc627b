import Registrar.Decimal.Whole
import Registrar.Text.Split
import Registrar.Url.Name
import Registrar.Url.Percent

/-!
# Hosts

The host of a web address is a name in lower case, four numbers with points between them, or eight
groups of hexadecimal digits in brackets. `Host.read?` reads each in the spellings that the URL
Standard of the browsers allows and writes it in its usual one.
-/

namespace Registrar.Url

namespace Host

/-! ## Numbers with points -/

/-- A part between points: hexadecimal after `0x`, octal after `0`, else decimal. -/
def part? : List Char → Option Nat
  | [] => none
  | ['0'] => some 0
  | '0' :: x :: cs =>
    if x == 'x' || x == 'X' then Text.numeral? 16 cs else Text.numeral? 8 (x :: cs)
  | cs => Text.numeral? 10 cs

/-- The labels of a name; a point at the end adds none. -/
def labels (cs : List Char) : List (List Char) :=
  let parts := Text.splitOn '.' cs
  if parts.length > 1 && parts.getLast? == some [] then parts.dropLast else parts

/-- Whether the last label is a number, which makes the whole host one. -/
def endsInNumber (cs : List Char) : Bool :=
  match (labels cs).getLast? with
  | none => false
  | some [] => false
  | some last => last.all Char.isDigit || (part? last).isSome && last.head? == some '0'

/-- The address that up to four numbers spell; the last one fills the remaining bytes. -/
def fourNumbers? (cs : List Char) : Option Nat := do
  let numbers ← (labels cs).mapM part?
  let last ← numbers.getLast?
  let front := numbers.dropLast
  if front.length ≤ 3 && front.all (· ≤ 255) && last < Nat.pow 256 (4 - front.length) then
    some (front.zipIdx.foldl (fun sum (n, i) => sum + n * Nat.pow 256 (3 - i)) last)
  else none

def fourNumbersText (n : Nat) : List Char :=
  List.intercalate ['.']
    ([n / 16777216 % 256, n / 65536 % 256, n / 256 % 256, n % 256].map Decimal.digits)

/-! ## Groups in brackets -/

/-- A group of one to four hexadecimal digits. -/
def group? (cs : List Char) : Option Nat :=
  if cs.isEmpty || 4 < cs.length then none else Text.numeral? 16 cs

/-- Four decimal numbers below 256 without leading zeros, as two groups. -/
def dottedGroups? (cs : List Char) : Option (List Nat) := do
  let numbers ← (Text.splitOn '.' cs).mapM fun p =>
    let isPlain := p.all Char.isDigit && (p.length = 1 || p.head? != some '0')
    if p.isEmpty || 3 < p.length || !isPlain then none else Text.numeral? 10 p
  match numbers with
  | [a, b, c, d] =>
    if [a, b, c, d].all (· ≤ 255) then some [256 * a + b, 256 * c + d] else none
  | _ => none

/-- Groups with colons between them; the last one may be four decimal numbers. -/
def groups? (cs : List Char) : Option (List Nat) :=
  if cs.isEmpty then some []
  else do
    let parts := Text.splitOn ':' cs
    let last ← parts.getLast?
    let front ← parts.dropLast.mapM group?
    let back ← if last.contains '.' then dottedGroups? last else (group? last).map fun n => [n]
    some (front ++ back)

/-- What stands before and after the first two colons in a row. -/
def splitGap : List Char → Option (List Char × List Char)
  | ':' :: ':' :: cs => some ([], cs)
  | c :: cs => (splitGap cs).map fun (before, after) => (c :: before, after)
  | [] => none

/-- The eight groups of an address; two colons in a row stand for groups of zeros. -/
def eightGroups? (cs : List Char) : Option (List Nat) := do
  match splitGap cs with
  | none =>
    let groups ← groups? cs
    if groups.length = 8 then some groups else none
  | some (before, after) =>
    let front ← if before.contains '.' then none else groups? before
    let back ← groups? after
    let size := front.length + back.length
    if size ≤ 7 then some (front ++ List.replicate (8 - size) 0 ++ back) else none

/-- The length of the run of zeros at the front. -/
def zeroRun (groups : List Nat) : Nat :=
  (groups.takeWhile (· == 0)).length

/-- Start and length of the first longest run of zeros. -/
def longestZeros (groups : List Nat) : Nat × Nat :=
  (List.range groups.length).foldl (fun (start, size) i =>
    let run := zeroRun (groups.drop i)
    if size < run then (i, run) else (start, size)) (0, 0)

def groupsText (groups : List Nat) : List Char :=
  List.intercalate [':'] (groups.map (Nat.toDigits 16))

/-- The usual spelling: the first longest run of at least two zeros becomes two colons. -/
def eightGroupsText (groups : List Nat) : List Char :=
  let (start, size) := longestZeros groups
  if size < 2 then groupsText groups
  else groupsText (groups.take start) ++ ':' :: ':' :: groupsText (groups.drop (start + size))

/-! ## Hosts -/

/-- The characters that no host may hold. -/
def forbidden : List Char :=
  ['\x00', '\t', '\n', '\r', ' ', '#', '/', ':', '<', '>', '?', '@', '[', '\\', ']', '^', '|']

/-- The host of a web address in its usual spelling. -/
def read? (cs : List Char) : Option (List Char) :=
  match cs with
  | '[' :: rest =>
    if rest.getLast? == some ']' then
      (eightGroups? rest.dropLast).map fun groups => '[' :: eightGroupsText groups ++ [']']
    else none
  | _ => do
    let name ← Name.ascii? (← decode? cs)
    if name.isEmpty then none
    else if endsInNumber name then (fourNumbers? name).map fourNumbersText
    else some name

/-- The host of any other address: kept as it is, or a bracketed one. -/
def readOpaque? (cs : List Char) : Option (List Char) :=
  match cs with
  | '[' :: _ => read? cs
  | _ => if cs.any forbidden.contains then none else some (encodeUnless isPrintable cs)

end Host

end Registrar.Url
