import Registrar.Url.Host

/-!
# Absolute addresses

`Address.read?` reads an absolute address as browsers do, and as the HTTP client `reqwest` does,
which follows the same standard: white space at its ends is dropped, tabs and line ends anywhere,
scheme and host are written in their usual spelling, the usual port is left out and the dot segments
of a path are resolved. Addresses of the web and of files may be written with backslashes.
`Address.text` writes an address, and `Address.append` adds pairs to its query.
-/

namespace Registrar.Url

open Registrar.Text (cut)

structure Address where
  scheme : List Char
  /-- User, host and port as they are written; nothing for an address without a host. -/
  authority : Option (List Char)
  path : List Char
  query : Option (List Char)
  fragment : Option (List Char)
  deriving DecidableEq, Repr

namespace Address

/-- The schemes of the web with their usual ports. -/
def webPorts : List (String × Nat) :=
  [("http", 80), ("https", 443), ("ws", 80), ("wss", 443), ("ftp", 21)]

def isWeb (scheme : List Char) : Bool :=
  (webPorts.lookup (String.ofList scheme)).isSome

/-- Whether addresses of a scheme name files. -/
def isFile (scheme : List Char) : Bool :=
  scheme == ['f', 'i', 'l', 'e']

/-- Whether a scheme has rules of its own. -/
def isSpecial (scheme : List Char) : Bool :=
  isWeb scheme || isFile scheme

/-- What is read of an input: not the blanks and control characters at its ends, no tabs, no line
ends. -/
def clean (cs : List Char) : List Char :=
  let isBlank (c : Char) := c.toNat ≤ 0x20
  ((cs.dropWhile isBlank).reverse.dropWhile isBlank).reverse.filter fun c =>
    c != '\t' && c != '\n' && c != '\r'

/-- The scheme in lower case and what follows its colon. -/
def splitScheme? (cs : List Char) : Option (List Char × List Char) :=
  let inScheme (c : Char) := c.isAlphanum || c == '+' || c == '-' || c == '.'
  let scheme := cs.takeWhile inScheme
  match scheme, cs.dropWhile inScheme with
  | c :: _, ':' :: rest => if c.isAlpha then some (scheme.map Char.toLower, rest) else none
  | _, _ => none

/-! ## Authority -/

/-- A port below 65536, and what follows a backslash behind it; the usual port and the empty one are
left out. -/
def port? (scheme cs : List Char) : Option (List Char × List Char) :=
  let digits := cs.takeWhile Char.isDigit
  let more := cs.dropWhile Char.isDigit
  if !more.isEmpty && more.head? != some '\\' then none
  else if digits.isEmpty then some ([], more)
  else
    match Decimal.readWhole 65535 digits with
    | .error _ => none
    | .ok n =>
      if webPorts.lookup (String.ofList scheme) = some n then some ([], more)
      else some (':' :: Decimal.digits n, more)

/-- The host and what follows its colon; a colon in brackets belongs to the host. -/
def splitPort (cs : List Char) : List Char × Option (List Char) :=
  match cs with
  | '[' :: _ =>
    match (cut ']' cs) with
    | (inside, some (':' :: port)) => (inside ++ [']'], some port)
    | (inside, some rest) => (inside ++ ']' :: rest, none)
    | (_, none) => (cs, none)
  | _ => cut ':' cs

/-- Host and port, and what follows a backslash behind the port. -/
def hostAndPort? (scheme cs : List Char) : Option (List Char × List Char) := do
  let (host, port) := splitPort cs
  let host ←
    if isWeb scheme then Host.read? host
    else if host.isEmpty && port.isSome then none
    else Host.readOpaque? host
  match port with
  | none => some (host, [])
  | some port => (port? scheme port).map fun (port, more) => (host ++ port, more)

/-- A user name and a password, each encoded; empty ones leave no mark. -/
def user (cs : List Char) : List Char :=
  let (name, password) := cut ':' cs
  let name := encodeUnless inUser name
  let password := encodeUnless inUser (password.getD [])
  if name.isEmpty && password.isEmpty then []
  else if password.isEmpty then name ++ ['@']
  else name ++ ':' :: password ++ ['@']

/-- The authority of an address, and what follows a backslash behind its port. What stands before
the last at-sign is the user, who needs a host; a lone at-sign may stand only at the end of the
address. -/
def authority? (scheme cs : List Char) (isEnd : Bool) : Option (List Char × List Char) := do
  match cut '@' cs.reverse with
  | (_, none) => hostAndPort? scheme cs
  | (host, some before) =>
    let (host, more) ← hostAndPort? scheme host.reverse
    let user := user before.reverse
    if host.isEmpty && (!user.isEmpty || (before.isEmpty && !isEnd)) then none
    else some (user ++ host, more)

/-! ## Path -/

/-- Replaces an encoded point by a point. -/
def plainDots : List Char → List Char
  | '%' :: '2' :: e :: cs =>
    if e == 'e' || e == 'E' then '.' :: plainDots cs else '%' :: '2' :: e :: plainDots cs
  | c :: cs => c :: plainDots cs
  | [] => []

/-- Whether a segment starts with the name of a drive: a letter and a colon or a bar. -/
def startsWithDrive : List Char → Bool
  | c :: mark :: cs =>
    c.isAlpha && (mark == ':' || mark == '|') && (cs.isEmpty || cs.head? == some '\\')
  | _ => false

/-- Whether a segment is the name of a drive. -/
def isDrive (segment : List Char) : Bool :=
  segment.length = 2 && startsWithDrive segment

/-- The segments without the last one, last first; a drive stays. -/
def dropSegment : List (List Char) → List (List Char)
  | [] => []
  | segment :: before => if startsWithDrive segment then segment :: before else before

/-- Adds a segment to those before it, last first; `isLast` when no slash follows. -/
def addSegment (before : List (List Char)) (segment : List Char) (isLast : Bool) :
    List (List Char) :=
  if plainDots segment == ['.', '.'] then
    if isLast then [] :: dropSegment before else dropSegment before
  else if plainDots segment == ['.'] then if isLast then [] :: before else before
  else encodeUnless inPath segment :: before

/-- Adds a segment of a file; a drive in front is written with a colon. -/
def addFileSegment (before : List (List Char)) (segment : List Char) (isLast : Bool) :
    List (List Char) :=
  if before.isEmpty && isDrive segment then [segment.take 1 ++ [':']]
  else addSegment before segment isLast

/-- Adds segments to those before them, last first. -/
def addSegments (add : List (List Char) → List Char → Bool → List (List Char))
    (before : List (List Char)) : List (List Char) → List (List Char)
  | [] => before
  | [segment] => add before segment true
  | segment :: more => addSegments add (add before segment false) more

/-- Segments, last first, each behind a slash. -/
def joined (segments : List (List Char)) : List Char :=
  segments.reverse.flatMap ('/' :: ·)

/-- A path that starts with a slash, with its dot segments resolved. -/
def resolved (cs : List Char) : List Char :=
  joined (addSegments addSegment [] (Text.splitOn '/' cs))

/-- The segments of a file, last first, with its dot segments resolved. -/
def fileSegments (cs : List Char) : List (List Char) :=
  addSegments addFileSegment [] (Text.splitOn '/' cs)

/-- The path of a file, which starts with a single slash. -/
def filePath (segments : List (List Char)) : List Char :=
  '/' :: (joined segments).dropWhile (· == '/')

/-! ## Reading and writing -/

/-- Backslashes count as slashes in addresses with special schemes. -/
def slashed (scheme cs : List Char) : List Char :=
  if isSpecial scheme then cs.map fun c => if c == '\\' then '/' else c else cs

/-- Authority and path of what follows the colon of a scheme of the web. -/
def webTarget? (scheme cs : List Char) : Option (List Char × List Char) :=
  let (authority, path) := cut '/' (cs.dropWhile (· == '/'))
  (authority? scheme authority true).map fun (a, _) => (a, resolved (path.getD []))

/-- Host and path of a file. This computer needs no name, and a drive is on this computer. -/
def fileTarget? (cs : List Char) : Option (List Char × List Char) :=
  match cs with
  | '/' :: '/' :: rest =>
    let host := rest.takeWhile (· != '/')
    let path := rest.dropWhile (· != '/')
    if host.isEmpty || isDrive host then some ([], filePath (fileSegments rest))
    else
      (Host.read? host).map fun host =>
        if host == "localhost".toList then ([], filePath (fileSegments path))
        else
          let segments := fileSegments (path.drop 1)
          if segments.getLast?.any isDrive then ([], filePath segments)
          else (host, filePath segments)
  | '/' :: rest => some ([], filePath (fileSegments rest))
  | _ => some ([], filePath (fileSegments cs))

/-- Authority and path of what follows the colon of any other scheme; without slashes the path is
kept as it is. -/
def otherTarget? (scheme cs : List Char) (isEnd : Bool) : Option (Option (List Char) × List Char) :=
  match cs with
  | '/' :: '/' :: rest =>
    let path := rest.dropWhile (· != '/')
    (authority? scheme (rest.takeWhile (· != '/')) (isEnd && path.isEmpty)).map fun (a, more) =>
      (some a,
        if !more.isEmpty then resolved (more ++ path)
        else if path.isEmpty then []
        else resolved (path.drop 1))
  | '/' :: rest => some (none, resolved rest)
  | _ => some (none, encodeUnless isPrintable cs)

/-- Authority and path of what follows the colon of the scheme; `isEnd` when nothing follows them.
-/
def target? (scheme cs : List Char) (isEnd : Bool) : Option (Option (List Char) × List Char) :=
  let cs := slashed scheme cs
  if isWeb scheme then (webTarget? scheme cs).map fun (a, path) => (some a, path)
  else if isFile scheme then (fileTarget? cs).map fun (host, path) => (some host, path)
  else otherTarget? scheme cs isEnd

/-- Reads an absolute address. -/
def read? (s : String) : Option Address := do
  let (scheme, rest) ← splitScheme? (clean s.toList)
  let (rest, fragment) := cut '#' rest
  let (rest, query) := cut '?' rest
  let (authority, path) ← target? scheme rest (query.isNone && fragment.isNone)
  some {
    scheme, authority, path
    query := query.map (encodeUnless (inQuery (isSpecial scheme)))
    fragment := fragment.map (encodeUnless inFragment) }

/-- What stands between the scheme and the path; a dot keeps a path that starts with two slashes
from being read as an authority. -/
def front (a : Address) : List Char :=
  match a.authority with
  | some authority => '/' :: '/' :: authority
  | none => if ['/', '/'].isPrefixOf a.path then ['/', '.'] else []

def text (a : Address) : String :=
  String.ofList (a.scheme ++ ':' :: a.front ++ a.path ++
    (a.query.map ('?' :: ·)).getD [] ++ (a.fragment.map ('#' :: ·)).getD [])

/-- Adds pairs at the end of the query. -/
def append (a : Address) (pairs : List (String × String)) : Address :=
  let query := a.query.getD []
  let more := formPairs pairs
  let separator := if query.isEmpty || more.isEmpty then [] else ['&']
  { a with query := some (query ++ separator ++ more) }

end Address

end Registrar.Url
