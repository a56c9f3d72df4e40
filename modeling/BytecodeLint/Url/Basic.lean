import BytecodeLint.Url.Host

/-!
# URLs

A URL is read by cutting its text at delimiters: first the scheme, then the fragment and the query,
then the authority and the path. Each part is brought into a normal form, so that printing a URL
and reading it again gives the same URL:

* scheme and host are in lower case, a default port is left out,
* a backslash counts as a slash in the special schemes,
* segments `.` and `..` are resolved, also in percent encoding,
* characters that may not stand in their part are percent encoded.

Blanks around the text, and tabs and line ends inside it, mean nothing.
-/

namespace BytecodeLint

structure Url.UserInfo where
  user : List Char
  password : List Char
  deriving DecidableEq, Repr

/-- What stands behind the two slashes. -/
structure Url.Authority where
  userInfo : Option Url.UserInfo
  host : Url.Host
  port : Option Nat
  deriving DecidableEq, Repr

/-- A path: segments, each with a slash before it, or a text without structure. -/
inductive Url.Route where
  | segments (items : List (List Char))
  | flat (text : List Char)
  deriving DecidableEq, Repr

/-- A URL in normal form. -/
structure Url where
  scheme : List Char
  authority : Option Url.Authority
  path : Url.Route
  query : Option (List Char)
  fragment : Option (List Char)
  deriving DecidableEq, Repr

namespace Url

/-! ## Schemes -/

/-- How the rest of a URL is read. -/
inductive SchemeKind where
  | special
  | file
  | other
  deriving DecidableEq, Repr

/-- The ports that are left out. -/
def defaultPort? (scheme : List Char) : Option Nat :=
  if scheme = "http".toList ∨ scheme = "ws".toList then some 80
  else if scheme = "https".toList ∨ scheme = "wss".toList then some 443
  else if scheme = "ftp".toList then some 21
  else none

def schemeKind (scheme : List Char) : SchemeKind :=
  if (defaultPort? scheme).isSome then .special
  else if scheme = "file".toList then .file
  else .other

/-- Whether a character may stand in a scheme behind the first letter. -/
def isSchemeChar (c : Char) : Bool := c.isAlphanum || c == '+' || c == '-' || c == '.'

/-- Takes the scheme and its colon. -/
def splitScheme (cs : List Char) : Option (List Char × List Char) :=
  match Text.splitOnce ':' cs with
  | some (scheme, rest) =>
    match scheme with
    | c :: _ =>
      if c.isAlpha && scheme.all isSchemeChar then some (scheme.map Char.toLower, rest) else none
    | [] => none
  | none => none

/-! ## Authority -/

/-- Name and password, when there is one of them. -/
def readUserInfo (cs : List Char) : Option UserInfo :=
  let (user, password) := (Text.splitOnce ':' cs).getD (cs, [])
  if user.isEmpty && password.isEmpty then none
  else some ⟨percentEncode inUserSet user, percentEncode inUserSet password⟩

/-- Cuts a text at the first colon that stands outside brackets. -/
def splitPort (inside : Bool) : List Char → List Char × Option (List Char)
  | [] => ([], none)
  | c :: rest =>
    if c = ':' ∧ inside = false then ([], some rest)
    else
      let inside := if c = '[' then true else if c = ']' then false else inside
      let (host, port) := splitPort inside rest
      (c :: host, port)

/-- Reads a port. An empty one and the default one are left out. -/
def readPort (scheme : List Char) : Option (List Char) → Except Fault (Option Nat)
  | none => .ok none
  | some [] => .ok none
  | some cs =>
    if cs.all Char.isDigit then
      let n := cs.foldl (fun n c => 10 * n + (c.toNat - 48)) 0
      if 65535 < n then .error .badPort
      else if defaultPort? scheme = some n then .ok none
      else .ok (some n)
    else .error .badPort

/-- Reads a host by the kind of its scheme. Only files and other schemes do without one, and only if
nothing that needs a host stands beside it. -/
def readHost (kind : SchemeKind) (cs : List Char) (isAlone : Bool) : Except Fault Host :=
  if cs.isEmpty then
    if kind = .special ∨ isAlone = false then .error .emptyHost else .ok (.name [])
  else
    match kind with
    | .other => plainHost cs
    | _ => specialHost cs

/-- Cuts off what stands in front of the host. -/
def splitUser (cs : List Char) : Option (List Char) × List Char :=
  match Text.splitLast '@' cs with
  | some (user, rest) => (some user, rest)
  | none => (none, cs)

/-- Cuts a port at the first backslash, which belongs to the path. -/
def splitSpill (port : Option (List Char)) : Option (List Char) × List Char :=
  match port with
  | some cs => (some (cs.takeWhile fun c => c != '\\'), cs.dropWhile fun c => c != '\\')
  | none => (none, [])

/-- Reads an authority, and gives the text behind its port that belongs to the path. Without a host
there may be neither port nor name, and no lone `@` in front of what follows the authority. -/
def readAuthority (scheme : List Char) (kind : SchemeKind) (isFollowed : Bool) (cs : List Char) :
    Except Fault (Authority × List Char) := do
  let (user, rest) := splitUser cs
  let (hostText, portText) := splitPort false rest
  let userInfo := user.bind readUserInfo
  let isAlone := userInfo.isNone && portText.isNone && !(user == some [] && isFollowed)
  let host ← readHost kind hostText isAlone
  let (digits, spill) := splitSpill portText
  let port ← readPort scheme digits
  .ok (⟨userInfo, host, port⟩, spill)

/-! ## Path -/

def isSingleDot (segment : List Char) : Bool :=
  let s := segment.map Char.toLower
  s == ".".toList || s == "%2e".toList

def isDoubleDot (segment : List Char) : Bool :=
  let s := segment.map Char.toLower
  s == "..".toList || s == ".%2e".toList || s == "%2e.".toList || s == "%2e%2e".toList

/-- Whether a text names a drive: a letter, then a colon or a bar. -/
def isDrive : List Char → Bool
  | [letter, mark] => letter.isAlpha && (mark == ':' || mark == '|')
  | _ => false

/-- Whether a segment starts with a drive, alone or before a backslash. -/
def startsWithDrive (segment : List Char) : Bool := isDrive (segment.takeWhile fun c => c != '\\')

/-- The segments of the directory above, in reverse. Nothing is above a drive. -/
def above : List (List Char) → List (List Char)
  | [] => []
  | last :: before => if startsWithDrive last then last :: before else before

/-- Resolves dots. The segments so far are given in reverse; a dot at the end leaves an empty
segment. -/
def resolveDots (done : List (List Char)) : List (List Char) → List (List Char)
  | [] => done.reverse
  | [last] =>
    if isDoubleDot last then ([] :: above done).reverse
    else if isSingleDot last then ([] :: done).reverse
    else (last :: done).reverse
  | segment :: rest =>
    if isDoubleDot segment then resolveDots (above done) rest
    else if isSingleDot segment then resolveDots done rest
    else resolveDots (segment :: done) rest

/-- The segments of a path behind its first slash. -/
def segmentsOf (isSlash : Char → Bool) (cs : List Char) : List (List Char) :=
  resolveDots [] ((Text.splitWhere isSlash cs).map (percentEncode inPathSet))

/-- Whether a character separates segments in the special schemes. -/
def isAnySlash (c : Char) : Bool := c == '/' || c == '\\'

/-- Whether a character separates segments in other schemes. -/
def isSlash (c : Char) : Bool := c == '/'

/-- Drops empty segments from the front, but for the last one. -/
def dropEmptyFront : List (List Char) → List (List Char)
  | [] :: next :: rest => dropEmptyFront (next :: rest)
  | items => items

def hasDrive (items : List (List Char)) : Bool := items.head?.any isDrive

/-- Segments in which a drive at the front is written with a colon. -/
def settleDrive : List (List Char) → List (List Char)
  | [letter, '|'] :: rest => if letter.isAlpha then [letter, ':'] :: rest else [letter, '|'] :: rest
  | items => items

/-! ## Reading -/

/-- The text without blanks and control characters at its ends, and without tabs and line ends. -/
def clean (cs : List Char) : List Char :=
  let isEdge (c : Char) : Bool := c.toNat ≤ 0x20
  (Text.dropEnd isEdge (cs.dropWhile isEdge)).filter fun c => c != '\t' && c != '\n' && c != '\r'

/-- Cuts a text at the first occurrence of a character. -/
def cutAt (sep : Char) (cs : List Char) : List Char × Option (List Char) :=
  match Text.splitOnce sep cs with
  | some (before, after) => (before, some after)
  | none => (cs, none)

/-- Authority and path of a special URL other than a file. Any number of slashes leads to the
authority. -/
def specialParts (scheme cs : List Char) : Except Fault (Option Authority × Route) := do
  let cs := cs.dropWhile isAnySlash
  let (authority, _) ← readAuthority scheme .special false (cs.takeWhile fun c => !isAnySlash c)
  let path := (cs.dropWhile fun c => !isAnySlash c).drop 1
  .ok (some authority, .segments (segmentsOf isAnySlash path))

/-- Host and path of a file. A path on a drive needs no host, and no path has empty segments at its
front. -/
def fileRoute (host : Host) (path : List Char) : Option Authority × Route :=
  let segments := segmentsOf isAnySlash path
  let host := if hasDrive segments then .name [] else host
  (some ⟨none, host, none⟩, .segments (dropEmptyFront (settleDrive segments)))

/-- Whether a host is left out of a file URL. -/
def isHere (host : Host) : Bool := host == .name [] || host == .name "localhost".toList

/-- Host and path of a file URL. A drive behind two slashes starts the path. Without a host, the
slash behind it is the front of the path, so that a drive further on stays as it is written. -/
def fileParts (cs : List Char) : Except Fault (Option Authority × Route) :=
  if (cs.take 2).length = 2 ∧ (cs.take 2).all isAnySlash then do
    let cs := cs.drop 2
    let hostText := cs.takeWhile fun c => !isAnySlash c
    let path := cs.dropWhile fun c => !isAnySlash c
    if isDrive hostText then .ok (fileRoute (.name []) cs)
    else
      let host ← readHost .file hostText true
      if isHere host then .ok (fileRoute (.name []) path) else .ok (fileRoute host (path.drop 1))
  else .ok (fileRoute (.name []) (if cs.head?.any isAnySlash then cs.drop 1 else cs))

/-- The segments of a path behind an authority; there need be none. -/
def pathBehind : List Char → List (List Char)
  | [] => []
  | '/' :: rest => segmentsOf isSlash rest
  | path => segmentsOf isSlash path

/-- Authority and path of any other URL. -/
def otherParts (scheme : List Char) (isFollowed : Bool) (cs : List Char) :
    Except Fault (Option Authority × Route) :=
  match cs with
  | '/' :: '/' :: rest => do
    let path := rest.dropWhile fun c => !isSlash c
    let (authority, spill) ←
      readAuthority scheme .other (isFollowed || !path.isEmpty) (rest.takeWhile fun c => !isSlash c)
    .ok (some authority, .segments (pathBehind (spill ++ path)))
  | '/' :: rest => .ok (none, .segments (segmentsOf isSlash rest))
  | cs => .ok (none, .flat (percentEncode isControl cs))

/-- Reads a URL that has a scheme. -/
def parse (text : List Char) : Except Fault Url :=
  match splitScheme (clean text) with
  | none => .error .relative
  | some (scheme, rest) => do
    let (rest, fragment) := cutAt '#' rest
    let (rest, query) := cutAt '?' rest
    let kind := schemeKind scheme
    let (authority, path) ← match kind with
      | .special => specialParts scheme rest
      | .file => fileParts rest
      | .other => otherParts scheme (query.isSome || fragment.isSome) rest
    let querySet := if kind = .other then inQuerySet else inSpecialQuerySet
    .ok {
      scheme
      authority
      path
      query := query.map (percentEncode querySet)
      fragment := fragment.map (percentEncode inFragmentSet) }

/-! ## Printing -/

def segmentsText (items : List (List Char)) : List Char := items.flatMap fun s => '/' :: s

def Route.text : Route → List Char
  | .segments items => segmentsText items
  | .flat text => text

def UserInfo.text (u : UserInfo) : List Char :=
  u.user ++ (if u.password.isEmpty then [] else ':' :: u.password) ++ ['@']

def Authority.text (a : Authority) : List Char :=
  (a.userInfo.map UserInfo.text).getD [] ++ a.host.text ++
    (a.port.map fun n => ':' :: decimal n).getD []

/-- What stands between the scheme and the path. Without an authority, a path that starts with two
slashes is kept from looking like one. -/
def lead (authority : Option Authority) (path : Route) : List Char :=
  match authority, path with
  | some a, _ => ['/', '/'] ++ a.text
  | none, .segments ([] :: _ :: _) => ['/', '.']
  | none, _ => []

/-- A text behind its delimiter, if there is one. -/
def behind (sep : Char) : Option (List Char) → List Char
  | some text => sep :: text
  | none => []

def text (u : Url) : List Char :=
  u.scheme ++ ':' :: lead u.authority u.path ++ u.path.text ++ behind '?' u.query ++
    behind '#' u.fragment

end Url

end BytecodeLint
