import BytecodeLint.Text.Blank

/-!
# Addresses of requests

A request can be sent to fewer texts than there are URLs. Behind `://` it needs a host and, behind
that, a path and a query of the characters allowed there; a text without `://` has to be a host
alone. The part in front of the path is read from left to right: brackets come at most once and in
order, a percent sign may stand in front of `@` only, and one colon is left for the port.
-/

namespace BytecodeLint.Url.Address

def maxLength : Nat := 65534

def maxScheme : Nat := 64

/-- What has been seen of the part in front of the path. -/
structure Scan where
  colons : Nat := 0
  isOpened : Bool := false
  isClosed : Bool := false
  hasPercent : Bool := false
  deriving DecidableEq, Repr

/-- Whether a character may stand anywhere in front of the path. -/
def isPlain (c : Char) : Bool := c.isAlphanum || "!$&'()*+,-.;=_~".toList.contains c

/-- Takes one character. -/
def Scan.step (s : Scan) (c : Char) : Option Scan :=
  if c = ':' then if 8 ≤ s.colons then none else some { s with colons := s.colons + 1 }
  else if c = '[' then if s.hasPercent || s.isOpened then none else some { s with isOpened := true }
  else if c = ']' then
    if s.isOpened && !s.isClosed then
      some { s with isClosed := true, colons := 0, hasPercent := false }
    else none
  else if c = '@' then some { s with colons := 0, hasPercent := false }
  else if c = '%' then some { s with hasPercent := true }
  else if isPlain c then some s
  else none

/-- Whether a text may stand in front of the path. -/
def isAuthority (cs : List Char) : Bool :=
  match cs.foldlM Scan.step {} with
  | some s =>
    s.isOpened == s.isClosed && s.colons ≤ 1 && !s.hasPercent && cs.getLast? != some '@'
  | none => false

/-- Whether a character ends the part in front of the path. -/
def endsAuthority (c : Char) : Bool := c == '/' || c == '?' || c == '#'

def isPathChar (c : Char) : Bool :=
  0x21 ≤ c.toNat && !(['#', '<', '>', '?', '\x60'].contains c)

def isQueryChar (c : Char) : Bool :=
  0x21 ≤ c.toNat && !(['"', '#', '<', '>'].contains c)

/-- Whether a text is a path, with or without a query and a fragment. -/
def isTarget (cs : List Char) : Bool :=
  let cs := cs.takeWhile fun c => c != '#'
  match Text.splitOnce '?' cs with
  | some (path, query) => path.all isPathChar && query.all isQueryChar
  | none => cs.all isPathChar

/-- Whether a request can be sent to an address. -/
def accepts (cs : List Char) : Bool :=
  cs.length ≤ maxLength &&
    match Text.splitOnce ':' cs with
    | some (scheme, '/' :: '/' :: rest) =>
      let authority := rest.takeWhile fun c => !endsAuthority c
      scheme.length ≤ maxScheme && !authority.isEmpty && isAuthority authority &&
        isTarget (rest.dropWhile fun c => !endsAuthority c)
    | _ => isAuthority cs

end BytecodeLint.Url.Address
