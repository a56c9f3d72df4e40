import BytecodeLint.Url.Domain.Basic
import BytecodeLint.Url.Percent

/-!
# Hosts

The host of a special URL is a domain, an IPv4 address or an IPv6 address in brackets. A domain
whose last label is a number has to be an IPv4 address, whose parts may be decimal, octal or
hexadecimal. Other URLs have any text free of delimiters as host, or an IPv6 address in brackets.
-/

namespace BytecodeLint.Url

inductive Fault where
  | relative
  | emptyHost
  | badPort
  | badIpv4
  | badIpv6
  | badDomain
  | badHostCharacter
  deriving DecidableEq, Repr

def Fault.message : Fault → String
  | .relative => "relative URL without a base"
  | .emptyHost => "empty host"
  | .badPort => "invalid port number"
  | .badIpv4 => "invalid IPv4 address"
  | .badIpv6 => "invalid IPv6 address"
  | .badDomain => "invalid international domain name"
  | .badHostCharacter => "invalid domain character"

inductive Host where
  | name (text : List Char)
  | ipv4 (address : Nat)
  | ipv6 (pieces : List Nat)
  deriving DecidableEq, Repr

/-! ## IPv4 -/

/-- A part of an IPv4 address: hexadecimal behind `0x`, octal behind `0`, else decimal. -/
def ipv4Number? : List Char → Option Nat
  | [] => none
  | '0' :: 'x' :: cs => Text.ofDigits? 16 cs
  | '0' :: 'X' :: cs => Text.ofDigits? 16 cs
  | '0' :: c :: cs => Text.ofDigits? 8 (c :: cs)
  | cs => Text.ofDigits? 10 cs

/-- The labels of a domain, without an empty last one. -/
def labels (cs : List Char) : List (List Char) :=
  let all := Text.splitWhere (fun c => c == '.') cs
  if all.getLast? = some [] then all.dropLast else all

/-- Whether the last label of a domain is a number. -/
def endsInNumber (cs : List Char) : Bool :=
  match (labels cs).getLast? with
  | some last => (!last.isEmpty && last.all Char.isDigit) || (ipv4Number? last).isSome
  | none => false

/-- The address of up to four parts: all but the last are bytes, and the last one fills the rest. -/
def ipv4OfParts? : List Nat → Option Nat
  | [] => none
  | parts =>
    let front := parts.dropLast
    let last := parts.getLastD 0
    let room := 8 * (4 - front.length)
    if 4 < parts.length then none
    else if front.any fun n => 255 < n then none
    else if 1 <<< room ≤ last then none
    else some ((front.foldl (fun n b => 256 * n + b) 0 <<< room) + last)

def ipv4? (cs : List Char) : Option Nat := do
  ipv4OfParts? (← (labels cs).mapM ipv4Number?)

def decimal (n : Nat) : List Char := Nat.toDigits 10 n

def ipv4Text (n : Nat) : List Char :=
  decimal (n / 16777216 % 256) ++ '.' :: decimal (n / 65536 % 256) ++ '.' ::
    decimal (n / 256 % 256) ++ '.' :: decimal (n % 256)

/-! ## IPv6 -/

/-- A group of an IPv6 address: up to four hexadecimal digits. -/
def ipv6Group? (cs : List Char) : Option Nat :=
  if cs.isEmpty || 4 < cs.length then none else Text.ofDigits? 16 cs

/-- A part of the IPv4 tail: a decimal byte without leading zeros. -/
def tailByte? (cs : List Char) : Option Nat :=
  match cs with
  | [] => none
  | '0' :: _ :: _ => none
  | cs => (Text.ofDigits? 10 cs).bind fun n => if n < 256 then some n else none

/-- The last group of an IPv6 address: a group, or an IPv4 address that stands for two. -/
def ipv6LastGroup? (cs : List Char) : Option (List Nat) :=
  match Text.splitWhere (fun c => c == '.') cs with
  | [a, b, c, d] => do
    let a ← tailByte? a
    let b ← tailByte? b
    let c ← tailByte? c
    let d ← tailByte? d
    some [256 * a + b, 256 * c + d]
  | _ => (ipv6Group? cs).map fun n => [n]

def ipv6Groups? : List (List Char) → Option (List Nat)
  | [] => some []
  | [last] => ipv6LastGroup? last
  | group :: groups => do
    let n ← ipv6Group? group
    let ns ← ipv6Groups? groups
    some (n :: ns)

/-- The groups of one side of an address; the side may be empty. -/
def ipv6Side? (cs : List Char) : Option (List Nat) :=
  if cs.isEmpty then some [] else ipv6Groups? (Text.splitWhere (fun c => c == ':') cs)

/-- The texts before and after the first pair of colons. -/
def splitPair : List Char → Option (List Char × List Char)
  | [] => none
  | c :: rest =>
    match c, rest with
    | ':', ':' :: after => some ([], after)
    | _, _ => (splitPair rest).map fun (before, after) => (c :: before, after)

/-- Whether the groups before a pair of colons are written without an IPv4 tail. -/
def noTail (cs : List Char) : Bool := !cs.contains '.'

/-- Reads an IPv6 address: eight pieces, of which a pair of colons leaves out zeros. -/
def ipv6? (cs : List Char) : Option (List Nat) :=
  match splitPair cs with
  | none => do
    let pieces ← ipv6Side? cs
    if pieces.length = 8 then some pieces else none
  | some (before, after) => do
    let front ← ipv6Side? before
    let back ← ipv6Side? after
    if front.length + back.length ≤ 7 && noTail before then
      some (front ++ List.replicate (8 - front.length - back.length) 0 ++ back)
    else none

/-- The number of zeros at the front. -/
def leadingZeros (pieces : List Nat) : Nat := (pieces.takeWhile fun n => n == 0).length

/-- The start and length of the longest run of zeros, the first of several; `start` counts the
pieces passed. -/
def longestRun (start : Nat) : List Nat → Nat × Nat
  | [] => (start, 0)
  | n :: rest =>
    let here := leadingZeros (n :: rest)
    let later := longestRun (start + 1) rest
    if later.2 ≤ here then (start, here) else later

def hexText (n : Nat) : List Char := Nat.toDigits 16 n

/-- An IPv6 address. The longest run of at least two zeros is left out. -/
def ipv6Text (pieces : List Nat) : List Char :=
  let (start, length) := longestRun 0 pieces
  let groups (ns : List Nat) : List Char := Text.joinWith [':'] (ns.map hexText)
  if length < 2 then groups pieces
  else groups (pieces.take start) ++ [':', ':'] ++ groups (pieces.drop (start + length))

/-! ## Domains -/

/-- Characters that no domain holds. -/
def isForbidden (c : Char) : Bool :=
  isControl c || [' ', '#', '%', '/', ':', '<', '>', '?', '@', '[', '\\', ']', '^', '|'].contains c

/-- Characters that no other host holds. -/
def isDelimiter (c : Char) : Bool :=
  c.toNat == 0 || [' ', '#', '/', ':', '<', '>', '?', '@', '[', '\\', ']', '^', '|'].contains c

def bracketed (cs : List Char) : Except Fault Host :=
  if cs.getLast? = some ']' then
    match ipv6? cs.dropLast with
    | some pieces => .ok (.ipv6 pieces)
    | none => .error .badIpv6
  else .error .badIpv6

/-- Reads a domain or an IPv4 address. -/
def domain (cs : List Char) : Except Fault Host :=
  match (percentDecode? cs).bind Domain.toAscii? with
  | none => .error .badDomain
  | some text =>
    if text.any isForbidden then .error .badDomain
    else if text.isEmpty then .error .emptyHost
    else if endsInNumber text then
      match ipv4? text with
      | some address => .ok (.ipv4 address)
      | none => .error .badIpv4
    else .ok (.name text)

/-- Reads the host of a special URL. -/
def specialHost : List Char → Except Fault Host
  | '[' :: cs => bracketed cs
  | cs => domain cs

/-- Reads the host of any other URL. -/
def plainHost : List Char → Except Fault Host
  | '[' :: cs => bracketed cs
  | cs => if cs.any isDelimiter then .error .badHostCharacter
    else .ok (.name (percentEncode isControl cs))

def Host.text : Host → List Char
  | .name text => text
  | .ipv4 address => ipv4Text address
  | .ipv6 pieces => '[' :: ipv6Text pieces ++ [']']

end BytecodeLint.Url
