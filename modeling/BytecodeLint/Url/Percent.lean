import BytecodeLint.Text.Digits

/-!
# Percent encoding

Characters that may not stand in a part of a URL are written as the bytes of their UTF-8 form, each
a percent sign and two upper-case hexadecimal digits. Which ASCII characters those are depends on
the part; characters outside ASCII are encoded everywhere.
-/

namespace BytecodeLint.Url

def isControl (c : Char) : Bool := c.toNat < 0x20 || c.toNat == 0x7f

def isAscii (c : Char) : Bool := c.toNat < 0x80

/-- Characters encoded in fragments. -/
def inFragmentSet (c : Char) : Bool := isControl c || [' ', '"', '<', '>', '\x60'].contains c

/-- Characters encoded in paths. -/
def inPathSet (c : Char) : Bool := inFragmentSet c || ['#', '?', '\x7b', '\x7d'].contains c

/-- Characters encoded in names and passwords. -/
def inUserSet (c : Char) : Bool :=
  inPathSet c || ['/', ':', ';', '=', '@', '[', '\\', ']', '^', '|'].contains c

/-- Characters encoded in queries. -/
def inQuerySet (c : Char) : Bool := isControl c || [' ', '"', '#', '<', '>'].contains c

/-- Characters encoded in queries of the special schemes. -/
def inSpecialQuerySet (c : Char) : Bool := inQuerySet c || c == '\x27'

/-- An upper-case hexadecimal digit. -/
def upperHex (n : Nat) : Char := (Nat.digitChar n).toUpper

def percentByte (b : UInt8) : List Char := ['%', upperHex (b.toNat / 16), upperHex (b.toNat % 16)]

/-- A character, encoded if it is in the set or outside ASCII. -/
def encodeChar (inSet : Char → Bool) (c : Char) : List Char :=
  if isAscii c && !inSet c then [c]
  else (String.singleton c).toUTF8.data.toList.flatMap percentByte

/-- A text with the characters of a set encoded. -/
def percentEncode (inSet : Char → Bool) (cs : List Char) : List Char :=
  cs.flatMap (encodeChar inSet)

def hexByte? (a b : Char) : Option UInt8 := do
  let high ← Text.hexDigit? a
  let low ← Text.hexDigit? b
  some (UInt8.ofNat (16 * high + low))

/-- The bytes of a text in which percent encodings are resolved; `skip` characters belong to an
encoding already resolved. -/
def percentDecodeFrom (skip : Nat) : List Char → List UInt8
  | [] => []
  | c :: rest =>
    match skip with
    | skip + 1 => percentDecodeFrom skip rest
    | 0 =>
      let plain := (String.singleton c).toUTF8.data.toList
      match c, rest with
      | '%', a :: b :: _ =>
        match hexByte? a b with
        | some byte => byte :: percentDecodeFrom 2 rest
        | none => plain ++ percentDecodeFrom 0 rest
      | _, _ => plain ++ percentDecodeFrom 0 rest

/-- The text after resolving percent encodings; `none` when the bytes are not UTF-8. -/
def percentDecode? (cs : List Char) : Option (List Char) :=
  (String.fromUTF8? ⟨(percentDecodeFrom 0 cs).toArray⟩).map String.toList

end BytecodeLint.Url
