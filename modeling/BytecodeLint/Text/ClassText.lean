import BytecodeLint.Bytes.Reader

/-!
# Text in class files

Class files hold text in a variant of UTF-8 that writes characters beyond the basic plane as two
surrogates of three bytes each. Bytes that are proper UTF-8 are taken as they are. Other bytes are
read from left to right, each time by the first rule that fits; overlong forms are accepted, and
what fits no rule becomes a question mark.
-/

namespace BytecodeLint.Text

/-- Whether a byte continues a sequence: `80` to `BF`. -/
def isContinuation (b : UInt8) : Bool := 0x80 ≤ b && b ≤ 0xbf

def inRange (low high b : UInt8) : Bool := low ≤ b && b ≤ high

def low6 (b : UInt8) : Nat := b.toNat % 64

/-- The character with a number; a surrogate has none and becomes a question mark. -/
def charOrMark (n : Nat) : Char :=
  if n.isValidChar then Char.ofNat n else '?'

def twoBytes (a b : UInt8) : Nat := a.toNat % 32 * 64 + low6 b

def threeBytes (a b c : UInt8) : Nat := a.toNat % 16 * 4096 + low6 b * 64 + low6 c

/-- The number two surrogates stand for together. -/
def surrogatePair (lead trail : Nat) : Nat := (lead - 0xd800) * 1024 + (trail - 0xdc00) + 0x10000

/-- Whether five bytes and the first one make a surrogate pair. -/
def isSurrogatePair (a b c d e f : UInt8) : Bool :=
  a == 0xed && inRange 0xa0 0xaf b && isContinuation c &&
    d == 0xed && inRange 0xb0 0xbf e && isContinuation f

/-- The sequences of one to three bytes: the character at the front, and how many of the bytes
after the first belong to it. -/
def shortSequence (a : UInt8) (rest : Bytes) : Char × Nat :=
  match rest with
  | b :: c :: _ =>
    if inRange 0xe0 0xef a && isContinuation b && isContinuation c then
      (charOrMark (threeBytes a b c), 2)
    else if inRange 0xe0 0xef a && isContinuation b then ('?', 1)
    else if inRange 0xc0 0xdf a && isContinuation b then (charOrMark (twoBytes a b), 1)
    else if a < 0x80 then (Char.ofNat a.toNat, 0)
    else ('?', 0)
  | b :: [] =>
    if inRange 0xe0 0xef a && isContinuation b then ('?', 1)
    else if inRange 0xc0 0xdf a && isContinuation b then (charOrMark (twoBytes a b), 1)
    else if a < 0x80 then (Char.ofNat a.toNat, 0)
    else ('?', 0)
  | [] => if a < 0x80 then (Char.ofNat a.toNat, 0) else ('?', 0)

/-- The character at the front, and how many of the bytes after the first belong to it. -/
def sequence (a : UInt8) (rest : Bytes) : Char × Nat :=
  match rest with
  | b :: c :: d :: e :: f :: _ =>
    if isSurrogatePair a b c d e f then
      (charOrMark (surrogatePair (threeBytes a b c) (threeBytes d e f)), 5)
    else shortSequence a rest
  | _ => shortSequence a rest

/-- Reads bytes that are not proper UTF-8. -/
def lenient : Bytes → List Char
  | [] => []
  | a :: rest =>
    let (c, used) := sequence a rest
    c :: lenient (rest.drop used)
  termination_by bytes => bytes.length
  decreasing_by
    simp only [List.length_drop, List.length_cons]
    omega

/-- The text of a class file string. -/
def ofClassBytes (bytes : Bytes) : String :=
  match String.fromUTF8? bytes.toByteArray with
  | some text => text
  | none => String.ofList (lenient bytes)

end BytecodeLint.Text
