import BytecodeLint.Text.ClassText

/-!
# Mended text

Bytes that should be UTF-8 but are not can still be shown: each longest stretch that starts a
character and breaks off becomes one replacement character, and so does every other byte that fits
nowhere.
-/

namespace BytecodeLint.Text

/-- What stands in for bytes that are no character. -/
def replacement : Char := Char.ofNat 0xfffd

/-- The bytes that may come second behind a first byte, as a range; `none` when the first byte
starts no sequence of several. -/
def secondRange? (a : UInt8) : Option (UInt8 × UInt8) :=
  if inRange 0xc2 0xdf a then some (0x80, 0xbf)
  else if a == 0xe0 then some (0xa0, 0xbf)
  else if a == 0xed then some (0x80, 0x9f)
  else if inRange 0xe1 0xef a then some (0x80, 0xbf)
  else if a == 0xf0 then some (0x90, 0xbf)
  else if a == 0xf4 then some (0x80, 0x8f)
  else if inRange 0xf1 0xf3 a then some (0x80, 0xbf)
  else none

/-- How many bytes of a sequence come behind its second byte. -/
def laterBytes (a : UInt8) : Nat := if a < 0xe0 then 0 else if a < 0xf0 then 1 else 2

/-- The bits of a first byte that belong to the number of its character. -/
def firstBits (a : UInt8) : Nat :=
  if a < 0xe0 then a.toNat % 32 else if a < 0xf0 then a.toNat % 16 else a.toNat % 8

/-- Takes the `wanted` last bytes of a sequence; `number` and `used` are the bits and the number of
bytes so far, the first byte apart. -/
def mendTail (wanted number used : Nat) (rest : Bytes) : Char × Nat :=
  match wanted, rest with
  | 0, _ => (Char.ofNat number, used)
  | wanted + 1, b :: rest =>
    if isContinuation b then mendTail wanted (number * 64 + low6 b) (used + 1) rest
    else (replacement, used)
  | _ + 1, [] => (replacement, used)

/-- The character at the front, and how many of the bytes after the first belong to it. -/
def mendSequence (a : UInt8) (rest : Bytes) : Char × Nat :=
  if a < 0x80 then (Char.ofNat a.toNat, 0)
  else
    match secondRange? a, rest with
    | some (low, high), b :: rest =>
      if inRange low high b then mendTail (laterBytes a) (firstBits a * 64 + low6 b) 1 rest
      else (replacement, 0)
    | _, _ => (replacement, 0)

/-- The characters that bytes stand for. -/
def mend : Bytes → List Char
  | [] => []
  | a :: rest =>
    let (c, used) := mendSequence a rest
    c :: mend (rest.drop used)
  termination_by bytes => bytes.length
  decreasing_by
    simp only [List.length_drop, List.length_cons]
    omega

/-- The text of bytes that should be UTF-8. -/
def mended (bytes : Bytes) : String := String.ofList (mend bytes)

end BytecodeLint.Text
