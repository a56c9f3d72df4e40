import BytecodeLint.Archive.Crc32
import BytecodeLint.Text.Mended

/-!
# Entries of an archive

The central directory has one record per entry: numbers, then a name, extra fields and a comment.
Name and comment are UTF-8 when the entry says so, else code page 437. An entry is found by the
bytes of its name, whatever text they stand for.

An extra field is a kind, a length and a body. Some kinds change the entry, some only have to be in
order, and all others are passed over:

* `0001` holds eight byte sizes and places where the record has no room for them,
* `7075` and `6375` hold name and comment in UTF-8, with the CRC-32 of what they replace,
* `9901` marks entries with strong encryption,
* `5455` and `000A` hold times.
-/

namespace BytecodeLint.Archive

/-! ## Numbers at a place -/

/-- The bytes at a place, if there are that many. -/
def slice? (data : ByteArray) (start length : Nat) : Option ByteArray :=
  if start + length ≤ data.size then some (data.extract start (start + length)) else none

/-- The number in the two bytes at a place, the low byte first. -/
def le16? (data : ByteArray) (place : Nat) : Option Nat := do
  let a ← data[place]?
  let b ← data[place + 1]?
  some (a.toNat + 256 * b.toNat)

/-- The number in the four bytes at a place, the low byte first. -/
def le32? (data : ByteArray) (place : Nat) : Option Nat := do
  let low ← le16? data place
  let high ← le16? data (place + 2)
  some (low + 65536 * high)

/-- The number in the eight bytes at a place, the low byte first. -/
def le64? (data : ByteArray) (place : Nat) : Option Nat := do
  let low ← le32? data place
  let high ← le32? data (place + 4)
  some (low + 4294967296 * high)

/-! ## Text -/

/-- The characters of code page 437 from `80` on. -/
def codePage437 : Array Char :=
  ("ÇüéâäàåçêëèïîìÄÅÉæÆôöòûùÿÖÜ¢£¥₧ƒáíóúñÑªº¿⌐¬½¼¡«»░▒▓│┤╡╢╖╕╣║╗╝╜╛┐└┴┬├─┼╞╟╚╔╩╦╠═╬╧╨╤╥╙╘╒╓╫╪" ++
    "┘┌█▄▌▐▀αßΓπΣσµτΦΘΩδ∞φε∩≡±≥≤⌠⌡÷≈°∙·√ⁿ²■\u00a0").toList.toArray

def char437 (b : UInt8) : Char :=
  if b < 0x80 then Char.ofNat b.toNat else codePage437.getD (b.toNat - 0x80) '?'

def entryText (isUtf8 : Bool) (bytes : Bytes) : String :=
  if isUtf8 then Text.mended bytes else String.ofList (bytes.map char437)

/-! ## Entries -/

structure ZipEntry where
  /-- The bytes of the name, by which the entry is found. -/
  key : Bytes
  name : String
  comment : String
  isEncrypted : Bool
  /-- Whether the entry is encrypted in the strong way. -/
  isSealed : Bool := false
  method : Nat
  crc : Nat
  size : Nat
  packedSize : Nat
  /-- Where the local header stands. -/
  headerStart : Nat
  deriving DecidableEq, Repr

namespace ZipEntry

open Reader

/-- The number that says that an eight byte one stands in an extra field. -/
def elsewhere : Nat := 0xffffffff

/-- Reads an eight byte number if it is wanted; else keeps the old one. Also tells the number of
bytes taken. -/
def wideNumber (isWanted : Bool) (old : Nat) : Reader (Nat × Nat) :=
  if isWanted then do
    let n ← little 8
    pure (n, 8)
  else pure (old, 0)

/-- Reads wide numbers. A field of full length holds all three. -/
def wideNumbers (e : ZipEntry) (length : Nat) : Reader ZipEntry := do
  let isFull := 24 ≤ length
  let (size, n1) ← wideNumber (isFull || e.size == elsewhere) e.size
  let (packedSize, n2) ← wideNumber (isFull || e.packedSize == elsewhere) e.packedSize
  let (headerStart, n3) ← wideNumber (isFull || e.headerStart == elsewhere) e.headerStart
  if length < n1 + n2 + n3 then fail
  else do
    skip (length - (n1 + n2 + n3))
    pure { e with size, packedSize, headerStart }

/-- Reads text in UTF-8 that replaces what has the given CRC-32: a version, the CRC, the text. -/
def replacementText (replaced : Bytes) (length : Nat) : Reader (Bytes × String) := do
  skip 1
  let crc ← little 4
  if length < 5 then fail
  else do
    let bytes ← take (length - 5)
    if (crc32 replaced.toByteArray).toNat = crc then
      match String.fromUTF8? bytes.toByteArray with
      | some text => pure (bytes, text)
      | none => fail
    else fail

/-- Reads the marks of strong encryption: version, vendor, strength and the method underneath. -/
def strongEncryption (e : ZipEntry) (length : Nat) : Reader ZipEntry := do
  let version ← little 2
  let vendor ← little 2
  let strength ← u8
  let method ← little 2
  if length = 7 ∧ vendor = 0x4541 ∧ (version = 1 ∨ version = 2) ∧ 1 ≤ strength ∧ strength ≤ 3 then
    pure { e with isSealed := true, method }
  else fail

/-- Passes over times in seconds. The flags say which of them are there; a field of five bytes holds
one whatever they say. -/
def skipTimes (length : Nat) : Reader Unit := do
  let flags := (← u8).toNat
  let isSet (i : Nat) : Bool := flags / 1 <<< i % 2 == 1
  if length = 5 then skip 4
  else if length = 1 + 4 * ((List.range 8).filter isSet).length then
    skip (4 * ((List.range 3).filter isSet).length)
  else fail

/-- Passes over precise times: reserved bytes, a mark, a size and three numbers. -/
def skipPreciseTimes (length : Nat) : Reader Unit := do
  skip 4
  let mark ← little 2
  let size ← little 2
  if length = 32 ∧ mark = 1 ∧ size = 24 then skip 24 else fail

def readExtraField (e : ZipEntry) : Reader ZipEntry := do
  let kind ← little 2
  let length ← little 2
  match kind with
  | 0x0001 => wideNumbers e length
  | 0x000a => do
    skipPreciseTimes length
    pure e
  | 0x5455 => do
    skipTimes length
    pure e
  | 0x6375 => do
    let (_, comment) ← replacementText (Bytes.ofByteArray e.comment.toUTF8) length
    pure { e with comment }
  | 0x7075 => do
    let (key, name) ← replacementText e.key length
    pure { e with key, name }
  | 0x9901 => strongEncryption e length
  | _ => do
    skip length
    pure e

/-- Reads extra fields to the end; a single byte that is left over means nothing. Each field takes
at least four bytes, so that their number bounds the rounds. -/
def readExtraFields (fuel : Nat) (e : ZipEntry) (bytes : Bytes) : Option ZipEntry :=
  match fuel, bytes with
  | fuel + 1, a :: b :: rest =>
    match readExtraField e (a :: b :: rest) with
    | some (e, rest) => readExtraFields fuel e rest
    | none => none
  | _, _ => some e

/-- The method that says that only an extra field knows the method. -/
def sealedMethod : Nat := 99

/-- Whether the bit of the given weight is set. -/
def flagSet (flags weight : Nat) : Bool := flags / weight % 2 == 1

/-- Starts an entry of the central directory. -/
def mark : Nat := 0x02014b50

/-- The entry whose record stands at a place, and where the record ends. -/
def ofRecord? (data : ByteArray) (start : Nat) : Option (ZipEntry × Nat) := do
  let found ← le32? data start
  if found ≠ mark then none
  let flags ← le16? data (start + 8)
  let method ← le16? data (start + 10)
  let crc ← le32? data (start + 16)
  let packedSize ← le32? data (start + 20)
  let size ← le32? data (start + 24)
  let nameLength ← le16? data (start + 28)
  let extraLength ← le16? data (start + 30)
  let commentLength ← le16? data (start + 32)
  let headerStart ← le32? data (start + 42)
  let extraStart := start + 46 + nameLength
  let commentStart := extraStart + extraLength
  let key := Bytes.ofByteArray (← slice? data (start + 46) nameLength)
  let extra := Bytes.ofByteArray (← slice? data extraStart extraLength)
  let comment := Bytes.ofByteArray (← slice? data commentStart commentLength)
  let isUtf8 := flagSet flags 2048
  let entry ← readExtraFields extra.length {
    key
    name := entryText isUtf8 key
    comment := entryText isUtf8 comment
    isEncrypted := flagSet flags 1
    method
    crc
    size
    packedSize
    headerStart } extra
  if entry.method = sealedMethod ∧ entry.isSealed = false then none
  some (entry, commentStart + commentLength)

end ZipEntry

end BytecodeLint.Archive
