import BytecodeLint.Archive.Entry
import BytecodeLint.Archive.Inflate
import BytecodeLint.Failure

/-!
# Zip archives

An archive is described by its central directory, which an end record at the back points at. Where
an end record has no room for a number it is backed by a wide one, which a locator in front of it
points at. Data before the archive moves every place in it by the same distance, and a comment may
follow the end record, so the end record is looked for from the back: the first candidate whose
directory can be read counts.

Entries have distinct keys: a later entry of a key takes the place of an earlier one. Data is stored
or deflated, and its CRC-32 is checked when it is read to its end.
-/

namespace BytecodeLint.Archive

/-- An archive: the file and its entries, keys being distinct. -/
structure Zip where
  data : ByteArray
  entries : List ZipEntry

namespace Zip

/-- Starts an end record. -/
def endMark : Nat := 0x06054b50

/-- Starts a wide end record. -/
def wideEndMark : Nat := 0x06064b50

/-- Starts the locator of a wide end record. -/
def locatorMark : Nat := 0x07064b50

/-- Starts a local header. -/
def localMark : Nat := 0x04034b50

/-! ## The central directory -/

structure EndRecord where
  /-- Where the record itself stands. -/
  start : Nat
  disk : Nat
  directoryDisk : Nat
  entriesHere : Nat
  entriesTotal : Nat
  directorySize : Nat
  directoryOffset : Nat
  deriving DecidableEq, Repr

/-- The end record at a place. Its comment has to end inside the file. -/
def endRecord? (data : ByteArray) (start : Nat) : Option EndRecord := do
  let found ← le32? data start
  if found ≠ endMark then none
  let commentLength ← le16? data (start + 20)
  if data.size < start + 22 + commentLength then none
  some {
    start
    disk := ← le16? data (start + 4)
    directoryDisk := ← le16? data (start + 6)
    entriesHere := ← le16? data (start + 8)
    entriesTotal := ← le16? data (start + 10)
    directorySize := ← le32? data (start + 12)
    directoryOffset := ← le32? data (start + 16) }

/-- Whether numbers of an end record may stand in a wide one. -/
def EndRecord.mayBeWide (record : EndRecord) : Bool :=
  record.entriesTotal == 0xffff || record.directorySize == 0xffffffff ||
    record.directoryOffset == 0xffffffff

/-- A central directory: how far data before the archive moves it, where it stands in the file, and
how many entries it has. -/
structure Directory where
  shift : Nat
  start : Nat
  count : Nat
  deriving DecidableEq, Repr

/-- The first of `count` places from `start` on at which a directory entry begins. -/
def findDirectory? (data : ByteArray) (start count : Nat) : Option Nat :=
  match count with
  | 0 => none
  | count + 1 =>
    if le32? data start = some ZipEntry.mark then some start
    else findDirectory? data (start + 1) count

/-- How far data before the archive moves it. -/
def shift? (data : ByteArray) (record : EndRecord) : Option Nat :=
  if record.entriesTotal = 0 then some (record.start - record.directoryOffset)
  else if record.start ≤ record.directoryOffset then none
  else do
    let found ← findDirectory? data record.directoryOffset (record.start - record.directoryOffset)
    some (found - record.directoryOffset)

/-- The directory to which an end record by itself points. -/
def narrowDirectory? (data : ByteArray) (record : EndRecord) : Option Directory := do
  let shift ← shift? data record
  if record.disk ≠ record.directoryDisk then none
  some ⟨shift, record.directoryOffset + shift, record.entriesHere⟩

structure Locator where
  /-- Where the locator itself stands. -/
  start : Nat
  directoryDisk : Nat
  endOffset : Nat
  disks : Nat
  deriving DecidableEq, Repr

def locator? (data : ByteArray) (record : EndRecord) : Option Locator := do
  if record.start < 20 then none
  let start := record.start - 20
  let found ← le32? data start
  if found ≠ locatorMark then none
  some {
    start
    directoryDisk := ← le32? data (start + 4)
    endOffset := ← le64? data (start + 8)
    disks := ← le32? data (start + 16) }

structure WideRecord where
  start : Nat
  length : Nat
  madeBy : Nat
  needed : Nat
  disk : Nat
  directoryDisk : Nat
  entriesHere : Nat
  entriesTotal : Nat
  directoryOffset : Nat
  deriving DecidableEq, Repr

def wideRecord? (data : ByteArray) (start : Nat) : Option WideRecord := do
  let found ← le32? data start
  if found ≠ wideEndMark then none
  some {
    start
    length := 12 + (← le64? data (start + 4))
    madeBy := ← le16? data (start + 12)
    needed := ← le16? data (start + 14)
    disk := ← le32? data (start + 16)
    directoryDisk := ← le32? data (start + 20)
    entriesHere := ← le64? data (start + 24)
    entriesTotal := ← le64? data (start + 32)
    directoryOffset := ← le64? data (start + 48) }

/-- Whether a wide end record is the one that a locator means: it reaches up to the locator, names
the same disk, and leaves room for the entries in front of it. -/
def WideRecord.fits (record : WideRecord) (locator : Locator) : Bool :=
  56 ≤ record.length && record.start + record.length == locator.start &&
    record.directoryDisk == locator.directoryDisk &&
    46 * record.entriesTotal + record.directoryOffset ≤ record.start

/-- The first wide end record that fits a locator, among `count` places from `start` on. -/
def findWide? (data : ByteArray) (locator : Locator) (start count : Nat) : Option WideRecord :=
  match count with
  | 0 => none
  | count + 1 =>
    match (wideRecord? data start).filter fun record => record.fits locator with
    | some record => some record
    | none => findWide? data locator (start + 1) count

def wideDirectory? (data : ByteArray) (locator : Locator) : Option Directory := do
  if 1 < locator.disks then none
  let record ← findWide? data locator locator.endOffset (locator.start - locator.endOffset)
  if record.entriesTotal < record.entriesHere ∨ record.madeBy < record.needed ∨
    record.disk ≠ record.directoryDisk then none
  let shift := record.start - locator.endOffset
  some ⟨shift, record.directoryOffset + shift, record.entriesTotal⟩

def directory? (data : ByteArray) (record : EndRecord) : Option Directory :=
  match if record.mayBeWide then locator? data record else none with
  | some locator => wideDirectory? data locator
  | none => narrowDirectory? data record

/-- The given number of entries from a place on. -/
def records? (data : ByteArray) (shift start count : Nat) : Option (List ZipEntry) :=
  match count with
  | 0 => some []
  | count + 1 => do
    let (entry, stop) ← ZipEntry.ofRecord? data start
    let later ← records? data shift stop count
    some ({ entry with headerStart := entry.headerStart + shift } :: later)

/-- Puts an entry into a list with distinct keys, in place of one with its key. -/
def putEntry (entries : List ZipEntry) (entry : ZipEntry) : List ZipEntry :=
  if entries.any fun e => e.key == entry.key then
    entries.map fun e => if e.key == entry.key then entry else e
  else entries ++ [entry]

def entries? (data : ByteArray) (record : EndRecord) : Option (List ZipEntry) := do
  let directory ← directory? data record
  let entries ← records? data directory.shift directory.start directory.count
  some (entries.foldl putEntry [])

/-- Looks for an end record that leads to entries, from below place `count` down to the start. -/
def searchFrom (data : ByteArray) (count : Nat) : Option (List ZipEntry) :=
  match count with
  | 0 => none
  | start + 1 =>
    match (endRecord? data start).bind (entries? data) with
    | some entries => some entries
    | none => searchFrom data start

/-- The archive in a file; `none` when there is none. -/
def ofBytes? (data : ByteArray) : Option Zip := do
  let entries ← searchFrom data data.size
  some ⟨data, entries⟩

/-! ## Entries -/

/-- The entry whose key is a text in UTF-8. -/
def find? (zip : Zip) (name : String) : Option ZipEntry :=
  let key := Bytes.ofByteArray name.toUTF8
  zip.entries.find? fun e => e.key == key

inductive Fault where
  | unreadable
  | io (fault : IoFault)
  deriving DecidableEq, Repr

def Fault.root : Fault → RootCause
  | .unreadable => .archive
  | .io fault => .io fault

/-- Where the data of an entry starts: behind its local header. -/
def dataStart? (zip : Zip) (entry : ZipEntry) : Option Nat := do
  let start := entry.headerStart
  let found ← le32? zip.data start
  if found ≠ localMark then none
  let nameLength ← le16? zip.data (start + 26)
  let extraLength ← le16? zip.data (start + 28)
  some (start + 30 + nameLength + extraLength)

inductive Packing where
  | stored
  | deflated
  | foreign
  deriving DecidableEq, Repr

/-- The packing with a number. Foreign ones are known, but only the first two can be unpacked. -/
def Packing.ofNumber? (n : Nat) : Option Packing :=
  if n = 0 then some .stored
  else if n = 8 then some .deflated
  else if n = 9 ∨ n = 12 ∨ n = 14 ∨ n = 93 ∨ n = 95 ∨ n = 98 then some .foreign
  else none

/-- An entry that can be read: how it is packed, its packed data and its check. -/
structure Opened where
  packing : Packing
  packed : ByteArray
  crc : Nat

/-- Opens an entry. Encrypted entries and entries with an unknown packing cannot be opened. -/
def open? (zip : Zip) (entry : ZipEntry) : Option Opened := do
  if entry.isEncrypted ∨ entry.isSealed then none
  let start ← zip.dataStart? entry
  let packing ← Packing.ofNumber? entry.method
  some ⟨packing, zip.data.extract start (start + entry.packedSize), entry.crc⟩

/-- Data that is inflated as far as it can be. -/
def inflated (packed : ByteArray) : Except IoFault ByteArray :=
  match Inflate.inflate packed with
  | .ok data => .ok data
  | .error .endOfData => .error .unexpectedEnd
  | .error .broken => .error .invalidInput

/-- The data of an opened entry before it is checked. The unpackers of the foreign packings are left
out: an entry with such a packing can be opened, and reading it fails as if its data were broken. -/
def Opened.unpack (entry : Opened) : Except IoFault ByteArray :=
  match entry.packing with
  | .stored => .ok entry.packed
  | .deflated => inflated entry.packed
  | .foreign => .error .invalidInput

def Opened.read (entry : Opened) : Except IoFault ByteArray :=
  match entry.unpack with
  | .error fault => .error fault
  | .ok data => if (crc32 data).toNat = entry.crc then .ok data else .error .invalidData

def read (zip : Zip) (name : String) : Except Fault ByteArray :=
  match (zip.find? name).bind zip.open? with
  | none => .error .unreadable
  | some entry => entry.read.mapError .io

end Zip

end BytecodeLint.Archive
