import BytecodeLint.Crawl.Basic
import BytecodeLint.Proofs.Except

/-!
# Small jars

A jar that holds a few files as they are is written down as the list of these files (`storedJar`).
What an archive of that kind holds is found out once, from its bytes (`Zip.exists_holds`); what a
crawl makes of it follows.

* `Classpath.named_of_manifest`: a jar names what its manifest says.
* `Crawl.jar_of_holds`: a jar with one class gives that class, whatever else it holds.
-/
namespace BytecodeLint

/-- The bytes of a text of plain characters. -/
def Bytes.plain (text : String) : Bytes := text.toList.map fun c => UInt8.ofNat c.toNat

namespace Archive

/-- One step of the check without the table of remainders, which takes long to build. -/
def crcByteByBits (r : UInt32) (b : UInt8) : UInt32 :=
  (r >>> 8) ^^^ Nat.repeat crcBit 8 ((r ^^^ b.toUInt32) &&& 0xff)

def crcByBits (data : ByteArray) : UInt32 := data.foldl crcByteByBits 0xffffffff ^^^ 0xffffffff

theorem crc32_eq (data : ByteArray) : crc32 data = crcByBits data := by
  have hbyte : crcByte = crcByteByBits := by
    funext r b
    have hlow : (r.toNat ^^^ b.toNat) &&& 255 < 256 :=
      Nat.lt_of_le_of_lt Nat.and_le_right (by decide)
    simp [crcByte, crcByteByBits, crcTable, Array.getD, Nat.not_le.2 hlow]
  rw [crc32, hbyte, crcByBits]

/-! ## Archives that store a few files -/

namespace Zip

/-- A file to be stored, with the check of its content. -/
structure Stored where
  name : String
  content : Bytes
  crc : Nat

/-- What both records of a file tell of it: its check, its size twice, the length of its name. -/
def Stored.measures (file : Stored) : Bytes :=
  let crc : Bytes := [0, 8, 16, 24].map fun shift => UInt8.ofNat (file.crc >>> shift)
  let size : Bytes := [UInt8.ofNat file.content.length, 0, 0, 0]
  crc ++ size ++ size ++ [UInt8.ofNat file.name.toList.length, 0]

def Stored.localRecord (file : Stored) : Bytes :=
  [0x50, 0x4b, 3, 4, 20, 0, 0, 0, 0, 0, 0, 0, 33, 0] ++ file.measures ++ [0, 0] ++
    Bytes.plain file.name ++ file.content

def Stored.centralRecord (file : Stored) (offset : Nat) : Bytes :=
  [0x50, 0x4b, 1, 2, 20, 0, 20, 0, 0, 0, 0, 0, 0, 0, 33, 0] ++ file.measures ++
    [0, 0, 0, 0, 0, 0, 0, 0, 0, 0, 0, 0, UInt8.ofNat offset, 0, 0, 0] ++ Bytes.plain file.name

/-- The central directory of files that are stored one behind the other from the offset on. -/
def centralDirectory (offset : Nat) : List Stored → Bytes
  | [] => []
  | file :: rest =>
    file.centralRecord offset ++ centralDirectory (offset + file.localRecord.length) rest

end Zip

/-- An archive of the files. Its numbers have one byte, so it has to be small. -/
def storedJar (files : List Zip.Stored) : ByteArray :=
  let data := files.flatMap Zip.Stored.localRecord
  let directory := Zip.centralDirectory 0 files
  let count := UInt8.ofNat files.length
  Bytes.toByteArray <| data ++ directory ++
    [0x50, 0x4b, 5, 6, 0, 0, 0, 0, count, 0, count, 0, UInt8.ofNat directory.length, 0, 0, 0,
      UInt8.ofNat data.length, 0, 0, 0, 0, 0]

namespace Zip

/-- The archive of the files: it has their names, all of it can be opened, and each file is read as
it was stored. -/
structure Holds (zip : Zip) (files : List Stored) : Prop where
  bytes : ofBytes? (storedJar files) = some zip
  names : zip.entries.map ZipEntry.name = files.map Stored.name
  opens : (zip.entries.all fun e => (zip.open? e).isSome) = true
  read : ∀ file ∈ files, zip.read file.name = .ok (Bytes.toByteArray file.content)

theorem data_of_ofBytes? {data : ByteArray} {zip : Zip} (h : ofBytes? data = some zip) :
    zip.data = data := by
  obtain ⟨entries, -, h⟩ := Option.bind_eq_some_iff.1 h
  cases h
  rfl

/-- The archive has the file as it was stored. -/
def keeps (zip : Zip) (file : Stored) : Bool :=
  ((zip.find? file.name).bind zip.open?).any fun entry =>
    entry.packing == .stored && entry.packed.data == file.content.toArray &&
      (crcByBits entry.packed).toNat == entry.crc

/-- The archive of the files is one, and has all of them. -/
def isFaithful (files : List Stored) : Bool :=
  (ofBytes? (storedJar files)).any fun zip =>
    zip.entries.map ZipEntry.name == files.map Stored.name &&
      (zip.entries.all fun e => (zip.open? e).isSome) && files.all zip.keeps

theorem read_of_keeps {zip : Zip} {file : Stored} (h : zip.keeps file = true) :
    zip.read file.name = .ok (Bytes.toByteArray file.content) := by
  obtain ⟨⟨packing, ⟨packed⟩, crc⟩, hentry, h⟩ := (Option.any_eq_true ..).1 h
  simp only [Bool.and_eq_true, beq_iff_eq] at h
  obtain ⟨⟨rfl, rfl⟩, hcrc⟩ := h
  rw [Zip.read, hentry]
  simp only [Opened.read, Opened.unpack, crc32_eq, hcrc, ↓reduceIte]
  rfl

theorem exists_holds {files : List Stored} (h : isFaithful files = true) :
    ∃ zip, Holds zip files := by
  obtain ⟨zip, hzip, h⟩ := (Option.any_eq_true ..).1 h
  simp only [Bool.and_eq_true, beq_iff_eq] at h
  obtain ⟨⟨hnames, hopens⟩, hkeeps⟩ := h
  exact ⟨zip, hzip, hnames, hopens, fun file hfile =>
    read_of_keeps (List.all_eq_true.1 hkeeps file hfile)⟩

/-- Reading a file is opening its entry and reading that. -/
theorem read_eq_ok {zip : Zip} {name : String} {data : ByteArray} (h : zip.read name = .ok data) :
    ∃ entry, (zip.find? name).bind zip.open? = some entry ∧ entry.read = .ok data := by
  unfold Zip.read at h
  split at h
  · cases h
  · rename_i entry hentry
    refine ⟨entry, hentry, ?_⟩
    cases hread : entry.read with
    | error fault =>
      rw [hread] at h
      cases h
    | ok data' =>
      rw [hread] at h
      cases h
      rfl

end Zip

end Archive

open Archive (Zip storedJar)

/-! ## Manifests -/

namespace Classpath

/-- A jar has a manifest that can be read, with the given text. -/
def HasManifest (content : ByteArray) (text : String) : Prop :=
  ∃ zip entry bytes, Archive.Zip.ofBytes? content = some zip ∧
    (zip.find? manifestName).bind zip.open? = some entry ∧
    entry.read = .ok bytes ∧ String.fromUTF8? bytes = some text

/-- A jar names what its manifest says, as seen from its path. -/
theorem named_of_manifest {t : FileTree} {p : Path} {content : ByteArray} {text : String}
    (hlookup : t.lookup p = .ok (.file content)) (h : HasManifest content text) :
    named t p = .ok (Manifest.classPath p text) := by
  obtain ⟨zip, entry, bytes, hzip, hentry, hread, htext⟩ := h
  simp only [named, openJar, hlookup, hzip, hentry, manifestText, hread, htext]
  rfl

/-- A manifest of one line. -/
def lineNaming (entry : String) : String := "Class-Path: " ++ entry ++ "\n"

/-- A jar with a manifest of one line names one entry. -/
theorem references_of_line {t : FileTree} {p : Path} {content : ByteArray} {entry : String}
    (hjar : p.isJar = true) (hlookup : t.lookup p = .ok (.file content))
    (hmanifest : HasManifest content (lineNaming entry))
    (hline : (Manifest.classPathValue? (lineNaming entry).toList).map Text.words =
      some [entry.toList]) :
    references t p = .ok [Manifest.locate p entry.toList] := by
  obtain ⟨value, hvalue, hwords⟩ := Option.map_eq_some_iff.1 hline
  have hentries : Manifest.classPath p (lineNaming entry) = [Manifest.locate p entry.toList] := by
    simp only [Manifest.classPath, hvalue, hwords, List.map_cons, List.map_nil]
  rw [references, if_pos hjar, named_of_manifest hlookup hmanifest, hentries]
  simp only [Except.map, sorted, List.mergeSort_singleton]

/-- The manifest of one line as a file. -/
def manifestNaming (entry : String) (crc : Nat) : Zip.Stored :=
  ⟨manifestName, Bytes.plain (lineNaming entry), crc⟩

theorem hasManifest_of_mem {files : List Zip.Stored} (hfiles : Zip.isFaithful files = true)
    {entry : String} {crc : Nat} (hfile : manifestNaming entry crc ∈ files)
    (htext : String.fromUTF8? (Bytes.toByteArray (Bytes.plain (lineNaming entry))) =
      some (lineNaming entry)) :
    HasManifest (storedJar files) (lineNaming entry) := by
  obtain ⟨zip, hzip⟩ := Zip.exists_holds hfiles
  obtain ⟨opened, hopened, hread⟩ := Zip.read_eq_ok (hzip.read _ hfile)
  exact ⟨zip, opened, _, hzip.bytes, hopened, hread, htext⟩

end Classpath

/-! ## Classes -/

namespace Crawl

theorem file_of_jar {t : FileTree} {p : Path} (h : p.extension? = some "jar")
    (isTarget isStrict : Bool) : file t p isTarget isStrict = jar t p isTarget := by
  simp only [file, h]

/-- A jar with one class gives that class, whatever else it holds. -/
theorem jar_of_holds {t : FileTree} {p : Path} {zip : Zip} {files : List Zip.Stored}
    (hlookup : t.lookup p = .ok (.file (storedJar files))) (hzip : zip.Holds files)
    {file : Zip.Stored} (hfile : file ∈ files)
    (hnames : (files.map Zip.Stored.name).filter isClassName = [file.name]) {c : ClassDecl}
    (hparse : (ClassFile.parse file.content).toOption = some c) (isTarget : Bool) :
    jar t p isTarget = .ok ⟨[artifact t p (storedJar files).size isTarget], [c]⟩ := by
  have hopen : openJar t p = .ok zip := by simp only [openJar, hlookup, hzip.bytes]
  have hclasses : classNames zip = [file.name] := by
    rw [classNames, hzip.names, hnames, List.mergeSort_singleton]
  have hparse' : ClassFile.parse (Bytes.ofByteArray (Bytes.toByteArray file.content)) = .ok c :=
    eq_ok_of_toOption hparse
  have hclass : jarClass p zip file.name = .ok c := by
    simp only [jarClass, hzip.read file hfile, parseClass, hparse']
  simp only [jar, hopen, hzip.opens, hclasses, List.mapM_cons, List.mapM_nil, hclass, ↓reduceIte,
    Zip.data_of_ofBytes? hzip.bytes]
  rfl

end Crawl

end BytecodeLint
