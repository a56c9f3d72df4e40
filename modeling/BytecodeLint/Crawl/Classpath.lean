import BytecodeLint.Archive.Zip
import BytecodeLint.ClassFile.Resolve
import BytecodeLint.FileTree
import BytecodeLint.Manifest
import BytecodeLint.Unseen

/-!
# Class paths

The manifest of a jar may name further class path entries, and these again. Expansion follows such
references from the front of a queue; an entry is visited once by its text. References may be
circular, and going round through `..` makes ever longer texts; but a text that is too long for
the operating system names no entry, so expansion comes to an end.
-/

namespace BytecodeLint

inductive CrawlFault where
  /-- A class path entry does not exist. -/
  | missing (p : Path)
  /-- A file that is neither class file nor jar. -/
  | unsupported (p : Path)
  /-- A directory that cannot be listed. -/
  | unlisted (p : Path) (fault : IoFault)
  /-- A class file that cannot be read. -/
  | unreadable (p : Path) (fault : IoFault)
  /-- A jar that cannot be opened. -/
  | unopened (p : Path) (fault : IoFault)
  /-- A jar that is no archive, or has an entry that cannot be opened. -/
  | badArchive (p : Path)
  /-- An entry of a jar that cannot be read. -/
  | badEntry (p : Path) (name : String) (fault : Archive.Zip.Fault)
  /-- A manifest that cannot be read. -/
  | badManifest (p : Path) (fault : IoFault)
  /-- A class file that is malformed. -/
  | badClass (origin : String) (fault : ClassFile.Fault)

def CrawlFault.explain : CrawlFault → Explanation
  | .missing p => .ofMessage ("classpath entry not found: " ++ p.text)
  | .unsupported p => .ofMessage ("unsupported input file: " ++ p.text)
  | .unlisted p fault =>
    (Explanation.ofRoot (.io fault)).within ("failed to read directory " ++ p.text)
  | .unreadable p fault => (Explanation.ofRoot (.io fault)).within ("failed to read " ++ p.text)
  | .unopened p fault => (Explanation.ofRoot (.io fault)).within ("failed to open " ++ p.text)
  | .badArchive p => (Explanation.ofRoot .archive).within ("failed to read " ++ p.text)
  | .badEntry p name fault =>
    (Explanation.ofRoot fault.root).within ("failed to read " ++ p.text ++ ":" ++ name)
  | .badManifest p fault =>
    (Explanation.ofRoot (.io fault)).within ("failed to read manifest of " ++ p.text)
  | .badClass origin fault => fault.explain.within ("failed to parse " ++ origin)

/-- Opens the archive at a path. A directory can be opened, but is no archive. -/
def openJar (t : FileTree) (p : Path) : Except CrawlFault Archive.Zip :=
  match t.lookup p with
  | .error fault => .error (.unopened p fault)
  | .ok .directory => .error (.badArchive p)
  | .ok (.file content) =>
    match Archive.Zip.ofBytes? content with
    | some zip => .ok zip
    | none => .error (.badArchive p)

namespace Classpath

def manifestName : String := "META-INF/MANIFEST.MF"

def manifestText (p : Path) (entry : Archive.Zip.Opened) : Except CrawlFault String :=
  match entry.read with
  | .error fault => .error (.badManifest p fault)
  | .ok content =>
    match String.fromUTF8? content with
    | some text => .ok text
    | none => .error (.badManifest p .invalidData)

/-- The class path that the jar at a path names. A jar without a manifest that can be opened names
none. -/
def named (t : FileTree) (p : Path) : Except CrawlFault (List Path) :=
  match openJar t p with
  | .error fault => .error fault
  | .ok zip =>
    match (zip.find? manifestName).bind zip.open? with
    | none => .ok []
    | some entry => (manifestText p entry).map (Manifest.classPath p)

/-- Paths in ascending order of their texts. -/
def sorted (paths : List Path) : List Path := paths.mergeSort fun p q => p.text ≤ q.text

noncomputable def allChars : List Char := (List.range 0x110000).map Char.ofNat

theorem mem_allChars (c : Char) : c ∈ allChars := by
  refine List.mem_map.2 ⟨c.toNat, List.mem_range.2 ?_, Char.ofNat_toNat c⟩
  have := c.valid
  simp only [UInt32.isValidChar, Nat.isValidChar] at this
  simp only [Char.toNat]
  omega

noncomputable def textsUpTo : Nat → List (List Char)
  | 0 => [[]]
  | n + 1 => [] :: (textsUpTo n).flatMap fun cs => allChars.map fun c => c :: cs

theorem mem_textsUpTo {n : Nat} {cs : List Char} (h : cs.length ≤ n) : cs ∈ textsUpTo n := by
  induction n generalizing cs with
  | zero =>
    have : cs = [] := List.length_eq_zero_iff.1 (by omega)
    simp [this, textsUpTo]
  | succ n ih =>
    match cs with
    | [] => simp [textsUpTo]
    | c :: cs =>
      have hcs : cs ∈ textsUpTo n := ih (by simp only [List.length_cons] at h; omega)
      simp only [textsUpTo, List.mem_cons, List.mem_flatMap, List.mem_map]
      exact .inr ⟨cs, hcs, c, mem_allChars c, rfl⟩

/-- The number of texts not yet seen among those short enough to name an entry. -/
noncomputable def unseenTexts (seen : List String) : Nat :=
  unseen String.ofList (textsUpTo FileTree.pathLimit) seen

theorem unseenTexts_cons_lt {t : FileTree} {seen : List String} {p : Path}
    (hentry : t.hasEntry p = true) (hnew : seen.contains p.text = false) :
    unseenTexts (p.text :: seen) < unseenTexts seen := by
  have hmem := mem_textsUpTo (FileTree.length_le_of_hasEntry hentry)
  have hkey : seen.contains (String.ofList p.text.toList) = false := by
    rw [String.ofList_toList]
    exact hnew
  have := unseen_cons_lt String.ofList hmem hkey
  rwa [String.ofList_toList] at this

/-- The further entries that an entry of the class path names, in ascending order. -/
def references (t : FileTree) (p : Path) : Except CrawlFault (List Path) :=
  if p.isJar then (named t p).map sorted else .ok []

/-- Visits the entries of a queue and what they name. The result lists the visited entries in order;
`seen` holds the texts of those visited before. -/
def visit (t : FileTree) (queue : List Path) (seen : List String) : Except CrawlFault (List Path) :=
  match queue with
  | [] => .ok []
  | p :: rest =>
    if _hseen : seen.contains p.text = true then visit t rest seen
    else if _hentry : t.hasEntry p = true then
      match references t p with
      | .error fault => .error fault
      | .ok further =>
        match visit t (rest ++ further) (p.text :: seen) with
        | .error fault => .error fault
        | .ok later => .ok (p :: later)
    else .error (.missing p)
  termination_by (unseenTexts seen, queue.length)
  decreasing_by
    · simp [Prod.lex_def]
    · have := unseenTexts_cons_lt _hentry (by simpa using _hseen)
      simp only [Prod.lex_def]
      omega

/-- All entries that the given ones lead to, themselves included. -/
def expand (t : FileTree) (entries : List Path) : Except CrawlFault (List Path) :=
  visit t (sorted entries) []

end Classpath

end BytecodeLint
