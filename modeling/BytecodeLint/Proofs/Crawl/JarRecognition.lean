import BytecodeLint.Proofs.Crawl.Asides
import BytecodeLint.Proofs.Crawl.Delivery

/-!
# What is taken for a jar

A crawl asks twice whether a path is that of a jar. Before its manifest is followed, the extension
counts in any letter case, and it does not matter what stands at the path (`Path.isJar`). Before its
classes are read, a directory is a directory whatever its name, and the extension counts to the
letter (`ScannedAsJar`). So the answers differ on directories that are named like jars, and on jars
with capitals in their extension (`Misjudged`). A crawl that meets such a path never succeeds.

* `isJar_iff`: the eight extensions that count.
* `agree_iff`: where the answers differ.
* `path_of_scannedAsJar`, `scannedAsJar_or_of_path`: how a path is read by the second answer.
* `scannedAsJar_of_met`, `delivered_of_met`: on a crawl that succeeds they agree on every path that
  it meets, and every jar among these is read.
* `run_of_capitals`, `run_of_directory`: how a crawl of such an input fails.
* `annex_misjudged`: a readable jar that is refused, and a directory that is.
-/
namespace BytecodeLint

namespace Path

theorem toLower_eq_iff {c small big : Char} (hsmall : small.toLower = small)
    (hbig : big.toLower = small) (hval : small.val = big.val + 32) :
    c.toLower = small ↔ c = small ∨ c = big := by
  constructor
  · intro h
    unfold Char.toLower at h
    split at h
    · right
      have hshift : c.val + 32 = big.val + 32 := (congrArg Char.val h).trans hval
      exact Char.ext ((UInt32.add_left_inj 32).1 hshift)
    · exact .inl h
  · rintro (rfl | rfl)
    · exact hsmall
    · exact hbig

/-- The extension of a jar in all letter cases. -/
def jarExtensions : List String := ["jar", "jaR", "jAr", "jAR", "Jar", "JaR", "JAr", "JAR"]

theorem map_toLower_eq_jar_iff {ext : String} :
    ext.toList.map Char.toLower = ['j', 'a', 'r'] ↔ ext ∈ jarExtensions := by
  have hj (c : Char) : c.toLower = 'j' ↔ c = 'j' ∨ c = 'J' := toLower_eq_iff rfl rfl rfl
  have ha (c : Char) : c.toLower = 'a' ↔ c = 'a' ∨ c = 'A' := toLower_eq_iff rfl rfl rfl
  have hr (c : Char) : c.toLower = 'r' ↔ c = 'r' ∨ c = 'R' := toLower_eq_iff rfl rfl rfl
  constructor
  · intro h
    simp only [List.map_eq_cons_iff, List.map_eq_nil_iff, hj, ha, hr] at h
    obtain ⟨j, _, hext, hj, a, _, rfl, ha, r, _, rfl, hr, rfl⟩ := h
    rw [← String.ofList_toList (s := ext), hext]
    rcases hj with rfl | rfl <;> rcases ha with rfl | rfl <;> rcases hr with rfl | rfl <;> decide
  · intro h
    simp only [jarExtensions, List.mem_cons, List.not_mem_nil, or_false] at h
    rcases h with rfl | rfl | rfl | rfl | rfl | rfl | rfl | rfl <;> decide

theorem isJar_iff {p : Path} : p.isJar = true ↔ ∃ ext ∈ jarExtensions, p.extension? = some ext := by
  unfold isJar
  split
  · rename_i ext hext
    rw [beq_iff_eq, map_toLower_eq_jar_iff]
    simp [hext]
  · rename_i hext
    simp [hext]

end Path

namespace Crawl

/-- The classes at the path are read as those of a jar. -/
def ScannedAsJar (t : FileTree) (p : Path) : Prop :=
  t.isDirectory p = false ∧ p.extension? = some "jar"

/-- A path that passes for a jar by its extension and is not read as one. -/
inductive Misjudged (t : FileTree) (p : Path) : Prop where
  | directory {ext : String} : p.extension? = some ext → ext ∈ Path.jarExtensions →
      t.isDirectory p = true → Misjudged t p
  | capitals {ext : String} : p.extension? = some ext → ext ∈ Path.jarExtensions →
      t.isDirectory p = false → ext ≠ "jar" → Misjudged t p

/-- The jar at the path can be opened, and of each of its classes, or of one with the same name that
was read before, the result has the name. -/
def Delivered (t : FileTree) (p : Path) (r : CrawlResult) : Prop :=
  ∃ zip, openJar t p = .ok zip ∧ ∀ e ∈ zip.entries, HoldsClass e.name →
    ∃ c, Origin.class? t (.member p e.name) = some c ∧ c.name ∈ r.classes.map ClassDecl.name

section
variable {t : FileTree} {p : Path} {isTarget : Bool}

/-! ## The two questions -/

theorem ScannedAsJar.isJar (h : ScannedAsJar t p) : p.isJar = true :=
  Path.isJar_iff.2 ⟨"jar", by decide, h.2⟩

theorem Misjudged.isJar (h : Misjudged t p) : p.isJar = true := by
  cases h with
  | directory hext hjar _ => exact Path.isJar_iff.2 ⟨_, hjar, hext⟩
  | capitals hext hjar _ _ => exact Path.isJar_iff.2 ⟨_, hjar, hext⟩

theorem Misjudged.not_scannedAsJar (h : Misjudged t p) : ¬ ScannedAsJar t p := by
  rintro ⟨hfile, hext⟩
  cases h with
  | directory _ _ hdir => simp [hdir] at hfile
  | capitals hext' _ _ hne => exact hne (Option.some.inj (hext'.symm.trans hext))

theorem misjudged_of_isJar (hjar : p.isJar = true) (h : ¬ ScannedAsJar t p) : Misjudged t p := by
  obtain ⟨ext, hjar, hext⟩ := Path.isJar_iff.1 hjar
  cases hdir : t.isDirectory p with
  | true => exact .directory hext hjar hdir
  | false => exact .capitals hext hjar hdir fun heq => h ⟨hdir, heq ▸ hext⟩

/-- Both questions have the same answer exactly on the paths that are not misjudged. -/
theorem agree_iff : (p.isJar = true ↔ ScannedAsJar t p) ↔ ¬ Misjudged t p := by
  constructor
  · intro hagree hmis
    exact hmis.not_scannedAsJar (hagree.1 hmis.isJar)
  · intro hmis
    refine ⟨fun hjar => ?_, ScannedAsJar.isJar⟩
    by_contra hscanned
    exact hmis (misjudged_of_isJar hjar hscanned)

theorem openJar_of_named {further : List Path} (h : Classpath.named t p = .ok further) :
    ∃ zip, openJar t p = .ok zip := by
  unfold Classpath.named at h
  split at h
  · cases h
  · rename_i zip hzip
    exact ⟨zip, hzip⟩

/-- A jar whose manifest was followed and whose name is one that is read is read as a jar. -/
theorem scannedAsJar_of_named (hjar : p.isJar = true) {further : List Path}
    (hnamed : Classpath.named t p = .ok further) (hread : isRead p = true) : ScannedAsJar t p := by
  obtain ⟨content, hlookup⟩ := file_of_named hnamed
  refine ⟨isDirectory_eq_false hlookup, ?_⟩
  obtain ⟨ext, hjar, hext⟩ := Path.isJar_iff.1 hjar
  simp only [isRead, Bool.or_eq_true, beq_iff_eq] at hread
  rcases hread with hclass | hjar'
  · obtain rfl : ext = "class" := Option.some.inj (hext.symm.trans hclass)
    exact absurd hjar (by decide)
  · exact hjar'

/-! ## How a path is read -/

theorem path_of_scannedAsJar (h : ScannedAsJar t p) :
    path t p isTarget = jar t p isTarget := by
  rw [path_of_not_isDirectory h.1, file_of_jar h.2]

/-- Whatever else is read is a directory or a class file. -/
theorem scannedAsJar_or_of_path {haul : Haul} (h : path t p isTarget = .ok haul) :
    ScannedAsJar t p ∨ t.isDirectory p = true ∨ p.extension? = some "class" := by
  obtain hdir | ⟨hfile, hread, -⟩ := path_cases h
  · exact .inr (.inl hdir)
  · simp only [isRead, Bool.or_eq_true, beq_iff_eq] at hread
    rcases hread with hclass | hjar
    · exact .inr (.inr hclass)
    · exact .inl ⟨hfile, hjar⟩

/-! ## Inputs that are misjudged -/

/-- A file with capitals in its extension is refused. -/
theorem path_of_capitals (h : Misjudged t p) (hfile : t.isDirectory p = false) :
    path t p isTarget = .error (.unsupported p) := by
  rw [path_of_not_isDirectory hfile]
  cases h with
  | directory _ _ hdir => simp [hdir] at hfile
  | capitals hext hjar _ hne =>
    unfold file
    split
    · rename_i hclass
      cases hext.symm.trans hclass
      exact absurd hjar (by decide)
    · rename_i hjar'
      exact absurd (Option.some.inj (hext.symm.trans hjar')) hne
    · rfl

theorem named_of_directory (h : t.isDirectory p = true) :
    Classpath.named t p = .error (.badArchive p) := by
  have hlookup : t.lookup p = .ok .directory :=
    FileTree.lookup_eq_ok_iff.2 (FileTree.isDirectory_eq_true_iff.1 h)
  simp [Classpath.named, openJar, hlookup]

theorem run_of_capitals (h : Misjudged t p) (hfile : t.isDirectory p = false)
    (classpath : List Path) : run t p classpath = .error (.unsupported p) := by
  rw [run, path_of_capitals h hfile]
  rfl

/-- A directory that is named like a jar is read, and then its manifest is asked for. -/
theorem run_of_directory (h : Misjudged t p) (hdir : t.isDirectory p = true) {own : Haul}
    (hown : path t p true = .ok own) (classpath : List Path) :
    run t p classpath = .error (.badArchive p) := by
  rw [run, hown, ownClassPath, if_pos h.isJar, named_of_directory hdir]
  rfl

end

/-! ## Crawls that succeed -/

section
variable {t : FileTree} {input p : Path} {classpath : List Path} {r : CrawlResult}

/-- The manifest of every jar that is met was followed. -/
theorem named_of_met (h : run t input classpath = .ok r) (hp : Met t input classpath p)
    (hjar : p.isJar = true) : ∃ further, Classpath.named t p = .ok further := by
  obtain ⟨own, named, expanded, others, -, hnamed, hexpanded, -⟩ := run_eq_ok_iff.1 h
  rcases hp with rfl | ⟨named', hnamed', hreached⟩
  · rw [ownClassPath, if_pos hjar] at hnamed
    exact ⟨named, hnamed⟩
  · cases hnamed.symm.trans hnamed'
    obtain ⟨-, further, hfurther⟩ := Classpath.visitable_of_expand hexpanded hreached
    rw [Classpath.references, if_pos hjar] at hfurther
    cases hall : Classpath.named t p with
    | ok all => exact ⟨all, rfl⟩
    | error fault => simp [hall, Except.map] at hfurther

/-- Every file that is met has a name that is read. -/
theorem isRead_of_met (h : run t input classpath = .ok r) (hp : Met t input classpath p)
    {content : ByteArray} (hlookup : t.lookup p = .ok (.file content)) : isRead p = true := by
  obtain ⟨own, named, expanded, others, hown, hnamed, hexpanded, hothers, -⟩ := run_eq_ok_iff.1 h
  rcases hp with rfl | ⟨named', hnamed', hreached⟩
  · exact isRead_of_path hown hlookup
  · cases hnamed.symm.trans hnamed'
    cases hsame : p.samePlace input with
    | true => exact isRead_of_samePlace hown hsame hlookup
    | false =>
      have hin : p ∈ expanded.filter fun p => !p.samePlace input :=
        List.mem_filter.2 ⟨(Classpath.mem_expand_iff hexpanded).2 hreached, by simp [hsame]⟩
      obtain ⟨haul, hhaul⟩ := gather_mem hothers hin
      exact isRead_of_path hhaul hlookup

theorem scannedAsJar_of_met (h : run t input classpath = .ok r) (hp : Met t input classpath p)
    (hjar : p.isJar = true) : ScannedAsJar t p := by
  obtain ⟨further, hnamed⟩ := named_of_met h hp hjar
  obtain ⟨content, hlookup⟩ := file_of_named hnamed
  exact scannedAsJar_of_named hjar hnamed (isRead_of_met h hp hlookup)

/-- The classes of a jar are among the origins at its path. -/
theorem mem_originsAt (h : ScannedAsJar t p) {zip : Archive.Zip} (hzip : openJar t p = .ok zip)
    {e : Archive.ZipEntry} (he : e ∈ zip.entries) (hclass : HoldsClass e.name) :
    .member p e.name ∈ originsAt t p := by
  rw [originsAt, filesAt_of_not_isDirectory h.1, List.flatMap_singleton, originsIn_jar h.2 hzip]
  exact List.mem_map_of_mem (mem_classNames.2 ⟨List.mem_map_of_mem he, hclass⟩)

/-- The classes of a jar are delivered when they are among those that were read. -/
theorem delivered_of_read {own others read : List ClassDecl} {origins : List Origin}
    (hr : Delivers t input classpath own others r) (hread : ∀ c ∈ read, c ∈ own ++ others)
    (horigins : read.map some = origins.map (Origin.class? t)) {zip : Archive.Zip}
    (hzip : openJar t p = .ok zip)
    (hall : ∀ e ∈ zip.entries, HoldsClass e.name → .member p e.name ∈ origins) :
    Delivered t p r := by
  refine ⟨zip, hzip, fun e he hclass => ?_⟩
  have hmem := List.mem_map_of_mem (f := Origin.class? t) (hall e he hclass)
  rw [← horigins] at hmem
  obtain ⟨c, hc, hclass⟩ := List.mem_map.1 hmem
  refine ⟨c, hclass.symm, ?_⟩
  rw [hr.classes, ← firsts_eq_newcomers, mem_map_firsts]
  exact ⟨List.mem_map_of_mem (hread c hc), List.not_mem_nil⟩

theorem delivered_input (h : run t input classpath = .ok r) (hjar : input.isJar = true)
    {zip : Archive.Zip} (hzip : openJar t input = .ok zip) : Delivered t input r := by
  obtain ⟨own, others, -, hr⟩ := delivers_run h
  have hscanned := scannedAsJar_of_met h (.inl rfl) hjar
  exact delivered_of_read hr (fun c hc => List.mem_append_left _ hc) hr.ownRead hzip
    fun e => mem_originsAt hscanned hzip

/-- Two names of one place open the same jar. -/
theorem openJar_of_samePlace (hsame : p.samePlace input = true) {zip : Archive.Zip}
    (hzip : openJar t p = .ok zip) {e : Entry} (hinput : t.lookup input = .ok e) :
    openJar t input = .ok zip := by
  have hcomponents : p.components = input.components := by simpa [Path.samePlace] using hsame
  obtain ⟨content, hlookup, hbytes⟩ := openJar_eq_ok hzip
  obtain ⟨loc, hloc, hfile⟩ := FileTree.lookup_eq_ok_iff.1 hlookup
  obtain ⟨loc', hloc', he⟩ := FileTree.lookup_eq_ok_iff.1 hinput
  cases FileTree.locate_congr hcomponents hloc hloc'
  cases hfile.symm.trans he
  simp [openJar, hinput, hbytes]

/-- An entry that is the input under another name is not read again, but the input was. -/
theorem delivered_of_samePlace (h : run t input classpath = .ok r) (hjar : p.isJar = true)
    (hsame : p.samePlace input = true) {zip : Archive.Zip} (hzip : openJar t p = .ok zip) :
    Delivered t p r := by
  have hcomponents : p.components = input.components := by simpa [Path.samePlace] using hsame
  have hinput : input.isJar = true := by
    rwa [Path.isJar, ← Path.extension?_congr hcomponents, ← Path.isJar]
  obtain ⟨further, hnamed⟩ := named_of_met h (.inl rfl) hinput
  obtain ⟨content, hlookup⟩ := file_of_named hnamed
  have hzip' := openJar_of_samePlace hsame hzip hlookup
  obtain ⟨_, hopen, hclasses⟩ := delivered_input h hinput hzip'
  cases hopen.symm.trans hzip'
  refine ⟨zip, hzip, fun e he hclass => ?_⟩
  obtain ⟨c, hc, hin⟩ := hclasses e he hclass
  refine ⟨c, ?_, hin⟩
  simpa only [Origin.class?, Origin.content?, hzip, hzip'] using hc

/-- Every jar that is met has its classes read. -/
theorem delivered_of_met (h : run t input classpath = .ok r) (hp : Met t input classpath p)
    (hjar : p.isJar = true) : Delivered t p r := by
  obtain ⟨further, hfurther⟩ := named_of_met h hp hjar
  obtain ⟨zip, hzip⟩ := openJar_of_named hfurther
  obtain ⟨own, others, -, hr⟩ := delivers_run h
  obtain ⟨named, expanded, hnamed, hexpanded, hothers⟩ := hr.othersRead
  rcases hp with rfl | ⟨named', hnamed', hreached⟩
  · exact delivered_input h hjar hzip
  · cases hnamed.symm.trans hnamed'
    cases hsame : p.samePlace input with
    | true => exact delivered_of_samePlace h hjar hsame hzip
    | false =>
      have hin : p ∈ expanded.filter fun p => !p.samePlace input :=
        List.mem_filter.2 ⟨(Classpath.mem_expand_iff hexpanded).2 hreached, by simp [hsame]⟩
      have hscanned := scannedAsJar_of_met h (.inr ⟨named, hnamed, hreached⟩) hjar
      exact delivered_of_read hr (fun c hc => List.mem_append_right _ hc) hothers hzip
        fun e he hclass => List.mem_flatMap.2 ⟨p, hin, mem_originsAt hscanned hzip he hclass⟩

end

/-- **Jars are judged twice.** The manifest of a path is followed and its classes are read as those
of a jar, or neither, exactly when the path is not misjudged; whatever is read and not as a jar is
read as a directory or a class file. A crawl that succeeds has met no misjudged path, and has read
the classes of every jar that it has met. A misjudged input makes the crawl fail, either because the
file is not supported or, once everything below it was read, because the directory is no archive. -/
theorem jars_judged_twice (t : FileTree) (input : Path) (classpath : List Path) :
    (∀ p, (p.isJar = true ↔ ScannedAsJar t p) ↔ ¬ Misjudged t p) ∧
    (∀ p isTarget, (ScannedAsJar t p → path t p isTarget = jar t p isTarget) ∧
      ∀ haul, path t p isTarget = .ok haul →
        ScannedAsJar t p ∨ t.isDirectory p = true ∨ p.extension? = some "class") ∧
    (∀ r, run t input classpath = .ok r → ∀ p, Met t input classpath p →
      ¬ Misjudged t p ∧ (p.isJar = true → Delivered t p r)) ∧
    (Misjudged t input → t.isDirectory input = false →
      run t input classpath = .error (.unsupported input)) ∧
    (Misjudged t input → t.isDirectory input = true → ∀ own, path t input true = .ok own →
      run t input classpath = .error (.badArchive input)) := by
  refine ⟨fun p => agree_iff,
    fun p isTarget => ⟨path_of_scannedAsJar, fun haul => scannedAsJar_or_of_path⟩,
    fun r h p hp => ⟨fun hmis => ?_, delivered_of_met h hp⟩,
    fun hmis hfile => run_of_capitals hmis hfile classpath,
    fun hmis hdir own hown => run_of_directory hmis hdir hown classpath⟩
  exact hmis.not_scannedAsJar (scannedAsJar_of_met h hp hmis.isJar)

/-! ## An annex

The same jar stands in a directory under two names, and a directory is named like a jar. -/

/-- The files of a jar with one class and no manifest. -/
def bFiles : List Archive.Zip.Stored :=
  [⟨"B.class", Bytes.ofByteArray (bareClass 66 0), 3091783427⟩]

def bJar : ByteArray := Archive.storedJar bFiles

theorem exists_holds_b : ∃ zip : Archive.Zip, zip.Holds bFiles ∧
    (zip.find? Classpath.manifestName).bind zip.open? = none := by
  have hfaithful : Archive.Zip.isFaithful bFiles = true := by decide +kernel
  obtain ⟨zip, hzip⟩ := Archive.Zip.exists_holds hfaithful
  have hnone : ((Archive.Zip.ofBytes? bJar).all fun zip =>
      ((zip.find? Classpath.manifestName).bind zip.open?).isNone) = true := by decide +kernel
  have hbytes : Archive.Zip.ofBytes? bJar = some zip := hzip.bytes
  rw [hbytes] at hnone
  exact ⟨zip, hzip, Option.isNone_iff_eq_none.1 hnone⟩

def annex : FileTree where
  entries := [(["w"], .directory), (["w", "in"], .directory),
    (["w", "in", "A.class"], .file (bareClass 65 0)), (["w", "lib"], .directory),
    (["w", "lib", "B.JAR"], .file bJar), (["w", "lib", "b.jar"], .file bJar),
    (["w", "x.jar"], .directory), (["w", "x.jar", "A.class"], .file (bareClass 65 0))]
  workingDirectory := ["w"]
  distinct := by decide

theorem path_annex_directory (isTarget : Bool) :
    path annex ⟨"x.jar"⟩ isTarget = .ok ⟨[], [{ name := "A" }]⟩ :=
  path_listed [⟨"x.jar/A.class"⟩] (by decide +kernel) (by decide) (by decide +kernel) isTarget

section
variable {p : Path} (hlookup : annex.lookup p = .ok (.file bJar))
include hlookup

/-- The jar names nothing, under whichever name it is asked. -/
theorem references_annex : Classpath.references annex p = .ok [] := by
  obtain ⟨zip, hzip, hmanifest⟩ := exists_holds_b
  have hbytes : Archive.Zip.ofBytes? bJar = some zip := hzip.bytes
  have hnamed : Classpath.named annex p = .ok [] := by
    simp only [Classpath.named, openJar, hlookup, hbytes, hmanifest]
  unfold Classpath.references
  split
  · simp [hnamed, Except.map, Classpath.sorted]
  · rfl

theorem expand_annex : Classpath.expand annex [p] = .ok [p] := by
  have hentry : annex.hasEntry p = true := FileTree.hasEntry_eq_true_iff.2 ⟨_, hlookup⟩
  rw [Classpath.expand, Classpath.sorted, List.mergeSort_singleton,
    Classpath.visit_cons_ok List.not_mem_nil hentry (references_annex hlookup), List.append_nil,
    Classpath.visit]
  rfl

/-- Its one class can be read, under whichever name it is asked. -/
theorem jar_annex : ∃ artifacts, jar annex p false = .ok ⟨artifacts, [{ name := "B" }]⟩ := by
  obtain ⟨zip, hzip, -⟩ := exists_holds_b
  exact ⟨_, jar_of_holds hlookup hzip List.mem_cons_self (by decide +kernel) (by decide +kernel)
    false⟩

/-- With the jar as its class path the crawl of a directory is decided by how the jar is read. -/
theorem run_annex (hother : p.samePlace ⟨"in"⟩ = false) :
    run annex ⟨"in"⟩ [p] = (path annex p false).map fun haul =>
      result ⟨haul.artifacts, { name := "A" } :: haul.classes⟩ := by
  have hin : path annex ⟨"in"⟩ true = .ok ⟨[], [{ name := "A" }]⟩ :=
    path_listed [⟨"in/A.class"⟩] (by decide +kernel) (by decide) (by decide +kernel) true
  have hnamed : ownClassPath annex ⟨"in"⟩ = .ok [] := if_neg (by decide +kernel)
  have hothers : [p].filter (fun p => !p.samePlace ⟨"in"⟩) = [p] := by simp [hother]
  rw [run, hin, hnamed]
  simp only [bind, Except.bind, List.append_nil, Classpath.sorted, List.mergeSort_singleton,
    expand_annex hlookup, entries, hothers, List.mapM_cons, List.mapM_nil]
  cases path annex p false with
  | error fault => rfl
  | ok haul => simp [Except.map, pure, Except.pure, Haul.concat, Haul.append]

end

/-- A jar of the annex is followed and read. -/
theorem annex_judged : ∃ r, run annex ⟨"in"⟩ [⟨"lib/b.jar"⟩] = .ok r ∧
    Met annex ⟨"in"⟩ [⟨"lib/b.jar"⟩] ⟨"lib/b.jar"⟩ ∧ Path.isJar ⟨"lib/b.jar"⟩ = true ∧
    Delivered annex ⟨"lib/b.jar"⟩ r := by
  have hlookup : annex.lookup ⟨"lib/b.jar"⟩ = .ok (.file bJar) := rfl
  obtain ⟨artifacts, hread⟩ := jar_annex hlookup
  have hscanned : ScannedAsJar annex ⟨"lib/b.jar"⟩ :=
    ⟨isDirectory_eq_false hlookup, by decide +kernel⟩
  have hr := run_annex hlookup (by decide +kernel)
  rw [path_of_scannedAsJar hscanned, hread] at hr
  have hjar : Path.isJar ⟨"lib/b.jar"⟩ = true := by decide +kernel
  have hmet : Met annex ⟨"in"⟩ [⟨"lib/b.jar"⟩] ⟨"lib/b.jar"⟩ :=
    .inr ⟨[], if_neg (by decide +kernel), .given List.mem_cons_self⟩
  exact ⟨_, hr, hmet, hjar, ((jars_judged_twice annex _ _).2.2.1 _ hr _ hmet).2 hjar⟩

/-- The same jar is refused for the capitals in its name, and a directory for the name of a jar,
though both can be read and pass for jars. -/
theorem annex_misjudged :
    (Path.isJar ⟨"lib/B.JAR"⟩ = true ∧ ¬ ScannedAsJar annex ⟨"lib/B.JAR"⟩ ∧
      (∃ artifacts, jar annex ⟨"lib/B.JAR"⟩ false = .ok ⟨artifacts, [{ name := "B" }]⟩) ∧
      run annex ⟨"in"⟩ [⟨"lib/B.JAR"⟩] = .error (.unsupported ⟨"lib/B.JAR"⟩)) ∧
    (Path.isJar ⟨"x.jar"⟩ = true ∧ ¬ ScannedAsJar annex ⟨"x.jar"⟩ ∧
      (∃ artifacts, path annex ⟨"x.jar"⟩ true = .ok ⟨artifacts, [{ name := "A" }]⟩) ∧
      run annex ⟨"x.jar"⟩ [] = .error (.badArchive ⟨"x.jar"⟩)) := by
  have hlookup : annex.lookup ⟨"lib/B.JAR"⟩ = .ok (.file bJar) := rfl
  have hparts : (⟨"lib/B.JAR"⟩ : Path).parts = ["lib"] ++ ["B.JAR"] := by decide
  have hparts' : (⟨"x.jar"⟩ : Path).parts = [] ++ ["x.jar"] := by decide
  have hext := Path.extension?_of_stem "B" "JAR" hparts (by decide) (by decide) (by decide)
  have hext' := Path.extension?_of_stem "x" "jar" hparts' (by decide) (by decide) (by decide)
  have hcapitals : Misjudged annex ⟨"lib/B.JAR"⟩ := .capitals hext (by decide) rfl (by decide)
  have hdirectory : Misjudged annex ⟨"x.jar"⟩ := .directory hext' (by decide) rfl
  refine ⟨⟨hcapitals.isJar, hcapitals.not_scannedAsJar, jar_annex hlookup, ?_⟩,
    hdirectory.isJar, hdirectory.not_scannedAsJar, ⟨_, path_annex_directory true⟩,
    run_of_directory hdirectory rfl (path_annex_directory true) []⟩
  rw [run_annex hlookup (by decide +kernel),
    path_of_capitals hcapitals (isDirectory_eq_false hlookup)]
  rfl

end Crawl

end BytecodeLint
