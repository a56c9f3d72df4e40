import BytecodeLint.CommandLine.Run
import BytecodeLint.Proofs.Class.Index
import BytecodeLint.Proofs.Crawl.Jars
import BytecodeLint.Proofs.Crawl.Walk

/-!
# The classes that a crawl delivers

A crawl parses classes from class files and from members of jars. `originsAt` lists the places below
a path from which classes are read, in crawl order, and `Origin.class?` is the class that stands at
such a place. A crawl that succeeds has read a class at every origin (`path_origins`): first those of
the input, then those of the class path entries. Of these it delivers each class that no class before
it has the name of (`Delivers`), so the classes of the input come first, whatever the class path is.

Names are distinct then, and no command line run fails because of a repeated class
(`delivered_classes_coherent`).
-/
namespace BytecodeLint

namespace Crawl

/-! ## Origins of classes -/

/-- Where a class is read from: a class file, or a member of a jar. -/
inductive Origin where
  | file (p : Path)
  | member (jar : Path) (name : String)

/-- The bytes that stand at an origin. -/
def Origin.content? (t : FileTree) : Origin → Option ByteArray
  | .file p => (t.read p).toOption
  | .member jar name => do
    let zip ← (openJar t jar).toOption
    (zip.read name).toOption

/-- The class that stands at an origin. -/
def Origin.class? (t : FileTree) (o : Origin) : Option ClassDecl := do
  let content ← o.content? t
  (ClassFile.parse (Bytes.ofByteArray content)).toOption

/-- A member of a jar that is read as a class: its name ends with `.class`, and it is neither the
description of a module nor meant for some versions of the platform only. -/
def HoldsClass (name : String) : Prop :=
  ".class".toList <:+ name.toList ∧ ¬ "module-info.class".toList <:+ name.toList ∧
    ¬ "META-INF/versions/".toList <+: name.toList

instance : DecidablePred HoldsClass := fun _ => inferInstanceAs (Decidable (_ ∧ _ ∧ _))

/-- The origins in one file: a class file is one itself, a jar has those of its classes by ascending
names. -/
def originsIn (t : FileTree) (p : Path) : List Origin :=
  match p.extension? with
  | some "class" => [.file p]
  | some "jar" =>
    match openJar t p with
    | .ok zip =>
      let names := (zip.entries.map Archive.ZipEntry.name).filter fun name => HoldsClass name
      (names.mergeSort fun a b => a ≤ b).map (.member p)
    | .error _ => []
  | _ => []

/-- The origins at a path, in crawl order. -/
def originsAt (t : FileTree) (p : Path) : List Origin := (filesAt t p).flatMap (originsIn t)

/-! ## Every origin is read -/

section
variable {t : FileTree} {p : Path} {isTarget : Bool} {haul : Haul}

theorem parseClass_eq_ok {origin : String} {content : ByteArray} {c : ClassDecl}
    (h : parseClass origin content = .ok c) :
    ClassFile.parse (Bytes.ofByteArray content) = .ok c := by
  unfold parseClass at h
  split at h <;> cases h
  assumption

theorem classFile_origins (h : classFile t p isTarget = .ok haul) :
    haul.classes.map some = [Origin.class? t (.file p)] := by
  unfold classFile at h
  split at h
  · cases h
  · rename_i content hread
    split at h
    · cases h
    · rename_i c hparse
      cases h
      simp [Origin.class?, Origin.content?, hread, parseClass_eq_ok hparse, Except.toOption]

theorem jarClass_origin {zip : Archive.Zip} (hzip : openJar t p = .ok zip) {name : String}
    {c : ClassDecl} (h : jarClass p zip name = .ok c) :
    Origin.class? t (.member p name) = some c := by
  unfold jarClass at h
  split at h
  · cases h
  · rename_i content hread
    simp [Origin.class?, Origin.content?, hzip, hread, parseClass_eq_ok h, Except.toOption]

theorem jar_origins (h : jar t p isTarget = .ok haul) :
    ∃ zip, openJar t p = .ok zip ∧
      haul.classes.map some = (classNames zip).map fun name => Origin.class? t (.member p name) := by
  unfold jar at h
  split at h
  · cases h
  · rename_i zip hzip
    split at h
    · split at h
      · cases h
      · rename_i classes hclasses
        cases h
        refine ⟨zip, hzip, ?_⟩
        rw [List.map_eq_flatMap, List.map_eq_flatMap]
        refine flatMap_of_mapM hclasses fun name c hc => ?_
        rw [jarClass_origin hzip hc]
    · cases h

theorem isClassName_iff {name : String} : isClassName name = true ↔ HoldsClass name := by
  have hsuffix (ending : String) :
      name.endsWith ending = true ↔ ending.toList <:+ name.toList := by
    rw [← String.endsWith_toSlice, String.Slice.endsWith_string_iff, String.copy_toSlice]
  simp only [isClassName, HoldsClass, Bool.and_eq_true, Bool.not_eq_true', ← Bool.not_eq_true,
    hsuffix, String.startsWith_string_iff, and_assoc]

theorem mem_classNames {zip : Archive.Zip} {name : String} :
    name ∈ classNames zip ↔ name ∈ zip.entries.map Archive.ZipEntry.name ∧ HoldsClass name := by
  rw [classNames, List.mem_mergeSort, List.mem_filter, isClassName_iff]

theorem originsIn_class (hext : p.extension? = some "class") : originsIn t p = [.file p] := by
  simp only [originsIn, hext]

theorem originsIn_jar (hext : p.extension? = some "jar") {zip : Archive.Zip}
    (hzip : openJar t p = .ok zip) : originsIn t p = (classNames zip).map (.member p) := by
  have hnames : isClassName = fun name => decide (HoldsClass name) := by
    funext name
    rw [Bool.eq_iff_iff, isClassName_iff, decide_eq_true_eq]
  simp only [originsIn, hext, hzip, classNames, hnames]

theorem originsIn_other (hclass : p.extension? ≠ some "class") (hjar : p.extension? ≠ some "jar") :
    originsIn t p = [] := by
  unfold originsIn
  split
  · contradiction
  · contradiction
  · rfl

theorem file_origins {isStrict : Bool} (h : file t p isTarget isStrict = .ok haul) :
    haul.classes.map some = (originsIn t p).map (Origin.class? t) := by
  unfold file at h
  split at h
  · rename_i hext
    rw [originsIn_class hext]
    exact classFile_origins h
  · rename_i hext
    obtain ⟨zip, hzip, hclasses⟩ := jar_origins h
    rw [originsIn_jar hext hzip, hclasses, List.map_map]
    rfl
  · rename_i hclass hjar
    rw [originsIn_other hclass hjar]
    split at h <;> cases h
    rfl

theorem path_origins (h : path t p isTarget = .ok haul) :
    haul.classes.map some = (originsAt t p).map (Origin.class? t) := by
  cases hdir : t.isDirectory p with
  | true =>
    rw [path_of_isDirectory hdir, gather_eq_ok_iff] at h
    obtain ⟨hauls, hhauls, rfl⟩ := h
    simp only [originsAt, Haul.concat, List.map_flatMap]
    exact flatMap_of_mapM hhauls fun q haul hq => file_origins hq
  | false =>
    rw [path_of_not_isDirectory hdir] at h
    simpa [originsAt, filesAt_of_not_isDirectory hdir] using file_origins h

end

/-! ## First definitions -/

theorem firstOfEachName_eq (seen : List String) (cs : List ClassDecl) :
    firstOfEachName seen cs = firsts ClassDecl.name seen cs := by
  induction cs generalizing seen with
  | nil => rfl
  | cons c cs ih => rw [firstOfEachName, firsts, ih, ih]

/-- What a crawl of an input and a class path delivers, when `own` are the classes parsed from the
input and `others` those parsed from the class path entries. -/
structure Delivers (t : FileTree) (input : Path) (classpath : List Path)
    (own others : List ClassDecl) (r : CrawlResult) : Prop where
  /-- Every origin at the input is read, in order. -/
  ownRead : own.map some = (originsAt t input).map (Origin.class? t)
  /-- Every origin at the other entries of the expanded class path is read, in order. -/
  othersRead : ∃ named expanded, ownClassPath t input = .ok named ∧
    Classpath.expand t (classpath ++ named) = .ok expanded ∧
    others.map some = ((expanded.filter fun p => !p.samePlace input).flatMap (originsAt t)).map
      (Origin.class? t)
  /-- Later classes of a name are dropped. -/
  classes : r.classes = newcomers ClassDecl.name (own ++ others)
  count : r.classCount = (own ++ others).length
  distinct : (r.classes.map ClassDecl.name).Nodup
  /-- No class path entry takes the place of a class of the input, or comes before it. -/
  front : newcomers ClassDecl.name own <+: r.classes
  indexed : ClassIndex.build r.classes = .ok ⟨r.classes⟩

theorem delivers_run {t : FileTree} {input : Path} {classpath : List Path} {r : CrawlResult}
    (h : run t input classpath = .ok r) :
    ∃ own others, path t input true = .ok own ∧
      Delivers t input classpath own.classes others r := by
  obtain ⟨own, named, expanded, _, hown, hnamed, hexpanded, hothers, rfl⟩ := run_eq_ok_iff.1 h
  obtain ⟨hauls, hhauls, rfl⟩ := gather_eq_ok_iff.1 hothers
  have hothers : (hauls.flatMap Haul.classes).map some =
      ((expanded.filter fun p => !p.samePlace input).flatMap (originsAt t)).map
        (Origin.class? t) := by
    rw [List.map_flatMap, List.map_flatMap]
    exact flatMap_of_mapM hhauls fun p haul hp => path_origins hp
  have hdistinct (cs : List ClassDecl) : ((firstOfEachName [] cs).map ClassDecl.name).Nodup := by
    rw [firstOfEachName_eq]
    exact nodup_map_firsts ..
  exact ⟨own, hauls.flatMap Haul.classes, hown, {
    ownRead := path_origins hown
    othersRead := ⟨named, expanded, hnamed, hexpanded, hothers⟩
    classes := by
      rw [← firsts_eq_newcomers, ← firstOfEachName_eq]
      rfl
    count := rfl
    distinct := hdistinct _
    front := by
      rw [← firsts_eq_newcomers]
      show _ <+: firstOfEachName [] (own.classes ++ hauls.flatMap Haul.classes)
      rw [firstOfEachName_eq, firsts_append]
      exact List.prefix_append ..
    indexed := ClassIndex.build_eq_ok (hdistinct _) }⟩

end Crawl

/-! ## Runs of the program -/

theorem Analysis.run_indexed {σ ε : Type} (a : Analysis) (p : Project σ ε)
    {classes : List ClassDecl} (hnames : (classes.map ClassDecl.name).Nodup) (s : σ)
    (d : DuplicateClasses) : (a.run p classes s).1 ≠ .error (.duplicates d) := by
  rw [run, ClassIndex.build_eq_ok hnames]
  dsimp only
  repeat' split
  all_goals simp

namespace Explanation

@[simp] theorem lines_ofMessage (text : String) : (ofMessage text).lines = [text] := rfl

@[simp] theorem lines_within (context : String) (e : Explanation) :
    (e.within context).lines = context :: e.lines := rfl

end Explanation

namespace CommandLine

/-- How the error text of an outcome begins. -/
def opening (o : Outcome) : List Char := o.stderr.toList.take 10

/-- The message about a repeated class starts like no other. -/
theorem failed_indexing {fault : RunFault} :
    opening (failed fault.explain) = "Error: ind".toList ↔
      ∃ d, fault = .analysis (.duplicates d) := by
  cases fault with
  | endpoint fault => simp [opening, failed, RunFault.explain, Endpoint.explain]
  | crawl fault => cases fault <;> simp [opening, failed, RunFault.explain, CrawlFault.explain]
  | analysis fault =>
    cases fault <;>
      simp [opening, failed, RunFault.explain, AnalysisFault.explain,
        DuplicateClasses.explainIndexing]
  | _ => simp [opening, failed, RunFault.explain]

/-- Collecting ends with what the crawl gives, or with a fault that is none of the analysis. -/
theorem collect_cases (t : FileTree) (o : Options) :
    (∃ r, collect t o = .ok r ∧ Crawl.run t o.input o.classpath = .ok r) ∨
      ∃ fault, collect t o = .error fault ∧ ∀ d, fault ≠ .analysis d := by
  unfold collect checkEndpoint checkPaths
  cases hrun : Crawl.run t o.input o.classpath <;> repeat' split
  all_goals simp [bind, Except.bind, mapError_ok, mapError_error]

theorem analyze_indexed (t : FileTree) (o : Options) {classes : List ClassDecl}
    (hnames : (classes.map ClassDecl.name).Nodup) (d : DuplicateClasses) :
    (analyze t o classes).1 ≠ .error (.analysis (.duplicates d)) := by
  unfold analyze
  split
  · simp
  · rename_i p _
    have hrun := Analysis.standard.run_indexed DirectoryProject.project hnames (t, p) d
    split
    · rename_i fault _ _ heq
      rw [heq] at hrun
      simpa using hrun
    · simp

theorem conclude_cases (t : FileTree) (o : Options) (arguments : List String)
    (durations : Durations) (crawl : CrawlResult) (report : AnalysisReport) :
    (conclude t o arguments durations crawl report).1.exitCode = 0 ∨
      ∃ p fault, (conclude t o arguments durations crawl report).1 =
        failed (RunFault.output p fault).explain := by
  unfold conclude emit
  cases outputFile? o with
  | none => exact .inl rfl
  | some p =>
    dsimp only
    cases t.write p _ with
    | ok t => exact .inl rfl
    | error fault => exact .inr ⟨p, fault, rfl⟩

/-- A run fails with a fault other than a repeated class, or it has another exit code. -/
theorem runOptions_cases (t : FileTree) (o : Options) (arguments : List String) :
    (runOptions t o arguments).1.exitCode ≠ 1 ∨
      ∃ fault : RunFault, (runOptions t o arguments).1 = failed fault.explain ∧
        ∀ d, fault ≠ .analysis (.duplicates d) := by
  unfold runOptions
  obtain ⟨r, hcollect, hcrawl⟩ | ⟨fault, hcollect, hfault⟩ := collect_cases t o
  · obtain ⟨own, others, -, hr⟩ := Crawl.delivers_run hcrawl
    have hindexed := analyze_indexed t o hr.distinct
    rw [hcollect]
    dsimp only
    split
    · rename_i fault _ heq
      exact .inr ⟨fault, rfl, fun d hd => hindexed d (by rw [heq, hd])⟩
    · rename_i report t _
      obtain hzero | ⟨p, fault, hfailed⟩ := conclude_cases t o arguments {} r report
      · exact .inl (by rw [hzero]; decide)
      · exact .inr ⟨_, hfailed, by simp⟩
  · rw [hcollect]
    exact .inr ⟨fault, rfl, fun d => hfault _⟩

theorem run_ne_duplicates (t : FileTree) (arguments : List String) (d : DuplicateClasses) :
    (run t arguments).1 ≠ failed (RunFault.explain (.analysis (.duplicates d))) := by
  intro h
  unfold run at h
  split at h
  · rename_i r _
    have hcode : (refused r).exitCode = 1 := congrArg Outcome.exitCode h
    cases r <;> simp [refused] at hcode
  · rename_i o _
    obtain hcode | ⟨fault, hfault, hother⟩ := runOptions_cases t o arguments
    · exact hcode (by rw [h]; rfl)
    · have hopening : opening (failed fault.explain) = "Error: ind".toList := by
        rw [← hfault, h]
        exact failed_indexing.2 ⟨d, rfl⟩
      obtain ⟨d', hd'⟩ := failed_indexing.1 hopening
      exact hother d' hd'

end CommandLine

namespace Crawl

/-- What a crawl delivers is the class set that its origins make up: every class parsed is counted,
and delivered unless an earlier one has its name; the classes of the input are in front, whatever the
class path is. So no run of the program ends because a class is repeated. -/
theorem delivered_classes_coherent :
    (∀ (t : FileTree) (input : Path), ∃ own, ∀ classpath r, run t input classpath = .ok r →
      ∃ others, Delivers t input classpath own others r) ∧
    ∀ (t : FileTree) (arguments : List String) (d : DuplicateClasses),
      (CommandLine.run t arguments).1 ≠
        CommandLine.failed (CommandLine.RunFault.explain (.analysis (.duplicates d))) := by
  refine ⟨fun t input => ?_, CommandLine.run_ne_duplicates⟩
  -- The input is read before the class path is looked at.
  cases hown : path t input true with
  | ok own =>
    refine ⟨own.classes, fun classpath r h => ?_⟩
    obtain ⟨own', others, hown', hr⟩ := delivers_run h
    cases hown.symm.trans hown'
    exact ⟨others, hr⟩
  | error fault =>
    refine ⟨[], fun classpath r h => ?_⟩
    obtain ⟨own', _, hown', _⟩ := delivers_run h
    cases hown.symm.trans hown'

/-! ## Shadowed classes on a shelf -/

/-- A class file that holds nothing but a name of one letter and access flags. -/
def bareClass (letter flags : UInt8) : ByteArray :=
  ⟨#[0xCA, 0xFE, 0xBA, 0xBE, 0, 0, 0, 52, 0, 3, 1, 0, 1, letter, 7, 0, 1, flags, 0x21, 0, 2, 0, 0,
    0, 0, 0, 0, 0, 0, 0, 0]⟩

/-- The files of a jar with a class `B` that names the directory `extra`. -/
def shelfFiles : List Archive.Zip.Stored :=
  [Classpath.manifestNaming "extra" 3820036783,
    ⟨"B.class", Bytes.ofByteArray (bareClass 66 0), 3091783427⟩]

/-- A directory with a class `A` and another one further down, and for its class path a jar with a
class `B`, a directory with another `B`, and a directory with one more `A`. -/
def shelf : FileTree where
  entries := [(["w"], .directory), (["w", "in"], .directory),
    (["w", "in", "A.class"], .file (bareClass 65 0)), (["w", "in", "z"], .directory),
    (["w", "in", "z", "A.class"], .file (bareClass 65 0x40)),
    (["w", "lib.jar"], .file (Archive.storedJar shelfFiles)), (["w", "more"], .directory),
    (["w", "more", "B.class"], .file (bareClass 66 0x40)), (["w", "extra"], .directory),
    (["w", "extra", "A.class"], .file (bareClass 65 0x40))]
  workingDirectory := ["w"]
  distinct := by decide

/-- What a crawl of the shelf gives: the first class of each name. -/
def shelfResult : CrawlResult :=
  ⟨[artifact shelf ⟨"lib.jar"⟩ (Archive.storedJar shelfFiles).size false], 5,
    [{ name := "A" }, { name := "B" }]⟩

theorem path_shelf_input : path shelf ⟨"in"⟩ true =
    .ok ⟨[], [{ name := "A" }, { name := "A", access := { isEnum := true } }]⟩ := by
  have hdeeper : directory shelf ⟨"in/z"⟩ =
      .ok ⟨[], [{ name := "A", access := { isEnum := true } }]⟩ :=
    directory_listed [⟨"in/z/A.class"⟩] (by decide +kernel) (by decide)
      (by decide +kernel)
  have hclass : entry shelf ⟨"in/A.class"⟩ = .ok ⟨[], [{ name := "A" }]⟩ :=
    eq_ok_of_toOption (by decide +kernel)
  have hentry : entry shelf ⟨"in/z"⟩ = directory shelf ⟨"in/z"⟩ := if_pos (by decide +kernel)
  refine path_listed [⟨"in/A.class"⟩, ⟨"in/z"⟩] (by decide +kernel) (by decide +kernel) ?_ true
  rw [gather_cons, gather_cons, gather_nil, hclass, hentry, hdeeper]
  rfl

theorem lookup_shelf_jar :
    shelf.lookup ⟨"lib.jar"⟩ = .ok (.file (Archive.storedJar shelfFiles)) := rfl

theorem shelfFiles_faithful : Archive.Zip.isFaithful shelfFiles = true := by decide +kernel

theorem path_shelf_jar : path shelf ⟨"lib.jar"⟩ false =
    .ok ⟨shelfResult.artifacts, [{ name := "B" }]⟩ := by
  obtain ⟨zip, hzip⟩ := Archive.Zip.exists_holds shelfFiles_faithful
  rw [path_of_not_isDirectory (by decide +kernel), file_of_jar (by decide +kernel)]
  exact jar_of_holds lookup_shelf_jar hzip (List.mem_cons_of_mem _ List.mem_cons_self)
    (by decide +kernel) (by decide +kernel) false

theorem expand_shelf :
    Classpath.expand shelf [⟨"lib.jar"⟩, ⟨"more"⟩] = .ok [⟨"lib.jar"⟩, ⟨"more"⟩, ⟨"extra"⟩] := by
  have hsorted : Classpath.sorted [⟨"lib.jar"⟩, ⟨"more"⟩] = [⟨"lib.jar"⟩, ⟨"more"⟩] :=
    Classpath.sorted_of_ascending (by decide)
  have hmanifest : Classpath.HasManifest (Archive.storedJar shelfFiles)
      (Classpath.lineNaming "extra") :=
    Classpath.hasManifest_of_mem shelfFiles_faithful List.mem_cons_self (by decide +kernel)
  have hnamed : Manifest.locate ⟨"lib.jar"⟩ "extra".toList = ⟨"extra"⟩ := by decide +kernel
  have hjar : Classpath.references shelf ⟨"lib.jar"⟩ = .ok [⟨"extra"⟩] := by
    rw [Classpath.references_of_line (by decide +kernel) lookup_shelf_jar hmanifest
      (by decide +kernel), hnamed]
  have hmore : Classpath.references shelf ⟨"more"⟩ = .ok [] := if_neg (by decide +kernel)
  have hextra : Classpath.references shelf ⟨"extra"⟩ = .ok [] := if_neg (by decide +kernel)
  rw [Classpath.expand, hsorted, Classpath.visit_cons_ok (by decide) rfl hjar, List.cons_append,
    List.nil_append, Classpath.visit_cons_ok (by decide) rfl hmore, List.append_nil,
    Classpath.visit_cons_ok (by decide) rfl hextra, List.append_nil, Classpath.visit]
  rfl

theorem run_shelf : run shelf ⟨"in"⟩ [⟨"lib.jar"⟩, ⟨"more"⟩] = .ok shelfResult := by
  have hmore : path shelf ⟨"more"⟩ false =
      .ok ⟨[], [{ name := "B", access := { isEnum := true } }]⟩ :=
    path_listed [⟨"more/B.class"⟩] (by decide +kernel) (by decide) (by decide +kernel) false
  have hextra : path shelf ⟨"extra"⟩ false =
      .ok ⟨[], [{ name := "A", access := { isEnum := true } }]⟩ :=
    path_listed [⟨"extra/A.class"⟩] (by decide +kernel) (by decide) (by decide +kernel) false
  have hnamed : ownClassPath shelf ⟨"in"⟩ = .ok [] := if_neg (by decide +kernel)
  have hothers : ([⟨"lib.jar"⟩, ⟨"more"⟩, ⟨"extra"⟩] : List Path).filter
      (fun p => !p.samePlace ⟨"in"⟩) = [⟨"lib.jar"⟩, ⟨"more"⟩, ⟨"extra"⟩] := by decide
  refine run_eq_ok_iff.2 ⟨_, _, _, ⟨shelfResult.artifacts, [{ name := "B" },
    { name := "B", access := { isEnum := true } }, { name := "A", access := { isEnum := true } }]⟩,
    path_shelf_input, hnamed, expand_shelf, ?_, rfl⟩
  rw [hothers, gather_cons, gather_cons, gather_cons, gather_nil, path_shelf_jar, hmore, hextra]
  rfl

/-- On the shelf three classes are shadowed: one within the input, one of a directory that a
manifest names by the input, and one of the class path by a jar that comes before it. -/
theorem shelf_delivered :
    run shelf ⟨"in"⟩ [⟨"lib.jar"⟩, ⟨"more"⟩] = .ok shelfResult ∧
      ∃ own others, Delivers shelf ⟨"in"⟩ [⟨"lib.jar"⟩, ⟨"more"⟩] own others shelfResult := by
  obtain ⟨own, hown⟩ := delivered_classes_coherent.1 shelf ⟨"in"⟩
  exact ⟨run_shelf, own, hown _ _ run_shelf⟩

end Crawl

end BytecodeLint
