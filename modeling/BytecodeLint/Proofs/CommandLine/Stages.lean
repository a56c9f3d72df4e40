import BytecodeLint.Proofs.Analysis.Report
import BytecodeLint.Proofs.Crawl.Delivery
import BytecodeLint.Proofs.Project.Persistence

/-!
# The stages of a run that succeeds

A run that succeeds has collected classes, opened the project, cleared the old markers, written the
new ones and given out the report. Here each of these stages is told apart, with the file tree that
it leaves, so that nothing else has to be known of a run.

* `runTimed`: a run whose stages take some time; `run` is one that takes none.
* `stages_of_analyze`, `stages_of_runTimed`: a success taken apart into its stages.
* `analyze_of_stages`, `runTimed_of_stages`: and put together from them.
* `published`: the report as it is found by one who has the outcome and the tree.
-/

namespace BytecodeLint

namespace DirectoryProject

theorem clear_error {t t' : FileTree} {p p' : DirectoryProject} {fault : DirectoryFault}
    (h : clear t p = (.error fault, t', p')) : t' = t ∧ p' = p := by
  unfold clear at h
  split at h
  · split at h
    · cases h
      exact ⟨rfl, rfl⟩
    · cases h
  · cases h

theorem project_clear (s : FileTree × DirectoryProject) : project.clear s = clear s.1 s.2 := rfl

/-- Trying again to clear is of no use: what failed fails in the same way. -/
theorem clearFrom_eq_ok_iff {attempt retries : Nat} {s s' : FileTree × DirectoryProject} :
    Analysis.clearFrom project attempt retries s = (.ok (), s') ↔
      clear s.1 s.2 = (.ok (), s') := by
  rw [← project_clear]
  induction retries generalizing attempt with
  | zero =>
    rw [Analysis.clearFrom]
    split <;> simp_all
  | succ retries ih =>
    rw [Analysis.clearFrom]
    split
    · simp_all
    · rename_i fault s₁ heq
      have hsame : s₁ = s := by
        obtain ⟨ht, hp⟩ := clear_error heq
        exact Prod.ext ht hp
      rw [hsame, ih]

theorem clearMarkers_eq_ok_iff {n : Nat} {t t' : FileTree} {p p' : DirectoryProject} :
    Analysis.clearMarkers project n (t, p) = (.ok (), t', p') ↔ clear t p = (.ok (), t', p') := by
  rw [Analysis.clearMarkers, clearFrom_eq_ok_iff]

theorem project_flush {t t' : FileTree} {p : DirectoryProject} {result : Except DirectoryFault Unit}
    (h : flush t p = (result, t')) : project.flush (t, p) = (result, t', p) := by
  simp only [project, h]

theorem addAll_eq (ms : List Marker) (t : FileTree) (p : DirectoryProject) :
    Analysis.addAll project ms (t, p) = (.ok (), t, { p with markers := p.markers ++ ms }) := by
  rw [Analysis.addAll_smooth ms (t, p) fun _ _ => rfl, keep_eq]

/-- The store is written once its directory is there or can be made. -/
theorem flush_of_room {t t₁ : FileTree} {p : DirectoryProject} {parent : Path} {loc : Location}
    (hparent : p.store.parent? = some parent) (hne : parent.text ≠ "")
    (hroom : t.ensureDirectory parent = .ok t₁) (hloc : t₁.writeLocation p.store = .ok loc) :
    flush t p = (.ok (), t₁.put loc (.file (MarkerStore.write p.markers).toUTF8)) := by
  have hmade : makeRoom t p.store = (.ok (), t₁) := by
    simp only [makeRoom, hparent, if_neg hne, FileTree.createDirectories, hroom]
  have hwrite : t₁.write p.store (MarkerStore.write p.markers).toUTF8 = .ok _ :=
    FileTree.write_eq_ok_iff.2 ⟨loc, hloc, rfl⟩
  simp only [flush, hmade, hwrite]

end DirectoryProject

namespace CommandLine

open DirectoryProject (load clear flush)

/-! ## Collecting -/

theorem collect_eq_ok_iff {t : FileTree} {o : Options} {crawl : CrawlResult} :
    collect t o = .ok crawl ↔
      checkEndpoint o = .ok () ∧ checkPaths t o = .ok () ∧
        Crawl.run t o.input o.classpath = .ok crawl := by
  unfold collect
  cases checkEndpoint o with
  | error fault => simp [bind, Except.bind]
  | ok =>
    cases checkPaths t o with
    | error fault => simp [bind, Except.bind]
    | ok =>
      cases Crawl.run t o.input o.classpath <;>
        simp [bind, Except.bind, mapError_ok, mapError_error]

/-- What is collected depends on the endpoint, the input and the class path. -/
theorem collect_congr {t : FileTree} {o o' : Options} (hendpoint : o.endpoint = o'.endpoint)
    (hinput : o.input = o'.input) (hclasspath : o.classpath = o'.classpath) :
    collect t o = collect t o' := by
  simp only [collect, checkEndpoint, checkPaths, hendpoint, hinput, hclasspath]

/-! ## The analysis -/

/-- The project that a run opens, with some markers in it. -/
def opened (o : Options) (ms : List Marker) : DirectoryProject where
  root := o.sourceRoot
  extension := DirectoryProject.dotted o.sourceExtension
  store := o.markers
  markers := ms

/-- What a run reports on classes, with the source files that the tree holds once the old markers
are cleared. -/
def reportAt (t : FileTree) (o : Options) (classes : List ClassDecl) : AnalysisReport :=
  Analysis.standard.reportOn DirectoryProject.project classes (t, opened o [])

/-- The source file that a run finds for a class. -/
def source? (t : FileTree) (o : Options) (c : ClassDecl) : Option Resource :=
  DirectoryProject.project.findSource (t, opened o [])
    (sourcePath c.name (DirectoryProject.project.extension (t, opened o [])))

/-- A report depends on the tree and the options only through the source files that are found. -/
theorem reportAt_congr {t t' : FileTree} {o o' : Options} {classes : List ClassDecl}
    (h : ∀ c ∈ classes, source? t o c = source? t' o' c) :
    reportAt t o classes = reportAt t' o' classes := by
  have htargets : Analysis.targets DirectoryProject.project (t, opened o []) classes =
      Analysis.targets DirectoryProject.project (t', opened o' []) classes :=
    List.filterMap_congr fun c hc => congrArg (Option.map (Prod.mk c)) (h c hc)
  have hskipped : Analysis.skipped DirectoryProject.project (t, opened o []) classes =
      Analysis.skipped DirectoryProject.project (t', opened o' []) classes :=
    List.countP_congr fun c hc => by
      have hsource := h c hc
      unfold source? at hsource
      rw [hsource]
  simp only [reportAt, Analysis.reportOn, Analysis.found, htargets, hskipped]

theorem addAll_opened (t : FileTree) (o : Options) (ms : List Marker) :
    Analysis.addAll DirectoryProject.project ms (t, opened o []) = (.ok (), t, opened o ms) :=
  DirectoryProject.addAll_eq ms t (opened o [])

section
variable {t t' t₁ : FileTree} {o : Options} {classes : List ClassDecl}
  (hnames : (classes.map ClassDecl.name).Nodup)
include hnames

theorem analyze_of_stages {ms : List Marker} {report : AnalysisReport}
    (hload : load t o.markers = .ok ms)
    (hclear : clear t (opened o ms) = (.ok (), t₁, opened o []))
    (hreport : report = reportAt t₁ o classes)
    (hflush : flush t₁ (opened o report.markers) = (.ok (), t')) :
    analyze t o classes = (.ok report, t') := by
  have hopen : DirectoryProject.openAt t o.sourceRoot o.sourceExtension o.markers =
      .ok (opened o ms) := DirectoryProject.openAt_eq_ok_iff.2 ⟨ms, hload, rfl⟩
  have hcleared : Analysis.clearMarkers DirectoryProject.project Analysis.standard.maxAttempts
      (t, opened o ms) = (.ok (), t₁, opened o []) :=
    DirectoryProject.clearMarkers_eq_ok_iff.2 hclear
  rw [hreport] at hflush
  rw [analyze, hopen]
  dsimp only
  rw [Analysis.run_done hnames hcleared (addAll_opened t₁ o _)
    (DirectoryProject.project_flush hflush), hreport]
  rfl

theorem stages_of_analyze {report : AnalysisReport} (h : analyze t o classes = (.ok report, t')) :
    ∃ ms t₁, load t o.markers = .ok ms ∧ clear t (opened o ms) = (.ok (), t₁, opened o []) ∧
      report = reportAt t₁ o classes ∧ flush t₁ (opened o report.markers) = (.ok (), t') := by
  unfold analyze at h
  split at h
  · cases h
  · rename_i p hopen
    obtain ⟨ms, hload, rfl⟩ := DirectoryProject.openAt_eq_ok_iff.1 hopen
    rcases hcleared : Analysis.clearMarkers DirectoryProject.project Analysis.standard.maxAttempts
      (t, opened o ms) with ⟨⟨attempts, fault⟩ | ⟨⟩, t₁, p₁⟩
    · rw [opened] at hcleared
      simp [Analysis.run_locked hnames hcleared] at h
    · have hclear : clear t (opened o ms) = (.ok (), t₁, p₁) :=
        DirectoryProject.clearMarkers_eq_ok_iff.1 hcleared
      obtain rfl : p₁ = opened o [] := (DirectoryProject.load_clear hclear).2
      refine ⟨ms, t₁, hload, hclear, ?_⟩
      have hadd := addAll_opened t₁ o
        (Analysis.standard.found DirectoryProject.project classes (t₁, opened o []))
      rcases hflush : flush t₁ (opened o (reportAt t₁ o classes).markers) with ⟨fault | ⟨⟩, t₂⟩
      · have hrun := Analysis.run_unpersisted hnames hcleared hadd
          (DirectoryProject.project_flush hflush)
        rw [opened] at hrun
        rw [hrun] at h
        cases h
      · have hrun := Analysis.run_done hnames hcleared hadd
          (DirectoryProject.project_flush hflush)
        rw [opened] at hrun
        rw [hrun] at h
        cases h
        exact ⟨rfl, hflush⟩

end

/-! ## The report -/

theorem emit_eq_ok_iff {t t' : FileTree} {o : Options} {text stdout : String} :
    emit t o text = (.ok stdout, t') ↔
      outputFile? o = none ∧ stdout = text ∧ t' = t ∨
        ∃ p, outputFile? o = some p ∧ stdout = "" ∧ t.write p text.toUTF8 = .ok t' := by
  unfold emit
  cases outputFile? o with
  | none => simp [eq_comm]
  | some p =>
    dsimp only
    constructor
    · intro h
      split at h
      · rename_i t₁ hwrite
        cases h
        exact .inr ⟨p, rfl, rfl, hwrite⟩
      · cases h
    · rintro (⟨h, -⟩ | ⟨q, hq, rfl, hwrite⟩)
      · cases h
      · cases hq
        rw [hwrite]

/-- The text of the report that a run has given out. -/
def published (o : Options) (outcome : Outcome) (t : FileTree) : Except IoFault String :=
  match outputFile? o with
  | none => .ok outcome.stdout
  | some p => t.readText p

/-! ## The whole run -/

/-- A run whose stages take the given times. -/
def runTimed (durations : Durations) (t : FileTree) (arguments : List String) :
    Outcome × FileTree :=
  match parse arguments.tail with
  | .error r => (refused r, t)
  | .ok o =>
    match collect t o with
    | .error fault => (failed fault.explain, t)
    | .ok crawl =>
      match analyze t o crawl.classes with
      | (.error fault, t) => (failed fault.explain, t)
      | (.ok report, t) => conclude t o arguments durations crawl report

theorem runTimed_none : runTimed {} = run := rfl

/-- The outcome of a run that succeeds. -/
def succeeded (o : Options) (durations : Durations) (crawl : CrawlResult) (report : AnalysisReport)
    (stdout : String) : Outcome where
  exitCode := 0
  stdout := stdout
  stderr := if o.isTimed && !o.isQuiet then timing durations crawl report else ""

/-- The text of the report on a crawl and an analysis. -/
def reportText (o : Options) (arguments : List String) (durations : Durations)
    (crawl : CrawlResult) (report : AnalysisReport) : String :=
  Sarif.text (.of arguments durations o.sourceRoot crawl.artifacts report)

section
variable {durations : Durations} {t t' t₁ : FileTree} {arguments : List String} {o : Options}
  (hparse : parse arguments.tail = .ok o)
include hparse

theorem runTimed_of_stages {crawl : CrawlResult} {report : AnalysisReport} {stdout : String}
    (hcollect : collect t o = .ok crawl)
    (hanalyze : analyze t o crawl.classes = (.ok report, t₁))
    (hemit : emit t₁ o (reportText o arguments durations crawl report) = (.ok stdout, t')) :
    runTimed durations t arguments = (succeeded o durations crawl report stdout, t') := by
  rw [reportText] at hemit
  simp only [runTimed, hparse, hcollect, hanalyze, conclude, hemit]
  rfl

theorem stages_of_runTimed {outcome : Outcome} (h : runTimed durations t arguments = (outcome, t'))
    (hcode : outcome.exitCode = 0) :
    ∃ crawl report t₁ stdout, collect t o = .ok crawl ∧
      analyze t o crawl.classes = (.ok report, t₁) ∧
      emit t₁ o (reportText o arguments durations crawl report) = (.ok stdout, t') ∧
      outcome = succeeded o durations crawl report stdout := by
  simp only [runTimed, hparse] at h
  split at h
  · cases h
    cases hcode
  · rename_i crawl hcollect
    split at h
    · cases h
      cases hcode
    · rename_i report t₁ hanalyze
      simp only [conclude] at h
      split at h
      · cases h
        cases hcode
      · rename_i stdout t₂ hemit
        cases h
        exact ⟨crawl, report, t₁, stdout, hcollect, hanalyze, hemit, rfl⟩

end

/-! ## A small tree -/

section
variable {t t₁ t' : FileTree} {arguments : List String} {o : Options}

/-- A directory without a class path is collected by reading it. -/
theorem collect_directory {own : Haul} (hendpoint : o.endpoint = none)
    (hclasspath : o.classpath = []) (hjar : o.input.isJar = false)
    (hentry : t.hasEntry o.input = true) (hown : Crawl.path t o.input true = .ok own) :
    collect t o = .ok (Crawl.result (own.append {})) := by
  have hnamed : Crawl.ownClassPath t o.input = .ok [] := if_neg (by simp [hjar])
  have hexpand : Classpath.expand t ([] ++ []) = .ok [] := by
    rw [List.append_nil, Classpath.expand, Classpath.sorted, List.mergeSort_nil, Classpath.visit]
  refine collect_eq_ok_iff.2 ⟨?_, ?_, ?_⟩
  · rw [checkEndpoint, hendpoint]
  · rw [checkPaths, if_pos hentry, hclasspath]
    rfl
  · rw [hclasspath]
    exact Crawl.run_eq_ok_iff.2 ⟨own, [], [], {}, hown, hnamed, hexpand, rfl, rfl⟩

/-- The first run on a tree that has no store yet. -/
theorem run_fresh {crawl : CrawlResult} {report : AnalysisReport} {stdout : String}
    (hparse : parse arguments.tail = .ok o) (hcollect : collect t o = .ok crawl)
    (hnames : (crawl.classes.map ClassDecl.name).Nodup) (hstore : t.hasEntry o.markers = false)
    (hreport : report = reportAt t o crawl.classes)
    (hflush : flush t (opened o report.markers) = (.ok (), t₁))
    (hemit : emit t₁ o (reportText o arguments {} crawl report) = (.ok stdout, t')) :
    run t arguments = (succeeded o {} crawl report stdout, t') := by
  have hload : load t o.markers = .ok [] := if_neg (by simp [hstore])
  have hclear : clear t (opened o []) = (.ok (), t, opened o []) :=
    if_neg (by simp [opened, hstore])
  have hanalyze := analyze_of_stages hnames hload hclear hreport hflush
  rw [← runTimed_none]
  exact runTimed_of_stages hparse hcollect hanalyze hemit

end

/-- A class file `A` with a method that adds floating point numbers in line 7. -/
def floatClass : ByteArray :=
  ⟨#[0xca, 0xfe, 0xba, 0xbe, 0, 0, 0, 52,
    -- constant pool: A, the class, f, ()V, Code, LineNumberTable
    0, 7, 1, 0, 1, 65, 7, 0, 1, 1, 0, 1, 102, 1, 0, 3, 40, 41, 86, 1, 0, 4, 67, 111, 100, 101, 1, 0,
    15, 76, 105, 110, 101, 78, 117, 109, 98, 101, 114, 84, 97, 98, 108, 101,
    -- access flags, this class, no super class, no interfaces, no fields
    0, 33, 0, 2, 0, 0, 0, 0, 0, 0,
    -- one method with its code: fadd, return
    0, 1, 0, 9, 0, 3, 0, 4, 0, 1, 0, 5, 0, 0, 0, 26, 0, 2, 0, 0, 0, 0, 0, 2, 98, 177, 0, 0,
    0, 1, 0, 6, 0, 0, 0, 6, 0, 1, 0, 0, 0, 7,
    -- no attributes of the class
    0, 0]⟩

/-- What the class file holds. -/
def floatDecl : ClassDecl where
  name := "A"
  methods := [{
    name := "f"
    descriptor := "()V"
    access := { isStatic := true }
    instructions := [⟨0, 0x62, .other⟩, ⟨1, 0xb1, .other⟩]
    lines := [⟨0, 7⟩] }]

/-- A working directory with the class file in `in` and its source file in `src`. -/
def desk : FileTree where
  entries := [(["w"], .directory), (["w", "in"], .directory),
    (["w", "in", "A.class"], .file floatClass), (["w", "src"], .directory),
    (["w", "src", "A.java"], .file ⟨#[]⟩)]
  workingDirectory := ["w"]
  distinct := by decide

/-- The marker of the method. -/
def deskMarker : Marker where
  guidelineId := "AVOID_FLOAT"
  title := "Avoid Float"
  description := "Floating point arithmetic is slow on devices without an FPU, " ++
    "use int arithmetic where possible!"
  message := "Floating point fadd in A.f()V"
  resource := ⟨"A.java"⟩
  location := "A.f()V"
  offset := 0
  line := some 7

/-- What is collected from `in`. -/
def deskCrawl : CrawlResult := ⟨[], 1, [floatDecl]⟩

theorem path_desk : Crawl.path desk ⟨"in"⟩ true = .ok ⟨[], [floatDecl]⟩ :=
  Crawl.path_listed [⟨"in/A.class"⟩] (by decide +kernel) (by decide) (by decide +kernel) true

theorem standard_eq : Analysis.standard = { guidelines := Guideline.registry } := by
  rw [Analysis.standard, Analysis.ofGuidelines, List.mergeSort_of_pairwise (by decide)]

def deskArguments : List String := ["perfguide", "--input", "in", "--output", "report.sarif"]

def deskOptions : Options where
  input := ⟨"in"⟩
  classpath := []
  sourceRoot := ⟨"src"⟩
  sourceExtension := ".java"
  markers := ⟨".perfguide/markers.json"⟩
  output := some ⟨"report.sarif"⟩
  isQuiet := false
  isTimed := false
  endpoint := none

/-- The report on what is collected. -/
def deskReport : AnalysisReport := reportAt desk deskOptions deskCrawl.classes

/-- The tree with a directory for the store. -/
def deskRoom : FileTree := desk.put ["w", ".perfguide"] .directory

/-- The tree once markers are in the store. -/
def deskStored (ms : List Marker) : FileTree :=
  deskRoom.put ["w", ".perfguide", "markers.json"] (.file (MarkerStore.write ms).toUTF8)

/-- The tree once the report is written, too. -/
def deskReported : FileTree := (deskStored [deskMarker]).put ["w", "report.sarif"]
  (.file (reportText deskOptions deskArguments {} deskCrawl deskReport).toUTF8)

theorem parse_desk : parse deskArguments.tail = .ok deskOptions := rfl

theorem outputFile?_desk : outputFile? deskOptions = some ⟨"report.sarif"⟩ := by decide +kernel

theorem collect_desk : collect desk deskOptions = .ok deskCrawl :=
  collect_directory (t := desk) (o := deskOptions) rfl rfl (by decide +kernel) (by decide +kernel)
    path_desk

theorem markers_desk : deskReport.markers = [deskMarker] := by
  rw [deskReport, reportAt, standard_eq]
  decide +kernel

/-- Wherever the source file is found, the marker is the same. -/
theorem markers_of_source {t : FileTree} {o : Options}
    (h : source? t o floatDecl = some ⟨"A.java"⟩) :
    (reportAt t o deskCrawl.classes).markers = [deskMarker] := by
  have hdesk : source? desk deskOptions floatDecl = some ⟨"A.java"⟩ := rfl
  have hsame : reportAt t o deskCrawl.classes = deskReport := reportAt_congr fun c hc => by
    obtain rfl := List.mem_singleton.1 hc
    exact h.trans hdesk.symm
  rw [hsame, markers_desk]

/-- The usual store is written into its directory. -/
theorem flush_desk {t : FileTree} (hroom : t.ensureDirectory ⟨".perfguide"⟩ = .ok deskRoom)
    {p : DirectoryProject} (hstore : p.store = ⟨".perfguide/markers.json"⟩) :
    flush t p = (.ok (), deskStored p.markers) := by
  have hparent : p.store.parent? = some ⟨".perfguide"⟩ := by
    rw [hstore]
    decide +kernel
  have hloc : deskRoom.writeLocation p.store = .ok ["w", ".perfguide", "markers.json"] := by
    rw [hstore]
    rfl
  exact DirectoryProject.flush_of_room hparent (by decide) hroom hloc

theorem run_desk : run desk deskArguments =
    (succeeded deskOptions {} deskCrawl deskReport "", deskReported) := by
  have hflush : flush desk (opened deskOptions deskReport.markers) =
      (.ok (), deskStored [deskMarker]) := by
    rw [markers_desk]
    exact flush_desk rfl rfl
  have hloc : (deskStored [deskMarker]).writeLocation ⟨"report.sarif"⟩ =
      .ok ["w", "report.sarif"] := rfl
  have hwrite : (deskStored [deskMarker]).write ⟨"report.sarif"⟩
      (reportText deskOptions deskArguments {} deskCrawl deskReport).toUTF8 = .ok deskReported :=
    FileTree.write_eq_ok_iff.2 ⟨_, hloc, rfl⟩
  have hemit : emit (deskStored [deskMarker]) deskOptions (reportText deskOptions deskArguments {}
      deskCrawl deskReport) = (.ok "", deskReported) :=
    emit_eq_ok_iff.2 (.inr ⟨⟨"report.sarif"⟩, outputFile?_desk, rfl, hwrite⟩)
  exact run_fresh parse_desk collect_desk (by decide) rfl rfl hflush hemit

end CommandLine

end BytecodeLint
