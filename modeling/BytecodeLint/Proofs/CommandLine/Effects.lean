import BytecodeLint.Proofs.CommandLine.Stages
import BytecodeLint.Proofs.FileTree.Change

/-!
# What a run touches

A run reads before it writes: the class files, the jars and the old markers are read first, and a
fault up to there leaves everything as it was. From then on it changes the marker store, the file of
the report, and the directories that are missing around the store.

* `Project.Preserves`, `Analysis.run_preserves`: what all operations of a project keep, an analysis
  keeps.
* `DirectoryProject.preserves`: an analysis in a file tree reworks the store and what is above it.
* `run_touches_only`: the whole run.
-/

namespace BytecodeLint

open FileTree (Reworked)

/-- A path above another as they are written: the parent, the parent of that, and so on. -/
inductive Path.Above : Path → Path → Prop where
  | parent {p q : Path} (h : p.parent? = some q) : Above q p
  | further {p q r : Path} (above : Above q p) (h : q.parent? = some r) : Above r p

/-! ## Analyses -/

section
variable {σ ε : Type}

/-- No operation of the project breaks the property, whether it succeeds or not. -/
structure Project.Preserves (p : Project σ ε) (holds : σ → Prop) : Prop where
  clear : ∀ s, holds s → holds (p.clear s).2
  add : ∀ m s, holds s → holds (p.add m s).2
  flush : ∀ s, holds s → holds (p.flush s).2

namespace Analysis

variable {p : Project σ ε} {holds : σ → Prop} (hp : p.Preserves holds)
include hp

theorem clearFrom_preserves (attempt retries : Nat) {s : σ} (hs : holds s) :
    holds (clearFrom p attempt retries s).2 := by
  induction retries generalizing attempt s with
  | zero =>
    have hnext := hp.clear s hs
    rw [clearFrom]
    split <;> simp_all
  | succ retries ih =>
    have hnext := hp.clear s hs
    rw [clearFrom]
    split
    · simp_all
    · rename_i fault s' heq
      rw [heq] at hnext
      exact ih (attempt + 1) hnext

theorem addAll_preserves (ms : List Marker) {s : σ} (hs : holds s) :
    holds (addAll p ms s).2 := by
  induction ms generalizing s with
  | nil => exact hs
  | cons m ms ih =>
    have hnext := hp.add m s hs
    rw [addAll]
    split
    · rename_i s' heq
      rw [heq] at hnext
      exact ih hnext
    · simp_all

/-- **What every operation keeps, an analysis keeps**, whatever becomes of it. -/
theorem run_preserves (a : Analysis) (classes : List ClassDecl) {s : σ} (hs : holds s) :
    holds (a.run p classes s).2 := by
  rw [run]
  split
  · exact hs
  · have hclear := clearFrom_preserves hp 1 (max a.maxAttempts 1 - 1) hs
    rw [← clearMarkers] at hclear
    split
    · simp_all
    · rename_i index _ _ s₁ hcleared
      rw [hcleared] at hclear
      dsimp only
      have hadd := addAll_preserves hp
        (a.allMarkers (targets p s₁ classes) (a.outcomes index (targets p s₁ classes))) hclear
      split
      · simp_all
      · rename_i s₂ hadded
        rw [hadded] at hadd
        have hflush := hp.flush s₂ hadd
        split <;> simp_all

end Analysis

end

/-! ## Projects in a file tree -/

namespace DirectoryProject

variable {files : Path → Prop}

theorem reworked_clear (t : FileTree) {p : DirectoryProject} (hstore : files p.store) :
    Reworked files (·.Above p.store) t (clear t p).2.1 ∧ (clear t p).2.2.store = p.store := by
  unfold clear
  split
  · split
    · exact ⟨.refl t, rfl⟩
    · rename_i t' hremove
      exact ⟨.removeFile hremove hstore, rfl⟩
  · exact ⟨.refl t, rfl⟩

theorem reworked_makeRoom (t : FileTree) (store : Path) :
    Reworked files (·.Above store) t (makeRoom t store).2 := by
  unfold makeRoom
  split
  · exact .refl t
  · rename_i parent hparent
    split
    · exact .refl t
    · have hmade : Reworked files (·.Above store) t (t.createDirectories parent).2 :=
        (FileTree.createDirectories_spec (fun q r => .further) t parent (.parent hparent)).1
      split <;> simp_all

theorem reworked_flush (t : FileTree) {p : DirectoryProject} (hstore : files p.store) :
    Reworked files (·.Above p.store) t (flush t p).2 := by
  have hroom : Reworked files (·.Above p.store) t (makeRoom t p.store).2 := reworked_makeRoom ..
  unfold flush
  split
  · simp_all
  · rename_i t₁ hmade
    rw [hmade] at hroom
    split
    · exact hroom
    · rename_i t₂ hwrite
      exact hroom.trans (.write hwrite hstore)

/-- The operations of a project rework the store and what is above it. -/
theorem preserves (t : FileTree) {store : Path} (hstore : files store) :
    project.Preserves fun s => s.2.store = store ∧ Reworked files (·.Above store) t s.1 where
  clear := by
    rintro ⟨t₁, p⟩ ⟨rfl, hwork⟩
    obtain ⟨hclear, hsame⟩ := reworked_clear t₁ hstore
    exact ⟨hsame, hwork.trans hclear⟩
  add := by
    rintro m ⟨t₁, p⟩ ⟨rfl, hwork⟩
    exact ⟨rfl, hwork⟩
  flush := by
    rintro ⟨t₁, p⟩ ⟨rfl, hwork⟩
    exact ⟨rfl, hwork.trans (reworked_flush t₁ hstore)⟩

end DirectoryProject

/-! ## Runs -/

namespace CommandLine

/-- The paths at which a run writes files: the marker store and the file of the report. -/
def Written (o : Options) (p : Path) : Prop := p = o.markers ∨ outputFile? o = some p

/-- What keeps a run from getting to its analysis: a missing path, a crawl that fails, or old
markers that cannot be read. -/
inductive Barred (t : FileTree) (o : Options) : Prop where
  | input (h : t.hasEntry o.input = false)
  | classpath (p : Path) (hp : p ∈ o.classpath) (h : t.hasEntry p = false)
  | crawl (fault : CrawlFault) (h : Crawl.run t o.input o.classpath = .error fault)
  | store (fault : DirectoryFault) (h : DirectoryProject.load t o.markers = .error fault)

theorem reworked_analyze (t : FileTree) (o : Options) (classes : List ClassDecl) :
    Reworked (Written o) (·.Above o.markers) t (analyze t o classes).2 := by
  unfold analyze
  split
  · exact .refl t
  · rename_i p hopen
    have hstore : p.store = o.markers := by
      obtain ⟨ms, -, rfl⟩ := DirectoryProject.openAt_eq_ok_iff.1 hopen
      rfl
    have hwritten : Written o o.markers := .inl rfl
    have hwork := Analysis.run_preserves (DirectoryProject.preserves t hwritten) Analysis.standard
      classes (s := (t, p)) ⟨hstore, .refl t⟩
    split <;> simp_all

theorem reworked_emit (t : FileTree) (o : Options) (text : String) :
    Reworked (Written o) (·.Above o.markers) t (emit t o text).2 := by
  unfold emit
  split
  · exact .refl t
  · rename_i p hout
    split
    · rename_i hwrite
      exact .write hwrite (.inr hout)
    · exact .refl t

theorem reworked_conclude (t : FileTree) (o : Options) (arguments : List String)
    (durations : Durations) (crawl : CrawlResult) (report : AnalysisReport) :
    Reworked (Written o) (·.Above o.markers) t
      (conclude t o arguments durations crawl report).2 := by
  have hemit := reworked_emit t o
    (Sarif.text (.of arguments durations o.sourceRoot crawl.artifacts report))
  unfold conclude
  dsimp only
  split <;> simp_all

theorem reworked_runTimed (durations : Durations) (t : FileTree) {arguments : List String}
    {o : Options} (hparse : parse arguments.tail = .ok o) :
    Reworked (Written o) (·.Above o.markers) t (runTimed durations t arguments).2 := by
  simp only [runTimed, hparse]
  split
  · exact .refl t
  · rename_i crawl _
    have hanalyze := reworked_analyze t o crawl.classes
    split
    · simp_all
    · rename_i report t₁ heq
      rw [heq] at hanalyze
      exact hanalyze.trans (reworked_conclude ..)

/-- Whatever bars a run from its analysis, it fails and touches nothing. -/
theorem runOptions_barred {t : FileTree} {o : Options} (h : Barred t o) (arguments : List String) :
    ∃ fault : RunFault, runOptions t o arguments = (failed fault.explain, t) := by
  rcases hcollect : collect t o with fault | crawl
  · exact ⟨fault, by rw [runOptions, hcollect]⟩
  · obtain ⟨⟨⟩, -, hpaths⟩ := bind_eq_ok hcollect
    obtain ⟨⟨⟩, hpaths, hcrawl⟩ := bind_eq_ok hpaths
    unfold checkPaths at hpaths
    cases h with
    | input h => simp [h] at hpaths
    | classpath p hp h =>
      split at hpaths
      · split at hpaths
        · rename_i hnone
          have := List.find?_eq_none.1 hnone p hp
          simp [h] at this
        · cases hpaths
      · cases hpaths
    | crawl fault h =>
      rw [h, mapError_error] at hcrawl
      cases hcrawl
    | store fault h =>
      refine ⟨.project fault, ?_⟩
      have hopen : DirectoryProject.openAt t o.sourceRoot o.sourceExtension o.markers =
          .error fault := by
        rw [DirectoryProject.openAt, h]
        rfl
      rw [runOptions, hcollect]
      dsimp only
      rw [analyze, hopen]

/-- **What a run touches.** Whatever becomes of it, a run changes nothing but the marker store, the
file of the report, and the places above the store where no directory was: at all other locations
stands what stood there. When a path is missing, the crawl fails or the old markers cannot be read,
the run fails and the tree is the one it found. Arguments that are refused touch nothing. -/
theorem run_touches_only (t : FileTree) (arguments : List String) :
    (∀ r, parse arguments.tail = .error r → run t arguments = (refused r, t)) ∧
      ∀ o, parse arguments.tail = .ok o →
        (run t arguments).2.workingDirectory = t.workingDirectory ∧
        (∀ loc, (run t arguments).2.get? loc ≠ t.get? loc →
          t.get? loc ≠ some .directory ∧ (run t arguments).2.Leads (Written o) loc ∨
            t.get? loc = none ∧ (run t arguments).2.get? loc = some .directory ∧
              (run t arguments).2.Leads (·.Above o.markers) loc) ∧
        (Barred t o → ∃ fault : RunFault, run t arguments = (failed fault.explain, t)) := by
  refine ⟨fun r hr => by rw [run, hr], fun o ho => ?_⟩
  have hwork := reworked_runTimed {} t ho
  rw [runTimed_none] at hwork
  refine ⟨hwork.kept.workingDirectory, fun loc => hwork.get?_changed, fun hbarred => ?_⟩
  obtain ⟨fault, hfault⟩ := runOptions_barred hbarred arguments
  exact ⟨fault, by rw [run, ho]; exact hfault⟩

/-- A tree with markers in its store and a class file that is cut off. -/
def spoiltDesk : FileTree where
  entries := [(["w"], .directory), (["w", "A.class"], .file ⟨#[0xca, 0xfe]⟩),
    (["w", "m.json"], .file (MarkerStore.write [deskMarker]).toUTF8)]
  workingDirectory := ["w"]
  distinct := by decide

def spoiltArguments : List String := ["perfguide", "--input", "A.class", "--markers", "m.json"]

def spoiltOptions : Options :=
  { deskOptions with input := ⟨"A.class"⟩, markers := ⟨"m.json"⟩, output := none }

theorem spoiltDesk_untouched :
    parse spoiltArguments.tail = .ok spoiltOptions ∧ Barred spoiltDesk spoiltOptions ∧
      ∃ fault : RunFault, run spoiltDesk spoiltArguments = (failed fault.explain, spoiltDesk) := by
  have hparse : parse spoiltArguments.tail = .ok spoiltOptions :=
    eq_ok_of_toOption (by decide +kernel)
  have hcrawl :
      (Crawl.run spoiltDesk spoiltOptions.input spoiltOptions.classpath).isOk = false := by
    decide +kernel
  obtain ⟨fault, hfault⟩ := exists_error_of_isOk hcrawl
  have hbarred : Barred spoiltDesk spoiltOptions := .crawl fault hfault
  obtain ⟨-, -, hbars⟩ := (run_touches_only spoiltDesk spoiltArguments).2 spoiltOptions hparse
  exact ⟨hparse, hbarred, hbars hbarred⟩

end CommandLine

end BytecodeLint
