import BytecodeLint.Proofs.CommandLine.Agreement
import BytecodeLint.Proofs.CommandLine.Effects
import BytecodeLint.Proofs.Crawl.Asides
import BytecodeLint.Proofs.FileTree.Detours

/-!
# Running again

A second run starts from the tree that the first one left: with the store, the report and perhaps
new directories, some of them among the files that are crawled. It has to read the store that was
written, to clear it, and to come to the same markers again.

* `Json.SameOff`: documents that differ at some places only.
* `DirectoryProject.Settled`: a store that was written once can be written again.
* `KeepsClear`, `Aloof`: what the files that a run writes and the directories that it makes have to
  keep away from.
* `run_again`: a second run leaves the same markers and gives the same report but for its times.
* `rerun_differs`: a directory that is made can open the way to a source file, and it can be taken
  for a class file.
-/

namespace BytecodeLint

/-! ## Documents that differ at some places -/

namespace Json

/-- The documents hold the same wherever the steps lead that neither go on from one of the places
nor stop on the way to one. -/
def SameOff (places : List (List Step)) (v w : Json) : Prop :=
  ∀ steps, (∀ place ∈ places, ¬ place <+: steps ∧ ¬ steps <+: place) → v.at? steps = w.at? steps

namespace SameOff

variable {places more : List (List Step)} {u v w : Json}

/-- Anything may stand where a document may differ. -/
theorem here (v w : Json) : SameOff [[]] v w := by
  intro steps hsteps
  exact absurd List.nil_prefix (hsteps [] List.mem_cons_self).1

theorem trans (h : SameOff places u v) (h' : SameOff more v w) : SameOff (places ++ more) u w := by
  intro steps hsteps
  have hleft := h steps fun place hplace => hsteps place (List.mem_append_left more hplace)
  have hright := h' steps fun place hplace => hsteps place (List.mem_append_right places hplace)
  exact hleft.trans hright

/-- Documents that differ only below one step differ there in what they differ below it. -/
theorem under {step : Step} {v' w' : Json} (h : SameOff places v w) (hne : places ≠ [])
    (hstep : ∀ rest, v.at? rest = w.at? rest → v'.at? (step :: rest) = w'.at? (step :: rest))
    (hother : ∀ other rest, other ≠ step → v'.at? (other :: rest) = w'.at? (other :: rest)) :
    SameOff (places.map (step :: ·)) v' w' := by
  intro steps hsteps
  cases steps with
  | nil =>
    obtain ⟨place, hplace⟩ := List.exists_mem_of_ne_nil places hne
    exact absurd List.nil_prefix (hsteps (step :: place) (List.mem_map_of_mem hplace)).2
  | cons first rest =>
    by_cases hfirst : first = step
    · subst hfirst
      refine hstep rest (h rest fun place hplace => ?_)
      simpa using hsteps (first :: place) (List.mem_map_of_mem hplace)
    · exact hother first rest hfirst

theorem member (h : SameOff places v w) (hne : places ≠ []) (before : List (String × Json))
    (name : String) (behind : List (String × Json)) :
    SameOff (places.map (.key name :: ·)) (.object (before ++ (name, v) :: behind))
      (.object (before ++ (name, w) :: behind)) := by
  refine h.under hne (fun rest hrest => ?_) fun other rest hother => ?_
  · simp only [at?, step?, List.find?_append]
    cases before.find? fun m => m.1 == name with
    | none => simpa using hrest
    | some m => rfl
  · cases other with
    | index n => rfl
    | key key =>
      have hkey : (name == key) = false := by
        simpa using fun heq : name = key => hother (by rw [heq])
      simp only [at?, step?, List.find?_append, List.find?_cons, hkey]

theorem item (h : SameOff places v w) (hne : places ≠ []) :
    SameOff (places.map (.index 0 :: ·)) (.array [v]) (.array [w]) := by
  refine h.under hne (fun rest hrest => hrest) fun other rest hother => ?_
  cases other with
  | key key => rfl
  | index n =>
    cases n with
    | zero => exact absurd rfl hother
    | succ n => rfl

end SameOff

end Json

/-! ## A store that was written -/

namespace DirectoryProject

/-- The directories around the store are there, and it can be written at the location. -/
structure Settled (t : FileTree) (store : Path) (loc : Location) : Prop where
  room : makeRoom t store = (.ok (), t)
  place : t.writeLocation store = .ok loc

theorem makeRoom_again {t t₁ t₂ : FileTree} {store : Path} (h : makeRoom t store = (.ok (), t₁))
    (hext : t₂.Extends t₁) : makeRoom t₂ store = (.ok (), t₂) := by
  unfold makeRoom at h ⊢
  split
  · rfl
  · rename_i parent hparent
    split
    · rfl
    · rename_i hempty
      have hmade := @FileTree.createDirectories_spec (fun _ => False) (fun _ => True)
        (fun _ _ _ _ => trivial) t parent trivial
      simp only [hparent, if_neg hempty] at h
      split at h
      · rename_i t' hcreate
        cases h
        rw [hcreate] at hmade
        have hdir := hext.isDirectory (hmade.2 rfl hempty)
        rw [FileTree.createDirectories_of_isDirectory hdir]
      · cases h

/-- After a flush the store is where it can be written again. -/
theorem settled_flush {t t' : FileTree} {p : DirectoryProject} (h : flush t p = (.ok (), t')) :
    ∃ loc, Settled t' p.store loc ∧
      t'.get? loc = some (.file (MarkerStore.write p.markers).toUTF8) := by
  unfold flush at h
  split at h
  · cases h
  · rename_i t₁ hroom
    split at h
    · cases h
    · rename_i t₂ hwrite
      cases h
      obtain ⟨loc, hloc, rfl⟩ := FileTree.write_eq_ok_iff.1 hwrite
      have hext := FileTree.extends_put hloc (MarkerStore.write p.markers).toUTF8
      have hget := t₁.get?_put loc (.file (MarkerStore.write p.markers).toUTF8) loc
        (FileTree.writeLocation_eq_ok hloc).1.ne_root
      rw [if_pos rfl] at hget
      exact ⟨loc, ⟨makeRoom_again hroom hext, hext.writeLocation hloc (by rw [hget]; simp)⟩, hget⟩

namespace Settled

variable {t t' : FileTree} {p : DirectoryProject} {loc : Location}

theorem extend {store : Path} (h : Settled t store loc) (hext : t'.Extends t)
    (hfile : t'.get? loc ≠ some .directory) : Settled t' store loc :=
  ⟨makeRoom_again h.room hext, hext.writeLocation h.place hfile⟩

theorem clear (h : Settled t p.store loc) {content : ByteArray}
    (hfile : t.get? loc = some (.file content)) :
    DirectoryProject.clear t p = (.ok (), t.eraseAt loc, { p with markers := [] }) := by
  have hlookup : t.lookup p.store = .ok (.file content) :=
    FileTree.lookup_eq_ok_iff.2 ⟨loc, (FileTree.writeLocation_eq_ok h.place).1.locate, hfile⟩
  have hentry : t.hasEntry p.store = true := FileTree.hasEntry_eq_true_iff.2 ⟨_, hlookup⟩
  simp only [DirectoryProject.clear, hentry, ↓reduceIte,
    FileTree.removeFile_of_writeLocation h.place hfile]

theorem flush (h : Settled t p.store loc) :
    DirectoryProject.flush t p =
      (.ok (), t.put loc (.file (MarkerStore.write p.markers).toUTF8)) := by
  have hwrite := FileTree.write_of_writeLocation h.place (MarkerStore.write p.markers).toUTF8
  simp only [DirectoryProject.flush, h.room, hwrite]

end Settled

end DirectoryProject

/-! ## Two runs -/

namespace CommandLine

open FileTree (Reworked)
open DirectoryProject (Settled clear flush)
open Json (SameOff)

/-- The path at which the source file of a class is looked for. -/
def candidate (o : Options) (c : ClassDecl) : Path :=
  o.sourceRoot.join ⟨sourcePath c.name (DirectoryProject.dotted o.sourceExtension)⟩

/-- A path passes through no directory that is new in the second tree. -/
def OldWay (t t' : FileTree) (p : Path) : Prop :=
  ∀ here, t'.Passes p here → t'.get? here = some .directory → t.get? here = some .directory

/-- A path that led somewhere before passes through old directories. -/
theorem oldWay_of_locate {t t' : FileTree} (hext : t'.Extends t) {p : Path} {loc : Location}
    (hloc : t.locate p = .ok loc)
    (hlast : t'.get? loc = some .directory → t.get? loc = some .directory) : OldWay t t' p := by
  rintro here ⟨front, behind, hparts, hfront⟩ hdir
  have hall := FileTree.locate_followAll hloc
  rw [hparts, FileTree.followAll_append] at hall
  cases hmid : t.followAll (t.start p) front with
  | error fault =>
    rw [hmid] at hall
    cases hall
  | ok mid =>
    rw [hmid] at hall
    have hmid' := hext.followAll hmid
    rw [← hext.start] at hmid'
    cases hmid'.symm.trans hfront
    cases behind with
    | nil =>
      cases hall
      exact hlast hdir
    | cons part rest =>
      dsimp only [FileTree.followAll] at hall
      split at hall
      · cases hall
      · rename_i next hnext
        exact (FileTree.follow_eq_ok hnext).1

/-- The files that a run writes keep away from each other and from what it reads. -/
structure KeepsClear (t' : FileTree) (o : Options) (classes : List ClassDecl) : Prop where
  apart : ∀ out, outputFile? o = some out → t'.locate out ≠ t'.locate o.markers
  unread : ∀ p, Written o p → Crawl.isRead p = false
  noSource : ∀ c ∈ classes, ∀ p, Written o p → t'.locate p ≠ t'.locate (candidate o c)

/-- The directories that a run makes keep away from the ways to source files, too, and no crawl
takes one of them for a file. -/
structure Aloof (t t' : FileTree) (o : Options) (classes : List ClassDecl) : Prop
    extends KeepsClear t' o classes where
  oldWays : ∀ c ∈ classes, t'.isFile (candidate o c) = true →
    OldWay t t' o.sourceRoot ∧ OldWay t t' (candidate o c)
  staysOut : ∀ p, Crawl.Met t o.input o.classpath p → Crawl.StaysOut t t' p

/-- Only two counters tell how long a run took. -/
theorem sameOff_durations (arguments : List String) (root : Path) (artifacts : List Artifact)
    (report : AnalysisReport) (d d' : Durations) :
    SameOff [counter "analysis_ms", counter "scan_ms"]
      (Sarif.ofReport (.of arguments d root artifacts report))
      (Sarif.ofReport (.of arguments d' root artifacts report)) := by
  have hanalysis (d : Durations) : SameOff [[.key "perfguide.analysis_ms"]]
      (Sarif.properties artifacts ⟨arguments, d, report.stats⟩)
      (Sarif.properties artifacts ⟨arguments, { d with analysis := d'.analysis }, report.stats⟩) :=
    (SameOff.here (.number d.analysis) (.number d'.analysis)).member (by simp) [] _ _
  have hcrawl (d : Durations) : SameOff [[.key "perfguide.scan_ms"]]
      (Sarif.properties artifacts ⟨arguments, d, report.stats⟩)
      (Sarif.properties artifacts ⟨arguments, { d with crawl := d'.crawl }, report.stats⟩) :=
    (SameOff.here (.number d.crawl) (.number d'.crawl)).member (by simp)
      [_, _, _, _, _, _] "perfguide.scan_ms" [_]
  have hproperties : SameOff [[.key "perfguide.analysis_ms"], [.key "perfguide.scan_ms"]]
      (Sarif.properties artifacts ⟨arguments, d, report.stats⟩)
      (Sarif.properties artifacts ⟨arguments, d', report.stats⟩) :=
    (hanalysis d).trans (hcrawl { d with analysis := d'.analysis })
  have hinvocation : SameOff
      [[.key "properties", .key "perfguide.analysis_ms"],
        [.key "properties", .key "perfguide.scan_ms"]]
      (Sarif.invocation artifacts ⟨arguments, d, report.stats⟩)
      (Sarif.invocation artifacts ⟨arguments, d', report.stats⟩) :=
    hproperties.member (by simp) [_, _, _] "properties" []
  have hrun := (hinvocation.item (by simp)).member (by simp)
    (Sarif.unlessEmpty "artifacts" (artifacts.map Sarif.artifact)) "invocations"
    [("results", .array ((report.markers.map (.ofMarker root)).map Sarif.result)),
      ("tool", Sarif.tool (report.guidelines.map .ofGuideline))]
  exact (hrun.item (by simp)).member (by simp) [_] "runs" [_]

/-! ### The same source files -/

theorem source?_eq (t : FileTree) (o : Options) (c : ClassDecl) :
    source? t o c =
      if sourcePath c.name (DirectoryProject.dotted o.sourceExtension) = "" ∨
          t.isDirectory o.sourceRoot = false then none
      else if t.isFile (candidate o c) then
        some ⟨sourcePath c.name (DirectoryProject.dotted o.sourceExtension)⟩
      else none := by
  simp only [source?, DirectoryProject.project, DirectoryProject.findSource, opened, candidate]
  rfl

theorem source?_congr {t t' : FileTree} {o : Options} {c : ClassDecl}
    (h : (t.isDirectory o.sourceRoot = true ∧ t.isFile (candidate o c) = true) ↔
      (t'.isDirectory o.sourceRoot = true ∧ t'.isFile (candidate o c) = true)) :
    source? t o c = source? t' o c := by
  rw [source?_eq, source?_eq]
  cases hroot : t.isDirectory o.sourceRoot <;> cases hroot' : t'.isDirectory o.sourceRoot <;>
    simp_all

/-- Once the store is cleared again, the same source files are found as when it was cleared first:
none of them is written by the run, and the ways to them are old. -/
theorem sources_again {t t₁ t' : FileTree} {o : Options} {classes : List ClassDecl}
    (haloof : Aloof t t' o classes) (hold : t₁.Extends t) {store : Location} (hroot : store ≠ [])
    {rooms : Path → Prop} (hwork : Reworked (Written o) rooms t₁ (t'.eraseAt store))
    {c : ClassDecl} (hc : c ∈ classes) :
    (t₁.isDirectory o.sourceRoot = true ∧ t₁.isFile (candidate o c) = true) ↔
      ((t'.eraseAt store).isDirectory o.sourceRoot = true ∧
        (t'.eraseAt store).isFile (candidate o c) = true) := by
  have hback := t'.extends_of_eraseAt hroot
  have hunwritten {loc : Location} (hloc : (t'.eraseAt store).locate (candidate o c) = .ok loc) :
      ¬ (t'.eraseAt store).Leads (Written o) loc := by
    rintro ⟨p, hp, hploc⟩
    exact haloof.noSource c hc p hp ((hback.locate hploc).trans (hback.locate hloc).symm)
  constructor
  · rintro ⟨hdir, hfile⟩
    obtain ⟨loc, content, hloc, hcontent⟩ := FileTree.isFile_eq_true_iff.1 hfile
    have hloc' := hwork.kept.locate hloc
    refine ⟨hwork.kept.isDirectory hdir, FileTree.isFile_eq_true_iff.2 ⟨loc, content, hloc', ?_⟩⟩
    exact hwork.get?_eq (hunwritten hloc') hcontent
  · rintro ⟨hdir, hfile⟩
    obtain ⟨loc, content, hloc, hcontent⟩ := FileTree.isFile_eq_true_iff.1 hfile
    obtain ⟨above, habove, hdir⟩ := FileTree.isDirectory_eq_true_iff.1 hdir
    have hstands : t'.isFile (candidate o c) = true := by
      rw [t'.get?_eraseAt hroot] at hcontent
      split at hcontent
      · cases hcontent
      · exact FileTree.isFile_eq_true_iff.2 ⟨loc, content, hback.locate hloc, hcontent⟩
    obtain ⟨hrootWay, hway⟩ := haloof.oldWays c hc hstands
    have hstart : t'.workingDirectory = t₁.workingDirectory := hwork.kept.workingDirectory
    have habove' := hback.locate habove
    constructor
    · refine FileTree.isDirectory_eq_true_iff.2 ⟨above, ?_, ?_⟩
      · refine FileTree.locate_of_passes hstart (fun here hpass hhere => ?_) habove'
        exact hold.directory here (hrootWay here hpass hhere)
      · have hpass : t'.Passes o.sourceRoot above :=
          ⟨_, [], (List.append_nil _).symm, FileTree.locate_followAll habove'⟩
        exact hold.directory above (hrootWay above hpass (hback.directory above hdir))
    · refine FileTree.isFile_eq_true_iff.2 ⟨loc, content, ?_, ?_⟩
      · refine FileTree.locate_of_passes hstart (fun here hpass hhere => ?_) (hback.locate hloc)
        exact hold.directory here (hway here hpass hhere)
      · rcases hwork.get?_arises (hunwritten hloc) hcontent with hsame | ⟨hnew, -⟩
        · exact hsame
        · cases hnew

/-! ### The stages once more -/

theorem collect_aside {files rooms : Path → Prop} {t t' : FileTree}
    (h : Crawl.Aside files rooms t t') {o : Options}
    (hnew : ∀ p, Crawl.Met t o.input o.classpath p → Crawl.StaysOut t t' p) {crawl : CrawlResult}
    (hcollect : collect t o = .ok crawl) : collect t' o = .ok crawl := by
  obtain ⟨hendpoint, hpaths, hcrawl⟩ := collect_eq_ok_iff.1 hcollect
  refine collect_eq_ok_iff.2 ⟨hendpoint, ?_, h.run hcrawl hnew⟩
  unfold checkPaths at hpaths ⊢
  split at hpaths
  · rename_i hinput
    rw [if_pos (h.hasEntry hinput)]
    split at hpaths
    · rename_i hnone
      have hnone' : (o.classpath.find? fun p => !t'.hasEntry p) = none := by
        refine List.find?_eq_none.2 fun p hp => ?_
        have hentry := List.find?_eq_none.1 hnone p hp
        simp [h.hasEntry (by simpa using hentry)]
      rw [hnone']
    · cases hpaths
  · cases hpaths

/-- The store and the report are files of plain names once both are written. -/
theorem stands_of_stages {t t₁ t' : FileTree} {o : Options} {ms : List Marker}
    (hflush : flush t (opened o ms) = (.ok (), t₁)) {text stdout : String}
    (hemit : emit t₁ o text = (.ok stdout, t')) {content : ByteArray}
    (hstore : t'.lookup o.markers = .ok (.file content)) {p : Path} (hp : Written o p) :
    (∃ content, t'.lookup p = .ok (.file content)) ∧
      ∃ above name, p.parts = above ++ [name] ∧ name ∉ ["", ".", ".."] := by
  rcases hp with rfl | hout
  · obtain ⟨loc, hsettled, -⟩ := DirectoryProject.settled_flush hflush
    exact ⟨⟨content, hstore⟩, FileTree.parts_of_writeLocation hsettled.place⟩
  · rcases emit_eq_ok_iff.1 hemit with ⟨hnone, -⟩ | ⟨out, hsome, -, hwrite⟩
    · rw [hnone] at hout
      cases hout
    · cases hsome.symm.trans hout
      obtain ⟨loc, hloc, -⟩ := FileTree.write_eq_ok_iff.1 hwrite
      exact ⟨⟨_, FileTree.lookup_write hwrite⟩, FileTree.parts_of_writeLocation hloc⟩

theorem aside_of_stands {t t' : FileTree} {o : Options} {rooms : Path → Prop}
    (hwork : Reworked (Written o) rooms t t') (hunread : ∀ p, Written o p → Crawl.isRead p = false)
    (hstands : ∀ p, Written o p → (∃ content, t'.lookup p = .ok (.file content)) ∧
      ∃ above name, p.parts = above ++ [name] ∧ name ∉ ["", ".", ".."]) :
    Crawl.Aside (Written o) rooms t t' := by
  refine ⟨hwork, ?_, fun p hp => (hstands p hp).2, hunread⟩
  rintro loc ⟨p, hp, hloc⟩
  obtain ⟨content, hlookup⟩ := (hstands p hp).1
  obtain ⟨loc', hloc', hfile⟩ := FileTree.lookup_eq_ok_iff.1 hlookup
  cases hloc.symm.trans hloc'
  exact ⟨content, hfile⟩

/-- The report can be given out again when everything stands in its place; the store stays. -/
theorem publish_again {t t' t₁ : FileTree} {o : Options} {text stdout : String}
    (hemit : emit t o text = (.ok stdout, t'))
    (hapart : ∀ out, outputFile? o = some out → t'.locate out ≠ t'.locate o.markers)
    {content : ByteArray} (hstore : t'.lookup o.markers = .ok (.file content))
    (hstart : t₁.workingDirectory = t'.workingDirectory)
    (hget : ∀ loc, t₁.get? loc = t'.get? loc) (text' : String) :
    ∃ stdout' t'', emit t₁ o text' = (.ok stdout', t'') ∧
      t''.lookup o.markers = .ok (.file content) ∧
      ∀ outcome : Outcome, outcome.stdout = stdout' → published o outcome t'' = .ok text' := by
  have hext : t₁.Extends t' := ⟨hstart, fun loc hdir => by rw [hget, hdir]⟩
  obtain ⟨there, hthere, hfile⟩ := FileTree.lookup_eq_ok_iff.1 hstore
  have hstore' : t₁.lookup o.markers = .ok (.file content) :=
    FileTree.lookup_eq_ok_iff.2 ⟨there, hext.locate hthere, (hget there).trans hfile⟩
  rcases emit_eq_ok_iff.1 hemit with ⟨hnone, -⟩ | ⟨out, hout, -, hwrite⟩
  · have hemit' : emit t₁ o text' = (.ok text', t₁) := emit_eq_ok_iff.2 (.inl ⟨hnone, rfl, rfl⟩)
    exact ⟨text', t₁, hemit', hstore', fun outcome houtcome => by rw [published, hnone, houtcome]⟩
  · obtain ⟨loc, hloc, rfl⟩ := FileTree.write_eq_ok_iff.1 hwrite
    have hnames := (FileTree.writeLocation_eq_ok hloc).1
    have hkept := FileTree.extends_put hloc text.toUTF8
    have hfile : t₁.get? loc ≠ some .directory := by
      rw [hget, t.get?_put loc (.file text.toUTF8) loc hnames.ne_root, if_pos rfl]
      simp
    have hloc' := (hkept.trans hext).writeLocation hloc hfile
    have hemit' := emit_eq_ok_iff.2
      (.inr ⟨out, hout, rfl, FileTree.write_of_writeLocation hloc' text'.toUTF8⟩)
    have hext' := hext.trans (FileTree.extends_put hloc' text'.toUTF8)
    have hapart' (out' : Path) (hout' : outputFile? o = some out') :
        (t₁.put loc (.file text'.toUTF8)).locate out' ≠
          (t₁.put loc (.file text'.toUTF8)).locate o.markers := by
      cases hout.symm.trans hout'
      have hne := hapart out hout
      rw [hkept.locate hnames.locate, hthere] at hne
      rwa [hext'.locate (hkept.locate hnames.locate), hext'.locate hthere]
    refine ⟨"", _, hemit', (published_emit hstore' hemit' hapart' ⟨0, "", ""⟩ rfl).1, ?_⟩
    intro outcome houtcome
    exact (published_emit hstore' hemit' hapart' outcome houtcome).2

/-- On what a run left, the analysis comes to the same report and leaves everything in its place. -/
theorem analyze_again {t t₁ t₂ t' : FileTree} {o : Options} {classes : List ClassDecl}
    (hnames : (classes.map ClassDecl.name).Nodup) (haloof : Aloof t t' o classes)
    (hold : t₁.Extends t) {report : AnalysisReport} (hreport : report = reportAt t₁ o classes)
    (hfits : ∀ m ∈ report.markers, m.Fits)
    (hflush : flush t₁ (opened o report.markers) = (.ok (), t₂))
    (hafter : Reworked (Written o) (·.Above o.markers) t₂ t')
    (hstore : t'.lookup o.markers = t₂.lookup o.markers) :
    ∃ t₃, analyze t' o classes = (.ok report, t₃) ∧
      t₃.workingDirectory = t'.workingDirectory ∧ ∀ loc, t₃.get? loc = t'.get? loc := by
  have hload := (load_congr hstore).trans
    (DirectoryProject.load_flush (p := opened o report.markers) hfits hflush)
  obtain ⟨loc, hsettled, -⟩ := DirectoryProject.settled_flush hflush
  have hnamed := (FileTree.writeLocation_eq_ok hsettled.place).1
  have hfile : t'.get? loc = some (.file (MarkerStore.write report.markers).toUTF8) := by
    obtain ⟨loc', hloc', hfile⟩ :=
      FileTree.lookup_eq_ok_iff.1 (hstore.trans (lookup_flush hflush))
    cases (hafter.kept.locate hnamed.locate).symm.trans hloc'
    exact hfile
  have hsettled' := hsettled.extend hafter.kept (by rw [hfile]; simp)
  -- clearing
  have hremove := FileTree.removeFile_of_writeLocation hsettled'.place hfile
  have hcleared : Reworked (Written o) (·.Above o.markers) t' (t'.eraseAt loc) :=
    .removeFile hremove (.inl rfl)
  have hsettled'' := hsettled'.extend hcleared.kept
    (by rw [t'.get?_eraseAt hnamed.ne_root, if_pos rfl]; simp)
  -- the same sources
  have hwritten : Reworked (Written o) (·.Above o.markers) t₁ t₂ := by
    have h := DirectoryProject.reworked_flush t₁ (p := opened o report.markers)
      (show Written o o.markers from .inl rfl)
    rw [hflush] at h
    exact h
  have hsame : report = reportAt (t'.eraseAt loc) o classes := hreport.trans
    (reportAt_congr fun c hc => source?_congr (sources_again haloof hold hnamed.ne_root
      ((hwritten.trans hafter).trans hcleared) hc))
  have hanalyze := analyze_of_stages hnames hload (hsettled'.clear hfile) hsame hsettled''.flush
  exact ⟨_, hanalyze, rfl, FileTree.get?_put_eraseAt hnamed.ne_root hfile⟩

/-- **Running again.** When a run succeeds and its files keep away from what it reads, a second run
with the same arguments on the tree it left succeeds as well, leaves the store with the same
content, and gives out the same report but for the two counters of time. -/
theorem run_again {d d' : Durations} {t t' : FileTree} {arguments : List String} {o : Options}
    (hparse : parse arguments.tail = .ok o) {outcome : Outcome}
    (hrun : runTimed d t arguments = (outcome, t')) (hcode : outcome.exitCode = 0)
    {crawl : CrawlResult} (hcrawl : Crawl.run t o.input o.classpath = .ok crawl)
    (haloof : Aloof t t' o crawl.classes) :
    ∃ outcome' t'', ∃ doc : Durations → Json,
      runTimed d' t' arguments = (outcome', t'') ∧ outcome'.exitCode = 0 ∧
      t'.isFile o.markers = true ∧ t''.read o.markers = t'.read o.markers ∧
      published o outcome t' = .ok (doc d).document ∧
      published o outcome' t'' = .ok (doc d').document ∧
      ∀ d₁ d₂, SameOff [counter "analysis_ms", counter "scan_ms"] (doc d₁) (doc d₂) := by
  have hworked := reworked_runTimed d t hparse
  rw [hrun] at hworked
  obtain ⟨crawl', report, t₂, stdout, hcollect, hanalyze, hemit, rfl⟩ :=
    stages_of_runTimed hparse hrun hcode
  cases hcrawl.symm.trans (collect_eq_ok_iff.1 hcollect).2.2
  obtain ⟨own, others, -, hdelivers⟩ := Crawl.delivers_run hcrawl
  obtain ⟨ms, t₁, -, hclear, hreport, hflush⟩ := stages_of_analyze hdelivers.distinct hanalyze
  have hfits : ∀ m ∈ report.markers, m.Fits := by
    rw [hreport]
    exact Analysis.fits_found (Crawl.run_measured hcrawl)
  -- what the first run left
  obtain ⟨hstore, hpublished⟩ := published_emit (lookup_flush hflush) hemit haloof.apart
    (succeeded o d crawl report stdout) rfl
  have haside := aside_of_stands hworked haloof.unread fun p =>
    stands_of_stages hflush hemit hstore
  have hold : t₁.Extends t := by
    have h := (DirectoryProject.reworked_clear t (p := opened o ms)
      (show Written o o.markers from .inl rfl)).1.kept
    rw [hclear] at h
    exact h
  have hafter := reworked_emit t₂ o (reportText o arguments d crawl report)
  rw [hemit] at hafter
  -- the stages of the second run
  have hcollect' := collect_aside haside haloof.staysOut hcollect
  obtain ⟨t₃, hanalyze', hstart, hget⟩ := analyze_again hdelivers.distinct haloof hold hreport
    hfits hflush hafter (hstore.trans (lookup_flush hflush).symm)
  obtain ⟨stdout', t'', hemit', hstore', hpublished'⟩ := publish_again hemit haloof.apart hstore
    hstart hget (reportText o arguments d' crawl report)
  have hrun' := runTimed_of_stages hparse hcollect' hanalyze' hemit'
  refine ⟨_, t'', fun d => Sarif.ofReport (.of arguments d o.sourceRoot crawl.artifacts report),
    hrun', rfl, ?_, ?_, hpublished, hpublished' _ rfl,
    sameOff_durations arguments o.sourceRoot crawl.artifacts report⟩
  · rw [FileTree.isFile, hstore]
  · rw [FileTree.read, FileTree.read, hstore', hstore]

theorem written_desk {p : Path} (hp : Written deskOptions p) :
    p = ⟨".perfguide/markers.json"⟩ ∨ p = ⟨"report.sarif"⟩ := by
  rcases hp with rfl | hout
  · exact .inl rfl
  · exact .inr (Option.some.inj (hout.symm.trans outputFile?_desk))

/-- Without a class path, a crawl of `in` meets nothing else. -/
theorem met_desk {p : Path} (h : Crawl.Met desk ⟨"in"⟩ [] p) : p = ⟨"in"⟩ := by
  rcases h with rfl | ⟨named, hnamed, hreached⟩
  · rfl
  · have hnone : Crawl.ownClassPath desk ⟨"in"⟩ = .ok [] := if_neg (by decide +kernel)
    cases hnone.symm.trans hnamed
    exact absurd hreached Classpath.not_reached_nil

theorem desk_aloof : Aloof desk deskReported deskOptions deskCrawl.classes where
  apart := desk_apart
  unread p hp := by
    rcases written_desk hp with rfl | rfl <;> decide +kernel
  noSource c hc p hp := by
    obtain rfl := List.mem_singleton.1 hc
    rcases written_desk hp with rfl | rfl <;> decide +kernel
  oldWays c hc _ := by
    obtain rfl := List.mem_singleton.1 hc
    have hext : deskReported.Extends desk := by
      have hwork := reworked_runTimed {} desk parse_desk
      rw [runTimed_none, run_desk] at hwork
      exact hwork.kept
    have hroot : desk.locate deskOptions.sourceRoot = .ok ["w", "src"] :=
      eq_ok_of_toOption (by decide +kernel)
    have hsource : desk.locate (candidate deskOptions floatDecl) = .ok ["w", "src", "A.java"] :=
      eq_ok_of_toOption (by decide +kernel)
    have hfile : deskReported.holdsDirectory ["w", "src", "A.java"] = false := by decide +kernel
    refine ⟨oldWay_of_locate hext hroot fun _ => rfl, oldWay_of_locate hext hsource fun hdir => ?_⟩
    rw [FileTree.holdsDirectory, hdir] at hfile
    cases hfile
  staysOut p hp q hq hnew _ := by
    have hlist : deskReported.list ⟨"in"⟩ = .ok [⟨"in/A.class"⟩] :=
      eq_ok_of_toOption (by decide +kernel)
    obtain rfl := met_desk hp
    obtain rfl := List.mem_singleton.1 (hq.mem_list hlist fun q hq => by
      obtain rfl := List.mem_singleton.1 hq
      decide +kernel)
    revert hnew
    decide +kernel

/-- Two runs on the small tree, the second of which takes its time. -/
theorem desk_again :
    ∃ o outcome t' crawl, parse deskArguments.tail = .ok o ∧
      run desk deskArguments = (outcome, t') ∧ outcome.exitCode = 0 ∧
      Crawl.run desk o.input o.classpath = .ok crawl ∧ Aloof desk t' o crawl.classes ∧
      ∃ outcome' t'', ∃ doc : Durations → Json,
        runTimed ⟨30, 20, 10⟩ t' deskArguments = (outcome', t'') ∧ outcome'.exitCode = 0 ∧
        t'.isFile o.markers = true ∧ t''.read o.markers = t'.read o.markers ∧
        published o outcome t' = .ok (doc {}).document ∧
        published o outcome' t'' = .ok (doc ⟨30, 20, 10⟩).document ∧
        ∀ d₁ d₂, SameOff [counter "analysis_ms", counter "scan_ms"] (doc d₁) (doc d₂) := by
  have hcrawl := (collect_eq_ok_iff.1 collect_desk).2.2
  have hrun := run_desk
  rw [← runTimed_none] at hrun
  exact ⟨deskOptions, _, deskReported, deskCrawl, parse_desk, run_desk, rfl, hcrawl, desk_aloof,
    run_again parse_desk hrun rfl hcrawl desk_aloof⟩

/-! ### Directories that make a difference -/

/-- A run that succeeds and whose files are apart from everything it is told to read. -/
structure ClearRun (t t' : FileTree) (arguments : List String) (o : Options) : Prop where
  parsed : parse arguments.tail = .ok o
  succeeds : ∃ outcome, run t arguments = (outcome, t') ∧ outcome.exitCode = 0
  clear : ∃ crawl, Crawl.run t o.input o.classpath = .ok crawl ∧ KeepsClear t' o crawl.classes
  unnamed : ∀ p, Written o p → ∀ q ∈ o.input :: o.classpath, t'.locate p ≠ t'.locate q

/-- The runs on the small tree write to the store alone. -/
theorem clearRun_desk {t' : FileTree} {arguments : List String} {o : Options}
    (hparse : parse arguments.tail = .ok o) {outcome : Outcome}
    (hrun : run desk arguments = (outcome, t')) (hcode : outcome.exitCode = 0)
    (hcollect : collect desk o = .ok deskCrawl) (hout : outputFile? o = none)
    (hclasspath : o.classpath = []) (hunread : Crawl.isRead o.markers = false)
    (hsource : t'.locate o.markers ≠ t'.locate (candidate o floatDecl))
    (hinput : t'.locate o.markers ≠ t'.locate o.input) : ClearRun desk t' arguments o := by
  have hwritten {p : Path} (hp : Written o p) : p = o.markers := by
    rcases hp with rfl | hsome
    · rfl
    · rw [hout] at hsome
      cases hsome
  refine ⟨hparse, ⟨outcome, hrun, hcode⟩, ⟨deskCrawl, (collect_eq_ok_iff.1 hcollect).2.2, ?_⟩, ?_⟩
  · refine ⟨fun out hsome => ?_, fun p hp => hwritten hp ▸ hunread, fun c hc p hp => ?_⟩
    · rw [hout] at hsome
      cases hsome
    · obtain rfl := List.mem_singleton.1 hc
      exact hwritten hp ▸ hsource
  · intro p hp q hq
    rw [hclasspath] at hq
    obtain rfl := List.mem_singleton.1 hq
    exact hwritten hp ▸ hinput

/-- The source root leads nowhere until the directory `.perfguide` is made. -/
def wayArguments : List String :=
  ["perfguide", "--input", "in", "--source-root", ".perfguide/../src"]

def wayOptions : Options :=
  { deskOptions with sourceRoot := ⟨".perfguide/../src"⟩, output := none }

theorem parse_way : parse wayArguments.tail = .ok wayOptions := rfl

theorem emit_way (t : FileTree) (text : String) : emit t wayOptions text = (.ok text, t) :=
  emit_eq_ok_iff.2 (.inl ⟨rfl, rfl, rfl⟩)

theorem collect_way : collect desk wayOptions = .ok deskCrawl :=
  (collect_congr rfl rfl rfl).trans collect_desk

/-- The first run finds no source file. -/
theorem run_way :
    ∃ outcome, run desk wayArguments = (outcome, deskStored []) ∧ outcome.exitCode = 0 := by
  obtain ⟨report, hreport⟩ : ∃ report, report = reportAt desk wayOptions deskCrawl.classes :=
    ⟨_, rfl⟩
  have hmarkers : report.markers = [] := by
    rw [hreport, reportAt, standard_eq]
    decide +kernel
  have hflush : flush desk (opened wayOptions report.markers) = (.ok (), deskStored []) := by
    rw [hmarkers]
    exact flush_desk rfl rfl
  exact ⟨_, run_fresh parse_way collect_way (by decide) rfl hreport hflush (emit_way ..), rfl⟩

/-- The second run finds it by way of the directory. -/
theorem run_way_again :
    ∃ outcome, run (deskStored []) wayArguments = (outcome, deskStored [deskMarker]) := by
  have hpath : Crawl.path (deskStored []) ⟨"in"⟩ true = .ok ⟨[], [floatDecl]⟩ :=
    Crawl.path_listed [⟨"in/A.class"⟩] rfl (by decide) (by decide +kernel) true
  have hcollect : collect (deskStored []) wayOptions = .ok deskCrawl :=
    collect_directory (o := wayOptions) rfl rfl (by decide +kernel) rfl hpath
  have hload : DirectoryProject.load (deskStored []) wayOptions.markers = .ok [] :=
    DirectoryProject.load_flush (p := opened wayOptions []) (by simp [opened])
      (flush_desk (t := desk) rfl rfl)
  have hclear : clear (deskStored []) (opened wayOptions []) =
      (.ok (), deskRoom, opened wayOptions []) := rfl
  have hmarkers : (reportAt deskRoom wayOptions deskCrawl.classes).markers = [deskMarker] :=
    markers_of_source (by decide +kernel)
  have hflush : flush deskRoom (opened wayOptions (reportAt deskRoom wayOptions
      deskCrawl.classes).markers) = (.ok (), deskStored [deskMarker]) := by
    rw [hmarkers]
    exact flush_desk rfl rfl
  have hanalyze := analyze_of_stages (by decide) hload hclear rfl hflush
  rw [← runTimed_none]
  exact ⟨_, runTimed_of_stages parse_way hcollect hanalyze (emit_way ..)⟩

/-- A store with a marker reads as another text than one without. -/
theorem read_deskStored :
    (deskStored [deskMarker]).read ⟨".perfguide/markers.json"⟩ ≠
      (deskStored []).read ⟨".perfguide/markers.json"⟩ := by
  intro hread
  have hlookup (ms : List Marker) : (deskStored ms).lookup ⟨".perfguide/markers.json"⟩ =
      .ok (.file (MarkerStore.write ms).toUTF8) := rfl
  rw [FileTree.read, FileTree.read, hlookup, hlookup] at hread
  have htext := congrArg String.fromUTF8? (Except.ok.inj hread)
  rw [FileTree.fromUTF8?_toUTF8, FileTree.fromUTF8?_toUTF8] at htext
  have hfits : ∀ m ∈ [deskMarker], m.Fits := by
    intro m hm
    obtain rfl := List.mem_singleton.1 hm
    exact ⟨by decide, by simp [deskMarker]⟩
  have hnone : MarkerStore.read (MarkerStore.write []) = .ok [] :=
    MarkerStore.read_write (by simp)
  rw [← Option.some.inj htext, MarkerStore.read_write hfits] at hnone
  cases hnone

/-- The directory `in` under a path that is so long that the path of `A.class` in it is just taken
by the operating system, and the path of `ddd.class` is not. -/
def longInput : Path := .detour ['.'] 2042 "in"

def longArguments : List String :=
  ["perfguide", "--source-root", "src", "--markers", "in/ddd.class/m.json", "--input",
    longInput.text]

def longOptions : Options :=
  { deskOptions with input := longInput, markers := ⟨"in/ddd.class/m.json"⟩, output := none }

/-- The tree with a directory for the store. -/
def longRoom : FileTree := desk.put ["w", "in", "ddd.class"] .directory

/-- What the first run leaves. -/
def longStored : FileTree := longRoom.put ["w", "in", "ddd.class", "m.json"]
  (.file (MarkerStore.write [deskMarker]).toUTF8)

/-- An argument that starts with a dot is a value. -/
theorem argument_of_dot {s : State} {text : String} {rest : List Char}
    (htext : text.toList = '.' :: rest) (hs : s.isEnded = false) :
    s.argument text = s.plain text := by
  rw [State.argument, hs, htext]
  rfl

theorem parse_input {text : String} {rest : List Char} (htext : text.toList = '.' :: rest) :
    parse ["--source-root", "src", "--markers", "in/ddd.class/m.json", "--input", text] =
      .ok { longOptions with input := ⟨text⟩ } := by
  have hoptions : ["--source-root", "src", "--markers", "in/ddd.class/m.json", "--input"].foldlM
      State.argument {} = .ok ⟨[(.sourceRoot, "src"), (.markers, "in/ddd.class/m.json")],
        some (.input, none), false⟩ := rfl
  have hne : text ≠ "" := by
    rintro rfl
    cases htext
  have hsplit : ["--source-root", "src", "--markers", "in/ddd.class/m.json", "--input", text] =
      ["--source-root", "src", "--markers", "in/ddd.class/m.json", "--input"] ++ [text] := rfl
  rw [parse, hsplit, List.foldlM_append, hoptions]
  simp only [bind, Except.bind, List.foldlM_cons, List.foldlM_nil, argument_of_dot htext,
    State.plain]
  simp only [pure, Except.pure, State.settlePending, State.settle, hne, and_false]
  rfl

theorem parse_long : parse longArguments.tail = .ok longOptions := by
  have htext := Path.toList_detour ['.'] 2042 "in"
  rw [List.replicate_succ, List.flatten_cons] at htext
  exact parse_input htext

section
variable {t : FileTree} {n : Nat} (ht : t.get? t.workingDirectory = some .directory) (hn : n ≤ 2042)
include ht hn

theorem locate_dots {loc : Location} (hloc : t.locate ⟨"in"⟩ = .ok loc) :
    t.locate (.detour ['.'] n "in") = .ok loc := by
  have hsize : "in".utf8ByteSize = 2 := by decide
  exact (FileTree.comesBack_dot ht).locate_detour n (by decide) hloc
    (FileTree.isShort_dots_iff.2 (by omega))

theorem list_dots {found : List Path} (hfound : t.list ⟨"in"⟩ = .ok found) :
    t.list (.detour ['.'] n "in") = .ok (found.map fun q => .detour ['.'] n q.text) := by
  have hsize : "in".utf8ByteSize = 2 := by decide
  exact (FileTree.comesBack_dot ht).list_detour n (by decide) hfound
    (FileTree.isShort_dots_iff.2 (by omega))

end

theorem list_desk : desk.list ⟨"in"⟩ = .ok [⟨"in/A.class"⟩] := rfl

theorem entry_dots {n : Nat} (hn : n ≤ 2042) :
    Crawl.entry desk (.detour ['.'] n "in/A.class") = .ok ⟨[], [floatDecl]⟩ := by
  have hsize : "in/A.class".utf8ByteSize = 10 := by decide
  have hlookup : desk.lookup (.detour ['.'] n "in/A.class") = .ok (.file floatClass) :=
    (FileTree.comesBack_dot rfl).lookup_detour n (by decide) rfl
      (FileTree.isShort_dots_iff.2 (by omega))
  have hparts : (⟨"in/A.class"⟩ : Path).parts = ["in"] ++ ["A.class"] := by decide
  have hext : (Path.detour ['.'] n "in/A.class").extension? = some "class" := by
    rw [Path.extension?_detour n hparts (by decide)]
    exact Path.extension?_of_stem "A" "class" hparts (by decide) (by decide) (by decide)
  have hparse : (ClassFile.parse (Bytes.ofByteArray floatClass)).toOption = some floatDecl := by
    decide +kernel
  rw [Crawl.entry, Crawl.isDirectory_eq_false hlookup]
  simp only [Crawl.file, hext, Crawl.classFile, FileTree.read, hlookup, Crawl.parseClass,
    eq_ok_of_toOption hparse]
  rfl

theorem path_dots {n : Nat} (hn : n ≤ 2042) :
    Crawl.path desk (.detour ['.'] n "in") true = .ok ⟨[], [floatDecl]⟩ := by
  refine Crawl.path_listed [.detour ['.'] n "in/A.class"]
    (by rw [list_dots rfl hn list_desk]; rfl) (List.pairwise_singleton ..) ?_ true
  rw [Crawl.gather_cons, Crawl.gather_nil, entry_dots hn]
  rfl

theorem collect_long : collect desk longOptions = .ok deskCrawl := by
  have hlist := list_dots (t := desk) rfl (Nat.le_refl 2042) list_desk
  have hparts : (⟨"in"⟩ : Path).parts = [] ++ ["in"] := by decide
  have hjar : longInput.isJar = false := by
    rw [Path.isJar, longInput, Path.extension?_detour 2042 hparts (by decide), Path.extension?,
      Path.fileName?_of_parts hparts (by decide)]
    rfl
  exact collect_directory (t := desk) (o := longOptions) rfl rfl hjar
    (FileTree.hasEntry_of_isDirectory (FileTree.isDirectory_of_list hlist))
    (path_dots (Nat.le_refl 2042))

theorem run_long :
    ∃ outcome, run desk longArguments = (outcome, longStored) ∧ outcome.exitCode = 0 := by
  have hparent : longOptions.markers.parent? = some ⟨"in/ddd.class"⟩ := by decide +kernel
  have hroom : desk.ensureDirectory ⟨"in/ddd.class"⟩ = .ok longRoom := rfl
  have hflush : flush desk (opened longOptions (reportAt desk longOptions
      deskCrawl.classes).markers) = (.ok (), longStored) := by
    rw [markers_of_source rfl]
    exact DirectoryProject.flush_of_room hparent (by decide) hroom rfl
  have hemit (text : String) : emit longStored longOptions text = (.ok text, longStored) :=
    emit_eq_ok_iff.2 (.inl ⟨rfl, rfl, rfl⟩)
  exact ⟨_, run_fresh parse_long collect_long (by decide) rfl rfl hflush (hemit _), rfl⟩

theorem run_long_again : (run longStored longArguments).1.exitCode ≠ 0 := by
  intro hcode
  rw [← runTimed_none] at hcode
  cases hrun : runTimed {} longStored longArguments with
  | mk outcome t' =>
  rw [hrun] at hcode
  obtain ⟨crawl, -, -, -, hcollect, -⟩ := stages_of_runTimed parse_long hrun hcode
  obtain ⟨own, -, -, -, hown, -⟩ := Crawl.run_eq_ok_iff.1 (collect_eq_ok_iff.1 hcollect).2.2
  have hlist : longStored.list ⟨"in"⟩ = .ok [⟨"in/ddd.class"⟩, ⟨"in/A.class"⟩] := rfl
  have hbelow : Crawl.Below longStored longInput (.detour ['.'] 2042 "in/ddd.class") :=
    .listed (list_dots rfl (Nat.le_refl 2042) hlist) List.mem_cons_self
  have hparts : (⟨"in/ddd.class"⟩ : Path).parts = ["in"] ++ ["ddd.class"] := by decide
  have hread : Crawl.isRead (.detour ['.'] 2042 "in/ddd.class") = true := by
    rw [Crawl.isRead, Path.extension?_detour 2042 hparts (by decide),
      Path.extension?_of_stem "ddd" "class" hparts (by decide) (by decide) (by decide)]
    rfl
  obtain ⟨e, he⟩ := FileTree.hasEntry_eq_true_iff.1 (Crawl.hasEntry_of_below hbelow hread hown)
  have hshort := FileTree.isShort_dots_iff.1 (FileTree.lookup_eq_ok_iff_stands.1 he).2
  have hsize : "in/ddd.class".utf8ByteSize = 12 := by decide
  omega

/-- **New directories make a difference.** Files that are apart from everything a run reads are not
enough for it to be the same again. In the first case the source root leads nowhere until the
directory of the store is made, so the second run finds a source file and a marker more. In the
second case the store stands in a directory that is named like a class file, under a path that is
too long for the second run to see that it is one. -/
theorem rerun_differs :
    (∃ o t', ClearRun desk t' wayArguments o ∧
      (run t' wayArguments).2.read o.markers ≠ t'.read o.markers) ∧
    ∃ o t', ClearRun desk t' longArguments o ∧ (run t' longArguments).1.exitCode ≠ 0 := by
  constructor
  · obtain ⟨outcome, hrun, hcode⟩ := run_way
    obtain ⟨outcome', hrun'⟩ := run_way_again
    refine ⟨wayOptions, deskStored [], ?_, by rw [hrun']; exact read_deskStored⟩
    exact clearRun_desk parse_way hrun hcode collect_way rfl rfl (by decide +kernel)
      (by decide +kernel) (by decide +kernel)
  · obtain ⟨outcome, hrun, hcode⟩ := run_long
    refine ⟨longOptions, longStored, ?_, run_long_again⟩
    have hloc : longStored.locate ⟨"in"⟩ = .ok ["w", "in"] := rfl
    have hinput : longStored.locate longInput = .ok ["w", "in"] :=
      locate_dots rfl (Nat.le_refl 2042) hloc
    refine clearRun_desk parse_long hrun hcode collect_long rfl rfl (by decide +kernel)
      (by decide +kernel) ?_
    show longStored.locate longOptions.markers ≠ longStored.locate longInput
    rw [hinput]
    decide +kernel

end CommandLine

end BytecodeLint
