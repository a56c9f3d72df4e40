import BytecodeLint.Proofs.Analysis.Fits
import BytecodeLint.Proofs.CommandLine.Stages
import BytecodeLint.Proofs.FileTree.Change
import BytecodeLint.Proofs.Json.Skim

/-!
# The two outputs of a run agree

A run writes its markers to the store and lists them in its report. The store goes through JSON text
and back, the report through the SARIF document, and in between files are removed and written; still
both tell the same.

* `Json.at?`: what stands at a place of a JSON document.
* `Tells`, `Agrees`: a document that tells the markers, with its rules and counters.
* `store_and_report_agree`: the store and the report of a run that succeeds.
* `load_overwritten`, `store_lost_to_alias`: the report must not go to the file of the store, under
  whatever name.
-/

namespace BytecodeLint

/-! ## Places in a document -/

namespace Json

/-- What one step leads to. -/
def step? : Json → Step → Option Json
  | .object members, .key name => (members.find? fun m => m.1 == name).map Prod.snd
  | .array items, .index n => items[n]?
  | _, _ => none

/-- What stands where the steps lead. -/
def at? (v : Json) : List Step → Option Json
  | [] => some v
  | step :: rest => (v.step? step).bind fun next => next.at? rest

end Json

/-! ## Reports and stores -/

section
open Json

/-- No report is taken for a marker store: its version is a text, where a store has a number. -/
theorem MarkerStore.read_report (r : Report) :
    read (Sarif.text r) = .error (.json (misfit [.key "version"])) := by
  have hversion (rest : List Char) : documentRecord.member [] {} "version"
      (colon ++ (render 1 (.text Sarif.version) ++ rest)) = .error (misfit [.key "version"]) := by
    have hword := wordShape_text [.key "version"] 1 Sarif.version rest
    have hcolon : takeColon (colon ++ (render 1 (.text Sarif.version) ++ rest)) =
        .ok (' ' :: (render 1 (.text Sarif.version) ++ rest)) := rfl
    simp [Record.member, documentRecord, Field.of, hcolon, hword, bind, Except.bind]
  -- the members in front of the version are passed over
  have hlast (fuel : Nat) : documentRecord.membersFrom [] (fuel + 1) false {}
      (renderMembers 1 [("version", .text Sarif.version)] ++ (newLine 0 ++ ['\x7d', '\n'])) =
        .error (misfit [.key "version"]) := by
    simp only [renderMembers, quote, List.cons_append, List.append_assoc, List.nil_append]
    rw [Record.membersFrom_next (nextKey_comma ..), hversion]
    rfl
  have hruns (runs : Json) (fuel : Nat) : documentRecord.membersFrom [] (fuel + 2) false {}
      (renderMembers 1 [("runs", runs), ("version", .text Sarif.version)] ++
        (newLine 0 ++ ['\x7d', '\n'])) = .error (misfit [.key "version"]) := by
    rw [renderMembers]
    simp only [quote, List.cons_append, List.append_assoc, List.nil_append]
    rw [Record.membersFrom_other (by decide) (delimited_renderMembers 1 0 _ _) (nextKey_comma ..),
      hlast]
  have hshape (runs : Json) : documentRecord.shape []
      (render 0 (.object [("$schema", .text Sarif.schema), ("runs", runs),
        ("version", .text Sarif.version)]) ++ ['\n']) = .error (misfit [.key "version"]) := by
    rw [render]
    simp only [quote, List.cons_append, List.append_assoc, List.nil_append]
    refine Record.shape_fault rfl ?_
    rw [Record.membersFrom_other (by decide) (delimited_renderMembers 1 0 _ _) (nextKey_first ..)]
    simp only [newLine, List.cons_append, List.length_cons]
    exact hruns runs _
  rw [read, Sarif.text, Sarif.ofReport, document, String.toList_ofList, hshape]

end

namespace CommandLine

open Json (Step)

/-! ## What a document tells -/

/-- The result tells what the marker tells. Its file is named from the source root, with slashes
only. -/
structure Tells (root : Path) (m : Marker) (result : Json) : Prop where
  rule : result.at? [.key "ruleId"] = some (.text m.guidelineId)
  message : result.at? [.key "message", .key "text"] = some (.text m.message)
  location : result.at? [.key "locations", .index 0, .key "logicalLocations", .index 0,
    .key "name"] = some (.text m.location)
  file : result.at? [.key "locations", .index 0, .key "physicalLocation", .key "artifactLocation",
    .key "uri"] = some (.text (String.ofList ((root.join ⟨m.resource.path⟩).text.toList.map fun c =>
      if c = '\\' then '/' else c)))
  line : result.at? [.key "locations", .index 0, .key "physicalLocation", .key "region",
    .key "startLine"] = m.line.map .number

/-- The only run of a document. -/
def onlyRun : List Step := [.key "runs", .index 0]

/-- The place of a counter. -/
def counter (name : String) : List Step :=
  onlyRun ++ [.key "invocations", .index 0, .key "properties", .key ("perfguide." ++ name)]

/-- The document tells the markers one by one and in order, lists their rules, and counts the
delivered classes. -/
structure Agrees (root : Path) (delivered : List ClassDecl) (markers : List Marker) (doc : Json) :
    Prop where
  results : ∃ results, doc.at? (onlyRun ++ [.key "results"]) = some (.array results) ∧
    List.Forall₂ (Tells root) markers results
  rules : ∀ m ∈ markers, ∃ n, doc.at? (onlyRun ++
    [.key "tool", .key "driver", .key "rules", .index n, .key "id"]) = some (.text m.guidelineId)
  counts : ∃ analyzed skipped,
    doc.at? (counter "analyzed_class_count") = some (.number analyzed) ∧
      doc.at? (counter "skipped_class_count") = some (.number skipped) ∧
      doc.at? (counter "class_count") = some (.number delivered.length) ∧
      analyzed + skipped = delivered.length

theorem tells_result (root : Path) (m : Marker) :
    Tells root m (Sarif.result (.ofMarker root m)) where
  rule := rfl
  message := rfl
  location := rfl
  file := rfl
  line := by
    rcases m with ⟨guidelineId, title, description, message, resource, location, offset, _ | line⟩
    · rfl
    · rfl

/-- The members of a run that are always there. -/
def runMembers (r : Report) : Json :=
  .object [("invocations", .array [Sarif.invocation r.artifacts r.invocation]),
    ("results", .array (r.results.map Sarif.result)), ("tool", Sarif.tool r.rules)]

/-- Artifacts may be left out; the other members of the run are found in either case. -/
theorem at?_ofReport (r : Report) {name : String} (hname : name ≠ "artifacts")
    (steps : List Step) :
    (Sarif.ofReport r).at? (onlyRun ++ .key name :: steps) =
      (runMembers r).at? (.key name :: steps) := by
  have hother : ("artifacts" == name) = false := by simpa using hname.symm
  have hstep : (Json.object (Sarif.unlessEmpty "artifacts" (r.artifacts.map Sarif.artifact) ++
      [("invocations", .array [Sarif.invocation r.artifacts r.invocation]),
        ("results", .array (r.results.map Sarif.result)), ("tool", Sarif.tool r.rules)])).step?
          (.key name) = (runMembers r).step? (.key name) := by
    unfold Sarif.unlessEmpty
    split
    · rfl
    · simp only [runMembers, Json.step?, List.cons_append, List.nil_append, List.find?_cons, hother]
  rw [Json.at?, ← hstep]
  rfl

theorem at?_counter (r : Report) (name : String) :
    (Sarif.ofReport r).at? (counter name) =
      (Sarif.properties r.artifacts r.invocation).at? [.key ("perfguide." ++ name)] :=
  at?_ofReport r (by decide) _

theorem at?_ruleId (r : Report) {n : Nat} {rule : ReportRule} (h : r.rules[n]? = some rule) :
    (Sarif.ofReport r).at? (onlyRun ++
      [.key "tool", .key "driver", .key "rules", .index n, .key "id"]) = some (.text rule.id) := by
  rw [at?_ofReport r (by decide)]
  have hlisted : Sarif.unlessEmpty "rules" (r.rules.map Sarif.rule) =
      [("rules", .array (r.rules.map Sarif.rule))] := by
    have hne : r.rules ≠ [] := by
      rintro hnil
      simp [hnil] at h
    simp [Sarif.unlessEmpty, hne]
  have hrule : (r.rules.map Sarif.rule)[n]? = some (Sarif.rule rule) := by simp [h]
  have hmembers : (Json.object (("name", .text programName) ::
      Sarif.unlessEmpty "rules" (r.rules.map Sarif.rule) ++
        [("version", .text programVersion)])).at? [.key "rules", .index n, .key "id"] =
          some (.text rule.id) := by
    rw [hlisted]
    show ((r.rules.map Sarif.rule)[n]?.bind fun next => next.at? [.key "id"]) = _
    rw [hrule]
    rfl
  exact hmembers

theorem forall₂_results (root : Path) (ms : List Marker) :
    List.Forall₂ (Tells root) ms ((ms.map (ReportResult.ofMarker root)).map Sarif.result) := by
  induction ms with
  | nil => exact .nil
  | cons m ms ih => exact .cons (tells_result root m) ih

/-- The document of a report on classes agrees with the markers of the report. -/
theorem agrees_reportAt (t : FileTree) (o : Options) (arguments : List String)
    (durations : Durations) (artifacts : List Artifact) (classes : List ClassDecl) :
    Agrees o.sourceRoot classes (reportAt t o classes).markers
      (Sarif.ofReport (.of arguments durations o.sourceRoot artifacts (reportAt t o classes))) where
  results := by
    refine ⟨_, ?_, forall₂_results o.sourceRoot _⟩
    exact at?_ofReport _ (by decide) []
  rules m hm := by
    obtain ⟨c, hc, g, hg, findings, hcheck, f, hf, resource, rfl⟩ :=
      Analysis.exists_of_mem_found hm
    obtain ⟨n, hn⟩ := List.getElem?_of_mem hg
    have hrule : ((reportAt t o classes).guidelines.map ReportRule.ofGuideline)[n]? =
        some (.ofGuideline g) := by
      simp [reportAt, Analysis.reportOn, hn]
    have hid := at?_ruleId (.of arguments durations o.sourceRoot artifacts (reportAt t o classes))
      hrule
    exact ⟨n, hid⟩
  counts := by
    have hids : (Guideline.registry.map Guideline.id).Nodup := by decide
    have hexact : Analysis.Exact Guideline.registry classes _ (reportAt t o classes) :=
      Analysis.exact_reportOn hids 3 fun c _ => rfl
    refine ⟨_, _, at?_counter _ _, at?_counter _ _, ?_, hexact.skipped.trans hexact.classCount⟩
    rw [at?_counter, ← hexact.classCount]
    rfl

/-! ## The store behind the report -/

/-- What a store keeps depends on what stands at its path only. -/
theorem load_congr {t t' : FileTree} {store : Path} (h : t'.lookup store = t.lookup store) :
    DirectoryProject.load t' store = DirectoryProject.load t store := by
  have hentry : t'.hasEntry store = t.hasEntry store := by
    rw [FileTree.hasEntry, FileTree.hasEntry, h]
  have htext : t'.readText store = t.readText store := by
    rw [FileTree.readText, FileTree.readText, FileTree.read, FileTree.read, h]
  rw [DirectoryProject.load, DirectoryProject.load, hentry, htext]

/-- A flush leaves a file at the path of the store. -/
theorem lookup_flush {t t' : FileTree} {o : Options} {ms : List Marker}
    (h : DirectoryProject.flush t (opened o ms) = (.ok (), t')) :
    t'.lookup o.markers = .ok (.file (MarkerStore.write ms).toUTF8) := by
  unfold DirectoryProject.flush at h
  split at h
  · cases h
  · split at h
    · cases h
    · rename_i hwrite
      cases h
      exact FileTree.lookup_write hwrite

/-- Giving out the report leaves the store alone when it goes elsewhere, and then the report is
found where it should be. -/
theorem published_emit {t t' : FileTree} {o : Options} {text stdout : String} {e : Entry}
    (hstore : t.lookup o.markers = .ok e) (hemit : emit t o text = (.ok stdout, t'))
    (hapart : ∀ out, outputFile? o = some out → t'.locate out ≠ t'.locate o.markers)
    (outcome : Outcome) (hout : outcome.stdout = stdout) :
    t'.lookup o.markers = .ok e ∧ published o outcome t' = .ok text := by
  rcases emit_eq_ok_iff.1 hemit with ⟨hnone, rfl, rfl⟩ | ⟨out, hsome, rfl, hwrite⟩
  · exact ⟨hstore, by rw [published, hnone, ← hout]⟩
  · obtain ⟨loc, hloc, -⟩ := FileTree.lookup_eq_ok_iff.1 hstore
    refine ⟨(FileTree.lookup_write_other hwrite hloc (hapart out hsome)).trans hstore, ?_⟩
    rw [published, hsome]
    exact (FileTree.readText_write hwrite).2

/-- A report that goes to the file of the store takes its place, and there are no markers then. -/
theorem load_overwritten {t t' : FileTree} {o : Options} {r : Report} {stdout : String}
    (hemit : emit t o (Sarif.text r) = (.ok stdout, t')) {out : Path}
    (hout : outputFile? o = some out) (hsame : t'.locate out = t'.locate o.markers) :
    DirectoryProject.load t' o.markers =
      .error (.corrupt o.markers (Json.misfit [.key "version"])) := by
  rcases emit_eq_ok_iff.1 hemit with ⟨hnone, -⟩ | ⟨out', hsome, -, hwrite⟩
  · rw [hnone] at hout
    cases hout
  · cases hsome.symm.trans hout
    have hlookup : t'.lookup o.markers = .ok (.file (Sarif.text r).toUTF8) := by
      rw [← FileTree.lookup_write hwrite, FileTree.lookup, FileTree.lookup, hsame]
    have hentry : t'.hasEntry o.markers = true :=
      FileTree.hasEntry_eq_true_iff.2 ⟨_, hlookup⟩
    have htext : t'.readText o.markers = .ok (Sarif.text r) := by
      simp only [FileTree.readText, FileTree.read, hlookup, FileTree.fromUTF8?_toUTF8]
    simp only [DirectoryProject.load, hentry, ↓reduceIte, htext, MarkerStore.read_report]

/-- **The two outputs of a run agree.** When a run succeeds and its report does not go to the file
of the marker store, under that name or another, the store is there and can be read, and the
published document tells its markers, one result each and in order. -/
theorem store_and_report_agree {t t' : FileTree} {arguments : List String} {o : Options}
    (hparse : parse arguments.tail = .ok o) {outcome : Outcome}
    (hrun : run t arguments = (outcome, t')) (hcode : outcome.exitCode = 0)
    (hapart : ∀ out, outputFile? o = some out → t'.locate out ≠ t'.locate o.markers) :
    ∃ crawl markers doc, Crawl.run t o.input o.classpath = .ok crawl ∧
      t'.isFile o.markers = true ∧ DirectoryProject.load t' o.markers = .ok markers ∧
      published o outcome t' = .ok (Json.document doc) ∧
      Agrees o.sourceRoot crawl.classes markers doc := by
  rw [← runTimed_none] at hrun
  obtain ⟨crawl, report, t₂, stdout, hcollect, hanalyze, hemit, rfl⟩ :=
    stages_of_runTimed hparse hrun hcode
  obtain ⟨-, -, hcrawl⟩ := collect_eq_ok_iff.1 hcollect
  obtain ⟨own, others, -, hdelivers⟩ := Crawl.delivers_run hcrawl
  obtain ⟨ms, t₁, -, -, hreport, hflush⟩ := stages_of_analyze hdelivers.distinct hanalyze
  have hfits : ∀ m ∈ report.markers, m.Fits := by
    rw [hreport]
    exact Analysis.fits_found (Crawl.run_measured hcrawl)
  have hload := DirectoryProject.load_flush (p := opened o report.markers) hfits hflush
  have hwritten := lookup_flush hflush
  obtain ⟨hstore, hpublished⟩ := published_emit hwritten hemit hapart
    (succeeded o {} crawl report stdout) rfl
  refine ⟨crawl, report.markers, _, hcrawl, ?_, ?_, hpublished, ?_⟩
  · rw [FileTree.isFile, hstore]
  · exact (load_congr (hstore.trans hwritten.symm)).trans hload
  · rw [hreport]
    exact agrees_reportAt ..

theorem desk_apart (out : Path) (hout : outputFile? deskOptions = some out) :
    deskReported.locate out ≠ deskReported.locate deskOptions.markers := by
  cases outputFile?_desk.symm.trans hout
  decide +kernel

/-- The run on the small tree. -/
theorem desk_outputs_agree :
    ∃ o outcome t', parse deskArguments.tail = .ok o ∧ run desk deskArguments = (outcome, t') ∧
      outcome.exitCode = 0 ∧
      (∀ out, outputFile? o = some out → t'.locate out ≠ t'.locate o.markers) ∧
      ∃ crawl markers doc, Crawl.run desk o.input o.classpath = .ok crawl ∧
        t'.isFile o.markers = true ∧ DirectoryProject.load t' o.markers = .ok markers ∧
        published o outcome t' = .ok (Json.document doc) ∧
        Agrees o.sourceRoot crawl.classes markers doc :=
  ⟨deskOptions, _, deskReported, parse_desk, run_desk, rfl, desk_apart,
    store_and_report_agree parse_desk run_desk rfl desk_apart⟩

def aliasArguments : List String :=
  ["perfguide", "--input", "in", "--markers", "m.json", "--output", "./m.json"]

def aliasOptions : Options :=
  { deskOptions with markers := ⟨"m.json"⟩, output := some ⟨"./m.json"⟩ }

/-- The tree before the report is written. -/
def aliasStored : FileTree := (DirectoryProject.flush desk (opened aliasOptions [deskMarker])).2

/-- **Two paths for one file.** The report is written to the file of the store under another name,
and the markers are lost. -/
theorem store_lost_to_alias :
    ∃ o outcome t' out, parse aliasArguments.tail = .ok o ∧
      run desk aliasArguments = (outcome, t') ∧ outcome.exitCode = 0 ∧
      outputFile? o = some out ∧ out.samePlace o.markers = false ∧
      ∀ markers, DirectoryProject.load t' o.markers ≠ .ok markers := by
  have hparse : parse aliasArguments.tail = .ok aliasOptions := rfl
  have hcollect : collect desk aliasOptions = .ok deskCrawl :=
    (collect_congr rfl rfl rfl).trans collect_desk
  obtain ⟨report, hreport⟩ : ∃ report, report = reportAt desk aliasOptions deskCrawl.classes :=
    ⟨_, rfl⟩
  have hmarkers : report.markers = [deskMarker] := by
    rw [hreport]
    exact markers_of_source rfl
  have hflush : DirectoryProject.flush desk (opened aliasOptions report.markers) =
      (.ok (), aliasStored) := by
    rw [hmarkers]
    exact Prod.ext (eq_ok_of_isOk (by decide +kernel)) rfl
  have hloc : aliasStored.writeLocation ⟨"./m.json"⟩ = .ok ["w", "m.json"] :=
    eq_ok_of_toOption (by decide +kernel)
  have hstore : aliasStored.locate aliasOptions.markers = .ok ["w", "m.json"] :=
    eq_ok_of_toOption (by decide +kernel)
  have hout : outputFile? aliasOptions = some ⟨"./m.json"⟩ := by decide +kernel
  have hwrite := FileTree.write_of_writeLocation hloc
    (reportText aliasOptions aliasArguments {} deskCrawl report).toUTF8
  have hemit := emit_eq_ok_iff.2 (.inr ⟨_, hout, rfl, hwrite⟩)
  have hrun := run_fresh hparse hcollect (by decide) (by decide +kernel) hreport hflush hemit
  have hext := FileTree.extends_put hloc
    (reportText aliasOptions aliasArguments {} deskCrawl report).toUTF8
  have hnames := (FileTree.writeLocation_eq_ok hloc).1
  have hload := load_overwritten hemit hout
    ((hext.locate hnames.locate).trans (hext.locate hstore).symm)
  refine ⟨aliasOptions, _, _, ⟨"./m.json"⟩, hparse, hrun, rfl, hout, by decide +kernel, ?_⟩
  intro markers h
  rw [hload] at h
  cases h

end CommandLine

end BytecodeLint
