import BytecodeLint.Proofs.Analysis.Course

/-!
# What a report holds

The analysis collects, class by class, the findings of those guidelines that have any, under the
place of the guideline in the list, and looks the guidelines up again when it makes markers. Here it
is shown that nothing is mixed up on the way: a report is exactly what `Exact` says, in terms of the
guidelines, the classes and their source files alone.

* `note_spec`, `foldl_note`: one check, and all checks of a class.
* `allMarkers_outcomes`, `failures_outcomes`: all classes.
* `run_smooth`: an analysis of a project whose operations succeed gives the report.
* `Exact.unique`: there is one such report, whatever the order in which guidelines are given.
* `Exact.without`: without a guideline, the markers of the others stay as they are.
-/
namespace BytecodeLint.Analysis

variable {σ ε : Type}

/-! ## One class -/

/-- The markers of one class under one guideline; none when the check goes wrong. -/
def guidelineMarkers (index : ClassIndex) (c : ClassDecl) (resource : Resource) (g : Guideline) :
    List Marker :=
  match g.check index c with
  | .ok findings => findings.map fun f => f.toMarker g c resource
  | .error _ => []

/-- Whether the check of a guideline goes wrong on a class. -/
def failsOn (index : ClassIndex) (c : ClassDecl) (g : Guideline) : Bool :=
  match g.check index c with
  | .ok _ => false
  | .error _ => true

/-- One check adds the markers of its guideline, or a failure. -/
theorem note_spec {a : Analysis} {place : Nat} {g : Guideline} (hg : a.guidelines[place]? = some g)
    (index : ClassIndex) (t : ClassDecl × Resource) (o : Outcome) :
    a.outcomeMarkers t (o.note place (g.check index t.1)) =
        a.outcomeMarkers t o ++ guidelineMarkers index t.1 t.2 g ∧
      (o.note place (g.check index t.1)).failures =
        o.failures + [g].countP (failsOn index t.1) := by
  rcases hcheck : g.check index t.1 with fault | findings
  · simp [Outcome.note, guidelineMarkers, failsOn, hcheck, outcomeMarkers]
  · cases findings with
    | nil => simp [Outcome.note, guidelineMarkers, failsOn, hcheck]
    | cons f fs => simp [Outcome.note, guidelineMarkers, failsOn, hcheck, outcomeMarkers, hg]

/-- The checks from some guideline of the list on. -/
theorem foldl_note {a : Analysis} (index : ClassIndex) (t : ClassDecl × Resource)
    (gs : List Guideline) (front : List Guideline) (h : a.guidelines = front ++ gs) (o : Outcome) :
    a.outcomeMarkers t ((gs.zipIdx front.length).foldl
        (fun o (g, place) => o.note place (g.check index t.1)) o) =
        a.outcomeMarkers t o ++ gs.flatMap (guidelineMarkers index t.1 t.2) ∧
      ((gs.zipIdx front.length).foldl
        (fun o (g, place) => o.note place (g.check index t.1)) o).failures =
        o.failures + gs.countP (failsOn index t.1) := by
  induction gs generalizing front o with
  | nil => simp
  | cons g gs ih =>
    have hg : a.guidelines[front.length]? = some g := by rw [h]; simp
    obtain ⟨hmarkers, hfailures⟩ := note_spec hg index t o
    obtain ⟨ihmarkers, ihfailures⟩ :=
      ih (front ++ [g]) (by rw [h]; simp) (o.note front.length (g.check index t.1))
    rw [List.length_append, List.length_singleton] at ihmarkers ihfailures
    rw [List.zipIdx_cons, List.foldl_cons]
    refine ⟨?_, ?_⟩
    · rw [ihmarkers, hmarkers, List.append_assoc, List.flatMap_cons]
    · rw [ihfailures, hfailures, Nat.add_assoc, ← List.countP_append, List.singleton_append]

theorem outcomeMarkers_checkClass (a : Analysis) (index : ClassIndex)
    (t : ClassDecl × Resource) :
    a.outcomeMarkers t (a.checkClass index t.1) =
      a.guidelines.flatMap (guidelineMarkers index t.1 t.2) :=
  (foldl_note index t a.guidelines [] rfl {}).1

theorem failures_checkClass (a : Analysis) (index : ClassIndex) (c : ClassDecl) :
    (a.checkClass index c).failures = a.guidelines.countP (failsOn index c) := by
  -- any resource will do, failures are counted without one
  have h := (foldl_note (a := a) index (c, ⟨""⟩) a.guidelines [] rfl {}).2
  rw [Nat.zero_add] at h
  exact h

/-! ## All classes -/

theorem allMarkers_outcomes (a : Analysis) (index : ClassIndex)
    (ts : List (ClassDecl × Resource)) :
    a.allMarkers ts (a.outcomes index ts) =
      ts.flatMap fun t => a.guidelines.flatMap (guidelineMarkers index t.1 t.2) := by
  induction ts with
  | nil => rfl
  | cons t ts ih =>
    rw [List.flatMap_cons, ← ih, ← outcomeMarkers_checkClass]
    rfl

theorem foldl_failures (os : List Outcome) (n : Nat) :
    os.foldl (fun n o => n + o.failures) n = n + os.foldl (fun n o => n + o.failures) 0 := by
  induction os generalizing n with
  | nil => rfl
  | cons o os ih => rw [List.foldl_cons, List.foldl_cons, ih, ih (0 + o.failures)]; omega

/-- The pairs of a class and a guideline, class by class. -/
def pairs (classes : List ClassDecl) (gs : List Guideline) : List (ClassDecl × Guideline) :=
  classes.flatMap fun c => gs.map fun g => (c, g)

/-- Whether a class with a source file fails a check. -/
def failingPair (index : ClassIndex) (source : ClassDecl → Option Resource)
    (pair : ClassDecl × Guideline) : Bool :=
  (source pair.1).isSome && failsOn index pair.1 pair.2

theorem countP_pairs_cons (index : ClassIndex) (source : ClassDecl → Option Resource)
    (c : ClassDecl) (classes : List ClassDecl) (gs : List Guideline) :
    (pairs (c :: classes) gs).countP (failingPair index source) =
      (if (source c).isSome then gs.countP (failsOn index c) else 0) +
        (pairs classes gs).countP (failingPair index source) := by
  rw [pairs, List.flatMap_cons, List.countP_append, List.countP_map, ← pairs]
  split
  · next h => congr 2; funext g; simp [failingPair, h]
  · next h => congr 1; simp [failingPair, h]

/-- The order of the guidelines has no part in the number of failing pairs. -/
theorem countP_pairs_perm {gs gs' : List Guideline} (h : gs.Perm gs') (index : ClassIndex)
    (source : ClassDecl → Option Resource) (classes : List ClassDecl) :
    (pairs classes gs).countP (failingPair index source) =
      (pairs classes gs').countP (failingPair index source) := by
  induction classes with
  | nil => rfl
  | cons c classes ih => rw [countP_pairs_cons, countP_pairs_cons, ih, h.countP_eq]

theorem failures_outcomes (a : Analysis) (index : ClassIndex)
    (source : ClassDecl → Option Resource) (classes : List ClassDecl) :
    (a.outcomes index (classes.filterMap fun c => (source c).map fun resource => (c, resource))).foldl
        (fun n o => n + o.failures) 0 =
      (pairs classes a.guidelines).countP (failingPair index source) := by
  induction classes with
  | nil => rfl
  | cons c classes ih =>
    rw [countP_pairs_cons, ← ih]
    cases hc : source c with
    | none => simp [hc]
    | some resource =>
      simp only [List.filterMap_cons, hc, Option.map_some, outcomes, List.map_cons, List.foldl_cons]
      rw [foldl_failures, failures_checkClass, Nat.zero_add]
      rfl

/-! ## The report -/

/-- A report on classes under guidelines, where some classes have a source file. -/
structure Exact (gs : List Guideline) (classes : List ClassDecl)
    (source : ClassDecl → Option Resource) (r : AnalysisReport) : Prop where
  registry : r.guidelines.Perm gs
  ascending : r.guidelines.Pairwise fun g h => g.id < h.id
  markers : r.markers = classes.flatMap fun c => (source c).toList.flatMap fun resource =>
    r.guidelines.flatMap (guidelineMarkers ⟨classes⟩ c resource)
  failures : r.stats.failures = (pairs classes gs).countP (failingPair ⟨classes⟩ source)
  analyzed : r.stats.analyzedCount = classes.countP fun c => (source c).isSome
  skipped : r.stats.analyzedCount + r.stats.skippedCount = r.stats.classCount
  classCount : r.stats.classCount = classes.length
  enumCount : r.stats.enumCount = classes.countP fun c => c.access.isEnum

theorem flatMap_targets {β : Type} (source : ClassDecl → Option Resource)
    (f : ClassDecl × Resource → List β) (classes : List ClassDecl) :
    (classes.filterMap fun c => (source c).map fun resource => (c, resource)).flatMap f =
      classes.flatMap fun c => (source c).toList.flatMap fun resource => f (c, resource) := by
  induction classes with
  | nil => rfl
  | cons c classes ih =>
    rw [List.flatMap_cons, ← ih]
    cases hc : source c <;> simp [hc]

theorem targets_eq {p : Project σ ε} {classes : List ClassDecl} {s : σ}
    {source : ClassDecl → Option Resource}
    (hsource : ∀ c ∈ classes, source c = p.findSource s (sourcePath c.name (p.extension s))) :
    targets p s classes =
      classes.filterMap fun c => (source c).map fun resource => (c, resource) := by
  unfold targets
  induction classes with
  | nil => rfl
  | cons c classes ih =>
    rw [List.filterMap_cons, List.filterMap_cons, hsource c List.mem_cons_self,
      ih fun d hd => hsource d (List.mem_cons_of_mem c hd)]

theorem pairwise_ofGuidelines {gs : List Guideline} (hids : (gs.map Guideline.id).Nodup) :
    (ofGuidelines gs).guidelines.Pairwise fun g h => g.id < h.id := by
  have hsorted : (ofGuidelines gs).guidelines.Pairwise fun g h => g.id ≤ h.id :=
    pairwise_mergeSort_key Guideline.id gs
  have hperm : (ofGuidelines gs).guidelines.Perm gs := List.mergeSort_perm ..
  have hdistinct : (ofGuidelines gs).guidelines.Pairwise fun g h => g.id ≠ h.id :=
    List.pairwise_map.mp ((hperm.map Guideline.id).nodup_iff.mpr hids)
  refine hsorted.imp₂ ?_ hdistinct
  intro g h hle hne
  exact String.not_le.mp fun hge => hne (String.le_antisymm hle hge)

/-- The report on a class list is exact for the source files it was made with. -/
theorem exact_reportOn {gs : List Guideline} (hids : (gs.map Guideline.id).Nodup) (n : Nat)
    {p : Project σ ε} {classes : List ClassDecl} {s : σ} {source : ClassDecl → Option Resource}
    (hsource : ∀ c ∈ classes, source c = p.findSource s (sourcePath c.name (p.extension s))) :
    Exact gs classes source ({ ofGuidelines gs with maxAttempts := n }.reportOn p classes s) := by
  have hperm : (ofGuidelines gs).guidelines.Perm gs := List.mergeSort_perm ..
  have htargets := targets_eq hsource
  have hskipped : skipped p s classes = classes.countP fun c => (source c).isNone := by
    refine List.countP_congr fun c hc => ?_
    rw [hsource c hc]
  have hlength : (targets p s classes).length = classes.countP fun c => (source c).isSome := by
    rw [htargets, List.length_filterMap_eq_countP]
    simp
  exact {
    registry := hperm
    ascending := pairwise_ofGuidelines hids
    markers := by
      rw [reportOn, found, allMarkers_outcomes, htargets, flatMap_targets]
    failures := by
      rw [reportOn, stats, htargets, failures_outcomes]
      exact countP_pairs_perm hperm ..
    analyzed := hlength
    skipped := by
      show (targets p s classes).length + skipped p s classes = classes.length
      rw [hlength, hskipped, List.length_eq_countP_add_countP fun c => (source c).isSome]
      congr 2
      funext c
      cases source c <;> rfl
    classCount := rfl
    enumCount := List.countP_eq_length_filter.symm }

/-! ## One report only -/

/-- Two lists of the same guidelines in ascending order of ids are the same list. -/
theorem ascending_unique {gs gs' : List Guideline} (h : gs.Perm gs')
    (hgs : gs.Pairwise fun g h => g.id < h.id) (hgs' : gs'.Pairwise fun g h => g.id < h.id) :
    gs = gs' :=
  h.eq_of_pairwise (fun _ _ _ _ hlt hgt => absurd hgt (String.lt_asymm hlt)) hgs hgs'

namespace Exact

variable {gs gs' : List Guideline} {classes : List ClassDecl}
  {source : ClassDecl → Option Resource} {r r' : AnalysisReport}

theorem unique (hr : Exact gs classes source r) (hr' : Exact gs' classes source r')
    (h : gs'.Perm gs) : r' = r := by
  have hguidelines : r'.guidelines = r.guidelines :=
    ascending_unique (hr'.registry.trans (h.trans hr.registry.symm)) hr'.ascending hr.ascending
  have hmarkers : r'.markers = r.markers := by rw [hr'.markers, hr.markers, hguidelines]
  have hstats : r'.stats = r.stats := by
    have hfailures : r'.stats.failures = r.stats.failures := by
      rw [hr'.failures, hr.failures, countP_pairs_perm h]
    have hanalyzed : r'.stats.analyzedCount = r.stats.analyzedCount := by
      rw [hr'.analyzed, hr.analyzed]
    have hclasses : r'.stats.classCount = r.stats.classCount := by
      rw [hr'.classCount, hr.classCount]
    have henums : r'.stats.enumCount = r.stats.enumCount := by rw [hr'.enumCount, hr.enumCount]
    have hskipped : r'.stats.skippedCount = r.stats.skippedCount := by
      have := hr'.skipped
      have := hr.skipped
      omega
    cases hs' : r'.stats
    cases hs : r.stats
    simp_all
  cases r'
  cases r
  simp_all

end Exact

theorem guidelineId_of_mem {index : ClassIndex} {c : ClassDecl} {resource : Resource}
    {g : Guideline} {m : Marker} (h : m ∈ guidelineMarkers index c resource g) :
    m.guidelineId = g.id := by
  unfold guidelineMarkers at h
  split at h
  · obtain ⟨f, -, rfl⟩ := List.mem_map.mp h
    rfl
  · cases h

/-- The markers of one class that come from other guidelines than one. -/
theorem filter_flatMap_guidelines (index : ClassIndex) (c : ClassDecl) (resource : Resource)
    (id : String) (gs : List Guideline) :
    (gs.flatMap (guidelineMarkers index c resource)).filter (fun m => m.guidelineId != id) =
      (gs.filter fun g => g.id != id).flatMap (guidelineMarkers index c resource) := by
  induction gs with
  | nil => rfl
  | cons g gs ih =>
    rw [List.flatMap_cons, List.filter_append, ih, List.filter_cons]
    have hid : ∀ m ∈ guidelineMarkers index c resource g, (m.guidelineId != id) = (g.id != id) :=
      fun m hm => by rw [guidelineId_of_mem hm]
    cases hg : g.id != id with
    | false =>
      have hnone : (guidelineMarkers index c resource g).filter (fun m => m.guidelineId != id) = [] :=
        List.filter_eq_nil_iff.mpr fun m hm => by rw [hid m hm, hg]; exact Bool.false_ne_true
      rw [hnone]
      rfl
    | true =>
      have hall : (guidelineMarkers index c resource g).filter (fun m => m.guidelineId != id) =
          guidelineMarkers index c resource g :=
        List.filter_eq_self.mpr fun m hm => by rw [hid m hm, hg]
      rw [hall, if_pos rfl, List.flatMap_cons]

/-- Without the guideline of an id, the others have the markers they had. -/
theorem Exact.without {gs : List Guideline} {classes : List ClassDecl}
    {source : ClassDecl → Option Resource} {r r' : AnalysisReport} (id : String)
    (hr : Exact gs classes source r)
    (hr' : Exact (gs.filter fun g => g.id != id) classes source r') :
    r'.markers = r.markers.filter fun m => m.guidelineId != id := by
  have hguidelines : r'.guidelines = r.guidelines.filter fun g => g.id != id :=
    ascending_unique (hr'.registry.trans (hr.registry.filter _).symm) hr'.ascending
      (hr.ascending.filter _)
  rw [hr'.markers, hr.markers, hguidelines, List.filter_flatMap]
  congr
  funext c
  rw [List.filter_flatMap]
  congr
  funext resource
  exact (filter_flatMap_guidelines ..).symm

/-! ## Source files -/

/-- The part of a name before its last dollar sign, or the whole name when it has none. -/
inductive Cut : List Char → List Char → Prop where
  | whole {name : List Char} : '$' ∉ name → Cut name name
  | before {outer inner : List Char} : '$' ∉ inner → Cut (outer ++ '$' :: inner) outer

theorem dropWhile_noDollar {cs : List Char} (h : '$' ∉ cs) (rest : List Char) :
    (cs.reverse ++ rest).dropWhile (fun c => c != '$') = rest.dropWhile fun c => c != '$' := by
  apply List.dropWhile_append_of_pos
  intro c hc
  rw [bne_iff_ne]
  rintro rfl
  exact h (List.mem_reverse.mp hc)

theorem Cut.eq_topLevelName {name top : List Char} (h : Cut name top) :
    top = topLevelName name := by
  cases h with
  | whole hname =>
    have hnil := dropWhile_noDollar hname []
    rw [List.append_nil] at hnil
    rw [topLevelName, hnil]
    rfl
  | @before outer inner hinner =>
    rw [topLevelName, List.reverse_append, List.reverse_cons, List.append_assoc,
      dropWhile_noDollar hinner]
    simp

theorem cut_topLevelName (name : List Char) : Cut name (topLevelName name) := by
  by_cases hname : '$' ∈ name
  · obtain ⟨inner, outer, hsplit, hinner⟩ :=
      List.eq_append_cons_of_mem (List.mem_reverse.mpr hname)
    have hcut : Cut name outer.reverse := by
      rw [← List.reverse_reverse name, hsplit, List.reverse_append, List.reverse_cons,
        List.append_assoc]
      exact .before fun h => hinner (List.mem_reverse.mp h)
    rwa [← hcut.eq_topLevelName]
  · have hcut : Cut name name := .whole hname
    rwa [← hcut.eq_topLevelName]

/-- What the project answers for a class: it is asked for the cut name with the extension of the
project behind it. -/
def SourceOf (p : Project σ ε) (s : σ) (c : ClassDecl) (answer : Option Resource) : Prop :=
  ∃ top, Cut c.name.toList top ∧ answer = p.findSource s (String.ofList top ++ p.extension s)

theorem sourceOf_iff {p : Project σ ε} {s : σ} {c : ClassDecl} {answer : Option Resource} :
    SourceOf p s c answer ↔ answer = p.findSource s (sourcePath c.name (p.extension s)) := by
  constructor
  · rintro ⟨top, hcut, rfl⟩
    rw [hcut.eq_topLevelName, sourcePath]
  · rintro rfl
    exact ⟨_, cut_topLevelName c.name.toList, rfl⟩

/-! ## Projects whose operations succeed -/

theorem addAll_smooth {p : Project σ ε} (ms : List Marker) (s : σ)
    (h : ∀ ms m, (p.add m (p.keep ms s)).1 = .ok ()) : addAll p ms s = (.ok (), p.keep ms s) := by
  induction ms generalizing s with
  | nil => rfl
  | cons m ms ih =>
    have hm : p.add m s = (.ok (), (p.add m s).2) := Prod.ext (h [] m) rfl
    rw [addAll, hm]
    exact ih _ fun later m' => h (m :: later) m'

theorem run_smooth {p : Project σ ε} {s : σ} (hp : p.Smooth s) {classes : List ClassDecl}
    (hnames : (classes.map ClassDecl.name).Nodup) (a : Analysis) :
    (a.run p classes s).1 = .ok (a.reportOn p classes (p.clear s).2) := by
  have hclear : clearMarkers p a.maxAttempts s = (.ok (), (p.clear s).2) := by
    have hc : p.clear s = (.ok (), (p.clear s).2) := Prod.ext hp.clear rfl
    rw [clearMarkers, clearFrom, hc]
  have hadd := addAll_smooth (a.found p classes (p.clear s).2) (p.clear s).2 hp.add
  have hflush : p.flush (p.keep (a.found p classes (p.clear s).2) (p.clear s).2) =
      (.ok (), (p.flush (p.keep (a.found p classes (p.clear s).2) (p.clear s).2)).2) :=
    Prod.ext (hp.flush _) rfl
  rw [run_done hnames hclear hadd hflush]

/-! ## The analysis -/

/-- **What a report holds.** For guidelines of distinct ids, classes of distinct names and a project
whose operations succeed, the analysis gives the report that `Exact` describes. Another order of the
guidelines, other markers in the project and another number of attempts give the same report, and
without the guideline of some id the other markers stay as they are. -/
theorem report_exact {p : Project σ ε} {s : σ} (hp : p.Smooth s) {gs : List Guideline}
    (hids : (gs.map Guideline.id).Nodup) {classes : List ClassDecl}
    (hnames : (classes.map ClassDecl.name).Nodup) {source : ClassDecl → Option Resource}
    (hsource : ∀ c ∈ classes, SourceOf p (p.clear s).2 c (source c)) (n : Nat) :
    ∃ r, ({ ofGuidelines gs with maxAttempts := n }.run p classes s).1 = .ok r ∧
      Exact gs classes source r ∧
      (∀ gs' n' s', gs'.Perm gs → p.Smooth s' →
        (∀ c ∈ classes, SourceOf p (p.clear s').2 c (source c)) →
        ({ ofGuidelines gs' with maxAttempts := n' }.run p classes s').1 = .ok r) ∧
      ∀ id, ∃ r',
        ({ ofGuidelines (gs.filter fun g => g.id != id) with maxAttempts := n }.run p classes s).1 =
          .ok r' ∧
        r'.markers = r.markers.filter fun m => m.guidelineId != id := by
  have hexact := exact_reportOn hids n fun c hc => sourceOf_iff.1 (hsource c hc)
  refine ⟨_, run_smooth hp hnames _, hexact, ?_, ?_⟩
  · intro gs' n' s' hperm hp' hsource'
    have hids' : (gs'.map Guideline.id).Nodup := (hperm.map _).nodup_iff.mpr hids
    rw [run_smooth hp' hnames,
      hexact.unique (exact_reportOn hids' n' fun c hc => sourceOf_iff.1 (hsource' c hc)) hperm]
  · intro id
    have hids' : ((gs.filter fun g => g.id != id).map Guideline.id).Nodup :=
      (List.filter_sublist.map _).nodup hids
    exact ⟨_, run_smooth hp hnames _,
      hexact.without id (exact_reportOn hids' n fun c hc => sourceOf_iff.1 (hsource c hc))⟩

/-- A class, an enum nested in it, and a class without a source file. -/
def probedClasses : List ClassDecl :=
  [{ name := "p/A"
     methods := [{ name := "f", descriptor := "()V", instructions := [⟨0, 0xb1, .other⟩] },
       { name := "g", descriptor := "()V", instructions := [⟨0, 0xb1, .other⟩] }] },
    { name := "p/A$B"
      superName := some "java/lang/Enum"
      access := { isEnum := true }
      methods := [{ name := "h", descriptor := "()V", instructions := [⟨0, 0xb1, .other⟩] }] },
    { name := "Q"
      methods := [{ name := "k", descriptor := "()V", instructions := [⟨0, 0xb1, .other⟩] }] }]

def probes : List Guideline :=
  [Guideline.Probe.first, Guideline.Probe.refusing, Guideline.Probe.breaking]

def probedProject (markers : List Marker) : MemoryProject where
  sources := ["p/A.java"]
  markers := markers

def staleMarker : Marker := ⟨"OLD", "", "", "", ⟨"p/A.java"⟩, "p/A.f()V", 0, none⟩

theorem probedProject_report :
    ∃ r, ({ ofGuidelines probes with maxAttempts := 1 }.run MemoryProject.project probedClasses
        (probedProject [staleMarker])).1 = .ok r ∧
      r.guidelines.map Guideline.id = ["A_FAILING", "B_PANICKING", "C_FIRST"] ∧
      r.markers.map Marker.location = ["p/A.f()V", "p/A.g()V", "p/A$B.h()V"] ∧
      r.stats.failures = 4 ∧ r.stats.analyzedCount = 2 ∧ r.stats.enumCount = 1 ∧
      ({ ofGuidelines probes.reverse with maxAttempts := 5 }.run MemoryProject.project
        probedClasses (probedProject [])).1 = .ok r := by
  have hsmooth (ms : List Marker) : MemoryProject.project.Smooth (probedProject ms) :=
    MemoryProject.smooth rfl rfl rfl
  have hsource (ms : List Marker) (c : ClassDecl) :
      SourceOf MemoryProject.project (MemoryProject.project.clear (probedProject ms)).2 c
        ((probedProject []).findSource (sourcePath c.name ".java")) := by
    rw [MemoryProject.clear_willing rfl, sourceOf_iff]
    simp only [MemoryProject.project, MemoryProject.findSource, probedProject]
    rfl
  have hids : (probes.map Guideline.id).Nodup := by decide
  have hnames : (probedClasses.map ClassDecl.name).Nodup := by decide
  obtain ⟨r, hrun, hexact, hsame, -⟩ :=
    report_exact (hsmooth [staleMarker]) hids hnames (fun c _ => hsource _ c) 1
  have hsorted : r.guidelines =
      [Guideline.Probe.refusing, Guideline.Probe.breaking, Guideline.Probe.first] :=
    ascending_unique (hexact.registry.trans (List.perm_append_singleton ..).symm)
      hexact.ascending (by decide)
  refine ⟨r, hrun, ?_, ?_, ?_, ?_, ?_, ?_⟩
  · rw [hsorted]
    rfl
  · rw [hexact.markers, hsorted]
    decide +kernel
  · rw [hexact.failures]
    decide +kernel
  · rw [hexact.analyzed]
    decide +kernel
  · rw [hexact.enumCount]
    decide +kernel
  · exact hsame _ 5 _ (List.reverse_perm _) (hsmooth []) fun c _ => hsource [] c

end BytecodeLint.Analysis
