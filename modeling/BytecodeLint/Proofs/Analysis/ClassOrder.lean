import BytecodeLint.Proofs.Analysis.Report
import BytecodeLint.Proofs.Class.SuperTypes

/-!
# The order of classes

A guideline is handed one class and may ask five questions about the class set: the class of a name,
whether a name is that of an enum, the number of classes and of enums, and whether a method may
override another (`ClassView`). None of the answers shows in which order the classes stand, so the
order decides about the order of the markers and about nothing else.

* `ClassIndex.view_perm`: the answers are the same for every order.
* `Guideline.asks_registry`: the guidelines in use, and the probes, go by these answers.
* `reportOn_perm`: two reports on the same classes in different orders.
* `report_rearranged`: whole analyses.
-/
namespace BytecodeLint

/-! ## Questions about a class set -/

/-- The answers that a guideline can get about a class set. -/
structure ClassView where
  class? : String → Option ClassDecl
  isEnum : String → Bool
  classCount : Nat
  enumCount : Nat
  mayOverride : ClassDecl → MethodDecl → Bool

namespace ClassIndex

/-- The answers of an index. -/
def view (index : ClassIndex) : ClassView where
  class? := index.get?
  isEnum := index.isEnum
  classCount := index.size
  enumCount := index.enumCount
  mayOverride := index.mayOverride

theorem get?_perm {classes classes' : List ClassDecl} (h : classes.Perm classes')
    (hnames : (classes.map ClassDecl.name).Nodup) (name : String) :
    (ClassIndex.mk classes).get? name = (ClassIndex.mk classes').get? name := by
  have hnames' : (classes'.map ClassDecl.name).Nodup := (h.map _).nodup_iff.1 hnames
  ext c
  rw [get?_eq_some_iff hnames, get?_eq_some_iff hnames', h.mem_iff]

theorem view_perm {classes classes' : List ClassDecl} (h : classes.Perm classes')
    (hnames : (classes.map ClassDecl.name).Nodup) :
    (ClassIndex.mk classes).view = (ClassIndex.mk classes').view := by
  have hget := get?_perm h hnames
  have henum (name : String) :
      (ClassIndex.mk classes).isEnum name = (ClassIndex.mk classes').isEnum name := by
    rw [Bool.eq_iff_iff, isEnum_iff, isEnum_iff]
    simp only [h.mem_iff]
  rw [view, view, ClassView.mk.injEq]
  exact ⟨funext hget, funext henum, h.length_eq, (h.filter _).length_eq,
    funext fun c => funext fun m => mayOverride_congr hget c m⟩

end ClassIndex

namespace Guideline

/-- The check of a guideline goes by the answers it can get about the class set. -/
def Asks (g : Guideline) : Prop :=
  ∀ index index' : ClassIndex, index.view = index'.view → g.check index = g.check index'

section
variable {index index' : ClassIndex}

theorem AvoidEnums.findings_congr (h : index.isEnum = index'.isEnum) :
    findings index = findings index' := by
  have hmessage (c : ClassDecl) : message? index c = message? index' c := by
    funext m i
    simp only [message?, h]
  funext c
  simp only [findings, hmessage]

theorem SyntheticAccess.findings_congr (h : index.get? = index'.get?) :
    findings index = findings index' := by
  have haccessor : isAccessor index = isAccessor index' := by
    funext target
    simp only [isAccessor, h]
  have hmessage (c : ClassDecl) : message? index c = message? index' c := by
    funext m i
    simp only [message?, haccessor]
  funext c
  simp only [findings, hmessage]

theorem PreferStatic.findings_congr (h : index.mayOverride = index'.mayOverride) :
    findings index = findings index' := by
  have hfinding (c : ClassDecl) : methodFinding? index c = methodFinding? index' c := by
    funext m
    simp only [methodFinding?, h]
  funext c
  simp only [findings, hfinding]

end

/-- The guidelines in use and the probes go by the answers; most of them do not even ask. -/
theorem asks_registry :
    ∀ g ∈ registry ++ [Probe.refusing, Probe.breaking, Probe.first], g.Asks := by
  intro g hg index index' hview
  have henums := AvoidEnums.findings_congr (congrArg ClassView.isEnum hview)
  have haccess := SyntheticAccess.findings_congr (congrArg ClassView.class? hview)
  have hstatic := PreferStatic.findings_congr (congrArg ClassView.mayOverride hview)
  simp only [registry, List.cons_append, List.nil_append, List.mem_cons, List.not_mem_nil,
    or_false] at hg
  rcases hg with rfl | rfl | rfl | rfl | rfl | rfl | rfl | rfl | rfl | rfl | rfl
  · simp only [AvoidEnums.guideline, henums]
  case inr.inr.inr.inr.inr.inl => simp only [SyntheticAccess.guideline, haccess]
  case inr.inr.inr.inr.inr.inr.inl => simp only [PreferStatic.guideline, hstatic]
  all_goals rfl

end Guideline

/-! ## Reports -/

variable {σ ε : Type}

/-- From a state on, the project adds any markers and persists them without failure. -/
structure Project.Accepts (p : Project σ ε) (s : σ) : Prop where
  add : ∀ ms m, (p.add m (p.keep ms s)).1 = .ok ()
  flush : ∀ ms, (p.flush (p.keep ms s)).1 = .ok ()

namespace Analysis

/-- The source file of a class, as a state of the project knows it. -/
def sourceIn (p : Project σ ε) (s : σ) (c : ClassDecl) : Option Resource :=
  p.findSource s (sourcePath c.name (p.extension s))

/-- The markers of one class: those of every guideline in turn, when there is a source file. -/
def block (a : Analysis) (p : Project σ ε) (index : ClassIndex) (s : σ) (c : ClassDecl) :
    List Marker :=
  (sourceIn p s c).toList.flatMap fun resource =>
    a.guidelines.flatMap (guidelineMarkers index c resource)

theorem targets_eq_sources (p : Project σ ε) (s : σ) (classes : List ClassDecl) :
    targets p s classes =
      classes.filterMap fun c => (sourceIn p s c).map fun resource => (c, resource) := rfl

theorem found_eq_blocks (a : Analysis) (p : Project σ ε) (classes : List ClassDecl) (s : σ) :
    a.found p classes s = classes.flatMap (a.block p ⟨classes⟩ s) := by
  rw [found, allMarkers_outcomes, targets_eq_sources, flatMap_targets]
  rfl

section
variable {a : Analysis} (hgs : ∀ g ∈ a.guidelines, g.Asks) {index index' : ClassIndex}
  (hview : index.view = index'.view)
include hgs hview

theorem block_congr (p : Project σ ε) (s : σ) : a.block p index s = a.block p index' s := by
  funext c
  have hmarkers (resource : Resource) : a.guidelines.flatMap (guidelineMarkers index c resource) =
      a.guidelines.flatMap (guidelineMarkers index' c resource) := by
    refine List.flatMap_congr fun g hg => ?_
    simp only [guidelineMarkers, hgs g hg index index' hview]
  simp only [block, hmarkers]

theorem failingPairs_congr (source : ClassDecl → Option Resource) (classes : List ClassDecl) :
    (pairs classes a.guidelines).countP (failingPair index source) =
      (pairs classes a.guidelines).countP (failingPair index' source) := by
  refine List.countP_congr fun pair hpair => ?_
  obtain ⟨c, -, hpair⟩ := List.mem_flatMap.1 hpair
  obtain ⟨g, hg, rfl⟩ := List.mem_map.1 hpair
  simp only [failingPair, failsOn, hgs g hg index index' hview]

end

/-- The same classes in another order give the same counters, and the same blocks of markers in that
order. -/
theorem reportOn_perm {a : Analysis} (hgs : ∀ g ∈ a.guidelines, g.Asks) (p : Project σ ε)
    {classes classes' : List ClassDecl} (h : classes.Perm classes')
    (hnames : (classes.map ClassDecl.name).Nodup) (s : σ) :
    (a.reportOn p classes s).stats = (a.reportOn p classes' s).stats ∧
      (a.reportOn p classes s).markers = classes.flatMap (a.block p ⟨classes⟩ s) ∧
      (a.reportOn p classes' s).markers = classes'.flatMap (a.block p ⟨classes⟩ s) := by
  have hview := ClassIndex.view_perm h hnames
  refine ⟨?_, found_eq_blocks .., ?_⟩
  · have hpairs : (pairs classes a.guidelines).Perm (pairs classes' a.guidelines) :=
      h.flatMap_right _
    rw [reportOn, reportOn, stats, stats, AnalysisStats.mk.injEq]
    refine ⟨h.length_eq, (h.filterMap _).length_eq, h.countP_eq _, (h.filter _).length_eq, ?_⟩
    rw [targets_eq_sources, targets_eq_sources, failures_outcomes, failures_outcomes,
      failingPairs_congr hgs hview, hpairs.countP_eq]
  · rw [block_congr hgs hview]
    exact found_eq_blocks ..

/-- **The order of classes.** Where additions and persisting succeed, an analysis of the same classes
in another order fails with the same fault, or succeeds with the same counters and with the same
block of markers for each class, in the new order of the classes. This is so for all guidelines that
go by the answers they can get about the class set, as those in use and the probes do. -/
theorem report_rearranged :
    (∀ {σ ε : Type} (a : Analysis) (p : Project σ ε) (s : σ), (∀ g ∈ a.guidelines, g.Asks) →
      p.Accepts (clearMarkers p a.maxAttempts s).2 →
      ∀ classes classes' : List ClassDecl, classes.Perm classes' →
        (∃ fault, (a.run p classes s).1 = .error fault ∧ (a.run p classes' s).1 = .error fault) ∨
        ∃ r r' index, (a.run p classes s).1 = .ok r ∧ (a.run p classes' s).1 = .ok r' ∧
          r.stats = r'.stats ∧ ClassIndex.build classes = .ok index ∧
          r.markers = classes.flatMap (a.block p index (clearMarkers p a.maxAttempts s).2) ∧
          r'.markers = classes'.flatMap (a.block p index (clearMarkers p a.maxAttempts s).2)) ∧
      ∀ g ∈ Guideline.registry ++
        [Guideline.Probe.refusing, Guideline.Probe.breaking, Guideline.Probe.first], g.Asks := by
  refine ⟨fun a p s hgs hp classes classes' h => ?_, Guideline.asks_registry⟩
  by_cases hnames : (classes.map ClassDecl.name).Nodup
  · have hnames' : (classes'.map ClassDecl.name).Nodup := (h.map _).nodup_iff.1 hnames
    rcases hclear : clearMarkers p a.maxAttempts s with ⟨⟨attempts, fault⟩ | ⟨⟨⟩⟩, s₁⟩
    · left
      exact ⟨_, by rw [run_locked hnames hclear], by rw [run_locked hnames' hclear]⟩
    · right
      rw [hclear] at hp
      have hrun {cs : List ClassDecl} (hcs : (cs.map ClassDecl.name).Nodup) :
          (a.run p cs s).1 = .ok (a.reportOn p cs s₁) := by
        have hadd := addAll_smooth (a.found p cs s₁) s₁ hp.add
        rw [run_done hcs hclear hadd (Prod.ext (hp.flush _) rfl)]
      obtain ⟨hstats, hmarkers, hmarkers'⟩ := reportOn_perm hgs p h hnames s₁
      exact ⟨_, _, _, hrun hnames, hrun hnames', hstats, ClassIndex.build_eq_ok hnames, hmarkers,
        hmarkers'⟩
  · left
    have hnames' : ¬ (classes'.map ClassDecl.name).Nodup := fun hdistinct =>
      hnames ((h.map _).nodup_iff.2 hdistinct)
    refine ⟨_, by rw [run_refused hnames], ?_⟩
    rw [run_refused hnames', repeatedNames_perm (h.map ClassDecl.name)]

/-! An enum and a class that reads one of its constants, in both orders. -/

def palette : ClassDecl where
  name := "p/Color"
  access := { isEnum := true }
  methods := [{ name := "pick", descriptor := "()V", instructions := [⟨0, 0xb1, .other⟩] }]

def painter : ClassDecl where
  name := "p/Paint"
  methods :=
    [{ name := "f"
       descriptor := "()V"
       instructions := [⟨0, 0xb2, .field .getStatic ⟨"p/Color", "RED", "Lp/Color;"⟩⟩,
         ⟨3, 0xb1, .other⟩] }]

def gallery : MemoryProject where
  sources := ["p/Color.java", "p/Paint.java"]

def galleryAnalysis : Analysis where
  guidelines := [Guideline.AvoidEnums.guideline, Guideline.Probe.first]

/-- Guideline, method and offset of a marker. -/
def briefly (m : Marker) : String × String × Nat := (m.guidelineId, m.location, m.offset)

theorem gallery_rearranged :
    ∃ r r', (galleryAnalysis.run MemoryProject.project [painter, palette] gallery).1 = .ok r ∧
      (galleryAnalysis.run MemoryProject.project [palette, painter] gallery).1 = .ok r' ∧
      r.stats = r'.stats ∧
      r.markers.map briefly =
        [("AVOID_ENUMS", "p/Paint.f()V", 0), ("C_FIRST", "p/Paint.f()V", 0),
          ("C_FIRST", "p/Color.pick()V", 0)] ∧
      r'.markers.map briefly =
        [("C_FIRST", "p/Color.pick()V", 0), ("AVOID_ENUMS", "p/Paint.f()V", 0),
          ("C_FIRST", "p/Paint.f()V", 0)] := by
  have hsmooth : MemoryProject.project.Smooth gallery := MemoryProject.smooth rfl rfl rfl
  have hnames : ([painter, palette].map ClassDecl.name).Nodup := by decide
  have hasks : ∀ g ∈ galleryAnalysis.guidelines, g.Asks := by
    intro g hg
    apply Guideline.asks_registry
    simp only [galleryAnalysis, List.mem_cons, List.not_mem_nil, or_false] at hg
    rcases hg with rfl | rfl <;> simp [Guideline.registry]
  rcases report_rearranged.1 galleryAnalysis MemoryProject.project gallery hasks
      ⟨hsmooth.add, hsmooth.flush⟩ [painter, palette] [palette, painter] (.swap ..) with
    ⟨fault, hfault, -⟩ | ⟨r, r', index, hrun, hrun', hstats, hbuild, hmarkers, hmarkers'⟩
  · rw [run_smooth hsmooth hnames] at hfault
    cases hfault
  · rw [ClassIndex.build_eq_ok hnames] at hbuild
    cases hbuild
    refine ⟨r, r', hrun, hrun', hstats, ?_, ?_⟩
    · rw [hmarkers]
      decide +kernel
    · rw [hmarkers']
      decide +kernel

end Analysis

end BytecodeLint
