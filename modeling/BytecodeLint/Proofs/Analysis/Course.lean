import BytecodeLint.Analysis.Basic
import BytecodeLint.Guideline.Probe
import BytecodeLint.Proofs.Class.Index
import BytecodeLint.Proofs.Project.Laws

/-!
# Stale and fresh markers never mix

An analysis can end early at five points: a repeated class name, clearing, one of the additions,
persisting, or not at all. `Course` lists for each of them the calls made to the project up to there,
the answer, and the markers the project is left with: the old ones, or as many of the fresh ones as
were added, but never some of both.

* `clearFrom_course`, `addAll_course`: what the two loops do, call by call.
* `run_course`: every analysis of a lawful project takes one of the courses.
* `replaced_or_kept`: so after any number of analyses the markers are those from the beginning or a
  front part of what one of the analyses found.
-/
namespace BytecodeLint.Analysis

variable {σ ε : Type}

/-! ## The parts of an analysis -/

/-- The markers for a class list, with the source files a state of the project knows. -/
def found (a : Analysis) (p : Project σ ε) (classes : List ClassDecl) (s : σ) : List Marker :=
  a.allMarkers (targets p s classes) (a.outcomes ⟨classes⟩ (targets p s classes))

/-- The markers an analysis finds for a class list, once the old markers are cleared. -/
def fresh (a : Analysis) (p : Project σ ε) (classes : List ClassDecl) (s : σ) : List Marker :=
  a.found p classes (clearMarkers p a.maxAttempts s).2

/-- The report on a class list, with the source files a state of the project knows. -/
def reportOn (a : Analysis) (p : Project σ ε) (classes : List ClassDecl) (s : σ) :
    AnalysisReport where
  guidelines := a.guidelines
  markers := a.found p classes s
  stats := stats ⟨classes⟩ (targets p s classes) (a.outcomes ⟨classes⟩ (targets p s classes))
    (skipped p s classes)

section
variable {a : Analysis} {p : Project σ ε} {classes : List ClassDecl} {s s₁ s₂ s₃ : σ}

theorem run_refused (h : ¬ (classes.map ClassDecl.name).Nodup) :
    a.run p classes s =
      (.error (.duplicates ⟨repeatedNames (classes.map ClassDecl.name)⟩), s) := by
  simp only [run, ClassIndex.build_eq_error h]

variable (hnames : (classes.map ClassDecl.name).Nodup)
include hnames

theorem run_locked {attempts : Nat} {fault : ε}
    (hclear : clearMarkers p a.maxAttempts s = (.error (attempts, fault), s₁)) :
    a.run p classes s = (.error (.clear attempts fault), s₁) := by
  simp only [run, ClassIndex.build_eq_ok hnames, hclear]

variable (hclear : clearMarkers p a.maxAttempts s = (.ok (), s₁))
include hclear

theorem run_cut {resource : Resource} {fault : ε}
    (hadd : addAll p (a.found p classes s₁) s₁ = (.error (resource, fault), s₂)) :
    a.run p classes s = (.error (.add resource fault), s₂) := by
  rw [found] at hadd
  simp only [run, ClassIndex.build_eq_ok hnames, hclear, hadd]

variable (hadd : addAll p (a.found p classes s₁) s₁ = (.ok (), s₂))
include hadd

theorem run_unpersisted {fault : ε} (hflush : p.flush s₂ = (.error fault, s₃)) :
    a.run p classes s = (.error (.flush fault), s₃) := by
  rw [found] at hadd
  simp only [run, ClassIndex.build_eq_ok hnames, hclear, hadd, hflush]

theorem run_done (hflush : p.flush s₂ = (.ok (), s₃)) :
    a.run p classes s = (.ok (a.reportOn p classes s₁), s₃) := by
  rw [found] at hadd
  simp only [run, ClassIndex.build_eq_ok hnames, hclear, hadd, hflush, reportOn, found]

end

/-! ## Courses -/

/-- The calls of a clear that succeeds after some failures. -/
def clearing (failures : Nat) : List Call :=
  List.replicate failures (.clear false) ++ [.clear true]

/-- The calls that add markers, all of them with success. -/
def adding (ms : List Marker) : List Call := ms.map fun m => .add m true

/-- The courses of an analysis with these old and fresh markers: the calls it makes, its answer, and
the markers it leaves. -/
inductive Course (distinct : Prop) (attempts : Nat) (old new : List Marker) :
    List Call → Except (AnalysisFault ε) AnalysisReport → List Marker → Prop where
  /-- A class name is repeated. -/
  | refused (names : DuplicateClasses) : ¬ distinct →
      Course distinct attempts old new [] (.error (.duplicates names)) old
  /-- Every attempt to clear fails. -/
  | locked (fault : ε) : distinct →
      Course distinct attempts old new (List.replicate attempts (.clear false))
        (.error (.clear attempts fault)) old
  /-- The addition of the marker behind the first `k` fails. -/
  | cut (failures k : Nat) (m : Marker) (fault : ε) : distinct → failures < attempts →
      new[k]? = some m →
      Course distinct attempts old new
        (clearing failures ++ adding (new.take k) ++ [.add m false])
        (.error (.add m.resource fault)) (new.take k)
  /-- Persisting fails. -/
  | unpersisted (failures : Nat) (fault : ε) : distinct → failures < attempts →
      Course distinct attempts old new (clearing failures ++ adding new ++ [.flush false])
        (.error (.flush fault)) new
  /-- Nothing fails but some attempts to clear. -/
  | done (failures : Nat) (report : AnalysisReport) : distinct → failures < attempts →
      report.markers = new →
      Course distinct attempts old new (clearing failures ++ adding new ++ [.flush true])
        (.ok report) new

/-! ## The loops -/

section
variable {p : Project σ ε} (hp : p.Lawful)
include hp

theorem clearFrom_course (retries attempt : Nat) (s : σ) (log : List Call) :
    (∃ s' failures, failures ≤ retries ∧ p.markers s' = [] ∧
      clearFrom p attempt retries s = (.ok (), s') ∧
      clearFrom p.recorded attempt retries (s, log) = (.ok (), s', log ++ clearing failures)) ∨
    (∃ s' fault, p.markers s' = p.markers s ∧
      clearFrom p attempt retries s = (.error (attempt + retries, fault), s') ∧
      clearFrom p.recorded attempt retries (s, log) =
        (.error (attempt + retries, fault), s',
          log ++ List.replicate (retries + 1) (.clear false))) := by
  induction retries generalizing attempt s log with
  | zero =>
    rcases hc : p.clear s with ⟨fault | ⟨⟨⟩⟩, s'⟩
    · right
      refine ⟨s', fault, hp.clear_error hc, ?_, ?_⟩
      · rw [clearFrom, hc]; rfl
      · rw [clearFrom, Project.recorded_clear hc]; rfl
    · left
      refine ⟨s', 0, Nat.le_refl 0, hp.clear_ok hc, ?_, ?_⟩
      · rw [clearFrom, hc]
      · rw [clearFrom, Project.recorded_clear hc]; rfl
  | succ retries ih =>
    rcases hc : p.clear s with ⟨fault | ⟨⟨⟩⟩, s'⟩
    · -- the first attempt fails and the others go on from the state it leaves
      have hm := hp.clear_error hc
      rw [clearFrom, hc, clearFrom, Project.recorded_clear hc]
      rcases ih (attempt + 1) s' (log ++ [.clear false]) with
        ⟨s'', failures, hle, hempty, hrun, hrec⟩ | ⟨s'', fault', hsame, hrun, hrec⟩
      · left
        refine ⟨s'', failures + 1, by omega, hempty, hrun, hrec.trans ?_⟩
        simp [clearing, List.replicate_succ]
      · right
        have hnumber : attempt + 1 + retries = attempt + (retries + 1) := by omega
        rw [hnumber] at hrun hrec
        refine ⟨s'', fault', hsame.trans hm, hrun, hrec.trans ?_⟩
        simp [List.replicate_succ]
    · left
      refine ⟨s', 0, Nat.zero_le _, hp.clear_ok hc, ?_, ?_⟩
      · rw [clearFrom, hc]
      · rw [clearFrom, Project.recorded_clear hc]; rfl

theorem clearMarkers_course (maxAttempts : Nat) (s : σ) (log : List Call) :
    (∃ s' failures, failures < max maxAttempts 1 ∧ p.markers s' = [] ∧
      clearMarkers p maxAttempts s = (.ok (), s') ∧
      clearMarkers p.recorded maxAttempts (s, log) = (.ok (), s', log ++ clearing failures)) ∨
    (∃ s' fault, p.markers s' = p.markers s ∧
      clearMarkers p maxAttempts s = (.error (max maxAttempts 1, fault), s') ∧
      clearMarkers p.recorded maxAttempts (s, log) =
        (.error (max maxAttempts 1, fault), s',
          log ++ List.replicate (max maxAttempts 1) (.clear false))) := by
  have hlast : 1 + (max maxAttempts 1 - 1) = max maxAttempts 1 := by omega
  have hcount : max maxAttempts 1 - 1 + 1 = max maxAttempts 1 := by omega
  have h := clearFrom_course hp (max maxAttempts 1 - 1) 1 s log
  rw [hlast, hcount] at h
  rcases h with ⟨s', failures, hle, h⟩ | h
  · exact .inl ⟨s', failures, by omega, h⟩
  · exact .inr h

theorem addAll_course (ms : List Marker) (s : σ) (log : List Call) :
    (∃ s', p.markers s' = p.markers s ++ ms ∧ addAll p ms s = (.ok (), s') ∧
      addAll p.recorded ms (s, log) = (.ok (), s', log ++ adding ms)) ∨
    (∃ s' k m fault, ms[k]? = some m ∧ p.markers s' = p.markers s ++ ms.take k ∧
      addAll p ms s = (.error (m.resource, fault), s') ∧
      addAll p.recorded ms (s, log) =
        (.error (m.resource, fault), s', log ++ adding (ms.take k) ++ [.add m false])) := by
  induction ms generalizing s log with
  | nil => exact .inl ⟨s, by simp, rfl, by simp [addAll, adding]⟩
  | cons m ms ih =>
    rcases ha : p.add m s with ⟨fault | ⟨⟨⟩⟩, s'⟩
    · right
      refine ⟨s', 0, m, fault, rfl, by simpa using hp.add_error ha, ?_, ?_⟩
      · rw [addAll, ha]
      · rw [addAll, Project.recorded_add ha]; simp [adding, Except.isOk, Except.toBool]
    · have hm := hp.add_ok ha
      rw [addAll, ha, addAll, Project.recorded_add ha]
      rcases ih s' (log ++ [.add m true]) with
        ⟨s'', hall, hrun, hrec⟩ | ⟨s'', k, m', fault, hk, hfront, hrun, hrec⟩
      · left
        refine ⟨s'', ?_, hrun, hrec.trans ?_⟩
        · rw [hall, hm, List.append_assoc]; rfl
        · simp [adding]
      · right
        refine ⟨s'', k + 1, m', fault, hk, ?_, hrun, hrec.trans ?_⟩
        · rw [hfront, hm, List.append_assoc]; rfl
        · simp [adding]

/-- **One analysis.** Recording changes nothing, and the record shows one of the courses. -/
theorem run_course (a : Analysis) (classes : List ClassDecl) (s : σ) (log : List Call) :
    ∃ calls,
      a.run p.recorded classes (s, log) =
        ((a.run p classes s).1, (a.run p classes s).2, log ++ calls) ∧
      Course (classes.map ClassDecl.name).Nodup (max a.maxAttempts 1) (p.markers s)
        (a.fresh p classes s) calls (a.run p classes s).1 (p.markers (a.run p classes s).2) := by
  by_cases hnames : (classes.map ClassDecl.name).Nodup
  · rcases clearMarkers_course hp a.maxAttempts s log with
      ⟨s₁, failures, hlt, hempty, hclear, hclear'⟩ | ⟨s₁, fault, hsame, hclear, hclear'⟩
    · have hnew : a.fresh p classes s = a.found p classes s₁ := by rw [fresh, hclear]
      rw [hnew]
      rcases addAll_course hp (a.found p classes s₁) s₁ (log ++ clearing failures) with
        ⟨s₂, hall, hadd, hadd'⟩ | ⟨s₂, k, m, fault, hk, hfront, hadd, hadd'⟩
      · rw [hempty, List.nil_append] at hall
        rcases hflush : p.flush s₂ with ⟨fault | ⟨⟨⟩⟩, s₃⟩
        · have hflush' := Project.recorded_flush hflush
            (log ++ clearing failures ++ adding (a.found p classes s₁))
          rw [run_unpersisted hnames hclear hadd hflush,
            run_unpersisted hnames hclear' hadd' hflush', hp.flush hflush, hall]
          refine ⟨_, ?_, .unpersisted failures fault hnames hlt⟩
          simp only [List.append_assoc]; rfl
        · have hflush' := Project.recorded_flush hflush
            (log ++ clearing failures ++ adding (a.found p classes s₁))
          rw [run_done hnames hclear hadd hflush, run_done hnames hclear' hadd' hflush',
            hp.flush hflush, hall]
          refine ⟨_, ?_, .done failures _ hnames hlt rfl⟩
          simp only [List.append_assoc]; rfl
      · rw [hempty, List.nil_append] at hfront
        rw [run_cut hnames hclear hadd, run_cut hnames hclear' hadd', hfront]
        refine ⟨_, ?_, .cut failures k m fault hnames hlt hk⟩
        simp only [List.append_assoc]
    · rw [run_locked hnames hclear, run_locked hnames hclear', hsame]
      exact ⟨_, rfl, .locked fault hnames⟩
  · rw [run_refused hnames, run_refused hnames]
    exact ⟨[], by simp, .refused _ hnames⟩

end

/-! ## Sequences of analyses -/

/-- One analysis of a sequence, and the state it meets. -/
structure Turn (σ : Type) where
  analysis : Analysis
  classes : List ClassDecl
  before : σ

namespace Turn

variable (p : Project σ ε) (t : Turn σ)

/-- What the analysis answers, and the state it leaves. -/
def result : Except (AnalysisFault ε) AnalysisReport × σ := t.analysis.run p t.classes t.before

/-- What the analysis finds. -/
def fresh : List Marker := t.analysis.fresh p t.classes t.before

/-- The analysis takes one of the courses, and its record shows which. -/
def Settled : Prop :=
  ∀ log, ∃ calls,
    t.analysis.run p.recorded t.classes (t.before, log) =
      ((t.result p).1, (t.result p).2, log ++ calls) ∧
    Course (t.classes.map ClassDecl.name).Nodup (max t.analysis.maxAttempts 1)
      (p.markers t.before) (t.fresh p) calls (t.result p).1 (p.markers (t.result p).2)

end Turn

/-- The analyses of a sequence with the states they meet. -/
def turns (p : Project σ ε) : List (Analysis × List ClassDecl) → σ → List (Turn σ)
  | [], _ => []
  | (a, classes) :: later, s => ⟨a, classes, s⟩ :: turns p later (a.run p classes s).2

/-- The state behind a sequence of analyses. -/
def afterAll (p : Project σ ε) : List (Analysis × List ClassDecl) → σ → σ
  | [], s => s
  | (a, classes) :: later, s => afterAll p later (a.run p classes s).2

theorem Course.kept_or_front {distinct : Prop} {attempts : Nat} {old new left : List Marker}
    {calls : List Call} {result : Except (AnalysisFault ε) AnalysisReport}
    (h : Course distinct attempts old new calls result left) : left = old ∨ left <+: new := by
  cases h with
  | refused => exact .inl rfl
  | locked => exact .inl rfl
  | cut => exact .inr (List.take_prefix _ _)
  | unpersisted => exact .inr (List.prefix_refl _)
  | done => exact .inr (List.prefix_refl _)

theorem replaced_or_kept {p : Project σ ε} (hp : p.Lawful)
    (jobs : List (Analysis × List ClassDecl)) (s : σ) :
    p.markers (afterAll p jobs s) = p.markers s ∨
      ∃ t ∈ turns p jobs s, p.markers (afterAll p jobs s) <+: t.fresh p := by
  induction jobs generalizing s with
  | nil => exact .inl rfl
  | cons job later ih =>
    obtain ⟨a, classes⟩ := job
    rcases ih (a.run p classes s).2 with hsame | ⟨t, ht, hfront⟩
    · -- nothing changed behind the first analysis
      obtain ⟨calls, -, hcourse⟩ := run_course hp a classes s []
      rw [← hsame] at hcourse
      rcases hcourse.kept_or_front with hkept | hfront
      · exact .inl hkept
      · exact .inr ⟨⟨a, classes, s⟩, List.mem_cons_self, hfront⟩
    · exact .inr ⟨t, List.mem_cons_of_mem _ ht, hfront⟩

/-- **Stale and fresh markers never mix.** Every analysis of any sequence, on a lawful project in
any state, takes one of the courses; and whatever failed on the way, the markers in the end are those
from the beginning or a front part of what one of the analyses found. Projects in memory and
projects in a file tree are lawful. -/
theorem markers_never_mix :
    (∀ {σ ε : Type} (p : Project σ ε), p.Lawful →
      ∀ (jobs : List (Analysis × List ClassDecl)) (s : σ),
        (∀ t ∈ turns p jobs s, t.Settled p) ∧
          (p.markers (afterAll p jobs s) = p.markers s ∨
            ∃ t ∈ turns p jobs s, p.markers (afterAll p jobs s) <+: t.fresh p)) ∧
      MemoryProject.project.Lawful ∧ DirectoryProject.project.Lawful := by
  refine ⟨fun p hp jobs s => ⟨?_, replaced_or_kept hp jobs s⟩, MemoryProject.lawful,
    DirectoryProject.lawful⟩
  intro t _ log
  exact run_course hp t.analysis t.classes t.before log

/-! A project that is locked at first and has room for one marker. The first analysis is refused,
the second one clears at its second attempt and is cut at its second marker. -/

def busyClass : ClassDecl where
  name := "A"
  methods := [{ name := "f", descriptor := "()V", instructions := [⟨0, 0xb1, .other⟩] },
    { name := "g", descriptor := "()V", instructions := [⟨0, 0xb1, .other⟩] }]

def busyProject : MemoryProject where
  sources := ["A.java"]
  markers := [⟨"OLD", "", "", "", ⟨"A.java"⟩, "A.f()V", 0, none⟩]
  clearFailures := 1
  addLimit := some 1

def busyJobs : List (Analysis × List ClassDecl) :=
  [({ guidelines := [Guideline.Probe.first] }, [busyClass, busyClass]),
    ({ guidelines := [Guideline.Probe.first] }, [busyClass])]

theorem busyProject_replaced :
    (∀ t ∈ turns MemoryProject.project busyJobs busyProject, t.Settled MemoryProject.project) ∧
      (afterAll MemoryProject.project busyJobs busyProject).markers.map Marker.guidelineId =
        ["C_FIRST"] ∧
      ∃ t ∈ turns MemoryProject.project busyJobs busyProject,
        (afterAll MemoryProject.project busyJobs busyProject).markers <+:
          t.fresh MemoryProject.project := by
  have hleft : (afterAll MemoryProject.project busyJobs busyProject).markers.map
      Marker.guidelineId = ["C_FIRST"] := by
    have hrepeated : ¬ ([busyClass, busyClass].map ClassDecl.name).Nodup := by decide
    have hdistinct : ([busyClass].map ClassDecl.name).Nodup := by decide
    simp only [busyJobs, afterAll]
    rw [run_refused hrepeated, run_cut hdistinct rfl rfl]
    rfl
  obtain ⟨hsettled, hkept | hfront⟩ :=
    markers_never_mix.1 MemoryProject.project MemoryProject.lawful busyJobs busyProject
  · have hold : (afterAll MemoryProject.project busyJobs busyProject).markers =
        busyProject.markers := hkept
    rw [hold] at hleft
    exact absurd hleft (by decide)
  · exact ⟨hsettled, hleft, hfront⟩

end BytecodeLint.Analysis
