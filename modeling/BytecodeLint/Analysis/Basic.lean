import BytecodeLint.Guideline.Registry
import BytecodeLint.Project.Basic

/-!
# Analysing a project

An analysis replaces the markers of a project by those of the given classes:

1. the classes are indexed; a repeated name ends the analysis before anything is touched;
2. old markers are cleared, with a bounded number of attempts;
3. every class whose source file the project knows is checked against every guideline, in
   ascending order of their ids; a check that goes wrong is counted and passed over;
4. the markers are added one by one in class order and then persisted.
-/

namespace BytecodeLint

/-- Which guidelines to check, and how often to try clearing old markers. -/
structure Analysis where
  guidelines : List Guideline
  maxAttempts : Nat := 3

structure AnalysisStats where
  classCount : Nat
  analyzedCount : Nat
  skippedCount : Nat
  enumCount : Nat
  failures : Nat
  deriving DecidableEq, Repr

structure AnalysisReport where
  guidelines : List Guideline
  markers : List Marker
  stats : AnalysisStats

inductive AnalysisFault (ε : Type) where
  | duplicates (classes : DuplicateClasses)
  | clear (attempts : Nat) (fault : ε)
  | add (resource : Resource) (fault : ε)
  | flush (fault : ε)
  deriving DecidableEq, Repr

def DuplicateClasses.explainIndexing (d : DuplicateClasses) : Explanation :=
  d.explain.within "index project classes"

/-- A fault of an analysis as it is shown, given how those of the project are. -/
def AnalysisFault.explain {ε : Type} (explain : ε → Explanation) : AnalysisFault ε → Explanation
  | .duplicates classes => classes.explainIndexing
  | .clear attempts fault =>
    (explain fault).within ("failed to clear markers after " ++ toString attempts ++ " attempts")
  | .add resource fault => (explain fault).within ("failed to add marker to " ++ resource.path)
  | .flush fault => (explain fault).within "failed to persist markers"

namespace Analysis

variable {σ ε : Type}

/-- An analysis with the guidelines in ascending order of their ids. -/
def ofGuidelines (guidelines : List Guideline) : Analysis where
  guidelines := guidelines.mergeSort fun a b => a.id ≤ b.id

def standard : Analysis := ofGuidelines Guideline.registry

/-- Clears the markers, trying up to `retries` times more when it fails. A final failure tells the
number of the last attempt; this is attempt number `attempt`. -/
def clearFrom (p : Project σ ε) (attempt retries : Nat) (s : σ) : Except (Nat × ε) Unit × σ :=
  match p.clear s with
  | (.ok (), s) => (.ok (), s)
  | (.error fault, s) =>
    match retries with
    | 0 => (.error (attempt, fault), s)
    | retries + 1 => clearFrom p (attempt + 1) retries s

/-- Clears the markers in at most `maxAttempts` attempts, but in one at least. -/
def clearMarkers (p : Project σ ε) (maxAttempts : Nat) (s : σ) : Except (Nat × ε) Unit × σ :=
  clearFrom p 1 (max maxAttempts 1 - 1) s

/-- The classes whose source file the project knows, each with that file. -/
def targets (p : Project σ ε) (s : σ) (classes : List ClassDecl) : List (ClassDecl × Resource) :=
  classes.filterMap fun c =>
    (p.findSource s (sourcePath c.name (p.extension s))).map fun resource => (c, resource)

/-- What the checks of one class came to: the findings of every guideline that has any, by the place
of the guideline in the list, and the number of checks that went wrong. -/
structure Outcome where
  findings : List (Nat × List Finding) := []
  failures : Nat := 0

def Outcome.note (o : Outcome) (place : Nat) : Except CheckFault (List Finding) → Outcome
  | .ok [] => o
  | .ok findings => { o with findings := o.findings ++ [(place, findings)] }
  | .error _ => { o with failures := o.failures + 1 }

def checkClass (a : Analysis) (index : ClassIndex) (c : ClassDecl) : Outcome :=
  a.guidelines.zipIdx.foldl (fun o (g, place) => o.note place (g.check index c)) {}

def outcomeMarkers (a : Analysis) (target : ClassDecl × Resource) (o : Outcome) : List Marker :=
  o.findings.flatMap fun (place, findings) =>
    match a.guidelines[place]? with
    | some g => findings.map fun f => f.toMarker g target.1 target.2
    | none => []

def outcomes (a : Analysis) (index : ClassIndex) (ts : List (ClassDecl × Resource)) :
    List Outcome :=
  ts.map fun t => a.checkClass index t.1

def allMarkers (a : Analysis) (ts : List (ClassDecl × Resource)) (os : List Outcome) :
    List Marker :=
  (ts.zip os).flatMap fun (t, o) => a.outcomeMarkers t o

/-- Adds markers one by one, up to the first that fails. -/
def addAll (p : Project σ ε) : List Marker → σ → Except (Resource × ε) Unit × σ
  | [], s => (.ok (), s)
  | m :: rest, s =>
    match p.add m s with
    | (.ok (), s) => addAll p rest s
    | (.error fault, s) => (.error (m.resource, fault), s)

def skipped (p : Project σ ε) (s : σ) (classes : List ClassDecl) : Nat :=
  classes.countP fun c => (p.findSource s (sourcePath c.name (p.extension s))).isNone

def stats (index : ClassIndex) (ts : List (ClassDecl × Resource)) (os : List Outcome)
    (skipped : Nat) : AnalysisStats where
  classCount := index.size
  analyzedCount := ts.length
  skippedCount := skipped
  enumCount := index.enumCount
  failures := os.foldl (fun n o => n + o.failures) 0

/-- Replaces the markers of a project by those of the given classes. -/
def run (a : Analysis) (p : Project σ ε) (classes : List ClassDecl) (s : σ) :
    Except (AnalysisFault ε) AnalysisReport × σ :=
  match ClassIndex.build classes with
  | .error duplicates => (.error (.duplicates duplicates), s)
  | .ok index =>
    match clearMarkers p a.maxAttempts s with
    | (.error (attempts, fault), s) => (.error (.clear attempts fault), s)
    | (.ok (), s) =>
      let ts := targets p s classes
      let os := a.outcomes index ts
      let stats := stats index ts os (skipped p s classes)
      let markers := a.allMarkers ts os
      match addAll p markers s with
      | (.error (resource, fault), s) => (.error (.add resource fault), s)
      | (.ok (), s) =>
        match p.flush s with
        | (.error fault, s) => (.error (.flush fault), s)
        | (.ok (), s) => (.ok ⟨a.guidelines, markers, stats⟩, s)

end Analysis

end BytecodeLint
