import BytecodeLint.Analysis.Basic
import BytecodeLint.Crawl.Basic

/-!
# Reports

A report tells what a run looked at and what it found: the rules, one result per marker, the
artifacts, and how the run was invoked.
-/

namespace BytecodeLint

def programName : String := "perfguide"

def programVersion : String := "0.1.0"

/-- How long a run took, in milliseconds. -/
structure Durations where
  total : Nat := 0
  crawl : Nat := 0
  analysis : Nat := 0
  deriving DecidableEq, Repr

structure ReportRule where
  id : String
  title : String
  description : String
  deriving DecidableEq, Repr

structure ReportResult where
  ruleId : String
  message : String
  location : String
  uri : String
  line : Option Nat
  deriving DecidableEq, Repr

structure Invocation where
  arguments : List String
  durations : Durations
  stats : AnalysisStats
  deriving DecidableEq, Repr

structure Report where
  rules : List ReportRule
  results : List ReportResult
  artifacts : List Artifact
  invocation : Invocation
  deriving DecidableEq, Repr

def ReportRule.ofGuideline (g : Guideline) : ReportRule := ⟨g.id, g.title, g.description⟩

/-- A path as it stands in a report, with slashes only. -/
def reportUri (p : Path) : String :=
  String.ofList (p.text.toList.map fun c => if c = '\\' then '/' else c)

/-- The result of a marker in a project with the given source root. -/
def ReportResult.ofMarker (root : Path) (m : Marker) : ReportResult where
  ruleId := m.guidelineId
  message := m.message
  location := m.location
  uri := reportUri (root.join ⟨m.resource.path⟩)
  line := m.line

def Report.of (arguments : List String) (durations : Durations) (root : Path)
    (artifacts : List Artifact) (analysis : AnalysisReport) : Report where
  rules := analysis.guidelines.map ReportRule.ofGuideline
  results := analysis.markers.map (ReportResult.ofMarker root)
  artifacts := artifacts
  invocation := ⟨arguments, durations, analysis.stats⟩

end BytecodeLint
