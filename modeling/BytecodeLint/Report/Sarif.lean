import BytecodeLint.Json.Basic
import BytecodeLint.Report.Basic

/-!
# Reports in SARIF

The JSON document of a report. Lists of rules and artifacts that are empty, and lines that are not
known, are left out.
-/

namespace BytecodeLint.Sarif

/-- The schema that the document follows. -/
def schema : String := "https://schemastore.azurewebsites.net/schemas/json/sarif-2.1.0.json"

def version : String := "2.1.0"

def textObject (text : String) : Json := .object [("text", .text text)]

def uriObject (uri : String) : Json := .object [("uri", .text uri)]

/-- A member that is left out when its list is empty. -/
def unlessEmpty (key : String) (items : List Json) : List (String × Json) :=
  if items.isEmpty then [] else [(key, .array items)]

def rule (r : ReportRule) : Json :=
  .object [("id", .text r.id), ("name", .text r.title),
    ("shortDescription", textObject r.description)]

def region : Option Nat → List (String × Json)
  | some line => [("region", .object [("startLine", .number line)])]
  | none => []

def place (r : ReportResult) : Json :=
  .object [
    ("logicalLocations", .array [.object [("kind", .text "function"), ("name", .text r.location)]]),
    ("physicalLocation", .object (("artifactLocation", uriObject r.uri) :: region r.line))]

def result (r : ReportResult) : Json :=
  .object [("locations", .array [place r]), ("message", textObject r.message),
    ("ruleId", .text r.ruleId)]

def roles (isTarget : Bool) : List (String × Json) :=
  if isTarget then [("roles", .array [.text "analysisTarget"])] else []

def artifact (a : Artifact) : Json :=
  .object ([("length", .number a.length), ("location", uriObject a.uri)] ++ roles a.isTarget)

/-- The counters of a run, each under the program's name. -/
def properties (artifacts : List Artifact) (i : Invocation) : Json :=
  .object ([("analysis_ms", i.durations.analysis), ("analyzed_class_count", i.stats.analyzedCount),
    ("artifact_count", artifacts.length), ("class_count", i.stats.classCount),
    ("detector_failures", i.stats.failures), ("enum_type_count", i.stats.enumCount),
    ("scan_ms", i.durations.crawl), ("skipped_class_count", i.stats.skippedCount)].map
      fun (name, n) => (programName ++ "." ++ name, .number n))

def invocation (artifacts : List Artifact) (i : Invocation) : Json :=
  .object [
    ("arguments", .array (i.arguments.map .text)),
    ("commandLine", .text (String.intercalate " " i.arguments)),
    ("executionSuccessful", .bool true),
    ("properties", properties artifacts i)]

def tool (rules : List ReportRule) : Json :=
  let listed := unlessEmpty "rules" (rules.map rule)
  .object [("driver", .object
    (("name", .text programName) :: listed ++ [("version", .text programVersion)]))]

def ofReport (r : Report) : Json :=
  .object [
    ("$schema", .text schema),
    ("runs", .array [.object (unlessEmpty "artifacts" (r.artifacts.map artifact) ++
      [("invocations", .array [invocation r.artifacts r.invocation]),
        ("results", .array (r.results.map result)), ("tool", tool r.rules)])]),
    ("version", .text version)]

def text (r : Report) : String := (ofReport r).document

end BytecodeLint.Sarif
