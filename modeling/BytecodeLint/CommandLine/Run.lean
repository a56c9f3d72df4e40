import BytecodeLint.CommandLine.Options
import BytecodeLint.Endpoint
import BytecodeLint.Project.Directory
import BytecodeLint.Report.Sarif
import BytecodeLint.Url.Address

/-!
# A run of the program

A run checks its arguments and the paths they name, crawls the input and the class path, opens the
project, analyses it and writes the report. The marker store is written before the report.

A run is a function from a file tree to an outcome and a file tree.
-/

namespace BytecodeLint.CommandLine

inductive RunFault where
  | endpoint (fault : Url.Fault)
  | exporter
  | noInput (p : Path)
  | crawl (fault : CrawlFault)
  | project (fault : DirectoryFault)
  | analysis (fault : AnalysisFault DirectoryFault)
  | output (p : Path) (fault : IoFault)

def RunFault.explain : RunFault → Explanation
  | .endpoint fault => Endpoint.explain fault
  | .exporter => .ofMessage "build OTLP span exporter"
  | .noInput p => .ofMessage ("input not found: " ++ p.text)
  | .crawl fault => fault.explain
  | .project fault => fault.explain.within "failed to open project"
  | .analysis fault => fault.explain DirectoryFault.explain
  | .output p fault => (Explanation.ofRoot (.io fault)).within ("failed to open " ++ p.text)

/-! ## Stages -/

/-- Refuses an endpoint that is no URL, or to which no request can be sent. -/
def checkEndpoint (o : Options) : Except RunFault Unit :=
  match o.endpoint with
  | none => .ok ()
  | some url =>
    match Endpoint.normalize url with
    | .ok address => if Url.Address.accepts address.toList then .ok () else .error .exporter
    | .error fault => .error (.endpoint fault)

/-- Refuses paths at which nothing stands. -/
def checkPaths (t : FileTree) (o : Options) : Except RunFault Unit :=
  if t.hasEntry o.input then
    match o.classpath.find? fun p => !t.hasEntry p with
    | none => .ok ()
    | some p => .error (.crawl (.missing p))
  else .error (.noInput o.input)

def collect (t : FileTree) (o : Options) : Except RunFault CrawlResult := do
  checkEndpoint o
  checkPaths t o
  (Crawl.run t o.input o.classpath).mapError .crawl

/-- Analyses the classes in the project and persists the markers. -/
def analyze (t : FileTree) (o : Options) (classes : List ClassDecl) :
    Except RunFault AnalysisReport × FileTree :=
  match DirectoryProject.openAt t o.sourceRoot o.sourceExtension o.markers with
  | .error fault => (.error (.project fault), t)
  | .ok p =>
    match Analysis.standard.run DirectoryProject.project classes (t, p) with
    | (.error fault, (t, _)) => (.error (.analysis fault), t)
    | (.ok report, (t, _)) => (.ok report, t)

/-- The file to which the report goes; a hyphen and no path at all stand for standard output. -/
def outputFile? (o : Options) : Option Path :=
  o.output.filter fun p => !p.samePlace ⟨"-"⟩

/-- Writes the report to its file, or hands it back for standard output. -/
def emit (t : FileTree) (o : Options) (text : String) : Except RunFault String × FileTree :=
  match outputFile? o with
  | none => (.ok text, t)
  | some p =>
    match t.write p text.toUTF8 with
    | .ok t => (.ok "", t)
    | .error fault => (.error (.output p fault), t)

def timing (durations : Durations) (crawl : CrawlResult) (report : AnalysisReport) : String :=
  "timing: total_ms=" ++ toString durations.total ++ " scan_ms=" ++ toString durations.crawl ++
    " analysis_ms=" ++ toString durations.analysis ++ " classes=" ++ toString crawl.classCount ++
    " analyzed=" ++ toString report.stats.analyzedCount ++
    " problems=" ++ toString report.markers.length ++ "\n"

/-! ## Outcomes -/

structure Outcome where
  exitCode : Nat
  stdout : String := ""
  stderr : String := ""
  deriving DecidableEq, Repr

/-- The causes behind a failure, numbered if there are several. -/
def causes : List String → String
  | [] => ""
  | [cause] => "\n\nCaused by:\n    " ++ cause
  | several =>
    "\n\nCaused by:" ++
      String.join (several.zipIdx.map fun (cause, n) => "\n    " ++ toString n ++ ": " ++ cause)

def failed (e : Explanation) : Outcome where
  exitCode := 1
  stderr :=
    match e.lines with
    | [] => "Error\n"
    | outermost :: inner => "Error: " ++ outermost ++ causes inner ++ "\n"

def helpLine (o : OptionName) : String := "  " ++ o.usage ++ "  " ++ o.purpose ++ "\n"

def usageLine : String := "Usage: " ++ programName ++ " [OPTIONS] --input <PATH>\n"

def helpText : String :=
  "Report performance guideline violations in JVM class files and JAR files as SARIF.\n\n" ++
    usageLine ++ "\nOptions:\n" ++ String.join (OptionName.all.map helpLine)

def refused (r : Refusal) : Outcome :=
  match r with
  | .help => { exitCode := 0, stdout := helpText }
  | .version => { exitCode := 0, stdout := programName ++ " " ++ programVersion ++ "\n" }
  | r =>
    let detail := if r = .noInput then "  " ++ OptionName.usage .input ++ "\n" else ""
    { exitCode := 2
      stderr := "error: " ++ r.message ++ "\n" ++ detail ++ "\n" ++ usageLine ++
        "\nFor more information, try '--help'.\n" }

/-- Writes the report of an analysis and tells the time. -/
def conclude (t : FileTree) (o : Options) (arguments : List String) (durations : Durations)
    (crawl : CrawlResult) (report : AnalysisReport) : Outcome × FileTree :=
  let text := Sarif.text (.of arguments durations o.sourceRoot crawl.artifacts report)
  match emit t o text with
  | (.error fault, t) => (failed fault.explain, t)
  | (.ok stdout, t) =>
    let told := if o.isTimed && !o.isQuiet then timing durations crawl report else ""
    ({ exitCode := 0, stdout, stderr := told }, t)

def runOptions (t : FileTree) (o : Options) (arguments : List String) : Outcome × FileTree :=
  match collect t o with
  | .error fault => (failed fault.explain, t)
  | .ok crawl =>
    match analyze t o crawl.classes with
    | (.error fault, t) => (failed fault.explain, t)
    | (.ok report, t) => conclude t o arguments {} crawl report

/-- Runs the program. The arguments start with the name under which it was called. -/
def run (t : FileTree) (arguments : List String) : Outcome × FileTree :=
  match parse arguments.tail with
  | .error r => (refused r, t)
  | .ok o => runOptions t o arguments

end BytecodeLint.CommandLine
