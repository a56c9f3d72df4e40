import BytecodeLint.CommandLine.Run

/-!
# The program

Takes a picture of the part of the disk that a run can look at, runs on the picture, and brings the
disk up to date: the marker store and the report are all that a run changes.
-/

namespace BytecodeLint.Disk

def pathText (loc : Location) : String := "/" ++ String.intercalate "/" loc

/-- The location of a directory path as the system gives it. -/
def locationOf (text : String) : Location := (Path.mk text).parts.filter fun part => part != ""

/-- Adds what the disk holds at a location, and below it if `isDeep`. The content of files is read
if `hasContent`. -/
partial def loadAt (isDeep hasContent : Bool) (t : FileTree) (loc : Location) : IO FileTree := do
  try
    let path ← IO.FS.realPath (pathText loc)
    if ← path.isDir then
      let t := if loc.isEmpty then t else t.put loc .directory
      if isDeep then
        (← path.readDir).foldlM
          (fun t entry => loadAt true hasContent t (loc ++ [entry.fileName])) t
      else return t
    else if ← path.pathExists then
      let content ← if hasContent then IO.FS.readBinFile path else pure ByteArray.empty
      return t.put loc (.file content)
    else return t
  catch _ => return t

/-- Adds the directories that lead to a path. The result ends with the location of the path. -/
def loadAlong (t : FileTree) (loc : Location) : List String → IO (FileTree × Option Location)
  | [] => return (t, some loc)
  | part :: rest => do
    let t ← if t.holdsDirectory loc then pure t else loadAt false false t loc
    match t.follow loc part with
    | .ok next => loadAlong t next rest
    | .error _ => return (t, none)

def load (isDeep hasContent : Bool) (t : FileTree) (p : Path) : IO FileTree := do
  match ← loadAlong t (t.start p) p.parts with
  | (t, some loc) => loadAt isDeep hasContent t loc
  | (t, none) => return t

/-- Adds class path entries that manifests name, until nothing is missing that the disk holds. -/
partial def loadNamed (t : FileTree) (o : CommandLine.Options) : IO FileTree := do
  match CommandLine.collect t o with
  | .error (.crawl (.missing p)) => do
    let t ← load true true t p
    if t.hasEntry p then loadNamed t o else return t
  | _ => return t

/-- The picture of the disk that a run needs. -/
def picture (o : CommandLine.Options) : IO FileTree := do
  let t := FileTree.emptyAt (locationOf (← IO.currentDir).toString)
  let t ← load true false t o.sourceRoot
  let t ← (o.input :: o.classpath).foldlM (load true true) t
  let t ← load false true t o.markers
  let t ← match o.output with
    | some p => load false false t p
    | none => pure t
  loadNamed t o

/-- Brings the disk up to date at a path. -/
def store (before after : FileTree) (p : Path) : IO Unit := do
  match after.locate p with
  | .error _ => return
  | .ok loc =>
    match before.get? loc, after.get? loc with
    | _, some (.file content) => do
      IO.FS.createDirAll (pathText loc.dropLast)
      IO.FS.writeBinFile (pathText loc) content
    | some (.file _), none => IO.FS.removeFile (pathText loc)
    | _, _ => return

/-- Runs the program on a picture of the disk, taking the time. -/
def runTimed (t : FileTree) (o : CommandLine.Options) (arguments : List String) :
    IO (CommandLine.Outcome × FileTree) := do
  let start ← IO.monoMsNow
  match CommandLine.collect t o with
  | .error fault => return (CommandLine.failed fault.explain, t)
  | .ok crawl => do
    let crawled ← IO.monoMsNow
    match CommandLine.analyze t o crawl.classes with
    | (.error fault, t) => return (CommandLine.failed fault.explain, t)
    | (.ok report, t) => do
      let stop ← IO.monoMsNow
      let durations : Durations := ⟨stop - start, crawled - start, stop - crawled⟩
      return CommandLine.conclude t o arguments durations crawl report

def tell (outcome : CommandLine.Outcome) : IO UInt32 := do
  IO.print outcome.stdout
  IO.eprint outcome.stderr
  return UInt32.ofNat outcome.exitCode

def run (arguments : List String) : IO UInt32 := do
  match CommandLine.parse arguments with
  | .error refusal => tell (CommandLine.refused refusal)
  | .ok o => do
    let before ← picture o
    let (outcome, after) ← runTimed before o (programName :: arguments)
    store before after o.markers
    match CommandLine.outputFile? o with
    | some p => if outcome.exitCode = 0 then store before after p
    | none => pure ()
    tell outcome

end BytecodeLint.Disk

def main (arguments : List String) : IO UInt32 := BytecodeLint.Disk.run arguments
