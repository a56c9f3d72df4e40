import BytecodeLint.Crawl.Classpath

/-!
# Collecting classes

A crawl reads every class of an input and of its class path:

1. the input itself: a class file, a jar, or a directory with everything below it;
2. the class path, sorted, and what the input's manifest names, all expanded; the input is not
   read again.

Below a directory other files are passed over; as input or class path entry they are refused. The
first class of each name counts.
-/

namespace BytecodeLint

structure Artifact where
  uri : String
  length : Nat
  /-- Whether it is what the crawl was asked for. -/
  isTarget : Bool
  deriving DecidableEq, Repr

/-- The artifacts and classes found in a part of a crawl. -/
structure Haul where
  artifacts : List Artifact := []
  classes : List ClassDecl := []
  deriving DecidableEq

def Haul.append (a b : Haul) : Haul := ⟨a.artifacts ++ b.artifacts, a.classes ++ b.classes⟩

def Haul.concat (hauls : List Haul) : Haul :=
  ⟨hauls.flatMap Haul.artifacts, hauls.flatMap Haul.classes⟩

/-- The result of a crawl: classes with distinct names, and the number of all classes read. -/
structure CrawlResult where
  artifacts : List Artifact
  classCount : Nat
  classes : List ClassDecl

namespace Crawl

def artifact (t : FileTree) (p : Path) (length : Nat) (isTarget : Bool) : Artifact where
  uri := "file://" ++ (t.absolute p).text
  length := length
  isTarget := isTarget

/-- Parses a class; `origin` is how a fault names it. -/
def parseClass (origin : String) (content : ByteArray) : Except CrawlFault ClassDecl :=
  match ClassFile.parse (Bytes.ofByteArray content) with
  | .ok c => .ok c
  | .error fault => .error (.badClass origin fault)

/-- Reads a class file. It is an artifact only when it is the target. -/
def classFile (t : FileTree) (p : Path) (isTarget : Bool) : Except CrawlFault Haul :=
  match t.read p with
  | .error fault => .error (.unreadable p fault)
  | .ok content =>
    match parseClass p.text content with
    | .error fault => .error fault
    | .ok c => .ok ⟨if isTarget then [artifact t p content.size true] else [], [c]⟩

/-- Whether a name of an archive is that of a class to read. Module descriptions and classes for
other versions are not. -/
def isClassName (name : String) : Bool :=
  name.endsWith ".class" && !name.endsWith "module-info.class" &&
    !name.startsWith "META-INF/versions/"

/-- The names of the classes in an archive, in ascending order. -/
def classNames (zip : Archive.Zip) : List String :=
  ((zip.entries.map Archive.ZipEntry.name).filter isClassName).mergeSort fun a b => a ≤ b

def jarClass (p : Path) (zip : Archive.Zip) (name : String) : Except CrawlFault ClassDecl :=
  match zip.read name with
  | .error fault => .error (.badEntry p name fault)
  | .ok content => parseClass (p.text ++ ":" ++ name) content

/-- Reads the classes of a jar. Every entry of the archive has to open, whatever it holds. -/
def jar (t : FileTree) (p : Path) (isTarget : Bool) : Except CrawlFault Haul :=
  match openJar t p with
  | .error fault => .error fault
  | .ok zip =>
    if zip.entries.all fun e => (zip.open? e).isSome then
      match (classNames zip).mapM (jarClass p zip) with
      | .error fault => .error fault
      | .ok classes => .ok ⟨[artifact t p zip.data.size isTarget], classes⟩
    else .error (.badArchive p)

/-- Reads a file by its extension. -/
def file (t : FileTree) (p : Path) (isTarget isStrict : Bool) : Except CrawlFault Haul :=
  match p.extension? with
  | some "class" => classFile t p isTarget
  | some "jar" => jar t p isTarget
  | _ => if isStrict then .error (.unsupported p) else .ok {}

/-- Reads everything below a directory, in ascending order of the paths on every level. What cannot
be recognised as a directory, because its path has become too long, is taken for a file. -/
def directory (t : FileTree) (p : Path) : Except CrawlFault Haul :=
  match _hlist : t.list p with
  | .error fault => .error (.unlisted p fault)
  | .ok found =>
    match (Classpath.sorted found).attach.mapM fun q =>
      if _hdir : t.isDirectory q.1 = true then directory t q.1 else file t q.1 false false with
    | .error fault => .error fault
    | .ok hauls => .ok (Haul.concat hauls)
  termination_by FileTree.room p
  decreasing_by exact FileTree.room_lt _hlist (List.mem_mergeSort.1 q.2) _hdir

/-- Reads what stands at a path. -/
def path (t : FileTree) (p : Path) (isTarget : Bool) : Except CrawlFault Haul :=
  if t.isDirectory p then directory t p else file t p isTarget true

/-- The first class of each name that is not among those seen. -/
def firstOfEachName (seen : List String) : List ClassDecl → List ClassDecl
  | [] => []
  | c :: rest =>
    if seen.contains c.name then firstOfEachName seen rest
    else c :: firstOfEachName (c.name :: seen) rest

/-- The result that a haul amounts to. -/
def result (haul : Haul) : CrawlResult where
  artifacts := haul.artifacts
  classCount := haul.classes.length
  classes := firstOfEachName [] haul.classes

/-- The class path that an input names itself. -/
def ownClassPath (t : FileTree) (input : Path) : Except CrawlFault (List Path) :=
  if input.isJar then Classpath.named t input else .ok []

/-- Reads the class path entries but for the input. -/
def entries (t : FileTree) (input : Path) (expanded : List Path) : Except CrawlFault (List Haul) :=
  (expanded.filter fun p => !p.samePlace input).mapM fun p => path t p false

/-- Crawls an input and its class path. -/
def run (t : FileTree) (input : Path) (classpath : List Path) : Except CrawlFault CrawlResult := do
  let own ← path t input true
  let named ← ownClassPath t input
  let expanded ← Classpath.expand t (Classpath.sorted classpath ++ named)
  let others ← entries t input expanded
  .ok (result (own.append (Haul.concat others)))

end Crawl

end BytecodeLint
