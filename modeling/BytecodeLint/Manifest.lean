import BytecodeLint.Path

/-!
# The class path in a jar's manifest

A manifest is a sequence of headers, each a key, a colon and a value. A line that starts with a
space goes on with the value of the header before it. Of several `Class-Path` headers the last one
counts. Its words are paths, relative to the directory of the jar.
-/

namespace BytecodeLint.Manifest

/-- The header being read, if any, with the pieces of its value in reverse, and the last class path
read so far. -/
structure State where
  header : Option (List Char × List (List Char)) := none
  classPath : Option (List Char) := none
  deriving DecidableEq, Repr

/-- The key that matters. -/
def classPathKey : List Char := "Class-Path".toList

def State.close (s : State) : State :=
  match s.header with
  | some (key, pieces) =>
    if key = classPathKey then ⟨none, some pieces.reverse.flatten⟩ else ⟨none, s.classPath⟩
  | none => s

/-- Starts a header, if the line is one. -/
def State.start (s : State) (line : List Char) : State :=
  match Text.splitOnce ':' line with
  | some (key, value) => { s with header := some (Text.trim key, [Text.trimStart value]) }
  | none => s

def State.extend (s : State) (text : List Char) : State :=
  match s.header with
  | some (key, pieces) => { s with header := some (key, text :: pieces) }
  | none => s

def State.line (s : State) (line : List Char) : State :=
  match Text.dropEnd (fun c => c == '\r') line with
  | ' ' :: text => s.extend text
  | line => s.close.start line

/-- The value of the last class path header. -/
def classPathValue? (content : List Char) : Option (List Char) :=
  ((Text.lines content).foldl State.line {}).close.classPath

/-- A class path entry as seen from the jar's directory. -/
def locate (jar : Path) (entry : List Char) : Path :=
  (jar.parent?.getD ⟨""⟩).join ⟨String.ofList entry⟩

/-- The class path of a jar with the given manifest. -/
def classPath (jar : Path) (content : String) : List Path :=
  match classPathValue? content.toList with
  | some value => (Text.words value).map (locate jar)
  | none => []

end BytecodeLint.Manifest
