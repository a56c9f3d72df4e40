import BytecodeLint.Marker

/-!
# Projects

A project finds source files and keeps markers. Its state has any type `σ` and its operations may
fail with any type `ε` of faults; the analysis works through these operations alone.
-/

namespace BytecodeLint

/-- The operations of a project. Operations that can fail hand back the state they leave. -/
structure Project (σ ε : Type) where
  /-- What is appended to a class's path to find its source. -/
  extension : σ → String
  /-- The source file at a path relative to the source root. -/
  findSource : σ → String → Option Resource
  /-- The markers kept now. -/
  markers : σ → List Marker
  /-- Drops all markers. -/
  clear : σ → Except ε Unit × σ
  /-- Keeps one more marker. -/
  add : Marker → σ → Except ε Unit × σ
  /-- Persists the markers. -/
  flush : σ → Except ε Unit × σ

/-- The part of a name before its last dollar sign; the whole name when it has none. -/
def topLevelName (name : List Char) : List Char :=
  match (name.reverse.dropWhile fun c => c != '$') with
  | [] => name
  | _ :: before => before.reverse

/-- The path of the source file that defines a class. Nested classes live in the file of the class
around them, so the name is cut at its last dollar sign. -/
def sourcePath (className extension : String) : String :=
  String.ofList (topLevelName className.toList) ++ extension

end BytecodeLint
