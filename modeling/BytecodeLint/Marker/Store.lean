import BytecodeLint.Json.Basic
import BytecodeLint.Json.Record
import BytecodeLint.Marker

/-!
# The marker store

Markers are kept as one JSON document with a version. Writing lists all fields of a marker in a
fixed order and leaves out a line that is not known. Reading takes any document of the right shape
from the front of a text; what follows the document is not looked at. The version is checked last.
-/

namespace BytecodeLint.MarkerStore

open Json (Field Record Shape textShape wordShape optionalShape arrayShape)

/-- The version written, and the only one read. -/
def version : Nat := 1

/-! ## Writing -/

def resourceJson (r : Resource) : Json := .object [("path", .text r.path)]

def lineJson : Option Nat → List (String × Json)
  | some line => [("line", .number line)]
  | none => []

def markerJson (m : Marker) : Json :=
  .object ([("detector_id", .text m.guidelineId), ("title", .text m.title),
    ("description", .text m.description), ("message", .text m.message),
    ("resource", resourceJson m.resource), ("logical_location", .text m.location),
    ("offset", .number m.offset)] ++ lineJson m.line)

/-- The document that keeps the given markers. -/
def toJson (markers : List Marker) : Json :=
  .object [("version", .number version), ("markers", .array (markers.map markerJson))]

def write (markers : List Marker) : String := (toJson markers).document

/-! ## Reading -/

structure ResourceDraft where
  path : Option String := none

def resourceRecord : Record ResourceDraft Resource where
  fields := [.of "path" textShape (fun d => d.path) fun d v => { d with path := some v }]
  draft := {}
  finish d := d.path.map Resource.mk

structure MarkerDraft where
  guidelineId : Option String := none
  title : Option String := none
  description : Option String := none
  message : Option String := none
  resource : Option Resource := none
  location : Option String := none
  offset : Option Nat := none
  line : Option (Option Nat) := none

/-- The marker of a draft. All but the line is needed. -/
def MarkerDraft.finish (d : MarkerDraft) : Option Marker := do
  some {
    guidelineId := ← d.guidelineId
    title := ← d.title
    description := ← d.description
    message := ← d.message
    resource := ← d.resource
    location := ← d.location
    offset := ← d.offset
    line := d.line.getD none }

def markerRecord : Record MarkerDraft Marker where
  fields := [
    .of "detector_id" textShape (fun d => d.guidelineId) fun d v =>
      { d with guidelineId := some v },
    .of "title" textShape (fun d => d.title) fun d v => { d with title := some v },
    .of "description" textShape (fun d => d.description) fun d v =>
      { d with description := some v },
    .of "message" textShape (fun d => d.message) fun d v => { d with message := some v },
    .of "resource" resourceRecord.shape (fun d => d.resource) fun d v =>
      { d with resource := some v },
    .of "logical_location" textShape (fun d => d.location) fun d v => { d with location := some v },
    .of "offset" wordShape (fun d => d.offset) fun d v => { d with offset := some v },
    .of "line" (optionalShape wordShape) (fun d => d.line) fun d v => { d with line := some v }]
  draft := {}
  finish := MarkerDraft.finish

structure DocumentDraft where
  version : Option Nat := none
  markers : Option (List Marker) := none

/-- The version and the markers of a draft. Both are needed. -/
def DocumentDraft.finish (d : DocumentDraft) : Option (Nat × List Marker) := do
  some (← d.version, ← d.markers)

def documentRecord : Record DocumentDraft (Nat × List Marker) where
  fields := [
    .of "version" wordShape (fun d => d.version) fun d v => { d with version := some v },
    .of "markers" (arrayShape markerRecord.shape) (fun d => d.markers) fun d v =>
      { d with markers := some v }]
  draft := {}
  finish := DocumentDraft.finish

inductive Fault where
  | json (fault : JsonFault)
  | version (found : Nat)
  deriving DecidableEq, Repr

/-- Reads the markers that a text keeps. -/
def read (text : String) : Except Fault (List Marker) :=
  match documentRecord.shape [] text.toList with
  | .error fault => .error (.json fault)
  | .ok ((found, markers), _) => if found = version then .ok markers else .error (.version found)

end BytecodeLint.MarkerStore
