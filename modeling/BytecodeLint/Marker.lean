/-!
# Markers

A marker is a finding as it is kept: which guideline it breaks, where, and what to tell the reader.
-/

namespace BytecodeLint

/-- A source file of a project, by its path relative to the source root. -/
structure Resource where
  path : String
  deriving DecidableEq, Repr

/-- A kept finding. Offsets and lines are below `2 ^ 32`. -/
structure Marker where
  guidelineId : String
  title : String
  description : String
  message : String
  resource : Resource
  location : String
  offset : Nat
  line : Option Nat
  deriving DecidableEq, Repr

end BytecodeLint
