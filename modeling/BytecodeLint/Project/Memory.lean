import BytecodeLint.Failure
import BytecodeLint.Project.Basic

/-!
# A project in memory

A project without files. Its operations can be told to fail: the next few clears, the next few
flushes, and every addition beyond a limit. It counts how often it is cleared and flushed.
-/

namespace BytecodeLint

inductive MemoryFault where
  | locked
  | readOnly
  | full
  deriving DecidableEq, Repr

def MemoryFault.explain : MemoryFault → Explanation
  | .locked => .ofMessage "marker store is locked"
  | .readOnly => .ofMessage "marker store is read-only"
  | .full => .ofMessage "marker store is full"

structure MemoryProject where
  extension : String := ".java"
  sources : List String := []
  markers : List Marker := []
  clearFailures : Nat := 0
  flushFailures : Nat := 0
  addLimit : Option Nat := none
  clearCalls : Nat := 0
  flushCalls : Nat := 0
  deriving DecidableEq, Repr

namespace MemoryProject

def findSource (p : MemoryProject) (path : String) : Option Resource :=
  if p.sources.contains path then some ⟨path⟩ else none

/-- Drops all markers, unless it is told to fail. -/
def clear (p : MemoryProject) : Except MemoryFault Unit × MemoryProject :=
  if 0 < p.clearFailures then
    (.error .locked,
      { p with clearFailures := p.clearFailures - 1, clearCalls := p.clearCalls + 1 })
  else (.ok (), { p with markers := [], clearCalls := p.clearCalls + 1 })

def hasRoom (p : MemoryProject) : Bool :=
  match p.addLimit with
  | some limit => p.markers.length < limit
  | none => true

/-- Keeps a marker, unless the limit is reached. -/
def add (m : Marker) (p : MemoryProject) : Except MemoryFault Unit × MemoryProject :=
  if p.hasRoom then (.ok (), { p with markers := p.markers ++ [m] }) else (.error .full, p)

/-- Counts as persisting, unless it is told to fail. -/
def flush (p : MemoryProject) : Except MemoryFault Unit × MemoryProject :=
  if 0 < p.flushFailures then
    (.error .readOnly,
      { p with flushFailures := p.flushFailures - 1, flushCalls := p.flushCalls + 1 })
  else (.ok (), { p with flushCalls := p.flushCalls + 1 })

def project : Project MemoryProject MemoryFault where
  extension p := p.extension
  findSource := findSource
  markers p := p.markers
  clear := clear
  add := add
  flush := flush

end MemoryProject

end BytecodeLint
