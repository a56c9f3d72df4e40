import BytecodeLint.Bytes.Reader
import BytecodeLint.Class.Basic
import BytecodeLint.Failure

/-!
# The constant pool

Entries are numbered from 1; entry 0 and the entry after each eight byte constant are unusable.
Names are found by following entries: a class entry to its text, a member entry to its class, name
and descriptor. Each look-up fails when the entry is missing or of another kind.
-/

namespace BytecodeLint

/-- A constant pool entry. Constants that no name leads through keep only their tag. -/
inductive Constant where
  | unusable
  | utf8 (text : String)
  | classRef (name : Nat)
  | member (owner nameAndType : Nat)
  | nameAndType (name descriptor : Nat)
  | other (tag : UInt8)
  deriving DecidableEq, Repr

structure ConstantPool where
  entries : Array Constant
  deriving DecidableEq, Repr

inductive EntryKind where
  | utf8 | classRef | member | nameAndType
  deriving DecidableEq, Repr

/-- How messages call an entry. -/
def EntryKind.label : EntryKind → String
  | .utf8 => "utf8"
  | .classRef => "class"
  | .member => "member ref"
  | .nameAndType => "name and type"

/-- Why a look-up fails: no entry has the number, or it is of another kind. -/
inductive PoolFault where
  | missing (kind : EntryKind)
  | unexpected (kind : EntryKind)
  deriving DecidableEq, Repr

def PoolFault.message : PoolFault → String
  | .missing kind => "missing " ++ kind.label ++ " entry"
  | .unexpected kind => "unexpected " ++ kind.label ++ " entry"

def PoolFault.explain (fault : PoolFault) : Explanation := .ofMessage fault.message

/-- Why a member reference does not resolve: the entries that lead to it, or one of the three names
it is made of. -/
inductive MemberFault where
  | entry (fault : PoolFault)
  | owner (fault : PoolFault)
  | name (fault : PoolFault)
  | descriptor (fault : PoolFault)
  deriving DecidableEq, Repr

def MemberFault.explain : MemberFault → Explanation
  | .entry fault => fault.explain
  | .owner fault => fault.explain.within "resolve owner"
  | .name fault => fault.explain.within "resolve member name"
  | .descriptor fault => fault.explain.within "resolve member descriptor"

namespace ConstantPool

def get? (pool : ConstantPool) (index : Nat) : Option Constant := pool.entries[index]?

def utf8 (pool : ConstantPool) (index : Nat) : Except PoolFault String :=
  match pool.get? index with
  | none => .error (.missing .utf8)
  | some (.utf8 text) => .ok text
  | some _ => .error (.unexpected .utf8)

def className (pool : ConstantPool) (index : Nat) : Except PoolFault String :=
  match pool.get? index with
  | none => .error (.missing .classRef)
  | some (.classRef name) => pool.utf8 name
  | some _ => .error (.unexpected .classRef)

/-- The numbers of the name and the descriptor in a name-and-type entry. -/
def nameAndType (pool : ConstantPool) (index : Nat) : Except PoolFault (Nat × Nat) :=
  match pool.get? index with
  | none => .error (.missing .nameAndType)
  | some (.nameAndType name descriptor) => .ok (name, descriptor)
  | some _ => .error (.unexpected .nameAndType)

def member (pool : ConstantPool) (index : Nat) : Except MemberFault MemberRef :=
  match pool.get? index with
  | none => .error (.entry (.missing .member))
  | some (.member ownerIndex pairIndex) => do
    let owner ← (pool.className ownerIndex).mapError .owner
    let (nameIndex, descriptorIndex) ← (pool.nameAndType pairIndex).mapError .entry
    let name ← (pool.utf8 nameIndex).mapError .name
    let descriptor ← (pool.utf8 descriptorIndex).mapError .descriptor
    .ok ⟨owner, name, descriptor⟩
  | some _ => .error (.entry (.unexpected .member))

end ConstantPool

end BytecodeLint
