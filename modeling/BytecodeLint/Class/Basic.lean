/-!
# Class declarations

What the guidelines know of a class: its name and flags, its super types, its fields, and its
methods with their instructions and source lines.
-/

namespace BytecodeLint

structure ClassAccess where
  isInterface : Bool := false
  isEnum : Bool := false
  deriving DecidableEq, Repr

structure FieldAccess where
  isFinal : Bool := false
  deriving DecidableEq, Repr

structure MethodAccess where
  isStatic : Bool := false
  isAbstract : Bool := false
  isNative : Bool := false
  isSynthetic : Bool := false
  isBridge : Bool := false
  deriving DecidableEq, Repr

/-- Whether the bit of the given weight is set. -/
def hasBit (bits weight : Nat) : Bool := bits &&& weight != 0

def ClassAccess.ofBits (bits : Nat) : ClassAccess where
  isInterface := hasBit bits 0x0200
  isEnum := hasBit bits 0x4000

def FieldAccess.ofBits (bits : Nat) : FieldAccess where
  isFinal := hasBit bits 0x0010

def MethodAccess.ofBits (bits : Nat) : MethodAccess where
  isStatic := hasBit bits 0x0008
  isBridge := hasBit bits 0x0040
  isNative := hasBit bits 0x0100
  isAbstract := hasBit bits 0x0400
  isSynthetic := hasBit bits 0x1000

inductive FieldUse where
  | getStatic | putStatic | getField | putField
  deriving DecidableEq, Repr

inductive CallKind where
  | virtual | special | static | interface
  deriving DecidableEq, Repr

structure MemberRef where
  owner : String
  name : String
  descriptor : String
  deriving DecidableEq, Repr

/-- What an instruction does, as far as the guidelines care. -/
inductive Operation where
  | field (use : FieldUse) (target : MemberRef)
  | invoke (kind : CallKind) (target : MemberRef)
  | load (index : Nat)
  | other
  deriving DecidableEq, Repr

/-- An instruction at its byte offset in the method body. -/
structure Instruction where
  offset : Nat
  opcode : UInt8
  operation : Operation
  deriving DecidableEq, Repr

/-- From byte offset `startPc` on, the code belongs to source line `line`. -/
structure LineEntry where
  startPc : Nat
  line : Nat
  deriving DecidableEq, Repr

structure FieldDecl where
  name : String
  descriptor : String
  access : FieldAccess := {}
  deriving DecidableEq, Repr

/-- A declared method. A method without code has no instructions. -/
structure MethodDecl where
  name : String
  descriptor : String
  access : MethodAccess := {}
  instructions : List Instruction := []
  lines : List LineEntry := []
  deriving DecidableEq, Repr

structure ClassDecl where
  name : String
  access : ClassAccess := {}
  superName : Option String := none
  interfaces : List String := []
  fields : List FieldDecl := []
  methods : List MethodDecl := []
  deriving DecidableEq, Repr

def staticInitializerName : String := "<clinit>"

def constructorName : String := "<init>"

namespace MethodDecl

def isStaticInitializer (m : MethodDecl) : Bool := m.name == staticInitializerName

def isConstructor (m : MethodDecl) : Bool := m.name == constructorName

/-- The source line of a byte offset: entries are passed over while they start at or before the
offset, and the last of them counts. -/
def line? (m : MethodDecl) (offset : Nat) : Option Nat :=
  ((m.lines.takeWhile fun entry => entry.startPc ≤ offset).getLast?).map LineEntry.line

def signature (m : MethodDecl) : String := m.name ++ m.descriptor

def hasSignature (m : MethodDecl) (name descriptor : String) : Bool :=
  m.name == name && m.descriptor == descriptor

end MethodDecl

namespace ClassDecl

def field? (c : ClassDecl) (name : String) : Option FieldDecl :=
  c.fields.find? fun f => f.name == name

/-- The first declared method of a name and descriptor. -/
def method? (c : ClassDecl) (name descriptor : String) : Option MethodDecl :=
  c.methods.find? fun m => m.hasSignature name descriptor

def staticInitializer? (c : ClassDecl) : Option MethodDecl :=
  c.methods.find? MethodDecl.isStaticInitializer

/-- The names of the direct super types: the super class, then the interfaces. -/
def superTypes (c : ClassDecl) : List String := c.superName.toList ++ c.interfaces

/-- How findings name a method: class, dot, name and descriptor. -/
def location (c : ClassDecl) (m : MethodDecl) : String := c.name ++ "." ++ m.signature

end ClassDecl

end BytecodeLint
