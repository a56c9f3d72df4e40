import BytecodeLint.Bytecode.Decode
import BytecodeLint.ClassFile.Layout

/-!
# From class files to class declarations

Once a class file is laid out, its names are looked up in the constant pool and its method bodies
are decoded. A method's body is its first code attribute; its line table gathers every line table of
that attribute and is sorted by start, entries with equal start keeping their order.
-/

namespace BytecodeLint.ClassFile

inductive Fault where
  | malformed
  | className (fault : PoolFault)
  | superName (fault : PoolFault)
  | interfaceName (fault : PoolFault)
  | fieldName (fault : PoolFault)
  | fieldDescriptor (fault : PoolFault)
  | methodName (fault : PoolFault)
  | methodDescriptor (fault : PoolFault)
  | body (signature : String) (fault : Bytecode.DecodeFault)
  deriving DecidableEq, Repr

def Fault.explain : Fault → Explanation
  | .malformed => (Explanation.ofRoot .classFile).within "failed to parse class file bytes"
  | .className fault => fault.explain.within "resolve class name"
  | .superName fault => fault.explain.within "resolve super class name"
  | .interfaceName fault => fault.explain.within "resolve interface name"
  | .fieldName fault => (fault.explain.within "resolve field name").within "parse fields"
  | .fieldDescriptor fault =>
    (fault.explain.within "resolve field descriptor").within "parse fields"
  | .methodName fault =>
    (fault.explain.within "resolve method name").within "parse method bytecode"
  | .methodDescriptor fault =>
    (fault.explain.within "resolve method descriptor").within "parse method bytecode"
  | .body signature fault =>
    (fault.explain.within ("parse bytecode of " ++ signature)).within "parse method bytecode"

def resolveField (pool : ConstantPool) (raw : RawMember) : Except Fault FieldDecl := do
  let name ← (pool.utf8 raw.name).mapError .fieldName
  let descriptor ← (pool.utf8 raw.descriptor).mapError .fieldDescriptor
  .ok ⟨name, descriptor, .ofBits raw.access⟩

/-- The first code attribute: its bytes and its own attributes. -/
def code? (attributes : List Attribute) : Option (Bytes × List Attribute) :=
  attributes.findSome? fun
    | .code bytes inner => some (bytes, inner)
    | _ => none

def lineEntries (attributes : List Attribute) : List LineEntry :=
  attributes.flatMap fun
    | .lineTable entries => entries
    | _ => []

def lineTable (attributes : List Attribute) : List LineEntry :=
  (lineEntries attributes).mergeSort fun a b => a.startPc ≤ b.startPc

def resolveMethod (pool : ConstantPool) (raw : RawMember) : Except Fault MethodDecl := do
  let name ← (pool.utf8 raw.name).mapError .methodName
  let descriptor ← (pool.utf8 raw.descriptor).mapError .methodDescriptor
  let access := MethodAccess.ofBits raw.access
  match code? raw.attributes with
  | none => .ok ⟨name, descriptor, access, [], []⟩
  | some (bytes, inner) =>
    let instructions ← (Bytecode.decode pool bytes).mapError (.body (name ++ descriptor))
    .ok ⟨name, descriptor, access, instructions, lineTable inner⟩

/-- The name of the super class; number zero stands for none. -/
def resolveSuper (pool : ConstantPool) (index : Nat) : Except Fault (Option String) :=
  if index = 0 then .ok none
  else ((pool.className index).mapError .superName).map some

/-- The class a laid out file declares. -/
def Raw.resolve (raw : Raw) : Except Fault ClassDecl := do
  let name ← (raw.pool.className raw.thisClass).mapError .className
  let superName ← resolveSuper raw.pool raw.superClass
  let interfaces ← raw.interfaces.mapM fun index =>
    (raw.pool.className index).mapError .interfaceName
  let fields ← raw.fields.mapM (resolveField raw.pool)
  let methods ← raw.methods.mapM (resolveMethod raw.pool)
  .ok ⟨name, .ofBits raw.access, superName, interfaces, fields, methods⟩

/-- The class that the bytes of a class file declare. -/
def parse (bytes : Bytes) : Except Fault ClassDecl :=
  match Raw.ofBytes? bytes with
  | none => .error .malformed
  | some raw => raw.resolve

end BytecodeLint.ClassFile
