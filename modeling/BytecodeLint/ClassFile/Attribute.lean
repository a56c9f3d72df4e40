import BytecodeLint.ClassFile.ConstantPool

/-!
# Attributes

An attribute is a name, a length and a body. The name decides how the body is read; the length is
not relied upon, except that a debug extension takes exactly that many bytes, and that visible
annotations and annotation defaults want that many bytes to be left. Only method code and line
tables are kept; all others are passed over, but their structure has to be sound.

Bodies nest (code holds attributes, annotations hold annotations). The readers take a bound on the
nesting; since every level takes bytes of its own, one more than the size of the file is always
enough.
-/

namespace BytecodeLint

/-- An attribute as far as it is kept. -/
inductive Attribute where
  | code (bytes : Bytes) (attributes : List Attribute)
  | lineTable (entries : List LineEntry)
  | other (name : String)
  deriving Repr

namespace Attribute

open Reader

/-- Tags of element values that hold one constant: numbers, strings and classes. -/
def isConstantTag (tag : UInt8) : Bool :=
  "BCDFIJSZsc".toList.any fun c => c.toNat == tag.toNat

/-- Whether a tag is the code of a character. -/
def isTag (tag : UInt8) (c : Char) : Bool := c.toNat == tag.toNat

mutual

def skipElementValue (depth : Nat) : Reader Unit :=
  match depth with
  | 0 => fail
  | depth + 1 => do
    let tag ← u8
    if isConstantTag tag then skip 2
    else if isTag tag 'e' then skip 4
    else if isTag tag '@' then skipAnnotationBody depth
    else if isTag tag '[' then skipTable16 (skipElementValue depth)
    else fail

/-- Passes over an annotation: its type, then named element values. -/
def skipAnnotationBody (depth : Nat) : Reader Unit :=
  match depth with
  | 0 => fail
  | depth + 1 => do
    skip 2
    skipTable16 (do skip 2; skipElementValue depth)

end

/-- Passes over the part of a type annotation that tells where the type stands. -/
def skipTarget (target : UInt8) : Reader Unit :=
  let t := target.toNat
  if t = 0x00 ∨ t = 0x01 ∨ t = 0x16 then skip 1
  else if t = 0x10 ∨ t = 0x11 ∨ t = 0x12 ∨ t = 0x17 then skip 2
  else if 0x13 ≤ t ∧ t ≤ 0x15 then pure ()
  else if t = 0x40 ∨ t = 0x41 then skipTable16 (skip 6)
  else if 0x42 ≤ t ∧ t ≤ 0x46 then skip 2
  else if 0x47 ≤ t ∧ t ≤ 0x4b then skip 3
  else fail

/-- Passes over a type annotation: target, path, annotation. -/
def skipAnnotatedType (depth : Nat) : Reader Unit := do
  skipTarget (← u8)
  skipTable8 (skip 2)
  skipAnnotationBody depth

def skipVerificationType : Reader Unit := do
  let tag ← u8
  if tag ≤ 6 then pure ()
  else if tag ≤ 8 then skip 2
  else fail

def skipFrame : Reader Unit := do
  let type := (← u8).toNat
  if type ≤ 63 then pure ()
  else if type ≤ 127 then skipVerificationType
  else if type ≤ 246 then fail
  else if type = 247 then do
    skip 2
    skipVerificationType
  else if type ≤ 251 then skip 2
  else if type ≤ 254 then do
    skip 2
    skipTimes (type - 251) skipVerificationType
  else do
    skip 2
    skipTable16 skipVerificationType
    skipTable16 skipVerificationType

def lineEntry : Reader LineEntry := do
  let startPc ← u16
  let line ← u16
  pure ⟨startPc, line⟩

/-- Names of attributes whose body is a fixed number of bytes. -/
def fixedBody? (name : String) : Option Nat :=
  match name with
  | "ConstantValue" => some 2
  | "Synthetic" => some 0
  | "Deprecated" => some 0
  | "SourceFile" => some 2
  | "EnclosingMethod" => some 4
  | "Signature" => some 2
  | "NestHost" => some 2
  | _ => none

/-- Names of attributes whose body is a table with rows of a fixed number of bytes. -/
def tableBody? (name : String) : Option Nat :=
  match name with
  | "Exceptions" => some 2
  | "LocalVariableTable" => some 10
  | "LocalVariableTypeTable" => some 10
  | "InnerClasses" => some 8
  | "NestMembers" => some 2
  | "PermittedSubclasses" => some 2
  | _ => none

/-- Passes over the body of an attribute that is not kept. -/
def skipBody (depth : Nat) (name : String) (length : Nat) : Reader Unit :=
  match fixedBody? name, tableBody? name with
  | some n, _ => skip n
  | none, some n => skipTable16 (skip n)
  | none, none =>
    match name with
    | "RuntimeVisibleAnnotations" => do
      ensure length
      skipTable16 (skipAnnotationBody depth)
    | "RuntimeInvisibleAnnotations" => skipTable16 (skipAnnotationBody depth)
    | "RuntimeVisibleParameterAnnotations" => skipTable8 (skipTable16 (skipAnnotationBody depth))
    | "RuntimeInvisibleParameterAnnotations" => skipTable8 (skipTable16 (skipAnnotationBody depth))
    | "RuntimeVisibleTypeAnnotations" => skipTable16 (skipAnnotatedType depth)
    | "RuntimeInvisibleTypeAnnotations" => skipTable16 (skipAnnotatedType depth)
    | "AnnotationDefault" => do
      ensure length
      skipElementValue depth
    | "StackMapTable" => skipTable16 skipFrame
    | "BootstrapMethods" => skipTable16 (do skip 2; skipTable16 (skip 2))
    | "MethodParameters" => skipTable8 (skip 4)
    | "SourceDebugExtension" => skip length
    | _ => fail

def read (pool : ConstantPool) (depth : Nat) : Reader Attribute :=
  match depth with
  | 0 => fail
  | depth + 1 => do
    let nameIndex ← u16
    let length ← u32
    match pool.get? nameIndex with
    | some (.utf8 name) =>
      if name = "Code" then do
        skip 4
        let size ← u32
        let bytes ← take size
        skipTable16 (skip 8)
        let attributes ← table16 (read pool depth)
        pure (.code bytes attributes)
      else if name = "LineNumberTable" then do
        let entries ← table16 lineEntry
        pure (.lineTable entries)
      else if name = "Record" then do
        let _ ← table16 (do skip 4; let _ ← table16 (read pool depth))
        pure (.other name)
      else do
        skipBody (depth + 1) name length
        pure (.other name)
    | _ => fail

def readTable (pool : ConstantPool) (depth : Nat) : Reader (List Attribute) :=
  table16 (read pool depth)

end Attribute

end BytecodeLint
