import BytecodeLint.ClassFile.Attribute
import BytecodeLint.Text.ClassText

/-!
# The layout of a class file

A class file is a magic number, a version, the constant pool, flags, the numbers of this class, its
super class and its interfaces, then fields, methods and attributes. Nothing may follow. Everything
is read before any name is looked up.
-/

namespace BytecodeLint.ClassFile

open Reader

structure RawMember where
  access : Nat
  name : Nat
  descriptor : Nat
  attributes : List Attribute
  deriving Repr

/-- A class file as it is laid out, names still being numbers of constants. -/
structure Raw where
  pool : ConstantPool
  access : Nat
  thisClass : Nat
  superClass : Nat
  interfaces : List Nat
  fields : List RawMember
  methods : List RawMember
  deriving Repr

/-- The number every class file starts with. -/
def magic : Nat := 0xcafebabe

/-- Whether a constant takes two numbers of the pool. -/
def isWide (tag : UInt8) : Bool := tag == 5 || tag == 6

/-- The body size of constants that are passed over, by tag. -/
def plainSize? (tag : UInt8) : Option Nat :=
  match tag.toNat with
  | 3 => some 4
  | 4 => some 4
  | 5 => some 8
  | 6 => some 8
  | 8 => some 2
  | 15 => some 3
  | 16 => some 2
  | 17 => some 4
  | 18 => some 4
  | 19 => some 2
  | 20 => some 2
  | _ => none

def readConstant (tag : UInt8) : Reader Constant :=
  match tag.toNat with
  | 1 => do
    let bytes ← take (← u16)
    pure (.utf8 (Text.ofClassBytes bytes))
  | 7 => do pure (.classRef (← u16))
  | 9 => do pure (.member (← u16) (← u16))
  | 10 => do pure (.member (← u16) (← u16))
  | 11 => do pure (.member (← u16) (← u16))
  | 12 => do pure (.nameAndType (← u16) (← u16))
  | _ =>
    match plainSize? tag with
    | some size => do
      skip size
      pure (.other tag)
    | none => fail

/-- Reads constants until `count` more numbers are used. -/
def readConstants (count : Nat) : Reader (List Constant) :=
  match count with
  | 0 => pure []
  | 1 => do
    let c ← readConstant (← u8)
    pure [c]
  | n + 2 => do
    let tag ← u8
    let c ← readConstant tag
    if isWide tag then do
      let rest ← readConstants n
      pure (c :: .unusable :: rest)
    else do
      let rest ← readConstants (n + 1)
      pure (c :: rest)

/-- Reads the constant pool. The count is one more than the number of constants; a pool with
count zero has no entry at all. -/
def readPool : Reader ConstantPool := do
  match ← u16 with
  | 0 => pure ⟨#[]⟩
  | count + 1 => do
    let constants ← readConstants count
    pure ⟨(Constant.unusable :: constants).toArray⟩

def readMember (pool : ConstantPool) (depth : Nat) : Reader RawMember := do
  let access ← u16
  let name ← u16
  let descriptor ← u16
  let attributes ← Attribute.readTable pool depth
  pure ⟨access, name, descriptor, attributes⟩

/-- Reads a class file up to its last attribute; attributes nest up to a depth. -/
def readRaw (depth : Nat) : Reader Raw := do
  let first ← u32
  if first ≠ magic then fail
  else do
    skip 4
    let pool ← readPool
    let access ← u16
    let thisClass ← u16
    let superClass ← u16
    let interfaces ← table16 u16
    let fields ← table16 (readMember pool depth)
    let methods ← table16 (readMember pool depth)
    let _ ← Attribute.readTable pool depth
    pure ⟨pool, access, thisClass, superClass, interfaces, fields, methods⟩

def Raw.ofBytes? (bytes : Bytes) : Option Raw := Reader.whole (readRaw (bytes.length + 1)) bytes

end BytecodeLint.ClassFile
