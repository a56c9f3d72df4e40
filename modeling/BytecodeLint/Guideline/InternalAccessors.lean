import BytecodeLint.Descriptor
import BytecodeLint.Guideline.Basic

/-!
# Avoid internal getters and setters

A call by which a class reaches its own field through a trivial accessor is reported, except in
constructors. An accessor is trivial when its body does nothing else:

* a getter loads `this`, reads a field of the class and returns it;
* a setter loads `this` and its parameter, writes a field of the class and returns.
-/

namespace BytecodeLint.Guideline.InternalAccessors

/-- The opcode that loads `this`. -/
def loadThis : UInt8 := 0x2a

/-- Opcodes that load the first parameter, one for each size of value. -/
def isLoadFirst (opcode : UInt8) : Bool :=
  opcode == 0x1b || opcode == 0x1f || opcode == 0x23 || opcode == 0x27 || opcode == 0x2b

/-- Opcodes that return a value. -/
def isValueReturn (opcode : UInt8) : Bool := 0xac ≤ opcode && opcode ≤ 0xb0

/-- The opcode that returns nothing. -/
def voidReturn : UInt8 := 0xb1

/-- Whether an instruction uses a field of the class itself in the given way. -/
def isOwnField (c : ClassDecl) (use : FieldUse) (i : Instruction) : Bool :=
  match i.operation with
  | .field u target => u == use && target.owner == c.name
  | _ => false

/-- Whether the descriptor asks for this many parameters. -/
def takes (m : MethodDecl) (count : Nat) : Bool :=
  match Descriptor.parameterCount m.descriptor with
  | .ok n => n == count
  | .error _ => false

/-- Whether the descriptor promises a value. -/
def givesValue (m : MethodDecl) : Bool :=
  match Descriptor.returnKind m.descriptor with
  | .ok .void => false
  | .ok _ => true
  | .error _ => false

/-- Whether the descriptor promises nothing. -/
def givesNothing (m : MethodDecl) : Bool :=
  match Descriptor.returnKind m.descriptor with
  | .ok .void => true
  | _ => false

/-- Whether a method only reads a field of its class. -/
def isGetter (c : ClassDecl) (m : MethodDecl) : Bool :=
  !m.access.isStatic && takes m 0 && givesValue m &&
    match m.instructions with
    | [load, get, ret] =>
      load.opcode == loadThis && isOwnField c .getField get && isValueReturn ret.opcode
    | _ => false

/-- Whether a method only writes a field of its class. -/
def isSetter (c : ClassDecl) (m : MethodDecl) : Bool :=
  !m.access.isStatic && takes m 1 && givesNothing m &&
    match m.instructions with
    | [load, value, put, ret] =>
      load.opcode == loadThis && isLoadFirst value.opcode && isOwnField c .putField put &&
        ret.opcode == voidReturn
    | _ => false

/-- What a method is called when it is a trivial accessor. -/
def accessorWord? (c : ClassDecl) (m : MethodDecl) : Option String :=
  if isGetter c m then some "getter"
  else if isSetter c m then some "setter"
  else none

/-- Whether a call of this kind can reach a method of the class itself. -/
def isInstanceCall (kind : CallKind) : Bool := kind == .virtual || kind == .special

def message? (c : ClassDecl) (m : MethodDecl) (i : Instruction) : Option String :=
  if m.isConstructor then none
  else
    match i.operation with
    | .invoke kind target =>
      if isInstanceCall kind && target.owner == c.name then do
        let callee ← c.method? target.name target.descriptor
        let word ← accessorWord? c callee
        some ("Internal " ++ word ++ " " ++ target.name ++ target.descriptor ++ " called from " ++
          c.location m ++ "; access the field directly")
      else none
    | _ => none

def findings (c : ClassDecl) : List Finding := c.findings (message? c)

def guideline : Guideline where
  id := "AVOID_INTERNAL_GETTERS_SETTERS"
  title := "Avoid Internal Getters/Setters"
  description :=
    "Inside a class access fields directly instead of calling its own getters and setters!"
  check _ c := .ok (findings c)

end BytecodeLint.Guideline.InternalAccessors
