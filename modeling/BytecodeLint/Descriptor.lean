import BytecodeLint.Failure

/-!
# Type and method descriptors

A descriptor is read from the front of a text and what follows it is left alone.

* A type is one of the letters `Z B C S I J F D`, the letter `V` for void, `L` name `;` with any
  name free of `;`, or 1 to 255 times `[` followed by one of the former.
* A method is `(` types `)` type, void counting as a type in every place.

`fieldKind`, `parameterCount` and `returnKind` are the three questions the guidelines ask.
-/

namespace BytecodeLint.Descriptor

inductive Primitive where
  | boolean | byte | char | short | int | long | float | double
  deriving DecidableEq, Repr

def Primitive.letter : Primitive → Char
  | .boolean => 'Z'
  | .byte => 'B'
  | .char => 'C'
  | .short => 'S'
  | .int => 'I'
  | .long => 'J'
  | .float => 'F'
  | .double => 'D'

def Primitive.ofLetter? : Char → Option Primitive
  | 'Z' => some .boolean
  | 'B' => some .byte
  | 'C' => some .char
  | 'S' => some .short
  | 'I' => some .int
  | 'J' => some .long
  | 'F' => some .float
  | 'D' => some .double
  | _ => none

/-- A type without its dimensions. -/
inductive Element where
  | primitive (type : Primitive)
  | void
  | object (name : List Char)
  deriving DecidableEq, Repr

/-- A type: an element, or an array of it with `dimensions + 1` dimensions. -/
inductive Ty where
  | element (e : Element)
  | array (dimensions : Nat) (e : Element)
  deriving DecidableEq, Repr

def Element.text : Element → List Char
  | .primitive type => [type.letter]
  | .void => ['V']
  | .object name => 'L' :: name ++ [';']

def Ty.text : Ty → List Char
  | .element e => e.text
  | .array dimensions e => List.replicate (dimensions + 1) '[' ++ e.text

/-- Most dimensions an array type may have. -/
def maxDimensions : Nat := 255

/-- Why a text does not begin with the descriptor that is wanted. -/
inductive Fault where
  | endOfText
  | tooManyDimensions
  | unclosedName
  | unknownLetter
  | closingAsType
  | closingAsElement
  | notAMethod
  | noReturnType
  | voidField
  deriving DecidableEq, Repr

def Fault.message : Fault → String
  | .endOfText => "Unexpected end of input."
  | .tooManyDimensions => "Array has too many dimensions."
  | .unclosedName => "Invalid descriptor: Missing semicolon in class name descriptor."
  | .unknownLetter => "Invalid descriptor: Unrecognized type descriptor."
  | .closingAsType => "Invalid descriptor: Invalid descriptor"
  | .closingAsElement => "Invalid descriptor: Invalid descriptor."
  | .notAMethod => "Invalid descriptor: Method descriptor must start with '('."
  | .noReturnType => "Invalid descriptor: Missing return type."
  | .voidField => "void is not a field type"

/-- What stands at the front of a text when a type is wanted. -/
inductive Token where
  | ty (type : Ty)
  | closing
  deriving DecidableEq, Repr

/-- Reads the name of an object type up to its semicolon. -/
def readName : List Char → Except Fault (List Char × List Char)
  | [] => .error .unclosedName
  | c :: rest =>
    if c = ';' then .ok ([], rest)
    else (readName rest).map fun (name, after) => (c :: name, after)

/-- Reads an element, or the parenthesis that closes a parameter list. -/
def readElement : List Char → Except Fault (Option Element × List Char)
  | [] => .error .endOfText
  | c :: rest =>
    match Primitive.ofLetter? c with
    | some type => .ok (some (.primitive type), rest)
    | none =>
      if c = 'V' then .ok (some .void, rest)
      else if c = ')' then .ok (none, rest)
      else if c = 'L' then (readName rest).map fun (name, after) => (some (.object name), after)
      else .error .unknownLetter

/-- Reads the remaining dimensions of an array, of which `count` have been read, and its element. -/
def readArray (count : Nat) : List Char → Except Fault (Ty × List Char)
  | [] => .error .endOfText
  | c :: rest =>
    if c = '[' then
      if count < maxDimensions then readArray (count + 1) rest else .error .tooManyDimensions
    else
      match readElement (c :: rest) with
      | .ok (some e, after) => .ok (.array (count - 1) e, after)
      | .ok (none, _) => .error .closingAsElement
      | .error fault => .error fault

/-- Reads a type, or the parenthesis that closes a parameter list. -/
def readToken : List Char → Except Fault (Token × List Char)
  | [] => .error .endOfText
  | c :: rest =>
    if c = '[' then (readArray 1 rest).map fun (type, after) => (.ty type, after)
    else (readElement (c :: rest)).map fun (e, after) =>
      ((e.map fun e => Token.ty (.element e)).getD .closing, after)

theorem readName_shorter {cs name after : List Char} (h : readName cs = .ok (name, after)) :
    after.length < cs.length := by
  induction cs generalizing name after with
  | nil => simp [readName] at h
  | cons c rest ih =>
    rw [readName] at h
    split at h
    · cases h; simp
    · match hr : readName rest with
      | .error f => simp [hr, Except.map] at h
      | .ok (n, a) =>
        simp only [hr, Except.map, Except.ok.injEq, Prod.mk.injEq] at h
        have := ih hr
        simp only [List.length_cons, ← h.2]
        omega

theorem readElement_shorter {cs after : List Char} {e : Option Element}
    (h : readElement cs = .ok (e, after)) : after.length < cs.length := by
  match cs with
  | [] => simp [readElement] at h
  | c :: rest =>
    rw [readElement] at h
    split at h
    · cases h; simp
    · split at h
      · cases h; simp
      · split at h
        · cases h; simp
        · split at h
          · match hr : readName rest with
            | .error f => simp [hr, Except.map] at h
            | .ok (n, a) =>
              simp only [hr, Except.map, Except.ok.injEq, Prod.mk.injEq] at h
              have := readName_shorter hr
              simp only [List.length_cons, ← h.2]
              omega
          · simp at h

theorem readArray_shorter {cs after : List Char} {count : Nat} {type : Ty}
    (h : readArray count cs = .ok (type, after)) : after.length < cs.length := by
  induction cs generalizing count with
  | nil => simp [readArray] at h
  | cons c rest ih =>
    rw [readArray] at h
    split at h
    · split at h
      · have := ih h
        simp only [List.length_cons]
        omega
      · simp at h
    · match hr : readElement (c :: rest) with
      | .error f => simp [hr] at h
      | .ok (none, a) => simp [hr] at h
      | .ok (some e, a) =>
        simp only [hr, Except.ok.injEq, Prod.mk.injEq] at h
        have := readElement_shorter hr
        rw [← h.2]
        exact this

/-- Reading a type or a closing parenthesis takes at least one character. -/
theorem readToken_shorter {cs after : List Char} {token : Token}
    (h : readToken cs = .ok (token, after)) : after.length < cs.length := by
  match cs with
  | [] => simp [readToken] at h
  | c :: rest =>
    rw [readToken] at h
    split at h
    · match hr : readArray 1 rest with
      | .error f => simp [hr, Except.map] at h
      | .ok (t, a) =>
        simp only [hr, Except.map, Except.ok.injEq, Prod.mk.injEq] at h
        have := readArray_shorter hr
        simp only [List.length_cons, ← h.2]
        omega
    · match hr : readElement (c :: rest) with
      | .error f => simp [hr, Except.map] at h
      | .ok (e, a) =>
        simp only [hr, Except.map, Except.ok.injEq, Prod.mk.injEq] at h
        have := readElement_shorter hr
        rw [← h.2]
        exact this

/-- Reads parameter types up to the closing parenthesis. -/
def readParameters (cs : List Char) : Except Fault (List Ty × List Char) :=
  match h : readToken cs with
  | .error fault => .error fault
  | .ok (.closing, after) => .ok ([], after)
  | .ok (.ty type, after) =>
    have := readToken_shorter h
    (readParameters after).map fun (types, rest) => (type :: types, rest)
  termination_by cs.length

structure MethodTy where
  parameters : List Ty
  result : Ty
  deriving DecidableEq, Repr

def readMethod : List Char → Except Fault (MethodTy × List Char)
  | [] => .error .endOfText
  | c :: rest =>
    if c = '(' then
      match readParameters rest with
      | .error fault => .error fault
      | .ok (parameters, after) =>
        match readToken after with
        | .error fault => .error fault
        | .ok (.closing, _) => .error .noReturnType
        | .ok (.ty result, last) => .ok (⟨parameters, result⟩, last)
    else .error .notAMethod

/-- What a field holds. An object's name has its dots turned to slashes. -/
inductive FieldKind where
  | primitive
  | array
  | object (name : String)
  deriving DecidableEq, Repr

inductive ReturnKind where
  | void
  | primitive
  | reference
  deriving DecidableEq, Repr

/-- An object name in its internal form, with slashes between packages. -/
def internalName (name : List Char) : String :=
  String.ofList (name.map fun c => if c = '.' then '/' else c)

/-- The kind of field a type stands for; void stands for none. -/
def Ty.fieldKind? : Ty → Option FieldKind
  | .element (.primitive _) => some .primitive
  | .element .void => none
  | .element (.object name) => some (.object (internalName name))
  | .array _ _ => some .array

def Ty.returnKind : Ty → ReturnKind
  | .element (.primitive _) => .primitive
  | .element .void => .void
  | .element (.object _) => .reference
  | .array _ _ => .reference

def fieldKind (text : String) : Except Fault FieldKind :=
  match readToken text.toList with
  | .error fault => .error fault
  | .ok (.closing, _) => .error .closingAsType
  | .ok (.ty type, _) =>
    match type.fieldKind? with
    | some kind => .ok kind
    | none => .error .voidField

/-- The class a field's descriptor names. A text of at most one byte names none. -/
def objectClass? (text : String) : Option String :=
  if text.utf8ByteSize ≤ 1 then none
  else
    match fieldKind text with
    | .ok (.object name) => some name
    | _ => none

def methodType (text : String) : Except Fault MethodTy :=
  (readMethod text.toList).map Prod.fst

def parameterCount (text : String) : Except Fault Nat :=
  (methodType text).map fun m => m.parameters.length

def returnKind (text : String) : Except Fault ReturnKind :=
  (methodType text).map fun m => m.result.returnKind

def Fault.explainField (fault : Fault) : Explanation :=
  match fault with
  | .voidField => .ofMessage fault.message
  | _ => (Explanation.ofMessage fault.message).within "parse field descriptor"

def Fault.explainMethod (fault : Fault) : Explanation :=
  (Explanation.ofMessage fault.message).within "parse method descriptor"

end BytecodeLint.Descriptor
