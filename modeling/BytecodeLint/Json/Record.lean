import BytecodeLint.Json.Skim

/-!
# Reading JSON of a known shape

The text is read once from the front, and the first problem counts. A value of another shape than
the wanted one is a fault at the place where it stands; it is told apart from text that is no JSON,
so a value of the wrong kind is still read as far as its kind is clear.

A record is an object or an array. As an object its keys come in any order; unknown keys are passed
over and repeated ones refused. As an array its fields come in order, and nothing may follow the
last one. A record of which a needed field is missing has the wrong shape itself.
-/

namespace BytecodeLint.Json

inductive Step where
  | key (name : String)
  | index (n : Nat)
  deriving DecidableEq, Repr

/-- Where a value stands in the document: the steps to it, the last one first. -/
abbrev Place := List Step

def stepsText : List Step → String
  | [] => ""
  | .key name :: rest => "." ++ name ++ stepsText rest
  | .index n :: rest => "[" ++ toString n ++ "]" ++ stepsText rest

/-- A place as it is shown; the whole document is a dot. -/
def Place.text (place : Place) : String :=
  match place.reverse with
  | [] => "."
  | .key name :: rest => name ++ stepsText rest
  | steps => stepsText steps

/-- Reads a value at a place from the front of a text. -/
abbrev Shape (α : Type) := Place → List Char → Except JsonFault (α × List Char)

/-- The value at the place has the wrong shape. -/
def misfit (place : Place) : JsonFault := .shape (Place.text place)

/-- The fault of a reader, or else that of a misfit. -/
def faultOr {α : Type} (place : Place) : Except JsonFault α → JsonFault
  | .error fault => fault
  | .ok _ => misfit place

/-- The fault when a value starts with none of the wanted characters. -/
def otherKind (place : Place) : List Char → JsonFault
  | [] => .truncated
  | c :: rest =>
    if c = 'n' then faultOr place (takeWord ['u', 'l', 'l'] rest)
    else if c = 't' then faultOr place (takeWord ['r', 'u', 'e'] rest)
    else if c = 'f' then faultOr place (takeWord ['a', 'l', 's', 'e'] rest)
    else if c = '-' ∨ c.isDigit then faultOr place (takeNumeral (c :: rest))
    else if c = '"' then faultOr place (takeText rest)
    else if c = '[' ∨ c = '\x7b' then misfit place
    else .malformed

def textShape : Shape String := fun place cs =>
  match skipSpace cs with
  | '"' :: rest => do
    let (chars, rest) ← takeText rest
    .ok (String.ofList chars, rest)
  | cs => .error (otherKind place cs)

/-- A natural number below `2 ^ 32`, written without fraction and exponent. -/
def wordShape : Shape Nat := fun place cs =>
  match skipSpace cs with
  | [] => .error .truncated
  | c :: rest =>
    if c = '-' ∨ c.isDigit then do
      let (n, rest) ← takeNumeral (c :: rest)
      match n.toWord? with
      | some value => .ok (value, rest)
      | none => .error (misfit place)
    else .error (otherKind place (c :: rest))

/-- A value or `null`. -/
def optionalShape {α : Type} (shape : Shape α) : Shape (Option α) := fun place cs =>
  match skipSpace cs with
  | 'n' :: rest => do
    let ((), rest) ← takeWord ['u', 'l', 'l'] rest
    .ok (none, rest)
  | cs => do
    let (value, rest) ← shape place cs
    .ok (some value, rest)

/-- Passes over the comma before an item that is not the first; at the closing bracket there is no
item. -/
def nextItem (isFirst : Bool) (cs : List Char) : Except JsonFault (Bool × List Char) :=
  match skipSpace cs with
  | [] => .error .truncated
  | c :: rest =>
    if c = ']' then .ok (false, c :: rest)
    else if isFirst then .ok (true, c :: rest)
    else if c = ',' then
      match skipSpace rest with
      | [] => .error .truncated
      | ']' :: _ => .error .malformed
      | cs => .ok (true, cs)
    else .error .malformed

/-- Reads items up to the closing bracket; `n` have been read. Each item takes a character, so the
length of the text is fuel enough. -/
def itemsFrom {α : Type} (shape : Shape α) (place : Place) (fuel n : Nat) (cs : List Char) :
    Except JsonFault (List α × List Char) :=
  match fuel with
  | 0 => .error .truncated
  | fuel + 1 => do
    let (more, cs) ← nextItem (n == 0) cs
    if more then do
      let (item, cs) ← shape (.index n :: place) cs
      let (items, cs) ← itemsFrom shape place fuel (n + 1) cs
      .ok (item :: items, cs)
    else .ok ([], cs.drop 1)

/-- An array of values of one shape. -/
def arrayShape {α : Type} (shape : Shape α) : Shape (List α) := fun place cs =>
  match skipSpace cs with
  | '[' :: rest => itemsFrom shape place (rest.length + 1) 0 rest
  | cs => .error (otherKind place cs)

/-- A field of a record that is collected in a draft of type `δ`. -/
structure Field (δ : Type) where
  name : String
  /-- Whether the draft has the field already. -/
  isSet : δ → Bool
  /-- Reads the field into the draft. -/
  read : δ → Shape δ

/-- A field that a value of some shape fills. -/
def Field.of {δ α : Type} (name : String) (shape : Shape α) (get : δ → Option α)
    (set : δ → α → δ) : Field δ where
  name := name
  isSet d := (get d).isSome
  read d place cs := do
    let (value, cs) ← shape place cs
    .ok (set d value, cs)

/-- A record: its fields in order, the empty draft, and the value of a draft in which no needed
field is missing. -/
structure Record (δ α : Type) where
  fields : List (Field δ)
  draft : δ
  finish : δ → Option α

/-- Passes over the comma before a key that is not the first, and over its opening quotation mark;
at the closing brace there is no key. -/
def nextKey (isFirst : Bool) (cs : List Char) : Except JsonFault (Bool × List Char) :=
  match skipSpace cs with
  | [] => .error .truncated
  | c :: rest =>
    if c = '\x7d' then .ok (false, rest)
    else
      let key :=
        if isFirst then some (c :: rest)
        else if c = ',' then some (skipSpace rest)
        else none
      match key with
      | none => .error .malformed
      | some [] => .error .truncated
      | some ('"' :: rest) => .ok (true, rest)
      | some _ => .error .malformed

def takeColon (cs : List Char) : Except JsonFault (List Char) :=
  match skipSpace cs with
  | [] => .error .truncated
  | ':' :: rest => .ok rest
  | _ => .error .malformed

namespace Record

variable {δ α : Type}

def member (r : Record δ α) (place : Place) (d : δ) (key : String) (cs : List Char) :
    Except JsonFault (δ × List Char) :=
  match r.fields.find? fun f => f.name == key with
  | none => do
    let cs ← takeColon cs
    let cs ← Skim.value cs
    .ok (d, cs)
  | some f =>
    if f.isSet d then .error (misfit place)
    else do
      let cs ← takeColon cs
      f.read d (.key key :: place) cs

/-- Reads members up to the closing brace. Each member takes a character, so the length of the text
is fuel enough. -/
def membersFrom (r : Record δ α) (place : Place) (fuel : Nat) (isFirst : Bool) (d : δ)
    (cs : List Char) : Except JsonFault (δ × List Char) :=
  match fuel with
  | 0 => .error .truncated
  | fuel + 1 => do
    let (more, cs) ← nextKey isFirst cs
    if more then do
      let (key, cs) ← takeText cs
      let (d, cs) ← r.member place d (String.ofList key) cs
      membersFrom r place fuel false d cs
    else .ok (d, cs)

/-- The record a draft has become. -/
def close (r : Record δ α) (place : Place) (d : δ) (cs : List Char) :
    Except JsonFault (α × List Char) :=
  match r.finish d with
  | some value => .ok (value, cs)
  | none => .error (misfit place)

/-- Reads fields in order up to the last one or to the closing bracket, `n` having been read. -/
def fieldsFrom (place : Place) : List (Field δ) → Nat → δ → List Char →
    Except JsonFault (δ × List Char)
  | [], _, d, cs => .ok (d, cs)
  | f :: fields, n, d, cs => do
    let (more, cs) ← nextItem (n == 0) cs
    if more then do
      let (d, cs) ← f.read d (.index n :: place) cs
      fieldsFrom place fields (n + 1) d cs
    else .ok (d, cs)

/-- Takes the closing bracket; nothing else may follow. -/
def closeArray (cs : List Char) : Except JsonFault (List Char) :=
  match skipSpace cs with
  | [] => .error .truncated
  | ']' :: rest => .ok rest
  | _ => .error .malformed

def shape (r : Record δ α) : Shape α := fun place cs =>
  match skipSpace cs with
  | '\x7b' :: rest => do
    let (d, rest) ← r.membersFrom place (rest.length + 1) true r.draft rest
    r.close place d rest
  | '[' :: rest => do
    let (d, rest) ← fieldsFrom place r.fields 0 r.draft rest
    let (value, rest) ← r.close place d rest
    let rest ← closeArray rest
    .ok (value, rest)
  | cs => .error (otherKind place cs)

end Record

end BytecodeLint.Json
