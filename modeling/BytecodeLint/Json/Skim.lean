import BytecodeLint.Json.Token

/-!
# Passing over a JSON value

A value that nobody asked for is only checked for its grammar. A machine reads it character by
character, with a stack of the arrays and objects around the place. Nesting is unbounded, numbers
may have any size, and units of a pair may stand alone.
-/

namespace BytecodeLint.Json.Skim

/-- An array or object that is still open. -/
inductive Frame where
  | array
  | object
  deriving DecidableEq, Repr

/-- Where the machine stands. -/
inductive State where
  /-- A value is wanted. -/
  | value
  /-- Behind the opening bracket of an array. -/
  | firstItem
  /-- Behind the opening brace of an object. -/
  | firstKey
  /-- Behind a comma of an object. -/
  | key
  /-- Behind a key. -/
  | colon
  /-- Behind a value inside an array or object. -/
  | after
  | text (isKey : Bool)
  | escape (isKey : Bool)
  | hex (isKey : Bool) (left : Nat)
  | word (rest : List Char)
  | minus
  | zero
  | whole
  | point
  | fraction
  | exponentMark
  | exponentSign
  | exponent
  deriving DecidableEq, Repr

def State.isNumberEnd : State → Bool
  | .zero | .whole | .fraction | .exponent => true
  | _ => false

inductive Outcome where
  /-- Goes on behind the character. -/
  | next (state : State) (stack : List Frame)
  /-- The value ends with the character. -/
  | endWith
  /-- The value ended before the character. -/
  | endBefore
  | malformed
  deriving DecidableEq, Repr

/-- The value, or a container, has just ended with this character. -/
def finished (stack : List Frame) : Outcome :=
  match stack with
  | [] => .endWith
  | _ :: _ => .next .after stack

/-- A character behind a complete value. -/
def afterValue (stack : List Frame) (c : Char) : Outcome :=
  match stack with
  | [] => .endBefore
  | .array :: outer =>
    if isSpace c then .next .after stack
    else if c = ',' then .next .value stack
    else if c = ']' then finished outer
    else .malformed
  | .object :: outer =>
    if isSpace c then .next .after stack
    else if c = ',' then .next .key stack
    else if c = '\x7d' then finished outer
    else .malformed

/-- A character where a value starts. -/
def startValue (stack : List Frame) (c : Char) : Outcome :=
  if c = 'n' then .next (.word ['u', 'l', 'l']) stack
  else if c = 't' then .next (.word ['r', 'u', 'e']) stack
  else if c = 'f' then .next (.word ['a', 'l', 's', 'e']) stack
  else if c = '-' then .next .minus stack
  else if c = '0' then .next .zero stack
  else if c.isDigit then .next .whole stack
  else if c = '"' then .next (.text false) stack
  else if c = '[' then .next .firstItem (.array :: stack)
  else if c = '\x7b' then .next .firstKey (.object :: stack)
  else .malformed

/-- A character behind whole digits. -/
def afterWhole (stack : List Frame) (c : Char) : Outcome :=
  if c = '.' then .next .point stack
  else if c = 'e' ∨ c = 'E' then .next .exponentMark stack
  else afterValue stack c

/-- A text has just been closed. -/
def textClosed (isKey : Bool) (stack : List Frame) : Outcome :=
  if isKey then .next .colon stack else finished stack

/-- What a character leads to. -/
def step (state : State) (stack : List Frame) (c : Char) : Outcome :=
  match state with
  | .value => if isSpace c then .next .value stack else startValue stack c
  | .firstItem =>
    if isSpace c then .next .firstItem stack
    else if c = ']' then finished stack.tail
    else startValue stack c
  | .firstKey =>
    if isSpace c then .next .firstKey stack
    else if c = '\x7d' then finished stack.tail
    else if c = '"' then .next (.text true) stack
    else .malformed
  | .key =>
    if isSpace c then .next .key stack
    else if c = '"' then .next (.text true) stack
    else .malformed
  | .colon =>
    if isSpace c then .next .colon stack
    else if c = ':' then .next .value stack
    else .malformed
  | .after => afterValue stack c
  | .text isKey =>
    if c = '"' then textClosed isKey stack
    else if c = '\\' then .next (.escape isKey) stack
    else if c.toNat < 32 then .malformed
    else .next (.text isKey) stack
  | .escape isKey =>
    if (shortEscape? c).isSome then .next (.text isKey) stack
    else if c = 'u' then .next (.hex isKey 3) stack
    else .malformed
  | .hex isKey left =>
    if (Text.hexDigit? c).isNone then .malformed
    else
      match left with
      | 0 => .next (.text isKey) stack
      | left + 1 => .next (.hex isKey left) stack
  | .word rest =>
    match rest with
    | [w] => if c = w then finished stack else .malformed
    | w :: rest => if c = w then .next (.word rest) stack else .malformed
    | [] => .malformed
  | .minus =>
    if c = '0' then .next .zero stack
    else if c.isDigit then .next .whole stack
    else .malformed
  | .zero => if c.isDigit then .malformed else afterWhole stack c
  | .whole => if c.isDigit then .next .whole stack else afterWhole stack c
  | .point => if c.isDigit then .next .fraction stack else .malformed
  | .fraction =>
    if c.isDigit then .next .fraction stack
    else if c = 'e' ∨ c = 'E' then .next .exponentMark stack
    else afterValue stack c
  | .exponentMark =>
    if c = '+' ∨ c = '-' then .next .exponentSign stack
    else if c.isDigit then .next .exponent stack
    else .malformed
  | .exponentSign => if c.isDigit then .next .exponent stack else .malformed
  | .exponent => if c.isDigit then .next .exponent stack else afterValue stack c

/-- Whether the text ends inside the digits of an escape: four bytes have to follow its `u`. -/
def endsInEscape (state : State) (c : Char) (rest : List Char) : Bool :=
  match state with
  | .escape _ => c == 'u' && !hasBytes 4 rest
  | _ => false

/-- Runs the machine to the end of the value. -/
def run (state : State) (stack : List Frame) : List Char → Except JsonFault (List Char)
  | [] => if state.isNumberEnd && stack.isEmpty then .ok [] else .error .truncated
  | c :: rest =>
    if endsInEscape state c rest then .error .truncated
    else
      match step state stack c with
      | .next state stack => run state stack rest
      | .endWith => .ok rest
      | .endBefore => .ok (c :: rest)
      | .malformed => .error .malformed

/-- Passes over a value and returns the rest of the text. -/
def value (cs : List Char) : Except JsonFault (List Char) := run .value [] cs

end BytecodeLint.Json.Skim
