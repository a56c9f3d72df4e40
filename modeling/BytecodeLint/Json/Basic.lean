/-!
# JSON values and their text

Values are written over several lines with an indent of two blanks per level. Empty arrays and
objects stay on one line. In texts the quotation mark, the backslash and the control characters
below U+0020 are escaped, with the short form where there is one; all else is written as it is.
-/

namespace BytecodeLint

/-- A JSON value. Numbers are natural, and objects keep the order of their members. -/
inductive Json where
  | bool (value : Bool)
  | number (value : Nat)
  | text (value : String)
  | array (items : List Json)
  | object (members : List (String × Json))

namespace Json

/-- The two lower-case hexadecimal digits of a number below 256. -/
def hexPair (n : Nat) : List Char := [Nat.digitChar (n / 16), Nat.digitChar (n % 16)]

/-- A character as it stands between quotation marks. -/
def escapeChar (c : Char) : List Char :=
  if c = '"' then ['\\', '"']
  else if c = '\\' then ['\\', '\\']
  else if c = '\n' then ['\\', 'n']
  else if c = '\t' then ['\\', 't']
  else if c = '\r' then ['\\', 'r']
  else if c = '\x08' then ['\\', 'b']
  else if c = '\x0c' then ['\\', 'f']
  else if c.toNat < 32 then ['\\', 'u', '0', '0'] ++ hexPair c.toNat
  else [c]

def quote (cs : List Char) : List Char := '"' :: cs.flatMap escapeChar ++ ['"']

def digits (n : Nat) : List Char := Nat.toDigits 10 n

/-- The start of a line at a level. -/
def newLine (level : Nat) : List Char := '\n' :: List.replicate (2 * level) ' '

def boolText (b : Bool) : List Char := (if b then "true" else "false").toList

/-- The text between a member's key and its value. -/
def colon : List Char := [':', ' ']

mutual

/-- The text of a value that starts at a level. -/
def render (level : Nat) : Json → List Char
  | .bool b => boolText b
  | .number n => digits n
  | .text s => quote s.toList
  | .array [] => ['[', ']']
  | .array (item :: items) =>
    '[' :: newLine (level + 1) ++ render (level + 1) item ++ renderItems (level + 1) items ++
      newLine level ++ [']']
  | .object [] => ['\x7b', '\x7d']
  | .object ((key, value) :: members) =>
    '\x7b' :: newLine (level + 1) ++ quote key.toList ++ colon ++ render (level + 1) value ++
      renderMembers (level + 1) members ++ newLine level ++ ['\x7d']

/-- The text of the items after the first. -/
def renderItems (level : Nat) : List Json → List Char
  | [] => []
  | item :: items => ',' :: newLine level ++ render level item ++ renderItems level items

/-- The text of the members after the first. -/
def renderMembers (level : Nat) : List (String × Json) → List Char
  | [] => []
  | (key, value) :: members =>
    ',' :: newLine level ++ quote key.toList ++ colon ++ render level value ++
      renderMembers level members

end

/-- The text of a document: the value and a line feed. -/
def document (v : Json) : String := String.ofList (render 0 v ++ ['\n'])

end Json

end BytecodeLint
