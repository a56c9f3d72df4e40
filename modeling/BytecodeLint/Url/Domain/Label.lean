import BytecodeLint.Unicode.Composition
import BytecodeLint.Unicode.Direction
import BytecodeLint.Unicode.Joining
import BytecodeLint.Url.Domain.Mapping

/-!
# Labels of a domain

A label is what stands between two dots. It is fit for a domain if

* it holds permitted characters only, in composed form,
* it does not start with a combining mark,
* the invisible joiners stand where they change the shape of letters: behind a virama, or, for the
  one that separates, between letters that would join.

In a domain with a character that runs from right to left, each label also has to run in one
direction.
-/

namespace BytecodeLint.Url.Domain

/-- The numbers of the characters of a label. -/
def numbers (label : List Char) : List Nat := label.map Char.toNat

/-- Whether mapping and composing leave a label as it is. -/
def isSettled (label : List Char) : Bool :=
  (numbers label).all isPermitted && Unicode.composed (numbers label) == numbers label

def startsWithMark (label : List Char) : Bool := label.head?.any fun c => Unicode.isMark c.toNat

/-! ## Joiners -/

/-- The invisible character that separates letters. -/
def nonJoiner : Char := Char.ofNat 0x200c

/-- The invisible character that joins letters. -/
def joiner : Char := Char.ofNat 0x200d

/-- Whether the first character that is not transparent has a property. -/
def firstShown (p : Nat → Bool) (cs : List Char) : Bool :=
  (cs.dropWhile fun c => Unicode.joining c.toNat == .transparent).head?.any fun c => p c.toNat

/-- Whether a character may stand between two texts, of which the first is given in reverse. -/
def joinerFits (before : List Char) (c : Char) (after : List Char) : Bool :=
  if c = joiner ∨ c = nonJoiner then
    before.head?.any (fun c => Unicode.isVirama c.toNat) ||
      (c == nonJoiner && firstShown Unicode.joinsNext before &&
        firstShown Unicode.joinsPrevious after)
  else true

/-- Whether all joiners stand where they may; the text before is given in reverse. -/
def joinersFit (before : List Char) : List Char → Bool
  | [] => true
  | c :: after => joinerFits before c after && joinersFit (c :: before) after

/-- Whether a label is fit for a domain. -/
def isFit (label : List Char) : Bool :=
  isSettled label && !startsWithMark label && joinersFit [] label

/-! ## Direction -/

def directions (label : List Char) : List Unicode.Direction :=
  label.map fun c => Unicode.direction c.toNat

def hasRight (label : List Char) : Bool :=
  (directions label).any fun d => d == .right || d == .arabicNumber

/-- The direction of the last character that is not a mark. -/
def lastDirection? (ds : List Unicode.Direction) : Option Unicode.Direction :=
  (ds.reverse.dropWhile fun d => d == .mark).head?

/-- Whether directions run from left to right. -/
def runsLeft (ds : List Unicode.Direction) : Bool :=
  ds.all (fun d => d != .right && d != .arabicNumber) &&
    (lastDirection? ds).any fun d => d == .left || d == .number

/-- Whether directions run from right to left. The two kinds of numbers do not go together. -/
def runsRight (ds : List Unicode.Direction) : Bool :=
  ds.all (fun d => d != .left) && !(ds.contains .number && ds.contains .arabicNumber) &&
    (lastDirection? ds).any fun d => d == .right || d == .number || d == .arabicNumber

/-- Whether a label runs in one direction, which its first character tells. -/
def isDirected (label : List Char) : Bool :=
  match (directions label).head? with
  | none => true
  | some .left => runsLeft (directions label)
  | some .right => runsRight (directions label)
  | some _ => false

end BytecodeLint.Url.Domain
