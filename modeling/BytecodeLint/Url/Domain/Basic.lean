import BytecodeLint.Url.Domain.Label
import BytecodeLint.Url.Percent
import BytecodeLint.Url.Punycode

/-!
# Domains

A domain is labels with dots between them. Its ASCII form is found in three steps: each character is
mapped and the text composed, each label that is in ASCII form already is read, and each label
outside ASCII is written in ASCII behind the mark `xn--`. Labels that are not fit for a domain are
refused, and so is an ASCII form that stands for a label in ASCII.
-/

namespace BytecodeLint.Url.Domain

/-- The mark of a label in ASCII form. -/
def mark : List Char := "xn--".toList

/-- The longest ASCII form that is read, without its mark. -/
def maxRead : Nat := 2000

/-- The longest label that is written in ASCII form. -/
def maxWritten : Nat := 1000

/-- The characters of a domain, mapped and composed. -/
def mapped? (cs : List Char) : Option (List Char) := do
  let targets ← (numbers cs).mapM mapChar?
  some ((Unicode.composed targets.flatten).map Char.ofNat)

/-- The label that an ASCII form stands for. Any other label stands for itself. -/
def reveal? (label : List Char) : Option (List Char) :=
  if mark.isPrefixOf label then
    let form := label.drop mark.length
    if form.all isAscii && form.length ≤ maxRead then
      (Punycode.decode? form).filter fun shown => !shown.all isAscii
    else none
  else some label

def write? (label : List Char) : Option (List Char) :=
  if label.all isAscii then some label
  else if label.length ≤ maxWritten then some (mark ++ Punycode.encode label)
  else none

def isDomain (labels : List (List Char)) : Bool :=
  labels.all isFit && (!labels.any hasRight || labels.all isDirected)

def toAscii? (cs : List Char) : Option (List Char) := do
  let labels ← (Text.splitWhere (fun c => c == '.') (← mapped? cs)).mapM reveal?
  if isDomain labels then some (Text.joinWith ['.'] (← labels.mapM write?)) else none

end BytecodeLint.Url.Domain
