import BytecodeLint.Failure
import BytecodeLint.Text.Digits

/-!
# Reading JSON texts, words and numbers

A reader takes something from the front of a text and leaves the rest. Where the text cannot go on
as JSON it is malformed; where it ends too early it is truncated.

A numeral has a sign, whole digits without a leading zero, and optionally a fraction and an
exponent. A numeral that is too large for a double float counts as malformed.
-/

namespace BytecodeLint.Json

/-- The characters that mean nothing between tokens. -/
def isSpace (c : Char) : Bool := c == ' ' || c == '\n' || c == '\t' || c == '\r'

def skipSpace (cs : List Char) : List Char := cs.dropWhile isSpace

def takeWord : List Char → List Char → Except JsonFault (Unit × List Char)
  | [], cs => .ok ((), cs)
  | _ :: _, [] => .error .truncated
  | w :: word, c :: cs => if c = w then takeWord word cs else .error .malformed

/-! ## Texts -/

def byteCount (cs : List Char) : Nat := cs.foldl (fun n c => n + c.utf8Size) 0

/-- Whether at least `n` bytes are left. -/
def hasBytes (n : Nat) (cs : List Char) : Bool := n ≤ byteCount (cs.take n)

def hexQuad? (a b c d : Char) : Option Nat := do
  let a ← Text.hexDigit? a
  let b ← Text.hexDigit? b
  let c ← Text.hexDigit? c
  let d ← Text.hexDigit? d
  some (((a * 16 + b) * 16 + c) * 16 + d)

/-- Takes the four hexadecimal digits of an escape. At least four bytes have to be left. -/
def takeUnit (cs : List Char) : Except JsonFault (Nat × List Char) :=
  if hasBytes 4 cs then
    match cs with
    | a :: b :: c :: d :: rest =>
      match hexQuad? a b c d with
      | some n => .ok (n, rest)
      | none => .error .malformed
    | _ => .error .malformed
  else .error .truncated

/-- Whether a 16 bit unit is the first of a pair. -/
def isLead (n : Nat) : Bool := 0xd800 ≤ n && n < 0xdc00

/-- Whether a 16 bit unit is the second of a pair. -/
def isTrail (n : Nat) : Bool := 0xdc00 ≤ n && n < 0xe000

/-- The character of a pair of units. -/
def pairChar (lead trail : Nat) : Char :=
  Char.ofNat (0x10000 + (lead - 0xd800) * 0x400 + (trail - 0xdc00))

/-- Takes the character of an escape behind its `u`. Characters outside the basic plane are written
as a pair of escapes, and a unit of a pair never stands alone. -/
def takeUnitEscape (cs : List Char) : Except JsonFault (Char × List Char) := do
  let (n, cs) ← takeUnit cs
  if isTrail n then .error .malformed
  else if isLead n then do
    let ((), cs) ← takeWord ['\\', 'u'] cs
    let (m, cs) ← takeUnit cs
    if isTrail m then .ok (pairChar n m, cs) else .error .malformed
  else .ok (Char.ofNat n, cs)

def shortEscape? (c : Char) : Option Char :=
  match c with
  | '"' => some '"'
  | '\\' => some '\\'
  | '/' => some '/'
  | 'b' => some '\x08'
  | 'f' => some '\x0c'
  | 'n' => some '\n'
  | 'r' => some '\r'
  | 't' => some '\t'
  | _ => none

/-- Takes the character of an escape behind its backslash. -/
def takeEscape : List Char → Except JsonFault (Char × List Char)
  | [] => .error .truncated
  | c :: cs =>
    match shortEscape? c with
    | some e => .ok (e, cs)
    | none => if c = 'u' then takeUnitEscape cs else .error .malformed

theorem takeWord_length {word cs rest : List Char} (h : takeWord word cs = .ok ((), rest)) :
    rest.length ≤ cs.length := by
  induction word generalizing cs with
  | nil =>
    simp only [takeWord, Except.ok.injEq, Prod.mk.injEq, true_and] at h
    exact Nat.le_of_eq (congrArg List.length h.symm)
  | cons w word ih =>
    match cs with
    | [] => simp [takeWord] at h
    | c :: cs =>
      rw [takeWord] at h
      split at h
      · have := ih h
        simp only [List.length_cons]
        omega
      · simp at h

theorem takeUnit_length {cs rest : List Char} {n : Nat} (h : takeUnit cs = .ok (n, rest)) :
    rest.length ≤ cs.length := by
  unfold takeUnit at h
  split at h
  · split at h
    · split at h
      · simp only [Except.ok.injEq, Prod.mk.injEq] at h
        rw [← h.2]
        simp only [List.length_cons]
        omega
      · simp at h
    · simp at h
  · simp at h

theorem takeUnitEscape_length {cs rest : List Char} {c : Char}
    (h : takeUnitEscape cs = .ok (c, rest)) : rest.length ≤ cs.length := by
  unfold takeUnitEscape at h
  match h1 : takeUnit cs with
  | .error f => simp [h1, bind, Except.bind] at h
  | .ok (n, cs1) =>
    have hl1 := takeUnit_length h1
    simp only [h1, bind, Except.bind] at h
    split at h
    · simp at h
    · split at h
      · match h2 : takeWord ['\\', 'u'] cs1 with
        | .error f => simp [h2] at h
        | .ok ((), cs2) =>
          have hl2 := takeWord_length h2
          simp only [h2] at h
          match h3 : takeUnit cs2 with
          | .error f => simp [h3] at h
          | .ok (m, cs3) =>
            have hl3 := takeUnit_length h3
            simp only [h3] at h
            split at h
            · simp only [Except.ok.injEq, Prod.mk.injEq] at h
              rw [← h.2]
              omega
            · simp at h
      · simp only [Except.ok.injEq, Prod.mk.injEq] at h
        rw [← h.2]
        exact hl1

/-- An escape takes at least one character. -/
theorem takeEscape_length {cs rest : List Char} {c : Char} (h : takeEscape cs = .ok (c, rest)) :
    rest.length < cs.length := by
  match cs with
  | [] => simp [takeEscape] at h
  | e :: cs =>
    rw [takeEscape] at h
    split at h
    · simp only [Except.ok.injEq, Prod.mk.injEq] at h
      rw [← h.2]
      simp
    · split at h
      · have := takeUnitEscape_length h
        simp only [List.length_cons]
        omega
      · simp at h

/-- Takes a text behind its opening quotation mark, up to and with the closing one. -/
def takeText (cs : List Char) : Except JsonFault (List Char × List Char) :=
  match cs with
  | [] => .error .truncated
  | c :: rest =>
    if c = '"' then .ok ([], rest)
    else if c = '\\' then
      match h : takeEscape rest with
      | .error fault => .error fault
      | .ok (e, after) =>
        have := takeEscape_length h
        match takeText after with
        | .error fault => .error fault
        | .ok (chars, last) => .ok (e :: chars, last)
    else if c.toNat < 32 then .error .malformed
    else
      match takeText rest with
      | .error fault => .error fault
      | .ok (chars, last) => .ok (c :: chars, last)
  termination_by cs.length
  decreasing_by all_goals (simp only [List.length_cons]; omega)

/-! ## Numbers -/

/-- A numeral as it is written. -/
structure Numeral where
  isNegative : Bool
  whole : List Char
  fraction : Option (List Char)
  exponent : Option Int
  deriving DecidableEq, Repr

def ofDigits (ds : List Char) : Nat := ds.foldl (fun n c => 10 * n + (c.toNat - 48)) 0

/-- Takes digits, of which there has to be one. -/
def takeDigits (cs : List Char) : Except JsonFault (List Char × List Char) :=
  match cs.takeWhile Char.isDigit, cs.dropWhile Char.isDigit with
  | [], [] => .error .truncated
  | [], _ :: _ => .error .malformed
  | ds, rest => .ok (ds, rest)

/-- Takes whole digits. Nothing but a single zero starts with a zero. -/
def takeWhole (cs : List Char) : Except JsonFault (List Char × List Char) := do
  let (ds, rest) ← takeDigits cs
  match ds with
  | '0' :: _ :: _ => .error .malformed
  | _ => .ok (ds, rest)

def takeFraction : List Char → Except JsonFault (Option (List Char) × List Char)
  | '.' :: cs => do
    let (ds, rest) ← takeDigits cs
    .ok (some ds, rest)
  | cs => .ok (none, cs)

/-- Takes the digits of an exponent behind its sign. -/
def takeExponentDigits (isNegative : Bool) (cs : List Char) :
    Except JsonFault (Option Int × List Char) := do
  let (ds, rest) ← takeDigits cs
  let n : Int := ofDigits ds
  .ok (some (if isNegative then -n else n), rest)

/-- Takes the sign and the digits of an exponent. -/
def takeSignedExponent : List Char → Except JsonFault (Option Int × List Char)
  | '+' :: cs => takeExponentDigits false cs
  | '-' :: cs => takeExponentDigits true cs
  | cs => takeExponentDigits false cs

def takeExponent : List Char → Except JsonFault (Option Int × List Char)
  | 'e' :: cs => takeSignedExponent cs
  | 'E' :: cs => takeSignedExponent cs
  | cs => .ok (none, cs)

/-- Adds decimal digits to a number while it stays below `2 ^ 64`; the digits from the first one
that does not fit are left over. -/
def addDigits (n : Nat) : List Char → Nat × List Char
  | [] => (n, [])
  | d :: ds =>
    let longer := 10 * n + (d.toNat - 48)
    if longer < 1 <<< 64 then addDigits longer ds else (n, d :: ds)

/-- The nearest number with at most 53 significant bits; halfway, the one with an even last bit. -/
def roundToDouble (n : Nat) : Nat :=
  if n < 1 <<< 53 then n
  else
    let shift := n.log2 - 52
    let kept := n >>> shift
    let lost := n - kept <<< shift
    let half := 1 <<< (shift - 1)
    if half < lost ∨ (lost = half ∧ kept % 2 = 1) then (kept + 1) <<< shift else kept <<< shift

/-- The least number that rounds to infinity as a double float: halfway between the greatest double
and the next power of two. -/
def doubleLimit : Nat := (1 <<< 1024) - (1 <<< 970)

namespace Numeral

/-- The number of the digits that matter, and the power of ten by which it is multiplied. Whole
digits that do not fit into 64 bits only raise the power, such digits of the fraction do nothing. -/
def significant (n : Numeral) : Nat × Int :=
  let fraction := n.fraction.getD []
  let (whole, dropped) := addDigits 0 n.whole
  let (total, ignored) := addDigits whole fraction
  (total, n.exponent.getD 0 + dropped.length + ignored.length - fraction.length)

/-- Whether the numeral is too large for a double float. Its significant digits and the power of ten
are rounded each, then their product. -/
def isHuge (n : Numeral) : Bool :=
  let (total, power) := n.significant
  if total = 0 ∨ power < 0 then false
  else if 308 < power then true
  else doubleLimit ≤ roundToDouble total * roundToDouble (Nat.pow 10 power.toNat)

/-- The natural number below `2 ^ 32` that a numeral without sign, fraction and exponent denotes. -/
def toWord? (n : Numeral) : Option Nat :=
  if n.isNegative || n.fraction.isSome || n.exponent.isSome then none
  else if ofDigits n.whole < 4294967296 then some (ofDigits n.whole)
  else none

end Numeral

def takeNumeral (cs : List Char) : Except JsonFault (Numeral × List Char) := do
  let (isNegative, cs) := match cs with
    | '-' :: cs => (true, cs)
    | cs => (false, cs)
  let (whole, cs) ← takeWhole cs
  let (fraction, cs) ← takeFraction cs
  let (exponent, cs) ← takeExponent cs
  let n : Numeral := ⟨isNegative, whole, fraction, exponent⟩
  if n.isHuge then .error .malformed else .ok (n, cs)

end BytecodeLint.Json
