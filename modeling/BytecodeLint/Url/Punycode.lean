import BytecodeLint.Text.Blank

/-!
# Punycode

Host labels outside ASCII are written in ASCII: first their ASCII characters, then the others in
ascending order, each as its distance from the one before in a number system whose digits adapt to
the distances so far. Reading puts the characters back, each at the place that its distance tells.
-/

namespace BytecodeLint.Url.Punycode

/-- A digit: the letters `a` to `z`, then the figures. -/
def digitChar (d : Nat) : Char := if d < 26 then Char.ofNat (97 + d) else Char.ofNat (48 + d - 26)

/-- The least digit at a position that goes on to the next: between 1 and 26. -/
def threshold (position bias : Nat) : Nat := min 26 (max 1 (position - bias))

/-- Scales a distance down, counting the digits that it takes. -/
def scale (delta count : Nat) : Nat × Nat :=
  if 455 < delta then scale (delta / 35) (count + 36) else (delta, count)
  termination_by delta
  decreasing_by omega

/-- The bias after a distance has been written. -/
def adapt (delta points : Nat) (isFirst : Bool) : Nat :=
  let halved := if isFirst then delta / 700 else delta / 2
  let (rest, count) := scale (halved + halved / points) 0
  count + 36 * rest / (rest + 38)

def digits (bias position delta : Nat) : List Char :=
  let t := threshold position bias
  if delta < t then [digitChar delta]
  else
    digitChar (t + (delta - t) % (36 - t)) ::
      digits bias (position + 36) ((delta - t) / (36 - t))
  termination_by delta
  decreasing_by
    have hpos : 1 ≤ threshold position bias := by unfold threshold; omega
    have hle := Nat.div_le_self (delta - threshold position bias) (36 - threshold position bias)
    omega

/-! ## Writing -/

/-- What has been written, and the running numbers. -/
structure State where
  output : List Char
  delta : Nat
  bias : Nat
  handled : Nat
  deriving DecidableEq, Repr

/-- Goes over one character while the character with number `point` is being written. -/
def State.pass (basic point : Nat) (s : State) (c : Char) : State :=
  if c.toNat < point then { s with delta := s.delta + 1 }
  else if c.toNat = point then
    { output := s.output ++ digits s.bias 36 s.delta
      delta := 0
      bias := adapt s.delta (s.handled + 1) (s.handled == basic)
      handled := s.handled + 1 }
  else s

/-- Writes the characters with the given numbers, which ascend; `next` is the least number left. -/
def writePoints (label : List Char) (basic : Nat) : List Nat → Nat → State → State
  | [], _, s => s
  | point :: points, next, s =>
    let s := { s with delta := s.delta + (point - next) * (s.handled + 1) }
    let s := label.foldl (State.pass basic point) s
    writePoints label basic points (point + 1) { s with delta := s.delta + 1 }

/-- The ASCII form of a label, without its mark. -/
def encode (label : List Char) : List Char :=
  let basic := label.filter fun c => c.toNat < 128
  let points := ((label.map Char.toNat).filter fun n => 128 ≤ n).mergeSort.eraseDups
  let s := writePoints label basic.length points 128 ⟨[], 0, 72, basic.length⟩
  (if basic.isEmpty then [] else basic ++ ['-']) ++ s.output

/-! ## Reading -/

def digitValue? (c : Char) : Option Nat :=
  if 'a' ≤ c ∧ c ≤ 'z' then some (c.toNat - 97)
  else if c.isDigit then some (c.toNat - 22)
  else none

/-- Distances and the weights of digits stay below this number. -/
def limit : Nat := 4294967296

/-- Reads the digits of a distance and adds it to `total`. -/
def readDistance (bias position weight total : Nat) : List Char → Option (Nat × List Char)
  | [] => none
  | c :: rest =>
    match digitValue? c with
    | none => none
    | some d =>
      let t := threshold position bias
      let sum := total + d * weight
      if limit ≤ sum then none
      else if d < t then some (sum, rest)
      else if limit ≤ weight * (36 - t) then none
      else readDistance bias (position + 36) (weight * (36 - t)) sum rest

/-- A distance takes at least one digit. -/
theorem length_readDistance {bias position weight total sum : Nat} {cs rest : List Char}
    (h : readDistance bias position weight total cs = some (sum, rest)) :
    rest.length < cs.length := by
  induction cs generalizing position weight total with
  | nil => simp [readDistance] at h
  | cons c cs ih =>
    unfold readDistance at h
    split at h
    · cases h
    · simp only at h
      split at h
      · cases h
      · split at h
        · cases h
          simp
        · split at h
          · cases h
          · have := ih h
            simp only [List.length_cons]
            omega

/-- Reads characters into a label. `place` is where the next one goes if its number is `point`; each
time around the label adds one to the number. -/
def readPoints (label : List Char) (place point bias : Nat) (cs : List Char) :
    Option (List Char) :=
  if cs.isEmpty then some label
  else
    match _hread : readDistance bias 36 1 place cs with
    | none => none
    | some (sum, rest) =>
      let count := label.length + 1
      let next := point + sum / count
      if next.isValidChar then
        readPoints (label.insertIdx (sum % count) (Char.ofNat next)) (sum % count + 1) next
          (adapt (sum - place) count (place == 0)) rest
      else none
  termination_by cs.length
  decreasing_by exact length_readDistance _hread

/-- The label with an ASCII form, which is given without its mark. -/
def decode? (cs : List Char) : Option (List Char) :=
  match Text.splitLast '-' cs with
  | some (basic, digits) => if basic.isEmpty then none else readPoints basic 0 128 72 digits
  | none => readPoints [] 0 128 72 cs

end BytecodeLint.Url.Punycode
