/-!
# Inflating deflated data

Deflated data is a sequence of blocks, each stored, or coded by fixed codes, or coded by codes that
the block brings along. A coded block is a sequence of literals and of copies from the output so
far.

Bits are taken from the low end of each byte. A code is canonical: codes of one length are
consecutive numbers, given to the symbols in ascending order, and shorter codes come first; its bits
arrive from the high end.

Data that breaks the rules is refused as soon as the bits that show it have been taken; data that
ends before its last block does is cut short. Loops are bounded by the number of bits left, of which
each round takes at least one.
-/

namespace BytecodeLint.Archive.Inflate

/-- Why data cannot be inflated: it ends too early, or it breaks the rules. -/
inductive Stop where
  | endOfData
  | broken
  deriving DecidableEq, Repr

/-- Compressed data and the number of bits already taken. -/
structure BitSource where
  data : ByteArray
  position : Nat := 0

abbrev Take := StateT BitSource (Except Stop)

def BitSource.left (s : BitSource) : Nat := 8 * s.data.size - s.position

def bit : Take Nat := fun s =>
  match s.data[s.position / 8]? with
  | some b => .ok ((b.toNat >>> (s.position % 8)) % 2, { s with position := s.position + 1 })
  | none => .error .endOfData

/-- Takes a number of `n` bits, the lowest first. -/
def bits (n : Nat) : Take Nat :=
  match n with
  | 0 => pure 0
  | n + 1 => do
    let low ← bit
    let high ← bits n
    pure (low + 2 * high)

/-- Data is refused. -/
def refuse {α : Type} : Take α := fun _ => .error .broken

/-- A canonical code: how many symbols have codes of length 1, 2, … up to the longest, and the
symbols in the order of their codes. -/
structure Code where
  counts : List Nat
  symbols : Array Nat

/-- The canonical code with the given code lengths by symbol; length zero means no code. -/
def Code.ofLengths (lengths : List Nat) : Code :=
  let indexed := lengths.zipIdx
  let ofLength (n : Nat) : List Nat :=
    indexed.filterMap fun (length, symbol) => if length = n then some symbol else none
  let longest := lengths.foldl Nat.max 0
  let groups := (List.range longest).map fun i => ofLength (i + 1)
  { counts := groups.map List.length, symbols := groups.flatten.toArray }

/-- The code values left free after all lengths, as a fraction of the longest length; `none` when
more are used than there are. -/
def Code.free? (c : Code) : Option Nat :=
  c.counts.foldlM (fun free count => if count ≤ 2 * free then some (2 * free - count) else none) 1

def Code.isEmpty (c : Code) : Bool := c.counts.isEmpty

/-- Whether every sequence of bits is the start of a code or starts with one. -/
def Code.isComplete (c : Code) : Bool := c.free? == some 0

/-- Whether literals or distances may use the code: it is complete, or no code is longer than one
bit. -/
def Code.isUsable (c : Code) : Bool :=
  c.isComplete || (c.counts.length ≤ 1 && c.free?.isSome)

/-- Takes the code of a symbol. `value` and `first` are the bits so far and the first code of this
length, `index` the number of shorter codes. -/
def symbolFrom (symbols : Array Nat) (counts : List Nat) (value first index : Nat) : Take Nat :=
  match counts with
  | [] => refuse
  | count :: longer => do
    let value := value + (← bit)
    if value < first + count then
      match symbols[index + (value - first)]? with
      | some symbol => pure symbol
      | none => refuse
    else symbolFrom symbols longer (2 * value) (2 * (first + count)) (index + count)

/-- Takes the code of a symbol. Where no symbol has a code, any bit is refused. -/
def Code.symbol (c : Code) : Take Nat :=
  symbolFrom c.symbols (if c.isEmpty then [0] else c.counts) 0 0 0

/-- Takes a code length. Where no length has a code, every bit stands for length zero. -/
def Code.length (c : Code) : Take Nat :=
  if c.isEmpty then do
    let _ ← bit
    pure 0
  else c.symbol

/-- Base and extra bits of the copy lengths, from symbol 257 on. -/
def lengthTable : Array (Nat × Nat) :=
  #[(3, 0), (4, 0), (5, 0), (6, 0), (7, 0), (8, 0), (9, 0), (10, 0), (11, 1), (13, 1), (15, 1),
    (17, 1), (19, 2), (23, 2), (27, 2), (31, 2), (35, 3), (43, 3), (51, 3), (59, 3), (67, 4),
    (83, 4), (99, 4), (115, 4), (131, 5), (163, 5), (195, 5), (227, 5), (258, 0)]

/-- Base and extra bits of the copy distances. -/
def distanceTable : Array (Nat × Nat) :=
  #[(1, 0), (2, 0), (3, 0), (4, 0), (5, 1), (7, 1), (9, 2), (13, 2), (17, 3), (25, 3), (33, 4),
    (49, 4), (65, 5), (97, 5), (129, 6), (193, 6), (257, 7), (385, 7), (513, 8), (769, 8),
    (1025, 9), (1537, 9), (2049, 10), (3073, 10), (4097, 11), (6145, 11), (8193, 12), (12289, 12),
    (16385, 13), (24577, 13)]

/-- Takes the extra bits of a table entry and adds them to its base. -/
def tableValue (table : Array (Nat × Nat)) (i : Nat) : Take Nat :=
  match table[i]? with
  | some (base, extra) => do
    let more ← bits extra
    pure (base + more)
  | none => refuse

/-- Appends `n` bytes, each a copy of the one `distance` back. -/
def copyBack (out : ByteArray) (distance n : Nat) : ByteArray :=
  match n with
  | 0 => out
  | n + 1 => copyBack (out.push (out[out.size - distance]?.getD 0)) distance n

inductive Token where
  | literal (b : UInt8)
  | copy (distance length : Nat)
  | endOfBlock
  deriving DecidableEq, Repr

def token (literals distances : Code) : Take Token := do
  let symbol ← literals.symbol
  if symbol < 256 then pure (.literal (UInt8.ofNat symbol))
  else if symbol = 256 then pure .endOfBlock
  else do
    let length ← tableValue lengthTable (symbol - 257)
    let distance ← tableValue distanceTable (← distances.symbol)
    pure (.copy distance length)

/-- The output so far and the bits behind what led to it. -/
abbrev Progress := Except Stop (ByteArray × BitSource)

def codedBlock (literals distances : Code) (fuel : Nat) (out : ByteArray) (s : BitSource) :
    Progress :=
  match fuel with
  | 0 => .error .endOfData
  | fuel + 1 =>
    match token literals distances s with
    | .error stop => .error stop
    | .ok (.literal b, s) => codedBlock literals distances fuel (out.push b) s
    | .ok (.endOfBlock, s) => .ok (out, s)
    | .ok (.copy distance length, s) =>
      if distance ≤ out.size then
        codedBlock literals distances fuel (copyBack out distance length) s
      else .error .broken

def fixedLiterals : Code :=
  .ofLengths (List.replicate 144 8 ++ List.replicate 112 9 ++ List.replicate 24 7 ++
    List.replicate 8 8)

def fixedDistances : Code := .ofLengths (List.replicate 32 5)

/-- The order in which the lengths of the code length code arrive. -/
def lengthOrder : List Nat := [16, 17, 18, 0, 8, 7, 9, 6, 10, 5, 11, 4, 12, 3, 13, 2, 14, 1, 15]

/-- Takes `n` numbers of three bits. -/
def threeBitNumbers (n : Nat) : Take (List Nat) :=
  match n with
  | 0 => pure []
  | n + 1 => do
    let x ← bits 3
    let xs ← threeBitNumbers n
    pure (x :: xs)

/-- Takes code lengths until there are `wanted`. Symbols 16 to 18 repeat the last length or zero. -/
def codeLengths (code : Code) (wanted fuel : Nat) (lengths : Array Nat) : Take (Array Nat) :=
  match fuel with
  | 0 => refuse
  | fuel + 1 =>
    if wanted ≤ lengths.size then pure lengths
    else do
      let symbol ← code.length
      if symbol < 16 then codeLengths code wanted fuel (lengths.push symbol)
      else do
        let (value?, count) ←
          if symbol = 16 then do
            pure (lengths.back?, 3 + (← bits 2))
          else if symbol = 17 then do
            pure (some 0, 3 + (← bits 3))
          else do
            pure (some 0, 11 + (← bits 7))
        match value? with
        | none => refuse
        | some value =>
          if lengths.size + count ≤ wanted then
            codeLengths code wanted fuel (lengths ++ Array.replicate count value)
          else refuse

/-- Takes the two codes that a block brings along. -/
def dynamicCodes : Take (Code × Code) := do
  let literalCount := 257 + (← bits 5)
  let distanceCount := 1 + (← bits 5)
  let lengthCount := 4 + (← bits 4)
  if 286 < literalCount ∨ 30 < distanceCount then refuse
  else do
    let given ← threeBitNumbers lengthCount
    let lengthOf (symbol : Nat) : Nat :=
      ((lengthOrder.zip given).lookup symbol).getD 0
    let code := Code.ofLengths ((List.range 19).map lengthOf)
    if !(code.isComplete || code.isEmpty) then refuse
    else do
      let wanted := literalCount + distanceCount
      let lengths ← codeLengths code wanted (wanted + 1) #[]
      let literals := Code.ofLengths (lengths.toList.take literalCount)
      let distances := Code.ofLengths (lengths.toList.drop literalCount)
      if lengths[256]?.getD 0 = 0 then refuse
      else if literals.isUsable && distances.isUsable then pure (literals, distances)
      else refuse

/-- Inflates a stored block: the rest of the byte is passed over, then come a length, its complement
and that many bytes. -/
def storedBlock (out : ByteArray) (s : BitSource) : Progress :=
  let start := (s.position + 7) / 8
  let header : Take (Nat × Nat) := do
    let length ← bits 16
    let complement ← bits 16
    pure (length, complement)
  match header { s with position := 8 * start } with
  | .error stop => .error stop
  | .ok ((length, complement), _) =>
    let stop := start + 4 + length
    if length + complement ≠ 65535 then .error .broken
    else if s.data.size < stop then .error .endOfData
    else .ok (out ++ s.data.extract (start + 4) stop, { s with position := 8 * stop })

/-- Takes the three bits at the start of a block: whether it is the last, and its type. -/
def blockHeader : Take (Bool × Nat) := do
  let last ← bit
  let type ← bits 2
  pure (last == 1, type)

/-- Inflates the body of a block of the given type. -/
def block (type : Nat) (out : ByteArray) (s : BitSource) : Progress :=
  match type with
  | 0 => storedBlock out s
  | 1 => codedBlock fixedLiterals fixedDistances (s.left + 1) out s
  | 2 =>
    match dynamicCodes s with
    | .error stop => .error stop
    | .ok ((literals, distances), s) => codedBlock literals distances (s.left + 1) out s
  | _ => .error .broken

/-- Inflates blocks up to the last. What follows it means nothing. -/
def blocks (fuel : Nat) (out : ByteArray) (s : BitSource) : Except Stop ByteArray :=
  match fuel with
  | 0 => .error .endOfData
  | fuel + 1 =>
    match blockHeader s with
    | .error stop => .error stop
    | .ok ((last, type), s) =>
      match block type out s with
      | .error stop => .error stop
      | .ok (out, s) => if last then .ok out else blocks fuel out s

def inflate (data : ByteArray) : Except Stop ByteArray :=
  blocks (8 * data.size + 1) ByteArray.empty { data := data }

end BytecodeLint.Archive.Inflate
