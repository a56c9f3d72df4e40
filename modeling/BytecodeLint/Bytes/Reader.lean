/-!
# Reading binary data

A `Reader` takes a value from the front of a byte sequence and leaves the rest. It fails when the
bytes run out. Numbers are delivered as natural numbers. They are big-endian (`beU16` and `beU32`
write them), but for the ones whose readers say otherwise.
-/

namespace BytecodeLint

/-- A finite sequence of bytes. -/
abbrev Bytes := List UInt8

namespace Bytes

/-- The number that a sequence of bytes denotes, most significant byte first. -/
def toNat (bs : Bytes) : Nat := bs.foldl (fun n b => n * 256 + b.toNat) 0

def beU16 (n : Nat) : Bytes := [UInt8.ofNat (n / 256), UInt8.ofNat n]

def beU32 (n : Nat) : Bytes :=
  [UInt8.ofNat (n / 16777216), UInt8.ofNat (n / 65536), UInt8.ofNat (n / 256), UInt8.ofNat n]

/-- The signed number in two's complement that a 32 bit word denotes. -/
def signed32 (word : Nat) : Int :=
  if word < 2147483648 then (word : Int) else (word : Int) - 4294967296

def toByteArray (bs : Bytes) : ByteArray := ⟨bs.toArray⟩

def ofByteArray (data : ByteArray) : Bytes := data.data.toList

end Bytes

/-- Takes a value from the front of the bytes and leaves the rest, or fails. -/
abbrev Reader := StateT Bytes Option

namespace Reader

def fail {α : Type} : Reader α := fun _ => none

def take (n : Nat) : Reader Bytes := fun bs =>
  let front := bs.take n
  if front.length = n then some (front, bs.drop n) else none

def skip (n : Nat) : Reader Unit := do
  let _ ← take n

def u8 : Reader UInt8
  | [] => none
  | b :: rest => some (b, rest)

def u16 : Reader Nat
  | a :: b :: rest => some (a.toNat * 256 + b.toNat, rest)
  | _ => none

def u32 : Reader Nat
  | a :: b :: c :: d :: rest =>
    some (((a.toNat * 256 + b.toNat) * 256 + c.toNat) * 256 + d.toNat, rest)
  | _ => none

/-- The next `n` bytes as a number whose low byte comes first. -/
def little (n : Nat) : Reader Nat := do
  let bytes ← take n
  pure (Bytes.toNat bytes.reverse)

/-- The same reader `n` times over, the values in order. -/
def times {α : Type} (n : Nat) (r : Reader α) : Reader (List α) :=
  match n with
  | 0 => pure []
  | n + 1 => do
    let x ← r
    let xs ← times n r
    pure (x :: xs)

def skipTimes (n : Nat) (r : Reader Unit) : Reader Unit :=
  match n with
  | 0 => pure ()
  | n + 1 => do
    r
    skipTimes n r

/-- A table: a two byte count and then that many rows. -/
def table16 {α : Type} (row : Reader α) : Reader (List α) := do
  times (← u16) row

def skipTable16 (row : Reader Unit) : Reader Unit := do
  skipTimes (← u16) row

def skipTable8 (row : Reader Unit) : Reader Unit := do
  skipTimes (← u8).toNat row

/-- Succeeds when at least `n` bytes are left, and takes none of them. -/
def ensure (n : Nat) : Reader Unit := fun bs =>
  if (bs.take n).length = n then some ((), bs) else none

/-- Runs a reader on a whole sequence: nothing may be left over. -/
def whole {α : Type} (r : Reader α) (bs : Bytes) : Option α :=
  match r bs with
  | some (x, []) => some x
  | _ => none

end Reader

end BytecodeLint
