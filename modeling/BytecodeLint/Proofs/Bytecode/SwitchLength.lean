import BytecodeLint.Proofs.Bytecode.Walk
import Mathlib.Order.Bounds.Basic

/-!
# The lengths of switches

The length of a switch is computed from words that a body may set to anything. Their difference can
leave the range of a signed word in both directions, and once more when one is added to it. Here the
lengths are pinned down over the integers, and then computed a second time with words of 32 bits and
sizes of 64 bits (`Machine`), where every sum and every product is looked at before it is used.

* `tableSwitchLength_eq_ok_iff`, `lookupSwitchLength_eq_ok_iff`: when a switch has a length, and
  which one.
* `Machine.tableLength_eq`, `Machine.pairsLength_eq`: words and sizes give the same length or the
  same fault, and no size overflows.
-/
namespace BytecodeLint.Bytecode

/-! ## Over the integers -/

/-- The signed word whose four bytes start at a position, the most significant byte first. -/
def signedAt (body : Bytes) (position : Nat) : Int :=
  let byte (k : Nat) : BitVec 8 := (body[position + k]?.getD 0).toBitVec
  (byte 0 ++ byte 1 ++ byte 2 ++ byte 3).toInt

theorem toInt_append (a b c d : UInt8) :
    (a.toBitVec ++ b.toBitVec ++ c.toBitVec ++ d.toBitVec).toInt =
      Bytes.signed32 (Bytes.toNat [a, b, c, d]) := by
  have hnat : (a.toBitVec ++ b.toBitVec ++ c.toBitVec ++ d.toBitVec).toNat =
      Bytes.toNat [a, b, c, d] := by
    simp only [BitVec.toNat_append, Bytes.toNat, List.foldl_cons, List.foldl_nil,
      UInt8.toNat_toBitVec]
    rw [← Nat.shiftLeft_add_eq_or_of_lt b.toNat_lt, ← Nat.shiftLeft_add_eq_or_of_lt c.toNat_lt,
      ← Nat.shiftLeft_add_eq_or_of_lt d.toNat_lt]
    simp only [Nat.shiftLeft_eq]
    omega
  rw [BitVec.toInt_eq_toNat_cond, hnat, Bytes.signed32]
  split <;> split <;> omega

theorem toNat_four_lt (a b c d : UInt8) : Bytes.toNat [a, b, c, d] < 4294967296 := by
  have := a.toNat_lt
  have := b.toNat_lt
  have := c.toNat_lt
  have := d.toNat_lt
  simp only [Bytes.toNat, List.foldl_cons, List.foldl_nil]
  omega

theorem signedAt_of_drop {body rest : Bytes} {position : Nat} {a b c d : UInt8}
    (h : body.drop position = a :: b :: c :: d :: rest) :
    signedAt body position = Bytes.signed32 (Bytes.toNat [a, b, c, d]) := by
  simp only [← toInt_append, signedAt, getElem?_of_drop h]
  rfl

theorem exists_four {body : Bytes} {position : Nat} (h : position + 4 ≤ body.length) :
    ∃ a b c d rest, body.drop position = a :: b :: c :: d :: rest := by
  have hlength : (body.drop position).length = body.length - position := List.length_drop
  match hword : body.drop position, hlength with
  | [], hlength | [_], hlength | [_, _], hlength | [_, _, _], hlength =>
    simp only [List.length_cons, List.length_nil] at hlength
    omega
  | a :: b :: c :: d :: rest, _ => exact ⟨a, b, c, d, rest, rfl⟩

/-- A word can be read where its four bytes lie inside the body. -/
theorem wordAt_drop (body : Bytes) (offset position : Nat) :
    wordAt (body.drop offset) position =
      if offset + position + 4 ≤ body.length then .ok (signedAt body (offset + position))
      else .error .wordOutOfBounds := by
  rw [wordAt, List.drop_drop]
  split
  · rename_i a b c d rest hword
    have hlength := length_of_drop hword
    simp only [List.length_cons] at hlength
    rw [if_pos (by omega), signedAt_of_drop hword]
  · rename_i hshort
    rw [if_neg]
    intro hinside
    obtain ⟨a, b, c, d, rest, hword⟩ := exists_four hinside
    exact hshort a b c d rest hword

/-- The padding is the least number of bytes that leads to a multiple of four. -/
theorem isLeast_padding (offset : Nat) : IsLeast {p | 4 ∣ offset + 1 + p} (padding offset) := by
  unfold padding
  constructor
  · simp only [Set.mem_ofPred_eq]
    omega
  · intro p hp
    simp only [Set.mem_ofPred_eq] at hp
    omega

theorem tableSwitchLength_eq_ok_iff {body : Bytes} {offset n : Nat} (low high : Int)
    (hlow : signedAt body (offset + 1 + padding offset + 4) = low)
    (hhigh : signedAt body (offset + 1 + padding offset + 8) = high) :
    tableSwitchLength offset (body.drop offset) = .ok n ↔
      offset + 1 + padding offset + 12 ≤ body.length ∧
        0 ≤ high - low + 1 ∧ high - low + 1 ≤ 2147483647 ∧
        (n : Int) = 1 + padding offset + 12 + 4 * (high - low + 1) := by
  have hlowAt : offset + (1 + padding offset + 4) = offset + 1 + padding offset + 4 := by omega
  have hhighAt : offset + (1 + padding offset + 8) = offset + 1 + padding offset + 8 := by omega
  simp only [tableSwitchLength, wordAt_drop, hlowAt, hhighAt, hlow, hhigh]
  by_cases hinside : offset + 1 + padding offset + 12 ≤ body.length
  · rw [if_pos (by omega), if_pos (by omega)]
    simp only [bind, Except.bind]
    split
    · rw [Except.ok.injEq]
      omega
    · simp only [reduceCtorEq, false_iff]
      omega
  · have houtside : ¬ offset + 1 + padding offset + 8 + 4 ≤ body.length := by omega
    rw [if_neg houtside]
    split <;> simp [bind, Except.bind, hinside]

theorem lookupSwitchLength_eq_ok_iff {body : Bytes} {offset n : Nat} (pairs : Int)
    (hpairs : signedAt body (offset + 1 + padding offset + 4) = pairs) :
    lookupSwitchLength offset (body.drop offset) = .ok n ↔
      offset + 1 + padding offset + 8 ≤ body.length ∧ 0 ≤ pairs ∧
        (n : Int) = 1 + padding offset + 8 + 8 * pairs := by
  have hpairsAt : offset + (1 + padding offset + 4) = offset + 1 + padding offset + 4 := by omega
  simp only [lookupSwitchLength, wordAt_drop, hpairsAt, hpairs]
  by_cases hinside : offset + 1 + padding offset + 8 ≤ body.length
  · rw [if_pos (by omega)]
    simp only [bind, Except.bind]
    split
    · rw [Except.ok.injEq]
      omega
    · simp only [reduceCtorEq, false_iff]
      omega
  · rw [if_neg (by omega)]
    simp [bind, Except.bind, hinside]

/-! ## With words and sizes -/

namespace Machine

/-- How a computation with words and sizes ends early: a size is too large, or the switch is
refused. -/
inductive Trap where
  | overflow
  | refused (fault : LengthFault)
  deriving DecidableEq, Repr

/-- A size, unless it is too large. -/
def size (n : Nat) : Except Trap UInt64 :=
  if n < 18446744073709551616 then .ok (UInt64.ofNat n) else .error .overflow

def add (a b : UInt64) : Except Trap UInt64 := size (a.toNat + b.toNat)

def sub (a b : UInt64) : Except Trap UInt64 :=
  if b.toNat ≤ a.toNat then size (a.toNat - b.toNat) else .error .overflow

def mul (a b : UInt64) : Except Trap UInt64 := size (a.toNat * b.toNat)

/-- A signed word, if the number is in its range. -/
def word? (n : Int) : Option Int32 :=
  if -2147483648 ≤ n ∧ n ≤ 2147483647 then some (Int32.ofInt n) else none

def sub? (a b : Int32) : Option Int32 := word? (a.toInt - b.toInt)

def add? (a b : Int32) : Option Int32 := word? (a.toInt + b.toInt)

/-- The signed word at a position. -/
def wordFrom (body : Bytes) (position : UInt64) : Except Trap Int32 := do
  let stop ← add position 4
  if stop.toNat ≤ body.length then
    .ok (UInt32.ofNat (Bytes.toNat ((body.drop position.toNat).take 4))).toInt32
  else .error (.refused .wordOutOfBounds)

/-- The padding bytes after a switch opcode at an offset. -/
def gapAt (offset : UInt64) : Except Trap UInt64 := do
  let next ← add offset 1
  let rest ← sub 4 (next % 4)
  .ok (rest % 4)

/-- The number of jumps from a low to a high word. -/
def jumps? (low high : Int32) : Option Int32 := do
  let span ← sub? high low
  let count ← add? span 1
  if count < 0 then none else some count

/-- The length of a `tableswitch` at an offset. -/
def tableLength (body : Bytes) (offset : UInt64) : Except Trap UInt64 := do
  let gap ← gapAt offset
  let base ← add (← add offset 1) gap
  let low ← wordFrom body (← add base 4)
  let high ← wordFrom body (← add base 8)
  match jumps? low high with
  | none => .error (.refused .badTableRange)
  | some count => do
    let front ← add (← add 1 gap) 12
    add front (← mul count.toInt64.toUInt64 4)

/-- The length of a `lookupswitch` at an offset. -/
def pairsLength (body : Bytes) (offset : UInt64) : Except Trap UInt64 := do
  let gap ← gapAt offset
  let base ← add (← add offset 1) gap
  let pairs ← wordFrom body (← add base 4)
  if pairs < 0 then .error (.refused .badPairCount)
  else do
    let front ← add (← add 1 gap) 8
    add front (← mul pairs.toInt64.toUInt64 8)

theorem exists_size {n : Nat} (h : n < 18446744073709551616) :
    ∃ s, size n = .ok s ∧ s.toNat = n :=
  ⟨_, if_pos h, UInt64.toNat_ofNat_of_lt' h⟩

theorem toInt_of_word? {n : Int} {w : Int32} (h : word? n = some w) : w.toInt = n := by
  unfold word? at h
  split at h
  · cases h
    exact Int32.toInt_ofInt_of_le (by omega) (by omega)
  · cases h

theorem word?_eq_none_iff {n : Int} : word? n = none ↔ n < -2147483648 ∨ 2147483647 < n := by
  unfold word?
  split
  · simp only [reduceCtorEq, false_iff]
    omega
  · simp only [true_iff]
    omega

theorem toNat_extended {w : Int32} (h : 0 ≤ w.toInt) :
    (w.toInt64.toUInt64.toNat : Int) = w.toInt := by
  have hlt := w.toInt64.toUInt64.toNat_lt
  have hcond : w.toInt64.toInt = if 2 * w.toInt64.toUInt64.toNat < 2 ^ 64
      then (w.toInt64.toUInt64.toNat : Int)
      else (w.toInt64.toUInt64.toNat : Int) - ((2 ^ 64 : Nat) : Int) :=
    BitVec.toInt_eq_toNat_cond w.toInt64.toBitVec
  rw [Int32.toInt_toInt64] at hcond
  split at hcond <;> omega

/-- The two steps that are checked, and the sign, leave the numbers of jumps that fit. -/
theorem jumps?_cases (low high : Int32) :
    (jumps? low high = none ∧ ¬ (0 ≤ high.toInt - low.toInt + 1 ∧
      high.toInt - low.toInt + 1 < 2147483648)) ∨
    ∃ count, jumps? low high = some count ∧ count.toInt = high.toInt - low.toInt + 1 ∧
      0 ≤ count.toInt ∧ count.toInt < 2147483648 := by
  have hone : (1 : Int32).toInt = 1 := rfl
  unfold jumps? sub? add?
  cases hspan : word? (high.toInt - low.toInt) with
  | none =>
    have hrange := word?_eq_none_iff.1 hspan
    exact .inl ⟨rfl, by omega⟩
  | some span =>
    have hspan := toInt_of_word? hspan
    simp only [Option.bind_eq_bind, Option.bind_some, hone, hspan]
    cases hcount : word? (high.toInt - low.toInt + 1) with
    | none =>
      have hrange := word?_eq_none_iff.1 hcount
      exact .inl ⟨rfl, by omega⟩
    | some count =>
      have hcount := toInt_of_word? hcount
      have hlt := count.toInt_lt
      by_cases hsign : count < 0
      · have hneg : count.toInt < 0 := Int32.lt_iff_toInt_lt.1 hsign
        exact .inl ⟨if_pos hsign, by omega⟩
      · have hneg : ¬ count.toInt < 0 := fun h => hsign (Int32.lt_iff_toInt_lt.2 h)
        exact .inr ⟨count, if_neg hsign, hcount, by omega, by omega⟩

/-- The word at a position, in both computations. -/
theorem wordFrom_cases (body : Bytes) (position : UInt64) (offset k : Nat)
    (hposition : position.toNat = offset + k) (hlt : offset + k < 17179869184) :
    (∃ fault, wordFrom body position = .error (.refused fault) ∧
      wordAt (body.drop offset) k = .error fault) ∨
    ∃ w, wordFrom body position = .ok w ∧ wordAt (body.drop offset) k = .ok w.toInt := by
  obtain ⟨stop, hstop, hnat⟩ := exists_size (n := position.toNat + 4) (by omega)
  have hadd : add position 4 = .ok stop := hstop
  rw [hposition] at hnat
  rw [wordAt_drop]
  simp only [wordFrom, hadd, hnat, hposition, bind, Except.bind]
  split
  · rename_i hinside
    obtain ⟨a, b, c, d, rest, hword⟩ := exists_four hinside
    refine .inr ⟨_, rfl, ?_⟩
    have htake : (a :: b :: c :: d :: rest).take 4 = [a, b, c, d] := rfl
    rw [signedAt_of_drop hword, ← signed32_toUInt32, hword, htake, UInt32.toUInt32_toInt32,
      UInt32.toNat_ofNat_of_lt' (toNat_four_lt a b c d)]
  · exact .inl ⟨_, rfl, rfl⟩

/-- Where the operands of a switch start. -/
theorem exists_base (offset : UInt64) (h : offset.toNat < 4294967296) :
    ∃ gap next base, gapAt offset = .ok gap ∧ add offset 1 = .ok next ∧ add next gap = .ok base ∧
      gap.toNat = padding offset.toNat ∧ base.toNat = offset.toNat + 1 + padding offset.toNat := by
  obtain ⟨next, hnext, hnat⟩ := exists_size (n := offset.toNat + 1) (by omega)
  have hadd : add offset 1 = .ok next := hnext
  have hfour : (4 : UInt64).toNat = 4 := rfl
  have hmod : (next % 4).toNat = (offset.toNat + 1) % 4 := by rw [UInt64.toNat_mod, hnat, hfour]
  obtain ⟨rest, hrest, hrestNat⟩ := exists_size (n := 4 - (next % 4).toNat) (by omega)
  have hsub : sub 4 (next % 4) = .ok rest := by
    rw [sub, if_pos (by omega), hfour, hrest]
  have hgap : (rest % 4).toNat = padding offset.toNat := by
    rw [UInt64.toNat_mod, hrestNat, hmod, hfour, padding]
  obtain ⟨base, hbase, hbaseNat⟩ :=
    exists_size (n := next.toNat + (rest % 4).toNat) (by rw [hgap, padding]; omega)
  refine ⟨rest % 4, next, base, ?_, hadd, hbase, hgap, ?_⟩
  · simp only [gapAt, hadd, hsub, bind, Except.bind]
  · rw [hbaseNat, hgap, hnat]

/-- The size of a front and of items behind it. -/
theorem exists_total {gap : UInt64} {offset : Nat} (hgap : gap.toNat = padding offset)
    (front item : UInt64) (hfront : front.toNat < 256) (hitem : item.toNat < 256) (count : Int32)
    (hcount : 0 ≤ count.toInt) :
    ∃ first before items total, add 1 gap = .ok first ∧ add first front = .ok before ∧
      mul count.toInt64.toUInt64 item = .ok items ∧ add before items = .ok total ∧
      total.toNat = 1 + padding offset + front.toNat + item.toNat * count.toInt.toNat := by
  have hpadding : padding offset < 4 := Nat.mod_lt _ (by decide)
  have hlt := count.toInt_lt
  have hcountNat := toNat_extended hcount
  have hitems : count.toInt64.toUInt64.toNat * item.toNat < 2147483648 * 256 :=
    Nat.mul_lt_mul_of_lt_of_lt (by omega) hitem
  obtain ⟨first, hfirst, hfirstNat⟩ := exists_size (n := 1 + gap.toNat) (by omega)
  obtain ⟨before, hbefore, hbeforeNat⟩ := exists_size (n := first.toNat + front.toNat) (by omega)
  obtain ⟨items, hmul, hitemsNat⟩ :=
    exists_size (n := count.toInt64.toUInt64.toNat * item.toNat) (by omega)
  obtain ⟨total, htotal, htotalNat⟩ := exists_size (n := before.toNat + items.toNat) (by omega)
  refine ⟨first, before, items, total, hfirst, hbefore, hmul, htotal, ?_⟩
  have hcountToNat : count.toInt64.toUInt64.toNat = count.toInt.toNat := by omega
  rw [htotalNat, hbeforeNat, hfirstNat, hitemsNat, hgap, hcountToNat, Nat.mul_comm item.toNat]

/-- **Words and sizes are wide enough for a `tableswitch`.** -/
theorem tableLength_eq {body : Bytes} (hsize : body.length < 4294967296) {offset : UInt64}
    (hoffset : offset.toNat < body.length) :
    (tableLength body offset).map UInt64.toNat =
      (tableSwitchLength offset.toNat (body.drop offset.toNat)).mapError .refused := by
  obtain ⟨gap, next, base, hgap, hnext, hbase, hgapNat, hbaseNat⟩ :=
    exists_base offset (by omega)
  have hpadding : padding offset.toNat < 4 := Nat.mod_lt _ (by decide)
  obtain ⟨lowAt, hlowAt, hlowNat⟩ := exists_size (n := base.toNat + 4) (by omega)
  obtain ⟨highAt, hhighAt, hhighNat⟩ := exists_size (n := base.toNat + 8) (by omega)
  have hlowAdd : add base 4 = .ok lowAt := hlowAt
  have hhighAdd : add base 8 = .ok highAt := hhighAt
  unfold tableLength tableSwitchLength
  simp only [hgap, hnext, hbase, hlowAdd, hhighAdd, bind, Except.bind]
  rcases wordFrom_cases body lowAt offset.toNat (1 + padding offset.toNat + 4)
      (by omega) (by omega) with
    ⟨fault, hlow, hlow'⟩ | ⟨low, hlow, hlow'⟩
  · rw [hlow, hlow']
    rfl
  rcases wordFrom_cases body highAt offset.toNat (1 + padding offset.toNat + 8)
      (by omega) (by omega) with
    ⟨fault, hhigh, hhigh'⟩ | ⟨high, hhigh, hhigh'⟩
  · rw [hlow, hlow', hhigh, hhigh']
    rfl
  simp only [hlow, hlow', hhigh, hhigh']
  rcases jumps?_cases low high with ⟨hnone, hrange⟩ | ⟨count, hsome, hcount, hnonneg, hlt⟩
  · rw [hnone, if_neg hrange]
    rfl
  · obtain ⟨first, before, items, total, hfirst, hbefore, hmul, htotal, htotalNat⟩ :=
      exists_total hgapNat 12 4 (by decide) (by decide) count hnonneg
    rw [if_pos (by omega), ← hcount]
    simp only [hsome, hfirst, hbefore, hmul, htotal, Except.map, htotalNat, mapError_ok]
    rfl

theorem pairsLength_eq {body : Bytes} (hsize : body.length < 4294967296) {offset : UInt64}
    (hoffset : offset.toNat < body.length) :
    (pairsLength body offset).map UInt64.toNat =
      (lookupSwitchLength offset.toNat (body.drop offset.toNat)).mapError .refused := by
  obtain ⟨gap, next, base, hgap, hnext, hbase, hgapNat, hbaseNat⟩ :=
    exists_base offset (by omega)
  have hpadding : padding offset.toNat < 4 := Nat.mod_lt _ (by decide)
  obtain ⟨pairsAt, hpairsAt, hpairsNat⟩ := exists_size (n := base.toNat + 4) (by omega)
  have hpairsAdd : add base 4 = .ok pairsAt := hpairsAt
  unfold pairsLength lookupSwitchLength
  simp only [hgap, hnext, hbase, hpairsAdd, bind, Except.bind]
  rcases wordFrom_cases body pairsAt offset.toNat (1 + padding offset.toNat + 4)
      (by omega) (by omega) with
    ⟨fault, hpairs, hpairs'⟩ | ⟨pairs, hpairs, hpairs'⟩
  · rw [hpairs, hpairs']
    rfl
  simp only [hpairs, hpairs']
  by_cases hsign : pairs < 0
  · have hneg : pairs.toInt < 0 := Int32.lt_iff_toInt_lt.1 hsign
    rw [if_pos hsign, if_neg (by omega)]
    rfl
  · have hneg : ¬ pairs.toInt < 0 := fun h => hsign (Int32.lt_iff_toInt_lt.2 h)
    obtain ⟨first, before, items, total, hfirst, hbefore, hmul, htotal, htotalNat⟩ :=
      exists_total hgapNat 8 8 (by decide) (by decide) pairs (by omega)
    rw [if_neg hsign, if_pos (by omega)]
    simp only [hfirst, hbefore, hmul, htotal, Except.map, htotalNat, mapError_ok]
    rfl

end Machine

/-- **The lengths of switches are exact.** Let `p` be the least number of bytes after which the
operands of a switch at an offset start at a multiple of four. A `tableswitch` has a length exactly
when its three words lie inside the body and the number of jumps, computed over the integers, is
neither negative nor above the greatest signed word; a `lookupswitch`, exactly when its two words
lie inside and the number of pairs is not negative. The lengths are those of the padding, the words
and the items. With signed words and sizes of 64 bits, every sum and product looked at, lengths and
faults are the same, so no size overflows. -/
theorem switch_lengths_exact {body : Bytes} (hsize : body.length < 4294967296) {offset : Nat}
    (hoffset : offset < body.length) :
    ∃ p, IsLeast {p | 4 ∣ offset + 1 + p} p ∧
      (let low := signedAt body (offset + 1 + p + 4)
       let high := signedAt body (offset + 1 + p + 8)
       ((∃ n, tableSwitchLength offset (body.drop offset) = .ok n) ↔
          offset + 1 + p + 12 ≤ body.length ∧
            0 ≤ high - low + 1 ∧ high - low + 1 ≤ 2147483647) ∧
        ∀ n, tableSwitchLength offset (body.drop offset) = .ok n →
          (n : Int) = 1 + p + 12 + 4 * (high - low + 1)) ∧
      (let pairs := signedAt body (offset + 1 + p + 4)
       ((∃ n, lookupSwitchLength offset (body.drop offset) = .ok n) ↔
          offset + 1 + p + 8 ≤ body.length ∧ 0 ≤ pairs) ∧
        ∀ n, lookupSwitchLength offset (body.drop offset) = .ok n →
          (n : Int) = 1 + p + 8 + 8 * pairs) ∧
      (Machine.tableLength body (UInt64.ofNat offset)).map UInt64.toNat =
        (tableSwitchLength offset (body.drop offset)).mapError .refused ∧
      (Machine.pairsLength body (UInt64.ofNat offset)).map UInt64.toNat =
        (lookupSwitchLength offset (body.drop offset)).mapError .refused := by
  have hword : (UInt64.ofNat offset).toNat = offset :=
    UInt64.toNat_ofNat_of_lt' (Nat.lt_trans hoffset (Nat.lt_trans hsize (by decide)))
  refine ⟨padding offset, isLeast_padding offset, ?_, ?_, ?_, ?_⟩
  · intro low high
    have hiff (n : Nat) := tableSwitchLength_eq_ok_iff (n := n) low high rfl rfl
    refine ⟨⟨?_, ?_⟩, fun n hn => ((hiff n).1 hn).2.2.2⟩
    · rintro ⟨n, hn⟩
      obtain ⟨hinside, hlow, hhigh, -⟩ := (hiff n).1 hn
      exact ⟨hinside, hlow, hhigh⟩
    · rintro ⟨hinside, hlow, hhigh⟩
      exact ⟨1 + padding offset + 12 + 4 * (high - low + 1).toNat,
        (hiff _).2 ⟨hinside, hlow, hhigh, by omega⟩⟩
  · intro pairs
    have hiff (n : Nat) := lookupSwitchLength_eq_ok_iff (n := n) pairs rfl
    refine ⟨⟨?_, ?_⟩, fun n hn => ((hiff n).1 hn).2.2⟩
    · rintro ⟨n, hn⟩
      obtain ⟨hinside, hpairs, -⟩ := (hiff n).1 hn
      exact ⟨hinside, hpairs⟩
    · rintro ⟨hinside, hpairs⟩
      exact ⟨1 + padding offset + 8 + 8 * pairs.toNat,
        (hiff _).2 ⟨hinside, hpairs, by omega⟩⟩
  · have heq := Machine.tableLength_eq hsize (hword ▸ hoffset)
    rwa [hword] at heq
  · have heq := Machine.pairsLength_eq hsize (hword ▸ hoffset)
    rwa [hword] at heq

/-- A body with a `tableswitch` at offset 1: two bytes of padding, the default, then the words
`low` and `high`. -/
def lateTable (low high : Bytes) : Bytes := [0x00, 0xaa, 0, 0, 0, 0, 0, 0] ++ low ++ high

/-- From the least word up to minus two there are as many jumps as a word can count; up to the
greatest word there are too many. -/
theorem lateTable_lengths :
    (lateTable [0x80, 0, 0, 0] [0xff, 0xff, 0xff, 0xfe]).length < 4294967296 ∧
      1 < (lateTable [0x80, 0, 0, 0] [0xff, 0xff, 0xff, 0xfe]).length ∧
      tableSwitchLength 1 ((lateTable [0x80, 0, 0, 0] [0xff, 0xff, 0xff, 0xfe]).drop 1) =
        .ok 8589934603 ∧
      ∀ n, tableSwitchLength 1 ((lateTable [0x80, 0, 0, 0] [0x7f, 0xff, 0xff, 0xff]).drop 1) ≠
        .ok n := by
  refine ⟨by decide, by decide, ?_, ?_⟩
  · obtain ⟨p, hp, ⟨hiff, hvalue⟩, -⟩ := switch_lengths_exact
      (show (lateTable [0x80, 0, 0, 0] [0xff, 0xff, 0xff, 0xfe]).length < 4294967296 by decide)
      (show 1 < _ by decide)
    obtain rfl : p = 2 := hp.unique (isLeast_padding 1)
    obtain ⟨n, hn⟩ := hiff.2 (by decide)
    have hlength : (n : Int) = (8589934603 : Nat) := (hvalue n hn).trans (by decide)
    rw [hn, Int.ofNat_inj.1 hlength]
  · obtain ⟨p, hp, ⟨hiff, -⟩, -⟩ := switch_lengths_exact
      (show (lateTable [0x80, 0, 0, 0] [0x7f, 0xff, 0xff, 0xff]).length < 4294967296 by decide)
      (show 1 < _ by decide)
    obtain rfl : p = 2 := hp.unique (isLeast_padding 1)
    exact fun n hn => absurd (hiff.1 ⟨n, hn⟩) (by decide)

end BytecodeLint.Bytecode
