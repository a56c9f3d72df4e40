import BytecodeLint.Proofs.Bytecode.Tiling

/-!
# Decoding by positions

The decoder takes bytes from the front of what is left of a body. `walk` decodes the same body by
positions. It looks before it takes where a length is not known yet, that is for the words of a
switch and the opcode behind `wide`. All other bytes it takes without looking, and a byte that is
taken where there is none would end the walk (`Halt.stray`).

* `turn_advances`: every turn of the walk ends further on in the body.
* `lengthIn_eq`, `operationIn_eq`: positions and fronts give the same length and the same operation.
* `walk_eq_decodeFrom`: so the walk is the decoder, and never strays.
* `decode_exact`: what the decoder accepts and what it finds.
-/
namespace BytecodeLint.Bytecode

/-- How a walk ends early: the body is refused, or a byte is taken where there is none. -/
inductive Halt where
  | refused (fault : DecodeFault)
  | stray (position : Nat)
  deriving DecidableEq, Repr

/-- Takes the byte at a position without looking. -/
def byteAt (body : Bytes) (position : Nat) : Except Halt UInt8 :=
  match body[position]? with
  | some b => .ok b
  | none => .error (.stray position)

/-- Takes two bytes without looking. -/
def halfAt (body : Bytes) (position : Nat) : Except Halt Nat := do
  let hi ← byteAt body position
  let lo ← byteAt body (position + 1)
  .ok (hi.toNat * 256 + lo.toNat)

/-- Takes the four bytes of a signed word, if they are there. -/
def wordIn (body : Bytes) (position : Nat) : Except Halt Int :=
  if position + 4 ≤ body.length then do
    let a ← byteAt body position
    let b ← byteAt body (position + 1)
    let c ← byteAt body (position + 2)
    let d ← byteAt body (position + 3)
    .ok (Bytes.signed32 (Bytes.toNat [a, b, c, d]))
  else .error (.refused (.length .wordOutOfBounds))

/-- The length of the instruction at an offset. -/
def lengthIn (body : Bytes) (offset : Nat) : Except Halt Nat := do
  let opcode ← byteAt body offset
  match shape? opcode with
  | none => .error (.refused (.length (.unsupported opcode)))
  | some (.fixed n) => .ok n
  | some .tableSwitch => do
    let low ← wordIn body (offset + (1 + padding offset + 4))
    let high ← wordIn body (offset + (1 + padding offset + 8))
    if 0 ≤ high - low + 1 ∧ high - low + 1 < 2147483648 then
      .ok (1 + padding offset + 12 + 4 * (high - low + 1).toNat)
    else .error (.refused (.length .badTableRange))
  | some .lookupSwitch => do
    let pairs ← wordIn body (offset + (1 + padding offset + 4))
    if 0 ≤ pairs then .ok (1 + padding offset + 8 + 8 * pairs.toNat)
    else .error (.refused (.length .badPairCount))
  | some .wide =>
    if offset + 1 < body.length then do
      let widened ← byteAt body (offset + 1)
      .ok (if widened = iinc then 6 else 4)
    else .error (.refused (.length .missingWideOpcode))

/-- What the instruction at an offset does. -/
def operationIn (pool : ConstantPool) (body : Bytes) (offset : Nat) (opcode : UInt8) :
    Except Halt Operation :=
  match fieldUse? opcode, callKind? opcode with
  | some use, _ => do
    let index ← halfAt body (offset + 1)
    ((pool.member index).mapError fun fault => .refused (.field fault)).map (.field use)
  | none, some kind => do
    let index ← halfAt body (offset + 1)
    ((pool.member index).mapError fun fault => .refused (.method fault)).map (.invoke kind)
  | none, none =>
    if opcode = aload then (byteAt body (offset + 1)).map fun slot => .load slot.toNat
    else if 0x2a ≤ opcode ∧ opcode ≤ 0x2d then .ok (.load (opcode.toNat - 0x2a))
    else if opcode = wide then do
      let widened ← byteAt body (offset + 1)
      if widened = aload then (halfAt body (offset + 2)).map .load else .ok .other
    else .ok .other

/-- One turn of the walk: the instruction at an offset, and the offset behind it. -/
def turn (pool : ConstantPool) (body : Bytes) (offset : Nat) : Except Halt (Instruction × Nat) := do
  let opcode ← byteAt body offset
  let n ← lengthIn body offset
  if n = 0 ∨ body.length < offset + n then .error (.refused (.overrun offset))
  else (operationIn pool body offset opcode).map fun op => (⟨offset, opcode, op⟩, offset + n)

/-- Every turn ends further on, and not behind the end of the body. -/
theorem turn_advances {pool : ConstantPool} {body : Bytes} {offset : Nat} {i : Instruction}
    {next : Nat} (h : turn pool body offset = .ok (i, next)) :
    offset < next ∧ next ≤ body.length := by
  obtain ⟨opcode, -, h⟩ := bind_eq_ok h
  obtain ⟨n, -, h⟩ := bind_eq_ok h
  split at h
  · cases h
  · cases hop : operationIn pool body offset opcode with
    | error halt =>
      rw [hop] at h
      cases h
    | ok op =>
      rw [hop] at h
      cases h
      omega

/-- Takes turns from an offset to the end of the body. -/
def walk (pool : ConstantPool) (body : Bytes) (offset : Nat) : Except Halt (List Instruction) :=
  if offset < body.length then
    match h : turn pool body offset with
    | .error halt => .error halt
    | .ok (i, next) =>
      have := turn_advances h
      (walk pool body next).map fun later => i :: later
  else .ok []
  termination_by body.length - offset

/-! ## Positions and fronts -/

section
variable {body : Bytes} {offset : Nat} {opcode : UInt8} {operands : Bytes}
  (hdrop : body.drop offset = opcode :: operands)
include hdrop

theorem byteAt_of_drop {k : Nat} {b : UInt8} (h : (opcode :: operands)[k]? = some b) :
    byteAt body (offset + k) = .ok b := by
  simp only [byteAt, getElem?_of_drop hdrop, h]

theorem halfAt_of_drop {k : Nat} {hi lo : UInt8} (hhi : (opcode :: operands)[k]? = some hi)
    (hlo : (opcode :: operands)[k + 1]? = some lo) :
    halfAt body (offset + k) = .ok (hi.toNat * 256 + lo.toNat) := by
  have hfirst := byteAt_of_drop hdrop hhi
  have hsecond : byteAt body (offset + k + 1) = .ok lo := byteAt_of_drop hdrop hlo
  simp only [halfAt, hfirst, hsecond, bind, Except.bind]

end

theorem wordIn_of_drop {body rest : Bytes} {position : Nat} {a b c d : UInt8}
    (h : body.drop position = a :: b :: c :: d :: rest) :
    wordIn body position = .ok (Bytes.signed32 (Bytes.toNat [a, b, c, d])) := by
  have hlength := length_of_drop h
  simp only [List.length_cons] at hlength
  have hfirst : byteAt body position = .ok a := byteAt_of_drop (k := 0) h rfl
  have hsecond : byteAt body (position + 1) = .ok b := byteAt_of_drop h rfl
  have hthird : byteAt body (position + 2) = .ok c := byteAt_of_drop h rfl
  have hfourth : byteAt body (position + 3) = .ok d := byteAt_of_drop h rfl
  rw [wordIn, if_pos (by omega)]
  simp only [hfirst, hsecond, hthird, hfourth, bind, Except.bind]

theorem wordIn_of_short {body : Bytes} {position : Nat} (h : (body.drop position).length < 4) :
    wordIn body position = .error (.refused (.length .wordOutOfBounds)) := by
  rw [List.length_drop] at h
  rw [wordIn, if_neg (by omega)]

/-- A length fault as the walk reports it. -/
def refuse (fault : LengthFault) : Halt := .refused (.length fault)

theorem wordIn_eq (body : Bytes) (offset position : Nat) :
    wordIn body (offset + position) = (wordAt (body.drop offset) position).mapError refuse := by
  rw [wordAt, List.drop_drop]
  split
  · rename_i a b c d rest hword
    rw [wordIn_of_drop hword, mapError_ok]
  · rename_i hword
    rw [mapError_error, refuse]
    refine wordIn_of_short ?_
    match hshort : body.drop (offset + position) with
    | [] => simp
    | [_] => simp
    | [_, _] => simp
    | [_, _, _] => simp
    | a :: b :: c :: d :: rest => exact absurd hshort (hword a b c d rest)

section
variable {body : Bytes} {offset : Nat} {opcode : UInt8} {operands : Bytes}
  (hdrop : body.drop offset = opcode :: operands)
include hdrop

theorem lengthIn_eq :
    lengthIn body offset = (length offset (opcode :: operands)).mapError refuse := by
  have hbyte : byteAt body offset = .ok opcode := byteAt_of_drop (k := 0) hdrop rfl
  have hword (position : Nat) : wordIn body (offset + position) =
      (wordAt (opcode :: operands) position).mapError refuse := by
    rw [wordIn_eq, hdrop]
  cases hshape : shape? opcode with
  | none =>
    simp only [lengthIn, hbyte, hshape, length, bind, Except.bind]
    rfl
  | some shape =>
    cases shape with
    | fixed n =>
      simp only [lengthIn, hbyte, hshape, length, bind, Except.bind]
      rfl
    | tableSwitch =>
      simp only [lengthIn, hbyte, hshape, length, tableSwitchLength, hword, bind, Except.bind]
      cases wordAt (opcode :: operands) (1 + padding offset + 4) with
      | error fault => rfl
      | ok low =>
        cases wordAt (opcode :: operands) (1 + padding offset + 8) with
        | error fault => rfl
        | ok high =>
          simp only [mapError_ok]
          split <;> rfl
    | lookupSwitch =>
      simp only [lengthIn, hbyte, hshape, length, lookupSwitchLength, hword, bind, Except.bind]
      cases wordAt (opcode :: operands) (1 + padding offset + 4) with
      | error fault => rfl
      | ok pairs =>
        simp only [mapError_ok]
        split <;> rfl
    | wide =>
      have hlength := length_of_drop hdrop
      simp only [lengthIn, hbyte, hshape, length, bind, Except.bind]
      cases operands with
      | nil =>
        rw [List.length_nil] at hlength
        rw [if_neg (by omega)]
        rfl
      | cons widened rest =>
        have hnext : byteAt body (offset + 1) = .ok widened := byteAt_of_drop hdrop rfl
        rw [List.length_cons] at hlength
        rw [if_pos (by omega), hnext]
        rfl

omit hdrop in
theorem operationIn_unnamed {pool : ConstantPool} (hfield : fieldUse? opcode = none)
    (hcall : callKind? opcode = none) : operationIn pool body offset opcode =
      if opcode = aload then (byteAt body (offset + 1)).map fun slot => .load slot.toNat
      else if 0x2a ≤ opcode ∧ opcode ≤ 0x2d then .ok (.load (opcode.toNat - 0x2a))
      else if opcode = wide then do
        let widened ← byteAt body (offset + 1)
        if widened = aload then (halfAt body (offset + 2)).map .load else .ok .other
      else .ok .other := by
  simp only [operationIn, hfield, hcall]

/-- What an instruction is read as is what the walk finds: none of the bytes it takes without
looking is missing. -/
theorem operationIn_eq {pool : ConstantPool} {result : Except DecodeFault Operation}
    (h : Reading pool (opcode :: operands) result) :
    operationIn pool body offset opcode = result.mapError .refused := by
  cases h with
  | @field _ hi lo _ _ huse =>
    have hhalf : halfAt body (offset + 1) = .ok (hi.toNat * 256 + lo.toNat) :=
      halfAt_of_drop hdrop rfl rfl
    simp only [operationIn, huse, hhalf, bind, Except.bind]
    cases pool.member (hi.toNat * 256 + lo.toNat) <;> rfl
  | @call _ hi lo _ _ hkind =>
    have hhalf : halfAt body (offset + 1) = .ok (hi.toNat * 256 + lo.toNat) :=
      halfAt_of_drop hdrop rfl rfl
    obtain ⟨hfield, -⟩ := (roles_exclusive opcode).2 (by simp [hkind])
    simp only [operationIn, hfield, hkind, hhalf, bind, Except.bind]
    cases pool.member (hi.toNat * 256 + lo.toNat) <;> rfl
  | @load slot _ =>
    have hslot : byteAt body (offset + 1) = .ok slot := byteAt_of_drop hdrop rfl
    rw [operationIn_unnamed rfl rfl, if_pos rfl, hslot]
    rfl
  | loadSlot hslot =>
    obtain ⟨hfield, hcall⟩ := role_of_mayLoad (mayLoad_of_slot hslot)
    have hload : opcode ≠ aload := by
      rintro rfl
      exact absurd hslot.1 (by decide)
    rw [operationIn_unnamed hfield hcall, if_neg hload, if_pos hslot]
    rfl
  | @loadWide hi lo _ =>
    have hnext : byteAt body (offset + 1) = .ok aload := byteAt_of_drop hdrop rfl
    have hhalf : halfAt body (offset + 2) = .ok (hi.toNat * 256 + lo.toNat) :=
      halfAt_of_drop hdrop rfl rfl
    rw [operationIn_unnamed rfl rfl, if_neg (by decide), if_neg (by decide), if_pos rfl, hnext]
    simp only [bind, Except.bind, if_true, hhalf]
    rfl
  | @widened next _ hother =>
    have hnext : byteAt body (offset + 1) = .ok next := byteAt_of_drop hdrop rfl
    rw [operationIn_unnamed rfl rfl, if_neg (by decide), if_neg (by decide), if_pos rfl, hnext]
    simp only [bind, Except.bind, if_neg hother]
    rfl
  | other hfield hcall hnot =>
    simp only [mayLoad, Bool.or_eq_false_iff, Bool.and_eq_false_imp, beq_eq_false_iff_ne,
      decide_eq_true_eq, decide_eq_false_iff_not] at hnot
    obtain ⟨⟨hload, hslot⟩, hwide⟩ := hnot
    have hrange : ¬ (0x2a ≤ opcode ∧ opcode ≤ 0x2d) := fun h => hslot h.1 h.2
    rw [operationIn_unnamed hfield hcall, if_neg hload, if_neg hrange, if_neg hwide]
    rfl

/-- One turn of the walk is one turn of the decoder. -/
theorem decodeFrom_turn (pool : ConstantPool) :
    (decodeFrom pool offset (opcode :: operands)).mapError .refused =
      (turn pool body offset).bind fun step =>
        ((decodeFrom pool step.2 (body.drop step.2)).mapError .refused).map (step.1 :: ·) := by
  have hbyte : byteAt body offset = .ok opcode := byteAt_of_drop (k := 0) hdrop rfl
  have hbody := length_of_drop hdrop
  rw [decodeFrom, turn, hbyte, lengthIn_eq hdrop]
  cases hlength : length offset (opcode :: operands) with
  | error fault => rfl
  | ok n =>
    have hfit : n = 0 ∨ ((opcode :: operands).take n).length < n ↔
        n = 0 ∨ body.length < offset + n := by
      rw [List.length_take, List.length_cons]
      omega
    simp only [mapError_ok, bind, Except.bind, hfit]
    split
    · rfl
    · rename_i hinside
      rw [operationIn_eq hdrop (reading_of_length pool hlength (by omega))]
      cases operation pool ((opcode :: operands).take n) with
      | error fault => rfl
      | ok op =>
        simp only [mapError_ok, Except.map, drop_of_drop hdrop]
        cases decodeFrom pool (offset + n) ((opcode :: operands).drop n) <;> rfl

end

/-- **The walk never strays.** Decoding by positions is decoding from the front, and so it ends with
the same instructions or with the same fault. -/
theorem walk_eq_decodeFrom (pool : ConstantPool) (body : Bytes) (offset : Nat) :
    walk pool body offset = (decodeFrom pool offset (body.drop offset)).mapError .refused := by
  fun_induction walk pool body offset with
  | case1 offset hlt halt hturn =>
    obtain ⟨opcode, operands, hdrop⟩ := exists_drop_eq_cons hlt
    rw [hdrop, decodeFrom_turn hdrop, hturn]
    rfl
  | case2 offset hlt i next hturn _ ih =>
    obtain ⟨opcode, operands, hdrop⟩ := exists_drop_eq_cons hlt
    rw [hdrop, decodeFrom_turn hdrop, hturn, ih]
    rfl
  | case3 offset hlt =>
    rw [List.drop_eq_nil_of_le (by omega), decodeFrom, mapError_ok]

/-- **Decoding is exact.** A body is decoded exactly when instructions tile it and those that should
name a member do. There is then one instruction for each offset of the tiling, from the first byte
on, with the opcode that stands there, and it does what the opcode says. Whatever the body is, the
decoder moves on with every turn and takes no byte outside of it. -/
theorem decode_exact (pool : ConstantPool) (body : Bytes) :
    ((∃ is, decode pool body = .ok is) ↔
      ∃ offsets, Tiling body 0 offsets ∧ ∀ offset ∈ offsets, Resolves pool body offset) ∧
    (∀ is, decode pool body = .ok is →
      (∀ offsets, Tiling body 0 offsets ↔ offsets = is.map Instruction.offset) ∧
      (is.map Instruction.offset).Pairwise (· < ·) ∧
      (body ≠ [] → (is.map Instruction.offset).head? = some 0) ∧ ∀ i ∈ is, Stands body i) ∧
    (∀ offset i next, turn pool body offset = .ok (i, next) → offset < next ∧ next ≤ body.length) ∧
    walk pool body 0 = (decode pool body).mapError .refused ∧
    ∀ position, walk pool body 0 ≠ .error (.stray position) := by
  have hwalk : walk pool body 0 = (decode pool body).mapError .refused :=
    walk_eq_decodeFrom pool body 0
  refine ⟨⟨?_, ?_⟩, fun is his => ?_, fun offset i next => turn_advances, hwalk, fun position => ?_⟩
  · rintro ⟨is, his⟩
    obtain ⟨htiling, hstands⟩ := tiling_of_decodeFrom (Nat.zero_le _) his
    refine ⟨_, htiling, fun offset hoffset => ?_⟩
    obtain ⟨i, hi, rfl⟩ := List.mem_map.1 hoffset
    exact (hstands i hi).2
  · rintro ⟨offsets, htiling, hresolves⟩
    exact decodeFrom_of_tiling htiling hresolves
  · obtain ⟨htiling, hstands⟩ := tiling_of_decodeFrom (Nat.zero_le _) his
    exact ⟨fun offsets => ⟨fun h => h.unique htiling, fun h => h ▸ htiling⟩,
      htiling.pairwise_lt.2, fun hbody => htiling.head? (List.length_pos_iff.2 hbody),
      fun i hi => (hstands i hi).1⟩
  · rw [hwalk]
    cases decode pool body <;> simp [mapError_error, mapError_ok]

end BytecodeLint.Bytecode
