import BytecodeLint.Proofs.Bytecode.Decode

/-!
# Which bodies can be decoded

A body can be decoded exactly when instructions tile it (`Tiling`): each starts where the one before
ends, the last ends with the body, and those that name a member name one (`Resolves`). This is said
of all bodies, also of malformed ones.

* `reading_of_length`: what an instruction is read as, once it has a length and lies in the body.
* `decodeFrom_eq_ok_iff`: one turn of the decoder.
* `tiling_of_decodeFrom`, `decodeFrom_of_tiling`: decoding is tiling, in both directions.
-/
namespace BytecodeLint.Bytecode
open Assembly

/-! ## Opcodes -/

/-- The opcodes are looked through one by one. -/
theorem forall_opcode {P : UInt8 → Prop} (h : ∀ n : Fin 256, P (UInt8.ofNat n)) :
    ∀ opcode, P opcode := by
  intro opcode
  have hopcode := h ⟨opcode.toNat, opcode.toNat_lt⟩
  rwa [UInt8.ofNat_toNat] at hopcode

theorem fieldUse?_isSome : ∀ opcode : UInt8,
    (fieldUse? opcode).isSome = true ↔ 0xb2 ≤ opcode ∧ opcode ≤ 0xb5 :=
  forall_opcode (by decide +kernel)

theorem callKind?_isSome : ∀ opcode : UInt8,
    (callKind? opcode).isSome = true ↔ 0xb6 ≤ opcode ∧ opcode ≤ 0xb9 :=
  forall_opcode (by decide +kernel)

/-- An opcode that names a member has room for its number. -/
theorem shape_of_member : ∀ opcode : UInt8,
    (fieldUse? opcode).isSome = true ∨ (callKind? opcode).isSome = true →
      shape? opcode = some (.fixed 3) ∨ shape? opcode = some (.fixed 5) :=
  forall_opcode (by decide +kernel)

/-- No opcode has two roles. -/
theorem roles_exclusive : ∀ opcode : UInt8,
    ((fieldUse? opcode).isSome = true → callKind? opcode = none ∧ mayLoad opcode = false) ∧
      ((callKind? opcode).isSome = true → fieldUse? opcode = none ∧ mayLoad opcode = false) :=
  forall_opcode (by decide +kernel)

theorem shape_pos {opcode : UInt8} {n : Nat} (h : shape? opcode = some (.fixed n)) : 0 < n := by
  have hzero : ∀ opcode, shape? opcode ≠ some (.fixed 0) := forall_opcode (by decide +kernel)
  cases n with
  | zero => exact absurd h (hzero opcode)
  | succ n => exact Nat.succ_pos n

/-- Every instruction takes at least its opcode. -/
theorem length_pos {offset n : Nat} {opcode : UInt8} {rest : Bytes}
    (h : length offset (opcode :: rest) = .ok n) : 0 < n := by
  rw [length] at h
  split at h
  · cases h
  · rename_i hshape
    cases h
    exact shape_pos hshape
  · obtain ⟨low, -, h⟩ := bind_eq_ok h
    obtain ⟨high, -, h⟩ := bind_eq_ok h
    dsimp only at h
    split at h
    · cases h
      omega
    · cases h
  · obtain ⟨pairs, -, h⟩ := bind_eq_ok h
    split at h
    · cases h
      omega
    · cases h
  · unfold wideLength at h
    split at h
    · cases h
      split <;> omega
    · cases h

/-! ## One instruction -/

/-- What an instruction is read as: a member that its opcode uses, a local variable that it loads,
or nothing of interest. All bytes that count lie in the instruction. -/
inductive Reading (pool : ConstantPool) : Bytes → Except DecodeFault Operation → Prop where
  | field {opcode hi lo : UInt8} {rest : Bytes} {use : FieldUse} : fieldUse? opcode = some use →
      Reading pool (opcode :: hi :: lo :: rest)
        (((pool.member (hi.toNat * 256 + lo.toNat)).mapError .field).map (.field use))
  | call {opcode hi lo : UInt8} {rest : Bytes} {kind : CallKind} : callKind? opcode = some kind →
      Reading pool (opcode :: hi :: lo :: rest)
        (((pool.member (hi.toNat * 256 + lo.toNat)).mapError .method).map (.invoke kind))
  | load {slot : UInt8} {rest : Bytes} :
      Reading pool (aload :: slot :: rest) (.ok (.load slot.toNat))
  | loadSlot {opcode : UInt8} {rest : Bytes} : 0x2a ≤ opcode ∧ opcode ≤ 0x2d →
      Reading pool (opcode :: rest) (.ok (.load (opcode.toNat - 0x2a)))
  | loadWide {hi lo : UInt8} {rest : Bytes} :
      Reading pool (wide :: aload :: hi :: lo :: rest) (.ok (.load (hi.toNat * 256 + lo.toNat)))
  | widened {opcode : UInt8} {rest : Bytes} : opcode ≠ aload →
      Reading pool (wide :: opcode :: rest) (.ok .other)
  | other {opcode : UInt8} {rest : Bytes} : fieldUse? opcode = none → callKind? opcode = none →
      mayLoad opcode = false → Reading pool (opcode :: rest) (.ok .other)

section
variable {pool : ConstantPool} {opcode hi lo : UInt8} {rest : Bytes}

theorem operation_fieldUse {use : FieldUse} (h : fieldUse? opcode = some use) :
    operation pool (opcode :: hi :: lo :: rest) =
      ((pool.member (hi.toNat * 256 + lo.toNat)).mapError .field).map (.field use) := by
  simp only [operation, h, operandU16, bind, Except.bind]
  cases pool.member (hi.toNat * 256 + lo.toNat) <;> rfl

theorem operation_callKind {kind : CallKind} (hfield : fieldUse? opcode = none)
    (h : callKind? opcode = some kind) :
    operation pool (opcode :: hi :: lo :: rest) =
      ((pool.member (hi.toNat * 256 + lo.toNat)).mapError .method).map (.invoke kind) := by
  simp only [operation, hfield, h, operandU16, bind, Except.bind]
  cases pool.member (hi.toNat * 256 + lo.toNat) <;> rfl

end

/-- An opcode that names a member has two bytes behind it in its instruction. -/
theorem exists_operands {opcode : UInt8} {operands : Bytes} {offset n : Nat}
    (hmember : (fieldUse? opcode).isSome = true ∨ (callKind? opcode).isSome = true)
    (hlength : length offset (opcode :: operands) = .ok n) (hfit : n ≤ operands.length + 1) :
    ∃ hi lo rest k, operands = hi :: lo :: rest ∧ n = k + 3 := by
  have hn : n = 3 ∨ n = 5 := by
    rcases shape_of_member opcode hmember with hshape | hshape
    · exact .inl (Except.ok.inj (hlength.symm.trans (length_fixed hshape ..)))
    · exact .inr (Except.ok.inj (hlength.symm.trans (length_fixed hshape ..)))
  match operands with
  | [] =>
    rw [List.length_nil] at hfit
    omega
  | [_] =>
    rw [List.length_singleton] at hfit
    omega
  | hi :: lo :: rest => exact ⟨hi, lo, rest, n - 3, rfl, by omega⟩

/-- A widened instruction has its opcode behind it, and a load two bytes more. -/
theorem exists_widened {operands : Bytes} {offset n : Nat}
    (hlength : length offset (wide :: operands) = .ok n) (hfit : n ≤ operands.length + 1) :
    ∃ opcode hi lo rest k, operands = opcode :: hi :: lo :: rest ∧ n = k + 4 := by
  have hwide : wideLength (wide :: operands) = .ok n := hlength
  match operands with
  | [] => cases hwide
  | opcode :: operands =>
    have hn : (if opcode = iinc then 6 else 4) = n := Except.ok.inj hwide
    match operands with
    | [] =>
      rw [List.length_singleton] at hfit
      split at hn <;> omega
    | [_] =>
      rw [List.length_cons, List.length_singleton] at hfit
      split at hn <;> omega
    | hi :: lo :: rest =>
      refine ⟨opcode, hi, lo, rest, n - 4, rfl, ?_⟩
      split at hn <;> omega

/-- An instruction that names no member is read from its own bytes. -/
theorem reading_unnamed {pool : ConstantPool} {offset n : Nat} {opcode : UInt8} {operands : Bytes}
    (hlength : length offset (opcode :: operands) = .ok (n + 1)) (hfit : n ≤ operands.length)
    (hfield : fieldUse? opcode = none) (hcall : callKind? opcode = none) :
    Reading pool (opcode :: operands)
      (.ok (loading (loadedLocal? (opcode :: operands.take n)))) := by
  by_cases hload : opcode = aload
  · subst hload
    have hn : n + 1 = 2 := Except.ok.inj (hlength.symm.trans (length_fixed rfl ..))
    obtain rfl : n = 1 := by omega
    cases operands with
    | nil => simp at hfit
    | cons slot rest => exact .load
  · by_cases hslot : 0x2a ≤ opcode ∧ opcode ≤ 0x2d
    · simp only [loadedLocal?, if_neg hload, if_pos hslot, loading]
      exact .loadSlot hslot
    · by_cases hwide : opcode = wide
      · subst hwide
        obtain ⟨widened, hi, lo, rest, k, rfl, hk⟩ := exists_widened hlength (by omega)
        obtain rfl : n = k + 3 := by omega
        by_cases hagain : widened = aload
        · subst hagain
          exact .loadWide
        · have hnone : loadedLocal? (wide :: (widened :: hi :: lo :: rest).take (k + 3)) = none :=
            if_neg hagain
          rw [hnone]
          exact .widened hagain
      · have hnot : mayLoad opcode = false := by
          simp only [not_and] at hslot
          simpa [mayLoad, hload, hwide] using hslot
        rw [loadedLocal_none hnot]
        exact .other hfield hcall hnot

/-- Once an instruction has a length and lies in the code, it is read from its own bytes. -/
theorem reading_of_length (pool : ConstantPool) {offset n : Nat} {opcode : UInt8} {operands : Bytes}
    (hlength : length offset (opcode :: operands) = .ok n) (hfit : n ≤ operands.length + 1) :
    Reading pool (opcode :: operands) (operation pool ((opcode :: operands).take n)) := by
  cases hfield : fieldUse? opcode with
  | some use =>
    obtain ⟨hi, lo, rest, k, rfl, rfl⟩ := exists_operands (.inl (by simp [hfield])) hlength hfit
    simp only [List.take_succ_cons, operation_fieldUse hfield]
    exact .field hfield
  | none =>
    cases hcall : callKind? opcode with
    | some kind =>
      obtain ⟨hi, lo, rest, k, rfl, rfl⟩ := exists_operands (.inr (by simp [hcall])) hlength hfit
      simp only [List.take_succ_cons, operation_callKind hfield hcall]
      exact .call hcall
    | none =>
      obtain ⟨k, rfl⟩ := Nat.exists_eq_add_one_of_ne_zero (Nat.ne_of_gt (length_pos hlength))
      rw [List.take_succ_cons, operation_unnamed pool _ hfield hcall]
      exact reading_unnamed hlength (by omega) hfield hcall

/-! ## What a reading tells -/

/-- The opcodes that name a member. -/
def namesMember (opcode : UInt8) : Bool := 0xb2 ≤ opcode && opcode ≤ 0xb9

theorem namesMember_iff : ∀ opcode : UInt8, namesMember opcode = true ↔
    (fieldUse? opcode).isSome = true ∨ (callKind? opcode).isSome = true :=
  forall_opcode (by decide +kernel)

/-- The first bytes of a load from a local variable that holds a reference. -/
def Loads (opcode : UInt8) (next : Option UInt8) : Prop :=
  opcode = 0x19 ∨ (0x2a ≤ opcode ∧ opcode ≤ 0x2d) ∨ (opcode = 0xc4 ∧ next = some 0x19)

theorem mayLoad_of_slot {opcode : UInt8} (h : 0x2a ≤ opcode ∧ opcode ≤ 0x2d) :
    mayLoad opcode = true := by
  simp [mayLoad, h]

theorem mayLoad_of_loads {opcode : UInt8} {next : Option UInt8} (h : Loads opcode next) :
    mayLoad opcode = true := by
  rcases h with rfl | hslot | ⟨rfl, -⟩
  · rfl
  · exact mayLoad_of_slot hslot
  · rfl

/-- An opcode that may load uses no member. -/
theorem role_of_mayLoad {opcode : UInt8} (h : mayLoad opcode = true) :
    fieldUse? opcode = none ∧ callKind? opcode = none := by
  obtain ⟨hfield, hcall⟩ := roles_exclusive opcode
  rw [← Option.not_isSome_iff_eq_none, ← Option.not_isSome_iff_eq_none]
  exact ⟨fun hsome => by simp [(hfield hsome).2] at h, fun hsome => by simp [(hcall hsome).2] at h⟩

/-- What an instruction does agrees with its opcode, and behind `wide` with the next one. -/
structure Agrees (opcode : UInt8) (next : Option UInt8) (op : Operation) : Prop where
  field : (∃ use m, op = .field use m) ↔ 0xb2 ≤ opcode ∧ opcode ≤ 0xb5
  call : (∃ kind m, op = .invoke kind m) ↔ 0xb6 ≤ opcode ∧ opcode ≤ 0xb9
  load : (∃ slot, op = .load slot) ↔ Loads opcode next

section
variable {opcode : UInt8} {next : Option UInt8}

theorem not_loads (h : mayLoad opcode = false) : ¬ Loads opcode next :=
  fun hloads => by simp [mayLoad_of_loads hloads] at h

theorem agrees_field (h : (fieldUse? opcode).isSome = true) (use : FieldUse) (m : MemberRef) :
    Agrees opcode next (.field use m) := by
  obtain ⟨hcall, hload⟩ := (roles_exclusive opcode).1 h
  constructor
  · simp [← fieldUse?_isSome, h]
  · simp [← callKind?_isSome, hcall]
  · simp [not_loads hload]

theorem agrees_call (h : (callKind? opcode).isSome = true) (kind : CallKind) (m : MemberRef) :
    Agrees opcode next (.invoke kind m) := by
  obtain ⟨hfield, hload⟩ := (roles_exclusive opcode).2 h
  constructor
  · simp [← fieldUse?_isSome, hfield]
  · simp [← callKind?_isSome, h]
  · simp [not_loads hload]

theorem agrees_load (h : Loads opcode next) (slot : Nat) : Agrees opcode next (.load slot) := by
  obtain ⟨hfield, hcall⟩ := role_of_mayLoad (mayLoad_of_loads h)
  constructor
  · simp [← fieldUse?_isSome, hfield]
  · simp [← callKind?_isSome, hcall]
  · simp [h]

theorem agrees_other (hfield : fieldUse? opcode = none) (hcall : callKind? opcode = none)
    (h : ¬ Loads opcode next) : Agrees opcode next .other := by
  constructor
  · simp [← fieldUse?_isSome, hfield]
  · simp [← callKind?_isSome, hcall]
  · simp [h]

end

/-- The two bytes behind the opcode are the number of a constant that names a member. -/
def NamedBy (pool : ConstantPool) (operands : Bytes) : Prop :=
  ∃ hi lo m, operands[0]? = some hi ∧ operands[1]? = some lo ∧
    pool.Names (hi.toNat * 256 + lo.toNat) m

theorem exists_member_iff {pool : ConstantPool} {hi lo : UInt8} {rest : Bytes}
    {f : MemberFault → DecodeFault} {g : MemberRef → Operation} :
    (∃ op, ((pool.member (hi.toNat * 256 + lo.toNat)).mapError f).map g = .ok op) ↔
      NamedBy pool (hi :: lo :: rest) := by
  simp only [map_mapError_eq_ok, ConstantPool.member_eq_ok_iff]
  constructor
  · rintro ⟨_, m, hm, -⟩
    exact ⟨hi, lo, m, rfl, rfl, hm⟩
  · rintro ⟨_, _, m, ⟨⟩, ⟨⟩, hm⟩
    exact ⟨_, m, hm, rfl⟩

namespace Reading
variable {pool : ConstantPool} {opcode : UInt8} {operands : Bytes}
  {result : Except DecodeFault Operation} (h : Reading pool (opcode :: operands) result)
include h

theorem agrees {op : Operation} (hok : result = .ok op) : Agrees opcode operands.head? op := by
  cases h with
  | field huse =>
    obtain ⟨m, -, rfl⟩ := map_mapError_eq_ok.1 hok
    exact agrees_field (by simp [huse]) _ m
  | call hkind =>
    obtain ⟨m, -, rfl⟩ := map_mapError_eq_ok.1 hok
    exact agrees_call (by simp [hkind]) _ m
  | load =>
    cases hok
    exact agrees_load (.inl rfl) _
  | loadSlot hslot =>
    cases hok
    exact agrees_load (.inr (.inl hslot)) _
  | loadWide =>
    cases hok
    exact agrees_load (.inr (.inr ⟨rfl, rfl⟩)) _
  | widened hnext =>
    cases hok
    refine agrees_other rfl rfl ?_
    rintro (hload | ⟨-, hhigh⟩ | ⟨-, hload⟩)
    · exact absurd hload (by decide)
    · exact absurd hhigh (by decide)
    · exact hnext (Option.some.inj hload)
  | other hfield hcall hnot =>
    cases hok
    exact agrees_other hfield hcall (not_loads hnot)

/-- An instruction is read unless it should name a member and does not. -/
theorem ok_iff : (∃ op, result = .ok op) ↔ (namesMember opcode = true → NamedBy pool operands) := by
  have hfree {op : Operation} (hfield : fieldUse? opcode = none) (hcall : callKind? opcode = none) :
      (∃ op', Except.ok op = (.ok op' : Except DecodeFault Operation)) ↔
        (namesMember opcode = true → NamedBy pool operands) := by
    simp [namesMember_iff, hfield, hcall]
  cases h with
  | field huse =>
    have hnames := (namesMember_iff opcode).2 (.inl (by simp [huse]))
    rw [exists_member_iff]
    exact ⟨fun hnamed _ => hnamed, fun hnamed => hnamed hnames⟩
  | call hkind =>
    have hnames := (namesMember_iff opcode).2 (.inr (by simp [hkind]))
    rw [exists_member_iff]
    exact ⟨fun hnamed _ => hnamed, fun hnamed => hnamed hnames⟩
  | load => exact hfree rfl rfl
  | loadSlot hslot =>
    obtain ⟨hfield, hcall⟩ := role_of_mayLoad (mayLoad_of_slot hslot)
    exact hfree hfield hcall
  | loadWide => exact hfree rfl rfl
  | widened hnext => exact hfree rfl rfl
  | other hfield hcall hnot => exact hfree hfield hcall

end Reading

/-! ## Tilings -/

/-- Offsets that cut a body from a start to its end into pieces, each as long as the instruction
that starts it. -/
inductive Tiling (body : Bytes) : Nat → List Nat → Prop where
  | done : Tiling body body.length []
  | step {offset n : Nat} {offsets : List Nat} : offset < body.length →
      lengthAt body offset = .ok n → Tiling body (offset + n) offsets →
      Tiling body offset (offset :: offsets)

/-- If the instruction at an offset should name a member, it does. -/
def Resolves (pool : ConstantPool) (body : Bytes) (offset : Nat) : Prop :=
  ∀ opcode, body[offset]? = some opcode → 0xb2 ≤ opcode → opcode ≤ 0xb9 →
    ∃ hi lo m, body[offset + 1]? = some hi ∧ body[offset + 2]? = some lo ∧
      pool.Names (hi.toNat * 256 + lo.toNat) m

/-- An instruction stands in a body where it says, and is of the kind that the bytes there say. -/
structure Stands (body : Bytes) (i : Instruction) : Prop where
  opcode : body[i.offset]? = some i.opcode
  agrees : Agrees i.opcode body[i.offset + 1]? i.operation

section
variable {body : Bytes} {offset : Nat}

theorem exists_drop_eq_cons (h : offset < body.length) :
    ∃ opcode operands, body.drop offset = opcode :: operands :=
  List.exists_cons_of_ne_nil fun hnil => by rw [List.drop_eq_nil_iff] at hnil; omega

variable {opcode : UInt8} {operands : Bytes} (hdrop : body.drop offset = opcode :: operands)
include hdrop

theorem length_of_drop : offset + (operands.length + 1) = body.length := by
  have hlength := congrArg List.length hdrop
  rw [List.length_drop, List.length_cons] at hlength
  omega

theorem getElem?_of_drop (k : Nat) : body[offset + k]? = (opcode :: operands)[k]? := by
  rw [← hdrop, List.getElem?_drop]

theorem drop_of_drop (n : Nat) : body.drop (offset + n) = (opcode :: operands).drop n := by
  rw [← hdrop, List.drop_drop]

theorem resolves_iff (pool : ConstantPool) :
    Resolves pool body offset ↔ (namesMember opcode = true → NamedBy pool operands) := by
  have hopcode := getElem?_of_drop hdrop 0
  have hhi := getElem?_of_drop hdrop 1
  have hlo := getElem?_of_drop hdrop 2
  simp only [Nat.add_zero, List.getElem?_cons_zero, List.getElem?_cons_succ] at hopcode hhi hlo
  simp [Resolves, NamedBy, namesMember, hopcode, hhi, hlo]

end

namespace Tiling
variable {body : Bytes} {offset : Nat} {offsets offsets' : List Nat}

theorem le_length (h : Tiling body offset offsets) : offset ≤ body.length := by
  cases h with
  | done => exact Nat.le_refl _
  | step hlt _ _ => exact Nat.le_of_lt hlt

theorem unique (h : Tiling body offset offsets) (h' : Tiling body offset offsets') :
    offsets = offsets' := by
  induction h generalizing offsets' with
  | done =>
    cases h' with
    | done => rfl
    | step hlt _ _ => exact absurd hlt (Nat.lt_irrefl _)
  | step hlt hlength _ ih =>
    cases h' with
    | done => exact absurd hlt (Nat.lt_irrefl _)
    | step _ hlength' htiling =>
      cases hlength.symm.trans hlength'
      rw [ih htiling]

theorem head? (h : Tiling body offset offsets) (hlt : offset < body.length) :
    offsets.head? = some offset := by
  cases h with
  | done => exact absurd hlt (Nat.lt_irrefl _)
  | step => rfl

/-- Offsets grow along a tiling, because every instruction takes at least its opcode. -/
theorem pairwise_lt (h : Tiling body offset offsets) :
    (∀ later ∈ offsets, offset ≤ later) ∧ offsets.Pairwise (· < ·) := by
  induction h with
  | done => simp
  | @step offset n offsets hlt hlength _ ih =>
    obtain ⟨opcode, operands, hdrop⟩ := exists_drop_eq_cons hlt
    have hpos : 0 < n := by
      rw [lengthAt, hdrop] at hlength
      exact length_pos hlength
    obtain ⟨hlater, hpairwise⟩ := ih
    have hbehind (later : Nat) (h : later ∈ offsets) : offset < later := by
      have := hlater later h
      omega
    exact ⟨List.forall_mem_cons.2 ⟨Nat.le_refl _, fun later h => Nat.le_of_lt (hbehind later h)⟩,
      List.pairwise_cons.2 ⟨hbehind, hpairwise⟩⟩

end Tiling

/-! ## Decoding is tiling -/

/-- One turn of the decoder. -/
theorem decodeFrom_eq_ok_iff {pool : ConstantPool} {offset : Nat} {opcode : UInt8}
    {operands : Bytes} {is : List Instruction} :
    decodeFrom pool offset (opcode :: operands) = .ok is ↔
      ∃ n op later, length offset (opcode :: operands) = .ok n ∧ n ≤ operands.length + 1 ∧
        operation pool ((opcode :: operands).take n) = .ok op ∧
        decodeFrom pool (offset + n) ((opcode :: operands).drop n) = .ok later ∧
        is = ⟨offset, opcode, op⟩ :: later := by
  rw [decodeFrom]
  cases hlength : length offset (opcode :: operands) with
  | error fault => simp
  | ok n =>
    have hpos := length_pos hlength
    have hfit : n = 0 ∨ ((opcode :: operands).take n).length < n ↔ operands.length + 1 < n := by
      rw [List.length_take, List.length_cons]
      omega
    simp only [hfit]
    split
    · rename_i hover
      simp only [reduceCtorEq, false_iff]
      rintro ⟨_, op, later, ⟨⟩, hle, -⟩
      omega
    · rename_i hover
      cases hop : operation pool ((opcode :: operands).take n) with
      | error fault =>
        simp only [reduceCtorEq, false_iff]
        rintro ⟨_, op, later, ⟨⟩, -, hok, -⟩
        cases hop.symm.trans hok
      | ok op =>
        cases hlater : decodeFrom pool (offset + n) ((opcode :: operands).drop n) with
        | error fault =>
          simp only [Except.map, reduceCtorEq, false_iff]
          rintro ⟨_, op, later, ⟨⟩, -, -, hok, -⟩
          cases hlater.symm.trans hok
        | ok later =>
          constructor
          · rintro ⟨⟩
            exact ⟨n, op, later, rfl, by omega, hop, hlater, rfl⟩
          · rintro ⟨_, op', later', ⟨⟩, -, hop', hlater', rfl⟩
            cases hop.symm.trans hop'
            cases hlater.symm.trans hlater'
            rfl

/-- The decoded instructions tile the body. -/
theorem tiling_of_decodeFrom {pool : ConstantPool} {body : Bytes} {offset : Nat}
    {is : List Instruction} (hoffset : offset ≤ body.length)
    (h : decodeFrom pool offset (body.drop offset) = .ok is) :
    Tiling body offset (is.map Instruction.offset) ∧
      ∀ i ∈ is, Stands body i ∧ Resolves pool body i.offset := by
  induction is generalizing offset with
  | nil =>
    rcases Nat.eq_or_lt_of_le hoffset with rfl | hlt
    · exact ⟨.done, by simp⟩
    · obtain ⟨opcode, operands, hdrop⟩ := exists_drop_eq_cons hlt
      rw [hdrop, decodeFrom_eq_ok_iff] at h
      obtain ⟨n, op, later, -, -, -, -, hnil⟩ := h
      cases hnil
  | cons i is ih =>
    rcases Nat.eq_or_lt_of_le hoffset with rfl | hlt
    · rw [List.drop_length, decodeFrom] at h
      cases h
    · obtain ⟨opcode, operands, hdrop⟩ := exists_drop_eq_cons hlt
      have hbody := length_of_drop hdrop
      rw [hdrop, decodeFrom_eq_ok_iff] at h
      obtain ⟨n, op, later, hlength, hfit, hop, hlater, heq⟩ := h
      cases heq
      rw [← drop_of_drop hdrop] at hlater
      obtain ⟨htiling, hstands⟩ := ih (by omega) hlater
      have hreading : Reading pool (opcode :: operands) (.ok op) := 
        hop ▸ reading_of_length pool hlength hfit
      refine ⟨.step hlt (by rw [lengthAt, hdrop, hlength]) htiling,
        List.forall_mem_cons.2 ⟨⟨⟨?_, ?_⟩, ?_⟩, hstands⟩⟩
      · exact getElem?_of_drop hdrop 0
      · rw [getElem?_of_drop hdrop 1, List.getElem?_cons_succ, ← List.head?_eq_getElem?]
        exact hreading.agrees rfl
      · exact (resolves_iff hdrop pool).2 (hreading.ok_iff.1 ⟨op, rfl⟩)

/-- A body that is tiled is decoded. -/
theorem decodeFrom_of_tiling {pool : ConstantPool} {body : Bytes} {offset : Nat}
    {offsets : List Nat} (h : Tiling body offset offsets)
    (hresolves : ∀ offset ∈ offsets, Resolves pool body offset) :
    ∃ is, decodeFrom pool offset (body.drop offset) = .ok is := by
  induction h with
  | done => exact ⟨[], by rw [List.drop_length, decodeFrom]⟩
  | @step offset n offsets hlt hlength htiling ih =>
    obtain ⟨hthis, hlater⟩ := List.forall_mem_cons.1 hresolves
    obtain ⟨opcode, operands, hdrop⟩ := exists_drop_eq_cons hlt
    have hbody := length_of_drop hdrop
    have hend := htiling.le_length
    rw [lengthAt, hdrop] at hlength
    have hreading := reading_of_length pool hlength (by omega)
    obtain ⟨op, hop⟩ := hreading.ok_iff.2 ((resolves_iff hdrop pool).1 hthis)
    obtain ⟨later, hlater⟩ := ih hlater
    rw [drop_of_drop hdrop] at hlater
    refine ⟨⟨offset, opcode, op⟩ :: later, ?_⟩
    rw [hdrop]
    exact decodeFrom_eq_ok_iff.2 ⟨n, op, later, hlength, by omega, hop, hlater, rfl⟩

end BytecodeLint.Bytecode
