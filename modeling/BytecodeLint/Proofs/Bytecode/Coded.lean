import BytecodeLint.ClassFile.Resolve
import BytecodeLint.Proofs.Bytecode.Tiling
import Mathlib.Data.Set.List

/-!
# Methods with their code

Guidelines see decoded instructions. Here a method keeps the bytes that its instructions were
decoded from (`CodedMethod`), and a class the constant pool that names its members (`CodedClass`),
so that what a guideline goes by can be said of the bytes.

* `Spelled`: what an instruction does is what the bytes from its offset on spell.
* `spelled_of_mem_decodeFrom`: this holds of every decoded instruction.
* `decodeFrom_fixed`, `exists_cons_of_decodeFrom`: decoding one instruction of a fixed length, from
  the side of the bytes and from the side of the instructions.
* `exists_coded_of_parse`: the methods of every class that is read from a class file have their
  code.
-/
namespace BytecodeLint

namespace Bytecode
open Assembly

/-! ## What bytes spell -/

/-- The code begins with `aload_0`, with `aload 0` or with `wide aload 0`. -/
def LoadsThis (code : Bytes) : Prop :=
  [0x2a] <+: code ∨ [0x19, 0x00] <+: code ∨ [0xc4, 0x19, 0x00, 0x00] <+: code

/-- The code begins with the opcode, and the two bytes behind it are the number of the constant that
names the member. -/
def Mentions (pool : ConstantPool) (code : Bytes) (opcode : UInt8) (target : MemberRef) : Prop :=
  ∃ hi lo, [opcode, hi, lo] <+: code ∧ pool.Names (hi.toNat * 256 + lo.toNat) target

/-- An instruction does what the code that begins with it spells. -/
structure Spelled (pool : ConstantPool) (code : Bytes) (op : Operation) : Prop where
  field : ∀ use target, op = .field use target ↔
    ∃ opcode, fieldUse? opcode = some use ∧ Mentions pool code opcode target
  call : ∀ kind target, op = .invoke kind target ↔
    ∃ opcode, callKind? opcode = some kind ∧ Mentions pool code opcode target
  this : op = .load 0 ↔ LoadsThis code

section
variable {pool : ConstantPool} {opcode : UInt8} {operands : Bytes}

theorem mentions_cons {opcode' : UInt8} {target : MemberRef} :
    Mentions pool (opcode :: operands) opcode' target ↔ opcode' = opcode ∧
      ∃ hi lo, [hi, lo] <+: operands ∧ pool.Names (hi.toNat * 256 + lo.toNat) target := by
  simp only [Mentions, List.cons_prefix_cons]
  constructor
  · rintro ⟨hi, lo, ⟨rfl, hprefix⟩, hnames⟩
    exact ⟨rfl, hi, lo, hprefix, hnames⟩
  · rintro ⟨rfl, hi, lo, hprefix, hnames⟩
    exact ⟨hi, lo, ⟨rfl, hprefix⟩, hnames⟩

/-- A constant names one member at most. -/
theorem mentions_iff_of_member {hi lo : UInt8} {rest : Bytes} {target m : MemberRef}
    (hm : pool.member (hi.toNat * 256 + lo.toNat) = .ok m) {opcode' : UInt8} :
    Mentions pool (opcode :: hi :: lo :: rest) opcode' target ↔ opcode' = opcode ∧ m = target := by
  simp only [mentions_cons, List.cons_prefix_cons, List.nil_prefix, and_true,
    ← ConstantPool.member_eq_ok_iff]
  refine and_congr_right fun _ => ?_
  constructor
  · rintro ⟨_, _, ⟨rfl, rfl⟩, htarget⟩
    exact Except.ok.inj (hm.symm.trans htarget)
  · rintro rfl
    exact ⟨hi, lo, ⟨rfl, rfl⟩, hm⟩

/-- Code that loads `this` begins with an opcode that may load. -/
theorem mayLoad_of_loadsThis (h : LoadsThis (opcode :: operands)) : mayLoad opcode = true := by
  rcases h with h | h | h <;> obtain ⟨rfl, -⟩ := List.cons_prefix_cons.1 h <;> rfl

theorem loadsThis_slot (h : 0x2a ≤ opcode ∧ opcode ≤ 0x2d) :
    LoadsThis (opcode :: operands) ↔ opcode = 0x2a := by
  constructor
  · rintro (hthis | hthis | hthis) <;> obtain ⟨rfl, -⟩ := List.cons_prefix_cons.1 hthis
    · rfl
    · exact absurd h.1 (by decide)
    · exact absurd h.2 (by decide)
  · rintro rfl
    exact .inl ⟨operands, rfl⟩

/-- An instruction that names no member loads from a local variable at most. -/
theorem spelled_unnamed (slot : Option Nat) (hfield : fieldUse? opcode = none)
    (hcall : callKind? opcode = none) (hthis : slot = some 0 ↔ LoadsThis (opcode :: operands)) :
    Spelled pool (opcode :: operands) (loading slot) := by
  refine ⟨fun use target => ?_, fun kind target => ?_, ?_⟩
  · cases slot <;> simp [loading, mentions_cons, hfield]
  · cases slot <;> simp [loading, mentions_cons, hcall]
  · rw [← hthis]
    cases slot <;> simp [loading]

end

/-- **An instruction is read as its bytes spell.** -/
theorem Reading.spelled {pool : ConstantPool} {code : Bytes}
    {result : Except DecodeFault Operation} (h : Reading pool code result) {op : Operation}
    (hok : result = .ok op) : Spelled pool code op := by
  cases h with
  | @field opcode _ _ _ use huse =>
    obtain ⟨m, hm, rfl⟩ := map_mapError_eq_ok.1 hok
    obtain ⟨hcall, hload⟩ := (roles_exclusive opcode).1 (by simp [huse])
    refine ⟨fun use' target => ?_, fun kind target => ?_, ?_⟩
    · simp [mentions_iff_of_member hm, huse]
    · simp [mentions_iff_of_member hm, hcall]
    · simp only [reduceCtorEq, false_iff]
      exact fun hthis => by simp [mayLoad_of_loadsThis hthis] at hload
  | @call opcode _ _ _ kind hkind =>
    obtain ⟨m, hm, rfl⟩ := map_mapError_eq_ok.1 hok
    obtain ⟨hfield, hload⟩ := (roles_exclusive opcode).2 (by simp [hkind])
    refine ⟨fun use target => ?_, fun kind' target => ?_, ?_⟩
    · simp [mentions_iff_of_member hm, hfield]
    · simp [mentions_iff_of_member hm, hkind]
    · simp only [reduceCtorEq, false_iff]
      exact fun hthis => by simp [mayLoad_of_loadsThis hthis] at hload
  | @load slot rest =>
    cases hok
    refine spelled_unnamed (some slot.toNat) rfl rfl ?_
    simp [LoadsThis, aload, ← UInt8.toNat_inj, eq_comm]
  | @loadSlot opcode rest hslot =>
    cases hok
    obtain ⟨hfield, hcall⟩ := role_of_mayLoad (mayLoad_of_slot hslot)
    refine spelled_unnamed (some (opcode.toNat - 0x2a)) hfield hcall ?_
    rw [loadsThis_slot hslot, Option.some.injEq, ← UInt8.toNat_inj]
    have hlow := UInt8.le_iff_toNat_le.1 hslot.1
    simp only [UInt8.reduceToNat] at hlow ⊢
    omega
  | @loadWide hi lo rest =>
    cases hok
    refine spelled_unnamed (some (hi.toNat * 256 + lo.toNat)) rfl rfl ?_
    have hzero : hi.toNat * 256 + lo.toNat = 0 ↔ 0 = hi ∧ 0 = lo := by
      simp only [← UInt8.toNat_inj, UInt8.toNat_zero]
      omega
    rw [Option.some.injEq, hzero]
    simp [LoadsThis, wide, aload]
  | @widened opcode rest hnext =>
    cases hok
    refine spelled_unnamed none rfl rfl ?_
    have hload : ¬ 0x19 = opcode := fun h => hnext h.symm
    simp [LoadsThis, wide, hload]
  | other hfield hcall hnot =>
    cases hok
    refine spelled_unnamed none hfield hcall ?_
    simp only [reduceCtorEq, false_iff]
    exact fun hthis => by simp [mayLoad_of_loadsThis hthis] at hnot

/-! ## Decoding one instruction -/

section
variable {pool : ConstantPool} {offset : Nat} {code : Bytes} {is : List Instruction}

theorem decodeFrom_eq_nil_iff : decodeFrom pool offset code = .ok [] ↔ code = [] := by
  cases code with
  | nil => simp [decodeFrom]
  | cons opcode operands =>
    simp only [decodeFrom_eq_ok_iff, reduceCtorEq, iff_false]
    rintro ⟨_, _, _, -, -, -, -, hnil⟩
    cases hnil

/-- The first instruction is the one that the first byte is the opcode of. -/
theorem exists_cons_of_decodeFrom {i : Instruction}
    (h : decodeFrom pool offset code = .ok (i :: is)) :
    ∃ operands, code = i.opcode :: operands := by
  cases code with
  | nil =>
    rw [decodeFrom] at h
    cases h
  | cons opcode operands =>
    obtain ⟨_, _, _, -, -, -, -, heq⟩ := decodeFrom_eq_ok_iff.1 h
    cases heq
    exact ⟨operands, rfl⟩

/-- One turn of the decoder, with what the instruction does said of the bytes. -/
theorem turn_of_decodeFrom {opcode : UInt8} {operands : Bytes}
    (h : decodeFrom pool offset (opcode :: operands) = .ok is) :
    ∃ n op later, length offset (opcode :: operands) = .ok n ∧
      Spelled pool (opcode :: operands) op ∧
      decodeFrom pool (offset + n) ((opcode :: operands).drop n) = .ok later ∧
      is = ⟨offset, opcode, op⟩ :: later := by
  obtain ⟨n, op, later, hlength, hfit, hop, hlater, heq⟩ := decodeFrom_eq_ok_iff.1 h
  have hreading := reading_of_length pool hlength hfit
  exact ⟨n, op, later, hlength, hreading.spelled hop, hlater, heq⟩

theorem shape_of_fieldUse : ∀ opcode : UInt8,
    (fieldUse? opcode).isSome = true → shape? opcode = some (.fixed 3) :=
  forall_opcode (by decide +kernel)

/-- Decoding an instruction of a fixed length. -/
theorem decodeFrom_fixed {opcode : UInt8} {operands : Bytes} {n : Nat}
    (hshape : shape? opcode = some (.fixed (n + 1)))
    (h : decodeFrom pool offset (opcode :: operands) = .ok is) :
    ∃ op later, Spelled pool (opcode :: operands) op ∧
      decodeFrom pool (offset + (n + 1)) (operands.drop n) = .ok later ∧
      is = ⟨offset, opcode, op⟩ :: later := by
  obtain ⟨n', op, later, hlength, hspelled, hlater, heq⟩ := turn_of_decodeFrom h
  obtain rfl : n + 1 = n' := Except.ok.inj ((length_fixed hshape ..).symm.trans hlength)
  exact ⟨op, later, hspelled, hlater, heq⟩

/-- The bytes of an instruction without operands. -/
theorem decodeFrom_of_bare {i : Instruction} (h : decodeFrom pool offset code = .ok (i :: is))
    (hshape : shape? i.opcode = some (.fixed 1)) :
    ∃ rest, code = i.opcode :: rest ∧ decodeFrom pool (offset + 1) rest = .ok is := by
  obtain ⟨rest, rfl⟩ := exists_cons_of_decodeFrom h
  obtain ⟨op, later, -, hlater, heq⟩ := decodeFrom_fixed (n := 0) hshape h
  obtain ⟨-, rfl⟩ := List.cons.inj heq
  exact ⟨rest, rfl, hlater⟩

/-- The bytes of an instruction that uses a field. -/
theorem decodeFrom_of_field {i : Instruction} {use : FieldUse} {target : MemberRef}
    (h : decodeFrom pool offset code = .ok (i :: is)) (hop : i.operation = .field use target) :
    ∃ opcode hi lo rest, code = opcode :: hi :: lo :: rest ∧ fieldUse? opcode = some use ∧
      pool.Names (hi.toNat * 256 + lo.toNat) target ∧
      decodeFrom pool (offset + 3) rest = .ok is := by
  obtain ⟨operands, rfl⟩ := exists_cons_of_decodeFrom h
  obtain ⟨n, op, later, hlength, hspelled, hlater, heq⟩ := turn_of_decodeFrom h
  obtain ⟨hfirst, rfl⟩ := List.cons.inj heq
  have hfield : op = .field use target := by rw [← hop, hfirst]
  obtain ⟨opcode, huse, hmentions⟩ := (hspelled.field use target).1 hfield
  obtain ⟨rfl, hi, lo, ⟨rest, rfl⟩, hnames⟩ := mentions_cons.1 hmentions
  have hshape := shape_of_fieldUse i.opcode (by simp [huse])
  have hthree := length_fixed hshape offset ([hi, lo] ++ rest)
  obtain rfl : 3 = n := Except.ok.inj (hthree.symm.trans hlength)
  exact ⟨_, hi, lo, rest, rfl, huse, hnames, hlater⟩

end

/-- Every decoded instruction does what the bytes from its offset on spell. -/
theorem spelled_of_mem_decodeFrom {pool : ConstantPool} {body : Bytes} {offset : Nat}
    {is : List Instruction} (h : decodeFrom pool offset (body.drop offset) = .ok is) :
    ∀ i ∈ is, Spelled pool (body.drop i.offset) i.operation := by
  induction is generalizing offset with
  | nil => simp
  | cons i is ih =>
    obtain ⟨operands, hdrop⟩ := exists_cons_of_decodeFrom h
    rw [hdrop] at h
    obtain ⟨n, op, later, -, hspelled, hlater, heq⟩ := turn_of_decodeFrom h
    obtain ⟨hi, rfl⟩ := List.cons.inj heq
    rw [← drop_of_drop hdrop] at hlater
    refine List.forall_mem_cons.2 ⟨?_, ih hlater⟩
    rw [hi]
    dsimp only
    rwa [hdrop]

end Bytecode

/-! ## Methods and classes with code -/

/-- A method and the bytes that its instructions were decoded from. A method without code has no
bytes. -/
structure CodedMethod (pool : ConstantPool) where
  decl : MethodDecl
  code : Bytes
  decoded : Bytecode.decode pool code = .ok decl.instructions

/-- A class whose methods have their code, and the constants that the code refers to. -/
structure CodedClass extends ClassDecl where
  pool : ConstantPool
  coded : List (CodedMethod pool)
  methods_eq : methods = coded.map CodedMethod.decl

namespace CodedMethod

variable {pool : ConstantPool} (m : CodedMethod pool)

/-- The instructions tile the code. -/
theorem tiling : Bytecode.Tiling m.code 0 (m.decl.instructions.map Instruction.offset) :=
  (Bytecode.tiling_of_decodeFrom (Nat.zero_le _) m.decoded).1

theorem spelled {i : Instruction} (hi : i ∈ m.decl.instructions) :
    Bytecode.Spelled pool (m.code.drop i.offset) i.operation :=
  @Bytecode.spelled_of_mem_decodeFrom pool m.code 0 _ m.decoded i hi

theorem code_eq_nil_iff : m.code = [] ↔ m.decl.instructions = [] := by
  have hdecoded : Bytecode.decodeFrom pool 0 m.code = .ok m.decl.instructions := m.decoded
  rw [← @Bytecode.decodeFrom_eq_nil_iff pool 0, hdecoded, Except.ok.injEq]

/-- The first instruction stands at the first byte. -/
theorem offset_of_head {first : Instruction} {rest : List Instruction}
    (h : m.decl.instructions = first :: rest) : first.offset = 0 := by
  have hhead : m.code ≠ [] := by simp [code_eq_nil_iff, h]
  simpa [h] using m.tiling.head? (List.length_pos_iff.2 hhead)

end CodedMethod

/-- Methods that were decoded, each from some code, can be given their code. -/
theorem exists_coded {pool : ConstantPool} {methods : List MethodDecl}
    (h : ∀ m ∈ methods, ∃ code, Bytecode.decode pool code = .ok m.instructions) :
    ∃ coded : List (CodedMethod pool), methods = coded.map CodedMethod.decl := by
  have hrange : methods ∈ Set.range (List.map (@CodedMethod.decl pool)) := by
    rw [Set.range_list_map]
    intro m hm
    obtain ⟨code, hcode⟩ := h m hm
    exact ⟨⟨m, code, hcode⟩, rfl⟩
  obtain ⟨coded, hcoded⟩ := hrange
  exact ⟨coded, hcoded.symm⟩

/-- A method that a class file lays out is decoded from its code; one without code is decoded from
no bytes. -/
theorem exists_code_of_resolveMethod {pool : ConstantPool} {member : ClassFile.RawMember}
    {m : MethodDecl} (h : ClassFile.resolveMethod pool member = .ok m) :
    ∃ code, Bytecode.decode pool code = .ok m.instructions := by
  obtain ⟨name, -, h⟩ := bind_eq_ok h
  obtain ⟨descriptor, -, h⟩ := bind_eq_ok h
  dsimp only at h
  split at h
  · cases h
    exact ⟨[], Bytecode.decodeFrom_eq_nil_iff.2 rfl⟩
  · rename_i code inner _
    obtain ⟨instructions, hdecode, hm⟩ := bind_mapError_eq_ok.1 h
    cases hm
    exact ⟨code, hdecode⟩

/-- **Classes that are read have code.** Every class that is read from a class file is one whose
methods have their code. -/
theorem exists_coded_of_parse {bytes : Bytes} {c : ClassDecl} (h : ClassFile.parse bytes = .ok c) :
    ∃ coded : CodedClass, coded.toClassDecl = c := by
  unfold ClassFile.parse at h
  split at h
  · cases h
  · rename_i raw _
    obtain ⟨name, -, h⟩ := bind_eq_ok h
    obtain ⟨superName, -, h⟩ := bind_eq_ok h
    obtain ⟨interfaces, -, h⟩ := bind_eq_ok h
    obtain ⟨fields, -, h⟩ := bind_eq_ok h
    obtain ⟨methods, hmethods, h⟩ := bind_eq_ok h
    cases h
    obtain ⟨coded, hcoded⟩ := @exists_coded raw.pool methods fun m hm => by
      obtain ⟨member, -, hmember⟩ := exists_of_mem_mapM_ok hmethods hm
      exact exists_code_of_resolveMethod hmember
    exact ⟨⟨_, raw.pool, coded, hcoded⟩, rfl⟩

end BytecodeLint
