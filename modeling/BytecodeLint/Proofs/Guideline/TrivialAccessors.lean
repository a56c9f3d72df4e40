import BytecodeLint.Guideline.InternalAccessors
import BytecodeLint.Proofs.Descriptor
import BytecodeLint.Proofs.Guideline.Verdicts

/-!
# Trivial accessors, byte for byte

A trivial accessor is recognised by its decoded instructions, some by their opcodes and one by the
field it uses. Since instructions tile the code, this is a pattern of bytes: five for a getter
(`GetterCode`), six for a setter (`SetterCode`).

* `SameBodies`: a pattern of instructions and a pattern of bytes that describe the same bodies. Such
  patterns are put together one instruction at a time.
* `isGetter_iff`, `isSetter_iff`: what is taken for a getter or a setter.
* `message?_eq_some_iff`: what is told about one instruction.
* `internal_accessors_exact`: what is found on a class.
-/
namespace BytecodeLint

/-! ## Patterns -/

namespace Bytecode

/-- The two patterns describe the same bodies, wherever these stand. -/
def SameBodies (pool : ConstantPool) (instructions : List Instruction → Prop)
    (bytes : Bytes → Prop) : Prop :=
  ∀ offset code is, decodeFrom pool offset code = .ok is → (instructions is ↔ bytes code)

namespace SameBodies

variable {pool : ConstantPool} {instructions : List Instruction → Prop} {bytes : Bytes → Prop}

theorem nil : SameBodies pool (· = []) (· = []) := by
  intro offset code is h
  constructor
  · rintro rfl
    exact decodeFrom_eq_nil_iff.1 h
  · rintro rfl
    rw [decodeFrom] at h
    exact (Except.ok.inj h).symm

/-- An instruction without operands is its opcode. -/
theorem bare (picks : UInt8 → Bool)
    (hbare : ∀ opcode, picks opcode = true → shape? opcode = some (.fixed 1))
    (hlater : SameBodies pool instructions bytes) :
    SameBodies pool
      (fun is => ∃ i later, is = i :: later ∧ picks i.opcode = true ∧ instructions later)
      (fun code => ∃ opcode rest, code = opcode :: rest ∧ picks opcode = true ∧ bytes rest) := by
  intro offset code is h
  constructor
  · rintro ⟨i, later, rfl, hpick, hinstructions⟩
    obtain ⟨rest, rfl, hrest⟩ := decodeFrom_of_bare h (hbare _ hpick)
    exact ⟨i.opcode, rest, rfl, hpick, (hlater _ _ _ hrest).1 hinstructions⟩
  · rintro ⟨opcode, rest, rfl, hpick, hbytes⟩
    obtain ⟨op, later, -, hrest, rfl⟩ := decodeFrom_fixed (n := 0) (hbare opcode hpick) h
    exact ⟨_, later, rfl, hpick, (hlater _ _ _ hrest).2 hbytes⟩

/-- An instruction that uses a field is its opcode and the number of the constant that names the
field. -/
theorem field {use : FieldUse} {opcode : UInt8} (picks : MemberRef → Prop)
    (huse : ∀ other, fieldUse? other = some use ↔ other = opcode)
    (hlater : SameBodies pool instructions bytes) :
    SameBodies pool
      (fun is => ∃ i later, is = i :: later ∧
        (∃ target, i.operation = .field use target ∧ picks target) ∧ instructions later)
      (fun code => ∃ hi lo rest, code = opcode :: hi :: lo :: rest ∧
        (∃ target, pool.Names (hi.toNat * 256 + lo.toNat) target ∧ picks target) ∧ bytes rest) := by
  intro offset code is h
  constructor
  · rintro ⟨i, later, rfl, ⟨target, hop, hpick⟩, hinstructions⟩
    obtain ⟨other, hi, lo, rest, rfl, hother, hnames, hrest⟩ := decodeFrom_of_field h hop
    obtain rfl := (huse other).1 hother
    exact ⟨hi, lo, rest, rfl, ⟨target, hnames, hpick⟩, (hlater _ _ _ hrest).1 hinstructions⟩
  · rintro ⟨hi, lo, rest, rfl, ⟨target, hnames, hpick⟩, hbytes⟩
    have hthis := (huse opcode).2 rfl
    obtain ⟨op, later, hspelled, hrest, rfl⟩ :=
      decodeFrom_fixed (n := 2) (shape_of_fieldUse opcode (by simp [hthis])) h
    have hop := (hspelled.field use target).2 ⟨opcode, hthis, hi, lo, ⟨rest, rfl⟩, hnames⟩
    exact ⟨_, later, rfl, ⟨target, hop, hpick⟩, (hlater _ _ _ hrest).2 hbytes⟩

end SameBodies

end Bytecode

namespace Guideline.InternalAccessors

open Bytecode Descriptor

/-! ## Accessors -/

/-- The code of a getter: `this` is loaded, a field of the class is read, its value is returned. -/
def GetterCode (pool : ConstantPool) (owner : String) (code : Bytes) : Prop :=
  ∃ hi lo ret target, code = [0x2a, 0xb4, hi, lo, ret] ∧ 0xac ≤ ret ∧ ret ≤ 0xb0 ∧
    pool.Names (hi.toNat * 256 + lo.toNat) target ∧ target.owner = owner

/-- The code of a setter: `this` and the parameter are loaded, a field of the class is written, and
nothing is returned. -/
def SetterCode (pool : ConstantPool) (owner : String) (code : Bytes) : Prop :=
  ∃ load hi lo target, code = [0x2a, load, 0xb5, hi, lo, 0xb1] ∧
    load ∈ [0x1b, 0x1f, 0x23, 0x27, 0x2b] ∧
    pool.Names (hi.toNat * 256 + lo.toNat) target ∧ target.owner = owner

/-- A method that takes nothing, gives a value, and does no more than to read a field of its
class. -/
structure Getter (c : CodedClass) (m : CodedMethod c.pool) : Prop where
  isInstance : m.decl.access.isStatic = false
  descriptor : ∃ type : MethodTy, type.Begins m.decl.descriptor ∧
    type.parameters = [] ∧ type.result ≠ .element .void
  code : GetterCode c.pool c.name m.code

/-- A method that takes one value, gives nothing, and does no more than to write a field of its
class. -/
structure Setter (c : CodedClass) (m : CodedMethod c.pool) : Prop where
  isInstance : m.decl.access.isStatic = false
  descriptor : ∃ type : MethodTy, type.Begins m.decl.descriptor ∧
    type.parameters.length = 1 ∧ type.result = .element .void
  code : SetterCode c.pool c.name m.code

/-- No code is that of both. -/
theorem not_getter_and_setter {c : CodedClass} {m : CodedMethod c.pool} :
    ¬ (Getter c m ∧ Setter c m) := by
  rintro ⟨⟨-, -, hi, lo, ret, target, hget, -⟩, -, -, load, hi', lo', target', hset, -⟩
  simp [hget] at hset

/-! ### Descriptors -/

section
variable {m : MethodDecl}

theorem returnKind_eq_void_iff {type : Ty} : type.returnKind = .void ↔ type = .element .void := by
  rw [returnKind_eq_iff]
  constructor
  · rintro ⟨⟩
    rfl
  · rintro rfl
    exact .void

theorem takes_and_givesValue_iff : (takes m 0 && givesValue m) = true ↔
    ∃ type : MethodTy, type.Begins m.descriptor ∧
      type.parameters = [] ∧ type.result ≠ .element .void := by
  simp only [← methodType_eq_ok_iff, ne_eq, ← returnKind_eq_void_iff, takes, givesValue,
    parameterCount, returnKind]
  cases methodType m.descriptor with
  | error fault => simp [Except.map]
  | ok type =>
    cases hkind : type.result.returnKind <;> simp [Except.map, hkind]

theorem takes_and_givesNothing_iff : (takes m 1 && givesNothing m) = true ↔
    ∃ type : MethodTy, type.Begins m.descriptor ∧
      type.parameters.length = 1 ∧ type.result = .element .void := by
  simp only [← methodType_eq_ok_iff, ← returnKind_eq_void_iff, takes, givesNothing, parameterCount,
    returnKind]
  cases methodType m.descriptor with
  | error fault => simp [Except.map]
  | ok type =>
    cases hkind : type.result.returnKind <;> simp [Except.map, hkind]

end

/-! ### Bodies -/

theorem isOwnField_iff {c : ClassDecl} {use : FieldUse} {i : Instruction} :
    isOwnField c use i = true ↔
      ∃ target, i.operation = .field use target ∧ target.owner = c.name := by
  unfold isOwnField
  split
  · rename_i u target hop
    simp [hop]
  · rename_i hother
    simp only [Bool.false_eq_true, false_iff]
    rintro ⟨target, hop, -⟩
    exact hother use target hop

theorem fieldUse?_getField : ∀ opcode : UInt8, fieldUse? opcode = some .getField ↔ opcode = 0xb4 :=
  forall_opcode (by decide +kernel)

theorem fieldUse?_putField : ∀ opcode : UInt8, fieldUse? opcode = some .putField ↔ opcode = 0xb5 :=
  forall_opcode (by decide +kernel)

/-- None of the other instructions of an accessor has operands. -/
theorem shape_of_accessor : ∀ opcode : UInt8,
    ((opcode == loadThis) = true → shape? opcode = some (.fixed 1)) ∧
    (isLoadFirst opcode = true → shape? opcode = some (.fixed 1)) ∧
    (isValueReturn opcode = true → shape? opcode = some (.fixed 1)) ∧
    ((opcode == voidReturn) = true → shape? opcode = some (.fixed 1)) :=
  forall_opcode (by decide +kernel)

theorem isLoadFirst_iff {opcode : UInt8} :
    isLoadFirst opcode = true ↔ opcode ∈ [0x1b, 0x1f, 0x23, 0x27, 0x2b] := by
  simp [isLoadFirst, or_assoc]

theorem isValueReturn_iff {opcode : UInt8} :
    isValueReturn opcode = true ↔ 0xac ≤ opcode ∧ opcode ≤ 0xb0 := by
  simp [isValueReturn]

theorem getter_bodies (pool : ConstantPool) (c : ClassDecl) :
    SameBodies pool (fun is => ∃ load get ret, is = [load, get, ret] ∧
      (load.opcode == loadThis && isOwnField c .getField get && isValueReturn ret.opcode) = true)
      (GetterCode pool c.name) := by
  have hsame : SameBodies pool _ _ :=
    .bare (· == loadThis) (fun opcode => (shape_of_accessor opcode).1)
      (.field (fun target => target.owner = c.name) fieldUse?_getField
        (.bare isValueReturn (fun opcode => (shape_of_accessor opcode).2.2.1) .nil))
  intro offset code is h
  refine Iff.trans ?_ ((hsame offset code is h).trans ?_)
  · simp only [Bool.and_eq_true, isOwnField_iff]
    constructor
    · rintro ⟨load, get, ret, rfl, ⟨hload, hget⟩, hret⟩
      exact ⟨load, _, rfl, hload, get, _, rfl, hget, ret, _, rfl, hret, rfl⟩
    · rintro ⟨load, _, rfl, hload, get, _, rfl, hget, ret, _, rfl, hret, rfl⟩
      exact ⟨load, get, ret, rfl, ⟨hload, hget⟩, hret⟩
  · simp only [beq_iff_eq, isValueReturn_iff]
    constructor
    · rintro ⟨_, _, rfl, rfl, hi, lo, _, rfl, ⟨target, hnames, howner⟩, ret, _, rfl, hret, rfl⟩
      exact ⟨hi, lo, ret, target, rfl, hret.1, hret.2, hnames, howner⟩
    · rintro ⟨hi, lo, ret, target, rfl, hlow, hhigh, hnames, howner⟩
      exact ⟨_, _, rfl, rfl, hi, lo, _, rfl, ⟨target, hnames, howner⟩, ret, _, rfl, ⟨hlow, hhigh⟩,
        rfl⟩

theorem setter_bodies (pool : ConstantPool) (c : ClassDecl) :
    SameBodies pool (fun is => ∃ load value put ret, is = [load, value, put, ret] ∧
      (load.opcode == loadThis && isLoadFirst value.opcode && isOwnField c .putField put &&
        ret.opcode == voidReturn) = true)
      (SetterCode pool c.name) := by
  have hsame : SameBodies pool _ _ :=
    .bare (· == loadThis) (fun opcode => (shape_of_accessor opcode).1)
      (.bare isLoadFirst (fun opcode => (shape_of_accessor opcode).2.1)
        (.field (fun target => target.owner = c.name) fieldUse?_putField
          (.bare (· == voidReturn) (fun opcode => (shape_of_accessor opcode).2.2.2) .nil)))
  intro offset code is h
  refine Iff.trans ?_ ((hsame offset code is h).trans ?_)
  · simp only [Bool.and_eq_true, isOwnField_iff]
    constructor
    · rintro ⟨load, value, put, ret, rfl, ⟨⟨hload, hvalue⟩, hput⟩, hret⟩
      exact ⟨load, _, rfl, hload, value, _, rfl, hvalue, put, _, rfl, hput, ret, _, rfl, hret, rfl⟩
    · rintro ⟨load, _, rfl, hload, value, _, rfl, hvalue, put, _, rfl, hput, ret, _, rfl, hret, rfl⟩
      exact ⟨load, value, put, ret, rfl, ⟨⟨hload, hvalue⟩, hput⟩, hret⟩
  · simp only [beq_iff_eq, isLoadFirst_iff]
    constructor
    · rintro ⟨_, _, rfl, rfl, value, _, rfl, hvalue, hi, lo, _, rfl, ⟨target, hnames, howner⟩, _, _,
        rfl, rfl, rfl⟩
      exact ⟨value, hi, lo, target, rfl, hvalue, hnames, howner⟩
    · rintro ⟨value, hi, lo, target, rfl, hvalue, hnames, howner⟩
      exact ⟨_, _, rfl, rfl, value, _, rfl, hvalue, hi, lo, _, rfl, ⟨target, hnames, howner⟩, _, _,
        rfl, rfl, rfl⟩

/-! ### Methods -/

section
variable {c : CodedClass} {m : CodedMethod c.pool}

theorem isGetter_iff : isGetter c.toClassDecl m.decl = true ↔ Getter c m := by
  have hbody := getter_bodies c.pool c.toClassDecl 0 m.code m.decl.instructions m.decoded
  rw [isGetter, Bool.and_eq_true, Bool.and_assoc, Bool.and_eq_true, takes_and_givesValue_iff,
    Bool.not_eq_true']
  constructor
  · rintro ⟨⟨hinstance, htype⟩, hmatch⟩
    split at hmatch
    · rename_i load get ret heq
      exact ⟨hinstance, htype, hbody.1 ⟨load, get, ret, heq, hmatch⟩⟩
    · cases hmatch
  · rintro ⟨hinstance, htype, hcode⟩
    obtain ⟨load, get, ret, heq, hmatch⟩ := hbody.2 hcode
    rw [heq]
    exact ⟨⟨hinstance, htype⟩, hmatch⟩

theorem isSetter_iff : isSetter c.toClassDecl m.decl = true ↔ Setter c m := by
  have hbody := setter_bodies c.pool c.toClassDecl 0 m.code m.decl.instructions m.decoded
  rw [isSetter, Bool.and_eq_true, Bool.and_assoc, Bool.and_eq_true, takes_and_givesNothing_iff,
    Bool.not_eq_true']
  constructor
  · rintro ⟨⟨hinstance, htype⟩, hmatch⟩
    split at hmatch
    · rename_i load value put ret heq
      exact ⟨hinstance, htype, hbody.1 ⟨load, value, put, ret, heq, hmatch⟩⟩
    · cases hmatch
  · rintro ⟨hinstance, htype, hcode⟩
    obtain ⟨load, value, put, ret, heq, hmatch⟩ := hbody.2 hcode
    rw [heq]
    exact ⟨⟨hinstance, htype⟩, hmatch⟩

/-- The word for a trivial accessor. -/
def Called (c : CodedClass) (m : CodedMethod c.pool) (word : String) : Prop :=
  (Getter c m ∧ word = "getter") ∨ (Setter c m ∧ word = "setter")

theorem accessorWord?_eq_some_iff {word : String} :
    accessorWord? c.toClassDecl m.decl = some word ↔ Called c m word := by
  have hboth := @not_getter_and_setter c m
  rw [← isGetter_iff, ← isSetter_iff] at hboth
  rw [accessorWord?, Called, ← isGetter_iff, ← isSetter_iff]
  cases hget : isGetter c.toClassDecl m.decl with
  | true =>
    have hset : isSetter c.toClassDecl m.decl = false := by simpa [hget] using hboth
    simp [hset, eq_comm]
  | false => cases hset : isSetter c.toClassDecl m.decl <;> simp [eq_comm]

/-- The method is the first of its class with the name and the descriptor. -/
def FirstNamed (c : CodedClass) (name descriptor : String) (m : CodedMethod c.pool) : Prop :=
  (m.decl.name = name ∧ m.decl.descriptor = descriptor) ∧ ∃ before after,
    c.coded = before ++ m :: after ∧
      ∀ other ∈ before, ¬ (other.decl.name = name ∧ other.decl.descriptor = descriptor)

theorem method?_eq_some_iff {name descriptor : String} {callee : MethodDecl} :
    c.toClassDecl.method? name descriptor = some callee ↔
      ∃ m, FirstNamed c name descriptor m ∧ m.decl = callee := by
  rw [ClassDecl.method?, c.methods_eq, List.find?_map, Option.map_eq_some_iff]
  simp [List.find?_eq_some_iff_append, FirstNamed, MethodDecl.hasSignature, -not_and, not_and_or]

end

/-! ## Calls -/

theorem callKind?_virtual : ∀ opcode : UInt8, callKind? opcode = some .virtual ↔ opcode = 0xb6 :=
  forall_opcode (by decide +kernel)

theorem callKind?_special : ∀ opcode : UInt8, callKind? opcode = some .special ↔ opcode = 0xb7 :=
  forall_opcode (by decide +kernel)

/-- What is told about a call. -/
def told (word : String) (target : MemberRef) (location : String) : String :=
  "Internal " ++ word ++ " " ++ target.name ++ target.descriptor ++ " called from " ++ location ++
    "; access the field directly"

theorem isInstanceCall_iff {kind : CallKind} :
    isInstanceCall kind = true ↔ kind = .virtual ∨ kind = .special := by
  simp [isInstanceCall]

theorem message?_eq_some_iff {c : ClassDecl} {m : MethodDecl} {i : Instruction} {text : String} :
    message? c m i = some text ↔ m.name ≠ "<init>" ∧ ∃ target callee word,
      (i.operation = .invoke .virtual target ∨ i.operation = .invoke .special target) ∧
        target.owner = c.name ∧ c.method? target.name target.descriptor = some callee ∧
        accessorWord? c callee = some word ∧ text = told word target (c.location m) := by
  unfold message?
  rw [Option.ite_none_left_eq_some]
  refine and_congr (by simp [MethodDecl.isConstructor, constructorName]) ?_
  split
  · rename_i kind target hop
    rw [Option.ite_none_right_eq_some, Bool.and_eq_true, isInstanceCall_iff, beq_iff_eq]
    simp only [Option.bind_eq_bind, Option.bind_eq_some_iff, Option.some.injEq, hop,
      Operation.invoke.injEq, ← or_and_right]
    constructor
    · rintro ⟨⟨hkind, howner⟩, callee, hcallee, word, hword, rfl⟩
      exact ⟨target, callee, word, ⟨hkind, rfl⟩, howner, hcallee, hword, rfl⟩
    · rintro ⟨_, callee, word, ⟨hkind, rfl⟩, howner, hcallee, hword, rfl⟩
      exact ⟨⟨hkind, howner⟩, callee, hcallee, word, hword, rfl⟩
  · rename_i hother
    simp only [reduceCtorEq, false_iff]
    rintro ⟨target, callee, word, hop | hop, -⟩
    · exact hother _ _ hop
    · exact hother _ _ hop

/-- An instruction outside of constructors that calls a method of its own class, by `invokevirtual`
or `invokespecial`, whose first declaration is a trivial accessor, and the finding at it. -/
def CallsOwnAccessor (c : CodedClass) (site : CodedMethod c.pool × Instruction) (f : Finding) :
    Prop :=
  site.1.decl.name ≠ "<init>" ∧ ∃ target callee word,
    (Mentions c.pool (site.1.code.drop site.2.offset) 0xb6 target ∨
      Mentions c.pool (site.1.code.drop site.2.offset) 0xb7 target) ∧
    target.owner = c.name ∧ FirstNamed c target.name target.descriptor callee ∧
    Called c callee word ∧
    f = ⟨site.1.decl, site.2, told word target (c.location site.1.decl)⟩

theorem finding_of_site_iff {c : CodedClass} {site : CodedMethod c.pool × Instruction}
    (hsite : site ∈ c.sites) {f : Finding} :
    ((message? c.toClassDecl site.1.decl site.2).map fun text => ⟨site.1.decl, site.2, text⟩) =
      some f ↔ CallsOwnAccessor c site f := by
  have hspelled := site.1.spelled (CodedClass.mem_sites.1 hsite).2
  simp only [Option.map_eq_some_iff, message?_eq_some_iff, method?_eq_some_iff, hspelled.call,
    callKind?_virtual, callKind?_special, exists_eq_left, CallsOwnAccessor]
  constructor
  · rintro ⟨_, ⟨hname, target, _, word, hcall, howner, ⟨callee, hfirst, rfl⟩, hword, rfl⟩, rfl⟩
    exact ⟨hname, target, callee, word, hcall, howner, hfirst, accessorWord?_eq_some_iff.1 hword,
      rfl⟩
  · rintro ⟨hname, target, callee, word, hcall, howner, hfirst, hcalled, rfl⟩
    exact ⟨_, ⟨hname, target, _, word, hcall, howner, ⟨callee, hfirst, rfl⟩,
      accessorWord?_eq_some_iff.2 hcalled, rfl⟩, rfl⟩

/-- **Internal accessors are found byte for byte.** The instructions of every method tile its code,
and no method is both a getter and a setter. On every class, whatever is around it, there is one
finding for each instruction that calls a trivial accessor of the class, in the order of methods and
instructions, which says what the accessor is called, and nothing else. -/
theorem internal_accessors_exact (c : CodedClass) (index : ClassIndex) :
    (∀ m ∈ c.coded, Tiling m.code 0 (m.decl.instructions.map Instruction.offset)) ∧
    (∀ m : CodedMethod c.pool, ¬ (Getter c m ∧ Setter c m)) ∧
    ∃ fs, guideline.check index c.toClassDecl = .ok fs ∧
      Verdicts (CallsOwnAccessor c) c.sites fs := by
  refine ⟨fun m _ => m.tiling, fun m => not_getter_and_setter, _, rfl, ?_⟩
  rw [findings, c.findings_eq]
  exact verdicts_filterMap fun site hsite f => finding_of_site_iff hsite

end Guideline.InternalAccessors

end BytecodeLint
