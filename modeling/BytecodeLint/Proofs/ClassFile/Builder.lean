import BytecodeLint.ClassFile.Resolve
import BytecodeLint.Proofs.ClassFile.ConstantPool
import Mathlib.Data.List.Forall2
import Mathlib.Data.List.Induction

/-!
# Writing class files

A builder collects the constants, fields and methods of a class. Every constant it is asked for is
put behind the others and is known by its number from then on, counted from 1 in sixteen bits; the
same text may be there more than once. `Builder.finish` lays the class out.

* `Call` is what a builder can be asked for, `Builder.after` the builder after a list of calls.
* `Adds`: what adding constants does to a builder, with one rule per operation.
* `records_after`: as long as numbers have room in sixteen bits, what a builder holds is what it was
  asked for, its numbers leading to the texts of the calls.
-/
namespace BytecodeLint.ClassFile

open Bytes (beU16 beU32)

/-! ## What is collected -/

/-- A constant to be written. Constants lead to others by their numbers. -/
inductive PoolEntry where
  | utf8 (text : String)
  | classRef (name : UInt16)
  | nameAndType (name descriptor : UInt16)
  | fieldRef (owner pair : UInt16)
  | methodRef (owner pair : UInt16)
  deriving DecidableEq, Repr

/-- A field to be written. -/
structure FieldSpec where
  access : UInt16
  name : UInt16
  descriptor : UInt16
  deriving DecidableEq, Repr

/-- From byte offset `startPc` on, the code belongs to source line `line`. -/
structure LineSpec where
  startPc : UInt16
  line : UInt16
  deriving DecidableEq, Repr

/-- A method to be written, always with code. -/
structure MethodSpec where
  access : UInt16
  name : UInt16
  descriptor : UInt16
  code : Bytes
  maxStack : UInt16
  maxLocals : UInt16
  lines : List LineSpec
  deriving DecidableEq, Repr

/-- A class to be written. `codeName` and `lineTableName` are the numbers of the names of the two
attributes that methods have. -/
structure Builder where
  entries : List PoolEntry := []
  access : UInt16 := 0x0021
  thisClass : UInt16 := 0
  superClass : UInt16 := 0
  fields : List FieldSpec := []
  methods : List MethodSpec := []
  codeName : UInt16 := 0
  lineTableName : UInt16 := 0
  deriving DecidableEq, Repr

/-- An operation on a builder. -/
abbrev Building := StateM Builder

/-- Puts a constant behind the others and gives its number. -/
def push (e : PoolEntry) : Building UInt16 :=
  modifyGet fun b => (UInt16.ofNat (b.entries.length + 1), { b with entries := b.entries ++ [e] })

def addText (text : String) : Building UInt16 := push (.utf8 text)

def addClass (name : String) : Building UInt16 := do
  let nameIndex ← addText name
  push (.classRef nameIndex)

/-- Adds the two texts of a member and gives their numbers. -/
def addSignature (name descriptor : String) : Building (UInt16 × UInt16) := do
  let nameIndex ← addText name
  let descriptorIndex ← addText descriptor
  pure (nameIndex, descriptorIndex)

def addNameAndType (name descriptor : String) : Building UInt16 := do
  let texts ← addSignature name descriptor
  push (.nameAndType texts.1 texts.2)

/-- Adds a member of a class; `entry` says of which kind. -/
def addMember (entry : UInt16 → UInt16 → PoolEntry) (ref : MemberRef) : Building UInt16 := do
  let owner ← addClass ref.owner
  let pair ← addNameAndType ref.name ref.descriptor
  push (entry owner pair)

/-- A field as it is asked for. -/
structure FieldSource where
  access : UInt16
  name : String
  descriptor : String
  deriving DecidableEq, Repr

/-- A method as it is asked for. -/
structure MethodSource where
  access : UInt16
  name : String
  descriptor : String
  code : Bytes
  maxLocals : UInt16 := 0
  lines : List LineSpec := []
  deriving DecidableEq, Repr

def addField (f : FieldSource) : Building Unit := do
  let texts ← addSignature f.name f.descriptor
  modify fun b => { b with fields := b.fields ++ [⟨f.access, texts.1, texts.2⟩] }

def addMethod (m : MethodSource) : Building Unit := do
  let texts ← addSignature m.name m.descriptor
  modify fun b => { b with
    methods := b.methods ++
      [⟨m.access, texts.1, texts.2, m.code, 2, m.maxLocals, m.lines⟩] }

/-- What comes first: the names of attributes, the class and its super class. -/
def start (name superName : String) : Building Unit := do
  let codeName ← addText "Code"
  let lineTableName ← addText "LineNumberTable"
  let thisClass ← addClass name
  let superClass ← addClass superName
  modify fun b => { b with codeName, lineTableName, thisClass, superClass }

/-- What a builder can be asked for. -/
inductive Call where
  | access (flags : UInt16)
  | text (value : String)
  | classRef (name : String)
  | fieldRef (ref : MemberRef)
  | methodRef (ref : MemberRef)
  | field (f : FieldSource)
  | method (m : MethodSource)
  deriving DecidableEq, Repr

def Call.perform : Call → Building Unit
  | .access flags => modify fun b => { b with access := flags }
  | .text value => do let _ ← addText value
  | .classRef name => do let _ ← addClass name
  | .fieldRef ref => do let _ ← addMember .fieldRef ref
  | .methodRef ref => do let _ ← addMember .methodRef ref
  | .field f => addField f
  | .method m => addMethod m

/-- The builder of a class after some calls. -/
def Builder.after (name superName : String) (calls : List Call) : Builder :=
  calls.foldl (fun b call => (call.perform.run b).2) ((start name superName).run {}).2

/-! ## The file -/

/-- A text in UTF-8. -/
def textBytes (text : String) : Bytes := Bytes.ofByteArray text.toUTF8

def PoolEntry.encode : PoolEntry → Bytes
  | .utf8 text => 1 :: (beU16 text.utf8ByteSize ++ textBytes text)
  | .classRef name => 7 :: beU16 name.toNat
  | .nameAndType name descriptor => 12 :: (beU16 name.toNat ++ beU16 descriptor.toNat)
  | .fieldRef owner pair => 9 :: (beU16 owner.toNat ++ beU16 pair.toNat)
  | .methodRef owner pair => 10 :: (beU16 owner.toNat ++ beU16 pair.toNat)

/-- The constants behind their count, which is one more than there are. -/
def encodePool (entries : List PoolEntry) : Bytes :=
  beU16 (entries.length + 1) ++ entries.flatMap PoolEntry.encode

/-- A table: a two byte count and then the rows. -/
def encodeTable {α : Type} (encode : α → Bytes) (rows : List α) : Bytes :=
  beU16 rows.length ++ rows.flatMap encode

def FieldSpec.encode (f : FieldSpec) : Bytes :=
  beU16 f.access.toNat ++ beU16 f.name.toNat ++ beU16 f.descriptor.toNat ++ beU16 0

def LineSpec.encode (l : LineSpec) : Bytes := beU16 l.startPc.toNat ++ beU16 l.line.toNat

namespace MethodSpec

/-- The line table with the header of an attribute; a method without lines has none. -/
def lineTable (lineTableName : UInt16) (m : MethodSpec) : Bytes :=
  if m.lines = [] then beU16 0
  else
    beU16 1 ++ (beU16 lineTableName.toNat ++ beU32 (2 + 4 * m.lines.length) ++
      encodeTable LineSpec.encode m.lines)

/-- The length that the header of the code tells. -/
def codeLength (m : MethodSpec) : Nat :=
  12 + m.code.length + if m.lines = [] then 0 else 8 + 4 * m.lines.length

/-- How much room the code takes when it runs. -/
def limits (m : MethodSpec) : Bytes := beU16 m.maxStack.toNat ++ beU16 m.maxLocals.toNat

/-- The code with the header of an attribute, and without handlers of exceptions. -/
def codeAttribute (codeName lineTableName : UInt16) (m : MethodSpec) : Bytes :=
  beU16 codeName.toNat ++ beU32 m.codeLength ++ m.limits ++ beU32 m.code.length ++ m.code ++
    beU16 0 ++ m.lineTable lineTableName

def encode (codeName lineTableName : UInt16) (m : MethodSpec) : Bytes :=
  beU16 m.access.toNat ++ beU16 m.name.toNat ++ beU16 m.descriptor.toNat ++
    (beU16 1 ++ m.codeAttribute codeName lineTableName)

end MethodSpec

/-- The version of the format, minor part first. -/
def version : Bytes := beU16 0 ++ beU16 52

/-- The bytes of the class. -/
def Builder.finish (b : Builder) : Bytes :=
  beU32 magic ++ version ++ encodePool b.entries ++
    beU16 b.access.toNat ++ beU16 b.thisClass.toNat ++ beU16 b.superClass.toNat ++ beU16 0 ++
    encodeTable FieldSpec.encode b.fields ++
    encodeTable (MethodSpec.encode b.codeName b.lineTableName) b.methods ++ beU16 0

/-- The number of bytes of a text; other constants have a fixed size. -/
def PoolEntry.textLength : PoolEntry → Nat
  | .utf8 text => text.utf8ByteSize
  | _ => 0

/-- Counts and the lengths of texts and bodies have room in their fields. -/
structure Builder.Fits (b : Builder) : Prop where
  entries : b.entries.length + 1 < 65536
  texts : ∀ e ∈ b.entries, e.textLength < 65536
  fields : b.fields.length < 65536
  methods : b.methods.length < 65536
  bodies : ∀ m ∈ b.methods, m.codeLength < 4294967296
  lines : ∀ m ∈ b.methods, m.lines.length < 65536

/-! ## The constants -/

/-- A constant as it is read. -/
def PoolEntry.constant : PoolEntry → Constant
  | .utf8 text => .utf8 text
  | .classRef name => .classRef name.toNat
  | .nameAndType name descriptor => .nameAndType name.toNat descriptor.toNat
  | .fieldRef owner pair => .member owner.toNat pair.toNat
  | .methodRef owner pair => .member owner.toNat pair.toNat

/-- The constant pool that a list of constants makes up. -/
def poolOf (entries : List PoolEntry) : ConstantPool :=
  ⟨(Constant.unusable :: entries.map PoolEntry.constant).toArray⟩

/-- The constant pool of the class. -/
def Builder.pool (b : Builder) : ConstantPool := poolOf b.entries

theorem get?_poolOf {front back : List PoolEntry} {e : PoolEntry} :
    (poolOf (front ++ e :: back)).get? (front.length + 1) = some e.constant := by
  simp [poolOf, ConstantPool.get?]

/-- What an operation that only adds constants does: the new ones come behind the others, and what
it gives has the property under every pool that begins with them, if numbers have room. -/
structure Adds {α : Type} (op : Building α) (holds : ConstantPool → α → Prop) : Prop where
  behind : ∀ b, ∃ more, (op.run b).2 = { b with entries := b.entries ++ more }
  gives : ∀ b final, (op.run b).2.entries <+: final → final.length + 1 < 65536 →
    holds (poolOf final) (op.run b).1

section
variable {α β : Type} {op : Building α} {f : α → Building β} {holds held : ConstantPool → α → Prop}
  {next : α → ConstantPool → β → Prop}

theorem Adds.imp (h : Adds op held) (himp : ∀ pool x, held pool x → holds pool x) :
    Adds op holds :=
  ⟨h.behind, fun b final hfinal hroom => himp _ _ (h.gives b final hfinal hroom)⟩

theorem adds_pure (x : α) : Adds (pure x) fun _ y => y = x :=
  ⟨fun b => ⟨[], by rw [List.append_nil]; rfl⟩, fun _ _ _ _ => rfl⟩

theorem adds_bind (h : Adds op holds) (hf : ∀ x, Adds (f x) (next x)) :
    Adds (op >>= f) fun pool y => ∃ x, holds pool x ∧ next x pool y := by
  constructor
  · intro b
    obtain ⟨more, hmore⟩ := h.behind b
    obtain ⟨later, hlater⟩ := (hf (op.run b).1).behind (op.run b).2
    refine ⟨more ++ later, ?_⟩
    show ((f (op.run b).1).run (op.run b).2).2 = _
    rw [hlater, hmore, List.append_assoc]
  · intro b final hfinal hroom
    obtain ⟨later, hlater⟩ := (hf (op.run b).1).behind (op.run b).2
    have hfirst : (op.run b).2.entries <+: ((f (op.run b).1).run (op.run b).2).2.entries := by
      rw [hlater]
      exact List.prefix_append ..
    exact ⟨_, h.gives b final (hfirst.trans hfinal) hroom,
      (hf _).gives _ final hfinal hroom⟩

theorem adds_push (e : PoolEntry) :
    Adds (push e) fun pool index => pool.get? index.toNat = some e.constant := by
  refine ⟨fun b => ⟨[e], rfl⟩, fun b final hfinal hroom => ?_⟩
  obtain ⟨back, rfl⟩ : ∃ back, b.entries ++ [e] ++ back = final := hfinal
  have hindex : (UInt16.ofNat (b.entries.length + 1)).toNat = b.entries.length + 1 := by
    simp only [List.length_append, List.length_singleton] at hroom
    rw [UInt16.toNat_ofNat', Nat.mod_eq_of_lt (by omega)]
  show (poolOf _).get? (UInt16.ofNat (b.entries.length + 1)).toNat = _
  rw [hindex, List.append_assoc]
  exact get?_poolOf

theorem adds_text (text : String) :
    Adds (addText text) fun pool index => pool.utf8 index.toNat = .ok text :=
  (adds_push _).imp fun _ _ h => ConstantPool.utf8_eq_ok.2 h

theorem adds_class (name : String) :
    Adds (addClass name) fun pool index => pool.className index.toNat = .ok name := by
  refine (adds_bind (adds_text name) fun text => adds_push _).imp fun pool index h => ?_
  obtain ⟨text, htext, hindex⟩ := h
  exact ConstantPool.className_eq_ok.2 ⟨_, hindex, ConstantPool.utf8_eq_ok.1 htext⟩

theorem adds_signature (name descriptor : String) :
    Adds (addSignature name descriptor) fun pool texts =>
      pool.utf8 texts.1.toNat = .ok name ∧ pool.utf8 texts.2.toNat = .ok descriptor := by
  refine (adds_bind (adds_text name) fun first => adds_bind (adds_text descriptor) fun second =>
    adds_pure (first, second)).imp fun pool texts h => ?_
  obtain ⟨first, hfirst, second, hsecond, rfl⟩ := h
  exact ⟨hfirst, hsecond⟩

/-- A member that was added is the one that its number names. -/
theorem adds_member {entry : UInt16 → UInt16 → PoolEntry}
    (hentry : ∀ owner pair, (entry owner pair).constant = .member owner.toNat pair.toNat)
    (ref : MemberRef) :
    Adds (addMember entry ref) fun pool index => pool.member index.toNat = .ok ref := by
  refine (adds_bind (adds_class ref.owner) fun owner => adds_bind
    (adds_bind (adds_signature ref.name ref.descriptor) fun texts => adds_push _) fun pair =>
      adds_push _).imp fun pool index h => ?_
  obtain ⟨owner, howner, pair, ⟨texts, ⟨hname, hdescriptor⟩, hpair⟩, hindex⟩ := h
  rw [hentry] at hindex
  obtain ⟨text, hclass, htext⟩ := ConstantPool.className_eq_ok.1 howner
  exact ConstantPool.member_eq_ok_iff.2 ⟨_, _, text, _, _, hindex, hclass, htext, hpair,
    ConstantPool.utf8_eq_ok.1 hname, ConstantPool.utf8_eq_ok.1 hdescriptor⟩

end

/-! ## What a builder holds -/

def Call.access? : Call → Option UInt16
  | .access flags => some flags
  | _ => none

def Call.field? : Call → Option FieldSource
  | .field f => some f
  | _ => none

def Call.method? : Call → Option MethodSource
  | .method m => some m
  | _ => none

/-- The flags that were asked for last, or those a class has by default. -/
def accessOf (calls : List Call) : UInt16 :=
  ((calls.filterMap Call.access?).getLast?).getD 0x0021

/-- The fields that were asked for. -/
def fieldsOf (calls : List Call) : List FieldSource := calls.filterMap Call.field?

/-- The methods that were asked for. -/
def methodsOf (calls : List Call) : List MethodSource := calls.filterMap Call.method?

section
variable (calls : List Call) {call : Call}

theorem accessOf_concat_none (h : call.access? = none) :
    accessOf (calls ++ [call]) = accessOf calls := by
  simp [accessOf, h]

theorem fieldsOf_concat_none (h : call.field? = none) :
    fieldsOf (calls ++ [call]) = fieldsOf calls := by
  simp [fieldsOf, h]

theorem methodsOf_concat_none (h : call.method? = none) :
    methodsOf (calls ++ [call]) = methodsOf calls := by
  simp [methodsOf, h]

end

/-- The numbers of a field lead to the texts that were asked for. -/
structure FieldSpec.Records (pool : ConstantPool) (spec : FieldSpec) (f : FieldSource) : Prop where
  access : spec.access = f.access
  name : pool.utf8 spec.name.toNat = .ok f.name
  descriptor : pool.utf8 spec.descriptor.toNat = .ok f.descriptor

/-- The numbers of a method lead to the texts that were asked for, and its code and lines are those
that were asked for. -/
structure MethodSpec.Records (pool : ConstantPool) (spec : MethodSpec) (m : MethodSource) :
    Prop where
  access : spec.access = m.access
  name : pool.utf8 spec.name.toNat = .ok m.name
  descriptor : pool.utf8 spec.descriptor.toNat = .ok m.descriptor
  code : spec.code = m.code
  lines : spec.lines = m.lines

/-- A builder holds what it was asked for. -/
structure Builder.Records (pool : ConstantPool) (b : Builder) (name superName : String)
    (calls : List Call) : Prop where
  codeName : pool.utf8 b.codeName.toNat = .ok "Code"
  lineTableName : pool.utf8 b.lineTableName.toNat = .ok "LineNumberTable"
  thisClass : pool.className b.thisClass.toNat = .ok name
  superClass : pool.className b.superClass.toNat = .ok superName
  access : b.access = accessOf calls
  fields : List.Forall₂ (FieldSpec.Records pool) b.fields (fieldsOf calls)
  methods : List.Forall₂ (MethodSpec.Records pool) b.methods (methodsOf calls)

theorem Adds.keeps_entries {α : Type} {op : Building α} {holds : ConstantPool → α → Prop}
    (h : Adds op holds) (b : Builder) : b.entries <+: (op.run b).2.entries := by
  obtain ⟨more, hmore⟩ := h.behind b
  rw [hmore]
  exact List.prefix_append ..

theorem Call.keeps_entries (call : Call) (b : Builder) :
    b.entries <+: (call.perform.run b).2.entries := by
  cases call with
  | access flags => exact List.prefix_refl _
  | text value => exact (adds_text value).keeps_entries b
  | classRef name => exact (adds_class name).keeps_entries b
  | fieldRef ref => exact (adds_member (fun _ _ => rfl) ref).keeps_entries b
  | methodRef ref => exact (adds_member (fun _ _ => rfl) ref).keeps_entries b
  | field f => exact (adds_signature f.name f.descriptor).keeps_entries b
  | method m => exact (adds_signature m.name m.descriptor).keeps_entries b

section
variable {name superName : String} {final : List PoolEntry}

/-- What is recorded stays recorded when constants are added. -/
theorem Builder.Records.adds {α : Type} {op : Building α} {holds : ConstantPool → α → Prop}
    (hop : Adds op holds) {pool : ConstantPool} {b : Builder} {calls : List Call}
    (h : b.Records pool name superName calls) :
    (op.run b).2.Records pool name superName calls := by
  obtain ⟨more, hmore⟩ := hop.behind b
  rw [hmore]
  exact { h with }

/-- A call that only adds constants asks for nothing else. -/
theorem Builder.Records.silent {pool : ConstantPool} {b : Builder} {calls : List Call}
    (h : b.Records pool name superName calls) {call : Call} (haccess : call.access? = none)
    (hfield : call.field? = none) (hmethod : call.method? = none) :
    b.Records pool name superName (calls ++ [call]) :=
  { h with
    access := by rw [accessOf_concat_none calls haccess, h.access]
    fields := by rw [fieldsOf_concat_none calls hfield]; exact h.fields
    methods := by rw [methodsOf_concat_none calls hmethod]; exact h.methods }

/-- What one more call does. -/
theorem records_perform {b : Builder} {calls : List Call} {call : Call}
    (h : b.Records (poolOf final) name superName calls)
    (hfinal : (call.perform.run b).2.entries <+: final) (hroom : final.length + 1 < 65536) :
    (call.perform.run b).2.Records (poolOf final) name superName (calls ++ [call]) := by
  cases call with
  | text value => exact (h.adds (adds_text value)).silent rfl rfl rfl
  | classRef name => exact (h.adds (adds_class name)).silent rfl rfl rfl
  | fieldRef ref => exact (h.adds (adds_member (fun _ _ => rfl) ref)).silent rfl rfl rfl
  | methodRef ref => exact (h.adds (adds_member (fun _ _ => rfl) ref)).silent rfl rfl rfl
  | access flags =>
    exact { h with
      access := by simp [accessOf, Call.access?]; rfl
      fields := by rw [fieldsOf_concat_none calls rfl]; exact h.fields
      methods := by rw [methodsOf_concat_none calls rfl]; exact h.methods }
  | field f =>
    have hadds := adds_signature f.name f.descriptor
    have hbefore := h.adds hadds
    obtain ⟨hname, hdescriptor⟩ := hadds.gives b final hfinal hroom
    have hfields : fieldsOf (calls ++ [.field f]) = fieldsOf calls ++ [f] := by
      simp [fieldsOf, Call.field?]
    exact { hbefore with
      access := by rw [accessOf_concat_none calls rfl]; exact hbefore.access
      fields := by
        rw [hfields]
        exact List.rel_append hbefore.fields (.cons ⟨rfl, hname, hdescriptor⟩ .nil)
      methods := by rw [methodsOf_concat_none calls rfl]; exact hbefore.methods }
  | method m =>
    have hadds := adds_signature m.name m.descriptor
    have hbefore := h.adds hadds
    obtain ⟨hname, hdescriptor⟩ := hadds.gives b final hfinal hroom
    have hmethods : methodsOf (calls ++ [.method m]) = methodsOf calls ++ [m] := by
      simp [methodsOf, Call.method?]
    exact { hbefore with
      access := by rw [accessOf_concat_none calls rfl]; exact hbefore.access
      fields := by rw [fieldsOf_concat_none calls rfl]; exact hbefore.fields
      methods := by
        rw [hmethods]
        exact List.rel_append hbefore.methods (.cons ⟨rfl, hname, hdescriptor, rfl, rfl⟩ .nil) }

/-- What a builder holds before the first call. -/
theorem records_start (hfinal : ((start name superName).run {}).2.entries <+: final)
    (hroom : final.length + 1 < 65536) :
    ((start name superName).run {}).2.Records (poolOf final) name superName [] := by
  -- the constants come one after the other, and the last step only notes their numbers
  have hadds := adds_bind (adds_text "Code") fun code => adds_bind (adds_text "LineNumberTable")
    fun lineTable => adds_bind (adds_class name) fun this => adds_bind (adds_class superName)
      fun super => adds_pure (code, lineTable, this, super)
  obtain ⟨code, hcode, lineTable, hlineTable, this, hthis, super, hsuper, heq⟩ :=
    hadds.gives {} final hfinal hroom
  cases heq
  exact ⟨hcode, hlineTable, hthis, hsuper, rfl, .nil, .nil⟩

/-- **A builder holds what it was asked for.** -/
theorem records_after {calls : List Call}
    (hfinal : (Builder.after name superName calls).entries <+: final)
    (hroom : final.length + 1 < 65536) :
    (Builder.after name superName calls).Records (poolOf final) name superName calls := by
  induction calls using List.reverseRecOn with
  | nil => exact records_start hfinal hroom
  | append_singleton calls call ih =>
    have hlast : Builder.after name superName (calls ++ [call]) =
        (call.perform.run (Builder.after name superName calls)).2 := by
      simp [Builder.after]
    rw [hlast] at hfinal ⊢
    exact records_perform (ih ((call.keeps_entries _).trans hfinal)) hfinal hroom

end

end BytecodeLint.ClassFile
