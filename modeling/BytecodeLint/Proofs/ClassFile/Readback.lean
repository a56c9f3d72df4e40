import BytecodeLint.Proofs.ClassFile.Builder
import BytecodeLint.Proofs.FileTree
import Mathlib.Data.Nat.Bitwise

/-!
# Reading what was written

A class that was written is read back as it was asked for. Every part of a class file is read to its
last byte and no further, so that the parts can be put behind one another:

* `Reader.Reads`: a reader takes just these bytes, whatever follows, and gives this value.
* `ofBytes?_finish`: the layout of a class that was written.
* `parse_finish`: its name, super class, flags, fields and methods.
-/

namespace BytecodeLint

/-! ## Readers -/

namespace Reader

open Bytes (beU16 beU32)

/-- The reader takes just these bytes, whatever follows them, and gives the value. -/
def Reads {α : Type} (r : Reader α) (bs : Bytes) (x : α) : Prop :=
  ∀ rest, r (bs ++ rest) = some (x, rest)

variable {α β : Type} {r : Reader α} {f : α → Reader β} {bs cs : Bytes} {x : α} {y : β}

theorem reads_pure (x : α) : (pure x : Reader α).Reads [] x := fun _ => rfl

theorem Reads.bind (h : r.Reads bs x) (hf : (f x).Reads cs y) : (r >>= f).Reads (bs ++ cs) y := by
  intro rest
  show (r (bs ++ cs ++ rest)).bind (fun p => f p.1 p.2) = _
  rw [List.append_assoc, h]
  exact hf rest

/-- The last reader of a chain: what it gives is only made into something else. -/
theorem Reads.last {g : α → β} (h : r.Reads bs x) :
    (r >>= fun a => pure (g a)).Reads bs (g x) := by
  have hchain : (r >>= fun a => pure (g a)).Reads (bs ++ []) (g x) := h.bind (reads_pure (g x))
  rwa [List.append_nil] at hchain

theorem Reads.whole (h : r.Reads bs x) : r.whole bs = some x := by
  have hend := h []
  rw [List.append_nil] at hend
  simp [Reader.whole, hend]

theorem reads_u8 (b : UInt8) : u8.Reads [b] b := fun _ => rfl

theorem reads_u16 {n : Nat} (h : n < 65536) : u16.Reads (beU16 n) n := by
  intro rest
  show some ((UInt8.ofNat (n / 256)).toNat * 256 + (UInt8.ofNat n).toNat, rest) = _
  rw [UInt8.toNat_ofNat', UInt8.toNat_ofNat', show n / 256 % 2 ^ 8 * 256 + n % 2 ^ 8 = n by omega]

theorem reads_u32 {n : Nat} (h : n < 4294967296) : u32.Reads (beU32 n) n := by
  intro rest
  show some ((((UInt8.ofNat (n / 16777216)).toNat * 256 + (UInt8.ofNat (n / 65536)).toNat) * 256 +
    (UInt8.ofNat (n / 256)).toNat) * 256 + (UInt8.ofNat n).toNat, rest) = _
  simp only [UInt8.toNat_ofNat', Option.some.injEq, Prod.mk.injEq, and_true]
  omega

theorem reads_take (bs : Bytes) : (take bs.length).Reads bs bs := by
  intro rest
  simp [take]

theorem reads_skip (bs : Bytes) {n : Nat} (h : bs.length = n) : (skip n).Reads bs () := by
  subst h
  exact (reads_take bs).last

/-- Row by row. -/
theorem reads_times {encode : β → Bytes} {g : β → α} (ys : List β)
    (h : ∀ y ∈ ys, r.Reads (encode y) (g y)) :
    (times ys.length r).Reads (ys.flatMap encode) (ys.map g) := by
  induction ys with
  | nil => exact reads_pure []
  | cons y ys ih =>
    have hrest := ih fun z hz => h z (List.mem_cons_of_mem y hz)
    exact (h y List.mem_cons_self).bind hrest.last

theorem reads_table16_nil : (table16 r).Reads (beU16 0) [] :=
  (reads_u16 (by decide)).bind (reads_pure [])

theorem Reads.table16_one (h : r.Reads bs x) : (table16 r).Reads (beU16 1 ++ bs) [x] :=
  (reads_u16 (by decide)).bind (h.last (g := fun a => [a]))

theorem reads_skipTable16_nil {row : Reader Unit} : (skipTable16 row).Reads (beU16 0) () :=
  (reads_u16 (by decide)).bind (reads_pure ())

end Reader

namespace ClassFile

open Bytes (beU16 beU32)
open Reader

theorem reads_word (n : UInt16) : u16.Reads (beU16 n.toNat) n.toNat := reads_u16 n.toNat_lt

theorem reads_encodeTable {α β : Type} {r : Reader α} {encode : β → Bytes} {g : β → α}
    {rows : List β} (hroom : rows.length < 65536) (h : ∀ y ∈ rows, r.Reads (encode y) (g y)) :
    (table16 r).Reads (encodeTable encode rows) (rows.map g) :=
  (reads_u16 hroom).bind (reads_times rows h)

/-! ## Constants -/

theorem ofClassBytes_textBytes (text : String) : Text.ofClassBytes (textBytes text) = text := by
  have hbytes : (textBytes text).toByteArray = text.toUTF8 := rfl
  rw [Text.ofClassBytes, hbytes, FileTree.fromUTF8?_toUTF8]

theorem length_textBytes (text : String) : (textBytes text).length = text.utf8ByteSize := rfl

/-- A constant is a tag, never that of a wide constant, and a body. -/
theorem PoolEntry.reads_constant (e : PoolEntry) (h : e.textLength < 65536) :
    ∃ tag body, e.encode = tag :: body ∧ isWide tag = false ∧
      (readConstant tag).Reads body e.constant := by
  cases e with
  | utf8 text =>
    refine ⟨1, _, rfl, rfl, ?_⟩
    have hbody := (reads_take (textBytes text)).last
      (g := fun bytes => Constant.utf8 (Text.ofClassBytes bytes))
    rw [ofClassBytes_textBytes, length_textBytes] at hbody
    exact (reads_u16 h).bind hbody
  | classRef name => exact ⟨7, _, rfl, rfl, (reads_word name).last⟩
  | nameAndType name descriptor =>
    exact ⟨12, _, rfl, rfl, (reads_word name).bind (reads_word descriptor).last⟩
  | fieldRef owner pair => exact ⟨9, _, rfl, rfl, (reads_word owner).bind (reads_word pair).last⟩
  | methodRef owner pair => exact ⟨10, _, rfl, rfl, (reads_word owner).bind (reads_word pair).last⟩

theorem reads_constants (entries : List PoolEntry) (h : ∀ e ∈ entries, e.textLength < 65536) :
    (readConstants entries.length).Reads (entries.flatMap PoolEntry.encode)
      (entries.map PoolEntry.constant) := by
  induction entries with
  | nil => exact reads_pure []
  | cons e entries ih =>
    obtain ⟨tag, body, hencode, hwide, hbody⟩ := e.reads_constant (h e List.mem_cons_self)
    have hrest := ih fun e he => h e (List.mem_cons_of_mem _ he)
    rw [List.flatMap_cons, hencode]
    -- the last constant is read on its own: no other number is left that it could take
    cases entries with
    | nil =>
      rw [List.flatMap_nil, List.append_nil]
      exact (reads_u8 tag).bind hbody.last
    | cons e' entries =>
      rw [List.length_cons, List.length_cons, readConstants]
      refine (reads_u8 tag).bind (hbody.bind ?_)
      rw [if_neg (by simp [hwide])]
      exact hrest.last

theorem reads_pool {b : Builder} (h : b.Fits) :
    readPool.Reads (encodePool b.entries) b.pool :=
  (reads_u16 h.entries).bind (reads_constants b.entries h.texts).last

/-! ## Members -/

/-- A line entry as it is read. -/
def LineSpec.entry (l : LineSpec) : LineEntry := ⟨l.startPc.toNat, l.line.toNat⟩

def FieldSpec.raw (f : FieldSpec) : RawMember :=
  ⟨f.access.toNat, f.name.toNat, f.descriptor.toNat, []⟩

/-- The attributes of the code. -/
def MethodSpec.lineTables (m : MethodSpec) : List Attribute :=
  if m.lines = [] then [] else [.lineTable (m.lines.map LineSpec.entry)]

def MethodSpec.raw (m : MethodSpec) : RawMember :=
  ⟨m.access.toNat, m.name.toNat, m.descriptor.toNat, [.code m.code m.lineTables]⟩

section
variable {pool : ConstantPool} {depth : Nat} {codeName lineTableName : UInt16}

theorem reads_lineEntry (l : LineSpec) : Attribute.lineEntry.Reads l.encode l.entry :=
  (reads_word l.startPc).bind (reads_word l.line).last

theorem MethodSpec.reads_lineTable (m : MethodSpec) (hroom : m.lines.length < 65536)
    (hname : pool.utf8 lineTableName.toNat = .ok "LineNumberTable") :
    (Attribute.readTable pool (depth + 1)).Reads (m.lineTable lineTableName) m.lineTables := by
  unfold MethodSpec.lineTable MethodSpec.lineTables
  by_cases hlines : m.lines = []
  · rw [if_pos hlines, if_pos hlines]
    exact reads_table16_nil
  · rw [if_neg hlines, if_neg hlines]
    refine Reads.table16_one ?_
    have hentry := ConstantPool.utf8_eq_ok.1 hname
    have htable := (reads_encodeTable hroom fun l _ => reads_lineEntry l).last
      (g := Attribute.lineTable)
    rw [List.append_assoc, Attribute.read]
    refine (reads_word lineTableName).bind ((reads_u32 (by omega)).bind ?_)
    rw [hentry]
    exact htable

theorem MethodSpec.reads_code (m : MethodSpec) (hroom : m.lines.length < 65536)
    (hlength : m.codeLength < 4294967296) (hcode : pool.utf8 codeName.toNat = .ok "Code")
    (hname : pool.utf8 lineTableName.toNat = .ok "LineNumberTable") :
    (Attribute.read pool (depth + 2)).Reads (m.codeAttribute codeName lineTableName)
      (.code m.code m.lineTables) := by
  have hentry := ConstantPool.utf8_eq_ok.1 hcode
  have hsize : m.code.length < 4294967296 := by
    unfold MethodSpec.codeLength at hlength
    omega
  simp only [MethodSpec.codeAttribute, List.append_assoc]
  rw [Attribute.read]
  refine (reads_word codeName).bind ((reads_u32 hlength).bind ?_)
  rw [hentry]
  refine (reads_skip m.limits rfl).bind ((reads_u32 hsize).bind ?_)
  exact (reads_take m.code).bind (reads_skipTable16_nil.bind (m.reads_lineTable hroom hname).last)

theorem FieldSpec.reads_member (f : FieldSpec) :
    (readMember pool depth).Reads f.encode f.raw := by
  simp only [FieldSpec.encode, List.append_assoc]
  exact (reads_word f.access).bind ((reads_word f.name).bind ((reads_word f.descriptor).bind
    reads_table16_nil.last))

theorem MethodSpec.reads_member (m : MethodSpec) (hroom : m.lines.length < 65536)
    (hlength : m.codeLength < 4294967296) (hcode : pool.utf8 codeName.toNat = .ok "Code")
    (hname : pool.utf8 lineTableName.toNat = .ok "LineNumberTable") :
    (readMember pool (depth + 2)).Reads (m.encode codeName lineTableName) m.raw := by
  simp only [MethodSpec.encode, List.append_assoc]
  exact (reads_word m.access).bind ((reads_word m.name).bind ((reads_word m.descriptor).bind
    (m.reads_code hroom hlength hcode hname).table16_one.last))

end

/-! ## The layout -/

/-- The layout of the class. -/
def Builder.raw (b : Builder) : Raw where
  pool := b.pool
  access := b.access.toNat
  thisClass := b.thisClass.toNat
  superClass := b.superClass.toNat
  interfaces := []
  fields := b.fields.map FieldSpec.raw
  methods := b.methods.map MethodSpec.raw

section
variable {b : Builder} {name superName : String} {calls : List Call}

theorem reads_finish (h : b.Fits) (hrecords : b.Records b.pool name superName calls) (depth : Nat) :
    (readRaw (depth + 2)).Reads b.finish b.raw := by
  have hfields : (table16 (readMember b.pool (depth + 2))).Reads
      (encodeTable FieldSpec.encode b.fields) (b.fields.map FieldSpec.raw) :=
    reads_encodeTable h.fields fun f _ => f.reads_member
  have hmethods : (table16 (readMember b.pool (depth + 2))).Reads
      (encodeTable (MethodSpec.encode b.codeName b.lineTableName) b.methods)
      (b.methods.map MethodSpec.raw) :=
    reads_encodeTable h.methods fun m hm => m.reads_member (h.lines m hm) (h.bodies m hm)
      hrecords.codeName hrecords.lineTableName
  simp only [Builder.finish, List.append_assoc]
  refine (reads_u32 (by decide)).bind ?_
  rw [if_neg (by simp)]
  refine (reads_skip version rfl).bind ((reads_pool h).bind ?_)
  refine (reads_word b.access).bind ((reads_word b.thisClass).bind ?_)
  refine (reads_word b.superClass).bind ?_
  exact reads_table16_nil.bind (hfields.bind (hmethods.bind reads_table16_nil.last))

/-- **The layout of a class that was written.** -/
theorem ofBytes?_finish (h : b.Fits) (hrecords : b.Records b.pool name superName calls) :
    Raw.ofBytes? b.finish = some b.raw := by
  have hlength : 4 ≤ b.finish.length := by
    simp only [Builder.finish, List.append_assoc, List.length_append]
    exact Nat.le_add_right 4 _
  obtain ⟨depth, hdepth⟩ : ∃ depth, b.finish.length + 1 = depth + 2 :=
    ⟨b.finish.length - 1, by omega⟩
  rw [Raw.ofBytes?, hdepth]
  exact (reads_finish h hrecords depth).whole

end

/-! ## The class -/

/-- The same entries by start, those with equal start in the order they had. -/
structure StablySorted (given sorted : List LineEntry) : Prop where
  ascending : sorted.Pairwise fun l l' => l.startPc ≤ l'.startPc
  stable : ∀ pc, sorted.filter (fun l => l.startPc = pc) = given.filter fun l => l.startPc = pc

/-- The field that was asked for. -/
structure FieldSource.Becomes (f : FieldSource) (decl : FieldDecl) : Prop where
  name : decl.name = f.name
  descriptor : decl.descriptor = f.descriptor
  isFinal : decl.access.isFinal = f.access.toNat.testBit 4

/-- The method that was asked for, its body decoded under a pool. -/
structure MethodSource.Becomes (pool : ConstantPool) (m : MethodSource) (decl : MethodDecl) :
    Prop where
  name : decl.name = m.name
  descriptor : decl.descriptor = m.descriptor
  isStatic : decl.access.isStatic = m.access.toNat.testBit 3
  isBridge : decl.access.isBridge = m.access.toNat.testBit 6
  isNative : decl.access.isNative = m.access.toNat.testBit 8
  isAbstract : decl.access.isAbstract = m.access.toNat.testBit 10
  isSynthetic : decl.access.isSynthetic = m.access.toNat.testBit 12
  instructions : Bytecode.decode pool m.code = .ok decl.instructions
  lines : StablySorted (m.lines.map LineSpec.entry) decl.lines

/-- The class that was asked for. -/
structure Reproduces (pool : ConstantPool) (name superName : String) (calls : List Call)
    (c : ClassDecl) : Prop where
  name : c.name = name
  superName : c.superName = some superName
  isInterface : c.access.isInterface = (accessOf calls).toNat.testBit 9
  isEnum : c.access.isEnum = (accessOf calls).toNat.testBit 14
  interfaces : c.interfaces = []
  fields : List.Forall₂ FieldSource.Becomes (fieldsOf calls) c.fields
  methods : List.Forall₂ (MethodSource.Becomes pool) (methodsOf calls) c.methods

theorem hasBit_two_pow (bits i : Nat) : hasBit bits (2 ^ i) = bits.testBit i := by
  rw [hasBit, Nat.and_two_pow]
  cases bits.testBit i with
  | false => simp
  | true => simp [Nat.pow_eq_zero]

theorem stablySorted_mergeSort (lines : List LineEntry) :
    StablySorted lines (lines.mergeSort fun l l' => l.startPc ≤ l'.startPc) := by
  have htrans (l₁ l₂ l₃ : LineEntry) (hle : decide (l₁.startPc ≤ l₂.startPc) = true)
      (hle' : decide (l₂.startPc ≤ l₃.startPc) = true) :
      decide (l₁.startPc ≤ l₃.startPc) = true := by
    simp only [decide_eq_true_eq] at *
    omega
  have htotal (l₁ l₂ : LineEntry) :
      (decide (l₁.startPc ≤ l₂.startPc) || decide (l₂.startPc ≤ l₁.startPc)) = true := by
    simp only [Bool.or_eq_true, decide_eq_true_eq]
    omega
  refine ⟨(List.pairwise_mergeSort htrans htotal lines).imp (by simp), fun pc => Eq.symm ?_⟩
  -- the entries of one start are in order as they stand, so sorting keeps them as a sublist
  have hlevel : (lines.filter fun l => l.startPc = pc).Pairwise
      fun l l' => decide (l.startPc ≤ l'.startPc) = true := by
    refine List.pairwise_of_forall_mem_list fun l hl l' hl' => ?_
    simp only [List.mem_filter, decide_eq_true_eq] at *
    omega
  have hkept := (List.sublist_mergeSort htrans htotal hlevel List.filter_sublist).filter
    fun l => l.startPc = pc
  rw [List.filter_filter] at hkept
  simp only [Bool.and_self] at hkept
  exact hkept.eq_of_length (((List.mergeSort_perm lines _).filter _).length_eq).symm

/-- Work on a list that goes well for each item goes well for the list. -/
theorem exists_mapM {α β γ ε : Type} {f : α → Except ε γ} {asked : α → β → Prop}
    {made : β → γ → Prop} {xs : List α} {ys : List β} (h : List.Forall₂ asked xs ys)
    (hf : ∀ x, ∀ y ∈ ys, asked x y → ∃ z, f x = .ok z ∧ made y z) :
    ∃ zs, xs.mapM f = .ok zs ∧ List.Forall₂ made ys zs := by
  induction h with
  | nil => exact ⟨[], rfl, .nil⟩
  | cons hxy _ ih =>
    obtain ⟨z, hz, hmade⟩ := hf _ _ List.mem_cons_self hxy
    obtain ⟨zs, hzs, hall⟩ := ih fun x y hy => hf x y (List.mem_cons_of_mem _ hy)
    refine ⟨z :: zs, ?_, .cons hmade hall⟩
    rw [List.mapM_cons, hz, hzs]
    rfl

theorem resolveField_of_records {pool : ConstantPool} {spec : FieldSpec} {f : FieldSource}
    (h : spec.Records pool f) : ∃ decl, resolveField pool spec.raw = .ok decl ∧ f.Becomes decl := by
  refine ⟨⟨f.name, f.descriptor, .ofBits f.access.toNat⟩, ?_, rfl, rfl, hasBit_two_pow _ 4⟩
  rw [FieldSpec.raw, h.access]
  exact bind_mapError_eq_ok.2 ⟨_, h.name, bind_mapError_eq_ok.2 ⟨_, h.descriptor, rfl⟩⟩

theorem lineEntries_lineTables (m : MethodSpec) :
    lineEntries m.lineTables = m.lines.map LineSpec.entry := by
  unfold MethodSpec.lineTables lineEntries
  by_cases hlines : m.lines = []
  · rw [if_pos hlines, hlines]
    rfl
  · rw [if_neg hlines]
    exact List.append_nil _

theorem resolveMethod_of_records {pool : ConstantPool} {spec : MethodSpec} {m : MethodSource}
    (h : spec.Records pool m) {body : List Instruction}
    (hbody : Bytecode.decode pool m.code = .ok body) :
    ∃ decl, resolveMethod pool spec.raw = .ok decl ∧ m.Becomes pool decl := by
  refine ⟨⟨m.name, m.descriptor, .ofBits m.access.toNat, body, lineTable spec.lineTables⟩, ?_,
    rfl, rfl, hasBit_two_pow _ 3, hasBit_two_pow _ 6, hasBit_two_pow _ 8, hasBit_two_pow _ 10,
    hasBit_two_pow _ 12, hbody, ?_⟩
  · rw [MethodSpec.raw, h.access, h.code]
    exact bind_mapError_eq_ok.2 ⟨_, h.name, bind_mapError_eq_ok.2 ⟨_, h.descriptor,
      bind_mapError_eq_ok.2 ⟨_, hbody, rfl⟩⟩⟩
  · rw [lineTable, lineEntries_lineTables, h.lines]
    exact stablySorted_mergeSort _

theorem resolveSuper_poolOf {entries : List PoolEntry} {index : Nat} {name : String}
    (h : (poolOf entries).className index = .ok name) :
    resolveSuper (poolOf entries) index = .ok (some name) := by
  have hindex : index ≠ 0 := by
    rintro rfl
    obtain ⟨text, htext, -⟩ := ConstantPool.className_eq_ok.1 h
    simp [poolOf, ConstantPool.get?] at htext
  rw [resolveSuper, if_neg hindex, h]
  rfl

/-- **A class that was written is read back as it was asked for.** -/
theorem parse_finish {name superName : String} {calls : List Call}
    (hfits : (Builder.after name superName calls).Fits)
    (hbodies : ∀ m ∈ methodsOf calls,
      ∃ body, Bytecode.decode (Builder.after name superName calls).pool m.code = .ok body) :
    ∃ c, parse (Builder.after name superName calls).finish = .ok c ∧
      Reproduces (Builder.after name superName calls).pool name superName calls c := by
  have hrecords : (Builder.after name superName calls).Records
      (Builder.after name superName calls).pool name superName calls :=
    records_after (List.prefix_refl _) hfits.entries
  generalize Builder.after name superName calls = b at *
  obtain ⟨fields, hfields, hfieldsOf⟩ := exists_mapM (f := resolveField b.pool ∘ FieldSpec.raw)
    hrecords.fields fun _ _ _ h => resolveField_of_records h
  obtain ⟨methods, hmethods, hmethodsOf⟩ :=
    exists_mapM (f := resolveMethod b.pool ∘ MethodSpec.raw) hrecords.methods
      fun _ m hm h => resolveMethod_of_records h (hbodies m hm).choose_spec
  have hsuper : resolveSuper b.pool b.superClass.toNat = .ok (some superName) :=
    resolveSuper_poolOf hrecords.superClass
  refine ⟨⟨name, .ofBits (accessOf calls).toNat, some superName, [], fields, methods⟩, ?_, rfl, rfl,
    hasBit_two_pow _ 9, hasBit_two_pow _ 14, rfl, hfieldsOf, hmethodsOf⟩
  simp only [parse, ofBytes?_finish hfits hrecords, Raw.resolve, Builder.raw, List.mapM_map]
  rw [hrecords.thisClass, hsuper, hfields, hmethods, hrecords.access]
  rfl

/-- A class with a field that its method reads; two lines start at the same place. -/
def pixelCalls : List Call :=
  [.access 0x4031, .field ⟨0x0010, "x", "I"⟩, .fieldRef ⟨"Pixel", "x", "I"⟩,
    .method { access := 0x1009, name := "read", descriptor := "()V",
              code := [0xb2, 0, 14, 0x57, 0xb1], lines := [⟨3, 12⟩, ⟨0, 10⟩, ⟨3, 11⟩] }]

def pixel : Builder := .after "Pixel" "java/lang/Object" pixelCalls

theorem pixel_readback :
    pixel.Fits ∧
    (∀ m ∈ methodsOf pixelCalls, ∃ body, Bytecode.decode pixel.pool m.code = .ok body) ∧
    ∃ c, parse pixel.finish = .ok c ∧
      Reproduces pixel.pool "Pixel" "java/lang/Object" pixelCalls c := by
  have hfits : pixel.Fits :=
    ⟨by decide +kernel, by decide +kernel, by decide +kernel, by decide +kernel,
      by decide +kernel, by decide +kernel⟩
  have hbodies : ∀ m ∈ methodsOf pixelCalls,
      ∃ body, Bytecode.decode pixel.pool m.code = .ok body := by
    intro m hm
    obtain rfl := List.mem_singleton.1 hm
    exact ⟨[⟨0, 0xb2, .field .getStatic ⟨"Pixel", "x", "I"⟩⟩, ⟨3, 0x57, .other⟩,
      ⟨4, 0xb1, .other⟩], eq_ok_of_toOption (by decide +kernel)⟩
  exact ⟨hfits, hbodies, parse_finish hfits hbodies⟩

end ClassFile

end BytecodeLint
