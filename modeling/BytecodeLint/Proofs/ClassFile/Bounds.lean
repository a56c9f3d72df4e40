import BytecodeLint.ClassFile.Resolve
import BytecodeLint.Proofs.Except

/-!
# Numbers in parsed classes

Class files hold numbers of one, two and four bytes, and the size of a method body is one of four.
So the offsets of instructions and the lines of a parsed class are bounded, whatever the bytes are.

* `Reader.Gives`: what a reader gives, on any bytes on which it succeeds.
* `ClassFile.parse_measured`: the numbers of a parsed class.
-/

namespace BytecodeLint

/-! ## Readers -/

namespace Reader

/-- Whenever the reader succeeds, what it gives has the property. -/
def Gives {α : Type} (r : Reader α) (holds : α → Prop) : Prop :=
  ∀ bs x rest, r bs = some (x, rest) → holds x

variable {α β : Type} {holds : α → Prop}

theorem gives_any (r : Reader α) : r.Gives fun _ => True := fun _ _ _ _ => trivial

theorem gives_pure {x : α} (h : holds x) : (pure x : Reader α).Gives holds := by
  intro bs x' rest heq
  cases heq
  exact h

theorem gives_fail : (fail : Reader α).Gives holds := by
  intro bs x rest heq
  cases heq

theorem gives_bind {held : β → Prop} {r : Reader β} {f : β → Reader α} (hr : r.Gives held)
    (hf : ∀ x, held x → (f x).Gives holds) : (r >>= f).Gives holds := by
  intro bs y rest heq
  obtain ⟨⟨x, later⟩, hx, hy⟩ := Option.bind_eq_some_iff.1 heq
  exact hf x (hr bs x later hx) later y rest hy

/-- What a first reader gives does not matter. -/
theorem gives_then {r : Reader β} {f : β → Reader α} (hf : ∀ x, (f x).Gives holds) :
    (r >>= f).Gives holds :=
  gives_bind (gives_any r) fun x _ => hf x

theorem gives_u16 : u16.Gives (· < 65536) := by
  intro bs x rest heq
  match bs with
  | a :: b :: bs =>
    cases heq
    have := a.toNat_lt
    have := b.toNat_lt
    omega
  | [] => cases heq
  | [_] => cases heq

theorem gives_u32 : u32.Gives (· < 4294967296) := by
  intro bs x rest heq
  match bs with
  | a :: b :: c :: d :: bs =>
    cases heq
    have := a.toNat_lt
    have := b.toNat_lt
    have := c.toNat_lt
    have := d.toNat_lt
    omega
  | [] => cases heq
  | [_] => cases heq
  | [_, _] => cases heq
  | [_, _, _] => cases heq

theorem gives_take (n : Nat) : (take n).Gives (·.length = n) := by
  intro bs x rest heq
  simp only [take] at heq
  split at heq
  · rename_i hlength
    cases heq
    exact hlength
  · cases heq

theorem gives_times {r : Reader α} (hr : r.Gives holds) (n : Nat) :
    (times n r).Gives fun xs => ∀ x ∈ xs, holds x := by
  induction n with
  | zero => exact gives_pure (by simp)
  | succ n ih =>
    refine gives_bind hr fun x hx => gives_bind ih fun xs hxs => gives_pure ?_
    exact List.forall_mem_cons.2 ⟨hx, hxs⟩

theorem gives_table16 {r : Reader α} (hr : r.Gives holds) :
    (table16 r).Gives fun xs => ∀ x ∈ xs, holds x :=
  gives_then fun n => gives_times hr n

end Reader

/-! ## Attributes -/

namespace Attribute

open Reader

/-- The lines of a line table have two bytes. -/
def LinesFit : Attribute → Prop
  | .lineTable entries => ∀ entry ∈ entries, entry.line < 65536
  | _ => True

/-- The size of a method body has four bytes, and its lines have two. -/
def BodyFits : Attribute → Prop
  | .code bytes inner => bytes.length < 4294967296 ∧ ∀ a ∈ inner, a.LinesFit
  | _ => True

theorem gives_lineEntry : lineEntry.Gives (·.line < 65536) :=
  gives_then fun _ => gives_bind gives_u16 fun _ hline => gives_pure hline

theorem gives_linesFit (pool : ConstantPool) (depth : Nat) : (read pool depth).Gives LinesFit := by
  cases depth with
  | zero => exact gives_fail
  | succ depth =>
    refine gives_then fun nameIndex => gives_then fun length => ?_
    split
    · split
      · exact gives_then fun _ => gives_then fun _ => gives_then fun _ => gives_then fun _ =>
          gives_then fun _ => gives_pure trivial
      · split
        · exact gives_bind (gives_table16 gives_lineEntry) fun entries hentries =>
            gives_pure hentries
        · split
          · exact gives_then fun _ => gives_pure trivial
          · exact gives_then fun _ => gives_pure trivial
    · exact gives_fail

theorem gives_bodyFits (pool : ConstantPool) (depth : Nat) : (read pool depth).Gives BodyFits := by
  cases depth with
  | zero => exact gives_fail
  | succ depth =>
    refine gives_then fun nameIndex => gives_then fun length => ?_
    split
    · split
      · refine gives_then fun _ => gives_bind gives_u32 fun size hsize =>
          gives_bind (gives_take size) fun bytes hbytes => gives_then fun _ =>
            gives_bind (gives_table16 (gives_linesFit pool depth)) fun inner hinner =>
              gives_pure ⟨?_, hinner⟩
        omega
      · split
        · exact gives_then fun _ => gives_pure trivial
        · split
          · exact gives_then fun _ => gives_pure trivial
          · exact gives_then fun _ => gives_pure trivial
    · exact gives_fail

end Attribute

/-! ## Bodies -/

/-- Instructions stand before the end of the body. -/
theorem Bytecode.decodeFrom_offset_lt {pool : ConstantPool} {offset : Nat} {code : Bytes}
    {instructions : List Instruction} (h : decodeFrom pool offset code = .ok instructions) :
    ∀ i ∈ instructions, i.offset < offset + code.length := by
  fun_induction decodeFrom pool offset code generalizing instructions with
  | case1 =>
    cases h
    simp
  | case2 => cases h
  | case3 => cases h
  | case4 => cases h
  | case5 offset opcode rest n hlength bytes hn op hop =>
    rename_i ih
    obtain ⟨later, hlater, h⟩ : ∃ later,
        decodeFrom pool (offset + n) ((opcode :: rest).drop n) = .ok later ∧
          ⟨offset, opcode, op⟩ :: later = instructions := by
      cases hlater : decodeFrom pool (offset + n) ((opcode :: rest).drop n) with
      | error fault =>
        rw [hlater] at h
        cases h
      | ok later =>
        rw [hlater] at h
        cases h
        exact ⟨later, rfl, rfl⟩
    subst h
    have hrest := ih hlater
    simp only [List.length_drop] at hrest
    rw [not_or, Nat.not_lt, List.length_take] at hn
    refine List.forall_mem_cons.2 ⟨?_, fun i hi => ?_⟩
    · simp
    · have := hrest i hi
      omega

/-- Offsets of instructions have four bytes, and lines have two. -/
structure MethodDecl.Measured (m : MethodDecl) : Prop where
  offset : ∀ i ∈ m.instructions, i.offset < 4294967296
  line : ∀ entry ∈ m.lines, entry.line < 65536

namespace ClassFile

open Reader

theorem gives_readMember (pool : ConstantPool) (depth : Nat) :
    (readMember pool depth).Gives fun raw => ∀ a ∈ raw.attributes, a.BodyFits :=
  gives_then fun _ => gives_then fun _ => gives_then fun _ =>
    gives_bind (gives_table16 (Attribute.gives_bodyFits pool depth)) fun _ hall => gives_pure hall

theorem gives_readRaw (depth : Nat) :
    (readRaw depth).Gives fun raw => ∀ m ∈ raw.methods, ∀ a ∈ m.attributes, a.BodyFits := by
  refine gives_then fun first => ?_
  split
  · exact gives_fail
  · exact gives_then fun _ => gives_then fun pool => gives_then fun _ => gives_then fun _ =>
      gives_then fun _ => gives_then fun _ => gives_then fun _ =>
        gives_bind (gives_table16 (gives_readMember pool depth)) fun _ hmethods =>
          gives_then fun _ => gives_pure hmethods

theorem code?_mem {attributes : List Attribute} {bytes : Bytes} {inner : List Attribute}
    (h : code? attributes = some (bytes, inner)) : .code bytes inner ∈ attributes := by
  obtain ⟨a, ha, heq⟩ := List.exists_of_findSome?_eq_some h
  cases a with
  | code => cases heq; exact ha
  | lineTable => cases heq
  | other => cases heq

theorem line_lt_of_mem_lineTable {inner : List Attribute} (h : ∀ a ∈ inner, a.LinesFit)
    {entry : LineEntry} (hentry : entry ∈ lineTable inner) : entry.line < 65536 := by
  rw [lineTable, List.mem_mergeSort, lineEntries, List.mem_flatMap] at hentry
  obtain ⟨a, ha, hentry⟩ := hentry
  have hfit := h a ha
  cases a with
  | code => cases hentry
  | lineTable entries => exact hfit entry hentry
  | other => cases hentry

theorem resolveMethod_measured {pool : ConstantPool} {raw : RawMember} {m : MethodDecl}
    (hfits : ∀ a ∈ raw.attributes, a.BodyFits) (h : resolveMethod pool raw = .ok m) :
    m.Measured := by
  obtain ⟨name, -, h⟩ := bind_eq_ok h
  obtain ⟨descriptor, -, h⟩ := bind_eq_ok h
  dsimp only at h
  split at h
  · cases h
    exact ⟨by simp, by simp⟩
  · rename_i bytes inner hcode
    obtain ⟨hsize, hlines⟩ := hfits _ (code?_mem hcode)
    obtain ⟨instructions, hdecode, h⟩ := bind_mapError_eq_ok.1 h
    cases h
    refine ⟨fun i hi => ?_, fun entry => line_lt_of_mem_lineTable hlines⟩
    have := Bytecode.decodeFrom_offset_lt hdecode i hi
    omega

/-- **The numbers of a parsed class.** -/
theorem parse_measured {bytes : Bytes} {c : ClassDecl} (h : parse bytes = .ok c) :
    ∀ m ∈ c.methods, m.Measured := by
  unfold parse at h
  split at h
  · cases h
  · rename_i raw hraw
    have hfits : ∀ m ∈ raw.methods, ∀ a ∈ m.attributes, a.BodyFits := by
      unfold Raw.ofBytes? whole at hraw
      split at hraw
      · rename_i heq
        cases hraw
        exact gives_readRaw _ _ _ _ heq
      · cases hraw
    obtain ⟨name, -, h⟩ := bind_eq_ok h
    obtain ⟨superName, -, h⟩ := bind_eq_ok h
    obtain ⟨interfaces, -, h⟩ := bind_eq_ok h
    obtain ⟨fields, -, h⟩ := bind_eq_ok h
    obtain ⟨methods, hmethods, h⟩ := bind_eq_ok h
    cases h
    intro m hm
    obtain ⟨member, hmember, hresolve⟩ := exists_of_mem_mapM_ok hmethods hm
    exact resolveMethod_measured (hfits member hmember) hresolve

end ClassFile

end BytecodeLint
