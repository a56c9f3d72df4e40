import BytecodeLint.Guideline.AvoidEnums
import BytecodeLint.Proofs.Class.Index
import BytecodeLint.Proofs.Descriptor
import BytecodeLint.Proofs.Guideline.Verdicts

/-!
# Enum constants that are read

A field is of enum type when its descriptor names a class that is listed as an enum, wherever in the
list it stands (`ReadsEnum`). Descriptors are arbitrary texts: only the front of a text counts, and
dots stand for slashes (`NamesClass`). What is no descriptor of an object names nothing.

* `objectClass?_iff_namesClass`: the class that a descriptor is found to name is the one it names.
* `message?_iff_readsEnum`: what is told about an instruction.
* `enum_reads_exact`: what is found on a class.
-/
namespace BytecodeLint.Guideline.AvoidEnums

/-- The descriptor begins with `L`, letters other than the semicolon, and a semicolon. The letters
are the name of the class, but for dots in the place of slashes. -/
def NamesClass (descriptor name : String) : Prop :=
  ∃ letters rest, ';' ∉ letters ∧ descriptor.toList = 'L' :: (letters ++ ';' :: rest) ∧
    name.toList = letters.map fun c => if c = '.' then '/' else c

theorem objectClass?_iff_namesClass {descriptor name : String} :
    Descriptor.objectClass? descriptor = some name ↔ NamesClass descriptor name := by
  rw [Descriptor.objectClass?_eq_some_iff, Descriptor.fieldKind_eq_ok_iff]
  have hname (letters : List Char) : Descriptor.internalName letters = name ↔
      name.toList = letters.map fun c => if c = '.' then '/' else c := by
    rw [Descriptor.internalName, ← String.toList_inj, String.toList_ofList, eq_comm]
  constructor
  · rintro ⟨type, ⟨hproper, rest, htext⟩, hholds⟩
    generalize hkind : Descriptor.FieldKind.object name = kind at hholds
    cases hholds with
    | object letters =>
      have hletters := (hname letters).1 (Descriptor.FieldKind.object.inj hkind).symm
      exact ⟨letters, rest, hproper, by simp [← htext, Descriptor.Ty.text, Descriptor.Element.text],
        hletters⟩
    | primitive => cases hkind
    | array => cases hkind
  · rintro ⟨letters, rest, hproper, htext, hletters⟩
    refine ⟨.element (.object letters), ⟨hproper, rest, ?_⟩, ?_⟩
    · simp [htext, Descriptor.Ty.text, Descriptor.Element.text]
    · rw [← (hname letters).2 hletters]
      exact .object letters

instance (descriptor name : String) : Decidable (NamesClass descriptor name) :=
  decidable_of_iff _ objectClass?_iff_namesClass

/-- The instruction reads a static field of the type of a listed enum. -/
def ReadsEnum (classes : List ClassDecl) (i : Instruction) (target : MemberRef) : Prop :=
  i.operation = .field .getStatic target ∧
    ∃ e ∈ classes, e.access.isEnum = true ∧ NamesClass target.descriptor e.name

instance (classes : List ClassDecl) (i : Instruction) (target : MemberRef) :
    Decidable (ReadsEnum classes i target) :=
  inferInstanceAs (Decidable (_ ∧ _))

/-- What is told about a field that is read. -/
def told (target : MemberRef) (location : String) : String :=
  "Enum constant " ++ target.owner ++ "." ++ target.name ++ " used in " ++ location ++
    "; prefer int constants"

theorem message?_iff_readsEnum {classes : List ClassDecl} {c : ClassDecl} {m : MethodDecl}
    {i : Instruction} {text : String} :
    message? ⟨classes⟩ c m i = some text ↔
      ∃ target, ReadsEnum classes i target ∧ text = told target (c.location m) := by
  unfold message?
  split
  · rename_i target hread
    have hread_iff : (∃ target', ReadsEnum classes i target' ∧ text = told target' (c.location m)) ↔
        (∃ e ∈ classes, e.access.isEnum = true ∧ NamesClass target.descriptor e.name) ∧
          text = told target (c.location m) := by
      simp [ReadsEnum, hread]
    rw [hread_iff]
    split
    · rename_i name hname
      have henum : (⟨classes⟩ : ClassIndex).isEnum name = true ↔
          ∃ e ∈ classes, e.access.isEnum = true ∧ NamesClass target.descriptor e.name := by
        rw [ClassIndex.isEnum_iff]
        simp [← objectClass?_iff_namesClass, hname, @eq_comm _ name]
      rw [Option.ite_none_right_eq_some, henum, Option.some.injEq, @eq_comm _ _ text]
      rfl
    · rename_i hname
      simp [← objectClass?_iff_namesClass, hname]
  · rename_i hother
    simp only [reduceCtorEq, false_iff]
    rintro ⟨target, ⟨hread, -⟩, -⟩
    exact hother target hread

/-- The finding at an instruction that reads an enum constant. -/
def FoundAt (classes : List ClassDecl) (c : ClassDecl) (site : MethodDecl × Instruction)
    (f : Finding) : Prop :=
  ∃ target, ReadsEnum classes site.2 target ∧
    f = ⟨site.1, site.2, told target (c.location site.1)⟩

theorem verdicts_findings {classes : List ClassDecl} {c : ClassDecl}
    (h : c.access.isEnum = false) :
    Verdicts (FoundAt classes c) c.sites (findings ⟨classes⟩ c) := by
  rw [findings, if_neg (by simp [h]), c.findings_eq]
  refine verdicts_filterMap fun site _ f => ?_
  simp only [Option.map_eq_some_iff, message?_iff_readsEnum, FoundAt]
  constructor
  · rintro ⟨_, ⟨target, hread, rfl⟩, rfl⟩
    exact ⟨target, hread, rfl⟩
  · rintro ⟨target, hread, rfl⟩
    exact ⟨_, ⟨target, hread, rfl⟩, rfl⟩

/-- **Reads of enum constants are found exactly.** Classes with distinct names are indexed, and no
class fails to be checked. On an enum nothing is found. On any other class there is one finding for
each instruction that reads a static field of the type of a listed enum, in the order of methods and
instructions, and nothing else; so nothing is found at a field of a primitive or an array type, or
with a descriptor that cannot be read. -/
theorem enum_reads_exact {classes : List ClassDecl}
    (hdistinct : (classes.map ClassDecl.name).Nodup) :
    ∃ index, ClassIndex.build classes = .ok index ∧ ∀ c ∈ classes,
      ∃ fs, guideline.check index c = .ok fs ∧
        (c.access.isEnum = true → fs = []) ∧
        (c.access.isEnum = false → Verdicts (FoundAt classes c) c.sites fs) ∧
        ∀ f ∈ fs, ∃ target name, f.instruction.operation = .field .getStatic target ∧
          Descriptor.fieldKind target.descriptor = .ok (.object name) := by
  refine ⟨_, ClassIndex.build_eq_ok hdistinct, fun c _ => ⟨_, rfl, fun h => ?_, verdicts_findings,
    fun f hf => ?_⟩⟩
  · rw [findings, if_pos h]
  · cases henum : c.access.isEnum with
    | true =>
      rw [findings, if_pos henum] at hf
      cases hf
    | false =>
      obtain ⟨site, -, target, ⟨hread, e, -, -, hnames⟩, rfl⟩ :=
        (verdicts_findings henum).exists_of_mem hf
      refine ⟨target, e.name, hread, ?_⟩
      rwa [← Descriptor.objectClass?_eq_some_iff, objectClass?_iff_namesClass]

/-! ### A reader that is listed before the enum

Six fields: the type of the first is the enum and so is that of the fourth, in other words. -/

def use (offset : Nat) (kind : FieldUse) (descriptor : String) : Instruction :=
  ⟨offset, 0xb2, .field kind ⟨"com/x/Color", "RED", descriptor⟩⟩

def pick : MethodDecl where
  name := "pick"
  descriptor := "()V"
  instructions := [use 0 .getStatic "Lcom/x/Color;", use 3 .getStatic "[Lcom/x/Color;",
    use 6 .getStatic "I", use 9 .getStatic "Lcom.x.Color;!", use 12 .getStatic "Lcom/x/Color",
    use 15 .putStatic "Lcom/x/Color;"]

def paint : ClassDecl where
  name := "com/x/Paint"
  methods := [pick]

def color : ClassDecl where
  name := "com/x/Color"
  access := { isEnum := true }
  methods := [pick]

/-- An instruction that does not read an enum constant is passed over. -/
theorem not_foundAt {classes : List ClassDecl} {c : ClassDecl} {m : MethodDecl} {offset : Nat}
    {kind : FieldUse} {descriptor : String}
    (h : ¬ ReadsEnum classes (use offset kind descriptor) ⟨"com/x/Color", "RED", descriptor⟩)
    (f : Finding) : ¬ FoundAt classes c (m, use offset kind descriptor) f := by
  rintro ⟨target, hread, -⟩
  have htarget : ⟨"com/x/Color", "RED", descriptor⟩ = target := (Operation.field.inj hread.1).2
  exact h (htarget ▸ hread)

/-- On the reader there are two findings, on the enum none. -/
theorem paint_enum_reads :
    ([paint, color].map ClassDecl.name).Nodup ∧
      ∃ index fs, ClassIndex.build [paint, color] = .ok index ∧
        guideline.check index color = .ok [] ∧ guideline.check index paint = .ok fs ∧
        fs.map Finding.offset = [0, 9] := by
  have hdistinct : ([paint, color].map ClassDecl.name).Nodup := by decide
  obtain ⟨index, hbuild, hcheck⟩ := enum_reads_exact hdistinct
  obtain ⟨_, hcolor, hnone, -⟩ := hcheck color (by simp)
  obtain ⟨fs, hpaint, -, hverdicts, -⟩ := hcheck paint (by simp)
  rw [hnone rfl] at hcolor
  refine ⟨hdistinct, index, fs, hbuild, hcolor, hpaint, ?_⟩
  have hfirst : Verdicts (FoundAt [paint, color] paint)
      [(pick, use 0 .getStatic "Lcom/x/Color;"), (pick, use 3 .getStatic "[Lcom/x/Color;"),
        (pick, use 6 .getStatic "I"), (pick, use 9 .getStatic "Lcom.x.Color;!"),
        (pick, use 12 .getStatic "Lcom/x/Color"), (pick, use 15 .putStatic "Lcom/x/Color;")] fs :=
    hverdicts rfl
  obtain ⟨_, _, rfl, ⟨_, -, rfl⟩, harray⟩ := hfirst.of_found
    ⟨_, ⟨"com/x/Color", "RED", "Lcom/x/Color;"⟩, by decide +kernel, rfl⟩
  have hprimitive := harray.of_passed (not_foundAt (by decide +kernel))
  have hdotted := hprimitive.of_passed (not_foundAt (by decide +kernel))
  obtain ⟨_, _, rfl, ⟨_, -, rfl⟩, hunclosed⟩ := hdotted.of_found
    ⟨_, ⟨"com/x/Color", "RED", "Lcom.x.Color;!"⟩, by decide +kernel, rfl⟩
  have hwritten := hunclosed.of_passed (not_foundAt (by decide +kernel))
  cases hwritten.of_passed (not_foundAt (by decide +kernel))
  rfl

end BytecodeLint.Guideline.AvoidEnums
