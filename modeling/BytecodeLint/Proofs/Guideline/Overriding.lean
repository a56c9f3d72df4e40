import BytecodeLint.Guideline.PreferStatic
import BytecodeLint.Proofs.Class.Reachability
import BytecodeLint.Proofs.Guideline.Verdicts

/-!
# Which methods are asked to be static

A method is asked to be static when it has no use for its object and overrides nothing. The first is
decided by its bytes (`LoadsThis`), the second by the names within reach of its class
(`OverridesNothing`).

* `mayOverride_eq_false_iff`: a method may not override exactly when everything within reach is
  known and nothing of it declares the method. The root class counts as known, listed or not.
* `methodFinding?_eq_some_iff`: what is found on one method, in terms of its instructions.
* `static_candidates_exact`: what is found on a class, in terms of the code of its methods.
* `root_methods_reported`: an unlisted root class counts as one that declares nothing, so a method
  that overrides one of its methods is reported like any other.
-/
namespace BytecodeLint.Guideline.PreferStatic

open Bytecode (Tiling LoadsThis)
open ClassIndex (Reaches StepsUp rootClass)

/-! ## One method -/

/-- A method with a body of its own that is called on an object, as it stands in the source: none of
the flags is set, and it is no initializer. -/
def Plain (m : MethodDecl) : Prop :=
  m.access.isStatic = false ∧ m.access.isAbstract = false ∧ m.access.isNative = false ∧
    m.access.isSynthetic = false ∧ m.access.isBridge = false ∧
    m.name ≠ "<init>" ∧ m.name ≠ "<clinit>"

theorem isCandidate_iff {m : MethodDecl} : isCandidate m = true ↔ Plain m := by
  simp [isCandidate, Plain, MethodDecl.isConstructor, constructorName,
    MethodDecl.isStaticInitializer, staticInitializerName, and_assoc]

instance (m : MethodDecl) : Decidable (Plain m) := decidable_of_iff _ isCandidate_iff

/-- A method of a class overrides nothing, as far as the listed classes tell. -/
structure OverridesNothing (classes : List ClassDecl) (c : ClassDecl) (m : MethodDecl) : Prop where
  undeclared : ∀ d ∈ classes, Reaches classes (fun _ => True) c d.name → ¬ d.Redeclares m
  resolved : ∀ name, Reaches classes (fun passed => passed ≠ rootClass) c name →
    name = rootClass ∨ ∃ d ∈ classes, d.name = name

section
variable {classes : List ClassDecl} (hdistinct : (classes.map ClassDecl.name).Nodup)
  {c : ClassDecl} {m : MethodDecl}
include hdistinct

theorem mayOverride_eq_false_iff :
    (⟨classes⟩ : ClassIndex).mayOverride c m = false ↔ OverridesNothing classes c m := by
  have hnone (name : String) : True ↔ ClassIndex.skipNone name = false := by simp
  have hroot (name : String) : name ≠ rootClass ↔ ClassIndex.skipRoot name = false := by simp
  rw [ClassIndex.mayOverride, Bool.or_eq_false_iff, ← Bool.not_eq_true, ← Bool.not_eq_true,
    ClassIndex.overridesInherited_iff, ClassIndex.hasUnresolvedSuperTypes_iff]
  simp only [ClassIndex.get?_eq_some_iff hdistinct, ClassIndex.get?_eq_none_iff,
    ClassDecl.isSome_method?, ClassIndex.above_iff_reaches hdistinct hnone,
    ClassIndex.above_iff_reaches hdistinct hroot]
  constructor
  · rintro ⟨hundeclared, hresolved⟩
    refine ⟨fun d hd hreach hm => hundeclared ⟨d.name, d, hreach, ⟨hd, rfl⟩, hm⟩,
      fun name hreach => ?_⟩
    by_contra hmissing
    rw [not_or, not_exists] at hmissing
    exact hresolved ⟨name, hreach, hmissing.1, fun d hd hname => hmissing.2 d ⟨hd, hname⟩⟩
  · intro h
    refine ⟨?_, ?_⟩
    · rintro ⟨name, d, hreach, ⟨hd, rfl⟩, hm⟩
      exact h.undeclared d hd hreach hm
    · rintro ⟨name, hreach, hne, hunlisted⟩
      rcases h.resolved name hreach with hroot | ⟨d, hd, hname⟩
      · exact hne hroot
      · exact hunlisted d hd hname

/-- A finding on a method is at its first instruction. There is one exactly when the method is
plain, has instructions, loads `this` in none of them and overrides nothing. -/
theorem methodFinding?_eq_some_iff {f : Finding} :
    methodFinding? ⟨classes⟩ c m = some f ↔
      Plain m ∧ (∀ i ∈ m.instructions, i.operation ≠ .load 0) ∧ OverridesNothing classes c m ∧
        m.instructions.head? = some f.instruction ∧ f.method = m ∧
        f.message = c.location m ++ " does not use this; declare it static" := by
  rw [← isCandidate_iff, ← mayOverride_eq_false_iff hdistinct]
  have hthis : (∀ i ∈ m.instructions, i.operation ≠ .load 0) ↔ usesThis m = false := by
    simp [usesThis]
  obtain ⟨method, instruction, message⟩ := f
  rw [hthis, methodFinding?]
  cases hbody : m.instructions with
  | nil => simp
  | cons first rest =>
    cases isCandidate m with
    | false => simp
    | true =>
      simp only [Bool.or_eq_true, ↓reduceIte, true_and]
      split
      · rename_i hkept
        rcases hkept with hkept | hkept <;> simp [hkept]
      · rename_i hkept
        rw [not_or, Bool.not_eq_true, Bool.not_eq_true] at hkept
        simp only [hkept, Option.some.injEq, Finding.mk.injEq, List.head?_cons, true_and]
        constructor
        · rintro ⟨rfl, rfl, rfl⟩
          exact ⟨rfl, rfl, rfl⟩
        · rintro ⟨rfl, rfl, rfl⟩
          exact ⟨rfl, rfl, rfl⟩

end

/-! ## One class -/

/-- A method that could be declared static: none of its instructions loads `this`, and it overrides
nothing. -/
structure CouldBeStatic {pool : ConstantPool} (classes : List ClassDecl) (c : ClassDecl)
    (m : CodedMethod pool) : Prop where
  plain : Plain m.decl
  hasCode : m.code ≠ []
  ignoresThis : ∀ offsets, Tiling m.code 0 offsets →
    ∀ offset ∈ offsets, ¬ LoadsThis (m.code.drop offset)
  overridesNothing : OverridesNothing classes c m.decl

/-- The finding on a method asks to declare it static, at its first byte. -/
structure AsksForStatic {pool : ConstantPool} (c : ClassDecl) (m : CodedMethod pool)
    (f : Finding) : Prop where
  method : f.method = m.decl
  first : m.decl.instructions.head? = some f.instruction
  offset : f.offset = 0
  message : f.message = c.location m.decl ++ " does not use this; declare it static"

theorem ignoresThis_iff {pool : ConstantPool} (m : CodedMethod pool) :
    (∀ i ∈ m.decl.instructions, i.operation ≠ .load 0) ↔ ∀ offsets, Tiling m.code 0 offsets →
      ∀ offset ∈ offsets, ¬ LoadsThis (m.code.drop offset) := by
  constructor
  · intro h offsets htiling offset hoffset
    rw [htiling.unique m.tiling] at hoffset
    obtain ⟨i, hi, rfl⟩ := List.mem_map.1 hoffset
    rw [← (m.spelled hi).this]
    exact h i hi
  · intro h i hi
    rw [Ne, (m.spelled hi).this]
    exact h _ m.tiling _ (List.mem_map_of_mem hi)

theorem finding_of_coded_iff {classes : List ClassDecl}
    (hdistinct : (classes.map ClassDecl.name).Nodup) {pool : ConstantPool} (c : ClassDecl)
    (m : CodedMethod pool) {f : Finding} :
    methodFinding? ⟨classes⟩ c m.decl = some f ↔
      CouldBeStatic classes c m ∧ AsksForStatic c m f := by
  rw [methodFinding?_eq_some_iff hdistinct, ignoresThis_iff]
  constructor
  · rintro ⟨hplain, hthis, hnothing, hfirst, hmethod, hmessage⟩
    obtain ⟨rest, hbody⟩ := List.head?_eq_some_iff.1 hfirst
    have hcode : m.code ≠ [] := by simp [m.code_eq_nil_iff, hbody]
    exact ⟨⟨hplain, hcode, hthis, hnothing⟩, hmethod, hfirst, m.offset_of_head hbody, hmessage⟩
  · rintro ⟨hcould, hasks⟩
    exact ⟨hcould.plain, hcould.ignoresThis, hcould.overridesNothing, hasks.first, hasks.method,
      hasks.message⟩

/-- **Methods that could be static are found exactly.** Classes with distinct names are indexed. On
an interface nothing is found. On any other class there is one finding for each method that could be
static, in the order of the methods, at the first byte of its code, and nothing else. -/
theorem static_candidates_exact {classes : List CodedClass}
    (hdistinct : (classes.map fun c => c.name).Nodup) :
    ∃ index, ClassIndex.build (classes.map CodedClass.toClassDecl) = .ok index ∧
      ∀ c ∈ classes, ∃ fs, guideline.check index c.toClassDecl = .ok fs ∧
        (c.access.isInterface = true → fs = []) ∧
        (c.access.isInterface = false → Verdicts (fun m f =>
          CouldBeStatic (classes.map CodedClass.toClassDecl) c.toClassDecl m ∧
            AsksForStatic c.toClassDecl m f) c.coded fs) := by
  have hnames : ((classes.map CodedClass.toClassDecl).map ClassDecl.name).Nodup := by
    rwa [List.map_map]
  refine ⟨_, ClassIndex.build_eq_ok hnames, fun c _ => ⟨_, rfl, fun h => ?_, fun h => ?_⟩⟩
  · rw [findings, if_pos h]
  · rw [findings, if_neg (by simp [h]), c.methods_eq, List.filterMap_map]
    exact verdicts_filterMap fun m _ f => finding_of_coded_iff hnames c.toClassDecl m

/-! ### A class below another one

`p/Tool` overrides the one method of `p/Base`, gives itself back through the longest of the three
loads, and has a method that does neither. -/

theorem decode_echo : Bytecode.decode ⟨#[]⟩ [0x1b, 0xac] =
    .ok [⟨0, 0x1b, .other⟩, ⟨1, 0xac, .other⟩] := by
  decide +kernel

/-- Gives back its argument. -/
def echo (name : String) : CodedMethod ⟨#[]⟩ where
  decl :=
    { name := name
      descriptor := "(I)I"
      instructions := [⟨0, 0x1b, .other⟩, ⟨1, 0xac, .other⟩] }
  code := [0x1b, 0xac]
  decoded := decode_echo

/-- Gives back its object. -/
def itself : CodedMethod ⟨#[]⟩ where
  decl :=
    { name := "itself"
      descriptor := "()Lp/Tool;"
      instructions := [⟨0, 0xc4, .load 0⟩, ⟨4, 0xb0, .other⟩] }
  code := [0xc4, 0x19, 0x00, 0x00, 0xb0]
  decoded := by decide +kernel

def base : CodedClass where
  name := "p/Base"
  superName := some "java/lang/Object"
  methods := [(echo "apply").decl]
  pool := ⟨#[]⟩
  coded := [echo "apply"]
  methods_eq := rfl

def tool : CodedClass where
  name := "p/Tool"
  superName := some "p/Base"
  methods := [(echo "apply").decl, itself.decl, (echo "scale").decl]
  pool := ⟨#[]⟩
  coded := [echo "apply", itself, echo "scale"]
  methods_eq := rfl

theorem reaches_tool {passable : String → Prop} {name : String}
    (h : Reaches [base.toClassDecl, tool.toClassDecl] passable tool.toClassDecl name) :
    name = "p/Base" ∨ name = rootClass := by
  refine h.induct (P := fun name => name = "p/Base" ∨ name = rootClass) ?_ ?_
  · simp [ClassDecl.HasSuperType, tool]
  · simp [ClassDecl.HasSuperType, tool, base, rootClass]

theorem tool_static_candidates :
    ([base, tool].map fun c => c.name).Nodup ∧
      ∃ index, ClassIndex.build [base.toClassDecl, tool.toClassDecl] = .ok index ∧
        ∃ fs, guideline.check index tool.toClassDecl = .ok fs ∧
          fs.map (fun f => (f.method.name, f.offset)) = [("scale", 0)] := by
  have hdistinct : ([base, tool].map fun c => c.name).Nodup := by decide
  obtain ⟨index, hbuild, hcheck⟩ := static_candidates_exact hdistinct
  obtain ⟨fs, hfs, -, hverdicts⟩ := hcheck tool (by simp)
  refine ⟨hdistinct, index, hbuild, fs, hfs, ?_⟩
  have happly (f : Finding) : ¬ (CouldBeStatic [base.toClassDecl, tool.toClassDecl]
      tool.toClassDecl (echo "apply") ∧ AsksForStatic tool.toClassDecl (echo "apply") f) := by
    rintro ⟨hcould, -⟩
    exact hcould.overridesNothing.undeclared base.toClassDecl (by simp) ⟨"p/Base", .inl rfl, .refl⟩
      ⟨_, List.mem_singleton_self _, rfl, rfl⟩
  have hitself (f : Finding) : ¬ (CouldBeStatic [base.toClassDecl, tool.toClassDecl]
      tool.toClassDecl itself ∧ AsksForStatic tool.toClassDecl itself f) := by
    rintro ⟨hcould, -⟩
    exact hcould.ignoresThis [0, 4] itself.tiling 0 (by simp) (.inr (.inr ⟨[0xb0], rfl⟩))
  have hscale : ∃ f, CouldBeStatic [base.toClassDecl, tool.toClassDecl] tool.toClassDecl
      (echo "scale") ∧ AsksForStatic tool.toClassDecl (echo "scale") f := by
    refine ⟨⟨(echo "scale").decl, ⟨0, 0x1b, .other⟩, _⟩, ⟨by decide, by decide, ?_, ?_, ?_⟩, rfl,
      rfl, rfl, rfl⟩
    · exact (ignoresThis_iff (echo "scale")).1 (by decide)
    · intro d hd hreach
      rcases List.mem_pair.1 hd with rfl | rfl
      · simp [ClassDecl.Redeclares, base, echo]
      · exact absurd (reaches_tool hreach) (by decide)
    · intro name hreach
      rcases reaches_tool hreach with rfl | rfl
      · exact .inr ⟨base.toClassDecl, by simp, rfl⟩
      · exact .inl rfl
  obtain ⟨f, later, rfl, ⟨-, hasks⟩, hlater⟩ :=
    (((hverdicts rfl).of_passed happly).of_passed hitself).of_found hscale
  cases hlater
  simp [hasks.method, hasks.offset, echo]

/-! ## Methods of the root class -/

/-- Name and descriptor of the methods that every class inherits from the root class and may
override. -/
def rootMethods : List (String × String) :=
  [("toString", "()Ljava/lang/String;"), ("hashCode", "()I"), ("equals", "(Ljava/lang/Object;)Z"),
    ("clone", "()Ljava/lang/Object;"), ("finalize", "()V")]

/-- The method has the name and the descriptor of one of them. -/
def IsRootMethod (m : MethodDecl) : Prop := (m.name, m.descriptor) ∈ rootMethods

instance (m : MethodDecl) : Decidable (IsRootMethod m) :=
  inferInstanceAs (Decidable ((m.name, m.descriptor) ∈ rootMethods))

section
variable {classes : List ClassDecl} (hdistinct : (classes.map ClassDecl.name).Nodup)
  {c : ClassDecl} {m : MethodDecl}
include hdistinct

theorem exists_mem_findings_iff :
    (∃ f ∈ findings ⟨classes⟩ c, f.method = m) ↔
      c.access.isInterface = false ∧ m ∈ c.methods ∧ Plain m ∧ m.instructions ≠ [] ∧
        (∀ i ∈ m.instructions, i.operation ≠ .load 0) ∧ OverridesNothing classes c m := by
  cases hinterface : c.access.isInterface with
  | true => simp [findings, hinterface]
  | false =>
    simp only [findings, hinterface, Bool.false_eq_true, ↓reduceIte, List.mem_filterMap,
      methodFinding?_eq_some_iff hdistinct, true_and]
    constructor
    · rintro ⟨f, ⟨m', hm', hplain, hthis, hnothing, hfirst, hmethod, -⟩, rfl⟩
      obtain rfl : f.method = m' := hmethod
      refine ⟨hm', hplain, ?_, hthis, hnothing⟩
      rintro hnil
      simp [hnil] at hfirst
    · rintro ⟨hm, hplain, hbody, hthis, hnothing⟩
      obtain ⟨first, rest, hfirst⟩ := List.exists_cons_of_ne_nil hbody
      exact ⟨⟨m, first, _⟩, ⟨m, hm, hplain, hthis, hnothing, by simp [hfirst], rfl, rfl⟩, rfl⟩

/-- No step is made from a root class that is not listed, so the names within reach can be looked at
one by one. -/
theorem overridesNothing_iff_of_unlisted (hroot : ∀ d ∈ classes, d.name ≠ rootClass) :
    OverridesNothing classes c m ↔ ∀ name, Reaches classes (fun _ => True) c name →
      name = rootClass ∨ ∃ d ∈ classes, d.name = name ∧ ¬ d.Redeclares m := by
  have hpass : StepsUp classes (fun passed => passed ≠ rootClass) =
      StepsUp classes fun _ => True := by
    funext name next
    refine propext (and_congr_left fun hstep => iff_true_intro ?_)
    obtain ⟨d, hd, rfl, -⟩ := hstep
    exact hroot d hd
  have hreaches (name : String) : Reaches classes (fun passed => passed ≠ rootClass) c name ↔
      Reaches classes (fun _ => True) c name := by
    rw [Reaches, hpass, Reaches]
  constructor
  · rintro ⟨hundeclared, hresolved⟩ name hreach
    refine (hresolved name ((hreaches name).2 hreach)).imp_right ?_
    rintro ⟨d, hd, rfl⟩
    exact ⟨d, hd, rfl, hundeclared d hd hreach⟩
  · intro h
    refine ⟨fun d hd hreach => ?_, fun name hreach => ?_⟩
    · rcases h d.name hreach with hname | ⟨other, hother, hname, hm⟩
      · exact absurd hname (hroot d hd)
      · rwa [List.inj_on_of_nodup_map hdistinct hother hd hname] at hm
    · refine (h name ((hreaches name).1 hreach)).imp_right ?_
      rintro ⟨d, hd, hname, -⟩
      exact ⟨d, hd, hname⟩

end

/-- **Methods of the root class are reported when it is not listed.** Where the root class is listed
with its methods, none of them is reported on a class below it. Where it is not listed, a method is
reported exactly when its class is no interface, the method is plain, has instructions and loads
`this` in none of them, and every name within reach is listed and does not declare it, the root
class apart; whether the root class declares it has no part in this. -/
theorem root_methods_reported {classes : List ClassDecl} {index : ClassIndex}
    (hbuild : ClassIndex.build classes = .ok index) :
    ∀ c ∈ classes, ∃ fs, guideline.check index c = .ok fs ∧
      ((∃ root ∈ classes, root.name = rootClass ∧ ∀ m, IsRootMethod m → root.Redeclares m) →
        Reaches classes (fun _ => True) c rootClass → ∀ f ∈ fs, ¬ IsRootMethod f.method) ∧
      ((∀ d ∈ classes, d.name ≠ rootClass) → ∀ m ∈ c.methods,
        ((∃ f ∈ fs, f.method = m) ↔
          c.access.isInterface = false ∧ Plain m ∧ m.instructions ≠ [] ∧
            (∀ i ∈ m.instructions, i.operation ≠ .load 0) ∧
            ∀ name, Reaches classes (fun _ => True) c name →
              name = rootClass ∨ ∃ d ∈ classes, d.name = name ∧ ¬ d.Redeclares m)) := by
  obtain ⟨rfl, hdistinct⟩ := ClassIndex.of_build_eq_ok hbuild
  refine fun c _ => ⟨_, rfl, ?_, fun hroot m hm => ?_⟩
  · rintro ⟨root, hroot, hname, hdeclares⟩ hreach f hf hmethod
    obtain ⟨-, -, -, -, -, hnothing⟩ := (exists_mem_findings_iff hdistinct).1 ⟨f, hf, rfl⟩
    exact hnothing.undeclared root hroot (hname ▸ hreach) (hdeclares f.method hmethod)
  · rw [exists_mem_findings_iff hdistinct, overridesNothing_iff_of_unlisted hdistinct hroot]
    simp [hm]

/-! ### A class that overrides `toString` -/

/-- Gives a constant text. -/
def tag : ClassDecl where
  name := "p/Tag"
  superName := some "java/lang/Object"
  methods :=
    [{ name := "toString"
       descriptor := "()Ljava/lang/String;"
       instructions := [⟨0, 0x12, .other⟩, ⟨2, 0xb0, .other⟩] }]

/-- The root class with its methods. -/
def listedRoot : ClassDecl where
  name := "java/lang/Object"
  methods := rootMethods.map fun signature =>
    { name := signature.1, descriptor := signature.2 }

theorem reaches_tag {passable : String → Prop} {name : String}
    (h : Reaches [tag] passable tag name) : name = rootClass := by
  refine h.induct (P := fun name => name = rootClass) ?_ ?_
  · simp [ClassDecl.HasSuperType, tag, rootClass]
  · simp [ClassDecl.HasSuperType, tag, rootClass]

/-- Alone, the class is asked to make its `toString` static. -/
theorem tag_asked_for_static_toString :
    ∃ index fs, ClassIndex.build [tag] = .ok index ∧ guideline.check index tag = .ok fs ∧
      ∃ f ∈ fs, IsRootMethod f.method := by
  have hdistinct : ([tag].map ClassDecl.name).Nodup := by decide
  have hunlisted : ∀ d ∈ [tag], d.name ≠ rootClass := by decide
  obtain ⟨f, hf, hmethod⟩ := (exists_mem_findings_iff hdistinct).2
    ⟨rfl, List.mem_singleton_self _, by decide, by decide, by decide,
      (overridesNothing_iff_of_unlisted hdistinct hunlisted).2
        fun _ hreach => .inl (reaches_tag hreach)⟩
  exact ⟨_, _, ClassIndex.build_eq_ok hdistinct, rfl, f, hf, by rw [hmethod]; decide⟩

/-- The class is asked to make its `toString` static when it stands alone, and not when it stands
below a listed root class. -/
theorem tag_root_methods :
    (∃ index fs, ClassIndex.build [tag] = .ok index ∧ guideline.check index tag = .ok fs ∧
      ∃ f ∈ fs, f.method.name = "toString") ∧
    ∃ index fs, ClassIndex.build [listedRoot, tag] = .ok index ∧
      guideline.check index tag = .ok fs ∧ ∀ f ∈ fs, ¬ IsRootMethod f.method := by
  have halone := ClassIndex.build_eq_ok (show ([tag].map ClassDecl.name).Nodup by decide)
  have hbelow := ClassIndex.build_eq_ok
    (show ([listedRoot, tag].map ClassDecl.name).Nodup by decide)
  refine ⟨?_, ?_⟩
  · obtain ⟨fs, hfs, -, hunlisted⟩ := root_methods_reported halone tag (List.mem_singleton_self _)
    obtain ⟨f, hf, hmethod⟩ := (hunlisted (by decide) _ (List.mem_singleton_self _)).2
      ⟨rfl, by decide, by decide, by decide, fun _ hreach => .inl (reaches_tag hreach)⟩
    exact ⟨_, fs, halone, hfs, f, hf, by rw [hmethod]⟩
  · obtain ⟨fs, hfs, hlisted, -⟩ := root_methods_reported hbelow tag (by simp)
    refine ⟨_, fs, hbelow, hfs, hlisted ⟨listedRoot, by simp, rfl, fun m hm => ?_⟩
      ⟨rootClass, .inl rfl, .refl⟩⟩
    exact ⟨_, List.mem_map_of_mem hm, rfl, rfl⟩

end BytecodeLint.Guideline.PreferStatic
