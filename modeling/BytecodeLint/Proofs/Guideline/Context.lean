import BytecodeLint.Guideline.Registry
import BytecodeLint.Proofs.Class.SuperTypes

/-!
# What added classes change

A class can be checked in a small class set or in a larger one that holds the small one
(`ClassIndex.Widens`). Five guidelines look at the class alone. The others ask about other classes:

* a class that is added may turn out to be an enum, so there is more to report;
* a super type that is added may complete a hierarchy, so that a method turns out to override
  nothing; but what was known to override nothing before is known still (`Widens.mayOverride`), since
  every name above its class had been found already;
* an owner that is added may turn out to declare a method by hand, so there is less to report.

`findings_under_context` puts this together. The root class is kept out: it is never missing, so
adding it, with whatever methods it declares, could make a known verdict false.
-/
namespace BytecodeLint

/-! ## Findings -/

section
variable {α β : Type}

theorem filterMap_sublist {f g : α → Option β} (h : ∀ a b, f a = some b → g a = some b)
    (xs : List α) : (xs.filterMap f).Sublist (xs.filterMap g) := by
  induction xs with
  | nil => exact .slnil
  | cons x xs ih =>
    rw [List.filterMap_cons, List.filterMap_cons]
    cases hf : f x with
    | none =>
      cases g x with
      | none => exact ih
      | some b => exact ih.cons b
    | some b => simpa [h x b hf] using ih

theorem flatMap_sublist {f g : α → List β} (h : ∀ a, (f a).Sublist (g a)) (xs : List α) :
    (xs.flatMap f).Sublist (xs.flatMap g) := by
  induction xs with
  | nil => exact .slnil
  | cons x xs ih => exact (h x).append ih

end

/-- Where there is more to tell about instructions, there are more findings, in the same order. -/
theorem ClassDecl.findings_sublist (c : ClassDecl) {f g : MethodDecl → Instruction → Option String}
    (h : ∀ m i text, f m i = some text → g m i = some text) :
    (c.findings f).Sublist (c.findings g) := by
  refine flatMap_sublist (fun m => filterMap_sublist (fun i finding hfound => ?_) _) _
  obtain ⟨text, htext, rfl⟩ := Option.map_eq_some_iff.1 hfound
  rw [h m i text htext]
  rfl

namespace ClassIndex

/-! ## Added classes -/

/-- A class list with others added: names are distinct in both, the root class is not among the added
classes, and where it was there before it has no super types. -/
structure Widens (narrow wide : List ClassDecl) : Prop where
  distinct : (narrow.map ClassDecl.name).Nodup
  distinct_wide : (wide.map ClassDecl.name).Nodup
  kept : ∀ c ∈ narrow, c ∈ wide
  added : ∀ c ∈ wide, c ∉ narrow → c.name ≠ rootClass
  root : ∀ c ∈ narrow, c.name = rootClass → c.superTypes = []

namespace Widens

variable {narrow wide : List ClassDecl} (h : Widens narrow wide)
include h

/-- A class that was found is found still. -/
theorem get?_of_some {name : String} {c : ClassDecl}
    (hget : (ClassIndex.mk narrow).get? name = some c) :
    (ClassIndex.mk wide).get? name = some c := by
  obtain ⟨hmem, hname⟩ := (get?_eq_some_iff h.distinct).1 hget
  exact (get?_eq_some_iff h.distinct_wide).2 ⟨h.kept c hmem, hname⟩

theorem get?_root : (ClassIndex.mk wide).get? rootClass = (ClassIndex.mk narrow).get? rootClass := by
  cases hnarrow : (ClassIndex.mk narrow).get? rootClass with
  | some c => exact h.get?_of_some hnarrow
  | none =>
    refine get?_eq_none_iff.2 fun c hmem hname => ?_
    by_cases hold : c ∈ narrow
    · exact get?_eq_none_iff.1 hnarrow c hold hname
    · exact h.added c hmem hold hname

/-- When no super type of a class is missing, the names above it mean what they meant. -/
theorem get?_above {c : ClassDecl}
    (hresolved : (ClassIndex.mk narrow).hasUnresolvedSuperTypes c = false) {name : String}
    (habove : (ClassIndex.mk narrow).Above skipRoot c name) :
    (ClassIndex.mk wide).get? name = (ClassIndex.mk narrow).get? name := by
  by_cases hroot : name = rootClass
  · rw [hroot, h.get?_root]
  · cases hget : (ClassIndex.mk narrow).get? name with
    | some parent => exact h.get?_of_some hget
    | none =>
      have hmissing := hasUnresolvedSuperTypes_iff.2 ⟨name, habove, hroot, hget⟩
      simp [hmissing] at hresolved

/-- A method that overrides nothing in the narrow set overrides nothing in the wide one. -/
theorem mayOverride {c : ClassDecl} {m : MethodDecl}
    (hwide : (ClassIndex.mk wide).mayOverride c m = true) :
    (ClassIndex.mk narrow).mayOverride c m = true := by
  cases hresolved : (ClassIndex.mk narrow).hasUnresolvedSuperTypes c with
  | true => simp [ClassIndex.mayOverride, hresolved]
  | false =>
    refine mayOverride_of_agree (fun parent hget => ?_) (fun name => h.get?_above hresolved) hwide
    obtain ⟨hmem, hname⟩ := (get?_eq_some_iff h.distinct).1 hget
    exact h.root parent hmem hname

theorem isEnum {name : String} (hnarrow : (ClassIndex.mk narrow).isEnum name = true) :
    (ClassIndex.mk wide).isEnum name = true := by
  obtain ⟨c, hmem, henum⟩ := isEnum_iff.1 hnarrow
  exact isEnum_iff.2 ⟨c, h.kept c hmem, henum⟩

/-- A call that goes to a compiler-made accessor in the wide set does so in the narrow one. -/
theorem isAccessor {target : MemberRef}
    (hwide : Guideline.SyntheticAccess.isAccessor ⟨wide⟩ target = true) :
    Guideline.SyntheticAccess.isAccessor ⟨narrow⟩ target = true := by
  unfold Guideline.SyntheticAccess.isAccessor at hwide ⊢
  cases hget : (ClassIndex.mk narrow).get? target.owner with
  | none => rfl
  | some owner => simpa only [h.get?_of_some hget] using hwide

end Widens

end ClassIndex

namespace Guideline

open ClassIndex (Widens)

section
variable {narrow wide : List ClassDecl} (h : Widens narrow wide) (c : ClassDecl)
include h

theorem AvoidEnums.findings_widen : (findings ⟨narrow⟩ c).Sublist (findings ⟨wide⟩ c) := by
  unfold findings
  split
  · exact .slnil
  · refine c.findings_sublist fun m i text htext => ?_
    unfold message? at htext ⊢
    split at htext
    · rename_i target hread
      split at htext
      · rename_i name hobject
        split at htext
        · rename_i henum
          simpa only [hread, hobject, h.isEnum henum, ↓reduceIte] using htext
        · cases htext
      · cases htext
    · cases htext

theorem SyntheticAccess.findings_widen : (findings ⟨wide⟩ c).Sublist (findings ⟨narrow⟩ c) := by
  refine c.findings_sublist fun m i text htext => ?_
  unfold message? at htext ⊢
  split at htext
  · rename_i target hcall
    split at htext
    · rename_i haccess
      rw [Bool.and_eq_true] at haccess
      simpa only [hcall, haccess.1, h.isAccessor haccess.2, Bool.and_self, ↓reduceIte] using htext
    · cases htext
  · cases htext

theorem PreferStatic.findings_widen : (findings ⟨narrow⟩ c).Sublist (findings ⟨wide⟩ c) := by
  unfold findings
  split
  · exact .slnil
  · refine filterMap_sublist (fun m finding hfound => ?_) _
    unfold methodFinding? at hfound ⊢
    split at hfound
    · rename_i hcandidate
      split at hfound
      · rename_i first rest hbody
        split at hfound
        · cases hfound
        · rename_i hkept
          -- what keeps the method from being reported in the wide set did so in the narrow one
          have hfree : (usesThis m || (ClassIndex.mk wide).mayOverride c m) = false := by
            rw [Bool.not_eq_true, Bool.or_eq_false_iff] at hkept
            rw [Bool.or_eq_false_iff]
            refine ⟨hkept.1, ?_⟩
            by_contra hwide
            rw [Bool.not_eq_false] at hwide
            simp [h.mayOverride hwide] at hkept
          simpa [hcandidate, hbody, hfree] using hfound
      · cases hfound
    · cases hfound

end

/-- Both checks of a class succeed, and their findings are related. -/
def Compares (R : List Finding → List Finding → Prop) (g : Guideline) (index index' : ClassIndex)
    (c : ClassDecl) : Prop :=
  ∃ fs fs', g.check index c = .ok fs ∧ g.check index' c = .ok fs' ∧ R fs fs'

/-- **What added classes change.** With more classes around it, a class has the same findings under
the five guidelines that look at it alone, keeps those it has under the two that look for enums and
for methods that override nothing, and gets none that are new under the one that looks for
compiler-made accessors. -/
theorem findings_under_context {narrow wide : List ClassDecl} (h : Widens narrow wide) :
    ∃ index index', ClassIndex.build narrow = .ok index ∧ ClassIndex.build wide = .ok index' ∧
      ∀ c ∈ narrow,
        (∀ g ∈ [AvoidFloat.guideline, InternalAccessors.guideline, ConstantFinal.guideline,
            LoopIterator.guideline, PreferVirtual.guideline], g.Compares Eq index index' c) ∧
        (∀ g ∈ [AvoidEnums.guideline, PreferStatic.guideline],
          g.Compares List.Sublist index index' c) ∧
        SyntheticAccess.guideline.Compares List.Sublist index' index c := by
  refine ⟨_, _, ClassIndex.build_eq_ok h.distinct, ClassIndex.build_eq_ok h.distinct_wide, ?_⟩
  intro c _
  refine ⟨fun g hg => ?_, fun g hg => ?_, _, _, rfl, rfl, SyntheticAccess.findings_widen h c⟩
  · simp only [List.mem_cons, List.not_mem_nil, or_false] at hg
    rcases hg with rfl | rfl | rfl | rfl | rfl <;> exact ⟨_, _, rfl, rfl, rfl⟩
  · simp only [List.mem_cons, List.not_mem_nil, or_false] at hg
    rcases hg with rfl | rfl
    · exact ⟨_, _, rfl, rfl, AvoidEnums.findings_widen h c⟩
    · exact ⟨_, _, rfl, rfl, PreferStatic.findings_widen h c⟩

/-! A class whose super type, enum and accessor are unknown at first, and one that needs nothing. -/

def sketch : ClassDecl where
  name := "p/Sketch"
  superName := some "p/Base"
  methods :=
    [{ name := "draw"
       descriptor := "()V"
       instructions :=
         [⟨0, 0xb2, .field .getStatic ⟨"p/Color", "RED", "Lp/Color;"⟩⟩,
           ⟨3, 0xb8, .invoke .static ⟨"p/Tools", "access$0", "()V"⟩⟩, ⟨6, 0xb1, .other⟩] }]

def outline : ClassDecl where
  name := "p/Outline"
  superName := some "java/lang/Object"
  methods := [{ name := "f", descriptor := "()V", instructions := [⟨0, 0xb1, .other⟩] }]

def surroundings : List ClassDecl :=
  [{ name := "p/Base", superName := some "java/lang/Object" },
    { name := "p/Color", access := { isEnum := true } },
    { name := "p/Tools"
      methods := [{ name := "access$0", descriptor := "()V", access := { isStatic := true } }] }]

theorem sketch_in_surroundings :
    (∃ index index', ClassIndex.build [sketch, outline] = .ok index ∧
      ClassIndex.build (surroundings ++ [outline, sketch]) = .ok index' ∧
      AvoidFloat.guideline.Compares Eq index index' sketch ∧
      PreferStatic.guideline.Compares List.Sublist index index' outline ∧
      PreferStatic.guideline.Compares List.Sublist index index' sketch ∧
      AvoidEnums.guideline.Compares List.Sublist index index' sketch ∧
      SyntheticAccess.guideline.Compares List.Sublist index' index sketch) ∧
    (PreferStatic.findings ⟨[sketch, outline]⟩ outline).length = 1 ∧
    (PreferStatic.findings ⟨[sketch, outline]⟩ sketch).length = 0 ∧
    (PreferStatic.findings ⟨surroundings ++ [outline, sketch]⟩ sketch).length = 1 ∧
    (AvoidEnums.findings ⟨[sketch, outline]⟩ sketch).length = 0 ∧
    (AvoidEnums.findings ⟨surroundings ++ [outline, sketch]⟩ sketch).length = 1 ∧
    (SyntheticAccess.findings ⟨[sketch, outline]⟩ sketch).length = 1 ∧
    (SyntheticAccess.findings ⟨surroundings ++ [outline, sketch]⟩ sketch).length = 0 := by
  have hwidens : Widens [sketch, outline] (surroundings ++ [outline, sketch]) :=
    ⟨by decide, by decide, by decide, by decide, by decide⟩
  obtain ⟨index, index', hbuild, hbuild', hcheck⟩ := findings_under_context hwidens
  obtain ⟨halone, hkept, haccessor⟩ := hcheck sketch (by simp)
  refine ⟨⟨index, index', hbuild, hbuild', halone _ (by simp),
    (hcheck outline (by simp)).2.1 _ (by simp), hkept _ (by simp), hkept _ (by simp), haccessor⟩,
    ?_, ?_, ?_, by decide +kernel⟩
  all_goals
    simp [PreferStatic.findings, PreferStatic.methodFinding?, PreferStatic.isCandidate,
      PreferStatic.usesThis, MethodDecl.isConstructor, constructorName,
      MethodDecl.isStaticInitializer, staticInitializerName, ClassIndex.mayOverride,
      ClassIndex.overridesInherited, ClassIndex.hasUnresolvedSuperTypes, ClassIndex.rootClass,
      ClassIndex.superTypesMet, ClassIndex.walk_cons, ClassIndex.walk, ClassIndex.get?,
      ClassDecl.superTypes, ClassDecl.method?, sketch, outline, surroundings]

end Guideline

end BytecodeLint
