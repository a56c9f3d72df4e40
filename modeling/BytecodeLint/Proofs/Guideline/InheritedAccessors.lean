import BytecodeLint.Guideline.SyntheticAccess
import BytecodeLint.Proofs.Class.Index

/-!
# Accessors that are inherited

A static call names an owner. The method that it reaches is declared by the owner or, since static
methods are inherited, by the nearest class above it (`CallReaches`). The guideline asks the owner
alone whether the method was made by the compiler, so a method that was written by hand is known as
such only where the owner declares it itself.

* `isAccessor_of_callReaches`: what a call is taken for, in terms of the method that it reaches.
* `exists_mem_findings_iff`: a finding is at a call that is taken for one of an accessor.
* `inherited_accessors_reported`: which calls are reported. Those that reach a hand-written method
  which the owner inherits are among them (`inherited_check_reported`).
-/
namespace BytecodeLint.Guideline.SyntheticAccess

/-- The method that a static call on a class reaches: the first that the class declares with the
name and the descriptor or, failing that, the one that the call reaches on its super class. -/
inductive CallReaches (classes : List ClassDecl) (name descriptor : String) :
    ClassDecl → MethodDecl → Prop where
  | own {owner : ClassDecl} {callee : MethodDecl} :
      owner.method? name descriptor = some callee → CallReaches classes name descriptor owner callee
  | inherited {owner parent : ClassDecl} {callee : MethodDecl} :
      owner.method? name descriptor = none → parent ∈ classes →
      owner.superName = some parent.name → CallReaches classes name descriptor parent callee →
      CallReaches classes name descriptor owner callee

/-- A static call of a method that is named like a compiler-made accessor. -/
def CallsAccessor (i : Instruction) (target : MemberRef) : Prop :=
  i.operation = .invoke .static target ∧ "access$".toList <+: target.name.toList

/-- A call that reaches a method is taken for one of an accessor when the compiler made the method,
and also when the owner does not declare it. -/
theorem isAccessor_of_callReaches {classes : List ClassDecl} {index : ClassIndex}
    {target : MemberRef} {owner : ClassDecl} {callee : MethodDecl}
    (hget : index.get? target.owner = some owner)
    (h : CallReaches classes target.name target.descriptor owner callee) :
    isAccessor index target = true ↔ callee.access.isSynthetic = true ∨
      owner.method? target.name target.descriptor = none := by
  simp only [isAccessor, hget]
  cases h with
  | own hmethod => simp [hmethod]
  | inherited hmethod _ _ _ => simp [hmethod]

theorem isSome_message?_iff {index : ClassIndex} {c : ClassDecl} {m : MethodDecl}
    {i : Instruction} : (message? index c m i).isSome = true ↔
      ∃ target, CallsAccessor i target ∧ isAccessor index target = true := by
  unfold message? CallsAccessor
  split
  · rename_i target hcall
    simp [hcall, accessorStart, apply_ite]
  · rename_i hcall
    simp only [Option.isSome_none, Bool.false_eq_true, false_iff]
    rintro ⟨target, ⟨htarget, -⟩, -⟩
    exact hcall target htarget

/-- An instruction of a method is reported exactly when it calls an accessor. -/
theorem exists_mem_findings_iff {index : ClassIndex} {c : ClassDecl} {m : MethodDecl}
    {i : Instruction} :
    (∃ f ∈ findings index c, f.method = m ∧ f.instruction = i) ↔
      m ∈ c.methods ∧ i ∈ m.instructions ∧
        ∃ target, CallsAccessor i target ∧ isAccessor index target = true := by
  rw [← @isSome_message?_iff index c m i, Option.isSome_iff_exists]
  simp only [findings, ClassDecl.findings, MethodDecl.findings, List.mem_flatMap,
    List.mem_filterMap, Option.map_eq_some_iff]
  constructor
  · rintro ⟨_, ⟨m, hm, i, hi, text, htext, rfl⟩, rfl, rfl⟩
    exact ⟨hm, hi, text, htext⟩
  · rintro ⟨hm, hi, text, htext⟩
    exact ⟨_, ⟨m, hm, i, hi, text, htext, rfl⟩, rfl, rfl⟩

/-- **Inherited accessors are reported, whoever wrote them.** All that is reported are static calls
of methods that are named like accessors. Where the owner of such a call is listed and the call
reaches a method, it is reported exactly when the compiler made the method or the owner does not
declare it. -/
theorem inherited_accessors_reported {classes : List ClassDecl}
    (hdistinct : (classes.map ClassDecl.name).Nodup) :
    ∃ index, ClassIndex.build classes = .ok index ∧ ∀ c ∈ classes,
      ∃ fs, guideline.check index c = .ok fs ∧
        (∀ f ∈ fs, f.method ∈ c.methods ∧ f.instruction ∈ f.method.instructions ∧
          ∃ target, CallsAccessor f.instruction target) ∧
        ∀ m ∈ c.methods, ∀ i ∈ m.instructions, ∀ target, CallsAccessor i target →
          ∀ owner ∈ classes, owner.name = target.owner →
          ∀ callee, CallReaches classes target.name target.descriptor owner callee →
            ((∃ f ∈ fs, f.method = m ∧ f.instruction = i) ↔
              callee.access.isSynthetic = true ∨
                owner.method? target.name target.descriptor = none) := by
  refine ⟨_, ClassIndex.build_eq_ok hdistinct, fun c _ => ⟨_, rfl, fun f hf => ?_, ?_⟩⟩
  · obtain ⟨hm, hi, target, hcalls, -⟩ := exists_mem_findings_iff.1 ⟨f, hf, rfl, rfl⟩
    exact ⟨hm, hi, target, hcalls⟩
  · intro m hm i hi target hcalls owner howner hname callee hreaches
    have hget := (@ClassIndex.get?_eq_some_iff ⟨classes⟩ hdistinct _ _).2 ⟨howner, hname⟩
    rw [exists_mem_findings_iff, ← isAccessor_of_callReaches hget hreaches]
    constructor
    · rintro ⟨-, -, target', hcalls', haccessor⟩
      obtain rfl : target = target' := by simpa [hcalls.1] using hcalls'.1
      exact haccessor
    · exact fun haccessor => ⟨hm, hi, target, hcalls, haccessor⟩

/-! ### A bench of three calls

`p/Util` inherits `access$check`, which was written by hand, and declares two methods: `access$own`,
written by hand too, and `access$made`. -/

def accessor (name : String) (isSynthetic : Bool) : MethodDecl where
  name := name
  descriptor := "()V"
  access := { isStatic := true, isSynthetic := isSynthetic }

def checks : ClassDecl where
  name := "p/Checks"
  superName := some "java/lang/Object"
  methods := [accessor "access$check" false]

def util : ClassDecl where
  name := "p/Util"
  superName := some "p/Checks"
  methods := [accessor "access$own" false, accessor "access$made" true]

def utilCall (offset : Nat) (name : String) : Instruction :=
  ⟨offset, 0xb8, .invoke .static ⟨"p/Util", name, "()V"⟩⟩

def runner : MethodDecl where
  name := "run"
  descriptor := "()V"
  instructions := [utilCall 0 "access$check", utilCall 3 "access$own", utilCall 6 "access$made",
    ⟨9, 0xb1, .other⟩]

def caller : ClassDecl where
  name := "p/Caller"
  superName := some "java/lang/Object"
  methods := [runner]

def bench : List ClassDecl := [checks, util, caller]

theorem callReaches_check :
    CallReaches bench "access$check" "()V" util (accessor "access$check" false) :=
  @CallReaches.inherited bench _ _ util checks _ rfl (by decide) rfl (.own rfl)

/-- A call that reaches a hand-written method is reported although its owner is listed. -/
theorem inherited_check_reported :
    ∃ index fs, ClassIndex.build bench = .ok index ∧ guideline.check index caller = .ok fs ∧
      ∃ f ∈ fs, ∃ target owner callee, f.instruction.operation = .invoke .static target ∧
        owner ∈ bench ∧ owner.name = target.owner ∧
        CallReaches bench target.name target.descriptor owner callee ∧
        callee.access.isSynthetic = false := by
  obtain ⟨f, hf, -, hcall⟩ := (@exists_mem_findings_iff ⟨bench⟩ caller runner
    (utilCall 0 "access$check")).2 ⟨by decide, by decide, _, ⟨rfl, by decide +kernel⟩,
      by decide +kernel⟩
  exact ⟨_, _, ClassIndex.build_eq_ok (by decide), rfl, f, hf, _, util, _, by rw [hcall]; rfl,
    by decide, rfl, callReaches_check, rfl⟩

/-- Of the three calls the first and the last are reported. -/
theorem bench_accessors :
    (bench.map ClassDecl.name).Nodup ∧
      ∃ index fs, ClassIndex.build bench = .ok index ∧ guideline.check index caller = .ok fs ∧
        (∃ f ∈ fs, f.method = runner ∧ f.instruction = utilCall 0 "access$check") ∧
        (¬ ∃ f ∈ fs, f.method = runner ∧ f.instruction = utilCall 3 "access$own") ∧
        ∃ f ∈ fs, f.method = runner ∧ f.instruction = utilCall 6 "access$made" := by
  have hdistinct : (bench.map ClassDecl.name).Nodup := by decide
  obtain ⟨index, hbuild, hcheck⟩ := inherited_accessors_reported hdistinct
  obtain ⟨fs, hfs, -, hreported⟩ := hcheck caller (by decide)
  have hcall := hreported runner (by decide)
  refine ⟨hdistinct, index, fs, hbuild, hfs, ?_, ?_, ?_⟩
  · exact (hcall _ (by decide) _ ⟨rfl, by decide +kernel⟩ util (by decide) rfl _
      callReaches_check).2 (.inr (by decide))
  · rw [hcall _ (by decide) _ ⟨rfl, by decide +kernel⟩ util (by decide) rfl _ (.own rfl)]
    decide
  · exact (hcall _ (by decide) _ ⟨rfl, by decide +kernel⟩ util (by decide) rfl _ (.own rfl)).2
      (.inl rfl)

end BytecodeLint.Guideline.SyntheticAccess
