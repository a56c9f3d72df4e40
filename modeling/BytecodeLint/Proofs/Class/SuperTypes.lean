import BytecodeLint.Proofs.Class.Index

/-!
# What a walk over super types meets

`ClassIndex.walk` keeps a list of pending names and a list of names it has met. What it meets in the
end does not depend on the order in which it goes: it is the set of names above a class (`Above`),
where a step leads from a class of the index to a super type it declares. Graphs may have cycles and
diamonds, and names without a class end a path.

* `mem_walk_of_closed`, `of_mem_walk`: the walk meets every name above the pending ones and no other.
* `mem_superTypesMet`: from a class, these are the names above it that are not skipped.
* `overridesInherited_iff`, `hasUnresolvedSuperTypes_iff`: the two questions in terms of `Above`.
* `mayOverride_congr`: they depend on what is found under each name, and on nothing else.
-/
namespace BytecodeLint.ClassIndex

/-- The names above a class: its own super types, and those of every class above it that is in the
index and is not skipped. -/
inductive Above (index : ClassIndex) (skip : String → Bool) (c : ClassDecl) : String → Prop where
  | direct {name : String} : name ∈ c.superTypes → Above index skip c name
  | step {name next : String} {parent : ClassDecl} : Above index skip c name →
      skip name = false → index.get? name = some parent → next ∈ parent.superTypes →
      Above index skip c next

/-! ## The walk -/

/-- One step of the walk. A name without a class is met, and nothing is above it. -/
theorem walk_cons (index : ClassIndex) (skip : String → Bool) (name : String)
    (rest seen : List String) :
    index.walk skip (name :: rest) seen =
      if seen.contains name || skip name then index.walk skip rest seen
      else index.walk skip (((index.get? name).map ClassDecl.superTypes).getD [] ++ rest)
        (name :: seen) := by
  rw [walk]
  cases seen.contains name
  · cases skip name
    · cases index.get? name <;> simp
    · simp
  · simp

/-- Every super type of a class met so far has been met, is pending or is skipped. -/
def Closed (index : ClassIndex) (skip : String → Bool) (seen pending : List String) : Prop :=
  ∀ name ∈ seen, ∀ parent, index.get? name = some parent → ∀ next ∈ parent.superTypes,
    skip next = false → next ∈ seen ∨ next ∈ pending

theorem mem_walk_of_seen (index : ClassIndex) (skip : String → Bool) (pending seen : List String)
    {name : String} (h : name ∈ seen) : name ∈ index.walk skip pending seen := by
  fun_induction walk index skip pending seen with
  | case1 => exact h
  | case2 _ _ _ _ ih => exact ih h
  | case3 _ _ _ _ _ ih => exact ih h
  | case4 _ _ _ _ _ _ ih => exact ih (List.mem_cons_of_mem _ h)
  | case5 _ _ _ _ _ _ _ ih => exact ih (List.mem_cons_of_mem _ h)

namespace Closed

variable {index : ClassIndex} {skip : String → Bool} {seen pending : List String} {name : String}

/-- A pending name that was met before, or is skipped, can be dropped. -/
theorem drop (h : index.Closed skip seen (name :: pending))
    (hname : name ∈ seen ∨ skip name = true) : index.Closed skip seen pending := by
  intro here hhere parent hget next hnext hskip
  rcases h here hhere parent hget next hnext hskip with hs | hp
  · exact .inl hs
  · rcases List.mem_cons.1 hp with rfl | hp
    · rcases hname with hs | hs
      · exact .inl hs
      · simp [hs] at hskip
    · exact .inr hp

/-- A pending name can be met once its own super types are pending. -/
theorem meet (h : index.Closed skip seen (name :: pending)) (more : List String)
    (hmore : ∀ parent, index.get? name = some parent → ∀ next ∈ parent.superTypes, next ∈ more) :
    index.Closed skip (name :: seen) (more ++ pending) := by
  intro here hhere parent hget next hnext hskip
  rcases List.mem_cons.1 hhere with rfl | hhere
  · exact .inr (List.mem_append_left _ (hmore parent hget next hnext))
  · rcases h here hhere parent hget next hnext hskip with hs | hp
    · exact .inl (List.mem_cons_of_mem _ hs)
    · rcases List.mem_cons.1 hp with rfl | hp
      · exact .inl List.mem_cons_self
      · exact .inr (List.mem_append_right _ hp)

end Closed

/-- What the walk meets holds every pending name and the super types of every class in it. -/
theorem mem_walk_of_closed {index : ClassIndex} {skip : String → Bool}
    {pending seen : List String} (h : index.Closed skip seen pending) :
    (∀ name ∈ pending, skip name = false → name ∈ index.walk skip pending seen) ∧
      index.Closed skip (index.walk skip pending seen) [] := by
  fun_induction walk index skip pending seen with
  | case1 => exact ⟨by simp, h⟩
  | case2 seen first rest hseen ih =>
    have hmet : first ∈ seen := by simpa using hseen
    obtain ⟨hrest, hclosed⟩ := ih (h.drop (.inl hmet))
    exact ⟨List.forall_mem_cons.2 ⟨fun _ => mem_walk_of_seen _ _ _ _ hmet, hrest⟩, hclosed⟩
  | case3 seen first rest hseen hfirst ih =>
    obtain ⟨hrest, hclosed⟩ := ih (h.drop (.inr hfirst))
    exact ⟨List.forall_mem_cons.2 ⟨fun hskip => by simp [hfirst] at hskip, hrest⟩, hclosed⟩
  | case4 seen first rest hseen hfirst hget ih =>
    obtain ⟨hrest, hclosed⟩ := ih (h.meet [] fun parent hsome => by simp [hget] at hsome)
    exact ⟨List.forall_mem_cons.2
      ⟨fun _ => mem_walk_of_seen _ _ _ _ List.mem_cons_self, hrest⟩, hclosed⟩
  | case5 seen first rest hseen hfirst parent hget ih =>
    obtain ⟨hrest, hclosed⟩ := ih (h.meet parent.superTypes fun other hsome next hnext => by
      obtain rfl : parent = other := Option.some.inj (hget.symm.trans hsome)
      exact hnext)
    exact ⟨List.forall_mem_cons.2
      ⟨fun _ => mem_walk_of_seen _ _ _ _ List.mem_cons_self,
        fun name hname => hrest name (List.mem_append_right _ hname)⟩, hclosed⟩

/-- What holds of the pending names, and of a class's super types once it holds of the class, holds
of all that the walk meets. -/
theorem of_mem_walk {index : ClassIndex} {skip : String → Bool} {P : String → Prop}
    (hstep : ∀ name parent, P name → index.get? name = some parent → ∀ next ∈ parent.superTypes,
      skip next = false → P next)
    {pending seen : List String} (hpending : ∀ name ∈ pending, skip name = false → P name)
    (hseen : ∀ name ∈ seen, P name) : ∀ name ∈ index.walk skip pending seen, P name := by
  fun_induction walk index skip pending seen with
  | case1 => exact hseen
  | case2 seen first rest _ ih => exact ih (List.forall_mem_cons.1 hpending).2 hseen
  | case3 seen first rest _ _ ih => exact ih (List.forall_mem_cons.1 hpending).2 hseen
  | case4 seen first rest _ hfirst hget ih =>
    obtain ⟨hhere, hrest⟩ := List.forall_mem_cons.1 hpending
    exact ih hrest (List.forall_mem_cons.2 ⟨hhere (by simpa using hfirst), hseen⟩)
  | case5 seen first rest _ hfirst parent hget ih =>
    obtain ⟨hhere, hrest⟩ := List.forall_mem_cons.1 hpending
    have hP : P first := hhere (by simpa using hfirst)
    refine ih (fun name hname hskip => ?_) (List.forall_mem_cons.2 ⟨hP, hseen⟩)
    rcases List.mem_append.1 hname with hup | hname
    · exact hstep first parent hP hget name hup hskip
    · exact hrest name hname hskip

/-! ## The questions -/

theorem mem_superTypesMet {index : ClassIndex} {skip : String → Bool} {c : ClassDecl}
    {name : String} :
    name ∈ index.superTypesMet skip c ↔ index.Above skip c name ∧ skip name = false := by
  constructor
  · apply of_mem_walk (P := fun name => index.Above skip c name ∧ skip name = false)
    · intro here parent hhere hget next hnext hskip
      exact ⟨.step hhere.1 hhere.2 hget hnext, hskip⟩
    · intro here hhere hskip
      exact ⟨.direct hhere, hskip⟩
    · simp
  · rintro ⟨habove, hskip⟩
    have hstart : index.Closed skip [] c.superTypes := by
      intro here hhere
      cases hhere
    obtain ⟨hdirect, hclosed⟩ := mem_walk_of_closed hstart
    induction habove with
    | direct hname => exact hdirect _ hname hskip
    | step _ hbelow hget hnext ih =>
      exact (hclosed _ (ih hbelow) _ hget _ hnext hskip).resolve_right (by simp)

/-- Nothing is skipped when overridden methods are looked for. -/
abbrev skipNone : String → Bool := fun _ => false

/-- The root class is skipped when missing classes are looked for. -/
abbrev skipRoot : String → Bool := fun name => name == rootClass

theorem overridesInherited_iff {index : ClassIndex} {c : ClassDecl} {m : MethodDecl} :
    index.overridesInherited c m = true ↔
      ∃ name parent, index.Above skipNone c name ∧ index.get? name = some parent ∧
        (parent.method? m.name m.descriptor).isSome = true := by
  rw [overridesInherited, List.any_eq_true]
  constructor
  · rintro ⟨name, hmet, hfound⟩
    split at hfound
    · rename_i parent hget
      exact ⟨name, parent, (mem_superTypesMet.1 hmet).1, hget, hfound⟩
    · cases hfound
  · rintro ⟨name, parent, habove, hget, hfound⟩
    exact ⟨name, mem_superTypesMet.2 ⟨habove, rfl⟩, by simpa only [hget] using hfound⟩

theorem hasUnresolvedSuperTypes_iff {index : ClassIndex} {c : ClassDecl} :
    index.hasUnresolvedSuperTypes c = true ↔
      ∃ name, index.Above skipRoot c name ∧ name ≠ rootClass ∧ index.get? name = none := by
  simp only [hasUnresolvedSuperTypes, List.any_eq_true, mem_superTypesMet]
  simp [and_assoc]

/-! ## Two indexes -/

/-- Where two indexes agree on every name above a class in one of them, no other name is above the
class in the other. -/
theorem Above.transfer {index index' : ClassIndex} {skip : String → Bool} {c : ClassDecl}
    (hagree : ∀ name, index.Above skip c name → index'.get? name = index.get? name) {name : String}
    (h : index'.Above skip c name) : index.Above skip c name := by
  induction h with
  | direct hname => exact .direct hname
  | step _ hbelow hget hnext ih => exact .step ih hbelow ((hagree _ ih) ▸ hget) hnext

/-- A root class without super types leads nowhere, skipped or not. -/
theorem Above.around_root {index : ClassIndex} {c : ClassDecl}
    (hroot : ∀ parent, index.get? rootClass = some parent → parent.superTypes = []) {name : String}
    (h : index.Above skipNone c name) : index.Above skipRoot c name := by
  induction h with
  | direct hname => exact .direct hname
  | @step name next parent _ _ hget hnext ih =>
    have hne : name ≠ rootClass := by
      rintro rfl
      simp [hroot parent hget] at hnext
    exact .step ih (by simpa using hne) hget hnext

/-- A verdict that a method overrides nothing is kept by every index that agrees on the names above
its class. -/
theorem mayOverride_of_agree {index index' : ClassIndex} {c : ClassDecl}
    (hroot : ∀ parent, index.get? rootClass = some parent → parent.superTypes = [])
    (hagree : ∀ name, index.Above skipRoot c name → index'.get? name = index.get? name)
    {m : MethodDecl} (h : index'.mayOverride c m = true) : index.mayOverride c m = true := by
  rw [mayOverride, Bool.or_eq_true, overridesInherited_iff, hasUnresolvedSuperTypes_iff] at h ⊢
  rcases h with ⟨name, parent, habove, hget, hfound⟩ | ⟨name, habove, hne, hget⟩
  · left
    have hbelow := habove.transfer fun other hother => hagree other (hother.around_root hroot)
    exact ⟨name, parent, hbelow, (hagree name (hbelow.around_root hroot)) ▸ hget, hfound⟩
  · right
    have hbelow := habove.transfer hagree
    exact ⟨name, hbelow, hne, (hagree name hbelow) ▸ hget⟩

/-- Indexes in which the same is found under every name give the same verdicts. -/
theorem mayOverride_congr {index index' : ClassIndex}
    (hget : ∀ name, index.get? name = index'.get? name) (c : ClassDecl) (m : MethodDecl) :
    index.mayOverride c m = index'.mayOverride c m := by
  have habove (skip : String → Bool) (name : String) :
      index.Above skip c name ↔ index'.Above skip c name :=
    ⟨Above.transfer fun other _ => hget other, Above.transfer fun other _ => (hget other).symm⟩
  rw [Bool.eq_iff_iff, mayOverride, mayOverride, Bool.or_eq_true, Bool.or_eq_true]
  simp only [overridesInherited_iff, hasUnresolvedSuperTypes_iff, habove, hget]

end BytecodeLint.ClassIndex
