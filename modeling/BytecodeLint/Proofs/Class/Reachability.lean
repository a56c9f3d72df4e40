import BytecodeLint.Proofs.Class.SuperTypes
import Mathlib.Data.List.Flatten
import Mathlib.Logic.Relation

/-!
# The two questions about super types decide reachability

`ClassIndex.walk` goes over super types with a list of pending names and a list of names met, and it
asks an index for classes. Here the same is said of the class list alone: a name is reached from a
class when the class declares it, or when a listed class of a reached name does (`Reaches`). Class
lists may describe cycles and diamonds and may name classes that are not listed.

* `walkFor_eq_walk`: the walk ends after at most as many turns as super types are declared.
* `above_iff_reaches`: the names above a class are the names reached from it.
* `overridesInherited_decides`, `hasUnresolvedSuperTypes_decides`: what the two questions answer.
-/
namespace BytecodeLint

/-- The class declares the name as its super class or as one of its interfaces. -/
def ClassDecl.HasSuperType (c : ClassDecl) (name : String) : Prop :=
  c.superName = some name ∨ name ∈ c.interfaces

theorem ClassDecl.mem_superTypes {c : ClassDecl} {name : String} :
    name ∈ c.superTypes ↔ c.HasSuperType name := by
  simp [superTypes, HasSuperType]

/-- The class declares a method with the name and the descriptor of `m`. -/
def ClassDecl.Redeclares (c : ClassDecl) (m : MethodDecl) : Prop :=
  ∃ other ∈ c.methods, other.name = m.name ∧ other.descriptor = m.descriptor

theorem ClassDecl.isSome_method? {c : ClassDecl} {m : MethodDecl} :
    (c.method? m.name m.descriptor).isSome = true ↔ c.Redeclares m := by
  simp [method?, Redeclares, MethodDecl.hasSignature]

namespace ClassIndex

/-! ## Reachable names -/

/-- One step up between names: a listed class of the first name has the second as a super type. Only
names that may be passed are stepped from. -/
def StepsUp (classes : List ClassDecl) (passable : String → Prop) (name next : String) : Prop :=
  passable name ∧ ∃ d ∈ classes, d.name = name ∧ d.HasSuperType next

/-- A name is reached from a class by one step from the class itself, listed or not, and any number
of steps from listed classes behind it. -/
def Reaches (classes : List ClassDecl) (passable : String → Prop) (c : ClassDecl)
    (name : String) : Prop :=
  ∃ first, c.HasSuperType first ∧ Relation.ReflTransGen (StepsUp classes passable) first name

/-- What holds of the super types of a class, and of those of every listed class that it holds of,
holds of every name within reach. -/
theorem Reaches.induct {classes : List ClassDecl} {passable : String → Prop} {c : ClassDecl}
    {P : String → Prop} (hdirect : ∀ name, c.HasSuperType name → P name)
    (hstep : ∀ d ∈ classes, P d.name → ∀ name, d.HasSuperType name → P name) {name : String}
    (h : Reaches classes passable c name) : P name := by
  obtain ⟨first, hfirst, hpath⟩ := h
  induction hpath with
  | refl => exact hdirect _ hfirst
  | tail _ hup ih =>
    obtain ⟨-, d, hd, rfl, hsuper⟩ := hup
    exact hstep d hd ih _ hsuper

section
variable {classes : List ClassDecl} (hdistinct : (classes.map ClassDecl.name).Nodup)
  {skip : String → Bool} {passable : String → Prop}
  (hpass : ∀ name, passable name ↔ skip name = false)
include hdistinct hpass

theorem stepsUp_iff {name next : String} :
    StepsUp classes passable name next ↔
      skip name = false ∧
        ∃ d, (⟨classes⟩ : ClassIndex).get? name = some d ∧ next ∈ d.superTypes := by
  simp only [StepsUp, hpass, get?_eq_some_iff hdistinct, ClassDecl.mem_superTypes, and_assoc]

/-- **The names above a class are the names reached from it.** -/
theorem above_iff_reaches {c : ClassDecl} {name : String} :
    (⟨classes⟩ : ClassIndex).Above skip c name ↔ Reaches classes passable c name := by
  constructor
  · intro h
    induction h with
    | direct hname => exact ⟨_, ClassDecl.mem_superTypes.1 hname, .refl⟩
    | step _ hskip hget hnext ih =>
      obtain ⟨first, hfirst, hpath⟩ := ih
      exact ⟨first, hfirst, hpath.tail ((stepsUp_iff hdistinct hpass).2 ⟨hskip, _, hget, hnext⟩)⟩
  · rintro ⟨first, hfirst, hpath⟩
    induction hpath with
    | refl => exact .direct (ClassDecl.mem_superTypes.2 hfirst)
    | tail _ hstep ih =>
      obtain ⟨hskip, d, hget, hnext⟩ := (stepsUp_iff hdistinct hpass).1 hstep
      exact .step ih hskip hget hnext

end

/-! ## The number of turns -/

/-- The walk, given up after a number of turns. A turn takes one pending name. -/
def walkFor (index : ClassIndex) (skip : String → Bool) :
    Nat → List String → List String → Option (List String)
  | _, [], seen => some seen
  | 0, _ :: _, _ => none
  | turns + 1, name :: rest, seen =>
    if seen.contains name || skip name then index.walkFor skip turns rest seen
    else index.walkFor skip turns
      (((index.get? name).map ClassDecl.superTypes).getD [] ++ rest) (name :: seen)

/-- The super types declared by the classes that have not been met, once for each declaration. -/
def ahead (classes : List ClassDecl) (seen : List String) : List String :=
  (classes.filter fun d => !seen.contains d.name).flatMap ClassDecl.superTypes

theorem ahead_cons_sublist (classes : List ClassDecl) (seen : List String) (name : String) :
    (ahead classes (name :: seen)).Sublist (ahead classes seen) := by
  refine List.Sublist.flatMap (List.monotone_filter_right _ fun d hd => ?_) _
  simp only [List.contains_cons, Bool.not_or, Bool.and_eq_true] at hd
  exact hd.2

/-- Once a class is met, its declarations are no longer ahead. -/
theorem length_ahead_cons {index : ClassIndex} {seen : List String} {name : String}
    {d : ClassDecl} (hget : index.get? name = some d) (hnew : name ∉ seen) :
    d.superTypes.length + (ahead index.classes (name :: seen)).length ≤
      (ahead index.classes seen).length := by
  have hname : d.name = name := by simpa using List.find?_some hget
  subst hname
  obtain ⟨before, after, hsplit⟩ := List.append_of_mem (List.mem_of_find?_eq_some hget)
  have hbefore := (ahead_cons_sublist before seen d.name).length_le
  have hafter := (ahead_cons_sublist after seen d.name).length_le
  have hmet : ahead (d :: after) (d.name :: seen) = ahead after (d.name :: seen) := by
    simp [ahead]
  have hunmet : ahead (d :: after) seen = d.superTypes ++ ahead after seen := by
    simp [ahead, hnew]
  have happend (seen : List String) :
      ahead (before ++ d :: after) seen = ahead before seen ++ ahead (d :: after) seen := by
    simp [ahead]
  rw [hsplit, happend, happend, hmet, hunmet]
  simp only [List.length_append]
  omega

/-- **The walk ends in time.** It takes no more turns than there are names pending and super types
ahead. -/
theorem walkFor_eq_walk (index : ClassIndex) (skip : String → Bool) {turns : Nat}
    {pending seen : List String}
    (h : pending.length + (ahead index.classes seen).length ≤ turns) :
    index.walkFor skip turns pending seen = some (index.walk skip pending seen) := by
  induction turns generalizing pending seen with
  | zero =>
    obtain rfl : pending = [] := List.length_eq_zero_iff.1 (by omega)
    rw [walkFor, walk]
  | succ turns ih =>
    cases pending with
    | nil => rw [walkFor, walk]
    | cons name rest =>
      rw [List.length_cons] at h
      rw [walkFor, walk_cons]
      split
      · exact ih (by omega)
      · rename_i hmeet
        have hnew : name ∉ seen := by
          intro hseen
          simp [hseen] at hmeet
        refine ih ?_
        rw [List.length_append]
        cases hget : index.get? name with
        | none =>
          have hless := (ahead_cons_sublist index.classes seen name).length_le
          simp only [Option.map_none, Option.getD_none, List.length_nil]
          omega
        | some d =>
          have hless := length_ahead_cons hget hnew
          simp only [Option.map_some, Option.getD_some]
          omega

/-- The number of super types that a class and the classes of a list declare. -/
def declarations (classes : List ClassDecl) (c : ClassDecl) : Nat :=
  (c.superTypes ++ classes.flatMap ClassDecl.superTypes).length

theorem walkFor_superTypesMet (index : ClassIndex) (skip : String → Bool) (c : ClassDecl) :
    index.walkFor skip (declarations index.classes c) c.superTypes [] =
      some (index.superTypesMet skip c) := by
  refine index.walkFor_eq_walk skip ?_
  rw [declarations, List.length_append, ahead]
  simp

/-! ## What the questions answer -/

/-- **Overriding is reachability.** Class lists with distinct names are indexed. The search for an
overridden method ends within as many turns as super types are declared, and it finds one exactly
when a listed class declares the same method and is reached from the class by one or more steps. -/
theorem overridesInherited_decides {classes : List ClassDecl}
    (hdistinct : (classes.map ClassDecl.name).Nodup) :
    ∃ index, build classes = .ok index ∧ ∀ (c : ClassDecl) (m : MethodDecl),
      index.walkFor skipNone (declarations classes c) c.superTypes [] =
        some (index.superTypesMet skipNone c) ∧
      (index.overridesInherited c m = true ↔
        ∃ d ∈ classes, d.Redeclares m ∧ Reaches classes (fun _ => True) c d.name) := by
  refine ⟨⟨classes⟩, build_eq_ok hdistinct, fun c m => ⟨walkFor_superTypesMet ⟨classes⟩ _ c, ?_⟩⟩
  have hpass (name : String) : True ↔ skipNone name = false := by simp
  simp only [overridesInherited_iff, get?_eq_some_iff hdistinct, ClassDecl.isSome_method?,
    above_iff_reaches hdistinct hpass]
  constructor
  · rintro ⟨name, d, hreach, ⟨hd, rfl⟩, hm⟩
    exact ⟨d, hd, hm, hreach⟩
  · rintro ⟨d, hd, hm, hreach⟩
    exact ⟨d.name, d, hreach, ⟨hd, rfl⟩, hm⟩

/-! ### A clan with a cycle -/

/-- A class above itself by way of `B`, with two ways up to `J` and one to a class that is not
there. -/
def clanHead : ClassDecl := { name := "A", superName := some "B", interfaces := ["I", "Gone"] }

def clan : List ClassDecl :=
  [clanHead, { name := "B", superName := some "A", interfaces := ["J"] },
    { name := "I", interfaces := ["J"] },
    { name := "J", methods := [{ name := "run", descriptor := "()V" }] },
    { name := "K", superName := some "A", methods := [{ name := "stop", descriptor := "()V" }] }]

/-- In the clan `run` is declared above the head, and `stop` only below it. -/
theorem clan_overrides :
    (clan.map ClassDecl.name).Nodup ∧ ∃ index, build clan = .ok index ∧
      index.overridesInherited clanHead { name := "run", descriptor := "()V" } = true ∧
      index.overridesInherited clanHead { name := "stop", descriptor := "()V" } = false := by
  have hdistinct : (clan.map ClassDecl.name).Nodup := by decide
  obtain ⟨index, hbuild, hanswers⟩ := overridesInherited_decides hdistinct
  obtain rfl : ⟨clan⟩ = index := Except.ok.inj ((build_eq_ok hdistinct).symm.trans hbuild)
  refine ⟨hdistinct, _, hbuild, (hanswers _ _).2.2 ?_, ?_⟩
  · refine ⟨{ name := "J", methods := [{ name := "run", descriptor := "()V" }] }, by decide,
      ⟨_, List.mem_singleton_self _, rfl, rfl⟩, "I", .inr (by decide), .single ⟨trivial, ?_⟩⟩
    exact ⟨{ name := "I", interfaces := ["J"] }, by decide, rfl, .inr (by decide)⟩
  · have hwalk := (hanswers clanHead { name := "stop", descriptor := "()V" }).1
    have hmet : (⟨clan⟩ : ClassIndex).superTypesMet skipNone clanHead =
        ["Gone", "J", "I", "A", "B"] :=
      Option.some.inj (hwalk.symm.trans (by decide +kernel))
    rw [overridesInherited, hmet]
    decide

/-- **Unresolved super types are unlisted names within reach.** The search ends within as many turns
as super types are declared, and it succeeds exactly when a name other than the root class, which no
listed class has, is reached without a step from the root class. -/
theorem hasUnresolvedSuperTypes_decides {classes : List ClassDecl}
    (hdistinct : (classes.map ClassDecl.name).Nodup) :
    ∃ index, build classes = .ok index ∧ ∀ c : ClassDecl,
      index.walkFor skipRoot (declarations classes c) c.superTypes [] =
        some (index.superTypesMet skipRoot c) ∧
      (index.hasUnresolvedSuperTypes c = true ↔
        ∃ name, name ≠ rootClass ∧ (∀ d ∈ classes, d.name ≠ name) ∧
          Reaches classes (fun passed => passed ≠ rootClass) c name) := by
  refine ⟨⟨classes⟩, build_eq_ok hdistinct, fun c => ⟨walkFor_superTypesMet ⟨classes⟩ _ c, ?_⟩⟩
  have hpass (name : String) : name ≠ rootClass ↔ skipRoot name = false := by simp
  simp only [hasUnresolvedSuperTypes_iff, get?_eq_none_iff, above_iff_reaches hdistinct hpass]
  constructor
  · rintro ⟨name, hreach, hne, hunlisted⟩
    exact ⟨name, hne, hunlisted, hreach⟩
  · rintro ⟨name, hne, hunlisted, hreach⟩
    exact ⟨name, hreach, hne, hunlisted⟩

/-! ### A root class that is listed -/

/-- Two classes above each other, a root class with a super type that is not there, and a class with
another one. -/
def rooted : List ClassDecl :=
  [{ name := "A", superName := some "B" },
    { name := "B", superName := some "A", interfaces := [rootClass] },
    { name := rootClass, superName := some "Gone" },
    { name := "C", superName := some "A", interfaces := ["Lost"] }]

/-- What is missing behind the root class does not count, what is missing beside it does. -/
theorem rooted_unresolved :
    (rooted.map ClassDecl.name).Nodup ∧ ∃ index, build rooted = .ok index ∧
      index.hasUnresolvedSuperTypes { name := "A", superName := some "B" } = false ∧
      index.hasUnresolvedSuperTypes
        { name := "C", superName := some "A", interfaces := ["Lost"] } = true := by
  have hdistinct : (rooted.map ClassDecl.name).Nodup := by decide
  obtain ⟨index, hbuild, hanswers⟩ := hasUnresolvedSuperTypes_decides hdistinct
  obtain rfl : ⟨rooted⟩ = index := Except.ok.inj ((build_eq_ok hdistinct).symm.trans hbuild)
  refine ⟨hdistinct, _, hbuild, ?_, (hanswers _).2.2 ?_⟩
  · have hwalk := (hanswers { name := "A", superName := some "B" }).1
    have hmet : (⟨rooted⟩ : ClassIndex).superTypesMet skipRoot
        { name := "A", superName := some "B" } = ["A", "B"] :=
      Option.some.inj (hwalk.symm.trans (by decide +kernel))
    rw [hasUnresolvedSuperTypes, hmet]
    decide
  · exact ⟨"Lost", by decide, by decide, "Lost", .inr (by decide), .refl⟩

end ClassIndex

end BytecodeLint
