import BytecodeLint.Class.Index
import BytecodeLint.Proofs.Keyed

/-!
# Which class lists are indexed

Names are sorted, and neighbouring equal names are counted together. In a sorted list equal names
are neighbours, so every count is one exactly when no name is repeated (`runLengths_le_one`), and
only then a class list is indexed (`build_eq_ok`, `build_eq_error`). What is found in an index then
is said by membership alone (`get?_eq_some_iff`, `get?_eq_none_iff`, `isEnum_iff`).
-/
namespace BytecodeLint

/-! ## Counting neighbours -/

theorem runLengths_cons (name : String) (rest : List String) :
    ∃ count later, runLengths (name :: rest) = (name, count + 1) :: later := by
  rw [runLengths]
  split
  · split
    · exact ⟨_, _, rfl⟩
    · exact ⟨0, _, rfl⟩
  · exact ⟨0, _, rfl⟩

theorem runLengths_le_one {names : List String} (hsorted : names.Pairwise fun a b => a ≤ b) :
    (∀ e ∈ runLengths names, e.2 ≤ 1) ↔ names.Nodup := by
  induction names with
  | nil => simp [runLengths]
  | cons name rest ih =>
    rw [List.pairwise_cons] at hsorted
    rw [List.nodup_cons, ← ih hsorted.2]
    cases rest with
    | nil => simp [runLengths]
    | cons next rest =>
      obtain ⟨count, later, hrest⟩ := runLengths_cons next rest
      rw [runLengths, hrest]
      by_cases hname : name = next
      · subst hname
        simp
      · -- `next` stands between `name` and every later name, so `name` does not come again
        have hnew : name ∉ next :: rest := by
          intro hmem
          have hnext : next ≤ name := by
            rcases List.mem_cons.mp hmem with h | h
            · exact absurd h hname
            · exact (List.pairwise_cons.mp hsorted.2).1 name h
          exact hname (String.le_antisymm (hsorted.1 next List.mem_cons_self) hnext)
        simp [hname, hnew]

theorem repeatedNames_eq_nil {names : List String} : repeatedNames names = [] ↔ names.Nodup := by
  have hsorted : (names.mergeSort fun a b => a ≤ b).Pairwise fun a b => a ≤ b :=
    pairwise_mergeSort_key id names
  rw [← (List.mergeSort_perm names fun a b => a ≤ b).nodup_iff, ← runLengths_le_one hsorted]
  simp [repeatedNames, List.filter_eq_nil_iff]

/-- The order of a list of names has no part in which of them are repeated. -/
theorem repeatedNames_perm {names names' : List String} (h : names.Perm names') :
    repeatedNames names = repeatedNames names' := by
  have hsorted (xs : List String) : (xs.mergeSort fun a b => a ≤ b).Pairwise fun a b => a ≤ b :=
    pairwise_mergeSort_key id xs
  have hperm : (names.mergeSort fun a b => a ≤ b).Perm (names'.mergeSort fun a b => a ≤ b) :=
    (List.mergeSort_perm ..).trans (h.trans (List.mergeSort_perm ..).symm)
  rw [repeatedNames, repeatedNames, hperm.eq_of_pairwise (fun _ _ _ _ => String.le_antisymm)
    (hsorted names) (hsorted names')]

/-! ## Indexing -/

namespace ClassIndex

/-- A class list without repeated names is indexed as it is. -/
theorem build_eq_ok {classes : List ClassDecl} (h : (classes.map ClassDecl.name).Nodup) :
    build classes = .ok ⟨classes⟩ := by
  rw [build, repeatedNames_eq_nil.mpr h]

/-- A class list with a repeated name is refused. -/
theorem build_eq_error {classes : List ClassDecl} (h : ¬ (classes.map ClassDecl.name).Nodup) :
    build classes = .error ⟨repeatedNames (classes.map ClassDecl.name)⟩ := by
  have hne : repeatedNames (classes.map ClassDecl.name) ≠ [] := fun hnil =>
    h (repeatedNames_eq_nil.mp hnil)
  rw [build]
  split
  · exact absurd ‹_› hne
  · rfl

/-- A class list that is indexed has no repeated name. -/
theorem of_build_eq_ok {classes : List ClassDecl} {index : ClassIndex}
    (h : build classes = .ok index) : index = ⟨classes⟩ ∧ (classes.map ClassDecl.name).Nodup := by
  by_cases hdistinct : (classes.map ClassDecl.name).Nodup
  · rw [build_eq_ok hdistinct] at h
    exact ⟨(Except.ok.inj h).symm, hdistinct⟩
  · rw [build_eq_error hdistinct] at h
    cases h

/-! ## Finding classes -/

/-- Where names are distinct, the class of a name is the one that has it. -/
theorem get?_eq_some_iff {index : ClassIndex}
    (h : (index.classes.map ClassDecl.name).Nodup) {name : String} {c : ClassDecl} :
    index.get? name = some c ↔ c ∈ index.classes ∧ c.name = name :=
  find?_key_eq_some_iff ClassDecl.name h

theorem get?_eq_none_iff {index : ClassIndex} {name : String} :
    index.get? name = none ↔ ∀ c ∈ index.classes, c.name ≠ name := by
  simp [get?, List.find?_eq_none]

theorem isEnum_iff {index : ClassIndex} {name : String} :
    index.isEnum name = true ↔ ∃ c ∈ index.classes, c.access.isEnum = true ∧ c.name = name := by
  simp [isEnum]

end ClassIndex

end BytecodeLint
