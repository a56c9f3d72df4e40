import BytecodeLint.Proofs.Class.Index
import Mathlib.Data.Finset.Card

/-!
# Ambiguous class lists

A class list is ambiguous when a name occurs in it more than once. Which names those are, and how
often they occur, is found by counting neighbours in the sorted list of names; the names come out in
ascending order, whatever the order of the classes (`mem_repeatedNames`, `pairwise_repeatedNames`).

An index of a list that is not ambiguous is compared with a table into which the classes are entered
one by one (`entered`), and with the sets of the names. Each of these could lose an entry to another
one of the same name, and none does (`get?_eq_entered`, `size_eq_card`, `enumCount_eq_card`).
-/
namespace BytecodeLint

/-! ## Repeated names -/

section
variable {name next : String} {count : Nat} {rest : List String} {later : List (String × Nat)}

theorem runLengths_again (h : runLengths rest = (name, count) :: later) :
    runLengths (name :: rest) = (name, count + 1) :: later := by
  simp [runLengths, h]

theorem runLengths_other (h : runLengths rest = (next, count) :: later) (hne : name ≠ next) :
    runLengths (name :: rest) = (name, 1) :: (next, count) :: later := by
  simp [runLengths, h, hne]

end

/-- In a sorted list the neighbours that are counted together are all occurrences of a name. -/
theorem runLengths_of_sorted {names : List String} (hsorted : names.Pairwise fun a b => a ≤ b) :
    ((runLengths names).Pairwise fun a b => a.1 < b.1) ∧
      ∀ name n, (name, n) ∈ runLengths names ↔ name ∈ names ∧ names.count name = n := by
  induction names with
  | nil => simp [runLengths]
  | cons first rest ih =>
    obtain ⟨hfirst, hsorted⟩ := List.pairwise_cons.1 hsorted
    obtain ⟨hascending, hmem⟩ := ih hsorted
    cases rest with
    | nil =>
      refine ⟨List.pairwise_singleton _ _, fun name n => ⟨fun h => ?_, fun h => ?_⟩⟩
      · cases List.mem_singleton.1 h
        simp
      · cases List.mem_singleton.1 h.1
        simp [runLengths, ← h.2]
    | cons next rest =>
      obtain ⟨count, later, hruns⟩ := runLengths_cons next rest
      rw [hruns] at hascending hmem
      have hlater := (List.pairwise_cons.1 hascending).1
      by_cases hsame : first = next
      · -- the count of the first name goes up by one, and no later entry is about this name
        subst hsame
        rw [runLengths_again hruns]
        refine ⟨List.pairwise_cons.2 (List.pairwise_cons.1 hascending), fun name n => ?_⟩
        by_cases hname : name = first
        · subst hname
          have hcount := ((hmem name (count + 1)).1 List.mem_cons_self).2
          have hnot : (name, n) ∉ later := fun h => String.lt_irrefl name (hlater _ h)
          simp [hnot, ← hcount, eq_comm]
        · have := hmem name n
          simp only [List.mem_cons, Prod.mk.injEq, hname, false_and, false_or] at this
          simp [hname, this, Ne.symm hname]
      · have hlt : first < next := Std.lt_of_le_of_ne (hfirst next List.mem_cons_self) hsame
        have hless (name : String) (h : name ∈ next :: rest) : first < name := by
          rcases List.mem_cons.1 h with rfl | h
          · exact hlt
          · exact Std.lt_of_lt_of_le hlt ((List.pairwise_cons.1 hsorted).1 name h)
        have hnew : first ∉ next :: rest := fun h => String.lt_irrefl first (hless first h)
        rw [runLengths_other hruns hsame]
        refine ⟨List.pairwise_cons.2 ⟨fun e he => ?_, hascending⟩, fun name n => ?_⟩
        · exact hless e.1 ((hmem e.1 e.2).1 he).1
        · rw [List.mem_cons, hmem, Prod.mk.injEq]
          by_cases hname : name = first
          · subst hname
            rw [List.count_cons_self, List.count_eq_zero_of_not_mem hnew]
            constructor
            · rintro (⟨-, hn⟩ | ⟨hold, -⟩)
              · exact ⟨List.mem_cons_self, hn.symm⟩
              · exact absurd hold hnew
            · exact fun h => .inl ⟨rfl, h.2.symm⟩
          · simp [hname, Ne.symm hname]

theorem sorted_mergeSort (names : List String) :
    (names.mergeSort fun a b => a ≤ b).Pairwise fun a b => a ≤ b :=
  pairwise_mergeSort_key id names

/-- The repeated names ascend. -/
theorem pairwise_repeatedNames (names : List String) :
    (repeatedNames names).Pairwise fun a b => a.1 < b.1 :=
  (runLengths_of_sorted (sorted_mergeSort names)).1.filter _

/-- The repeated names are those that occur more than once, each with its number of occurrences. -/
theorem mem_repeatedNames {names : List String} {name : String} {n : Nat} :
    (name, n) ∈ repeatedNames names ↔ 1 < n ∧ names.count name = n := by
  have hperm := List.mergeSort_perm names fun a b => a ≤ b
  rw [repeatedNames, List.mem_filter, (runLengths_of_sorted (sorted_mergeSort names)).2,
    hperm.mem_iff, hperm.count_eq, decide_eq_true_eq]
  constructor
  · rintro ⟨⟨-, hcount⟩, hn⟩
    exact ⟨hn, hcount⟩
  · rintro ⟨hn, hcount⟩
    exact ⟨⟨List.count_pos_iff.1 (by omega), hcount⟩, hn⟩

/-! ## Entering classes one by one -/

/-- Enters a class into a table under its name. It takes the place of one of the same name. -/
def enter (table : String → Option ClassDecl) (c : ClassDecl) : String → Option ClassDecl :=
  Function.update table c.name (some c)

/-- The table into which all classes have been entered. -/
def entered (classes : List ClassDecl) : String → Option ClassDecl :=
  classes.foldl enter fun _ => none

theorem foldl_enter_of_notMem {classes : List ClassDecl} {name : String}
    (h : name ∉ classes.map ClassDecl.name) (table : String → Option ClassDecl) :
    classes.foldl enter table name = table name := by
  induction classes generalizing table with
  | nil => rfl
  | cons c classes ih =>
    rw [List.map_cons, List.mem_cons, not_or] at h
    rw [List.foldl_cons, ih h.2, enter, Function.update_of_ne h.1]

/-- With distinct names no class takes the place of another. -/
theorem foldl_enter_of_mem {classes : List ClassDecl} (h : (classes.map ClassDecl.name).Nodup)
    {c : ClassDecl} (hc : c ∈ classes) (table : String → Option ClassDecl) :
    classes.foldl enter table c.name = some c := by
  induction classes generalizing table with
  | nil => cases hc
  | cons d classes ih =>
    obtain ⟨hnew, hdistinct⟩ := List.nodup_cons.1 h
    rw [List.foldl_cons]
    rcases List.mem_cons.1 hc with rfl | hc
    · rw [foldl_enter_of_notMem hnew, enter, Function.update_self]
    · exact ih hdistinct hc _

namespace ClassIndex

variable {index : ClassIndex} (h : (index.classes.map ClassDecl.name).Nodup)
include h

theorem get?_eq_entered : index.get? = entered index.classes := by
  funext name
  cases hget : index.get? name with
  | none =>
    have hnone : name ∉ index.classes.map ClassDecl.name := fun hmem => by
      obtain ⟨c, hc, hname⟩ := List.mem_map.1 hmem
      exact get?_eq_none_iff.1 hget c hc hname
    exact (foldl_enter_of_notMem hnone fun _ => none).symm
  | some c =>
    obtain ⟨hc, rfl⟩ := (get?_eq_some_iff h).1 hget
    exact (foldl_enter_of_mem h hc _).symm

theorem size_eq_card : index.size = (index.classes.map ClassDecl.name).toFinset.card := by
  rw [List.toFinset_card_of_nodup h, List.length_map, size]

theorem enumCount_eq_card : index.enumCount =
    ((index.classes.filter fun c => c.access.isEnum).map ClassDecl.name).toFinset.card := by
  have hsub : ((index.classes.filter fun c => c.access.isEnum).map ClassDecl.name).Nodup :=
    h.sublist (List.filter_sublist.map _)
  rw [List.toFinset_card_of_nodup hsub, List.length_map, enumCount]

omit h in
/-- **Exactly the ambiguous class lists are refused, and the others are indexed faithfully.** A list
is refused if and only if some name occurs in it more than once. The error then names the repeated
names in ascending order, each once and with its number of occurrences, and it is the same for every
order of the list. An index finds for a name the one class that has it, and none for a name that no
class has; it is the table into which all classes have been entered. It counts all classes and all
enums, of which there are as many as there are names of them, and an enum is found by its name. -/
theorem build_decides_ambiguity (classes : List ClassDecl) :
    ((∃ d, build classes = .error d) ↔ ∃ name, 1 < (classes.map ClassDecl.name).count name) ∧
    (∀ d, build classes = .error d →
      (d.names.Pairwise fun a b => a.1 < b.1) ∧
      (∀ name n, (name, n) ∈ d.names ↔ 1 < n ∧ (classes.map ClassDecl.name).count name = n) ∧
      d.explain = .ofMessage ("duplicate classes found: " ++ String.intercalate ", "
        (d.names.map fun e => e.1 ++ " (x" ++ toString e.2 ++ ")")) ∧
      ∀ classes', classes.Perm classes' → build classes' = .error d) ∧
    ∀ index, build classes = .ok index →
      (∀ name c, index.get? name = some c ↔ c ∈ classes ∧ c.name = name) ∧
      (∀ name, index.get? name = none ↔ ∀ c ∈ classes, c.name ≠ name) ∧
      index.get? = entered classes ∧
      index.size = classes.length ∧ index.size = (classes.map ClassDecl.name).toFinset.card ∧
      (∀ name, index.isEnum name = true ↔
        ∃ c ∈ classes, c.access.isEnum = true ∧ c.name = name) ∧
      index.enumCount = classes.countP (fun c => c.access.isEnum) ∧
      index.enumCount =
        ((classes.filter fun c => c.access.isEnum).map ClassDecl.name).toFinset.card := by
  refine ⟨?_, fun d hd => ?_, fun index hindex => ?_⟩
  · have hrepeated : (∃ name, 1 < (classes.map ClassDecl.name).count name) ↔
        ¬ (classes.map ClassDecl.name).Nodup := by
      simp [List.nodup_iff_count_le_one]
    rw [hrepeated]
    constructor
    · rintro ⟨d, hd⟩ hdistinct
      rw [build_eq_ok hdistinct] at hd
      cases hd
    · exact fun hrepeated => ⟨_, build_eq_error hrepeated⟩
  · have hrepeated : ¬ (classes.map ClassDecl.name).Nodup := fun hdistinct => by
      rw [build_eq_ok hdistinct] at hd
      cases hd
    rw [build_eq_error hrepeated] at hd
    cases hd
    refine ⟨pairwise_repeatedNames _, fun name n => mem_repeatedNames, rfl,
      fun classes' hperm => ?_⟩
    have hnames := hperm.map ClassDecl.name
    rw [build_eq_error fun hdistinct => hrepeated (hnames.nodup_iff.2 hdistinct),
      repeatedNames_perm hnames]
  · obtain ⟨rfl, hdistinct⟩ := of_build_eq_ok hindex
    exact ⟨fun name c => get?_eq_some_iff hdistinct, fun name => get?_eq_none_iff,
      get?_eq_entered hdistinct, rfl, size_eq_card hdistinct, fun name => isEnum_iff,
      List.countP_eq_length_filter.symm, enumCount_eq_card hdistinct⟩

end ClassIndex

end BytecodeLint
