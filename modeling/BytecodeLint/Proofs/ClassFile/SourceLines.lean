import BytecodeLint.Proofs.ClassFile.Readback

/-!
# Source lines

The code of a method may have any number of line tables with records in any order. They are gathered
and sorted, and the line of an offset is looked up in the sorted table. Here the same is said of the
records as they stand in the class file: the line is that of the record which comes last among those
with the greatest start at or before the offset (`Nearest`).

* `records`, `mem_records`: the records with their places, in the order in which they stand.
* `line?_eq`: in a sorted table, what is passed over is what starts at or before the offset.
* `exists_nearest_of_found`: sorting keeps the order of records with one start, so the last of them
  is the one that is found.
* `Nearest.unique`: there is no other such record.
-/
namespace BytecodeLint

/-- The last item of an ordered list comes after all others. -/
theorem eq_or_rel_of_getLast? {α : Type} {R : α → α → Prop} {xs : List α} (h : xs.Pairwise R)
    {last : α} (hlast : xs.getLast? = some last) {x : α} (hx : x ∈ xs) : x = last ∨ R x last := by
  obtain ⟨front, rfl⟩ := List.getLast?_eq_some_iff.1 hlast
  rcases List.mem_append.1 hx with hx | hx
  · exact .inr ((List.pairwise_append.1 h).2.2 x hx last List.mem_cons_self)
  · exact .inl (List.mem_singleton.1 hx)

namespace ClassFile

/-! ## Records and their places -/

/-- The record at place `j` of the line table that stands at place `i` among the attributes. -/
def RecordAt (attributes : List Attribute) (i j : Nat) (e : LineEntry) : Prop :=
  ∃ table, attributes[i]? = some (.lineTable table) ∧ table[j]? = some e

/-- The record that comes last among those with the greatest start at or before the offset. -/
structure Nearest (attributes : List Attribute) (offset i j : Nat) (e : LineEntry) : Prop where
  stands : RecordAt attributes i j e
  starts : e.startPc ≤ offset
  greatest : ∀ i' j' e', RecordAt attributes i' j' e' → e'.startPc ≤ offset →
    e'.startPc ≤ e.startPc
  last : ∀ i' j' e', RecordAt attributes i' j' e' → e'.startPc = e.startPc →
    i' < i ∨ (i' = i ∧ j' ≤ j)

theorem RecordAt.unique {attributes : List Attribute} {i j : Nat} {e e' : LineEntry}
    (h : RecordAt attributes i j e) (h' : RecordAt attributes i j e') : e = e' := by
  obtain ⟨table, htable, he⟩ := h
  obtain ⟨table', htable', he'⟩ := h'
  cases htable.symm.trans htable'
  exact Option.some.inj (he.symm.trans he')

/-- There is one nearest record at most. -/
theorem Nearest.unique {attributes : List Attribute} {offset i j i' j' : Nat} {e e' : LineEntry}
    (h : Nearest attributes offset i j e) (h' : Nearest attributes offset i' j' e') : e = e' := by
  have hstart : e'.startPc = e.startPc :=
    Nat.le_antisymm (h.greatest _ _ _ h'.stands h'.starts) (h'.greatest _ _ _ h.stands h.starts)
  have hbefore := h.last _ _ _ h'.stands hstart
  have hafter := h'.last _ _ _ h.stands hstart.symm
  obtain ⟨rfl, rfl⟩ : i = i' ∧ j = j' := by omega
  exact h.stands.unique h'.stands

/-- The records of an attribute. -/
def tableOf : Attribute → List LineEntry
  | .lineTable table => table
  | _ => []

/-- A record and its place: that of its table, and its own in the table. -/
structure Placed where
  table : Nat
  place : Nat
  entry : LineEntry

/-- One record stands before another. -/
def Placed.Before (x y : Placed) : Prop :=
  x.table < y.table ∨ (x.table = y.table ∧ x.place < y.place)

/-- The records of one attribute with their places. -/
def recordsOf (a : Attribute × Nat) : List Placed :=
  (tableOf a.1).zipIdx.map fun e => ⟨a.2, e.2, e.1⟩

/-- All records with their places, in the order in which they stand. -/
def records (attributes : List Attribute) : List Placed := attributes.zipIdx.flatMap recordsOf

theorem map_entry_recordsOf (a : Attribute × Nat) :
    (recordsOf a).map Placed.entry = tableOf a.1 := by
  rw [recordsOf, List.map_map]
  exact List.zipIdx_map_fst 0 (tableOf a.1)

theorem lineEntries_eq (attributes : List Attribute) :
    lineEntries attributes = (records attributes).map Placed.entry := by
  have htables : lineEntries attributes = attributes.flatMap tableOf := by
    refine List.flatMap_congr fun a _ => ?_
    cases a <;> rfl
  rw [htables, records, List.map_flatMap]
  simp only [map_entry_recordsOf]
  rw [← List.flatMap_map Prod.fst tableOf, List.zipIdx_map_fst]

theorem mem_records {attributes : List Attribute} {x : Placed} :
    x ∈ records attributes ↔ RecordAt attributes x.table x.place x.entry := by
  obtain ⟨i, j, e⟩ := x
  simp only [records, recordsOf, List.mem_flatMap, List.mem_map, Placed.mk.injEq, RecordAt,
    List.mem_zipIdx_iff_getElem?]
  constructor
  · rintro ⟨⟨a, _⟩, ha, ⟨_, _⟩, he, rfl, rfl, rfl⟩
    cases a with
    | lineTable table => exact ⟨table, ha, he⟩
    | code => simp [tableOf] at he
    | other => simp [tableOf] at he
  · rintro ⟨table, htable, he⟩
    exact ⟨(.lineTable table, i), htable, (e, j), he, rfl, rfl, rfl⟩

theorem pairwise_zipIdx {α : Type} (xs : List α) (n : Nat) :
    (xs.zipIdx n).Pairwise fun a b => a.2 < b.2 := by
  rw [← List.pairwise_map, List.zipIdx_map_snd]
  exact List.pairwise_lt_range'

theorem pairwise_records (attributes : List Attribute) :
    (records attributes).Pairwise Placed.Before := by
  rw [records, List.pairwise_flatMap]
  constructor
  · intro a _
    rw [recordsOf, List.pairwise_map]
    exact (pairwise_zipIdx _ 0).imp fun hplace => .inr ⟨rfl, hplace⟩
  · refine (pairwise_zipIdx attributes 0).imp fun htable x hx y hy => .inl ?_
    obtain ⟨_, -, rfl⟩ := List.mem_map.1 hx
    obtain ⟨_, -, rfl⟩ := List.mem_map.1 hy
    exact htable

/-! ## Looking up a line -/

theorem takeWhile_eq_filter {lines : List LineEntry} {offset : Nat}
    (h : lines.Pairwise fun l l' => l.startPc ≤ l'.startPc) :
    (lines.takeWhile fun l => l.startPc ≤ offset) = lines.filter fun l => l.startPc ≤ offset := by
  induction lines with
  | nil => rfl
  | cons l lines ih =>
    obtain ⟨hfirst, hlines⟩ := List.pairwise_cons.1 h
    by_cases hl : l.startPc ≤ offset
    · simp [hl, ih hlines]
    · -- all that follows starts behind the offset as well
      have hnone : (lines.filter fun l => l.startPc ≤ offset) = [] := by
        rw [List.filter_eq_nil_iff]
        intro l' hl'
        have := hfirst l' hl'
        simp only [decide_eq_true_eq]
        omega
      simp [hl, hnone]

theorem stablySorted_lineTable (attributes : List Attribute) :
    StablySorted (lineEntries attributes) (lineTable attributes) :=
  stablySorted_mergeSort (lineEntries attributes)

/-- The record that a lookup ends with. -/
def foundRecord (attributes : List Attribute) (offset : Nat) : Option LineEntry :=
  ((lineTable attributes).filter fun l => l.startPc ≤ offset).getLast?

section
variable {attributes : List Attribute} {offset : Nat}

theorem line?_eq (m : MethodDecl) :
    ({ m with lines := lineTable attributes } : MethodDecl).line? offset =
      (foundRecord attributes offset).map LineEntry.line := by
  rw [foundRecord, ← takeWhile_eq_filter (stablySorted_lineTable attributes).ascending]
  rfl

theorem found_eq_none_iff :
    foundRecord attributes offset = none ↔
      ∀ i j e, RecordAt attributes i j e → offset < e.startPc := by
  simp only [foundRecord, List.getLast?_eq_none_iff, List.filter_eq_nil_iff, lineTable,
    List.mem_mergeSort, lineEntries_eq, List.mem_map, decide_eq_true_eq, Nat.not_le]
  constructor
  · intro h i j e he
    exact h e ⟨⟨i, j, e⟩, mem_records.2 he, rfl⟩
  · rintro h _ ⟨x, hx, rfl⟩
    exact h _ _ _ (mem_records.1 hx)

/-- Among the records of its start, the one that is found comes last. -/
theorem getLast?_of_found {e : LineEntry} (h : foundRecord attributes offset = some e) :
    ∃ x : Placed, x.entry = e ∧
      ((records attributes).filter fun y => y.entry.startPc = e.startPc).getLast? = some x := by
  obtain ⟨front, hfront⟩ := List.getLast?_eq_some_iff.1 h
  have hstart : e.startPc ≤ offset := by
    have hmem : e ∈ (lineTable attributes).filter fun l => l.startPc ≤ offset := by simp [hfront]
    simpa using (List.mem_filter.1 hmem).2
  have hlevel : (lineTable attributes).filter (fun l => l.startPc = e.startPc) =
      (front ++ [e]).filter fun l => l.startPc = e.startPc := by
    rw [← hfront, List.filter_filter]
    refine List.filter_congr fun l _ => ?_
    simp only [Bool.and_eq_decide, decide_eq_true_eq, decide_eq_decide]
    omega
  have hgiven := (stablySorted_lineTable attributes).stable e.startPc
  rw [hlevel, lineEntries_eq, List.filter_map] at hgiven
  have hlast : (((records attributes).filter fun y => y.entry.startPc = e.startPc).map
      Placed.entry).getLast? = some e := by
    refine (congrArg List.getLast? hgiven.symm).trans ?_
    simp
  rw [List.getLast?_map] at hlast
  obtain ⟨x, hx, hentry⟩ := Option.map_eq_some_iff.1 hlast
  exact ⟨x, hentry, hx⟩

theorem exists_nearest_of_found {e : LineEntry} (h : foundRecord attributes offset = some e) :
    ∃ i j, Nearest attributes offset i j e := by
  obtain ⟨⟨i, j, e⟩, rfl, hlast⟩ := getLast?_of_found h
  have hmem := List.mem_of_getLast? hlast
  have hfound := List.mem_of_getLast? h
  refine ⟨i, j, mem_records.1 (List.mem_filter.1 hmem).1,
    by simpa using (List.mem_filter.1 hfound).2, ?_, ?_⟩
  · intro i' j' e' he' hstart
    have hascending := (stablySorted_lineTable attributes).ascending
    have hin : e' ∈ (lineTable attributes).filter fun l => l.startPc ≤ offset := by
      refine List.mem_filter.2 ⟨?_, by simpa using hstart⟩
      rw [lineTable, List.mem_mergeSort, lineEntries_eq]
      exact List.mem_map.2 ⟨⟨i', j', e'⟩, mem_records.2 he', rfl⟩
    rcases eq_or_rel_of_getLast? (hascending.filter _) h hin with rfl | hle
    · exact Nat.le_refl _
    · exact hle
  · intro i' j' e' he' hstart
    have hin : (⟨i', j', e'⟩ : Placed) ∈
        (records attributes).filter fun y => y.entry.startPc = e.startPc :=
      List.mem_filter.2 ⟨mem_records.2 he', by simpa using hstart⟩
    rcases eq_or_rel_of_getLast? ((pairwise_records attributes).filter _) hlast hin with
      heq | hbefore
    · cases heq
      exact .inr ⟨rfl, Nat.le_refl _⟩
    · exact hbefore.imp_right fun hplace => ⟨hplace.1, Nat.le_of_lt hplace.2⟩

end

/-- **Source lines are the nearest preceding ones.** An offset has no line exactly when every record
starts behind it. Otherwise its line is that of the record which comes last, in the order of the
tables and within its table, among those with the greatest start at or before the offset. -/
theorem line_of_nearest_record (attributes : List Attribute) (m : MethodDecl) (offset : Nat) :
    (({ m with lines := lineTable attributes } : MethodDecl).line? offset = none ↔
      ∀ i j e, RecordAt attributes i j e → offset < e.startPc) ∧
    ∀ line, ({ m with lines := lineTable attributes } : MethodDecl).line? offset = some line ↔
      ∃ i j e, Nearest attributes offset i j e ∧ e.line = line := by
  rw [line?_eq, Option.map_eq_none_iff]
  refine ⟨found_eq_none_iff, fun line => ?_⟩
  rw [Option.map_eq_some_iff]
  constructor
  · rintro ⟨e, he, rfl⟩
    obtain ⟨i, j, hnearest⟩ := exists_nearest_of_found he
    exact ⟨i, j, e, hnearest, rfl⟩
  · rintro ⟨i, j, e, hnearest, rfl⟩
    cases hfound : foundRecord attributes offset with
    | none =>
      have := found_eq_none_iff.1 hfound i j e hnearest.stands
      have := hnearest.starts
      omega
    | some e' =>
      obtain ⟨i', j', hnearest'⟩ := exists_nearest_of_found hfound
      exact ⟨e', rfl, by rw [hnearest.unique hnearest']⟩

end ClassFile

end BytecodeLint
