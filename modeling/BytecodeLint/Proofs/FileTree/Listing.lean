import BytecodeLint.Proofs.FileTree.Roads
import BytecodeLint.Proofs.Keyed

/-!
# The order in which a file tree is listed

A tree holds its entries in a list, but what stands where does not depend on the order of that list.

* `get?_eq_some_iff`: what stands at a location, in terms of membership.
* `mem_namesIn`, `list_eq_ok_iff`, `nodup_list`: a directory is listed when there is one, and lists
  what stands in it, each of it once.
* `Relisted`: two trees that differ in the order of their entries only. They answer all questions
  alike (`Relisted.get?` and those that follow from it), but for the order in which they list a
  directory (`Relisted.list`).
-/
namespace BytecodeLint.FileTree

theorem get?_eq_some_iff {t : FileTree} {loc : Location} (hroot : loc ≠ []) {e : Entry} :
    t.get? loc = some e ↔ (loc, e) ∈ t.entries := by
  rw [get?, if_neg hroot, Option.map_eq_some_iff]
  constructor
  · rintro ⟨⟨here, e'⟩, hfind, rfl⟩
    obtain ⟨hmem, rfl⟩ := (find?_key_eq_some_iff Prod.fst t.distinct).1 hfind
    exact hmem
  · intro hmem
    exact ⟨_, (find?_key_eq_some_iff Prod.fst t.distinct).2 ⟨hmem, rfl⟩, rfl⟩

/-! ## What stands in a directory -/

theorem mem_namesIn {t : FileTree} {loc : Location} {name : String} :
    name ∈ t.namesIn loc ↔ isName name = true ∧ ∃ e, t.get? (loc ++ [name]) = some e := by
  simp only [namesIn, List.mem_filterMap, nameIn?_eq_some_iff]
  constructor
  · rintro ⟨⟨here, e⟩, hmem, rfl, hname⟩
    exact ⟨hname, e, (get?_eq_some_iff (by simp)).2 hmem⟩
  · rintro ⟨hname, e, he⟩
    exact ⟨_, (get?_eq_some_iff (by simp)).1 he, rfl, hname⟩

theorem nodup_namesIn (t : FileTree) (loc : Location) : (t.namesIn loc).Nodup := by
  have hdistinct : t.entries.Pairwise fun a b => a.1 ≠ b.1 := List.pairwise_map.1 t.distinct
  refine hdistinct.filterMap (fun e => nameIn? loc e.1) ?_
  intro a b hne name ha name' hb heq
  obtain ⟨ha, -⟩ := nameIn?_eq_some_iff.1 ha
  obtain ⟨hb, -⟩ := nameIn?_eq_some_iff.1 hb
  exact hne (by rw [ha, hb, heq])

theorem list_eq_ok_iff {t : FileTree} {p : Path} {found : List Path} :
    t.list p = .ok found ↔ ∃ loc, t.locate p = .ok loc ∧ t.get? loc = some .directory ∧
      found = (t.namesIn loc).map fun name => p.join ⟨name⟩ := by
  unfold list
  cases t.locate p with
  | error fault => simp
  | ok loc =>
    simp only [Except.ok.injEq, exists_eq_left']
    rw [← needDirectory_eq_ok_iff]
    cases t.needDirectory loc with
    | error fault => simp
    | ok _ => simp [eq_comm]

theorem isDirectory_of_list {t : FileTree} {p : Path} {found : List Path}
    (h : t.list p = .ok found) : t.isDirectory p = true := by
  obtain ⟨loc, hloc, hdir, -⟩ := list_eq_ok_iff.1 h
  exact isDirectory_eq_true_iff.2 ⟨loc, hloc, hdir⟩

/-- What can be recognised as a directory can be listed. -/
theorem exists_list {t : FileTree} {p : Path} (h : t.isDirectory p = true) :
    ∃ found, t.list p = .ok found := by
  obtain ⟨loc, hloc, hdir⟩ := isDirectory_eq_true_iff.1 h
  exact ⟨_, list_eq_ok_iff.2 ⟨loc, hloc, hdir, rfl⟩⟩

theorem nodup_list {t : FileTree} {p : Path} {found : List Path} (h : t.list p = .ok found) :
    found.Nodup := by
  obtain ⟨loc, -, -, rfl⟩ := list_eq_ok_iff.1 h
  refine (t.nodup_namesIn loc).map_on fun name hname name' hname' heq => ?_
  obtain ⟨front, -, hjoin⟩ := p.exists_join
  have htext : (p.join ⟨name⟩).text.toList = (p.join ⟨name'⟩).text.toList := by rw [heq]
  rw [hjoin _ (isAbsolute_of_isName (isName_of_mem_namesIn hname)),
    hjoin _ (isAbsolute_of_isName (isName_of_mem_namesIn hname'))] at htext
  exact String.toList_inj.1 (List.append_cancel_left htext)

/-- A directory lists whatever stands in it under a name. -/
theorem mem_list_iff {t : FileTree} {p q : Path} {found : List Path} (h : t.list p = .ok found)
    {loc : Location} (hloc : t.locate p = .ok loc) :
    q ∈ found ↔ ∃ name, isName name = true ∧ (∃ e, t.get? (loc ++ [name]) = some e) ∧
      q = p.join ⟨name⟩ := by
  obtain ⟨loc', hloc', -, rfl⟩ := list_eq_ok_iff.1 h
  cases hloc.symm.trans hloc'
  simp only [List.mem_map, mem_namesIn, and_assoc, eq_comm]

/-! ## Two trees -/

section
variable {t t' : FileTree} {p q : Path} {found found' : List Path} (h' : t'.list p = .ok found')
  (hq : q ∈ found') (hentry : t.hasEntry q = true)
include h' hq hentry

/-- What one tree lists in a directory another tree has only in a directory. -/
theorem isDirectory_of_mem_list : t.isDirectory p = true := by
  obtain ⟨loc, hloc, -, -⟩ := list_eq_ok_iff.1 h'
  obtain ⟨name, hname, -, rfl⟩ := (mem_list_iff h' hloc).1 hq
  exact isDirectory_of_hasEntry_join (checkText_of_locate hloc) hname hentry

/-- What one tree lists in a directory another tree that has it lists there, too. -/
theorem mem_list_of_hasEntry (h : t.list p = .ok found) : q ∈ found := by
  obtain ⟨loc', hloc', -, -⟩ := list_eq_ok_iff.1 h'
  obtain ⟨name, hname, -, rfl⟩ := (mem_list_iff h' hloc').1 hq
  obtain ⟨loc, hloc, -, -⟩ := list_eq_ok_iff.1 h
  obtain ⟨e, he⟩ := hasEntry_eq_true_iff.1 hentry
  obtain ⟨here, hhere, he⟩ := lookup_eq_ok_iff.1 he
  obtain ⟨-, above, habove, -, rfl⟩ := (locate_join (checkText_of_locate hloc) hname).1 hhere
  cases hloc.symm.trans habove
  exact (mem_list_iff h hloc).2 ⟨name, hname, ⟨e, he⟩, rfl⟩

end

/-! ## Trees listed in another order -/

/-- Two trees that differ at most in the order of their entries. -/
structure Relisted (t t' : FileTree) : Prop where
  workingDirectory : t.workingDirectory = t'.workingDirectory
  entries : t.entries.Perm t'.entries

namespace Relisted

variable {t t' : FileTree} (h : t.Relisted t')
include h

theorem get? (loc : Location) : t.get? loc = t'.get? loc := by
  by_cases hroot : loc = []
  · simp [FileTree.get?, hroot]
  · ext e
    rw [get?_eq_some_iff hroot, get?_eq_some_iff hroot, h.entries.mem_iff]

theorem follow (loc : Location) (part : String) : t.follow loc part = t'.follow loc part := by
  simp only [FileTree.follow, needDirectory, h.get?]

theorem followAll (loc : Location) (parts : List String) :
    t.followAll loc parts = t'.followAll loc parts := by
  induction parts generalizing loc with
  | nil => rfl
  | cons part rest ih => simp only [FileTree.followAll, h.follow, ih]

theorem locate (p : Path) : t.locate p = t'.locate p := by
  simp only [FileTree.locate, start, h.workingDirectory, h.followAll]

theorem lookup (p : Path) : t.lookup p = t'.lookup p := by
  simp only [FileTree.lookup, h.locate, h.get?]

theorem hasEntry (p : Path) : t.hasEntry p = t'.hasEntry p := by
  simp only [FileTree.hasEntry, h.lookup]

theorem isDirectory (p : Path) : t.isDirectory p = t'.isDirectory p := by
  simp only [FileTree.isDirectory, h.lookup]

/-- A directory holds the same, but its entries may come in another order. -/
theorem list {p : Path} {found : List Path} (hfound : t.list p = .ok found) :
    ∃ found', t'.list p = .ok found' ∧ found.Perm found' := by
  obtain ⟨loc, hloc, hdir, rfl⟩ := list_eq_ok_iff.1 hfound
  rw [h.locate] at hloc
  rw [h.get?] at hdir
  exact ⟨_, list_eq_ok_iff.2 ⟨loc, hloc, hdir, rfl⟩, (h.entries.filterMap _).map _⟩

theorem read (p : Path) : t.read p = t'.read p := by
  simp only [FileTree.read, h.lookup]

theorem absolute (p : Path) : t.absolute p = t'.absolute p := by
  simp only [FileTree.absolute, h.workingDirectory]

end Relisted

end BytecodeLint.FileTree
