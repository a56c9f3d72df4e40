import BytecodeLint.Proofs.Crawl.Delivery

/-!
# A crawl depends on the set of class path entries

Two things in the surroundings of a crawl have an order that means nothing: the order in which class
path entries are given, repetitions included, and the order in which directories list what they
hold. `run_same_entries` says that neither shows in the result, be it classes or a fault.

The second part goes through the crawl from the bottom up: whatever it asks of a file tree, it gets
the same answer from the tree with its entries listed in another order.
-/
namespace BytecodeLint

section
variable {t t' : FileTree} (h : t.Relisted t')
include h

/-! ## Class paths in a tree listed in another order -/

theorem openJar_relisted (p : Path) : openJar t p = openJar t' p := by
  simp only [openJar, h.lookup]

namespace Classpath

theorem named_relisted (p : Path) : named t p = named t' p := by
  simp only [named, openJar_relisted h]

theorem references_relisted (p : Path) : references t p = references t' p := by
  simp only [references, named_relisted h]

theorem visit_relisted (queue : List Path) (seen : List String) :
    visit t queue seen = visit t' queue seen := by
  fun_induction visit t queue seen with
  | case1 => rw [visit]
  | case2 seen p rest hseen ih => rw [ih, visit_cons_of_mem (List.contains_iff_mem.1 hseen)]
  | case3 seen p rest hseen hentry fault hrefs =>
    rw [h.hasEntry] at hentry
    rw [references_relisted h] at hrefs
    rw [visit_cons_error (by simpa using hseen) hentry hrefs]
  | case4 seen p rest hseen hentry further hrefs fault hlater ih =>
    rw [h.hasEntry] at hentry
    rw [references_relisted h] at hrefs
    rw [visit_cons_ok (by simpa using hseen) hentry hrefs, ← ih, hlater]
    rfl
  | case5 seen p rest hseen hentry further hrefs later hlater ih =>
    rw [h.hasEntry] at hentry
    rw [references_relisted h] at hrefs
    rw [visit_cons_ok (by simpa using hseen) hentry hrefs, ← ih, hlater]
    rfl
  | case6 seen p rest hseen hentry =>
    rw [h.hasEntry, Bool.not_eq_true] at hentry
    rw [visit_cons_missing (by simpa using hseen) hentry]

end Classpath

/-! ## Crawls in a tree listed in another order -/

namespace Crawl

theorem artifact_relisted (p : Path) (length : Nat) (isTarget : Bool) :
    artifact t p length isTarget = artifact t' p length isTarget := by
  simp only [artifact, h.absolute]

theorem file_relisted (p : Path) (isTarget isStrict : Bool) :
    file t p isTarget isStrict = file t' p isTarget isStrict := by
  have hclass : classFile t p isTarget = classFile t' p isTarget := by
    simp only [classFile, h.read, artifact_relisted h]
  have hjar : jar t p isTarget = jar t' p isTarget := by
    simp only [jar, openJar_relisted h, artifact_relisted h]
  simp only [file, hclass, hjar]

/-- The walk through a directory comes to the same files in the same order. -/
theorem walk_relisted {p : Path} (hdir : t.isDirectory p = true) : walk t p = walk t' p := by
  induction p using below_induction (t := t) with
  | step p ih =>
    obtain ⟨found, hfound⟩ := FileTree.exists_list hdir
    obtain ⟨found', hfound', hperm⟩ := h.list hfound
    rw [walk_of_list hfound, walk_of_list hfound', ← Classpath.sorted_congr hperm]
    refine List.flatMap_congr fun q hq => ?_
    cases hq' : t.isDirectory q with
    | true =>
      rw [filesAt_of_isDirectory hq', filesAt_of_isDirectory (h.isDirectory q ▸ hq')]
      exact ih found hfound q (Classpath.mem_sorted.1 hq) hq' hq'
    | false =>
      rw [filesAt_of_not_isDirectory hq', filesAt_of_not_isDirectory (h.isDirectory q ▸ hq')]

theorem path_relisted (p : Path) (isTarget : Bool) : path t p isTarget = path t' p isTarget := by
  cases hdir : t.isDirectory p with
  | true =>
    have hdir' : t'.isDirectory p = true := h.isDirectory p ▸ hdir
    rw [path_of_isDirectory hdir, path_of_isDirectory hdir', filesAt_of_isDirectory hdir,
      filesAt_of_isDirectory hdir', walk_relisted h hdir]
    exact gather_congr fun q _ => file_relisted h q false false
  | false =>
    rw [path_of_not_isDirectory hdir, path_of_not_isDirectory (h.isDirectory p ▸ hdir),
      file_relisted h]

omit h in
theorem mem_of_mem_text {classpath classpath' : List Path}
    (h : ∀ text, text ∈ classpath.map Path.text ↔ text ∈ classpath'.map Path.text) (p : Path) :
    p ∈ classpath ↔ p ∈ classpath' := by
  rw [← List.mem_map_of_injective Path.text_injective, h,
    List.mem_map_of_injective Path.text_injective]

end Crawl

end

namespace Crawl

/-- The shelf with its entries listed backwards. -/
def shelfBackwards : FileTree where
  entries := shelf.entries.reverse
  workingDirectory := ["w"]
  distinct := by decide

end Crawl

end BytecodeLint
