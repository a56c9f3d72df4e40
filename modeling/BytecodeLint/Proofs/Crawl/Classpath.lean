import BytecodeLint.Crawl.Classpath
import BytecodeLint.Proofs.Keyed

/-!
# Order and repetition in a class path

A class path is expanded from a sorted queue, and an entry is visited once by its text. So of a queue
only the first entry of each text counts that has not been seen, and of a class path only the set of
its entries.

* `visit_cons_missing`, `visit_cons_error`, `visit_cons_ok`: one step of the expansion.
* `visit_congr`: queues with the same new entries are visited alike, up to the same fault.
* `expand_congr`: class paths with the same entries are expanded alike.
-/
namespace BytecodeLint

theorem Path.text_injective : Function.Injective Path.text := by
  rintro ⟨text⟩ ⟨_⟩ rfl
  rfl

namespace Classpath

/-! ## The queue -/

theorem mem_firsts_text {seen : List String} {queue : List Path} {p : Path} :
    p ∈ firsts Path.text seen queue ↔ p ∈ queue ∧ p.text ∉ seen := by
  rw [← List.mem_map_of_injective Path.text_injective, mem_map_firsts,
    List.mem_map_of_injective Path.text_injective]

/-- Queues with the same new entries have the same new entries with others behind them. -/
theorem firsts_text_append {seen : List String} {queue queue' : List Path}
    (h : firsts Path.text seen queue = firsts Path.text seen queue') (more : List Path) :
    firsts Path.text seen (queue ++ more) = firsts Path.text seen (queue' ++ more) := by
  have hseen (text : String) :
      text ∈ queue.map Path.text ++ seen ↔ text ∈ queue'.map Path.text ++ seen := by
    have hnew : text ∈ queue.map Path.text ∧ text ∉ seen ↔
        text ∈ queue'.map Path.text ∧ text ∉ seen := by
      rw [← mem_map_firsts, ← mem_map_firsts, h]
    rw [List.mem_append, List.mem_append]
    tauto
  rw [firsts_append, firsts_append, h, firsts_congr Path.text hseen]

section
variable {t : FileTree} {seen : List String} {p : Path} {rest : List Path}

theorem visit_cons_of_mem (h : p.text ∈ seen) : visit t (p :: rest) seen = visit t rest seen := by
  rw [visit]
  simp [h]

section
variable (hnew : p.text ∉ seen)
include hnew

theorem visit_cons_missing (hentry : t.hasEntry p = false) :
    visit t (p :: rest) seen = .error (.missing p) := by
  rw [visit]
  simp [hnew, hentry]

theorem visit_cons_error (hentry : t.hasEntry p = true) {fault : CrawlFault}
    (hrefs : references t p = .error fault) : visit t (p :: rest) seen = .error fault := by
  rw [visit]
  simp [hnew, hentry, hrefs]

/-- One step of the expansion: a new entry is visited, and what it names is put behind the queue. -/
theorem visit_cons_ok (hentry : t.hasEntry p = true) {further : List Path}
    (hrefs : references t p = .ok further) :
    visit t (p :: rest) seen = (visit t (rest ++ further) (p.text :: seen)).map (p :: ·) := by
  rw [visit]
  rcases hlater : visit t (rest ++ further) (p.text :: seen) with fault | later <;>
    simp [hnew, hentry, hrefs, hlater, Except.map]

end

/-- A queue without new entries is passed over. -/
theorem visit_eq_nil (h : firsts Path.text seen rest = []) : visit t rest seen = .ok [] := by
  induction rest with
  | nil => rw [visit]
  | cons p rest ih =>
    by_cases hp : p.text ∈ seen
    · rw [firsts_cons_of_mem Path.text hp] at h
      rw [visit_cons_of_mem hp, ih h]
    · simp [firsts_cons_of_notMem Path.text hp] at h

/-- A queue is passed over up to its first new entry. -/
theorem visit_eq_cons {queue : List Path} (hp : p.text ∉ seen)
    (h : firsts Path.text seen (p :: rest) = firsts Path.text seen queue) :
    ∃ rest', firsts Path.text (p.text :: seen) rest = firsts Path.text (p.text :: seen) rest' ∧
      visit t queue seen = visit t (p :: rest') seen := by
  rw [firsts_cons_of_notMem Path.text hp] at h
  induction queue with
  | nil => cases h
  | cons q queue ih =>
    by_cases hq : q.text ∈ seen
    · rw [firsts_cons_of_mem Path.text hq] at h
      rw [visit_cons_of_mem hq]
      exact ih h
    · rw [firsts_cons_of_notMem Path.text hq, List.cons.injEq] at h
      obtain ⟨rfl, h⟩ := h
      exact ⟨queue, h, rfl⟩

end

/-- **Queues with the same new entries are visited alike.** -/
theorem visit_congr {t : FileTree} {queue queue' : List Path} {seen : List String}
    (h : firsts Path.text seen queue = firsts Path.text seen queue') :
    visit t queue seen = visit t queue' seen := by
  fun_induction visit t queue seen generalizing queue' with
  | case1 seen => exact (visit_eq_nil h.symm).symm
  | case2 seen p rest hseen ih =>
    exact ih (by rwa [firsts_cons_of_mem Path.text (List.contains_iff_mem.1 hseen)] at h)
  | case3 seen p rest hseen hentry fault hrefs =>
    have hnew : p.text ∉ seen := by simpa using hseen
    obtain ⟨rest', -, hvisit⟩ := visit_eq_cons hnew h
    rw [hvisit, visit_cons_error hnew hentry hrefs]
  | case4 seen p rest hseen hentry further hrefs fault hlater ih =>
    have hnew : p.text ∉ seen := by simpa using hseen
    obtain ⟨rest', hrest, hvisit⟩ := visit_eq_cons hnew h
    rw [hvisit, visit_cons_ok hnew hentry hrefs, ← ih (firsts_text_append hrest further), hlater]
    rfl
  | case5 seen p rest hseen hentry further hrefs later hlater ih =>
    have hnew : p.text ∉ seen := by simpa using hseen
    obtain ⟨rest', hrest, hvisit⟩ := visit_eq_cons hnew h
    rw [hvisit, visit_cons_ok hnew hentry hrefs, ← ih (firsts_text_append hrest further), hlater]
    rfl
  | case6 seen p rest hseen hentry =>
    have hnew : p.text ∉ seen := by simpa using hseen
    obtain ⟨rest', -, hvisit⟩ := visit_eq_cons hnew h
    rw [hvisit, visit_cons_missing hnew (by simpa using hentry)]

/-! ## Sorted paths -/

theorem mem_sorted {paths : List Path} {p : Path} : p ∈ sorted paths ↔ p ∈ paths :=
  List.mem_mergeSort

/-- A list of ascending paths is determined by how often they are in it. -/
theorem eq_of_ascending {paths paths' : List Path} (hperm : paths.Perm paths')
    (h : paths.Pairwise fun p q => p.text ≤ q.text)
    (h' : paths'.Pairwise fun p q => p.text ≤ q.text) : paths = paths' :=
  hperm.eq_of_pairwise
    (fun _ _ _ _ hle hge => Path.text_injective (String.le_antisymm hle hge)) h h'

theorem sorted_of_ascending {paths : List Path} (h : paths.Pairwise fun p q => p.text ≤ q.text) :
    sorted paths = paths :=
  eq_of_ascending (List.mergeSort_perm ..) (pairwise_mergeSort_key Path.text paths) h

theorem sorted_congr {paths paths' : List Path} (h : paths.Perm paths') :
    sorted paths = sorted paths' :=
  eq_of_ascending ((List.mergeSort_perm ..).trans (h.trans (List.mergeSort_perm ..).symm))
    (pairwise_mergeSort_key Path.text paths) (pairwise_mergeSort_key Path.text paths')

theorem filter_sorted (f : Path → Bool) (paths : List Path) :
    (sorted paths).filter f = sorted (paths.filter f) :=
  eq_of_ascending (((List.mergeSort_perm ..).filter f).trans (List.mergeSort_perm ..).symm)
    ((pairwise_mergeSort_key Path.text paths).sublist List.filter_sublist)
    (pairwise_mergeSort_key Path.text (paths.filter f))

/-! ## The class path -/

/-- The new entries of a sorted list depend on the set of its entries only: they ascend, and each of
them comes once. -/
theorem firsts_sorted_congr {entries entries' : List Path} (h : ∀ p, p ∈ entries ↔ p ∈ entries') :
    firsts Path.text [] (sorted entries) = firsts Path.text [] (sorted entries') := by
  have hascend (xs : List Path) :
      (firsts Path.text [] (sorted xs)).Pairwise fun p q => p.text ≤ q.text :=
    (pairwise_mergeSort_key Path.text xs).sublist (firsts_sublist ..)
  have hnodup (xs : List Path) : (firsts Path.text [] (sorted xs)).Nodup :=
    (nodup_map_firsts Path.text [] (sorted xs)).of_map
  refine eq_of_ascending ?_ (hascend entries) (hascend entries')
  refine (List.perm_ext_iff_of_nodup (hnodup entries) (hnodup entries')).2 fun p => ?_
  rw [mem_firsts_text, mem_firsts_text, mem_sorted, mem_sorted, h]

/-- **Class paths with the same entries are expanded alike.** -/
theorem expand_congr (t : FileTree) {entries entries' : List Path}
    (h : ∀ p, p ∈ entries ↔ p ∈ entries') : expand t entries = expand t entries' :=
  visit_congr (firsts_sorted_congr h)

end Classpath

end BytecodeLint
