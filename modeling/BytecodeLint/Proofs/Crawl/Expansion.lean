import BytecodeLint.Proofs.Crawl.Reached
import Mathlib.Logic.Relation

/-!
# What an expanded class path is

The entries that a class path leads to are said here without a queue: a jar refers to what its
manifest names (`Refers`), and a class path leads to whatever a chain of such references reaches.
Expansion of a class path fails exactly when one of these entries is missing or cannot be read, and
else lists each of them once, a jar before what is known only through it.

* `reached_iff_chain`: to be reached is to stand at the end of a chain of references.
* `nodup_visit`: no text is visited twice.
* `named_before_visit`: what is visited stood in the queue, or was named by a jar visited before.
-/
namespace BytecodeLint.Classpath

/-- The manifest of the jar at `p` names `q`. -/
def Refers (t : FileTree) (p q : Path) : Prop :=
  p.isJar = true ∧ ∃ further, named t p = .ok further ∧ q ∈ further

/-- A chain of references leads from a class path to `q`. -/
def Chained (t : FileTree) (entries : List Path) (q : Path) : Prop :=
  ∃ p ∈ entries, Relation.ReflTransGen (Refers t) p q

section
variable {t : FileTree}

/-! ## References -/

theorem refers_iff {p q : Path} :
    Refers t p q ↔ ∃ further, references t p = .ok further ∧ q ∈ further := by
  unfold Refers references
  by_cases hjar : p.isJar = true
  · rw [if_pos hjar]
    cases hnamed : named t p with
    | error fault => simp [Except.map]
    | ok further => simp [Except.map, sorted, List.mem_mergeSort, hjar]
  · rw [if_neg hjar]
    simp [hjar]

theorem visitable_iff {p : Path} : Visitable t p ↔
    t.hasEntry p = true ∧ (p.isJar = true → ∃ further, named t p = .ok further) := by
  unfold Visitable references
  by_cases hjar : p.isJar = true
  · rw [if_pos hjar]
    cases hnamed : named t p with
    | error fault => simp [Except.map, hjar]
    | ok further => simp [Except.map]
  · simp [hjar]

theorem reached_iff_chain {entries : List Path} {q : Path} :
    Reached t entries q ↔ Chained t entries q := by
  constructor
  · intro h
    induction h with
    | given hp => exact ⟨_, hp, .refl⟩
    | named _ hrefs hq ih =>
      obtain ⟨p, hp, hchain⟩ := ih
      exact ⟨p, hp, hchain.tail (refers_iff.2 ⟨_, hrefs, hq⟩)⟩
  · rintro ⟨p, hp, hchain⟩
    induction hchain with
    | refl => exact .given hp
    | tail _ hrefers ih =>
      obtain ⟨further, hrefs, hq⟩ := refers_iff.1 hrefers
      exact .named ih hrefs hq

/-! ## The queue -/

/-- No text is visited twice, nor one that was seen before. -/
theorem nodup_visit {queue all : List Path} {seen : List String}
    (h : visit t queue seen = .ok all) :
    (all.map Path.text).Nodup ∧ ∀ p ∈ all, p.text ∉ seen := by
  fun_induction visit t queue seen generalizing all with
  | case1 =>
    cases h
    simp
  | case2 _ _ _ _ ih => exact ih h
  | case3 => cases h
  | case4 => cases h
  | case5 seen p rest hseen _ further _ later hlater ih =>
    cases h
    obtain ⟨hnodup, hfresh⟩ := ih hlater
    have hnew : p.text ∉ later.map Path.text := by
      intro hmem
      obtain ⟨q, hq, htext⟩ := List.mem_map.1 hmem
      exact hfresh q hq (htext ▸ List.mem_cons_self)
    refine ⟨List.nodup_cons.2 ⟨hnew, hnodup⟩, List.forall_mem_cons.2 ⟨by simpa using hseen, ?_⟩⟩
    exact fun q hq hold => hfresh q hq (List.mem_cons_of_mem _ hold)
  | case6 => cases h

/-- What is visited stood in the queue, or a jar that was visited before it refers to it. -/
theorem named_before_visit {queue all : List Path} {seen : List String}
    (h : visit t queue seen = .ok all) {before after : List Path} {q : Path}
    (hall : all = before ++ q :: after) : q ∈ queue ∨ ∃ p ∈ before, Refers t p q := by
  fun_induction visit t queue seen generalizing all before with
  | case1 =>
    cases h
    simp at hall
  | case2 _ _ _ _ ih => exact (ih h hall).imp_left (List.mem_cons_of_mem _)
  | case3 => cases h
  | case4 => cases h
  | case5 seen p rest _ _ further hrefs later hlater ih =>
    cases h
    cases before with
    | nil =>
      cases hall
      exact .inl List.mem_cons_self
    | cons p' before =>
      obtain ⟨rfl, hlist⟩ := List.cons.inj hall
      rcases ih hlater hlist with hq | ⟨r, hr, hrefers⟩
      · rcases List.mem_append.1 hq with hq | hq
        · exact .inl (List.mem_cons_of_mem _ hq)
        · exact .inr ⟨p, List.mem_cons_self, refers_iff.2 ⟨further, hrefs, hq⟩⟩
      · exact .inr ⟨r, List.mem_cons_of_mem _ hr, hrefers⟩
  | case6 => cases h

end

/-! ## The class path -/

/-- **Expansion is exact.** It succeeds exactly when everything that the class path leads to is
there and every jar among it can be asked what it names. The result then lists what the class path
leads to, each text once and nothing else, and an entry that was not given stands behind a jar that
refers to it. -/
theorem expand_exact (t : FileTree) (entries : List Path) :
    ((∃ all, expand t entries = .ok all) ↔
      ∀ p, Chained t entries p →
        t.hasEntry p = true ∧ (p.isJar = true → ∃ further, named t p = .ok further)) ∧
    ∀ all, expand t entries = .ok all →
      (∀ p, p ∈ all ↔ Chained t entries p) ∧ (all.map Path.text).Nodup ∧
      ∀ before q after, all = before ++ q :: after → q ∉ entries →
        ∃ p ∈ before, Refers t p q := by
  constructor
  · rw [expand_eq_ok_iff]
    simp only [reached_iff_chain, visitable_iff]
  · intro all hall
    refine ⟨fun p => (mem_expand_iff hall).trans reached_iff_chain, (nodup_visit hall).1, ?_⟩
    intro before q after hsplit hgiven
    refine (named_before_visit hall hsplit).resolve_left fun hq => hgiven ?_
    rwa [sorted, List.mem_mergeSort] at hq

end BytecodeLint.Classpath
