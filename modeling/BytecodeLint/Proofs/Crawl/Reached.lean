import BytecodeLint.Proofs.Crawl.Classpath

/-!
# What a class path leads to

An entry of a class path is reached when it is given, or when a jar that is reached names it
(`Reached`). Expansion visits what is reached, one entry after the other, and gives up at the first
one that is missing or cannot be read.

* `of_mem_visit`, `closed_visit`: what a successful expansion lists is reached, and whatever a
  listed entry names is listed too.
* `blamed_visit`: a fault is that of an entry which is reached.
* `mem_expand_iff`, `expand_eq_ok_iff`: the same of a whole class path.
-/
namespace BytecodeLint.Classpath

/-- An entry is given, or an entry that is reached names it. -/
inductive Reached (t : FileTree) (entries : List Path) : Path → Prop where
  | given {p : Path} : p ∈ entries → Reached t entries p
  | named {p q : Path} {further : List Path} : Reached t entries p →
      references t p = .ok further → q ∈ further → Reached t entries q

/-- Without entries nothing is reached. -/
theorem not_reached_nil {t : FileTree} {p : Path} : ¬ Reached t [] p := by
  intro h
  induction h with
  | given hp => cases hp
  | named _ _ _ ih => exact ih

/-- An entry at which expansion goes on: it is there, and what it names can be read. -/
def Visitable (t : FileTree) (p : Path) : Prop :=
  t.hasEntry p = true ∧ ∃ further, references t p = .ok further

/-- An entry at which expansion ends with a fault. -/
def Blamed (t : FileTree) (p : Path) (fault : CrawlFault) : Prop :=
  (t.hasEntry p = false ∧ fault = .missing p) ∨
    (t.hasEntry p = true ∧ references t p = .error fault)

theorem Blamed.not_visitable {t : FileTree} {p : Path} {fault : CrawlFault}
    (h : Blamed t p fault) : ¬ Visitable t p := by
  rintro ⟨hentry, further, hfurther⟩
  rcases h with ⟨hmissing, -⟩ | ⟨-, herror⟩
  · simp [hmissing] at hentry
  · simp [herror] at hfurther

/-- A property that is handed on from an entry to those it names. -/
def HandedOn (t : FileTree) (P : Path → Prop) : Prop :=
  ∀ p further, P p → references t p = .ok further → ∀ q ∈ further, P q

/-! ## The queue -/

section
variable {t : FileTree} {P : Path → Prop} (hstep : HandedOn t P)
include hstep

/-- What holds of the queue and is handed on holds of all that is visited. -/
theorem of_mem_visit {queue all : List Path} {seen : List String}
    (hqueue : ∀ p ∈ queue, P p) (h : visit t queue seen = .ok all) : ∀ p ∈ all, P p := by
  fun_induction visit t queue seen generalizing all with
  | case1 =>
    cases h
    simp
  | case2 _ _ _ _ ih => exact ih (List.forall_mem_cons.1 hqueue).2 h
  | case3 => cases h
  | case4 => cases h
  | case5 seen p rest _ _ further hrefs later hlater ih =>
    cases h
    obtain ⟨hp, hrest⟩ := List.forall_mem_cons.1 hqueue
    refine List.forall_mem_cons.2 ⟨hp, ih (fun q hq => ?_) hlater⟩
    rcases List.mem_append.1 hq with hq | hq
    · exact hrest q hq
    · exact hstep p further hp hrefs q hq
  | case6 => cases h

/-- A fault is that of an entry for which holds what holds of the queue and is handed on. -/
theorem blamed_visit {queue : List Path} {seen : List String} {fault : CrawlFault}
    (hqueue : ∀ p ∈ queue, P p) (h : visit t queue seen = .error fault) :
    ∃ p, P p ∧ Blamed t p fault := by
  fun_induction visit t queue seen with
  | case1 => cases h
  | case2 _ _ _ _ ih => exact ih (List.forall_mem_cons.1 hqueue).2 h
  | case3 seen p rest _ hentry fault hrefs =>
    cases h
    exact ⟨p, hqueue p List.mem_cons_self, .inr ⟨hentry, hrefs⟩⟩
  | case4 seen p rest _ _ further hrefs fault hlater ih =>
    cases h
    obtain ⟨hp, hrest⟩ := List.forall_mem_cons.1 hqueue
    refine ih (fun q hq => ?_) hlater
    rcases List.mem_append.1 hq with hq | hq
    · exact hrest q hq
    · exact hstep p further hp hrefs q hq
  | case5 => cases h
  | case6 seen p rest _ hentry =>
    cases h
    exact ⟨p, hqueue p List.mem_cons_self, .inl ⟨by simpa using hentry, rfl⟩⟩

end

/-- A successful expansion leaves nothing out: every entry of the queue was seen before or is
listed, and so is every entry that a listed one names. -/
theorem closed_visit {t : FileTree} {queue all : List Path} {seen : List String}
    (h : visit t queue seen = .ok all) :
    (∀ p ∈ queue, p.text ∈ seen ∨ p ∈ all) ∧
      ∀ p ∈ all, t.hasEntry p = true ∧ ∃ further, references t p = .ok further ∧
        ∀ q ∈ further, q.text ∈ seen ∨ q ∈ all := by
  fun_induction visit t queue seen generalizing all with
  | case1 =>
    cases h
    simp
  | case2 seen p rest hseen ih =>
    obtain ⟨hrest, hall⟩ := ih h
    exact ⟨List.forall_mem_cons.2 ⟨.inl (by simpa using hseen), hrest⟩, hall⟩
  | case3 => cases h
  | case4 => cases h
  | case5 seen p rest _ hentry further hrefs later hlater ih =>
    cases h
    obtain ⟨hqueue, hall⟩ := ih hlater
    -- `p` is now among the texts that were seen, and it heads the list
    have hwider {q : Path} (hq : q.text ∈ p.text :: seen ∨ q ∈ later) :
        q.text ∈ seen ∨ q ∈ p :: later := by
      rcases hq with hq | hq
      · rcases List.mem_cons.1 hq with heq | hq
        · exact .inr (Path.text_injective heq ▸ List.mem_cons_self)
        · exact .inl hq
      · exact .inr (List.mem_cons_of_mem _ hq)
    refine ⟨List.forall_mem_cons.2 ⟨.inr List.mem_cons_self, fun q hq => ?_⟩,
      List.forall_mem_cons.2 ⟨⟨hentry, further, hrefs, fun q hq => ?_⟩, fun q hq => ?_⟩⟩
    · exact hwider (hqueue q (List.mem_append_left _ hq))
    · exact hwider (hqueue q (List.mem_append_right _ hq))
    · obtain ⟨hq, more, hmore, hin⟩ := hall q hq
      exact ⟨hq, more, hmore, fun r hr => hwider (hin r hr)⟩
  | case6 => cases h

/-! ## The class path -/

section
variable {t : FileTree} {entries : List Path}

theorem Reached.handedOn : HandedOn t (Reached t entries) :=
  fun _ _ hp hrefs _ hq => .named hp hrefs hq

theorem reached_of_mem_sorted : ∀ p ∈ sorted entries, Reached t entries p := by
  intro p hp
  rw [sorted, List.mem_mergeSort] at hp
  exact .given hp

/-- **A successful expansion lists what is reached.** -/
theorem mem_expand_iff {all : List Path} (h : expand t entries = .ok all) {p : Path} :
    p ∈ all ↔ Reached t entries p := by
  constructor
  · exact of_mem_visit Reached.handedOn reached_of_mem_sorted h p
  · intro hp
    obtain ⟨hgiven, hall⟩ := closed_visit h
    induction hp with
    | given hp =>
      refine (hgiven _ ?_).resolve_left (by simp)
      rwa [sorted, List.mem_mergeSort]
    | named _ hrefs hq ih =>
      obtain ⟨-, further, hfurther, hin⟩ := hall _ ih
      cases hrefs.symm.trans hfurther
      exact (hin _ hq).resolve_left (by simp)

theorem visitable_of_expand {all : List Path} (h : expand t entries = .ok all) {p : Path}
    (hp : Reached t entries p) : Visitable t p := by
  obtain ⟨hentry, further, hfurther, -⟩ := (closed_visit h).2 p ((mem_expand_iff h).2 hp)
  exact ⟨hentry, further, hfurther⟩

/-- **Expansion succeeds exactly when every entry that is reached can be visited.** -/
theorem expand_eq_ok_iff :
    (∃ all, expand t entries = .ok all) ↔ ∀ p, Reached t entries p → Visitable t p := by
  constructor
  · rintro ⟨all, hall⟩ p hp
    exact visitable_of_expand hall hp
  · intro hvisitable
    cases hexpand : expand t entries with
    | ok all => exact ⟨all, rfl⟩
    | error fault =>
      obtain ⟨p, hp, hblamed⟩ := blamed_visit Reached.handedOn reached_of_mem_sorted hexpand
      exact absurd (hvisitable p hp) hblamed.not_visitable

end

end BytecodeLint.Classpath
