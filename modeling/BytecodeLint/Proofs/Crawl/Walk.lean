import BytecodeLint.Crawl.Basic
import BytecodeLint.Proofs.Crawl.Classpath
import BytecodeLint.Proofs.Except
import BytecodeLint.Proofs.FileTree.Listing

/-!
# The walk through a directory

A crawl goes through a directory level by level: it lists one directory, sorts what it finds, goes
down where it recognises a directory and reads the rest as files. All of this amounts to a list of
files, those of the walk, that are read one after the other.

* `gather` reads one item after the other; `gather_flatMap` does so in parts.
* `directory_of_list`: one level, in terms of what is listed there.
* `walk_of_list`, `filesAt`: the files that the walk comes to, level by level.
* `directory_eq_gather`: the crawl of a whole directory, in terms of these files.
* `below_induction`: what is handed up from what is listed in a directory holds of every path.
-/

namespace BytecodeLint.Crawl

/-! ## Hauls one after the other -/

section
variable {α β : Type} {f g : α → Except CrawlFault Haul} {x : α} {xs : List α} {haul : Haul}

/-- What is read from items one after the other. -/
def gather (f : α → Except CrawlFault Haul) (xs : List α) : Except CrawlFault Haul :=
  (xs.mapM f).map Haul.concat

theorem gather_eq_ok_iff :
    gather f xs = .ok haul ↔ ∃ hauls, xs.mapM f = .ok hauls ∧ Haul.concat hauls = haul := by
  rw [gather]
  cases xs.mapM f <;> simp [Except.map]

theorem gather_nil : gather f [] = .ok {} := rfl

theorem gather_cons :
    gather f (x :: xs) = (f x).bind fun first => (gather f xs).map first.append := by
  rw [gather, gather, List.mapM_cons]
  cases f x with
  | error fault => rfl
  | ok first => cases xs.mapM f <;> rfl

theorem gather_cons_eq_ok_iff :
    gather f (x :: xs) = .ok haul ↔
      ∃ first rest, f x = .ok first ∧ gather f xs = .ok rest ∧ first.append rest = haul := by
  rw [gather_cons]
  cases f x with
  | error fault => simp [Except.bind]
  | ok first => cases gather f xs <;> simp [Except.bind, Except.map]

theorem gather_append (ys : List α) :
    gather f (xs ++ ys) = (gather f xs).bind fun first => (gather f ys).map first.append := by
  induction xs with
  | nil =>
    rw [List.nil_append, gather_nil]
    cases gather f ys <;> rfl
  | cons x xs ih =>
    rw [List.cons_append, gather_cons, gather_cons, ih]
    cases f x with
    | error fault => rfl
    | ok first =>
      cases gather f xs with
      | error fault => rfl
      | ok rest =>
        cases gather f ys with
        | error fault => rfl
        | ok later => simp [Except.bind, Except.map, Haul.append]

/-- Items that are themselves read in parts may be read part by part. -/
theorem gather_flatMap {F : β → Except CrawlFault Haul} {parts : β → List α} {ys : List β}
    (h : ∀ y ∈ ys, F y = gather f (parts y)) : gather F ys = gather f (ys.flatMap parts) := by
  induction ys with
  | nil => rfl
  | cons y ys ih =>
    rw [gather_cons, List.flatMap_cons, gather_append, h y List.mem_cons_self,
      ih fun y' hy' => h y' (List.mem_cons_of_mem y hy')]

theorem gather_imp (h : gather f xs = .ok haul)
    (hfg : ∀ x ∈ xs, ∀ y, f x = .ok y → g x = .ok y) : gather g xs = .ok haul := by
  induction xs generalizing haul with
  | nil => exact h
  | cons x xs ih =>
    obtain ⟨first, rest, hfirst, hrest, rfl⟩ := gather_cons_eq_ok_iff.1 h
    have hlater := ih hrest fun x' hx' => hfg x' (List.mem_cons_of_mem x hx')
    exact gather_cons_eq_ok_iff.2
      ⟨first, rest, hfg x List.mem_cons_self first hfirst, hlater, rfl⟩

theorem gather_mem (h : gather f xs = .ok haul) (hx : x ∈ xs) : ∃ y, f x = .ok y := by
  induction xs generalizing haul with
  | nil => cases hx
  | cons x' xs ih =>
    obtain ⟨first, rest, hfirst, hrest, -⟩ := gather_cons_eq_ok_iff.1 h
    rcases List.mem_cons.1 hx with rfl | hx
    · exact ⟨first, hfirst⟩
    · exact ih hrest hx

/-- Items that give nothing may be left out. -/
theorem gather_filter {q : α → Bool} (hq : ∀ x ∈ xs, q x = false → f x = .ok {}) :
    gather f (xs.filter q) = gather f xs := by
  induction xs with
  | nil => rfl
  | cons x xs ih =>
    have hrest := ih fun x' hx' => hq x' (List.mem_cons_of_mem x hx')
    cases hx : q x with
    | true => rw [List.filter_cons_of_pos hx, gather_cons, gather_cons, hrest]
    | false =>
      rw [List.filter_cons_of_neg (by simp [hx]), gather_cons, hq x List.mem_cons_self hx, hrest]
      cases gather f xs <;> rfl

theorem gather_congr (h : ∀ x ∈ xs, f x = g x) : gather f xs = gather g xs := by
  induction xs with
  | nil => rfl
  | cons x xs ih =>
    rw [gather_cons, gather_cons, h x List.mem_cons_self,
      ih fun x' hx' => h x' (List.mem_cons_of_mem x hx')]

end

/-! ## One level -/

section
variable {t : FileTree} {p : Path} {found : List Path}

/-- What is read of an entry of a directory. -/
def entry (t : FileTree) (q : Path) : Except CrawlFault Haul :=
  if t.isDirectory q then directory t q else file t q false false

/-- A directory is read entry by entry, in ascending order. -/
theorem directory_of_list (h : t.list p = .ok found) :
    directory t p = gather (entry t) (Classpath.sorted found) := by
  rw [directory]
  split
  · rename_i fault hfault
    cases h.symm.trans hfault
  · rename_i found' hfound
    cases h.symm.trans hfound
    have hentries : ((Classpath.sorted found).attach.mapM fun q =>
        if t.isDirectory q.1 = true then directory t q.1 else file t q.1 false false) =
        (Classpath.sorted found).mapM (entry t) := mapM_attach_val (entry t) _
    simp only [dite_eq_ite, hentries, gather]
    cases (Classpath.sorted found).mapM (entry t) <;> rfl

/-- The files that the walk through a directory comes to. -/
def walk (t : FileTree) (p : Path) : List Path :=
  match _hlist : t.list p with
  | .error _ => []
  | .ok found =>
    (Classpath.sorted found).attach.flatMap fun q =>
      if _hdir : t.isDirectory q.1 = true then walk t q.1 else [q.1]
  termination_by FileTree.room p
  decreasing_by exact FileTree.room_lt _hlist (List.mem_mergeSort.1 q.2) _hdir

/-- The files to look into at a path: those of the walk when it is a directory. -/
def filesAt (t : FileTree) (p : Path) : List Path := if t.isDirectory p then walk t p else [p]

theorem filesAt_of_isDirectory (h : t.isDirectory p = true) : filesAt t p = walk t p := by
  simp [filesAt, h]

theorem filesAt_of_not_isDirectory (h : t.isDirectory p = false) : filesAt t p = [p] := by
  simp [filesAt, h]

theorem walk_of_list (h : t.list p = .ok found) :
    walk t p = (Classpath.sorted found).flatMap (filesAt t) := by
  rw [walk]
  split
  · rename_i fault hfault
    cases h.symm.trans hfault
  · rename_i found' hfound
    cases h.symm.trans hfound
    have hfiles := List.flatMap_map Subtype.val (filesAt t) (l := (Classpath.sorted found).attach)
    rw [List.attach_map_subtype_val] at hfiles
    simp only [dite_eq_ite, hfiles, filesAt]

/-! ## All levels -/

/-- What is handed up to a directory from what it lists holds of every path. -/
theorem below_induction {motive : Path → Prop}
    (step : ∀ p, (∀ found, t.list p = .ok found → ∀ q ∈ found, t.isDirectory q = true → motive q) →
      motive p) (p : Path) : motive p :=
  step p fun _ _hlist q _hq _hdir => below_induction step q
  termination_by FileTree.room p
  decreasing_by exact FileTree.room_lt _hlist _hq _hdir

/-- Reading a directory is reading the files of the walk through it. -/
theorem directory_eq_gather (h : t.isDirectory p = true) :
    directory t p = gather (file t · false false) (walk t p) := by
  induction p using below_induction (t := t) with
  | step p ih =>
    obtain ⟨found, hfound⟩ := FileTree.exists_list h
    rw [directory_of_list hfound, walk_of_list hfound]
    refine gather_flatMap fun q hq => ?_
    unfold entry
    split
    · rename_i hdir
      rw [filesAt_of_isDirectory hdir]
      exact ih found hfound q (Classpath.mem_sorted.1 hq) hdir hdir
    · rename_i hfile
      rw [filesAt_of_not_isDirectory (by simpa using hfile), gather_cons, gather_nil]
      cases file t q false false <;> simp [Except.bind, Except.map, Haul.append]

theorem path_of_isDirectory (h : t.isDirectory p = true) (isTarget : Bool) :
    path t p isTarget = gather (file t · false false) (filesAt t p) := by
  rw [path, if_pos h, directory_eq_gather h, filesAt_of_isDirectory h]

theorem path_of_not_isDirectory (h : t.isDirectory p = false) (isTarget : Bool) :
    path t p isTarget = file t p isTarget true := by
  rw [path, if_neg (by simp [h])]

/-- A crawl reads its input, asks it for its class path, expands that and the given one, and reads
what comes of it. -/
theorem run_eq_ok_iff {input : Path} {classpath : List Path} {crawl : CrawlResult} :
    run t input classpath = .ok crawl ↔
      ∃ own named expanded others, path t input true = .ok own ∧
        ownClassPath t input = .ok named ∧
        Classpath.expand t (classpath ++ named) = .ok expanded ∧
        gather (path t · false) (expanded.filter fun p => !p.samePlace input) = .ok others ∧
        result (own.append others) = crawl := by
  have hsorted (named : List Path) : Classpath.expand t (Classpath.sorted classpath ++ named) =
      Classpath.expand t (classpath ++ named) := by
    refine Classpath.expand_congr t fun p => ?_
    rw [List.mem_append, List.mem_append, Classpath.mem_sorted]
  simp only [gather_eq_ok_iff, ← hsorted]
  constructor
  · intro h
    obtain ⟨own, hown, h⟩ := bind_eq_ok h
    obtain ⟨named, hnamed, h⟩ := bind_eq_ok h
    obtain ⟨expanded, hexpanded, h⟩ := bind_eq_ok h
    obtain ⟨others, hothers, h⟩ := bind_eq_ok h
    cases h
    exact ⟨own, named, expanded, _, hown, hnamed, hexpanded, ⟨others, hothers, rfl⟩, rfl⟩
  · rintro ⟨own, named, expanded, _, hown, hnamed, hexpanded, ⟨others, hothers, rfl⟩, rfl⟩
    have hothers : entries t input expanded = .ok others := hothers
    simp only [run, hown, hnamed, hexpanded, hothers, bind, Except.bind]

/-! ## Directories that are listed in order -/

section
variable (found : List Path) {haul : Haul} (hlist : (t.list p).toOption = some found)
  (hascend : found.Pairwise fun p q => p.text ≤ q.text)
  (hread : (gather (entry t) found).toOption = some haul)
include hlist hascend hread

theorem directory_listed : directory t p = .ok haul := by
  rw [directory_of_list (eq_ok_of_toOption hlist), Classpath.sorted_of_ascending hascend,
    eq_ok_of_toOption hread]

theorem path_listed (isTarget : Bool) : path t p isTarget = .ok haul := by
  rw [path, if_pos (FileTree.isDirectory_of_list (eq_ok_of_toOption hlist)),
    directory_listed found hlist hascend hread]

end

end

end BytecodeLint.Crawl
