import BytecodeLint.Proofs.Crawl.Reached
import BytecodeLint.Proofs.Crawl.Walk
import BytecodeLint.Proofs.FileTree.Change

/-!
# What a crawl passes over

A crawl reads class files and jars, by their extensions. Files of other names may come and go, and
directories may be made, also below what is crawled: a crawl that succeeded gives the same result
again. There is one exception: a path may become too long to be recognised as that of a directory,
and then a directory that is named like a class file is taken for one.

* `Aside`: the changes that are meant. `Below`, `StaysOut`: what the walk through a directory comes
  upon, and that there is nothing new to be read.
* `Aside.lookup`, `Aside.hasEntry`: what a crawl sees of a tree stays. `Aside.sameReads_of_list`,
  `Aside.sameReads`: so does what the walk comes to, level by level and on the whole.
* `Aside.file`, `Aside.path`, `Aside.visit`: the parts of a crawl.
* `Aside.run`: the crawl.
-/

namespace BytecodeLint.Crawl

open FileTree (Reworked)

/-- Whether a file of this name is read. -/
def isRead (p : Path) : Bool := p.extension? == some "class" || p.extension? == some "jar"

/-- Between the trees, files came and went that a crawl does not read, and directories were made. -/
structure Aside (files rooms : Path → Prop) (t t' : FileTree) : Prop where
  reworked : Reworked files rooms t t'
  stand : ∀ loc, t'.Leads files loc → ∃ content, t'.get? loc = some (.file content)
  named : ∀ p, files p → ∃ above name, p.parts = above ++ [name] ∧ name ∉ ["", ".", ".."]
  unread : ∀ p, files p → isRead p = false

/-- What the walk through a directory comes upon. -/
inductive Below (t : FileTree) : Path → Path → Prop where
  | listed {p q : Path} {found : List Path} : t.list p = .ok found → q ∈ found → Below t p q
  | deeper {p q r : Path} {found : List Path} : t.list p = .ok found → q ∈ found →
      t.isDirectory q = true → Below t q r → Below t p r

/-- What the walk through a directory comes upon, was not there before and has a name that is read
is recognised as a directory. -/
def StaysOut (t t' : FileTree) (p : Path) : Prop :=
  ∀ q, Below t' p q → t.hasEntry q = false → isRead q = true → t'.isDirectory q = true

/-- The walk from a path comes to the same files of names that are read, in the same order; where
there was no directory before, it comes to none. -/
def SameReads (t t' : FileTree) (p : Path) : Prop :=
  (filesAt t' p).filter isRead = if t.isDirectory p then (filesAt t p).filter isRead else []

/-- A path that a crawl meets: the input, or what its class path leads to. -/
def Met (t : FileTree) (input : Path) (classpath : List Path) (p : Path) : Prop :=
  p = input ∨ ∃ named, ownClassPath t input = .ok named ∧
    Classpath.Reached t (classpath ++ named) p

/-! ## Files that are read -/

section
variable {t : FileTree} {p : Path} {isTarget : Bool} {haul : Haul}

theorem file_unread (h : isRead p = false) : file t p isTarget false = .ok {} := by
  unfold file
  split <;> simp_all [isRead]

theorem openJar_eq_ok {zip : Archive.Zip} (h : openJar t p = .ok zip) :
    ∃ content, t.lookup p = .ok (.file content) ∧ Archive.Zip.ofBytes? content = some zip := by
  unfold openJar at h
  split at h
  · cases h
  · cases h
  · rename_i content hlookup
    split at h
    · rename_i hzip
      cases h
      exact ⟨content, hlookup, hzip⟩
    · cases h

theorem file_of_named {ps : List Path} (h : Classpath.named t p = .ok ps) :
    ∃ content, t.lookup p = .ok (.file content) := by
  unfold Classpath.named at h
  split at h
  · cases h
  · rename_i zip hzip
    obtain ⟨content, hlookup, -⟩ := openJar_eq_ok hzip
    exact ⟨content, hlookup⟩

theorem read_eq_ok {content : ByteArray} (h : t.read p = .ok content) :
    t.lookup p = .ok (.file content) := by
  unfold FileTree.read at h
  split at h
  · rename_i hlookup
    cases h
    exact hlookup
  · cases h
  · cases h

/-- A file of a name that is read has to be there. -/
theorem lookup_of_file {isStrict : Bool} (h : file t p isTarget isStrict = .ok haul)
    (hread : isRead p = true) : ∃ content, t.lookup p = .ok (.file content) := by
  unfold file at h
  split at h
  · unfold classFile at h
    split at h
    · cases h
    · rename_i content hcontent
      exact ⟨content, read_eq_ok hcontent⟩
  · unfold jar at h
    split at h
    · cases h
    · rename_i zip hzip
      obtain ⟨content, hlookup, -⟩ := openJar_eq_ok hzip
      exact ⟨content, hlookup⟩
  · simp_all [isRead]

/-- A file that is asked for by its own name is read. -/
theorem isRead_of_file (h : file t p isTarget true = .ok haul) : isRead p = true := by
  unfold file at h
  split at h
  · simp [isRead, *]
  · simp [isRead, *]
  · cases h

/-- What is read at a path is a directory or a file of a name that is read. -/
theorem path_cases (h : path t p isTarget = .ok haul) :
    t.isDirectory p = true ∨ t.isDirectory p = false ∧ isRead p = true ∧
      (∃ content, t.lookup p = .ok (.file content)) ∧ file t p isTarget true = .ok haul := by
  cases hdir : t.isDirectory p with
  | true => exact .inl rfl
  | false =>
    rw [path_of_not_isDirectory hdir] at h
    have hread := isRead_of_file h
    exact .inr ⟨rfl, hread, lookup_of_file h hread, h⟩

theorem isDirectory_eq_false {content : ByteArray} (h : t.lookup p = .ok (.file content)) :
    t.isDirectory p = false := by
  simp [FileTree.isDirectory, h]

/-- A file that was read has a name that is read. -/
theorem isRead_of_path (h : path t p isTarget = .ok haul) {content : ByteArray}
    (hlookup : t.lookup p = .ok (.file content)) : isRead p = true := by
  rcases path_cases h with hdir | ⟨-, hread, -⟩
  · rw [isDirectory_eq_false hlookup] at hdir
    cases hdir
  · exact hread

/-- Names of one place are read or not alike. -/
theorem isRead_of_samePlace {input : Path} (h : path t input isTarget = .ok haul)
    (hsame : p.samePlace input = true) {content : ByteArray}
    (hlookup : t.lookup p = .ok (.file content)) : isRead p = true := by
  have hcomponents : p.components = input.components := by simpa [Path.samePlace] using hsame
  obtain ⟨loc, hloc, hfile⟩ := FileTree.lookup_eq_ok_iff.1 hlookup
  rcases path_cases h with hdir | ⟨-, hread, -⟩
  · obtain ⟨loc', hloc', hdir⟩ := FileTree.isDirectory_eq_true_iff.1 hdir
    cases FileTree.locate_congr hcomponents hloc hloc'
    cases hdir.symm.trans hfile
  · rw [isRead, Path.extension?_congr hcomponents]
    exact hread

end

/-! ## Below a directory -/

/-- Where there is nothing to go down to, the walk comes upon what is listed. -/
theorem Below.mem_list {t : FileTree} {p q : Path} {found : List Path} (h : Below t p q)
    (hfound : t.list p = .ok found) (hfiles : ∀ q ∈ found, t.isDirectory q = false) :
    q ∈ found := by
  cases h with
  | listed hfound' hq =>
    cases hfound.symm.trans hfound'
    exact hq
  | deeper hfound' hq hdir =>
    cases hfound.symm.trans hfound'
    simp [hfiles _ hq] at hdir

/-- When a directory can be read, whatever the walk comes upon under a name that is read is found by
its path. -/
theorem hasEntry_of_below {t : FileTree} {p q : Path} (hq : Below t p q) (hread : isRead q = true)
    {isTarget : Bool} {haul : Haul} (h : path t p isTarget = .ok haul) : t.hasEntry q = true := by
  induction hq generalizing isTarget haul with
  | listed hfound hq =>
    rw [path, if_pos (FileTree.isDirectory_of_list hfound), directory_of_list hfound] at h
    obtain ⟨inner, hinner⟩ := gather_mem h (Classpath.mem_sorted.2 hq)
    unfold entry at hinner
    split at hinner
    · rename_i hdir
      exact FileTree.hasEntry_of_isDirectory hdir
    · obtain ⟨content, hlookup⟩ := lookup_of_file hinner hread
      exact FileTree.hasEntry_eq_true_iff.2 ⟨_, hlookup⟩
  | @deeper _ below _ _ hfound hq hdir _ ih =>
    rw [path, if_pos (FileTree.isDirectory_of_list hfound), directory_of_list hfound] at h
    obtain ⟨inner, hinner⟩ := gather_mem h (Classpath.mem_sorted.2 hq)
    rw [entry, if_pos hdir] at hinner
    have hdeeper : path t below false = .ok inner := by rw [path, if_pos hdir, hinner]
    exact ih hread hdeeper

/-! ## What is seen of the trees -/

namespace Aside

variable {files rooms : Path → Prop} {t t' : FileTree} (h : Aside files rooms t t')
include h

/-- A path of a name that is read finds what it found. -/
theorem lookup {p : Path} {e : Entry} (hp : isRead p = true) (hlookup : t.lookup p = .ok e) :
    t'.lookup p = .ok e := by
  obtain ⟨loc, hloc, he⟩ := FileTree.lookup_eq_ok_iff.1 hlookup
  have hloc' := h.reworked.kept.locate hloc
  refine FileTree.lookup_eq_ok_iff.2 ⟨loc, hloc', h.reworked.get?_eq ?_ he⟩
  rintro ⟨q, hq, hqloc⟩
  obtain ⟨above, name, hparts, hname⟩ := h.named q hq
  have hqname : q.fileName? ≠ none := by simp [Path.fileName?_of_parts hparts hname]
  have hpname : p.fileName? ≠ none := by
    intro hnone
    simp [isRead, Path.extension?, hnone] at hp
  have hext := FileTree.extension?_of_locate hloc' hqloc hpname hqname
  have hunread := h.unread q hq
  rw [isRead, ← hext, ← isRead, hp] at hunread
  cases hunread

/-- Where something stood something stands, and a directory only if it was one. -/
theorem get? {loc : Location} {e : Entry} (he : t.get? loc = some e) :
    ∃ e', t'.get? loc = some e' ∧ (e' = .directory → e = .directory) := by
  by_cases hfile : t'.Leads files loc
  · obtain ⟨content, hcontent⟩ := h.stand loc hfile
    exact ⟨_, hcontent, fun hdir => by cases hdir⟩
  · exact ⟨e, h.reworked.get?_eq hfile he, id⟩

theorem hasEntry {p : Path} (hp : t.hasEntry p = true) : t'.hasEntry p = true := by
  obtain ⟨e, he⟩ := FileTree.hasEntry_eq_true_iff.1 hp
  obtain ⟨loc, hloc, he⟩ := FileTree.lookup_eq_ok_iff.1 he
  obtain ⟨e', he', -⟩ := h.get? he
  exact FileTree.hasEntry_eq_true_iff.2
    ⟨e', FileTree.lookup_eq_ok_iff.2 ⟨loc, h.reworked.kept.locate hloc, he'⟩⟩

/-! ## What the walk comes upon -/

section
variable {p q : Path} {found found' : List Path} (hfound : t.list p = .ok found)
include hfound

/-- What was listed in a directory is listed there still. -/
theorem mem_list (hfound' : t'.list p = .ok found') (hq : q ∈ found) : q ∈ found' := by
  obtain ⟨loc, hloc, -, -⟩ := FileTree.list_eq_ok_iff.1 hfound
  obtain ⟨name, hname, ⟨e, he⟩, rfl⟩ := (FileTree.mem_list_iff hfound hloc).1 hq
  obtain ⟨e', he', -⟩ := h.get? he
  exact (FileTree.mem_list_iff hfound' (h.reworked.kept.locate hloc)).2
    ⟨name, hname, ⟨e', he'⟩, rfl⟩

/-- In order, too. -/
theorem filter_sorted (hfound' : t'.list p = .ok found') :
    (Classpath.sorted found').filter found.contains = Classpath.sorted found := by
  rw [Classpath.filter_sorted]
  refine Classpath.sorted_congr ?_
  have hnodup := (FileTree.nodup_list hfound').sublist (List.filter_sublist (p := found.contains))
  refine (List.perm_ext_iff_of_nodup hnodup (FileTree.nodup_list hfound)).2 fun q => ?_
  rw [List.mem_filter, List.contains_iff_mem]
  exact ⟨And.right, fun hq => ⟨h.mem_list hfound hfound' hq, hq⟩⟩

/-- What was listed is recognised as a directory if it was. -/
theorem isDirectory (hq : q ∈ found) : t'.isDirectory q = t.isDirectory q := by
  rw [Bool.eq_iff_iff]
  refine ⟨fun hdir => ?_, h.reworked.kept.isDirectory⟩
  obtain ⟨loc, hloc, habove, -⟩ := FileTree.list_eq_ok_iff.1 hfound
  obtain ⟨name, hname, ⟨e, he⟩, rfl⟩ := (FileTree.mem_list_iff hfound hloc).1 hq
  have hcheck := FileTree.checkText_of_locate hloc
  obtain ⟨here, hhere, hdir⟩ := FileTree.isDirectory_eq_true_iff.1 hdir
  obtain ⟨hnameable, loc', hloc', -, rfl⟩ := (FileTree.locate_join hcheck hname).1 hhere
  cases (h.reworked.kept.locate hloc).symm.trans hloc'
  obtain ⟨e', he', hsame⟩ := h.get? he
  cases he'.symm.trans hdir
  refine FileTree.isDirectory_eq_true_iff.2 ⟨loc ++ [name], ?_, hsame rfl ▸ he⟩
  exact (FileTree.locate_join hcheck hname).2 ⟨hnameable, loc, hloc, habove, rfl⟩

end

omit h in
theorem filter_flatMap_of_nil {α β : Type} {f : α → List β} (keep : α → Bool) {xs : List α}
    (hnil : ∀ x ∈ xs, keep x = false → f x = []) : (xs.filter keep).flatMap f = xs.flatMap f := by
  induction xs with
  | nil => rfl
  | cons x xs ih =>
    have hrest := ih fun x' hx' => hnil x' (List.mem_cons_of_mem x hx')
    cases hx : keep x with
    | true => rw [List.filter_cons_of_pos hx, List.flatMap_cons, List.flatMap_cons, hrest]
    | false =>
      rw [List.filter_cons_of_neg (by simp [hx]), List.flatMap_cons, hnil x List.mem_cons_self hx,
        hrest, List.nil_append]

omit h in
/-- What was not there before has nothing to be read. -/
theorem filter_of_new {q : Path} (hentry : t.hasEntry q = false)
    (hout : isRead q = true → t'.isDirectory q = true)
    (hsame : t'.isDirectory q = true → SameReads t t' q) : (filesAt t' q).filter isRead = [] := by
  cases hdir : t'.isDirectory q with
  | true =>
    have hold : t.isDirectory q ≠ true := fun hold => by
      simp [FileTree.hasEntry_of_isDirectory hold] at hentry
    rw [hsame hdir, if_neg hold]
  | false =>
    have hunread : isRead q ≠ true := fun hread => by simp [hout hread] at hdir
    rw [filesAt_of_not_isDirectory hdir, List.filter_cons_of_neg hunread, List.filter_nil]

/-- What was listed before is the same to read. -/
theorem filter_of_listed {p q : Path} {found : List Path} (hfound : t.list p = .ok found)
    (hq : q ∈ found) (hsame : t'.isDirectory q = true → SameReads t t' q) :
    (filesAt t' q).filter isRead = (filesAt t q).filter isRead := by
  have hrecognised := h.isDirectory hfound hq
  cases hdir : t.isDirectory q with
  | true =>
    rw [hdir] at hrecognised
    rw [hsame hrecognised, if_pos hdir]
  | false =>
    rw [hdir] at hrecognised
    rw [filesAt_of_not_isDirectory hdir, filesAt_of_not_isDirectory hrecognised]

/-- One level of the walk: what is new has nothing to be read, and the rest comes in its order. -/
theorem sameReads_of_list {p : Path} {found' : List Path} (hfound' : t'.list p = .ok found')
    (hout : ∀ q ∈ found', t.hasEntry q = false → isRead q = true → t'.isDirectory q = true)
    (hsame : ∀ q ∈ found', t'.isDirectory q = true → SameReads t t' q) : SameReads t t' p := by
  have hnone {q : Path} (hq : q ∈ found') (hentry : t.hasEntry q = false) :
      (filesAt t' q).filter isRead = [] :=
    filter_of_new hentry (hout q hq hentry) (hsame q hq)
  rw [SameReads, filesAt_of_isDirectory (FileTree.isDirectory_of_list hfound'),
    walk_of_list hfound', List.filter_flatMap]
  cases hold : t.isDirectory p with
  | false =>
    refine List.flatMap_eq_nil_iff.2 fun q hq => ?_
    have hq := Classpath.mem_sorted.1 hq
    refine hnone hq (Bool.eq_false_iff.2 fun hentry => ?_)
    rw [FileTree.isDirectory_of_mem_list hfound' hq hentry] at hold
    cases hold
  | true =>
    obtain ⟨found, hfound⟩ := FileTree.exists_list hold
    rw [if_pos rfl, filesAt_of_isDirectory hold, walk_of_list hfound, List.filter_flatMap,
      ← h.filter_sorted hfound hfound', ← filter_flatMap_of_nil found.contains]
    · refine List.flatMap_congr fun q hq => ?_
      obtain ⟨hq', hq⟩ := List.mem_filter.1 hq
      exact h.filter_of_listed hfound (List.contains_iff_mem.1 hq)
        (hsame q (Classpath.mem_sorted.1 hq'))
    · intro q hq hkeep
      have hq := Classpath.mem_sorted.1 hq
      refine hnone hq (Bool.eq_false_iff.2 fun hentry => ?_)
      have hmem := FileTree.mem_list_of_hasEntry hfound' hq hentry hfound
      simp [hmem] at hkeep

/-- The whole walk. -/
theorem sameReads {p : Path} (hdir : t'.isDirectory p = true) (hnew : StaysOut t t' p) :
    SameReads t t' p := by
  induction p using below_induction (t := t') with
  | step p ih =>
    obtain ⟨found', hfound'⟩ := FileTree.exists_list hdir
    refine h.sameReads_of_list hfound' (fun q hq => hnew q (.listed hfound' hq)) ?_
    intro q hq hqdir
    exact ih found' hfound' q hq hqdir hqdir fun r hr => hnew r (.deeper hfound' hq hqdir hr)

/-! ## The parts of a crawl -/

theorem openJar {p : Path} (hp : isRead p = true) {zip : Archive.Zip}
    (hzip : BytecodeLint.openJar t p = .ok zip) : BytecodeLint.openJar t' p = .ok zip := by
  obtain ⟨content, hlookup, hbytes⟩ := openJar_eq_ok hzip
  simp only [BytecodeLint.openJar, h.lookup hp hlookup, hbytes]

theorem named_eq_ok {p : Path} (hp : isRead p = true) {ps : List Path}
    (hnamed : Classpath.named t p = .ok ps) : Classpath.named t' p = .ok ps := by
  unfold Classpath.named at hnamed ⊢
  split at hnamed
  · cases hnamed
  · rename_i zip hzip
    rw [h.openJar hp hzip]
    exact hnamed

theorem artifact (p : Path) (length : Nat) (isTarget : Bool) :
    Crawl.artifact t' p length isTarget = Crawl.artifact t p length isTarget := by
  simp only [Crawl.artifact, FileTree.absolute, h.reworked.kept.workingDirectory]

theorem file {p : Path} {isTarget isStrict : Bool} {haul : Haul}
    (hfile : Crawl.file t p isTarget isStrict = .ok haul) :
    Crawl.file t' p isTarget isStrict = .ok haul := by
  unfold Crawl.file at hfile ⊢
  split at hfile
  · rename_i hext
    have hread : isRead p = true := by simp [isRead, hext]
    unfold classFile at hfile ⊢
    split at hfile
    · cases hfile
    · rename_i content hcontent
      have hsame : t'.read p = .ok content := by
        rw [FileTree.read, h.lookup hread (read_eq_ok hcontent)]
      rw [hsame]
      simpa [h.artifact] using hfile
  · rename_i hext
    have hread : isRead p = true := by simp [isRead, hext]
    unfold jar at hfile ⊢
    split at hfile
    · cases hfile
    · rename_i zip hzip
      rw [h.openJar hread hzip]
      simpa [h.artifact] using hfile
  · exact hfile

theorem path {p : Path} (hnew : StaysOut t t' p) {isTarget : Bool} {haul : Haul}
    (hpath : Crawl.path t p isTarget = .ok haul) : Crawl.path t' p isTarget = .ok haul := by
  rcases path_cases hpath with hdir | ⟨-, hread, ⟨content, hlookup⟩, hfile⟩
  · have hdir' := h.reworked.kept.isDirectory hdir
    have hfiles := h.sameReads hdir' hnew
    rw [SameReads, if_pos hdir] at hfiles
    -- only files whose names are read matter, and these are the same
    have hunread (t : FileTree) (q : Path) (hq : isRead q = false) :
        Crawl.file t q false false = .ok {} := file_unread hq
    rw [path_of_isDirectory hdir, ← gather_filter fun q _ => hunread t q] at hpath
    rw [path_of_isDirectory hdir', ← gather_filter fun q _ => hunread t' q, hfiles]
    exact gather_imp hpath fun q _ haul => h.file
  · rw [path_of_not_isDirectory (isDirectory_eq_false (h.lookup hread hlookup))]
    exact h.file hfile

theorem references {p : Path} {ps : List Path}
    (hp : ∀ content, t.lookup p = .ok (.file content) → isRead p = true)
    (hrefs : Classpath.references t p = .ok ps) : Classpath.references t' p = .ok ps := by
  unfold Classpath.references at hrefs ⊢
  split at hrefs
  · rename_i hjar
    cases hnamed : Classpath.named t p with
    | error fault =>
      rw [hnamed] at hrefs
      cases hrefs
    | ok named =>
      obtain ⟨content, hlookup⟩ := file_of_named hnamed
      rw [hnamed] at hrefs
      rw [if_pos hjar, h.named_eq_ok (hp content hlookup) hnamed]
      exact hrefs
  · rename_i hjar
    rw [if_neg hjar]
    exact hrefs

theorem visit {queue : List Path} {seen : List String} {expanded : List Path}
    (hvisit : Classpath.visit t queue seen = .ok expanded)
    (hread : ∀ p ∈ expanded, ∀ content, t.lookup p = .ok (.file content) → isRead p = true) :
    Classpath.visit t' queue seen = .ok expanded := by
  fun_induction Classpath.visit t queue seen generalizing expanded with
  | case1 =>
    rw [Classpath.visit]
    exact hvisit
  | case2 seen p rest hseen ih =>
    rw [Classpath.visit_cons_of_mem (List.contains_iff_mem.1 hseen)]
    exact ih hvisit hread
  | case3 => cases hvisit
  | case4 => cases hvisit
  | case5 seen p rest hseen hentry further hrefs later hlater ih =>
    cases hvisit
    have hnew : p.text ∉ seen := by simpa using hseen
    have hrefs' := h.references (hread p List.mem_cons_self) hrefs
    have hlater' := ih hlater fun q hq => hread q (List.mem_cons_of_mem p hq)
    rw [Classpath.visit_cons_ok hnew (h.hasEntry hentry) hrefs', hlater']
    rfl
  | case6 => cases hvisit

/-- The crawl gives the same result again. -/
theorem run {input : Path} {classpath : List Path} {crawl : CrawlResult}
    (hrun : Crawl.run t input classpath = .ok crawl)
    (hnew : ∀ p, Met t input classpath p → StaysOut t t' p) :
    Crawl.run t' input classpath = .ok crawl := by
  obtain ⟨own, named, expanded, others, hown, hnamed, hexpanded, hothers, hcrawl⟩ :=
    run_eq_ok_iff.1 hrun
  have hnamed' : ownClassPath t' input = .ok named := by
    unfold ownClassPath at hnamed ⊢
    split at hnamed
    · rename_i hjar
      obtain ⟨content, hlookup⟩ := file_of_named hnamed
      rw [if_pos hjar]
      exact h.named_eq_ok (isRead_of_path hown hlookup) hnamed
    · rename_i hjar
      rw [if_neg hjar]
      exact hnamed
  -- an entry is read, or stands where the input does, which is read
  have hread : ∀ p ∈ expanded, ∀ content, t.lookup p = .ok (.file content) → isRead p = true := by
    intro p hp content hlookup
    cases hsame : p.samePlace input with
    | true => exact isRead_of_samePlace hown hsame hlookup
    | false =>
      obtain ⟨haul, hpath⟩ := gather_mem hothers (List.mem_filter.2 ⟨hp, by simp [hsame]⟩)
      exact isRead_of_path hpath hlookup
  have hexpanded' := h.visit hexpanded hread
  have hothers' := gather_imp hothers fun p hp haul => h.path (hnew p (.inr ⟨named, hnamed,
    (Classpath.mem_expand_iff hexpanded).1 (List.mem_filter.1 hp).1⟩))
  exact run_eq_ok_iff.2 ⟨own, named, expanded, others, h.path (hnew input (.inl rfl)) hown,
    hnamed', hexpanded', hothers', hcrawl⟩

end Aside

end BytecodeLint.Crawl
