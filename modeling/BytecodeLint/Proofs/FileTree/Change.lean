import BytecodeLint.Proofs.FileTree.Listing
import BytecodeLint.Proofs.FileTree.Roads

/-!
# What changes in a file tree

Files are written and removed at some paths, and directories are made at others. `Reworked` says
that nothing else changes between two trees: all directories stay, outside the places where files
are written every entry stays as it is, and what is new there are directories where nothing stood.

* `Reworked.write`, `Reworked.removeFile`, `createDirectories_spec`: the single steps.
* `Reworked.get?_changed`: what has changed at a location, if anything has.
* `Extends.writeLocation`, `createDirectories_of_isDirectory`: what succeeded once succeeds again.
-/

namespace BytecodeLint.FileTree

/-! ## Directories stay -/

namespace Extends

theorem refl (t : FileTree) : t.Extends t := ⟨rfl, fun _ h => h⟩

section
variable {t t' t'' : FileTree}

theorem trans (h : t'.Extends t) (h' : t''.Extends t') : t''.Extends t :=
  ⟨h'.workingDirectory.trans h.workingDirectory, fun loc hloc =>
    h'.directory loc (h.directory loc hloc)⟩

theorem start (h : t'.Extends t) (p : Path) : t'.start p = t.start p := by
  rw [FileTree.start, FileTree.start, h.workingDirectory]

theorem needDirectory (h : t'.Extends t) {loc : Location} (hd : t.needDirectory loc = .ok ()) :
    t'.needDirectory loc = .ok () :=
  needDirectory_eq_ok_iff.2 (h.directory loc (needDirectory_eq_ok_iff.1 hd))

theorem target (h : t'.Extends t) {p : Path} {target : Target} (ht : t.target p = .ok target) :
    t'.target p = .ok target := by
  obtain ⟨⟨⟩, hcheck, ht⟩ := bind_eq_ok ht
  unfold FileTree.target
  rw [hcheck]
  dsimp only at ht
  split at ht
  · rename_i hrev
    simpa [bind, Except.bind, hrev] using ht
  · rename_i last before hrev
    obtain ⟨parent, hparent, ht⟩ := bind_eq_ok ht
    obtain ⟨⟨⟩, hdirectory, ht⟩ := bind_eq_ok ht
    rw [← h.start] at hparent
    simpa [bind, Except.bind, hrev, h.followAll hparent, h.needDirectory hdirectory] using ht

/-- A file can be written where it could be written before, unless a directory stands there now. -/
theorem writeLocation (h : t'.Extends t) {p : Path} {loc : Location}
    (hw : t.writeLocation p = .ok loc) (hfile : t'.get? loc ≠ some .directory) :
    t'.writeLocation p = .ok loc := by
  obtain ⟨target, htarget, hw⟩ := bind_eq_ok hw
  have hholds : t'.holdsDirectory loc = false := by
    unfold holdsDirectory
    split
    · contradiction
    · rfl
  unfold FileTree.writeLocation
  rw [h.target htarget]
  split at hw
  · cases hw
  · rename_i name hname
    split at hw
    · cases hw
    · rename_i hslash
      obtain ⟨loc', hloc, hw⟩ := bind_eq_ok hw
      split at hw
      · cases hw
      · cases hw
        simp [bind, Except.bind, hname, hslash, hloc, hholds]

theorem isDirectory (h : t'.Extends t) {p : Path} (hp : t.isDirectory p = true) :
    t'.isDirectory p = true := by
  obtain ⟨loc, hloc, hdir⟩ := isDirectory_eq_true_iff.1 hp
  exact isDirectory_eq_true_iff.2 ⟨loc, h.locate hloc, h.directory loc hdir⟩

end

end Extends

/-! ## Entries put and erased -/

theorem mem_put {t : FileTree} {loc other : Location} {new e : Entry} :
    (other, e) ∈ (t.put loc new).entries ↔
      other = loc ∧ e = new ∨ other ≠ loc ∧ (other, e) ∈ t.entries := by
  simp [put, others, and_comm]

theorem mem_eraseAt {t : FileTree} {loc other : Location} {e : Entry} :
    (other, e) ∈ (t.eraseAt loc).entries ↔ other ≠ loc ∧ (other, e) ∈ t.entries := by
  simp [eraseAt, keep, and_comm]

theorem write_of_writeLocation {t : FileTree} {p : Path} {loc : Location}
    (h : t.writeLocation p = .ok loc) (content : ByteArray) :
    t.write p content = .ok (t.put loc (.file content)) :=
  write_eq_ok_iff.2 ⟨loc, h, rfl⟩

/-- A file that is written does not take the place of a directory. -/
theorem extends_put {t : FileTree} {p : Path} {loc : Location} (h : t.writeLocation p = .ok loc)
    (content : ByteArray) : (t.put loc (.file content)).Extends t := by
  obtain ⟨hnames, hfile⟩ := writeLocation_eq_ok h
  refine extends_of_elsewhere rfl (fun other hne => ?_) hfile
  rw [t.get?_put loc (.file content) other hnames.ne_root, if_neg hne]

/-- No directory comes up where something is removed. -/
theorem extends_of_eraseAt (t : FileTree) {loc : Location} (hroot : loc ≠ []) :
    t.Extends (t.eraseAt loc) := by
  have hget (other : Location) := t.get?_eraseAt hroot other
  have hsame (other : Location) (hne : other ≠ loc) :
      t.get? other = (t.eraseAt loc).get? other := by rw [hget, if_neg hne]
  exact extends_of_elsewhere rfl hsame (by simp [hget])

/-- Removing an entry and putting it back changes nothing. -/
theorem get?_put_eraseAt {t : FileTree} {loc : Location} (hroot : loc ≠ []) {e : Entry}
    (h : t.get? loc = some e) (other : Location) :
    ((t.eraseAt loc).put loc e).get? other = t.get? other := by
  rw [get?_put _ _ _ _ hroot, t.get?_eraseAt hroot]
  split
  · rename_i heq
    rw [heq, h]
  · rfl

/-- A file can be removed from where it can be written. -/
theorem removeFile_of_writeLocation {t : FileTree} {p : Path} {loc : Location}
    (h : t.writeLocation p = .ok loc) {content : ByteArray}
    (hfile : t.get? loc = some (.file content)) : t.removeFile p = .ok (t.eraseAt loc) := by
  obtain ⟨target, htarget, h⟩ := bind_eq_ok h
  split at h
  · cases h
  · rename_i name hname
    split at h
    · cases h
    · rename_i hslash
      obtain ⟨loc', hloc, h⟩ := bind_eq_ok h
      split at h
      · cases h
      · cases h
        simp [removeFile, htarget, bind, Except.bind, hname, hloc, hfile, hslash]

/-- A path at which a file can be written ends with a name. -/
theorem parts_of_writeLocation {t : FileTree} {p : Path} {loc : Location}
    (h : t.writeLocation p = .ok loc) :
    ∃ above name, p.parts = above ++ [name] ∧ name ∉ ["", ".", ".."] := by
  obtain ⟨target, htarget, h⟩ := bind_eq_ok h
  split at h
  · cases h
  · rename_i name hname
    split at h
    · cases h
    · rename_i hslash
      obtain ⟨above, -, hparts, -, -, hplain⟩ :=
        target_eq_ok htarget hname (by simpa using hslash)
      exact ⟨above, name, hparts, hplain⟩

/-- A file that is written elsewhere is not seen at a path. -/
theorem lookup_write_other {t t' : FileTree} {p q : Path} {content : ByteArray}
    (h : t.write p content = .ok t') {loc : Location} (hq : t.locate q = .ok loc)
    (hne : t'.locate p ≠ t'.locate q) : t'.lookup q = t.lookup q := by
  obtain ⟨there, hthere, rfl⟩ := write_eq_ok_iff.1 h
  have hnames := (writeLocation_eq_ok hthere).1
  have hextends := extends_put hthere content
  have hloc : loc ≠ there := by
    rintro rfl
    exact hne ((hextends.locate hnames.locate).trans (hextends.locate hq).symm)
  simp only [lookup, hextends.locate hq, hq, t.get?_put there (.file content) loc hnames.ne_root,
    if_neg hloc]

/-! ## Making a directory -/

theorem followAll_idle {t : FileTree} {loc : Location} (h : t.get? loc = some .directory)
    (n : Nat) : t.followAll loc (List.replicate n "") = .ok loc := by
  induction n with
  | zero => rfl
  | succ n ih => simp [List.replicate_succ, followAll, follow, needDirectory_eq_ok_iff.2 h, ih]

/-- A target that is a name is the last part of the path but for slashes behind it. -/
theorem target_parts {t : FileTree} {p : Path} {target : Target} {name : String}
    (h : t.target p = .ok target) (hname : target.name = some name) :
    ∃ before n, checkText p = .ok () ∧ p.parts = before ++ name :: List.replicate n "" ∧
      t.followAll (t.start p) before = .ok target.parent ∧
      t.needDirectory target.parent = .ok () ∧ name ∉ ["", ".", ".."] := by
  obtain ⟨⟨⟩, hcheck, h⟩ := bind_eq_ok h
  dsimp only at h
  split at h
  · cases h
    cases hname
  · rename_i last before hrev
    obtain ⟨parent, hparent, h⟩ := bind_eq_ok h
    obtain ⟨⟨⟩, hdirectory, h⟩ := bind_eq_ok h
    split at h
    · cases h
      cases hname
    · rename_i hdots
      cases h
      obtain rfl : last = name := Option.some.inj hname
      have hall := List.takeWhile_append_dropWhile (p := fun part => part == "")
        (l := p.parts.reverse)
      have hslashes : (p.parts.reverse.takeWhile fun part => part == "") =
          List.replicate (p.parts.reverse.takeWhile fun part => part == "").length "" := by
        refine List.eq_replicate_iff.2 ⟨rfl, fun part hpart => ?_⟩
        simpa using List.all_eq_true.1 List.all_takeWhile part hpart
      have hlast : last ≠ "" := by
        have hhead := List.head_dropWhile_not (fun part => part == "") (l := p.parts.reverse)
          (by simp [hrev])
        simpa [hrev] using hhead
      rw [hrev, hslashes] at hall
      have hparts := congrArg List.reverse hall
      rw [List.reverse_reverse, List.reverse_append, List.reverse_replicate, List.reverse_cons,
        List.append_assoc] at hparts
      exact ⟨before.reverse, _, hcheck, hparts.symm, hparent, hdirectory,
        by simpa [hlast] using hdots⟩

/-- A new directory stands where nothing stood, and the path leads there. -/
theorem makeDirectory_eq_ok {t t' : FileTree} {p : Path} (h : t.makeDirectory p = .ok t') :
    ∃ loc, t'.Names p loc ∧ t.get? loc = none ∧ t' = t.put loc .directory ∧ t'.Extends t := by
  obtain ⟨target, htarget, h⟩ := bind_eq_ok h
  split at h
  · cases h
  · rename_i name hname
    obtain ⟨loc, hloc, h⟩ := bind_eq_ok h
    split at h
    · cases h
    · rename_i hnone
      cases h
      rw [Option.not_isSome_iff_eq_none] at hnone
      obtain ⟨before, n, hcheck, hparts, hparent, hdirectory, hplain⟩ := target_parts htarget hname
      unfold Target.location at hloc
      split at hloc
      · cases hloc
      · rename_i hlimit
        cases hloc
        simp only [List.mem_cons, List.not_mem_nil, or_false, not_or] at hplain
        have hroot : target.parent ++ [name] ≠ [] := by simp
        have hget (other : Location) := t.get?_put _ .directory other hroot
        have hextends : (t.put (target.parent ++ [name]) .directory).Extends t :=
          extends_of_elsewhere rfl (fun other hne => by rw [hget, if_neg hne]) (by simp [hnone])
        refine ⟨_, ⟨?_, hroot⟩, hnone, rfl, hextends⟩
        rw [← hextends.start] at hparent
        have hthere := hextends.needDirectory hdirectory
        have hfollow : (t.put (target.parent ++ [name]) .directory).follow target.parent name =
            .ok (target.parent ++ [name]) := by
          simp [follow, hthere, hplain, hlimit]
        simp only [locate, hcheck, hparts, followAll_append, hextends.followAll hparent, followAll,
          hfollow]
        exact followAll_idle (by rw [hget, if_pos rfl]) n

/-- A directory that exists is not made again. -/
theorem ensureDirectory_of_isDirectory {t : FileTree} {p : Path} (h : t.isDirectory p = true) :
    t.ensureDirectory p = .ok t := by
  unfold ensureDirectory
  cases hmake : t.makeDirectory p with
  | error fault => simp [h]
  | ok t' =>
    obtain ⟨loc, hnames, hnone, -, hextends⟩ := makeDirectory_eq_ok hmake
    obtain ⟨loc', hloc, hdir⟩ := isDirectory_eq_true_iff.1 h
    cases (hextends.locate hloc).symm.trans hnames.locate
    rw [hnone] at hdir
    cases hdir

theorem createDirectories_of_isDirectory {t : FileTree} {p : Path} (h : t.isDirectory p = true) :
    t.createDirectories p = (.ok (), t) := by
  rw [createDirectories, ensureDirectory_of_isDirectory h]
  split <;> rfl

/-! ## Changes -/

/-- One of the paths leads to the location. -/
def Leads (t : FileTree) (paths : Path → Prop) (loc : Location) : Prop :=
  ∃ p, paths p ∧ t.locate p = .ok loc

theorem Leads.extend {t t' : FileTree} {paths : Path → Prop} {loc : Location}
    (h : t.Leads paths loc) (hext : t'.Extends t) : t'.Leads paths loc := by
  obtain ⟨p, hp, hloc⟩ := h
  exact ⟨p, hp, hext.locate hloc⟩

/-- Between the trees, files are written or removed at most where `files` lead, and directories made
at most where `rooms` lead. -/
structure Reworked (files rooms : Path → Prop) (t t' : FileTree) : Prop where
  kept : t'.Extends t
  stays : ∀ loc e, (loc, e) ∈ t.entries → ¬ t'.Leads files loc → (loc, e) ∈ t'.entries
  arises : ∀ loc e, (loc, e) ∈ t'.entries → ¬ t'.Leads files loc →
    (loc, e) ∈ t.entries ∨ e = .directory ∧ t.get? loc = none ∧ t'.Leads rooms loc

namespace Reworked

variable {files rooms : Path → Prop} {t t' t'' : FileTree}

theorem refl (t : FileTree) : Reworked files rooms t t :=
  ⟨.refl t, fun _ _ h _ => h, fun _ _ h _ => .inl h⟩

/-- Nothing new stands where something stood. -/
theorem get?_eq_none (h : Reworked files rooms t t') {loc : Location} (hfile : ¬ t'.Leads files loc)
    (hnone : t'.get? loc = none) : t.get? loc = none := by
  by_cases hroot : loc = []
  · simp [FileTree.get?, hroot] at hnone
  · rw [Option.eq_none_iff_forall_ne_some]
    intro e he
    have hmem := h.stays loc e ((get?_eq_some_iff hroot).1 he) hfile
    rw [(get?_eq_some_iff hroot).2 hmem] at hnone
    cases hnone

theorem trans (h : Reworked files rooms t t') (h' : Reworked files rooms t' t'') :
    Reworked files rooms t t'' where
  kept := h.kept.trans h'.kept
  stays loc e hmem hfile :=
    h'.stays loc e (h.stays loc e hmem fun hleads => hfile (hleads.extend h'.kept)) hfile
  arises loc e hmem hfile := by
    have hbefore : ¬ t'.Leads files loc := fun hleads => hfile (hleads.extend h'.kept)
    rcases h'.arises loc e hmem hfile with hold | ⟨rfl, hnone, hroom⟩
    · rcases h.arises loc e hold hbefore with hold | ⟨rfl, hnone, hroom⟩
      · exact .inl hold
      · exact .inr ⟨rfl, hnone, hroom.extend h'.kept⟩
    · exact .inr ⟨rfl, h.get?_eq_none hbefore hnone, hroom⟩

theorem write {p : Path} {content : ByteArray} (h : t.write p content = .ok t') (hp : files p) :
    Reworked files rooms t t' := by
  obtain ⟨loc, hloc, rfl⟩ := write_eq_ok_iff.1 h
  have hextends := extends_put hloc content
  have hleads : (t.put loc (.file content)).Leads files loc :=
    ⟨p, hp, hextends.locate (writeLocation_eq_ok hloc).1.locate⟩
  refine ⟨hextends, fun other e hmem hother => ?_, fun other e hmem hother => ?_⟩
  · exact mem_put.2 (.inr ⟨fun heq => hother (heq ▸ hleads), hmem⟩)
  · rcases mem_put.1 hmem with ⟨rfl, -⟩ | ⟨-, hold⟩
    · exact absurd hleads hother
    · exact .inl hold

theorem removeFile {p : Path} (h : t.removeFile p = .ok t') (hp : files p) :
    Reworked files rooms t t' := by
  obtain ⟨loc, content, hnames, hfile, rfl⟩ := removeFile_eq_ok h
  have hget (other : Location) := t.get?_eraseAt hnames.ne_root other
  have hextends : (t.eraseAt loc).Extends t :=
    extends_of_elsewhere rfl (fun other hne => by rw [hget, if_neg hne]) (by simp [hfile])
  have hleads : (t.eraseAt loc).Leads files loc := ⟨p, hp, hextends.locate hnames.locate⟩
  refine ⟨hextends, fun other e hmem hother => ?_, fun other e hmem hother => ?_⟩
  · exact mem_eraseAt.2 ⟨fun heq => hother (heq ▸ hleads), hmem⟩
  · exact .inl (mem_eraseAt.1 hmem).2

theorem makeDirectory {p : Path} (h : t.makeDirectory p = .ok t') (hp : rooms p) :
    Reworked files rooms t t' := by
  obtain ⟨loc, hnames, hnone, rfl, hextends⟩ := makeDirectory_eq_ok h
  refine ⟨hextends, fun other e hmem _ => ?_, fun other e hmem _ => ?_⟩
  · refine mem_put.2 (.inr ⟨?_, hmem⟩)
    rintro rfl
    rw [(get?_eq_some_iff hnames.ne_root).2 hmem] at hnone
    cases hnone
  · rcases mem_put.1 hmem with ⟨rfl, rfl⟩ | ⟨-, hold⟩
    · exact .inr ⟨rfl, hnone, p, hp, hnames.locate⟩
    · exact .inl hold

end Reworked

theorem ensureDirectory_spec {t t' : FileTree} {files rooms : Path → Prop} {p : Path}
    (h : t.ensureDirectory p = .ok t') (hp : rooms p) :
    Reworked files rooms t t' ∧ t'.isDirectory p = true := by
  unfold ensureDirectory at h
  split at h
  · rename_i made hmake
    cases h
    refine ⟨.makeDirectory hmake hp, ?_⟩
    obtain ⟨loc, hnames, -, rfl, -⟩ := makeDirectory_eq_ok hmake
    have hget := t.get?_put loc .directory loc hnames.ne_root
    exact isDirectory_eq_true_iff.2 ⟨loc, hnames.locate, by rw [hget, if_pos rfl]⟩
  · split at h
    · rename_i hdir
      cases h
      exact ⟨.refl t, hdir⟩
    · cases h

/-- Directories are made at the path and above it only, and when all goes well one stands there. -/
theorem createDirectories_spec {files rooms : Path → Prop}
    (hrooms : ∀ p q, rooms p → p.parent? = some q → rooms q) (t : FileTree) (p : Path)
    (hp : rooms p) :
    Reworked files rooms t (t.createDirectories p).2 ∧
      ((t.createDirectories p).1 = .ok () → p.text ≠ "" →
        (t.createDirectories p).2.isDirectory p = true) := by
  fun_induction createDirectories t p with
  | case1 p hempty => exact ⟨.refl t, fun _ hne => absurd hempty hne⟩
  | case2 p _ t' hensure =>
    obtain ⟨hwork, hdir⟩ := ensureDirectory_spec hensure hp
    exact ⟨hwork, fun _ _ => hdir⟩
  | case3 p => exact ⟨.refl t, fun h => by cases h⟩
  | case4 p _ _ parent hparent fault t' heq ih =>
    rw [heq] at ih
    exact ⟨(ih (hrooms p parent hp hparent)).1, fun h => by cases h⟩
  | case5 p _ _ parent hparent t₁ heq t' hensure ih =>
    rw [heq] at ih
    obtain ⟨hwork, hdir⟩ := ensureDirectory_spec hensure hp
    exact ⟨(ih (hrooms p parent hp hparent)).1.trans hwork, fun _ _ => hdir⟩
  | case6 p _ _ parent hparent t₁ heq fault hensure ih =>
    rw [heq] at ih
    exact ⟨(ih (hrooms p parent hp hparent)).1, fun h => by cases h⟩
  | case7 p => exact ⟨.refl t, fun h => by cases h⟩

/-! ## What is seen of a change -/

namespace Reworked

variable {files rooms : Path → Prop} {t t' : FileTree} (h : Reworked files rooms t t')
include h

theorem get?_eq {loc : Location} {e : Entry} (hfile : ¬ t'.Leads files loc)
    (he : t.get? loc = some e) : t'.get? loc = some e := by
  by_cases hroot : loc = []
  · simpa [FileTree.get?, hroot] using he
  · rw [get?_eq_some_iff hroot] at he ⊢
    exact h.stays loc e he hfile

/-- What stands at a location stood there before, or it is a directory that was made. -/
theorem get?_arises {loc : Location} {e : Entry} (hfile : ¬ t'.Leads files loc)
    (he : t'.get? loc = some e) :
    t.get? loc = some e ∨ e = .directory ∧ t.get? loc = none ∧ t'.Leads rooms loc := by
  by_cases hroot : loc = []
  · exact .inl (by simpa [FileTree.get?, hroot] using he)
  · rw [get?_eq_some_iff hroot] at he ⊢
    exact h.arises loc e he hfile

/-- Where something has changed, no directory stood, and either a file was meant to be written or a
directory was made. -/
theorem get?_changed {loc : Location} (hne : t'.get? loc ≠ t.get? loc) :
    t.get? loc ≠ some .directory ∧ t'.Leads files loc ∨
      t.get? loc = none ∧ t'.get? loc = some .directory ∧ t'.Leads rooms loc := by
  by_cases hfile : t'.Leads files loc
  · exact .inl ⟨fun hdir => hne ((h.kept.directory loc hdir).trans hdir.symm), hfile⟩
  · right
    cases hget : t'.get? loc with
    | none => exact absurd (hget.trans (h.get?_eq_none hfile hget).symm) hne
    | some e =>
      rcases h.get?_arises hfile hget with hold | ⟨rfl, hnone, hroom⟩
      · exact absurd (hget.trans hold.symm) hne
      · exact ⟨hnone, rfl, hroom⟩

end Reworked

end BytecodeLint.FileTree
