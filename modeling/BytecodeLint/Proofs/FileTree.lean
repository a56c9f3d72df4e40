import BytecodeLint.FileTree
import BytecodeLint.Proofs.Except

/-!
# Reading back what was written

Writing and removing a file change what stands at one location, and no directory stands there
before or after. Paths are resolved through directories only, so afterwards a path that led to some
location leads there still.

* `FileTree.writeLocation_eq_ok` and `FileTree.removeFile_eq_ok` say which location changes.
* `FileTree.readText_write` and `FileTree.hasEntry_removeFile` say what a path finds afterwards.
-/

namespace BytecodeLint.FileTree

/-! ## Paths and directories -/

/-- A second tree with the same working directory and every directory of the first. -/
structure Extends (t' t : FileTree) : Prop where
  workingDirectory : t'.workingDirectory = t.workingDirectory
  directory : ∀ loc, t.get? loc = some .directory → t'.get? loc = some .directory

theorem needDirectory_eq_ok_iff {t : FileTree} {loc : Location} :
    t.needDirectory loc = .ok () ↔ t.get? loc = some .directory := by
  unfold needDirectory
  split <;> simp_all

theorem lookup_eq_ok_iff {t : FileTree} {p : Path} {e : Entry} :
    t.lookup p = .ok e ↔ ∃ loc, t.locate p = .ok loc ∧ t.get? loc = some e := by
  unfold lookup
  cases t.locate p with
  | error fault => simp
  | ok loc => cases hget : t.get? loc <;> simp [hget]

theorem hasEntry_eq_true_iff {t : FileTree} {p : Path} :
    t.hasEntry p = true ↔ ∃ e, t.lookup p = .ok e := by
  unfold hasEntry
  cases t.lookup p <;> simp

theorem isDirectory_eq_true_iff {t : FileTree} {p : Path} :
    t.isDirectory p = true ↔ ∃ loc, t.locate p = .ok loc ∧ t.get? loc = some .directory := by
  rw [← lookup_eq_ok_iff, isDirectory]
  split <;> simp_all

theorem isFile_eq_true_iff {t : FileTree} {p : Path} :
    t.isFile p = true ↔
      ∃ loc content, t.locate p = .ok loc ∧ t.get? loc = some (.file content) := by
  rw [exists_comm]
  simp only [← lookup_eq_ok_iff]
  rw [isFile]
  split <;> simp_all

theorem Extends.follow {t t' : FileTree} (h : t'.Extends t) {loc next : Location} {part : String}
    (hf : t.follow loc part = .ok next) : t'.follow loc part = .ok next := by
  unfold FileTree.follow at hf ⊢
  rcases hn : t.needDirectory loc with fault | ⟨⟩
  · simp [hn] at hf
  · have hn' := needDirectory_eq_ok_iff.2 (h.directory loc (needDirectory_eq_ok_iff.1 hn))
    simpa [hn, hn'] using hf

theorem Extends.followAll {t t' : FileTree} (h : t'.Extends t) {loc last : Location}
    {parts : List String} (hf : t.followAll loc parts = .ok last) :
    t'.followAll loc parts = .ok last := by
  induction parts generalizing loc with
  | nil => exact hf
  | cons part rest ih =>
    unfold FileTree.followAll at hf ⊢
    rcases hn : t.follow loc part with fault | next
    · simp [hn] at hf
    · rw [h.follow hn]
      exact ih (by simpa [hn] using hf)

theorem Extends.locate {t t' : FileTree} (h : t'.Extends t) {p : Path} {loc : Location}
    (hl : t.locate p = .ok loc) : t'.locate p = .ok loc := by
  unfold FileTree.locate at hl ⊢
  rcases hc : checkText p with fault | ⟨⟩
  · simp [hc] at hl
  · have hstart : t'.start p = t.start p := by simp [start, h.workingDirectory]
    simp only [hc, hstart] at hl ⊢
    exact h.followAll hl

theorem followAll_append (t : FileTree) (loc : Location) (parts more : List String) :
    t.followAll loc (parts ++ more) =
      match t.followAll loc parts with
      | .error fault => .error fault
      | .ok next => t.followAll next more := by
  induction parts generalizing loc with
  | nil => rfl
  | cons part rest ih =>
    rw [List.cons_append, FileTree.followAll, FileTree.followAll]
    rcases t.follow loc part with fault | next
    · rfl
    · exact ih next

/-! ## Targets -/

/-- The location at which `p` names a file: `p` leads there, and it is not the root. -/
structure Names (t : FileTree) (p : Path) (loc : Location) : Prop where
  locate : t.locate p = .ok loc
  ne_root : loc ≠ []

theorem parts_eq_of_no_slash {parts before : List String} {last : String}
    (hslash : (parts.getLast? == some "") = false)
    (hrev : (parts.reverse.dropWhile fun part => part == "") = last :: before) :
    parts = before.reverse ++ [last] := by
  have hdrop : (parts.reverse.dropWhile fun part => part == "") = parts.reverse := by
    rcases hp : parts.reverse with _ | ⟨part, rest⟩
    · rfl
    · have hlast : parts.getLast? = some part := by rw [← List.head?_reverse, hp]; rfl
      have hne : (part == "") = false := by simpa [hlast] using hslash
      simp [hne]
  rw [hdrop] at hrev
  rw [← List.reverse_reverse parts, hrev, List.reverse_cons]

/-- A target that is a name without a slash behind it is the last part of the path, in the directory
to which the parts before lead. -/
theorem target_eq_ok {t : FileTree} {p : Path} {target : Target} {name : String}
    (h : t.target p = .ok target) (hname : target.name = some name)
    (hslash : target.hasSlash = false) :
    ∃ before, checkText p = .ok () ∧ p.parts = before ++ [name] ∧
      t.followAll (t.start p) before = .ok target.parent ∧
      t.needDirectory target.parent = .ok () ∧ name ∉ ["", ".", ".."] := by
  obtain ⟨⟨⟩, hcheck, h⟩ := bind_eq_ok h
  dsimp only at h
  split at h
  · cases h
    cases hname
  · rename_i last before hrev
    obtain ⟨parent, hparent, h⟩ := bind_eq_ok h
    obtain ⟨⟨⟩, hdirectory, h⟩ := bind_eq_ok h
    split at h
    · cases h
      cases hname
    · rename_i hdots
      cases h
      obtain rfl : last = name := Option.some.inj hname
      have hparts := parts_eq_of_no_slash hslash hrev
      have hlast : last ≠ "" := by simpa [hparts] using hslash
      exact ⟨before.reverse, hcheck, hparts, hparent, hdirectory, by simpa [hlast] using hdots⟩

/-- A path without a slash at its end leads to the location of its target. -/
theorem names_of_target {t : FileTree} {p : Path} {target : Target} {name : String}
    {loc : Location} (htarget : t.target p = .ok target) (hname : target.name = some name)
    (hslash : target.hasSlash = false) (hloc : target.location name = .ok loc) :
    t.Names p loc := by
  obtain ⟨before, hcheck, hparts, hparent, hdirectory, hplain⟩ :=
    target_eq_ok htarget hname hslash
  unfold Target.location at hloc
  split at hloc
  · cases hloc
  · rename_i hlimit
    cases hloc
    simp only [List.mem_cons, List.not_mem_nil, or_false, not_or] at hplain
    have hfollow : t.follow target.parent name = .ok (target.parent ++ [name]) := by
      simp [follow, hdirectory, hplain, hlimit]
    refine ⟨?_, by simp⟩
    simp only [locate, hcheck, hparts, followAll_append, hparent, followAll, hfollow]

/-! ## Files written and removed -/

/-- The location at which a file would be written. -/
def writeLocation (t : FileTree) (p : Path) : Except IoFault Location := do
  let target ← t.target p
  match target.name with
  | none => .error .isADirectory
  | some name =>
    if target.hasSlash then .error .isADirectory
    else do
      let loc ← target.location name
      if t.holdsDirectory loc then .error .isADirectory else .ok loc

/-- Where a file is written, and whether it can be, does not depend on its content. -/
theorem write_eq (t : FileTree) (p : Path) (content : ByteArray) :
    t.write p content = (t.writeLocation p).map fun loc => t.put loc (.file content) := by
  unfold write writeLocation
  rcases htarget : t.target p with fault | ⟨parent, _ | name, _ | _⟩
  case ok.some.false =>
    rcases hloc : Target.location ⟨parent, some name, false⟩ name with fault | loc
    · simp [hloc, bind, Except.bind, Except.map]
    · cases hdir : t.holdsDirectory loc <;> simp [hloc, hdir, bind, Except.bind, Except.map]
  all_goals rfl

/-- A file is written at the location its path names, where no directory stands. -/
theorem writeLocation_eq_ok {t : FileTree} {p : Path} {loc : Location}
    (h : t.writeLocation p = .ok loc) : t.Names p loc ∧ t.get? loc ≠ some .directory := by
  obtain ⟨target, htarget, h⟩ := bind_eq_ok h
  split at h
  · cases h
  · rename_i name hname
    split at h
    · cases h
    · rename_i hslash
      obtain ⟨loc', hloc, h⟩ := bind_eq_ok h
      split at h
      · cases h
      · rename_i hfile
        cases h
        refine ⟨names_of_target htarget hname (by simpa using hslash) hloc, fun hget => ?_⟩
        simp [holdsDirectory, hget] at hfile

theorem write_eq_ok_iff {t t' : FileTree} {p : Path} {content : ByteArray} :
    t.write p content = .ok t' ↔
      ∃ loc, t.writeLocation p = .ok loc ∧ t' = t.put loc (.file content) := by
  rw [write_eq]
  rcases t.writeLocation p with fault | loc <;> simp [Except.map, eq_comm]

/-- A file is removed from the location its path names. -/
theorem removeFile_eq_ok {t t' : FileTree} {p : Path} (h : t.removeFile p = .ok t') :
    ∃ loc content, t.Names p loc ∧ t.get? loc = some (.file content) ∧ t' = t.eraseAt loc := by
  obtain ⟨target, htarget, h⟩ := bind_eq_ok h
  split at h
  · cases h
  · rename_i name hname
    obtain ⟨loc, hloc, h⟩ := bind_eq_ok h
    split at h
    · cases h
    · cases h
    · rename_i content hget
      split at h
      · cases h
      · rename_i hslash
        cases h
        exact ⟨loc, content, names_of_target htarget hname (by simpa using hslash) hloc, hget, rfl⟩

theorem get?_eraseAt (t : FileTree) {loc : Location} (hroot : loc ≠ []) (other : Location) :
    (t.eraseAt loc).get? other = if other = loc then none else t.get? other := by
  unfold get? eraseAt keep
  by_cases h : other = loc
  · subst h
    simp [hroot]
  · simp only [if_neg h, find?_filter_ne h]

/-- A change at one location where no directory stands keeps all directories. -/
theorem extends_of_elsewhere {t t' : FileTree} {loc : Location}
    (hstart : t'.workingDirectory = t.workingDirectory)
    (hsame : ∀ other, other ≠ loc → t'.get? other = t.get? other)
    (hfile : t.get? loc ≠ some .directory) : t'.Extends t := by
  refine ⟨hstart, fun other hother => ?_⟩
  have hne : other ≠ loc := by
    rintro rfl
    exact hfile hother
  rw [hsame other hne, hother]

/-- Behind a successful write, the path finds the file with its new content. -/
theorem lookup_write {t t' : FileTree} {p : Path} {content : ByteArray}
    (h : t.write p content = .ok t') : t'.lookup p = .ok (.file content) := by
  obtain ⟨loc, hloc, rfl⟩ := write_eq_ok_iff.1 h
  obtain ⟨hnames, hfile⟩ := writeLocation_eq_ok hloc
  have hget (other : Location) := t.get?_put loc (.file content) other hnames.ne_root
  have hextends : (t.put loc (.file content)).Extends t :=
    extends_of_elsewhere rfl (fun other hne => by rw [hget, if_neg hne]) hfile
  simp [lookup, hextends.locate hnames.locate, hget]

theorem fromUTF8?_toUTF8 (text : String) : String.fromUTF8? text.toUTF8 = some text := by
  have hvalid : text.toUTF8.IsValidUTF8 := text.isValidUTF8
  simp only [String.fromUTF8?, hvalid, ↓reduceDIte]
  rfl

/-- **A text that was written is read back.** -/
theorem readText_write {t t' : FileTree} {p : Path} {text : String}
    (h : t.write p text.toUTF8 = .ok t') : t'.hasEntry p = true ∧ t'.readText p = .ok text := by
  have hlookup := lookup_write h
  constructor
  · simp [hasEntry, hlookup]
  · simp only [readText, read, hlookup, fromUTF8?_toUTF8]

/-- **A file that was removed is gone.** -/
theorem hasEntry_removeFile {t t' : FileTree} {p : Path} (h : t.removeFile p = .ok t') :
    t'.hasEntry p = false := by
  obtain ⟨loc, content, hnames, hget, rfl⟩ := removeFile_eq_ok h
  have herased (other : Location) := t.get?_eraseAt hnames.ne_root other
  have hextends : (t.eraseAt loc).Extends t :=
    extends_of_elsewhere rfl (fun other hne => by rw [herased, if_neg hne]) (by simp [hget])
  simp [hasEntry, lookup, hextends.locate hnames.locate, herased]

end BytecodeLint.FileTree
