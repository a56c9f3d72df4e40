import BytecodeLint.Proofs.FileTree
import BytecodeLint.Proofs.Path

/-!
# Where paths lead

A path is resolved part by part, and any part may fail. But a path that leads somewhere leads to the
place that its components tell, whatever the tree holds.

* `locate_congr`: paths with the same components lead to the same place.
* `extension?_of_locate`: two names of one file have the same extension.
* `locate_of_passes`: a path that passes through no new directory led there before.
* `locate_join`: a name in a directory is found where it stands, and nowhere else.
-/

namespace BytecodeLint

/-- Where a component leads from a directory. -/
def Path.Component.move (loc : Location) : Component → Location
  | .root => loc
  | .current => loc
  | .parent => loc.dropLast
  | .name text => loc ++ [text]

theorem Path.isAbsolute_eq (p : Path) :
    p.isAbsolute = (p.components.head? == some Component.root) := by
  rw [components_eq, front]
  cases p.isAbsolute with
  | true => rfl
  | false =>
    cases startsWithCurrent p.text.toList with
    | true => rfl
    | false =>
      cases meaningful p.text.toList with
      | nil => rfl
      | cons part later =>
        simp only [Bool.false_eq_true, ↓reduceIte, List.nil_append, List.map_cons, List.head?_cons,
          meaning]
        split <;> simp

namespace FileTree

open BytecodeLint.Path (component? Component)

/-! ## Texts that are paths -/

/-- The operating system takes the text of the path. -/
def IsShort (p : Path) : Prop := p.text.utf8ByteSize ≤ pathLimit

theorem checkText_eq_ok_iff {p : Path} :
    checkText p = .ok () ↔ p.text ≠ "" ∧ Char.ofNat 0 ∉ p.text.toList ∧ IsShort p := by
  unfold checkText IsShort
  split
  · simp_all
  · split
    · simp_all
    · split
      · simp_all
      · simp_all

theorem checkText_of_locate {t : FileTree} {p : Path} {loc : Location} (h : t.locate p = .ok loc) :
    checkText p = .ok () := by
  unfold locate at h
  split at h
  · cases h
  · assumption

/-! ## The place that components tell -/

section
variable {t : FileTree}

theorem follow_eq_ok {loc next : Location} {part : String} (h : t.follow loc part = .ok next) :
    t.get? loc = some .directory ∧
      next = ((component? part).map (Component.move loc)).getD loc := by
  unfold follow at h
  split at h
  · cases h
  · rename_i hdir
    refine ⟨needDirectory_eq_ok_iff.1 hdir, ?_⟩
    split at h
    · rename_i hidle
      rcases hidle with rfl | rfl <;> cases h <;> rfl
    · rename_i hidle
      rw [not_or] at hidle
      split at h
      · rename_i hparent
        subst hparent
        cases h
        rfl
      · rename_i hparent
        split at h
        · cases h
        · cases h
          simp [component?, hidle, hparent, Component.move]

theorem followAll_eq_ok {loc last : Location} {parts : List String}
    (h : t.followAll loc parts = .ok last) :
    last = (parts.filterMap component?).foldl Component.move loc := by
  induction parts generalizing loc with
  | nil =>
    cases h
    rfl
  | cons part rest ih =>
    unfold followAll at h
    split at h
    · cases h
    · rename_i next hnext
      obtain ⟨-, rfl⟩ := follow_eq_ok hnext
      rw [ih h, List.filterMap_cons]
      cases component? part <;> rfl

theorem locate_followAll {p : Path} {loc : Location} (h : t.locate p = .ok loc) :
    t.followAll (t.start p) p.parts = .ok loc := by
  unfold locate at h
  split at h
  · cases h
  · exact h

theorem locate_eq_ok {p : Path} {loc : Location} (h : t.locate p = .ok loc) :
    loc = p.components.foldl Component.move (t.start p) := by
  have hfront : p.front.foldl Component.move (t.start p) = t.start p := by
    unfold Path.front
    split
    · rfl
    · split <;> rfl
  rw [followAll_eq_ok (locate_followAll h), Path.components_eq, List.foldl_append, hfront,
    Path.filterMap_component?_parts]

/-- Paths with the same components lead to the same place. -/
theorem locate_congr {p q : Path} (h : p.components = q.components) {loc loc' : Location}
    (hp : t.locate p = .ok loc) (hq : t.locate q = .ok loc') : loc = loc' := by
  have hstart : t.start p = t.start q := by
    simp only [start, Path.isAbsolute_eq, h]
  rw [locate_eq_ok hp, locate_eq_ok hq, h, hstart]

/-- A path with a file name leads to something of that name. -/
theorem getLast?_of_locate {p : Path} {loc : Location} (h : t.locate p = .ok loc)
    {name : List Char} (hname : p.fileName? = some name) :
    loc.getLast? = some (String.ofList name) := by
  rw [Path.fileName?_eq, Option.bind_eq_some_iff] at hname
  obtain ⟨last, hlast, hname⟩ := hname
  obtain ⟨above, habove⟩ := List.getLast?_eq_some_iff.1 hlast
  cases last with
  | name text =>
    cases hname
    rw [locate_eq_ok h, habove]
    simp [Component.move]
  | root => cases hname
  | current => cases hname
  | parent => cases hname

/-- Two paths to one place that both end with a name have the same extension. -/
theorem extension?_of_locate {p q : Path} {loc : Location} (hp : t.locate p = .ok loc)
    (hq : t.locate q = .ok loc) (hpname : p.fileName? ≠ none) (hqname : q.fileName? ≠ none) :
    p.extension? = q.extension? := by
  obtain ⟨name, hname⟩ := Option.ne_none_iff_exists'.1 hpname
  obtain ⟨name', hname'⟩ := Option.ne_none_iff_exists'.1 hqname
  have hsame : String.ofList name = String.ofList name' :=
    Option.some.inj ((getLast?_of_locate hp hname).symm.trans (getLast?_of_locate hq hname'))
  rw [Path.extension?, Path.extension?, hname, hname', String.ofList_injective hsame]

end

/-! ## The way to a place -/

/-- A front part of the path leads to the location. -/
def Passes (t : FileTree) (p : Path) (loc : Location) : Prop :=
  ∃ front behind, p.parts = front ++ behind ∧ t.followAll (t.start p) front = .ok loc

theorem follow_of_directory {t t' : FileTree} {loc next : Location} {part : String}
    (hdir : t.get? loc = some .directory) (h : t'.follow loc part = .ok next) :
    t.follow loc part = .ok next := by
  have hdir' := needDirectory_eq_ok_iff.2 (follow_eq_ok h).1
  simpa [follow, hdir', needDirectory_eq_ok_iff.2 hdir] using h

theorem followAll_of_passes {t t' : FileTree} {loc last : Location} {parts : List String}
    (hold : ∀ front behind here, parts = front ++ behind → t'.followAll loc front = .ok here →
      t'.get? here = some .directory → t.get? here = some .directory)
    (h : t'.followAll loc parts = .ok last) : t.followAll loc parts = .ok last := by
  induction parts generalizing loc with
  | nil => exact h
  | cons part rest ih =>
    unfold followAll at h ⊢
    split at h
    · cases h
    · rename_i next hnext
      have hdir := hold [] (part :: rest) loc rfl rfl (follow_eq_ok hnext).1
      rw [follow_of_directory hdir hnext]
      refine ih (fun front behind here hparts hhere => ?_) h
      refine hold (part :: front) behind here (by rw [hparts]; rfl) ?_
      simp [followAll, hnext, hhere]

/-- A path that passes through no new directory led before to where it leads now. -/
theorem locate_of_passes {t t' : FileTree} (hstart : t'.workingDirectory = t.workingDirectory)
    {p : Path} {loc : Location}
    (hold : ∀ here, t'.Passes p here → t'.get? here = some .directory →
      t.get? here = some .directory)
    (h : t'.locate p = .ok loc) : t.locate p = .ok loc := by
  unfold locate at h ⊢
  split at h
  · cases h
  · have hsame : t'.start p = t.start p := by simp [start, hstart]
    rw [← hsame]
    exact followAll_of_passes (fun front behind here hparts hhere =>
      hold here ⟨front, behind, hparts, hhere⟩) h

/-! ## Names in a directory -/

/-- The parts of the path of a name in a directory are those of the directory, without an empty one
at the end, and the name. -/
theorem parts_join {p : Path} {name : String} (hname : isName name = true) (hne : p.text ≠ "") :
    ∃ front, (p.join ⟨name⟩).parts = front ++ [name] ∧
      (p.parts = front ∨ p.parts = front ++ [""]) := by
  obtain ⟨-, hplain⟩ := isName_iff.1 hname
  have hpiece : Text.splitWhere (fun c => c == '/') name.toList = [name.toList] := by
    refine Text.splitWhere_of_none fun c hc => ?_
    simpa using fun heq : c = '/' => hplain (heq ▸ hc)
  have hempty : p.text.toList.isEmpty = false := by simpa using hne
  unfold Path.join
  rw [isAbsolute_of_isName hname, hempty]
  cases hslash : p.text.toList.getLast? == some '/' with
  | true =>
    obtain ⟨dir, hdir⟩ := List.getLast?_eq_some_iff.1 (by simpa using hslash)
    refine ⟨(Text.splitWhere (fun c => c == '/') dir).map String.ofList, ?_, .inr ?_⟩
    · simp [Path.parts, hdir, Text.splitWhere_append_sep, hpiece]
    · rw [Path.parts, hdir, Text.splitWhere_append_sep (by simp)]
      simp [Text.splitWhere]
  | false =>
    refine ⟨p.parts, ?_, .inl rfl⟩
    simp [Path.parts, Text.splitWhere_append_sep, hpiece]

theorem start_join (t : FileTree) {p : Path} {name : String} (hname : isName name = true)
    (hne : p.text ≠ "") : t.start (p.join ⟨name⟩) = t.start p := by
  obtain ⟨front, ⟨gap, rfl⟩, hjoin⟩ := p.exists_join
  obtain ⟨c, rest, hcs⟩ := List.exists_cons_of_ne_nil (l := p.text.toList) (by simpa using hne)
  simp [start, Path.isAbsolute, hjoin _ (isAbsolute_of_isName hname), hcs]

/-- The operating system takes the path of the name in the directory. -/
def Nameable (p : Path) (name : String) : Prop :=
  checkText (p.join ⟨name⟩) = .ok () ∧ name.utf8ByteSize ≤ nameLimit

theorem follow_name {t : FileTree} {loc here : Location} {name : String}
    (hname : isName name = true) :
    t.follow loc name = .ok here ↔ t.get? loc = some .directory ∧
      name.utf8ByteSize ≤ nameLimit ∧ here = loc ++ [name] := by
  obtain ⟨hplain, -⟩ := isName_iff.1 hname
  simp only [List.mem_cons, List.not_mem_nil, or_false, not_or] at hplain
  rw [follow, ← needDirectory_eq_ok_iff]
  cases t.needDirectory loc with
  | error fault => simp
  | ok _ =>
    simp only [hplain, or_self, ↓reduceIte, true_and]
    split
    · rename_i hlong
      simp [Nat.not_le.2 hlong]
    · rename_i hshort
      simp [Nat.not_lt.1 hshort, eq_comm]

theorem followAll_concat {t : FileTree} {loc here : Location} {front : List String}
    {part : String} :
    t.followAll loc (front ++ [part]) = .ok here ↔
      ∃ next, t.followAll loc front = .ok next ∧ t.follow next part = .ok here := by
  rw [followAll_append]
  cases t.followAll loc front with
  | error fault => simp
  | ok next =>
    simp only [followAll, Except.ok.injEq, exists_eq_left']
    cases t.follow next part <;> simp

/-- A name is found where it stands in its directory. -/
theorem locate_join {t : FileTree} {p : Path} (hp : checkText p = .ok ()) {name : String}
    (hname : isName name = true) {here : Location} :
    t.locate (p.join ⟨name⟩) = .ok here ↔ Nameable p name ∧
      ∃ loc, t.locate p = .ok loc ∧ t.get? loc = some .directory ∧ here = loc ++ [name] := by
  have hne := (checkText_eq_ok_iff.1 hp).1
  obtain ⟨front, hparts, hfront⟩ := parts_join hname hne
  -- an empty part at the end of the path of a directory leads nowhere else
  have hloc (loc : Location) (hdir : t.get? loc = some .directory) :
      t.locate p = .ok loc ↔ t.followAll (t.start p) front = .ok loc := by
    rw [locate, hp]
    rcases hfront with hfront | hfront
    · rw [hfront]
    · have hidle (next : Location) : t.follow next "" = .ok loc ↔ next = loc := by
        constructor
        · intro h
          exact (follow_eq_ok h).2.symm
        · rintro rfl
          simp [follow, needDirectory_eq_ok_iff.2 hdir]
      rw [hfront]
      dsimp only
      rw [followAll_concat]
      simp [hidle]
  rw [Nameable, locate, t.start_join hname hne, hparts]
  cases checkText (p.join ⟨name⟩) with
  | error fault => simp
  | ok _ =>
    simp only [followAll_concat, follow_name hname, true_and]
    constructor
    · rintro ⟨loc, hfollow, hdir, hshort, rfl⟩
      exact ⟨hshort, loc, (hloc loc hdir).2 hfollow, hdir, rfl⟩
    · rintro ⟨hshort, loc, hlocate, hdir, rfl⟩
      exact ⟨loc, (hloc loc hdir).1 hlocate, hdir, hshort, rfl⟩

/-- Only in a directory something is found. -/
theorem isDirectory_of_hasEntry_join {t : FileTree} {p : Path} (hp : checkText p = .ok ())
    {name : String} (hname : isName name = true) (h : t.hasEntry (p.join ⟨name⟩) = true) :
    t.isDirectory p = true := by
  obtain ⟨e, he⟩ := hasEntry_eq_true_iff.1 h
  obtain ⟨here, hhere, -⟩ := lookup_eq_ok_iff.1 he
  obtain ⟨-, loc, hloc, hdir, -⟩ := (locate_join hp hname).1 hhere
  exact isDirectory_eq_true_iff.2 ⟨loc, hloc, hdir⟩

end FileTree

end BytecodeLint
