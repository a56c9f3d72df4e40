import BytecodeLint.Proofs.FileTree.Listing

/-!
# Paths that make detours

A path may go round and come back before it goes on, as often as the limit on its text allows. The
same place has many names then, and some of them are too long.

* `Stands`: what stands where a path leads, however long its text is; `lookup_eq_ok_iff_stands` says
  that it is found when the text is short enough.
* `Path.detour`: a path that goes round a number of times first. `followAll_detour` says that it
  leads where it would lead without that; `stands_detour`, `locate_detour`, `lookup_detour` and
  `list_detour` say what is found there.
-/

namespace BytecodeLint

namespace Path

/-- A path that goes round a number of times before it goes on. -/
def detour (round : List Char) (n : Nat) (last : String) : Path :=
  ⟨String.ofList ((List.replicate n (round ++ ['/'])).flatten ++ last.toList)⟩

theorem toList_detour (round : List Char) (n : Nat) (last : String) :
    (detour round n last).text.toList =
      (List.replicate n (round ++ ['/'])).flatten ++ last.toList := by
  simp [detour]

/-- The parts of the way round, and then those of the rest. -/
theorem parts_detour (round : List Char) (n : Nat) (last : String) :
    (detour round n last).parts =
      (List.replicate n (⟨String.ofList round⟩ : Path).parts).flatten ++
        (⟨last⟩ : Path).parts := by
  induction n with
  | zero => simp [detour]
  | succ n ih =>
    unfold parts at ih ⊢
    rw [toList_detour] at ih ⊢
    rw [List.replicate_succ, List.flatten_cons, List.append_assoc, List.append_assoc,
      List.singleton_append, Text.splitWhere_append_sep (by simp), List.map_append, ih,
      List.replicate_succ, List.flatten_cons, List.append_assoc, String.toList_ofList]

theorem utf8ByteSize_detour (round : List Char) (n : Nat) (last : String) :
    (detour round n last).text.utf8ByteSize =
      n * (String.ofList (round ++ ['/'])).utf8ByteSize + last.utf8ByteSize := by
  induction n with
  | zero => simp [detour]
  | succ n ih =>
    have honce : (detour round (n + 1) last).text =
        String.ofList (round ++ ['/']) ++ (detour round n last).text := by
      simp [detour, List.replicate_succ, String.ofList_append, String.append_assoc]
    rw [honce, String.utf8ByteSize_append, ih, Nat.succ_mul]
    omega

section
variable {round : List Char} (n : Nat) {last : String}

theorem text_detour_ne (h : last ≠ "") : (detour round n last).text ≠ "" := by
  intro hempty
  have hnil := toList_detour round n last
  rw [hempty] at hnil
  exact h (by simpa using (List.append_eq_nil_iff.1 hnil.symm).2)

/-- A plain name at the end is the end of the detour, too. -/
theorem extension?_detour {before : List String} {name : String}
    (hparts : (⟨last⟩ : Path).parts = before ++ [name]) (hname : name ∉ ["", ".", ".."]) :
    (detour round n last).extension? = (⟨last⟩ : Path).extension? := by
  have hdetour := parts_detour round n last
  rw [hparts, ← List.append_assoc] at hdetour
  exact extension?_of_parts hdetour hparts hname

theorem isAbsolute_detour (hround : (round ++ ['/']).head? ≠ some '/')
    (hlast : isAbsolute ⟨last⟩ = false) : (detour round n last).isAbsolute = false := by
  rw [isAbsolute, toList_detour]
  cases n with
  | zero => simpa [isAbsolute] using hlast
  | succ n =>
    obtain ⟨c, rest, hcs⟩ := List.exists_cons_of_ne_nil (l := round ++ ['/']) (by simp)
    rw [hcs] at hround ⊢
    simpa [List.replicate_succ] using hround

/-- What is seen from the end of a path is seen from there after a detour. -/
theorem join_detour (hlast : last ≠ "") (q : Path) (hq : q.isAbsolute = false) :
    (detour round n last).join q = detour round n ((⟨last⟩ : Path).join q).text := by
  have hne : last.toList ≠ [] := by simpa using hlast
  obtain ⟨c, hc⟩ := Option.ne_none_iff_exists'.1 (List.getLast?_eq_none_iff.not.2 hne)
  have hend : (detour round n last).text.toList.getLast? = some c := by
    rw [toList_detour, List.getLast?_append, hc, Option.some_or]
  have hempty : (detour round n last).text.toList.isEmpty = false := by
    rw [toList_detour]
    simp [hne]
  unfold join
  simp only [hq, hend, hc, hempty, List.isEmpty_eq_false_iff.2 hne]
  split
  · contradiction
  · split <;> simp [detour, String.append_assoc]

end

end Path

namespace FileTree

open BytecodeLint.Path (detour)

/-- An entry stands where a path leads, however long the text of the path is. -/
structure Stands (t : FileTree) (p : Path) (e : Entry) : Prop where
  nonempty : p.text ≠ ""
  clean : Char.ofNat 0 ∉ p.text.toList
  leads : ∃ loc, t.followAll (t.start p) p.parts = .ok loc ∧ t.get? loc = some e

/-- A path finds what stands where it leads, provided that its text is short enough. -/
theorem lookup_eq_ok_iff_stands {t : FileTree} {p : Path} {e : Entry} :
    t.lookup p = .ok e ↔ t.Stands p e ∧ IsShort p := by
  rw [lookup_eq_ok_iff]
  constructor
  · rintro ⟨loc, hloc, hget⟩
    obtain ⟨hnonempty, hclean, hshort⟩ := checkText_eq_ok_iff.1 (checkText_of_locate hloc)
    exact ⟨⟨hnonempty, hclean, loc, locate_followAll hloc, hget⟩, hshort⟩
  · rintro ⟨⟨hnonempty, hclean, loc, hfollow, hget⟩, hshort⟩
    refine ⟨loc, ?_, hget⟩
    simp only [locate, checkText_eq_ok_iff.2 ⟨hnonempty, hclean, hshort⟩, hfollow]

theorem Stands.unique {t : FileTree} {p : Path} {e e' : Entry} (h : t.Stands p e)
    (h' : t.Stands p e') : e = e' := by
  obtain ⟨loc, hfollow, hget⟩ := h.leads
  obtain ⟨loc', hfollow', hget'⟩ := h'.leads
  cases hfollow.symm.trans hfollow'
  exact Option.some.inj (hget.symm.trans hget')

theorem followAll_replicate {t : FileTree} {loc : Location} {steps : List String}
    (hback : t.followAll loc steps = .ok loc) (n : Nat) (rest : List String) :
    t.followAll loc ((List.replicate n steps).flatten ++ rest) = t.followAll loc rest := by
  induction n with
  | zero => rfl
  | succ n ih =>
    rw [List.replicate_succ, List.flatten_cons, List.append_assoc, followAll_append, hback]
    exact ih

/-- The way round starts at the working directory and comes back to it. -/
structure ComesBack (t : FileTree) (round : List Char) : Prop where
  relative : (round ++ ['/']).head? ≠ some '/'
  clean : Char.ofNat 0 ∉ round
  back : t.followAll t.workingDirectory (⟨String.ofList round⟩ : Path).parts =
    .ok t.workingDirectory

namespace ComesBack

variable {t : FileTree} {round : List Char} (h : t.ComesBack round) (n : Nat) {last : String}
  (hlast : (⟨last⟩ : Path).isAbsolute = false)
include h

theorem not_mem_detour (hclean : Char.ofNat 0 ∉ last.toList) :
    Char.ofNat 0 ∉ (detour round n last).text.toList := by
  rw [Path.toList_detour, List.mem_append, not_or]
  refine ⟨fun hmem => ?_, hclean⟩
  obtain ⟨way, hway, hmem⟩ := List.mem_flatten.1 hmem
  rw [List.eq_of_mem_replicate hway, List.mem_append, List.mem_singleton] at hmem
  rcases hmem with hmem | hslash
  · exact h.clean hmem
  · revert hslash
    decide

include hlast

/-- A detour leads where the path leads without it. -/
theorem followAll_detour :
    t.followAll (t.start (detour round n last)) (detour round n last).parts =
      t.followAll (t.start ⟨last⟩) (⟨last⟩ : Path).parts := by
  have hstart : t.start (detour round n last) = t.workingDirectory := by
    simp [start, Path.isAbsolute_detour n h.relative hlast]
  have hstart' : t.start ⟨last⟩ = t.workingDirectory := by simp [start, hlast]
  rw [hstart, hstart', Path.parts_detour, followAll_replicate h.back]

theorem stands_detour {e : Entry} (hstands : t.Stands ⟨last⟩ e) :
    t.Stands (detour round n last) e := by
  refine ⟨Path.text_detour_ne n hstands.nonempty, h.not_mem_detour n hstands.clean, ?_⟩
  rw [h.followAll_detour n hlast]
  exact hstands.leads

theorem locate_detour {loc : Location} (hloc : t.locate ⟨last⟩ = .ok loc)
    (hshort : IsShort (detour round n last)) : t.locate (detour round n last) = .ok loc := by
  obtain ⟨hne, hclean, -⟩ := checkText_eq_ok_iff.1 (checkText_of_locate hloc)
  have hcheck := checkText_eq_ok_iff.2
    ⟨Path.text_detour_ne n hne, h.not_mem_detour n hclean, hshort⟩
  simp only [locate, hcheck, h.followAll_detour n hlast, locate_followAll hloc]

theorem lookup_detour {e : Entry} (hlookup : t.lookup ⟨last⟩ = .ok e)
    (hshort : IsShort (detour round n last)) : t.lookup (detour round n last) = .ok e :=
  lookup_eq_ok_iff_stands.2
    ⟨h.stands_detour n hlast (lookup_eq_ok_iff_stands.1 hlookup).1, hshort⟩

/-- After a detour a directory lists the same, after the detour. -/
theorem list_detour {found : List Path} (hfound : t.list ⟨last⟩ = .ok found)
    (hshort : IsShort (detour round n last)) :
    t.list (detour round n last) = .ok (found.map fun q => detour round n q.text) := by
  obtain ⟨loc, hloc, hdir, rfl⟩ := list_eq_ok_iff.1 hfound
  obtain ⟨hne, -, -⟩ := checkText_eq_ok_iff.1 (checkText_of_locate hloc)
  refine list_eq_ok_iff.2 ⟨loc, h.locate_detour n hlast hloc hshort, hdir, ?_⟩
  rw [List.map_map]
  refine List.map_congr_left fun name hname => ?_
  have hrelative := isAbsolute_of_isName (isName_of_mem_namesIn hname)
  exact (Path.join_detour n hne ⟨name⟩ hrelative).symm

end ComesBack

/-! ### Round the working directory -/

theorem comesBack_dot {t : FileTree} (h : t.get? t.workingDirectory = some .directory) :
    t.ComesBack ['.'] := by
  refine ⟨by decide, by decide, ?_⟩
  have hparts : (⟨String.ofList ['.']⟩ : Path).parts = ["."] := by decide
  simp [hparts, followAll, follow, needDirectory_eq_ok_iff.2 h]

theorem isShort_dots_iff {n : Nat} {last : String} :
    IsShort (detour ['.'] n last) ↔ 2 * n + last.utf8ByteSize ≤ 4095 := by
  have hdot : (String.ofList (['.'] ++ ['/'])).utf8ByteSize = 2 := by decide
  rw [IsShort, Path.utf8ByteSize_detour, hdot, pathLimit]
  omega

end FileTree

end BytecodeLint
