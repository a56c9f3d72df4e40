import BytecodeLint.Proofs.Crawl.Jars
import BytecodeLint.Proofs.Crawl.Reached
import BytecodeLint.Proofs.FileTree.Detours

/-!
# Jars that name each other

Jars may name each other in circles. Where a circle comes back to a text that was seen, expansion
passes over it. Where it goes through `..`, every round makes the text longer: the jar is the same,
the text is another. Texts are not shortened on the way, and the operating system takes only texts
up to a limit, so such a circle ends at a text that is too long, and the jar counts as missing.

* `expand_of_sound`: on a class path with nothing missing and nothing unreadable, expansion succeeds
  exactly when every text that is reached is short enough.
* `circle_fails`: two jars for which it is not.
-/
namespace BytecodeLint

namespace Classpath

open FileTree

/-- Nothing is missing from a class path, and nothing in it is unreadable: every entry that is
reached stands where its path leads, and of every jar that is found the class path can be read. -/
structure Sound (t : FileTree) (entries : List Path) : Prop where
  stands : ∀ p, Reached t entries p → ∃ e, t.Stands p e
  readable : ∀ p e, Reached t entries p → p.isJar = true → t.lookup p = .ok e →
    ∃ further, named t p = .ok further

namespace Sound

variable {t : FileTree} {entries : List Path} (h : Sound t entries)
include h

theorem visitable_iff {p : Path} (hp : Reached t entries p) : Visitable t p ↔ IsShort p := by
  obtain ⟨e, he⟩ := h.stands p hp
  constructor
  · rintro ⟨hentry, -⟩
    obtain ⟨e', he'⟩ := hasEntry_eq_true_iff.1 hentry
    exact (lookup_eq_ok_iff_stands.1 he').2
  · intro hshort
    have hlookup := lookup_eq_ok_iff_stands.2 ⟨he, hshort⟩
    refine ⟨hasEntry_eq_true_iff.2 ⟨e, hlookup⟩, ?_⟩
    unfold references
    split
    · rename_i hjar
      obtain ⟨further, hfurther⟩ := h.readable p e hp hjar hlookup
      exact ⟨sorted further, by rw [hfurther]; rfl⟩
    · exact ⟨[], rfl⟩

theorem expand_ok_iff :
    (∃ all, expand t entries = .ok all) ↔ ∀ p, Reached t entries p → IsShort p := by
  rw [expand_eq_ok_iff]
  exact forall₂_congr fun p hp => h.visitable_iff hp

/-- The only fault is an entry that counts as missing because its text is too long. -/
theorem blamed {fault : CrawlFault} (hfault : expand t entries = .error fault) :
    ∃ p, Reached t entries p ∧ ¬ IsShort p ∧ fault = .missing p := by
  obtain ⟨p, hp, hblamed⟩ := blamed_visit Reached.handedOn reached_of_mem_sorted hfault
  have hlong : ¬ IsShort p := fun hshort => hblamed.not_visitable ((h.visitable_iff hp).2 hshort)
  refine ⟨p, hp, hlong, ?_⟩
  rcases hblamed with ⟨-, hfault⟩ | ⟨hentry, -⟩
  · exact hfault
  · obtain ⟨e, he⟩ := hasEntry_eq_true_iff.1 hentry
    exact absurd (lookup_eq_ok_iff_stands.1 he).2 hlong

end Sound

/-- **When a class path without gaps is expanded.** Expansion ends for every class path. Where
nothing is missing and nothing unreadable, it succeeds exactly when every text that is reached is
short enough, and then it lists what is reached; otherwise it blames an entry that stands where its
path leads. -/
theorem expand_of_sound {t : FileTree} {entries : List Path} (h : Sound t entries) :
    ((∃ all, expand t entries = .ok all) ↔ ∀ p, Reached t entries p → IsShort p) ∧
      (∀ all, expand t entries = .ok all → ∀ p, p ∈ all ↔ Reached t entries p) ∧
      ∀ fault, expand t entries = .error fault →
        ∃ p e, Reached t entries p ∧ ¬ IsShort p ∧ t.Stands p e ∧ fault = .missing p := by
  refine ⟨h.expand_ok_iff, fun all hall p => mem_expand_iff hall, fun fault hfault => ?_⟩
  obtain ⟨p, hp, hlong, hmissing⟩ := h.blamed hfault
  obtain ⟨e, he⟩ := h.stands p hp
  exact ⟨p, e, hp, hlong, he, hmissing⟩

/-! ## A jar that names itself -/

def loopJar : ByteArray := Archive.storedJar [manifestNaming "z.jar" 1764480157]

theorem loopJar_manifest : HasManifest loopJar (lineNaming "z.jar") :=
  hasManifest_of_mem (by decide +kernel) List.mem_cons_self (by decide +kernel)

/-- A directory with a jar that names itself. -/
def loop : FileTree where
  entries := [(["w"], .directory), (["w", "lib"], .directory),
    (["w", "lib", "z.jar"], .file loopJar)]
  workingDirectory := ["w"]
  distinct := by decide

theorem references_loop : references loop ⟨"lib/z.jar"⟩ = .ok [⟨"lib/z.jar"⟩] := by
  have hjar : Path.isJar ⟨"lib/z.jar"⟩ = true := by decide +kernel
  have hagain : Manifest.locate ⟨"lib/z.jar"⟩ "z.jar".toList = ⟨"lib/z.jar"⟩ := by decide +kernel
  rw [references_of_line hjar rfl loopJar_manifest (by decide), hagain]

theorem reached_loop {p : Path} (h : Reached loop [⟨"lib/z.jar"⟩] p) : p = ⟨"lib/z.jar"⟩ := by
  induction h with
  | given hp => exact List.mem_singleton.1 hp
  | named _ hrefs hq ih =>
    subst ih
    cases hrefs.symm.trans references_loop
    exact List.mem_singleton.1 hq

theorem sound_loop : Sound loop [⟨"lib/z.jar"⟩] := by
  have hlookup : loop.lookup ⟨"lib/z.jar"⟩ = .ok (.file loopJar) := rfl
  constructor
  · intro p hp
    rw [reached_loop hp]
    exact ⟨_, (lookup_eq_ok_iff_stands.1 hlookup).1⟩
  · intro p e hp _ _
    rw [reached_loop hp]
    exact ⟨_, named_of_manifest hlookup loopJar_manifest⟩

/-- A jar that names itself under the same text is visited once. -/
theorem loop_expands : Sound loop [⟨"lib/z.jar"⟩] ∧
    ∃ all, expand loop [⟨"lib/z.jar"⟩] = .ok all ∧ ∀ p, p ∈ all ↔ p = ⟨"lib/z.jar"⟩ := by
  obtain ⟨hok, hall, -⟩ := expand_of_sound sound_loop
  obtain ⟨all, hexpand⟩ := hok.2 fun p hp => by
    rw [reached_loop hp, IsShort]
    decide
  refine ⟨sound_loop, all, hexpand, fun p => ?_⟩
  rw [hall all hexpand]
  exact ⟨reached_loop, fun hp => hp ▸ .given List.mem_cons_self⟩

/-! ## Two jars that name each other through `..` -/

def xJar : ByteArray := Archive.storedJar [manifestNaming "../ext/y.jar" 2863378728]

def yJar : ByteArray := Archive.storedJar [manifestNaming "../lib/x.jar" 2626496473]

theorem xJar_manifest : HasManifest xJar (lineNaming "../ext/y.jar") :=
  hasManifest_of_mem (by decide +kernel) List.mem_cons_self (by decide +kernel)

theorem yJar_manifest : HasManifest yJar (lineNaming "../lib/x.jar") :=
  hasManifest_of_mem (by decide +kernel) List.mem_cons_self (by decide +kernel)

/-- Two directories, each with a jar that names the one in the other. -/
def circle : FileTree where
  entries := [(["w"], .directory), (["w", "lib"], .directory),
    (["w", "lib", "x.jar"], .file xJar), (["w", "ext"], .directory),
    (["w", "ext", "y.jar"], .file yJar)]
  workingDirectory := ["w"]
  distinct := by decide

/-- The way once round: from the working directory through both directories and back. -/
def round : List Char := ['l', 'i', 'b', '/', '.', '.', '/', 'e', 'x', 't', '/', '.', '.']

theorem comesBack_round : circle.ComesBack round := ⟨by decide, by decide, rfl⟩

/-- The jars as they are reached: after `n` rounds, and half a round later. -/
def xAfter (n : Nat) : Path := .detour round n "lib/x.jar"

def yAfter (n : Nat) : Path := .detour round n "lib/../ext/y.jar"

theorem stands_xAfter (n : Nat) : circle.Stands (xAfter n) (.file xJar) :=
  comesBack_round.stands_detour n rfl (lookup_eq_ok_iff_stands.1 rfl).1

theorem stands_yAfter (n : Nat) : circle.Stands (yAfter n) (.file yJar) :=
  comesBack_round.stands_detour n rfl (lookup_eq_ok_iff_stands.1 rfl).1

theorem isJar_xAfter (n : Nat) : (xAfter n).isJar = true := by
  have hparts : (⟨"lib/x.jar"⟩ : Path).parts = ["lib"] ++ ["x.jar"] := by decide
  rw [xAfter, Path.isJar, Path.extension?_detour n hparts (by decide),
    Path.extension?_of_stem "x" "jar" hparts (by decide) (by decide) (by decide)]
  rfl

theorem isJar_yAfter (n : Nat) : (yAfter n).isJar = true := by
  have hparts : (⟨"lib/../ext/y.jar"⟩ : Path).parts = ["lib", "..", "ext"] ++ ["y.jar"] := by
    decide
  rw [yAfter, Path.isJar, Path.extension?_detour n hparts (by decide),
    Path.extension?_of_stem "y" "jar" hparts (by decide) (by decide) (by decide)]
  rfl

/-- What a jar in a directory names, after any number of rounds. -/
theorem locate_detour (n : Nat) (dir name entry : String)
    (hhead : dir.toList.head? = some 'l') (hdir : Path.EndsPlainly dir.toList)
    (hname : Path.EndsPlainly name.toList) (hplain : '/' ∉ name.toList)
    (hentry : entry.toList.head? ≠ some '/') :
    Manifest.locate (.detour round n (dir ++ "/" ++ name)) entry.toList =
      .detour round n (dir ++ "/" ++ entry) := by
  have hends : Path.EndsPlainly ((List.replicate n (round ++ ['/'])).flatten ++ dir.toList) := by
    obtain ⟨c, hlast, hc⟩ := hdir
    exact ⟨c, by rw [List.getLast?_append, hlast]; rfl, hc⟩
  have htext : (Path.detour round n (dir ++ "/" ++ name)).text.toList =
      ((List.replicate n (round ++ ['/'])).flatten ++ dir.toList) ++ '/' :: name.toList := by
    simp [Path.toList_detour]
  have hfront : (Path.detour round n (dir ++ "/" ++ name)).text.toList.head? = some 'l' := by
    obtain ⟨rest, hrest⟩ := List.head?_eq_some_iff.1 hhead
    rw [Path.toList_detour]
    cases n with
    | zero => simp [hrest]
    | succ n => simp [List.replicate_succ, round]
  rw [Manifest.locate, Path.parent?_of_text htext
    (Path.frontLength_of_head hfront (by decide) (by decide)) hplain hname hends]
  rw [Option.getD_some, Path.join_of_text hends hentry, Path.detour]
  simp

theorem locate_xAfter (n : Nat) :
    Manifest.locate (xAfter n) "../ext/y.jar".toList = yAfter n :=
  locate_detour n "lib" "x.jar" "../ext/y.jar" rfl ⟨'b', by decide⟩ ⟨'r', by decide⟩ (by decide)
    (by decide)

theorem locate_yAfter (n : Nat) :
    Manifest.locate (yAfter n) "../lib/x.jar".toList = xAfter (n + 1) := by
  have hround : ("lib/../ext" ++ "/" ++ "../lib/x.jar").toList =
      (round ++ ['/']) ++ "lib/x.jar".toList := by decide
  refine (locate_detour n "lib/../ext" "y.jar" "../lib/x.jar" rfl ⟨'t', by decide⟩ ⟨'r', by decide⟩
    (by decide) (by decide)).trans ?_
  rw [xAfter, Path.detour, Path.detour, hround, List.replicate_succ', List.flatten_append]
  simp

theorem references_xAfter {n : Nat} (hshort : IsShort (xAfter n)) :
    references circle (xAfter n) = .ok [yAfter n] := by
  have hlookup := lookup_eq_ok_iff_stands.2 ⟨stands_xAfter n, hshort⟩
  rw [references_of_line (isJar_xAfter n) hlookup xJar_manifest (by decide), locate_xAfter]

theorem references_yAfter {n : Nat} (hshort : IsShort (yAfter n)) :
    references circle (yAfter n) = .ok [xAfter (n + 1)] := by
  have hlookup := lookup_eq_ok_iff_stands.2 ⟨stands_yAfter n, hshort⟩
  rw [references_of_line (isJar_yAfter n) hlookup yJar_manifest (by decide), locate_yAfter]

/-- A jar of which the class path is read has a text that is short enough. -/
theorem isShort_of_references {t : FileTree} {p : Path} {further : List Path}
    (hjar : p.isJar = true) (h : references t p = .ok further) : IsShort p := by
  rw [references, if_pos hjar] at h
  cases hlookup : t.lookup p with
  | ok e => exact (lookup_eq_ok_iff_stands.1 hlookup).2
  | error fault => simp [named, openJar, hlookup, Except.map] at h

theorem reached_circle {p : Path} (h : Reached circle [xAfter 0] p) :
    ∃ n, p = xAfter n ∨ p = yAfter n := by
  induction h with
  | given hp => exact ⟨0, .inl (List.mem_singleton.1 hp)⟩
  | named _ hrefs hq ih =>
    obtain ⟨n, rfl | rfl⟩ := ih
    · have hshort := isShort_of_references (isJar_xAfter n) hrefs
      cases hrefs.symm.trans (references_xAfter hshort)
      exact ⟨n, .inr (List.mem_singleton.1 hq)⟩
    · have hshort := isShort_of_references (isJar_yAfter n) hrefs
      cases hrefs.symm.trans (references_yAfter hshort)
      exact ⟨n + 1, .inl (List.mem_singleton.1 hq)⟩

theorem sound_circle : Sound circle [xAfter 0] := by
  constructor
  · intro p hp
    obtain ⟨n, rfl | rfl⟩ := reached_circle hp
    · exact ⟨_, stands_xAfter n⟩
    · exact ⟨_, stands_yAfter n⟩
  · intro p e hp _ hlookup
    obtain ⟨hstands, hshort⟩ := lookup_eq_ok_iff_stands.1 hlookup
    obtain ⟨n, rfl | rfl⟩ := reached_circle hp
    · cases hstands.unique (stands_xAfter n)
      exact ⟨_, named_of_manifest hlookup xJar_manifest⟩
    · cases hstands.unique (stands_yAfter n)
      exact ⟨_, named_of_manifest hlookup yJar_manifest⟩

/-- If no text were too long, the first jar would be reached after every number of rounds. -/
theorem reached_xAfter (h : ∀ p, Reached circle [xAfter 0] p → IsShort p) (n : Nat) :
    Reached circle [xAfter 0] (xAfter n) := by
  induction n with
  | zero => exact .given List.mem_cons_self
  | succ n ih =>
    have hy : Reached circle [xAfter 0] (yAfter n) :=
      .named ih (references_xAfter (h _ ih)) List.mem_cons_self
    exact .named hy (references_yAfter (h _ hy)) List.mem_cons_self

/-- Every round makes the text longer. -/
theorem not_isShort_xAfter : ¬ IsShort (xAfter 300) := by
  rw [IsShort, xAfter, Path.utf8ByteSize_detour]
  decide

/-- **A circle that cannot be expanded.** Two jars name each other through `..`. Nothing is missing:
whatever is reached is one of the two jars, and both have a manifest that can be read. But expansion
ends with one of them blamed as missing. -/
theorem circle_fails :
    Sound circle [⟨"lib/x.jar"⟩] ∧
    (∀ p, Reached circle [⟨"lib/x.jar"⟩] p →
      circle.Stands p (.file xJar) ∨ circle.Stands p (.file yJar)) ∧
    HasManifest xJar "Class-Path: ../ext/y.jar\n" ∧
    HasManifest yJar "Class-Path: ../lib/x.jar\n" ∧
    ∃ p, Reached circle [⟨"lib/x.jar"⟩] p ∧
      expand circle [⟨"lib/x.jar"⟩] = .error (.missing p) := by
  have hstart : (⟨"lib/x.jar"⟩ : Path) = xAfter 0 := rfl
  rw [hstart]
  refine ⟨sound_circle, fun p hp => ?_, xJar_manifest, yJar_manifest, ?_⟩
  · obtain ⟨n, rfl | rfl⟩ := reached_circle hp
    · exact .inl (stands_xAfter n)
    · exact .inr (stands_yAfter n)
  · cases hexpand : expand circle [xAfter 0] with
    | ok all =>
      have hshort := sound_circle.expand_ok_iff.1 ⟨all, hexpand⟩
      exact absurd (hshort _ (reached_xAfter hshort 300)) not_isShort_xAfter
    | error fault =>
      obtain ⟨p, hp, -, rfl⟩ := sound_circle.blamed hexpand
      exact ⟨p, hp, rfl⟩

end Classpath

end BytecodeLint
