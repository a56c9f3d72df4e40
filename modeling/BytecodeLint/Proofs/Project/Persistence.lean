import BytecodeLint.Project.Directory
import BytecodeLint.Proofs.FileTree
import BytecodeLint.Proofs.Marker.Store

/-!
# What is found when a project is opened again

Between two flushes the markers in memory and the markers in the store drift apart: additions go to
memory alone, a flush writes all of it to the store, and a clear empties both at once. So the store
holds what memory held when it was last touched, and this is what opening it again finds.

* `load_clear`, `load_flush`: the store behind a clear and behind a flush.
* `Keeps`, `keeps_open`, `keeps_perform`: the store holds known markers, action by action.
* `Run`, `run_keeps`: the store along a run of actions.
* `reopened_markers`: opening the store again, at any point of a run.
-/

namespace BytecodeLint.DirectoryProject

/-! ## One action -/

/-- What is done to an open project. -/
inductive Action where
  | add (m : Marker)
  | clear
  | flush
  deriving DecidableEq, Repr

namespace Action

/-- Whether the action brings the store in line with memory. -/
def settles : Action → Bool
  | .add _ => false
  | .clear => true
  | .flush => true

/-- Does the action. -/
def perform (s : FileTree × DirectoryProject) :
    Action → Except DirectoryFault Unit × (FileTree × DirectoryProject)
  | .add m => project.add m s
  | .clear => project.clear s
  | .flush => project.flush s

end Action

/-- A cleared project has an empty store. -/
theorem load_clear {t t' : FileTree} {p p' : DirectoryProject}
    (h : clear t p = (.ok (), t', p')) :
    load t' p.store = .ok [] ∧ p' = { p with markers := [] } := by
  unfold clear at h
  rcases hentry : t.hasEntry p.store with _ | _
  · simp only [hentry, Bool.false_eq_true, ↓reduceIte, Prod.mk.injEq, true_and] at h
    obtain ⟨rfl, rfl⟩ := h
    simp [load, hentry]
  · rcases hremove : t.removeFile p.store with fault | t₁
    · simp [hentry, hremove] at h
    · simp only [hentry, hremove, ↓reduceIte, Prod.mk.injEq, true_and] at h
      obtain ⟨rfl, rfl⟩ := h
      simp [load, FileTree.hasEntry_removeFile hremove]

/-- A flush leaves a store with the markers in memory. -/
theorem load_flush {t t' : FileTree} {p : DirectoryProject} (hfits : ∀ m ∈ p.markers, m.Fits)
    (h : flush t p = (.ok (), t')) : load t' p.store = .ok p.markers := by
  unfold flush at h
  rcases hroom : makeRoom t p.store with ⟨fault | ⟨⟩, t₁⟩
  · simp [hroom] at h
  rcases hwrite : t₁.write p.store (MarkerStore.write p.markers).toUTF8 with fault | t₂
  · simp only [hroom, hwrite] at h
    cases h
  · simp only [hroom, hwrite] at h
    cases h
    obtain ⟨hentry, htext⟩ := FileTree.readText_write hwrite
    simp [load, hentry, htext, MarkerStore.read_write hfits]

/-- The store keeps some markers, and those in memory can be written. -/
structure Keeps (store : Path) (kept : List Marker) (s : FileTree × DirectoryProject) : Prop where
  path : s.2.store = store
  loaded : load s.1 store = .ok kept
  fits : ∀ m ∈ s.2.markers, m.Fits

theorem load_fits {t : FileTree} {store : Path} {ms : List Marker} (h : load t store = .ok ms) :
    ∀ m ∈ ms, m.Fits := by
  unfold load at h
  split at h
  · split at h
    · cases h
    · split at h
      · rename_i hread
        cases h
        exact MarkerStore.fits_of_read hread
      · cases h
      · cases h
  · cases h
    simp

theorem openAt_eq_ok_iff {t : FileTree} {root store : Path} {extension : String}
    {p : DirectoryProject} :
    openAt t root extension store = .ok p ↔
      ∃ ms, load t store = .ok ms ∧
        p = { root, extension := dotted extension, store, markers := ms } := by
  unfold openAt
  rcases load t store with fault | ms <;> simp [bind, Except.bind, eq_comm]

/-- An open project has in memory what its store keeps. -/
theorem keeps_open {t : FileTree} {root store : Path} {extension : String} {p : DirectoryProject}
    (h : openAt t root extension store = .ok p) : Keeps store p.markers (t, p) := by
  obtain ⟨ms, hload, rfl⟩ := openAt_eq_ok_iff.1 h
  exact ⟨rfl, hload, load_fits hload⟩

/-- Behind an action the store keeps what is in memory then, or what it kept before. -/
theorem keeps_perform {store : Path} {kept : List Marker} {s : FileTree × DirectoryProject}
    (hs : Keeps store kept s) {a : Action} (hfits : ∀ m, a = .add m → m.Fits)
    (hok : (a.perform s).1 = .ok ()) :
    Keeps store (if a.settles then (a.perform s).2.2.markers else kept) (a.perform s).2 := by
  obtain ⟨t, p⟩ := s
  obtain ⟨rfl, hload, hmemory⟩ := hs
  cases a with
  | add m =>
    refine ⟨rfl, hload, fun m' hm' => ?_⟩
    obtain hold | hnew := List.mem_append.1 hm'
    · exact hmemory m' hold
    · rw [List.mem_singleton.1 hnew]
      exact hfits m rfl
  | clear =>
    rcases hclear : clear t p with ⟨result, t', p'⟩
    obtain rfl : result = .ok () := by simpa [Action.perform, project, hclear] using hok
    obtain ⟨hempty, rfl⟩ := load_clear hclear
    simp only [Action.perform, project, hclear, Action.settles, ↓reduceIte]
    exact ⟨rfl, hempty, by simp⟩
  | flush =>
    rcases hflush : flush t p with ⟨result, t'⟩
    obtain rfl : result = .ok () := by simpa [Action.perform, project, hflush] using hok
    simp only [Action.perform, project, hflush, Action.settles, ↓reduceIte]
    exact ⟨rfl, load_flush hmemory hflush, hmemory⟩

/-! ## Runs -/

/-- A run of actions that succeed, with the states before and behind it. -/
inductive Run : FileTree × DirectoryProject → List Action → FileTree × DirectoryProject → Prop where
  | nil (s : FileTree × DirectoryProject) : Run s [] s
  | cons {s s' : FileTree × DirectoryProject} {a : Action} {actions : List Action}
      (ok : (a.perform s).1 = .ok ()) (others : Run (a.perform s).2 actions s') :
      Run s (a :: actions) s'

/-- Actions of which the last brings the store in line with memory. -/
def EndsSettled (actions : List Action) : Prop :=
  ∃ before a, actions = before ++ [a] ∧ a.settles = true

/-- A run is cut behind the last action that settles; the store keeps what was in memory there, or
what it kept at the start when there is no such action. -/
theorem run_keeps {store : Path} {kept : List Marker} {s s' : FileTree × DirectoryProject}
    {actions : List Action} (hrun : Run s actions s') (hs : Keeps store kept s)
    (hfits : ∀ m, .add m ∈ actions → m.Fits) :
    ∃ settled later between, actions = settled ++ later ∧ (∀ a ∈ later, a.settles = false) ∧
      Run s settled between ∧ Run between later s' ∧
      (settled = [] ∧ Keeps store kept s' ∨
        EndsSettled settled ∧ Keeps store between.2.markers s') := by
  induction hrun generalizing kept with
  | nil s => exact ⟨[], [], s, rfl, by simp, .nil s, .nil s, .inl ⟨rfl, hs⟩⟩
  | @cons s s' a actions hok hothers ih =>
    have hnext := keeps_perform hs (fun m hm => hfits m (by simp [hm])) hok
    obtain ⟨settled, later, between, rfl, hlater, hbefore, hbehind, hkept⟩ :=
      ih hnext fun m hm => hfits m (List.mem_cons_of_mem _ hm)
    rcases hkept with ⟨rfl, hkept⟩ | ⟨⟨before, b, rfl, hb⟩, hkept⟩
    · -- nothing settles behind `a`, so the cut is before it or right behind it
      cases hbefore
      rcases ha : a.settles with _ | _
      · refine ⟨[], a :: later, s, rfl, ?_, .nil s, .cons hok hbehind, .inl ⟨rfl, ?_⟩⟩
        · exact List.forall_mem_cons.2 ⟨ha, hlater⟩
        · simpa [ha] using hkept
      · refine ⟨[a], later, _, rfl, hlater, .cons hok (.nil _), hbehind, .inr ⟨⟨[], a, rfl, ha⟩, ?_⟩⟩
        simpa [ha] using hkept
    · exact ⟨a :: (before ++ [b]), later, between, rfl, hlater, .cons hok hbefore, hbehind,
        .inr ⟨⟨a :: before, b, rfl, hb⟩, hkept⟩⟩

/-- **What is found when a store is opened again.** From an open project, and for any actions that
succeed, opening the store again succeeds as well. It finds the markers that were in memory behind
the last flush or clear, in order, or those found at first when there was neither. The texts of the
added markers are arbitrary; their offsets and lines are numbers of 32 bits. -/
theorem reopened_markers {t : FileTree} {root store : Path} {extension : String}
    {p : DirectoryProject} (hopen : openAt t root extension store = .ok p) {actions : List Action}
    (hfits : ∀ m, .add m ∈ actions → m.Fits) {s : FileTree × DirectoryProject}
    (hrun : Run (t, p) actions s) (root' : Path) (extension' : String) :
    ∃ settled later between, actions = settled ++ later ∧ (settled = [] ∨ EndsSettled settled) ∧
      (∀ a ∈ later, a.settles = false) ∧ Run (t, p) settled between ∧ Run between later s ∧
      ∃ q, openAt s.1 root' extension' store = .ok q ∧ q.markers = between.2.markers := by
  obtain ⟨settled, later, between, hsplit, hlater, hbefore, hbehind, hkept⟩ :=
    run_keeps hrun (keeps_open hopen) hfits
  have hkept : Keeps store between.2.markers s ∧ (settled = [] ∨ EndsSettled settled) := by
    rcases hkept with ⟨rfl, hkept⟩ | ⟨hends, hkept⟩
    · cases hbefore
      exact ⟨hkept, .inl rfl⟩
    · exact ⟨hkept, .inr hends⟩
  exact ⟨settled, later, between, hsplit, hkept.2, hlater, hbefore, hbehind, _,
    openAt_eq_ok_iff.2 ⟨_, hkept.1.loaded, rfl⟩, rfl⟩

/-- A marker with the largest numbers and with texts that need every kind of escape, or none. -/
def awkwardMarker : Marker where
  guidelineId := "\"quoted\""
  title := "back\\slash/"
  description := "line\nbreak\ttab\r\x08\x0c"
  message := "control \x00\x1f\x7f"
  resource := ⟨"é/한/𝄞.java"⟩
  location := ""
  offset := 4294967295
  line := some 4294967295

def plainMarker : Marker := ⟨"ID", "t", "d", "m", ⟨"A.java"⟩, "A.f()V", 0, none⟩

/-- A project in a tree that holds its home directory and nothing else. -/
def freshProject : FileTree × DirectoryProject :=
  (.emptyAt ["home"], ⟨⟨"src"⟩, ".java", ⟨"state/markers.json"⟩, []⟩)

def freshActions : List Action := [.add awkwardMarker, .flush, .add plainMarker]

theorem freshProject_reopened :
    ∃ s q, Run freshProject freshActions s ∧ s.2.markers = [awkwardMarker, plainMarker] ∧
      openAt s.1 ⟨"other"⟩ "kt" ⟨"state/markers.json"⟩ = .ok q ∧ q.markers = [awkwardMarker] := by
  have hopen : openAt freshProject.1 ⟨"src"⟩ "java" ⟨"state/markers.json"⟩ = .ok freshProject.2 :=
    rfl
  have hrun : Run freshProject freshActions _ :=
    .cons rfl (.cons (eq_ok_of_isOk (by decide +kernel)) (.cons rfl (.nil _)))
  have hfits : ∀ m, .add m ∈ freshActions → m.Fits := by
    simp only [freshActions, List.mem_cons, Action.add.injEq, reduceCtorEq, List.not_mem_nil,
      or_false, false_or]
    rintro m (rfl | rfl)
    · exact ⟨by decide, by decide⟩
    · exact ⟨by decide, by decide⟩
  obtain ⟨settled, later, between, hsplit, hends, hlater, hbefore, -, q, hq, hmarkers⟩ :=
    reopened_markers hopen hfits hrun ⟨"other"⟩ "kt"
  refine ⟨_, q, hrun, rfl, hq, ?_⟩
  rw [hmarkers]
  -- the run is cut behind the flush
  rcases hends with rfl | ⟨before, a, rfl, ha⟩
  · cases hsplit
    exact absurd (hlater .flush (by decide)) (by decide)
  · rcases before with _ | ⟨b, _ | ⟨b', _ | ⟨b'', before⟩⟩⟩
    · cases hsplit
      cases ha
    · cases hsplit
      obtain _ | ⟨-, _ | ⟨-, _ | _⟩⟩ := hbefore
      rfl
    · cases hsplit
      cases ha
    · have hlength := congrArg List.length hsplit
      simp [freshActions] at hlength

end BytecodeLint.DirectoryProject
