import BytecodeLint.Project.Directory
import BytecodeLint.Project.Memory
import BytecodeLint.Proofs.FileTree

/-!
# What projects promise

The analysis works through the operations of a project alone. All it relies on is what they do to
the kept markers (`Project.Lawful`): a clear drops them all or fails and leaves them, an addition
appends one or fails and leaves them, persisting leaves them. When an operation fails, and what else
it does to the state, is up to the project.

* `MemoryProject.lawful`, `DirectoryProject.lawful`: both kinds of projects keep the laws.
* `Project.recorded` is the same project with a list of the calls made to it.
* `Project.Smooth` says that from a state on nothing fails; `MemoryProject.smooth` says when this is
  so of a project in memory.
-/
namespace BytecodeLint

variable {σ ε : Type}

/-- The laws on kept markers. -/
structure Project.Lawful (p : Project σ ε) : Prop where
  clear_ok : ∀ {s s' : σ}, p.clear s = (.ok (), s') → p.markers s' = []
  clear_error : ∀ {s s' : σ} {fault : ε}, p.clear s = (.error fault, s') →
    p.markers s' = p.markers s
  add_ok : ∀ {m : Marker} {s s' : σ}, p.add m s = (.ok (), s') →
    p.markers s' = p.markers s ++ [m]
  add_error : ∀ {m : Marker} {s s' : σ} {fault : ε}, p.add m s = (.error fault, s') →
    p.markers s' = p.markers s
  flush : ∀ {s s' : σ} {result : Except ε Unit}, p.flush s = (result, s') →
    p.markers s' = p.markers s

theorem MemoryProject.lawful : MemoryProject.project.Lawful where
  clear_ok {s s'} h := by
    simp only [project, clear] at h ⊢
    split at h <;> cases h
    rfl
  clear_error {s s' fault} h := by
    simp only [project, clear] at h ⊢
    split at h <;> cases h
    rfl
  add_ok {m s s'} h := by
    simp only [project, add] at h ⊢
    split at h <;> cases h
    rfl
  add_error {m s s' fault} h := by
    simp only [project, add] at h ⊢
    split at h <;> cases h
    rfl
  flush {s s' result} h := by
    simp only [project, flush] at h ⊢
    split at h <;> cases h <;> rfl

theorem DirectoryProject.lawful : DirectoryProject.project.Lawful where
  clear_ok {s s'} h := by
    simp only [project, clear] at h ⊢
    split at h
    · split at h <;> cases h
      rfl
    · cases h
      rfl
  clear_error {s s' fault} h := by
    simp only [project, clear] at h ⊢
    split at h
    · split at h <;> cases h
      rfl
    · cases h
  add_ok {m s s'} h := by
    cases h
    rfl
  add_error {m s s' fault} h := by cases h
  flush {s s' result} h := by
    cases h
    rfl

/-! ## Recording -/

/-- A call to a project, and whether it succeeded. -/
inductive Call where
  | clear (succeeded : Bool)
  | add (m : Marker) (succeeded : Bool)
  | flush (succeeded : Bool)
  deriving DecidableEq, Repr

/-- A project with the calls made to it, in order. Looking for sources is not recorded. -/
def Project.recorded (p : Project σ ε) : Project (σ × List Call) ε where
  extension s := p.extension s.1
  findSource s := p.findSource s.1
  markers s := p.markers s.1
  clear s := ((p.clear s.1).1, (p.clear s.1).2, s.2 ++ [.clear (p.clear s.1).1.isOk])
  add m s := ((p.add m s.1).1, (p.add m s.1).2, s.2 ++ [.add m (p.add m s.1).1.isOk])
  flush s := ((p.flush s.1).1, (p.flush s.1).2, s.2 ++ [.flush (p.flush s.1).1.isOk])

namespace Project

variable {p : Project σ ε} {s s' : σ} {result : Except ε Unit}

theorem recorded_clear (h : p.clear s = (result, s')) (log : List Call) :
    p.recorded.clear (s, log) = (result, s', log ++ [.clear result.isOk]) := by
  simp only [recorded, h]

theorem recorded_add {m : Marker} (h : p.add m s = (result, s')) (log : List Call) :
    p.recorded.add m (s, log) = (result, s', log ++ [.add m result.isOk]) := by
  simp only [recorded, h]

theorem recorded_flush (h : p.flush s = (result, s')) (log : List Call) :
    p.recorded.flush (s, log) = (result, s', log ++ [.flush result.isOk]) := by
  simp only [recorded, h]

end Project

/-! ## Projects whose operations succeed -/

/-- The state behind some additions. -/
def Project.keep (p : Project σ ε) (ms : List Marker) (s : σ) : σ :=
  ms.foldl (fun s m => (p.add m s).2) s

/-- From a state on, the project clears, adds any markers and persists them without failure. -/
structure Project.Smooth (p : Project σ ε) (s : σ) : Prop where
  clear : (p.clear s).1 = .ok ()
  add : ∀ ms m, (p.add m (p.keep ms (p.clear s).2)).1 = .ok ()
  flush : ∀ ms, (p.flush (p.keep ms (p.clear s).2)).1 = .ok ()

namespace MemoryProject

theorem add_unlimited {s : MemoryProject} (h : s.addLimit = none) (m : Marker) :
    project.add m s = (.ok (), { s with markers := s.markers ++ [m] }) := by
  simp [project, add, hasRoom, h]

theorem keep_unlimited {s : MemoryProject} (h : s.addLimit = none) (ms : List Marker) :
    project.keep ms s = { s with markers := s.markers ++ ms } := by
  induction ms generalizing s with
  | nil => simp [Project.keep]
  | cons m ms ih =>
    rw [Project.keep, List.foldl_cons, add_unlimited h, ← Project.keep, ih (by exact h)]
    simp

theorem clear_willing {s : MemoryProject} (h : s.clearFailures = 0) :
    project.clear s = (.ok (), { s with markers := [], clearCalls := s.clearCalls + 1 }) := by
  simp [project, clear, h]

theorem smooth {s : MemoryProject} (hclear : s.clearFailures = 0) (hflush : s.flushFailures = 0)
    (hadd : s.addLimit = none) : project.Smooth s := by
  have hlimit : (project.clear s).2.addLimit = none := by simp [clear_willing hclear, hadd]
  refine ⟨by rw [clear_willing hclear], fun ms m => ?_, fun ms => ?_⟩
  · rw [keep_unlimited hlimit, add_unlimited (by exact hlimit)]
  · rw [keep_unlimited hlimit, clear_willing hclear]
    simp [project, flush, hflush]

end MemoryProject

namespace DirectoryProject

theorem keep_eq (ms : List Marker) (t : FileTree) (p : DirectoryProject) :
    project.keep ms (t, p) = (t, { p with markers := p.markers ++ ms }) := by
  induction ms generalizing p with
  | nil => simp [Project.keep]
  | cons m ms ih =>
    rw [Project.keep, List.foldl_cons, ← Project.keep]
    exact (ih _).trans (by simp)

end DirectoryProject

end BytecodeLint
