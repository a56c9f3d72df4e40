import BytecodeLint.Proofs.Analysis.Course

/-!
# How often clearing is tried

An analysis clears the old markers before it adds new ones, and tries again when that fails. The
policy gives the number of attempts, and a policy of none still means one. Here a project is any that
fails a number of times and then recovers (`Project.LockedFor`); what else its clears do to the state
is left open.

* `clearFrom_opened`, `clearFrom_locked`: what the loop answers, and how many clears lie between the
  state it meets and the state it leaves.
* `Project.exists_recorded_cleared`: every clear is one call.
* `Machine.clearMarkers_eq`: the loop that counts its attempts in a word of 32 bits and stops where a
  word overflows gives the same answers, so no word overflows.
-/
namespace BytecodeLint

variable {σ ε : Type}

/-! ## Projects that fail for a while -/

namespace Project

/-- The state behind a number of clears, whether they succeed or not. -/
def cleared (p : Project σ ε) : Nat → σ → σ
  | 0, s => s
  | n + 1, s => p.cleared n (p.clear s).2

/-- The next `k` clears fail and the one behind them succeeds. -/
structure LockedFor (p : Project σ ε) (k : Nat) (s : σ) : Prop where
  fails : ∀ j < k, ∃ fault, (p.clear (p.cleared j s)).1 = .error fault
  opens : (p.clear (p.cleared k s)).1 = .ok ()

variable {p : Project σ ε} {k : Nat} {s : σ}

theorem lockedFor_succ_iff :
    p.LockedFor (k + 1) s ↔
      (∃ fault, (p.clear s).1 = .error fault) ∧ p.LockedFor k (p.clear s).2 := by
  constructor
  · intro h
    exact ⟨h.fails 0 (Nat.succ_pos k), fun j hj => h.fails (j + 1) (Nat.succ_lt_succ hj), h.opens⟩
  · rintro ⟨hfirst, hlater⟩
    refine ⟨fun j hj => ?_, hlater.opens⟩
    cases j with
    | zero => exact hfirst
    | succ j => exact hlater.fails j (Nat.lt_of_succ_lt_succ hj)

theorem exists_recorded_cleared (p : Project σ ε) (n : Nat) (s : σ) (log : List Call) :
    ∃ answers : List Bool, answers.length = n ∧
      p.recorded.cleared n (s, log) = (p.cleared n s, log ++ answers.map .clear) := by
  induction n generalizing s log with
  | zero => exact ⟨[], rfl, by simp [cleared]⟩
  | succ n ih =>
    obtain ⟨answers, hlength, hcleared⟩ := ih (p.clear s).2 (log ++ [.clear (p.clear s).1.isOk])
    refine ⟨(p.clear s).1.isOk :: answers, by rw [List.length_cons, hlength], ?_⟩
    rw [cleared, recorded_clear rfl, hcleared, List.append_assoc]
    rfl

/-- Recording changes nothing about which clears fail. -/
theorem recorded_clear_cleared (p : Project σ ε) (n : Nat) (s : σ) (log : List Call) :
    (p.recorded.clear (p.recorded.cleared n (s, log))).1 = (p.clear (p.cleared n s)).1 := by
  obtain ⟨answers, -, hcleared⟩ := p.exists_recorded_cleared n s log
  rw [hcleared, recorded_clear rfl]

theorem LockedFor.recorded (h : p.LockedFor k s) (log : List Call) :
    p.recorded.LockedFor k (s, log) where
  fails j hj := by
    rw [recorded_clear_cleared]
    exact h.fails j hj
  opens := by
    rw [recorded_clear_cleared]
    exact h.opens

end Project

/-- A project in memory is locked for as many clears as it is told to fail. -/
theorem MemoryProject.lockedFor (s : MemoryProject) : project.LockedFor s.clearFailures s := by
  generalize hk : s.clearFailures = k
  induction k generalizing s with
  | zero =>
    refine ⟨fun j hj => absurd hj (Nat.not_lt_zero j), ?_⟩
    rw [Project.cleared, clear_willing hk]
  | succ k ih =>
    have hclear : project.clear s =
        (.error .locked, { s with clearFailures := k, clearCalls := s.clearCalls + 1 }) := by
      simp [project, clear, hk]
    rw [Project.lockedFor_succ_iff, hclear]
    exact ⟨⟨.locked, rfl⟩, ih _ rfl⟩

namespace Analysis

variable {p : Project σ ε} {k : Nat} {s : σ}

/-! ## The loop -/

theorem clearFrom_opened {retries : Nat} (h : p.LockedFor k s) (hk : k ≤ retries) (attempt : Nat) :
    clearFrom p attempt retries s = (.ok (), p.cleared (k + 1) s) := by
  induction k generalizing retries attempt s with
  | zero =>
    have hc : p.clear s = (.ok (), (p.clear s).2) := Prod.ext h.opens rfl
    rw [clearFrom, hc]
    rfl
  | succ k ih =>
    obtain ⟨⟨fault, hfault⟩, hlater⟩ := Project.lockedFor_succ_iff.1 h
    have hc : p.clear s = (.error fault, (p.clear s).2) := Prod.ext hfault rfl
    cases retries with
    | zero => exact absurd hk (Nat.not_succ_le_zero k)
    | succ retries =>
      rw [clearFrom, hc]
      exact ih hlater (Nat.le_of_succ_le_succ hk) (attempt + 1)

/-- The fault told in the end is that of the last clear; the project may recover later or never. -/
theorem clearFrom_locked {retries : Nat}
    (h : ∀ j ≤ retries, ∃ fault, (p.clear (p.cleared j s)).1 = .error fault) (attempt : Nat) :
    ∃ fault, (p.clear (p.cleared retries s)).1 = .error fault ∧
      clearFrom p attempt retries s =
        (.error (attempt + retries, fault), p.cleared (retries + 1) s) := by
  induction retries generalizing attempt s with
  | zero =>
    obtain ⟨fault, hfault⟩ := h 0 (Nat.le_refl 0)
    have hc : p.clear s = (.error fault, (p.clear s).2) := Prod.ext hfault rfl
    refine ⟨fault, hfault, ?_⟩
    rw [clearFrom, hc]
    rfl
  | succ retries ih =>
    obtain ⟨fault, hfault⟩ := h 0 (Nat.zero_le _)
    have hc : p.clear s = (.error fault, (p.clear s).2) := Prod.ext hfault rfl
    have hlater (j : Nat) (hj : j ≤ retries) := h (j + 1) (Nat.succ_le_succ hj)
    obtain ⟨last, hlast, hloop⟩ := ih hlater (attempt + 1)
    have hnumber : attempt + 1 + retries = attempt + (retries + 1) := by omega
    rw [hnumber] at hloop
    refine ⟨last, hlast, ?_⟩
    rw [clearFrom, hc]
    exact hloop

theorem clearMarkers_opened {n : Nat} (h : p.LockedFor k s) (hk : k < max n 1) :
    clearMarkers p n s = (.ok (), p.cleared (k + 1) s) :=
  clearFrom_opened h (Nat.le_sub_one_of_lt hk) 1

theorem clearMarkers_locked {n : Nat} (h : p.LockedFor k s) (hk : max n 1 ≤ k) :
    ∃ fault, (p.clear (p.cleared (max n 1 - 1) s)).1 = .error fault ∧
      clearMarkers p n s = (.error (max n 1, fault), p.cleared (max n 1) s) := by
  have hlast : 1 + (max n 1 - 1) = max n 1 := by omega
  have hcount : max n 1 - 1 + 1 = max n 1 := by omega
  have hfails (j : Nat) (hj : j ≤ max n 1 - 1) := h.fails j (by omega)
  have hloop := clearFrom_locked hfails 1
  rwa [hlast, hcount] at hloop

/-- The state left lies as many clears behind the one met as the policy and the project allow. -/
theorem clearMarkers_state {n : Nat} (h : p.LockedFor k s) :
    (clearMarkers p n s).2 = p.cleared (min (k + 1) (max n 1)) s := by
  by_cases hk : k < max n 1
  · rw [clearMarkers_opened h hk, Nat.min_eq_left hk]
  · obtain ⟨fault, -, hlocked⟩ := clearMarkers_locked h (Nat.le_of_not_lt hk)
    rw [hlocked, Nat.min_eq_right (by omega)]

theorem clearMarkers_recorded {n : Nat} (h : p.LockedFor k s) (log : List Call) :
    (clearMarkers p.recorded n (s, log)).1 = (clearMarkers p n s).1 := by
  by_cases hk : k < max n 1
  · rw [clearMarkers_opened (h.recorded log) hk, clearMarkers_opened h hk]
  · have hk := Nat.le_of_not_lt hk
    obtain ⟨fault, hlast, hlocked⟩ := clearMarkers_locked (h.recorded log) hk
    obtain ⟨fault', hlast', hlocked'⟩ := clearMarkers_locked h hk
    rw [Project.recorded_clear_cleared, hlast'] at hlast
    cases hlast
    rw [hlocked, hlocked']

/-! ## Counting in a word -/

namespace Machine

theorem toNat_next {attempt : UInt32} (h : attempt.toNat + 1 < 4294967296) :
    (attempt + 1).toNat = attempt.toNat + 1 := by
  rw [UInt32.toNat_add, UInt32.toNat_one]
  omega

/-- Clears the markers, this being attempt number `attempt`, until an attempt succeeds or one with a
number of at least `limit` fails. There is no answer when the next number is too large for a word. -/
def clearFrom (p : Project σ ε) (limit attempt : UInt32) (s : σ) :
    Option (Except (Nat × ε) Unit × σ) :=
  match p.clear s with
  | (.ok (), s) => some (.ok (), s)
  | (.error fault, s) =>
    if limit.toNat ≤ attempt.toNat then some (.error (attempt.toNat, fault), s)
    else if attempt.toNat + 1 < 4294967296 then clearFrom p limit (attempt + 1) s
    else none
termination_by limit.toNat - attempt.toNat
decreasing_by
  rename_i hnext
  rw [toNat_next hnext]
  omega

/-- Clears the markers in at most `n` attempts, but in one at least. -/
def clearMarkers (p : Project σ ε) (n : UInt32) (s : σ) : Option (Except (Nat × ε) Unit × σ) :=
  clearFrom p (if n.toNat < 1 then 1 else n) 1 s

theorem clearFrom_eq (p : Project σ ε) {limit attempt : UInt32} {retries : Nat}
    (h : attempt.toNat + retries = limit.toNat) (s : σ) :
    clearFrom p limit attempt s = some (Analysis.clearFrom p attempt.toNat retries s) := by
  induction retries generalizing attempt s with
  | zero =>
    rcases hc : p.clear s with ⟨fault | ⟨⟨⟩⟩, s'⟩
    · rw [clearFrom, Analysis.clearFrom, hc]
      exact if_pos (by omega)
    · rw [clearFrom, Analysis.clearFrom, hc]
  | succ retries ih =>
    rcases hc : p.clear s with ⟨fault | ⟨⟨⟩⟩, s'⟩
    · -- the limit is a word itself, so a number below it has a next one
      have hlimit := limit.toNat_lt
      have hnext : (attempt + 1).toNat = attempt.toNat + 1 := toNat_next (by omega)
      have hsum : (attempt + 1).toNat + retries = limit.toNat := by omega
      have hlater := ih hsum s'
      rw [hnext] at hlater
      rw [clearFrom, Analysis.clearFrom, hc]
      dsimp only
      rw [if_neg (by omega), if_pos (by omega), hlater]
    · rw [clearFrom, Analysis.clearFrom, hc]

theorem clearMarkers_eq (p : Project σ ε) (n : UInt32) (s : σ) :
    clearMarkers p n s = some (Analysis.clearMarkers p n.toNat s) := by
  refine clearFrom_eq p ?_ s
  rw [UInt32.toNat_one]
  split
  · rw [UInt32.toNat_one]
    omega
  · omega

end Machine

/-! ## The policy -/

/-- **Clearing is tried as often as the policy says.** Let the policy be any word `n`, and let the
next `k` clears of a project fail and the one behind them succeed. Clearing makes `k + 1` calls or as
many as the policy has attempts, whichever are fewer, all of them clears. It succeeds exactly when
the policy has more attempts than the project has failures. When it fails, it tells the fault of its
last call and the number of attempts, and an analysis shows that fault within a message with that
number. Counting the attempts in a word of 32 bits gives the same answer without overflow. -/
theorem clearing_retried (n : UInt32) (h : p.LockedFor k s) :
    (∀ log, ∃ answers : List Bool, answers.length = min (k + 1) (max n.toNat 1) ∧
      clearMarkers p.recorded n.toNat (s, log) =
        ((clearMarkers p n.toNat s).1, (clearMarkers p n.toNat s).2,
          log ++ answers.map .clear)) ∧
      (clearMarkers p n.toNat s).2 = p.cleared (min (k + 1) (max n.toNat 1)) s ∧
      ((clearMarkers p n.toNat s).1 = .ok () ↔ k < max n.toNat 1) ∧
      (max n.toNat 1 ≤ k → ∃ fault,
        (p.clear (p.cleared (max n.toNat 1 - 1) s)).1 = .error fault ∧
          (clearMarkers p n.toNat s).1 = .error (max n.toNat 1, fault) ∧
          ∀ (a : Analysis) (classes : List ClassDecl), a.maxAttempts = n.toNat →
            (classes.map ClassDecl.name).Nodup →
            ∃ shown, (a.run p classes s).1 = .error shown ∧
              ∀ explain : ε → Explanation, shown.explain explain =
                (explain fault).within
                  ("failed to clear markers after " ++ toString (max n.toNat 1) ++ " attempts")) ∧
      Machine.clearMarkers p n s = some (clearMarkers p n.toNat s) := by
  refine ⟨fun log => ?_, clearMarkers_state h, ?_, fun hk => ?_, Machine.clearMarkers_eq p n s⟩
  · obtain ⟨answers, hlength, hcleared⟩ :=
      p.exists_recorded_cleared (min (k + 1) (max n.toNat 1)) s log
    refine ⟨answers, hlength, Prod.ext (clearMarkers_recorded h log) ?_⟩
    rw [clearMarkers_state (h.recorded log), hcleared, clearMarkers_state h]
  · constructor
    · intro hok
      by_contra hk
      obtain ⟨fault, -, hlocked⟩ := clearMarkers_locked h (Nat.le_of_not_lt hk)
      rw [hlocked] at hok
      cases hok
    · intro hk
      rw [clearMarkers_opened h hk]
  · obtain ⟨fault, hlast, hlocked⟩ := clearMarkers_locked h hk
    refine ⟨fault, hlast, by rw [hlocked], fun a classes ha hnames => ?_⟩
    rw [← ha] at hlocked
    refine ⟨.clear (max n.toNat 1) fault, ?_, fun explain => rfl⟩
    rw [run_locked hnames hlocked, ha]

/-- A project that fails twice. -/
def stubbornProject : MemoryProject where
  clearFailures := 2

/-- A third attempt succeeds, two are not enough, and a policy of none means one. -/
theorem stubbornProject_retried :
    MemoryProject.project.LockedFor 2 stubbornProject ∧
      (clearMarkers MemoryProject.project 3 stubbornProject).1 = .ok () ∧
      (clearMarkers MemoryProject.project 3 stubbornProject).2.clearCalls = 3 ∧
      (∃ shown, (({ guidelines := [], maxAttempts := 2 } : Analysis).run MemoryProject.project []
          stubbornProject).1 = .error shown ∧
        shown.explain MemoryFault.explain =
          ⟨["failed to clear markers after 2 attempts", "marker store is locked"], none⟩) ∧
      (clearMarkers MemoryProject.project 0 stubbornProject).1 = .error (1, .locked) ∧
      (clearMarkers MemoryProject.project 0 stubbornProject).2.clearCalls = 1 := by
  have hlocked : MemoryProject.project.LockedFor 2 stubbornProject :=
    MemoryProject.lockedFor stubbornProject
  obtain ⟨-, hstate, hopened, -⟩ := clearing_retried 3 hlocked
  obtain ⟨-, -, -, htwo, -⟩ := clearing_retried 2 hlocked
  obtain ⟨-, hstateNone, -, hnone, -⟩ := clearing_retried 0 hlocked
  refine ⟨hlocked, hopened.2 (by decide), ?_, ?_, ?_, ?_⟩
  · exact congrArg MemoryProject.clearCalls hstate
  · obtain ⟨fault, hlast, -, hrun⟩ := htwo (by decide)
    obtain ⟨shown, herror, hexplain⟩ := hrun { guidelines := [], maxAttempts := 2 } [] rfl .nil
    cases hlast
    exact ⟨shown, herror, (hexplain MemoryFault.explain).trans (by decide)⟩
  · obtain ⟨fault, hlast, hanswer, -⟩ := hnone (by decide)
    cases hlast
    exact hanswer
  · exact congrArg MemoryProject.clearCalls hstateNone

end Analysis

end BytecodeLint
