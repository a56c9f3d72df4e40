/-!
# Computations that may fail

A computation that succeeds has succeeded in each of its steps.
-/
namespace BytecodeLint

variable {α β ε ε' : Type}

theorem bind_eq_ok {x : Except ε α} {f : α → Except ε β} {b : β} (h : (x >>= f) = .ok b) :
    ∃ a, x = .ok a ∧ f a = .ok b := by
  cases x with
  | error e => cases h
  | ok a => exact ⟨a, rfl, h⟩

theorem mapError_ok (f : ε → ε') (a : α) : (Except.ok a : Except ε α).mapError f = .ok a := rfl

theorem mapError_error (f : ε → ε') (e : ε) :
    (Except.error e : Except ε α).mapError f = .error (f e) := rfl

theorem bind_mapError_eq_ok {x : Except ε α} {f : ε → ε'} {g : α → Except ε' β} {b : β} :
    (x.mapError f).bind g = .ok b ↔ ∃ a, x = .ok a ∧ g a = .ok b := by
  cases x with
  | error e =>
    constructor
    · intro h
      cases h
    · rintro ⟨a, h, -⟩
      cases h
  | ok a =>
    constructor
    · intro h
      exact ⟨a, rfl, h⟩
    · rintro ⟨a', h, hg⟩
      cases h
      exact hg

theorem map_mapError_eq_ok {x : Except ε α} {f : ε → ε'} {g : α → β} {b : β} :
    (x.mapError f).map g = .ok b ↔ ∃ a, x = .ok a ∧ g a = b := by
  cases x with
  | error e => simp [mapError_error, Except.map]
  | ok a => simp [mapError_ok, Except.map]

/-- When every item of a list is worked on with success, what is taken from the results can be taken
from the items. -/
theorem flatMap_of_mapM {γ : Type} {f : α → Except ε β} {xs : List α} {ys : List β}
    (h : xs.mapM f = .ok ys) {φ : β → List γ} {ψ : α → List γ}
    (hφ : ∀ x y, f x = .ok y → φ y = ψ x) : ys.flatMap φ = xs.flatMap ψ := by
  induction xs generalizing ys with
  | nil =>
    cases h
    rfl
  | cons x xs ih =>
    rw [List.mapM_cons] at h
    obtain ⟨y, hy, h⟩ := bind_eq_ok h
    obtain ⟨rest, hrest, h⟩ := bind_eq_ok h
    cases h
    rw [List.flatMap_cons, List.flatMap_cons, hφ x y hy, ih hrest]

/-- Every result of working on a list with success is that of one of its items. -/
theorem exists_of_mem_mapM_ok {f : α → Except ε β} {xs : List α} {ys : List β}
    (h : xs.mapM f = .ok ys) {y : β} (hy : y ∈ ys) : ∃ x ∈ xs, f x = .ok y := by
  induction xs generalizing ys with
  | nil =>
    cases h
    cases hy
  | cons x xs ih =>
    rw [List.mapM_cons] at h
    obtain ⟨y', hy', h⟩ := bind_eq_ok h
    obtain ⟨rest, hrest, h⟩ := bind_eq_ok h
    cases h
    rcases List.mem_cons.1 hy with rfl | hy
    · exact ⟨x, List.mem_cons_self, hy'⟩
    · obtain ⟨x', hx', hfx⟩ := ih hrest hy
      exact ⟨x', List.mem_cons_of_mem x hx', hfx⟩

theorem exists_of_mem_mapM_some {f : α → Option β} {xs : List α} {ys : List β}
    (h : xs.mapM f = some ys) {y : β} (hy : y ∈ ys) : ∃ x ∈ xs, f x = some y := by
  induction xs generalizing ys with
  | nil =>
    cases h
    cases hy
  | cons x xs ih =>
    rw [List.mapM_cons] at h
    obtain ⟨y', hy', h⟩ := Option.bind_eq_some_iff.1 h
    obtain ⟨rest, hrest, h⟩ := Option.bind_eq_some_iff.1 h
    cases h
    rcases List.mem_cons.1 hy with rfl | hy
    · exact ⟨x, List.mem_cons_self, hy'⟩
    · obtain ⟨x', hx', hfx⟩ := ih hrest hy
      exact ⟨x', List.mem_cons_of_mem x hx', hfx⟩

/-- Working on items that are known to be in a list is working on them. -/
theorem mapM_attach_val (f : α → Except ε β) (xs : List α) :
    (xs.attach.mapM fun x => f x.1) = xs.mapM f := by
  show xs.attach.mapM (f ∘ Subtype.val) = xs.mapM f
  rw [← List.mapM_map, List.attach_map_subtype_val]

theorem eq_ok_of_toOption {x : Except ε α} {a : α} (h : x.toOption = some a) : x = .ok a := by
  cases x with
  | error => cases h
  | ok =>
    cases h
    rfl

theorem eq_ok_of_isOk {result : Except ε Unit} (h : result.isOk = true) : result = .ok () := by
  cases result with
  | error => cases h
  | ok => rfl

theorem exists_error_of_isOk {x : Except ε α} (h : x.isOk = false) : ∃ fault, x = .error fault := by
  cases x with
  | error fault => exact ⟨fault, rfl⟩
  | ok => cases h

end BytecodeLint
