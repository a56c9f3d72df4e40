import BytecodeLint.Proofs.Json.Skim

/-!
# Passing over a value inside others

The machine that passes over a value does the same whatever is open around the value, as it only
looks at the innermost frame. So a run that comes to the end of a value is also a part of every run
in which the value stands inside arrays and objects. Nothing behind the value matters to it but the
next character, which tells whether a number goes on.

* `resume`: what the machine does behind a value.
* `step_append`: one step with more frames around.
* `run_within`: a whole run with more frames around, and with another text behind the value.
-/

namespace BytecodeLint.Json.Skim

/-- What the machine does behind a value: with nothing around the value it is done. -/
def resume (stack : List Frame) (cs : List Char) : Except JsonFault (List Char) :=
  match stack with
  | [] => .ok cs
  | _ :: _ => run .after stack cs

section
variable {s : State} {stack outer : List Frame} {c : Char} {cs : List Char}

theorem run_resume (hescape : endsInEscape s c cs = false)
    (hstep : step s stack c = finished outer) : run s stack (c :: cs) = resume outer cs := by
  cases outer with
  | nil => simp [run, hescape, hstep, finished, resume]
  | cons frame outer => exact run_next .after _ hescape hstep

/-- A number has ended before the character. -/
theorem run_resume_before (hescape : endsInEscape s c cs = false)
    (hstep : step s stack c = afterValue outer c) :
    run s stack (c :: cs) = resume outer (c :: cs) := by
  cases outer with
  | nil => simp [run, hescape, hstep, afterValue, resume]
  | cons frame outer =>
    have hafter : endsInEscape .after c cs = false := rfl
    have hsame : step .after (frame :: outer) c = afterValue (frame :: outer) c := rfl
    simp only [resume, run, hescape, hstep, hafter, hsame, Bool.false_eq_true, ↓reduceIte]

theorem endsInEscape_of_isNumberEnd (h : s.isNumberEnd = true) : endsInEscape s c cs = false := by
  cases s <;> first | rfl | cases h

/-- Where a number may end, it ends if it cannot go on. -/
theorem run_number (hend : s.isNumberEnd = true)
    (hstep : ∀ c ∈ cs.head?, step s stack c = afterValue stack c) :
    run s stack cs = resume stack cs := by
  cases cs with
  | nil => cases stack <;> simp [run, resume, hend, show State.after.isNumberEnd = false from rfl]
  | cons c cs => exact run_resume_before (endsInEscape_of_isNumberEnd hend) (hstep c rfl)

end

/-! ## One step -/

/-- An outcome with more frames around. -/
def Outcome.within (outer : List Frame) (c : Char) : Outcome → Outcome
  | .next s stack => .next s (stack ++ outer)
  | .endWith => finished outer
  | .endBefore => afterValue outer c
  | .malformed => .malformed

/-- The states right behind an opening bracket or brace. -/
def State.isOpening : State → Bool
  | .firstItem | .firstKey => true
  | _ => false

/-- The digits of an escape that have to follow. -/
def State.pending : State → Nat
  | .hex _ left => left + 1
  | _ => 0

section
variable (stack outer : List Frame) (c : Char)

@[simp] theorem Outcome.within_next (s : State) :
    (Outcome.next s stack).within outer c = .next s (stack ++ outer) := rfl

@[simp] theorem Outcome.within_malformed : Outcome.malformed.within outer c = .malformed := rfl

@[simp] theorem Outcome.within_ite (p : Prop) [Decidable p] (a b : Outcome) :
    (if p then a else b).within outer c = if p then a.within outer c else b.within outer c :=
  apply_ite ..

theorem finished_append : finished (stack ++ outer) = (finished stack).within outer c := by
  cases stack <;> rfl

theorem afterValue_append :
    afterValue (stack ++ outer) c = (afterValue stack c).within outer c := by
  rcases stack with _ | ⟨_ | _, stack⟩
  · rfl
  · simp [afterValue, finished_append stack outer c]
  · simp [afterValue, finished_append stack outer c]

theorem startValue_append :
    startValue (stack ++ outer) c = (startValue stack c).within outer c := by
  simp [startValue]

theorem afterWhole_append :
    afterWhole (stack ++ outer) c = (afterWhole stack c).within outer c := by
  simp [afterWhole, afterValue_append]

theorem textClosed_append (isKey : Bool) :
    textClosed isKey (stack ++ outer) = (textClosed isKey stack).within outer c := by
  cases isKey with
  | true => rfl
  | false => exact finished_append stack outer c

variable {stack}

/-- **One step.** The machine looks at the innermost frame only. -/
theorem step_append {s : State} (hopen : s.isOpening = true → stack ≠ []) :
    step s (stack ++ outer) c = (step s stack c).within outer c := by
  cases s with
  | firstItem =>
    simp [step, List.tail_append_of_ne_nil (hopen rfl), finished_append _ outer c,
      startValue_append]
  | firstKey => simp [step, List.tail_append_of_ne_nil (hopen rfl), finished_append _ outer c]
  | hex isKey left => cases left <;> simp [step]
  | word rest =>
    rcases rest with _ | ⟨w, _ | ⟨w', rest⟩⟩ <;> simp [step, finished_append _ outer c]
  | _ =>
    simp [step, startValue_append, afterWhole_append, afterValue_append,
      textClosed_append _ outer c]

/-- Where an outcome stands right behind an opening bracket, something is open. -/
def Outcome.Guarded : Outcome → Prop
  | .next s stack => s.isOpening = true → stack ≠ []
  | _ => True

@[simp] theorem Outcome.guarded_next (s : State) :
    (Outcome.next s stack).Guarded ↔ (s.isOpening = true → stack ≠ []) := .rfl

@[simp] theorem Outcome.guarded_malformed : Outcome.malformed.Guarded := trivial

@[simp] theorem Outcome.guarded_ite {p : Prop} [Decidable p] {a b : Outcome} :
    (if p then a else b).Guarded ↔ (p → a.Guarded) ∧ (¬ p → b.Guarded) := by
  split <;> simp [*]

theorem finished_guarded (stack : List Frame) : (finished stack).Guarded := by
  cases stack with
  | nil => trivial
  | cons frame stack => nofun

theorem afterValue_guarded (stack : List Frame) : (afterValue stack c).Guarded := by
  rcases stack with _ | ⟨_ | _, stack⟩
  · trivial
  · simp [afterValue, finished_guarded]
  · simp [afterValue, finished_guarded]

theorem startValue_guarded (stack : List Frame) : (startValue stack c).Guarded := by
  simp [startValue, State.isOpening]

theorem step_guarded {s : State} (hopen : s.isOpening = true → stack ≠ []) :
    (step s stack c).Guarded := by
  cases s with
  | hex isKey left => cases left <;> simp [step, State.isOpening]
  | word rest =>
    rcases rest with _ | ⟨w, _ | ⟨w', rest⟩⟩ <;> simp [step, State.isOpening, finished_guarded]
  | _ =>
    simp_all [step, afterWhole, textClosed, State.isOpening, finished_guarded, afterValue_guarded,
      startValue_guarded]

end

section
variable {s s' : State} {stack stack' : List Frame} {c : Char}

theorem pending_of_next (h : step s stack c = .next s' stack') : s.pending ≤ s'.pending + 1 := by
  cases s with
  | hex isKey left =>
    cases left with
    | zero => exact Nat.succ_le_succ (Nat.zero_le _)
    | succ left =>
      simp only [step] at h
      split at h
      · cases h
      · cases h
        exact Nat.le_refl _
  | _ => exact Nat.zero_le _

/-- The digits of an escape stand in what was passed over, so the text does not end in it. -/
theorem endsInEscape_of_next (h : step s stack c = .next s' stack') {front : List Char}
    (hlength : s'.pending ≤ front.length) (tail : List Char) :
    endsInEscape s c (front ++ tail) = false := by
  cases s with
  | escape isKey =>
    by_cases hc : c = 'u'
    · subst hc
      cases h
      match front, hlength with
      | c₁ :: c₂ :: c₃ :: c₄ :: front, _ => simp [endsInEscape, hasBytes_four]
    · simp [endsInEscape, hc]
  | _ => rfl

/-- A value never ends inside an escape. -/
theorem not_escape_of_ended (h : step s stack c = .endWith ∨ step s stack c = .endBefore) :
    s.pending = 0 ∧ ∀ cs, endsInEscape s c cs = false := by
  cases s with
  | escape isKey =>
    rcases h with h | h <;> simp only [step] at h <;> split at h <;>
      first | cases h | split at h <;> cases h
  | hex isKey left =>
    rcases h with h | h <;> cases left <;> simp only [step] at h <;> split at h <;> cases h
  | _ => exact ⟨rfl, fun _ => rfl⟩

end

/-! ## Runs -/

/-- **A run with more around.** What the machine passes over up to the end of a value, it passes
over inside any arrays and objects, and before any text that goes on with the same character. -/
theorem run_within {s : State} {stack : List Frame} {cs rest : List Char}
    (hopen : s.isOpening = true → stack ≠ []) (h : run s stack cs = .ok rest) :
    ∃ front, cs = front ++ rest ∧ s.pending ≤ front.length ∧
      ∀ outer tail, tail.head? = rest.head? →
        run s (stack ++ outer) (front ++ tail) = resume outer tail := by
  induction cs generalizing s stack with
  | nil =>
    rw [run] at h
    split at h
    · rename_i hend
      simp only [Bool.and_eq_true, List.isEmpty_iff] at hend
      obtain ⟨hend, rfl⟩ := hend
      cases h
      refine ⟨[], rfl, ?_, fun outer tail htail => ?_⟩
      · cases s <;> first | exact Nat.le_refl 0 | cases hend
      · obtain rfl : tail = [] := List.head?_eq_none_iff.1 htail
        exact run_number hend fun c hc => by cases hc
    · cases h
  | cons c cs ih =>
    rw [run] at h
    split at h
    · cases h
    · have happend (outer) := step_append outer c hopen
      split at h
      · -- the run goes on, and the digits of an escape stand in what it passes over
        rename_i s' stack' hstep
        have hguarded := step_guarded c hopen
        rw [hstep] at hguarded
        obtain ⟨front, rfl, hpending, hrun⟩ := ih hguarded h
        have hlength := pending_of_next hstep
        refine ⟨c :: front, rfl, by simp only [List.length_cons]; omega, fun outer tail htail => ?_⟩
        have hescape := endsInEscape_of_next hstep hpending tail
        have hwithin : step s (stack ++ outer) c = .next s' (stack' ++ outer) := by
          rw [happend, hstep]
          rfl
        rw [List.cons_append, run_next s' _ hescape hwithin, hrun outer tail htail]
      · rename_i hstep
        cases h
        obtain ⟨hpending, hescape⟩ := not_escape_of_ended (.inl hstep)
        refine ⟨[c], rfl, by simp [hpending], fun outer tail _ => ?_⟩
        exact run_resume (hescape _) (by rw [happend, hstep]; rfl)
      · -- a number has ended before the character, so the other text has to show it too
        rename_i hstep
        cases h
        obtain ⟨hpending, hescape⟩ := not_escape_of_ended (.inr hstep)
        refine ⟨[], rfl, by simp [hpending], fun outer tail htail => ?_⟩
        obtain ⟨more, rfl⟩ : ∃ more, tail = c :: more := List.head?_eq_some_iff.1 htail
        exact run_resume_before (hescape _) (by rw [happend, hstep]; rfl)
      · cases h

end BytecodeLint.Json.Skim
