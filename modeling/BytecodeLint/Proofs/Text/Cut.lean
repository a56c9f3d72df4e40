import BytecodeLint.Proofs.Path

/-!
# Cutting what was put together

A text that was put together with a separator is cut there again, as long as the parts do not hold
the separator themselves.

* `splitOnce_append_sep`, `splitLast_append_sep`: two parts, cut at the first or the last separator.
* `splitWhere_joinWith`: any number of parts.
-/
namespace BytecodeLint.Text

variable {sep : Char} {before after : List Char}

theorem splitOnce_append_sep (h : sep ∉ before) (after : List Char) :
    splitOnce sep (before ++ sep :: after) = some (before, after) := by
  induction before with
  | nil => simp [splitOnce]
  | cons c before ih =>
    rw [List.mem_cons, not_or] at h
    rw [List.cons_append, splitOnce, if_neg (Ne.symm h.1), ih h.2]
    rfl

theorem splitOnce_of_notMem {cs : List Char} (h : sep ∉ cs) : splitOnce sep cs = none := by
  induction cs with
  | nil => rfl
  | cons c cs ih =>
    rw [List.mem_cons, not_or] at h
    rw [splitOnce, if_neg (Ne.symm h.1), ih h.2]
    rfl

theorem of_splitOnce {cs : List Char} (h : splitOnce sep cs = some (before, after)) :
    cs = before ++ sep :: after ∧ sep ∉ before := by
  induction cs generalizing before with
  | nil => cases h
  | cons c cs ih =>
    rw [splitOnce] at h
    by_cases hc : c = sep
    · rw [if_pos hc] at h
      cases h
      exact ⟨by rw [hc]; rfl, List.not_mem_nil⟩
    · rw [if_neg hc, Option.map_eq_some_iff] at h
      obtain ⟨⟨before', after'⟩, hcut, heq⟩ := h
      cases heq
      obtain ⟨hcs, hnone⟩ := ih hcut
      exact ⟨by rw [hcs]; rfl, List.not_mem_cons_of_ne_of_not_mem (Ne.symm hc) hnone⟩

theorem splitLast_append_sep (before : List Char) (h : sep ∉ after) :
    splitLast sep (before ++ sep :: after) = some (before, after) := by
  rw [splitLast, List.reverse_append, List.reverse_cons, List.append_assoc, List.singleton_append,
    splitOnce_append_sep (by rwa [List.mem_reverse])]
  simp

theorem splitLast_of_notMem {cs : List Char} (h : sep ∉ cs) : splitLast sep cs = none := by
  rw [splitLast, splitOnce_of_notMem (by rwa [List.mem_reverse])]
  rfl

theorem of_splitLast {cs : List Char} (h : splitLast sep cs = some (before, after)) :
    cs = before ++ sep :: after ∧ sep ∉ after := by
  rw [splitLast, Option.map_eq_some_iff] at h
  obtain ⟨⟨after', before'⟩, hcut, heq⟩ := h
  cases heq
  obtain ⟨hcs, hnone⟩ := of_splitOnce hcut
  rw [List.reverse_eq_iff] at hcs
  exact ⟨by simp [hcs], by rwa [List.mem_reverse]⟩

theorem splitWhere_joinWith {p : Char → Bool} (hsep : p sep = true) {parts : List (List Char)}
    (hne : parts ≠ []) (hparts : ∀ part ∈ parts, ∀ c ∈ part, p c = false) :
    splitWhere p (joinWith [sep] parts) = parts := by
  fun_induction joinWith [sep] parts with
  | case1 => exact absurd rfl hne
  | case2 part => exact splitWhere_of_none (hparts part List.mem_cons_self)
  | case3 part parts hnil ih =>
    have hne' : parts ≠ [] := fun h => hnil (by rw [h])
    rw [List.append_assoc, List.singleton_append, splitWhere_append_sep hsep,
      splitWhere_of_none (hparts part List.mem_cons_self),
      ih hne' fun part' h => hparts part' (List.mem_cons_of_mem _ h), List.singleton_append]

theorem mem_joinWith {parts : List (List Char)} {c : Char} (h : c ∈ joinWith [sep] parts) :
    c = sep ∨ ∃ part ∈ parts, c ∈ part := by
  fun_induction joinWith [sep] parts with
  | case1 => cases h
  | case2 part => exact .inr ⟨part, List.mem_cons_self, h⟩
  | case3 part parts hnil ih =>
    rw [List.append_assoc, List.mem_append, List.mem_append, List.mem_singleton] at h
    rcases h with h | h | h
    · exact .inr ⟨part, List.mem_cons_self, h⟩
    · exact .inl h
    · refine (ih h).imp_right fun hlater => ?_
      obtain ⟨part', hmem, hc⟩ := hlater
      exact ⟨part', List.mem_cons_of_mem _ hmem, hc⟩

end BytecodeLint.Text
