/-!
# Counting what has not been seen

A search that marks keys as seen ends because finitely many items have unseen keys: marking a key
never raises their number, and lowers it when an item has that key and it was not seen before.
-/

namespace BytecodeLint

variable {α β : Type} [BEq β]

/-- The number of items whose key has not been seen. -/
def unseen (key : α → β) (items : List α) (seen : List β) : Nat :=
  items.countP fun a => !seen.contains (key a)

theorem unseen_cons_le (key : α → β) (items : List α) (seen : List β) (k : β) :
    unseen key items (k :: seen) ≤ unseen key items seen := by
  refine List.countP_mono_left fun a _ h => ?_
  simp only [List.contains_cons, Bool.not_or, Bool.and_eq_true] at h
  exact h.2

theorem unseen_cons_lt [LawfulBEq β] (key : α → β) {items : List α} {seen : List β} {a : α}
    (hmem : a ∈ items) (hnew : seen.contains (key a) = false) :
    unseen key items (key a :: seen) < unseen key items seen := by
  obtain ⟨before, after, hsplit⟩ := List.append_of_mem hmem
  have h1 := unseen_cons_le key before seen (key a)
  have h2 := unseen_cons_le key after seen (key a)
  have hin : (!(key a :: seen).contains (key a)) = false := by simp
  have hout : (!seen.contains (key a)) = true := by rw [hnew]; rfl
  unfold unseen at *
  rw [hsplit, List.countP_append, List.countP_append, List.countP_cons, List.countP_cons, hin, hout]
  simp only [↓reduceIte, Bool.false_eq_true]
  omega

end BytecodeLint
