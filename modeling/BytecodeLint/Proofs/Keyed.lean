import Mathlib.Data.List.Induction
import Mathlib.Data.List.Nodup

/-!
# Items with keys

Classes are known by their names, class path entries by their texts and files by their locations.

* `find?_key_eq_some_iff`: where keys are distinct, looking up a key finds the item that has it.
* `pairwise_mergeSort_key`: sorting by a text key puts the keys in ascending order.
* `firsts` picks the first item of each key, unless the key has been seen before.
  `mem_map_firsts` and `nodup_map_firsts` say which keys are picked, `firsts_congr` and
  `firsts_append` that what was seen matters as a set and that a list can be gone through in parts,
  `firsts_eq_newcomers` which items are picked, by their places in the list.
-/
namespace BytecodeLint

theorem find?_key_eq_some_iff {α β : Type} [BEq β] [LawfulBEq β] (key : α → β) {xs : List α}
    (h : (xs.map key).Nodup) {k : β} {a : α} :
    (xs.find? fun x => key x == k) = some a ↔ a ∈ xs ∧ key a = k := by
  constructor
  · intro hfind
    exact ⟨List.mem_of_find?_eq_some hfind, by simpa using List.find?_some hfind⟩
  · rintro ⟨hmem, rfl⟩
    obtain ⟨b, hb⟩ : ∃ b, (xs.find? fun x => key x == key a) = some b :=
      Option.isSome_iff_exists.1 (List.find?_isSome.2 ⟨a, hmem, by simp⟩)
    have hkey : key b = key a := by simpa using List.find?_some hb
    obtain rfl : b = a := List.inj_on_of_nodup_map h (List.mem_of_find?_eq_some hb) hmem hkey
    exact hb

/-- Sorting by a text key puts the keys in ascending order. -/
theorem pairwise_mergeSort_key {α : Type} (key : α → String) (xs : List α) :
    (xs.mergeSort fun a b => key a ≤ key b).Pairwise fun a b => key a ≤ key b := by
  have hsorted : (xs.mergeSort fun a b => key a ≤ key b).Pairwise
      fun a b => decide (key a ≤ key b) = true := by
    apply List.pairwise_mergeSort
    · intro a b c hab hbc
      rw [decide_eq_true_eq] at *
      exact String.le_trans hab hbc
    · intro a b
      rw [Bool.or_eq_true, decide_eq_true_eq, decide_eq_true_eq]
      exact String.le_total (key a) (key b)
  exact hsorted.imp of_decide_eq_true

/-! ## The first item of each key -/

variable {α : Type} (key : α → String)

/-- The items of a list whose keys are new: of each key that has not been seen, the first one. -/
def firsts (seen : List String) : List α → List α
  | [] => []
  | a :: rest =>
    if seen.contains (key a) then firsts seen rest else a :: firsts (key a :: seen) rest

theorem firsts_cons_of_mem {seen : List String} {a : α} (h : key a ∈ seen) (rest : List α) :
    firsts key seen (a :: rest) = firsts key seen rest := by
  simp [firsts, h]

theorem firsts_cons_of_notMem {seen : List String} {a : α} (h : key a ∉ seen) (rest : List α) :
    firsts key seen (a :: rest) = a :: firsts key (key a :: seen) rest := by
  simp [firsts, h]

theorem firsts_sublist (seen : List String) (xs : List α) : (firsts key seen xs).Sublist xs := by
  induction xs generalizing seen with
  | nil => exact .slnil
  | cons a rest ih =>
    by_cases h : key a ∈ seen
    · rw [firsts_cons_of_mem key h]
      exact (ih seen).cons a
    · rw [firsts_cons_of_notMem key h]
      exact (ih _).cons_cons a

/-- The keys that are picked are the new ones. -/
theorem mem_map_firsts {seen : List String} {xs : List α} {k : String} :
    k ∈ (firsts key seen xs).map key ↔ k ∈ xs.map key ∧ k ∉ seen := by
  induction xs generalizing seen with
  | nil => simp [firsts]
  | cons a rest ih =>
    rw [List.map_cons, List.mem_cons]
    by_cases h : key a ∈ seen
    · have hk : k = key a → k ∈ seen := fun hk => hk ▸ h
      rw [firsts_cons_of_mem key h, ih]
      exact ⟨fun hm => ⟨.inr hm.1, hm.2⟩, fun hm => ⟨hm.1.resolve_left fun he => hm.2 (hk he), hm.2⟩⟩
    · have hk : k = key a → k ∉ seen := fun hk => hk ▸ h
      rw [firsts_cons_of_notMem key h, List.map_cons, List.mem_cons, ih, List.mem_cons, not_or]
      constructor
      · rintro (he | ⟨hm, -, hnew⟩)
        · exact ⟨.inl he, hk he⟩
        · exact ⟨.inr hm, hnew⟩
      · rintro ⟨hm, hnew⟩
        by_cases he : k = key a
        · exact .inl he
        · exact .inr ⟨hm.resolve_left he, he, hnew⟩

theorem nodup_map_firsts (seen : List String) (xs : List α) :
    ((firsts key seen xs).map key).Nodup := by
  induction xs generalizing seen with
  | nil => exact List.nodup_nil
  | cons a rest ih =>
    by_cases h : key a ∈ seen
    · rw [firsts_cons_of_mem key h]
      exact ih seen
    · rw [firsts_cons_of_notMem key h, List.map_cons, List.nodup_cons]
      exact ⟨fun hm => ((mem_map_firsts key).1 hm).2 List.mem_cons_self, ih _⟩

theorem firsts_congr {seen seen' : List String} (h : ∀ k, k ∈ seen ↔ k ∈ seen') (xs : List α) :
    firsts key seen xs = firsts key seen' xs := by
  induction xs generalizing seen seen' with
  | nil => rfl
  | cons a rest ih =>
    by_cases ha : key a ∈ seen
    · rw [firsts_cons_of_mem key ha, firsts_cons_of_mem key ((h _).1 ha), ih h]
    · rw [firsts_cons_of_notMem key ha, firsts_cons_of_notMem key fun ha' => ha ((h _).2 ha')]
      congr 1
      refine ih fun k => ?_
      rw [List.mem_cons, List.mem_cons, h]

theorem firsts_append (seen : List String) (xs ys : List α) :
    firsts key seen (xs ++ ys) = firsts key seen xs ++ firsts key (xs.map key ++ seen) ys := by
  induction xs generalizing seen with
  | nil => rfl
  | cons a rest ih =>
    rw [List.cons_append]
    by_cases h : key a ∈ seen
    · have hseen (k : String) : k ∈ rest.map key ++ seen ↔ k ∈ (a :: rest).map key ++ seen := by
        have hk : k = key a → k ∈ seen := fun hk => hk ▸ h
        grind
      rw [firsts_cons_of_mem key h, firsts_cons_of_mem key h, ih, firsts_congr key hseen]
    · have hseen (k : String) :
          k ∈ rest.map key ++ key a :: seen ↔ k ∈ (a :: rest).map key ++ seen := by
        grind
      rw [firsts_cons_of_notMem key h, firsts_cons_of_notMem key h, ih, firsts_congr key hseen,
        List.cons_append]

/-- The items of a list whose keys no item before them has. -/
def newcomers (xs : List α) : List α :=
  (xs.zipIdx.filter fun (a, i) => (xs.take i).all fun b => key b != key a).map Prod.fst

/-- When nothing has been seen, an item is picked unless one before it has its key. -/
theorem firsts_eq_newcomers (xs : List α) : firsts key [] xs = newcomers key xs := by
  induction xs using List.reverseRecOn with
  | nil => rfl
  | append_singleton xs a ih =>
    have hfront : (xs.zipIdx.filter fun (b, i) => ((xs ++ [a]).take i).all fun d => key d != key b) =
        xs.zipIdx.filter fun (b, i) => (xs.take i).all fun d => key d != key b := by
      refine List.filter_congr fun (b, i) hmem => ?_
      have hlt : i < xs.length := by
        have := List.mem_zipIdx hmem
        omega
      dsimp only
      rw [List.take_append_of_le_length (by omega)]
    rw [firsts_append, ih, newcomers, newcomers, List.zipIdx_append, List.filter_append, hfront,
      List.map_append]
    congr 1
    by_cases h : key a ∈ xs.map key
    · obtain ⟨b, hb, hkey⟩ := List.mem_map.1 h
      have hall : (xs.all fun d => key d != key a) = false :=
        List.all_eq_false.2 ⟨b, hb, by simp [hkey]⟩
      simp [firsts, h, hall]
    · have hall : (xs.all fun d => key d != key a) = true :=
        List.all_eq_true.2 fun d hd => bne_iff_ne.2 fun hkey => h (List.mem_map.2 ⟨d, hd, hkey⟩)
      simp [firsts, h, hall]

end BytecodeLint
