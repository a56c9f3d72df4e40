import BytecodeLint.Unicode.Composition
import BytecodeLint.Unicode.Direction
import BytecodeLint.Url.Domain.Mapping
import Mathlib.Data.List.Chain

/-!
# Looking up characters

A number is looked up by halving a table. Whatever the table, what is found holds the number; and if
the spans of the table ascend, a span that holds the number is found. So what a table says of many
characters at once is read off its spans:

* `find?_eq_none`: a number that no span holds is not found.
* `find?_of_mem`: in a table that ascends, a number is found in its span.
-/
namespace BytecodeLint.Unicode

namespace Span

variable {α : Type} {spans : Array (Span α)} {n : Nat}

/-! ## Halving -/

theorem countUpTo_of_pos {low high : Nat} (h : countUpTo spans n low high ≠ low) :
    ∃ i span, countUpTo spans n low high = i + 1 ∧ spans[i]? = some span ∧ span.first ≤ n := by
  fun_induction countUpTo spans n low high with
  | case1 low high hlt middle span hspan hle ih =>
    by_cases hlast : countUpTo spans n (middle + 1) high = middle + 1
    · exact ⟨middle, span, hlast, hspan, hle⟩
    · exact ih hlast
  | case2 low high hlt middle span hspan hgt ih => exact ih h
  | case3 => exact absurd rfl h
  | case4 => exact absurd rfl h

/-- The span that is found holds the number. -/
theorem of_find? {span : Span α} (h : find? spans n = some span) :
    span ∈ spans ∧ span.first ≤ n ∧ n ≤ span.last := by
  rw [find?] at h
  split at h
  · cases h
  · rename_i i hcount
    obtain ⟨j, span', hcount', hspan', hle⟩ :=
      countUpTo_of_pos (show countUpTo spans n 0 spans.size ≠ 0 by omega)
    obtain rfl : j = i := by omega
    rw [hspan', Option.filter_eq_some_iff, Option.some.injEq] at h
    obtain ⟨rfl, hlast⟩ := h
    exact ⟨Array.mem_of_getElem? hspan', hle, of_decide_eq_true hlast⟩

theorem find?_eq_none (h : ∀ span ∈ spans, n < span.first ∨ span.last < n) :
    find? spans n = none := by
  rw [Option.eq_none_iff_forall_ne_some]
  intro span hspan
  obtain ⟨hmem, hfirst, hlast⟩ := of_find? hspan
  have hout := h span hmem
  omega

/-- A span that lies wholly before another. -/
def Before (a b : Span α) : Prop := a.first ≤ a.last ∧ a.last < b.first

instance : DecidableRel (Before (α := α)) := fun _ _ => inferInstanceAs (Decidable (_ ∧ _))

instance : IsTrans (Span α) Before :=
  ⟨fun _ _ _ hab hbc => ⟨hab.1, by have := hab.2; have := hbc.1; have := hbc.2; omega⟩⟩

theorem before_of_lt (hsorted : spans.toList.Pairwise Before) {i j : Nat} (hij : i < j)
    {a b : Span α} (ha : spans[i]? = some a) (hb : spans[j]? = some b) : Before a b := by
  obtain ⟨hi, rfl⟩ := Array.getElem?_eq_some_iff.1 ha
  obtain ⟨hj, rfl⟩ := Array.getElem?_eq_some_iff.1 hb
  exact List.pairwise_iff_getElem.1 hsorted i j hi hj hij

/-- In a table that ascends, the spans that are not counted start behind the number. -/
theorem lt_first_of_countUpTo_le (hsorted : spans.toList.Pairwise Before) {low high : Nat}
    (hsize : high ≤ spans.size)
    (hhigh : ∀ i span, high ≤ i → spans[i]? = some span → n < span.first) {i : Nat} {span : Span α}
    (hi : countUpTo spans n low high ≤ i) (hspan : spans[i]? = some span) : n < span.first := by
  fun_induction countUpTo spans n low high with
  | case1 low high hlt middle middleSpan hmiddle hle ih => exact ih hsize hhigh hi
  | case2 low high hlt middle middleSpan hmiddle hgt ih =>
    refine ih (by omega) (fun j later hj hlater => ?_) hi
    rcases Nat.eq_or_lt_of_le hj with rfl | hj
    · rw [hmiddle, Option.some.injEq] at hlater
      rw [← hlater]
      omega
    · obtain ⟨hfirst, hlast⟩ := before_of_lt hsorted hj hmiddle hlater
      omega
  | case3 low high hlt middle hnone =>
    rw [Array.getElem?_eq_none_iff] at hnone
    omega
  | case4 low high hge => exact hhigh i span (by omega) hspan

theorem find?_of_mem (hsorted : spans.toList.Pairwise Before) {span : Span α}
    (hmem : span ∈ spans) (hfirst : span.first ≤ n) (hlast : n ≤ span.last) :
    find? spans n = some span := by
  obtain ⟨k, hspan⟩ := Array.getElem?_of_mem hmem
  have hpassed : k < countUpTo spans n 0 spans.size := by
    refine Nat.lt_of_not_le fun hle => ?_
    have hout := lt_first_of_countUpTo_le hsorted (Nat.le_refl _) (fun i span hi hi' => by
      rw [Array.getElem?_eq_none hi] at hi'
      cases hi') hle hspan
    omega
  obtain ⟨i, span', hcount, hspan', hle⟩ :=
    countUpTo_of_pos (show countUpTo spans n 0 spans.size ≠ 0 by omega)
  -- the last span that is counted is this one: a later one would start behind the number
  obtain rfl : k = i := by
    refine Nat.le_antisymm (by omega) (Nat.le_of_not_lt fun hlt => ?_)
    have hbefore := (before_of_lt hsorted hlt hspan hspan').2
    omega
  rw [find?, hcount]
  simp only
  rw [hspan, Option.filter_some, if_pos (decide_eq_true hlast)]

/-! ## Tables as they are written -/

/-- The characters of lines. -/
inductive Spelled : List String → List (List Char) → Prop where
  | nil : Spelled [] []
  | cons (line : List Char) {lines : List String} {spelled : List (List Char)} :
    Spelled lines spelled → Spelled (String.ofList line :: lines) (line :: spelled)

/-- The spans of lines. -/
def ofSpelled (value? : List Char → Option α) (lines : List (List Char)) : List (Span α) :=
  lines.flatMap fun line => (Text.words line).filterMap (ofWord? value?)

theorem Spelled.toList_ofLines {lines : List String} {spelled : List (List Char)}
    (h : Spelled lines spelled) (value? : List Char → Option α) :
    (ofLines value? lines).toList = ofSpelled value? spelled := by
  rw [ofLines, List.toList_toArray, ofSpelled]
  induction h with
  | nil => rfl
  | cons line _ ih => rw [List.flatMap_cons, List.flatMap_cons, ih, String.toList_ofList]

theorem forall_mem_ofLines {value? : List Char → Option α} {lines : List String}
    {P : Span α → Prop} [DecidablePred P]
    (h : ∃ spelled, Spelled lines spelled ∧ (ofSpelled value? spelled).all (fun s => P s) = true) :
    ∀ span ∈ ofLines value? lines, P span := by
  obtain ⟨spelled, hspelled, hall⟩ := h
  intro span hspan
  rw [← Array.mem_toList_iff, hspelled.toList_ofLines] at hspan
  exact of_decide_eq_true (List.all_eq_true.1 hall span hspan)

end Span

/-! ## The tables -/

/-- Whether a direction is from right to left. -/
def Direction.isRight (d : Direction) : Bool := d == .right || d == .arabicNumber

section
set_option maxRecDepth 20000

theorem marks_bounds : ∀ span ∈ marks, 0x300 ≤ span.first ∧ span.last < 0x20000 :=
  Span.forall_mem_ofLines ⟨_, by unfold markLines; repeat constructor, by decide +kernel⟩

theorem directions_bounds : ∀ span ∈ directions,
    (0x80 ≤ span.first ∨ span.value.isRight = false) ∧ span.last < 0x20000 :=
  Span.forall_mem_ofLines ⟨_, by unfold directionLines; repeat constructor, by decide +kernel⟩

theorem pairs_bounds : ∀ span ∈ pairs, span.last < 0x20000 ∧ span.value.1 < 0x20000 :=
  Span.forall_mem_ofLines ⟨_, by unfold pairLines; repeat constructor, by decide +kernel⟩

theorem permitted_ascends : Url.Domain.permitted.toList.Pairwise Span.Before ∧
    ⟨0x20000, 0x2a6df, ()⟩ ∈ Url.Domain.permitted := by
  -- the ideographs are in the last line, and only this line is read for them
  have hspans : ∃ lines, Span.Spelled Url.Domain.permittedLines lines ∧
      (Span.ofSpelled (fun _ => some ()) lines).IsChain Span.Before ∧
      lines.getLast?.any (fun line => (Span.ofSpelled (fun _ => some ()) [line]).any
        fun span => span.first = 0x20000 ∧ span.last = 0x2a6df) = true :=
    ⟨_, by unfold Url.Domain.permittedLines; repeat constructor, by decide +kernel,
      by decide +kernel⟩
  obtain ⟨lines, hlines, hchain, hmem⟩ := hspans
  rw [← Array.mem_toList_iff, Url.Domain.permitted, hlines.toList_ofLines]
  refine ⟨List.isChain_iff_pairwise.1 hchain, ?_⟩
  obtain ⟨line, hline, hmem⟩ := (Option.any_eq_true _ _).1 hmem
  obtain ⟨⟨first, last, value⟩, hspan, hbounds⟩ := List.any_eq_true.1 hmem
  obtain ⟨rfl, rfl⟩ := of_decide_eq_true hbounds
  rw [Span.ofSpelled, List.flatMap_singleton] at hspan
  exact List.mem_flatMap.2 ⟨line, List.mem_of_getLast? hline, hspan⟩

end

variable {n : Nat}

theorem find?_marks (h : n < 0x300 ∨ 0x20000 ≤ n) : Span.find? marks n = none :=
  Span.find?_eq_none fun span hspan => by
    have hbounds := marks_bounds span hspan
    omega

theorem isMark_eq_false (h : n < 0x300 ∨ 0x20000 ≤ n) : isMark n = false := by
  rw [isMark, Span.contains, find?_marks h]
  rfl

theorem combiningClass_eq_zero (h : n < 0x300 ∨ 0x20000 ≤ n) : combiningClass n = 0 := by
  rw [combiningClass, Span.get?, find?_marks h]
  rfl

/-- Neither ASCII nor an ideograph runs from right to left. -/
theorem isRight_direction (h : n < 0x80 ∨ 0x20000 ≤ n) : (direction n).isRight = false := by
  rw [direction, Span.get?]
  cases hfind : Span.find? directions n with
  | none => rfl
  | some span =>
    obtain ⟨hmem, hfirst, hlast⟩ := Span.of_find? hfind
    obtain ⟨hright, hbound⟩ := directions_bounds span hmem
    exact hright.resolve_left (by omega)

/-! ## Ideographs are in composed form -/

theorem get?_pairs (h : 0x20000 ≤ n) : Span.get? pairs n = none := by
  have hfind : Span.find? pairs n = none := Span.find?_eq_none fun span hspan => by
    have hbounds := pairs_bounds span hspan
    omega
  rw [Span.get?, hfind]
  rfl

theorem decompose_of_none {pair? : Nat → Option (Nat × Nat)} (hpair : pair? n = none)
    (hletters : hangulLetters? n = none) (depth : Nat) : decompose pair? depth n = [n] := by
  cases depth with
  | zero => rfl
  | succ depth => rw [decompose, hpair, hletters, Option.getD_none]

theorem compose?_ideograph {m : Nat} (h : 0x20000 ≤ m) : compose? m n = none := by
  rw [compose?, hangulSyllable?, if_neg (by omega), if_neg (by omega)]
  simp only [Option.map_eq_none_iff, Array.find?_eq_none]
  intro span hspan hpair
  have hbounds := pairs_bounds span hspan
  rw [eq_of_beq hpair] at hbounds
  omega

theorem orderMarks_ideographs {ns : List Nat} (h : ∀ n ∈ ns, 0x20000 ≤ n) :
    orderMarks [] ns = ns := by
  induction ns with
  | nil => simp [orderMarks, sortMarks]
  | cons n ns ih =>
    rw [orderMarks, if_pos (combiningClass_eq_zero (.inr (h n List.mem_cons_self))),
      ih fun m hm => h m (List.mem_cons_of_mem _ hm)]
    simp [sortMarks]

/-- Ideographs are put behind each other. -/
theorem foldl_add_ideographs {ns : List Nat} (h : ∀ n ∈ ns, 0x20000 ≤ n) {j : Joint}
    (hbase : ∀ base, j.base = some base → 0x20000 ≤ base) (hmarks : j.marks = []) :
    (ns.foldl Joint.add j).text = j.text ++ ns := by
  induction ns generalizing j with
  | nil => rw [List.foldl_nil, List.append_nil]
  | cons n ns ih =>
    have hn := h n List.mem_cons_self
    have hadd : j.add n = ⟨j.base.toList ++ j.done, some n, []⟩ := by
      have hpush : j.push n = ⟨j.base.toList ++ j.done, some n, []⟩ := by
        rw [Joint.push, if_pos (combiningClass_eq_zero (.inr hn)), hmarks, List.nil_append]
      rw [Joint.add]
      split
      · rename_i base hsome
        rw [compose?_ideograph (hbase base hsome)]
        simp only
        split <;> exact hpush
      · exact hpush
    rw [List.foldl_cons, hadd, ih (fun m hm => h m (List.mem_cons_of_mem _ hm))
      (fun base hsome => by cases hsome; exact hn) rfl]
    simp [Joint.text, hmarks]

theorem composed_ideographs {ns : List Nat} (h : ∀ n ∈ ns, 0x20000 ≤ n) : composed ns = ns := by
  rw [composed]
  split
  · rfl
  · have hflat : ns.flatMap (decompose (Span.get? pairs) pairDepth) = ns := by
      rw [List.flatMap_congr fun n hn => decompose_of_none (get?_pairs (h n hn))
        (by have hn := h n hn; rw [hangulLetters?, if_neg (by omega)]) pairDepth,
        List.flatMap_singleton']
    rw [decomposed, hflat, orderMarks_ideographs h,
      foldl_add_ideographs h (fun _ hsome => by cases hsome) rfl]
    rfl

theorem isPermitted_ideograph (h : 0x20000 ≤ n) (h' : n ≤ 0x2a6df) :
    Url.Domain.isPermitted n = true := by
  obtain ⟨hsorted, hmem⟩ := permitted_ascends
  rw [Url.Domain.isPermitted, if_neg (by omega), Span.contains, Span.find?_of_mem hsorted hmem h h']
  rfl

end BytecodeLint.Unicode
