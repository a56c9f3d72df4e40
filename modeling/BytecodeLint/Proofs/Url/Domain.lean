import BytecodeLint.Proofs.Except
import BytecodeLint.Proofs.Unicode.Table
import BytecodeLint.Proofs.Url.Punycode
import BytecodeLint.Url.Domain.Basic
import Mathlib.Data.List.Forall2

/-!
# Domains in ASCII are settled

The ASCII form of a domain is a domain again, and its own ASCII form: mapping leaves its characters
as they are, and each of its labels shows the label that it was written for. Only a form that is too
long is not read. So a label can be written, with up to `maxWritten` characters, and be refused
afterwards, if its form has more than `maxRead`.

* `reveal?_of_write?`: a label that has been written is shown again, if its form can be read.
* `toAscii?_of_toAscii?`: so a domain in ASCII is settled, or else refused.
-/
namespace BytecodeLint.Url.Domain

theorem mapM_eq_some_iff {α β : Type} {f : α → Option β} {xs : List α} {ys : List β} :
    xs.mapM f = some ys ↔ List.Forall₂ (fun x y => f x = some y) xs ys := by
  induction xs generalizing ys with
  | nil => simp [eq_comm]
  | cons x xs ih =>
    simp only [List.mapM_cons, Option.bind_eq_bind, Option.pure_def, Option.bind_eq_some_iff,
      Option.some.injEq, List.forall₂_cons_left_iff]
    constructor
    · rintro ⟨y, hy, ys', hys, rfl⟩
      exact ⟨y, ys', hy, ih.1 hys, rfl⟩
    · rintro ⟨y, ys', hy, hys, rfl⟩
      exact ⟨y, hy, ys', ih.2 hys, rfl⟩

/-! ## Characters that stand for themselves -/

/-- Whether a character is in ASCII and stands for itself. -/
def isSimple (c : Char) : Bool := isAscii c && isPermitted c.toNat

theorem isSettled_of_isSimple {cs : List Char} (h : ∀ c ∈ cs, isSimple c = true) :
    isSettled cs = true := by
  have hnumbers : ∀ n ∈ numbers cs, n < 0x80 ∧ isPermitted n = true := by
    intro n hn
    obtain ⟨c, hc, rfl⟩ := List.mem_map.1 hn
    have hsimple := h c hc
    rwa [isSimple, Bool.and_eq_true, isAscii, decide_eq_true_eq] at hsimple
  have hlow : (numbers cs).all (fun n => n < 0x300) = true :=
    List.all_eq_true.2 fun n hn => decide_eq_true (by have hascii := (hnumbers n hn).1; omega)
  rw [isSettled, Unicode.composed, if_pos hlow, beq_self_eq_true, Bool.and_true, List.all_eq_true]
  exact fun n hn => (hnumbers n hn).2

theorem mapChar?_of_isPermitted {n : Nat} (h : isPermitted n = true) : mapChar? n = some [n] := by
  by_cases hascii : n < 0x80
  · rw [isPermitted, if_pos hascii, Bool.or_eq_true, decide_eq_true_eq, decide_eq_true_eq] at h
    rw [mapChar?, if_pos hascii, if_neg (by omega)]
  · rw [mapChar?, if_neg hascii, if_pos h]

/-- Mapping leaves a settled text as it is. -/
theorem mapped?_of_isSettled {cs : List Char} (h : isSettled cs = true) : mapped? cs = some cs := by
  rw [isSettled, Bool.and_eq_true, List.all_eq_true, beq_iff_eq] at h
  have hmap : (numbers cs).mapM mapChar? = some ((numbers cs).map fun n => [n]) := by
    rw [mapM_eq_some_iff, List.forall₂_map_right_iff, List.forall₂_same]
    exact fun n hn => mapChar?_of_isPermitted (h.1 n hn)
  have hflatten : ((numbers cs).map fun n => [n]).flatten = numbers cs := by
    induction numbers cs <;> simp_all
  rw [mapped?, hmap]
  simp only [Option.bind_eq_bind, Option.bind_some]
  rw [hflatten, h.2, numbers, List.map_map]
  simp [Function.comp_def, Char.ofNat_toNat]

theorem isSimple_digitChar {d : Nat} (h : d < 36) :
    isSimple (Punycode.digitChar d) = true ∧ Punycode.digitChar d ≠ '.' := by
  have hall : ∀ d < 36, isSimple (Punycode.digitChar d) = true ∧ Punycode.digitChar d ≠ '.' := by
    decide
  exact hall d h

/-! ## Labels -/

/-- A label as it is shown: in ASCII only if no form could be meant. -/
structure Shown (label : List Char) : Prop where
  dot : '.' ∉ label
  unmarked : label.all isAscii = true → mark.isPrefixOf label = false

theorem Shown.of_reveal? {label shown : List Char} (hdot : '.' ∉ label)
    (h : reveal? label = some shown) : Shown shown := by
  rw [reveal?] at h
  split at h
  · simp only at h
    split at h
    · rw [Option.filter_eq_some_iff] at h
      obtain ⟨hdecode, hwide⟩ := h
      refine ⟨fun hmem => ?_, fun hascii => by simp [hascii] at hwide⟩
      -- a form stands for no ASCII character that it does not hold itself
      rcases Punycode.decode?_mem hdecode hmem with hmem | hlarge
      · exact hdot (List.mem_of_mem_drop hmem)
      · exact absurd hlarge (by decide)
    · cases h
  · rename_i hmark
    cases h
    exact ⟨hdot, fun _ => Bool.eq_false_iff.2 hmark⟩

/-- Whether a label can be read: it is no ASCII form, or not too long. -/
def isReadable (label : List Char) : Bool :=
  !mark.isPrefixOf label || label.length ≤ mark.length + maxRead

theorem isPermitted_of_isFit {label : List Char} (h : isFit label = true) :
    ∀ c ∈ label, isPermitted c.toNat = true := by
  intro c hc
  simp only [isFit, isSettled, Bool.and_eq_true, List.all_eq_true] at h
  exact h.1.1.1 _ (List.mem_map_of_mem hc)

/-- A label is written in simple characters. -/
theorem isSimple_of_write? {label text : List Char} (hfit : isFit label = true)
    (h : write? label = some text) : ∀ c ∈ text, isSimple c = true := by
  have hpermitted := isPermitted_of_isFit hfit
  rw [write?] at h
  intro c hc
  split at h
  · rename_i hascii
    cases h
    rw [isSimple, List.all_eq_true.1 hascii c hc, hpermitted c hc]
    rfl
  · split at h
    · rename_i hsize
      cases h
      rcases List.mem_append.1 hc with hc | hc
      · have hmark : mark.all isSimple = true := by decide
        exact List.all_eq_true.1 hmark c hc
      · rcases Punycode.mem_encode hsize hc with ⟨hc, hascii⟩ | rfl | ⟨d, hd, rfl⟩
        · rw [isSimple, hpermitted c hc, isAscii, decide_eq_true hascii]
          rfl
        · decide
        · exact (isSimple_digitChar hd).1
    · cases h

theorem dot_notMem_of_write? {label text : List Char} (hdot : '.' ∉ label)
    (h : write? label = some text) : '.' ∉ text := by
  rw [write?] at h
  split at h
  · cases h
    exact hdot
  · split at h
    · rename_i hsize
      cases h
      rw [List.mem_append, not_or]
      refine ⟨by decide, fun hmem => ?_⟩
      rcases Punycode.mem_encode hsize hmem with ⟨hmem, -⟩ | heq | ⟨d, hd, heq⟩
      · exact hdot hmem
      · exact absurd heq (by decide)
      · exact (isSimple_digitChar hd).2 heq.symm
    · cases h

/-- A label that has been written is shown again, if its form can be read. -/
theorem reveal?_of_write? {label text : List Char} (hshown : Shown label)
    (hfit : isFit label = true) (h : write? label = some text) :
    reveal? text = if isReadable text then some label else none := by
  have hsimple := isSimple_of_write? hfit h
  rw [write?] at h
  split at h
  · rename_i hascii
    cases h
    have hmark := hshown.unmarked hascii
    rw [reveal?, isReadable, hmark]
    rfl
  · rename_i hwide
    split at h
    · rename_i hsize
      cases h
      have hmark : mark.isPrefixOf (mark ++ Punycode.encode label) = true :=
        List.isPrefixOf_iff_prefix.2 (List.prefix_append ..)
      have hascii : (Punycode.encode label).all isAscii = true := by
        rw [List.all_eq_true]
        intro c hc
        have hc := hsimple c (List.mem_append_right _ hc)
        rw [isSimple, Bool.and_eq_true] at hc
        exact hc.1
      rw [reveal?, isReadable, if_pos hmark, hmark, List.drop_left, List.length_append]
      simp only [hascii, Punycode.decode?_encode hsize, Bool.true_and, Bool.not_true,
        Bool.false_or, Nat.add_le_add_iff_left]
      split
      · rw [Option.filter_some, if_pos (by simpa using hwide)]
      · rfl
    · cases h

/-! ## Domains -/

theorem of_toAscii? {cs text : List Char} (h : toAscii? cs = some text) :
    ∃ labels texts, labels ≠ [] ∧ (∀ label ∈ labels, Shown label) ∧ isDomain labels = true ∧
      labels.mapM write? = some texts ∧ text = Text.joinWith ['.'] texts := by
  simp only [toAscii?, Option.bind_eq_bind, Option.bind_eq_some_iff] at h
  obtain ⟨mapped, -, labels, hlabels, h⟩ := h
  split at h
  · rename_i hdomain
    rw [Option.bind_eq_some_iff] at h
    obtain ⟨texts, htexts, heq⟩ := h
    cases heq
    refine ⟨labels, texts, ?_, fun label hlabel => ?_, hdomain, htexts, rfl⟩
    · intro hnil
      rw [mapM_eq_some_iff, hnil, List.forall₂_nil_right_iff] at hlabels
      exact Text.splitWhere_ne_nil _ hlabels
    · obtain ⟨piece, hpiece, hreveal⟩ := exists_of_mem_mapM_some hlabels hlabel
      refine Shown.of_reveal? (fun hdot => ?_) hreveal
      simpa using Text.sep_of_mem_splitWhere hpiece _ hdot
  · cases h

/-- Labels that have been written are shown again, if all of them can be read. -/
theorem mapM_reveal?_of_write? {labels texts : List (List Char)}
    (hshown : ∀ label ∈ labels, Shown label) (hfit : ∀ label ∈ labels, isFit label = true)
    (h : labels.mapM write? = some texts) :
    texts.mapM reveal? = if texts.all isReadable then some labels else none := by
  rw [mapM_eq_some_iff] at h
  induction h with
  | nil => rfl
  | cons hwrite _ ih =>
    rw [List.mapM_cons, ih (fun l hl => hshown l (List.mem_cons_of_mem _ hl))
        (fun l hl => hfit l (List.mem_cons_of_mem _ hl)), List.all_cons,
      reveal?_of_write? (hshown _ List.mem_cons_self) (hfit _ List.mem_cons_self) hwrite]
    split
    · rename_i hreadable
      rw [hreadable]
      split <;> simp_all
    · rename_i hlong
      simp [hlong]

/-- Whether all labels of a domain can be read. -/
def canReread (cs : List Char) : Bool :=
  (Text.splitWhere (fun c => c == '.') cs).all isReadable

/-- A domain in ASCII is its own ASCII form, if it can be read. -/
theorem toAscii?_of_toAscii? {cs text : List Char} (h : toAscii? cs = some text) :
    toAscii? text = if canReread text then some text else none := by
  obtain ⟨labels, texts, hne, hshown, hdomain, hwrite, rfl⟩ := of_toAscii? h
  have hfit : ∀ label ∈ labels, isFit label = true := by
    rw [isDomain, Bool.and_eq_true, List.all_eq_true] at hdomain
    exact hdomain.1
  have hne' : texts ≠ [] := by
    rintro rfl
    rw [mapM_eq_some_iff, List.forall₂_nil_right_iff] at hwrite
    exact hne hwrite
  have hsimple : ∀ c ∈ Text.joinWith ['.'] texts, isSimple c = true := by
    intro c hc
    rcases Text.mem_joinWith hc with rfl | ⟨text, htext, hc⟩
    · decide
    · obtain ⟨label, hlabel, hlabel'⟩ := exists_of_mem_mapM_some hwrite htext
      exact isSimple_of_write? (hfit label hlabel) hlabel' c hc
  have hsplit : Text.splitWhere (fun c => c == '.') (Text.joinWith ['.'] texts) = texts := by
    refine Text.splitWhere_joinWith rfl hne' fun text htext c hc => ?_
    obtain ⟨label, hlabel, hlabel'⟩ := exists_of_mem_mapM_some hwrite htext
    have hdot := dot_notMem_of_write? (hshown label hlabel).dot hlabel'
    exact beq_eq_false_iff_ne.2 fun heq => hdot (heq ▸ hc)
  rw [toAscii?, mapped?_of_isSettled (isSettled_of_isSimple hsimple), canReread, hsplit]
  simp only [Option.bind_eq_bind, Option.bind_some]
  rw [hsplit, mapM_reveal?_of_write? hshown hfit hwrite]
  split
  · simp [hdomain, hwrite]
  · rfl

theorem canReread_of_toAscii? {text : List Char} (h : toAscii? text = some text) :
    canReread text = true := by
  have hagain := toAscii?_of_toAscii? h
  rw [h] at hagain
  split at hagain
  · assumption
  · cases hagain

/-! ## Labels in ASCII, and of ideographs -/

section
variable {label : List Char}

theorem joinersFit_of_plain (hplain : ∀ c ∈ label, c.toNat < 0x80 ∨ 0x20000 ≤ c.toNat)
    (before : List Char) : joinersFit before label = true := by
  induction label generalizing before with
  | nil => rfl
  | cons c after ih =>
    have hc := hplain c List.mem_cons_self
    have hjoiner : ¬(c = joiner ∨ c = nonJoiner) := by
      rintro (rfl | rfl)
      · exact absurd hc (by decide)
      · exact absurd hc (by decide)
    rw [joinersFit, joinerFits, if_neg hjoiner, ih fun d hd => hplain d (List.mem_cons_of_mem _ hd)]
    rfl

/-- A label in ASCII or of ideographs needs no more than permitted characters in composed form. -/
theorem isFit_of_plain (hsettled : isSettled label = true)
    (hplain : ∀ c ∈ label, c.toNat < 0x80 ∨ 0x20000 ≤ c.toNat) : isFit label = true := by
  have hmark : startsWithMark label = false := by
    cases label with
    | nil => rfl
    | cons c label =>
      have hc := hplain c List.mem_cons_self
      rw [startsWithMark, List.head?_cons, Option.any_some, Unicode.isMark_eq_false (by omega)]
  rw [isFit, hsettled, hmark, joinersFit_of_plain hplain]
  rfl

theorem hasRight_of_plain (hplain : ∀ c ∈ label, c.toNat < 0x80 ∨ 0x20000 ≤ c.toNat) :
    hasRight label = false := by
  rw [hasRight, List.any_eq_false]
  intro d hd
  obtain ⟨c, hc, rfl⟩ := List.mem_map.1 hd
  have hleft := Unicode.isRight_direction (hplain c hc)
  rw [Unicode.Direction.isRight] at hleft
  rw [hleft]
  decide

end

/-- A domain whose labels mean themselves. -/
theorem toAscii?_of_labels {cs : List Char} {texts : List (List Char)}
    (hsettled : isSettled cs = true)
    (hlabels : ∀ label ∈ Text.splitWhere (fun c => c == '.') cs,
      mark.isPrefixOf label = false ∧ isFit label = true ∧ hasRight label = false)
    (hwrite : (Text.splitWhere (fun c => c == '.') cs).mapM write? = some texts) :
    toAscii? cs = some (Text.joinWith ['.'] texts) := by
  have hreveal : (Text.splitWhere (fun c => c == '.') cs).mapM reveal? =
      some (Text.splitWhere (fun c => c == '.') cs) := by
    rw [mapM_eq_some_iff, List.forall₂_same]
    intro label hlabel
    rw [reveal?, (hlabels label hlabel).1]
    rfl
  have hdomain : isDomain (Text.splitWhere (fun c => c == '.') cs) = true := by
    have hfit := List.all_eq_true.2 fun label hlabel => (hlabels label hlabel).2.1
    have hright := List.any_eq_false.2 fun label hlabel =>
      Bool.eq_false_iff.1 (hlabels label hlabel).2.2
    rw [isDomain, hfit, hright]
    rfl
  rw [toAscii?, mapped?_of_isSettled hsettled]
  simp only [Option.bind_eq_bind, Option.bind_some]
  rw [hreveal, Option.bind_some, if_pos hdomain, hwrite, Option.bind_some]

/-- A domain in ASCII that holds no forms is its own ASCII form. -/
theorem toAscii?_joinWith {labels : List (List Char)} (hne : labels ≠ [])
    (hsimple : ∀ label ∈ labels, ∀ c ∈ label, isSimple c = true ∧ c ≠ '.')
    (hmarks : ∀ label ∈ labels, mark.isPrefixOf label = false) :
    toAscii? (Text.joinWith ['.'] labels) = some (Text.joinWith ['.'] labels) := by
  have hsplit : Text.splitWhere (fun c => c == '.') (Text.joinWith ['.'] labels) = labels :=
    Text.splitWhere_joinWith rfl hne fun label hlabel c hc =>
      beq_eq_false_iff_ne.2 (hsimple label hlabel c hc).2
  have hascii : ∀ label ∈ labels, ∀ c ∈ label, isAscii c = true := by
    intro label hlabel c hc
    have hc := (hsimple label hlabel c hc).1
    rw [isSimple, Bool.and_eq_true] at hc
    exact hc.1
  have hplain : ∀ label ∈ labels, ∀ c ∈ label, c.toNat < 0x80 ∨ 0x20000 ≤ c.toNat :=
    fun label hlabel c hc => .inl (of_decide_eq_true (hascii label hlabel c hc))
  refine toAscii?_of_labels (isSettled_of_isSimple fun c hc => ?_) ?_ ?_
  · rcases Text.mem_joinWith hc with rfl | ⟨label, hlabel, hc⟩
    · decide
    · exact (hsimple label hlabel c hc).1
  · rw [hsplit]
    exact fun label hlabel => ⟨hmarks label hlabel,
      isFit_of_plain (isSettled_of_isSimple fun c hc => (hsimple label hlabel c hc).1)
        (hplain label hlabel), hasRight_of_plain (hplain label hlabel)⟩
  · rw [hsplit, mapM_eq_some_iff, List.forall₂_same]
    intro label hlabel
    rw [write?, if_pos (List.all_eq_true.2 (hascii label hlabel))]

end BytecodeLint.Url.Domain
