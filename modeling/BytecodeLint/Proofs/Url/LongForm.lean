import BytecodeLint.Proofs.Url.NormalForm

/-!
# Hosts that are written but not read

Labels are written with up to `Domain.maxWritten` characters, and their forms are read with up to
`Domain.maxRead`. Ideographs far apart take three digits each, so that the form of a label can be
too long although the label is not.

* `parse_ideographs`: a label of ideographs is a host.
* `canReread_apart`: seven hundred of them, fifty apart, cannot be read back.
-/
namespace BytecodeLint.Url

/-- The ASCII form of a label, behind its mark. -/
def marked (label : List Char) : List Char := Domain.mark ++ Punycode.encode label

/-- A label of ideographs. -/
structure IsIdeographic (label : List Char) : Prop where
  ne : label ≠ []
  size : label.length ≤ Domain.maxWritten
  bounds : ∀ c ∈ label, 0x20000 ≤ c.toNat ∧ c.toNat ≤ 0x2a6df

namespace IsIdeographic
variable {label : List Char}

theorem notMem (h : IsIdeographic label) {c : Char} (hc : c.toNat < 0x20000) : c ∉ label :=
  fun hmem => by
    have hlarge := (h.bounds c hmem).1
    omega

theorem isSettled (h : IsIdeographic label) : Domain.isSettled label = true := by
  have hnumbers : ∀ n ∈ Domain.numbers label, 0x20000 ≤ n ∧ n ≤ 0x2a6df := by
    intro n hn
    obtain ⟨c, hc, rfl⟩ := List.mem_map.1 hn
    exact h.bounds c hc
  rw [Domain.isSettled, Unicode.composed_ideographs fun n hn => (hnumbers n hn).1,
    beq_self_eq_true, Bool.and_true, List.all_eq_true]
  exact fun n hn => Unicode.isPermitted_ideograph (hnumbers n hn).1 (hnumbers n hn).2

theorem write?_eq (h : IsIdeographic label) : Domain.write? label = some (marked label) := by
  obtain ⟨c, cs, hcons⟩ := List.exists_cons_of_ne_nil h.ne
  have hc := (h.bounds c (hcons ▸ List.mem_cons_self)).1
  have hwide : Url.isAscii c = false := decide_eq_false (by omega)
  rw [Domain.write?, if_neg (by simp [hcons, hwide]), if_pos h.size, marked]

theorem toAscii?_eq (h : IsIdeographic label) : Domain.toAscii? label = some (marked label) := by
  have hsplit : Text.splitWhere (fun c => c == '.') label = [label] :=
    Text.splitWhere_of_none fun c hc => beq_eq_false_iff_ne.2 fun heq =>
      h.notMem (by decide) (heq ▸ hc)
  have hplain : ∀ c ∈ label, c.toNat < 0x80 ∨ 0x20000 ≤ c.toNat :=
    fun c hc => .inr (h.bounds c hc).1
  have hmark : Domain.mark.isPrefixOf label = false := by
    rw [Bool.eq_false_iff, ne_eq, List.isPrefixOf_iff_prefix]
    exact fun hmark => h.notMem (c := 'x') (by decide) (hmark.subset (by decide))
  have hwrite : [label].mapM Domain.write? = some [marked label] := by
    simp [h.write?_eq]
  refine Domain.toAscii?_of_labels h.isSettled ?_ (hsplit ▸ hwrite)
  rw [hsplit]
  intro l hl
  rw [List.mem_singleton.1 hl]
  exact ⟨hmark, Domain.isFit_of_plain h.isSettled hplain, Domain.hasRight_of_plain hplain⟩

theorem mem_marked (h : IsIdeographic label) {c : Char} (hc : c ∈ marked label) :
    c ∈ Domain.mark ∨ c = '-' ∨ ∃ d < 36, c = Punycode.digitChar d := by
  refine (List.mem_append.1 hc).imp_right fun hc => ?_
  rcases Punycode.mem_encode h.size hc with ⟨hc, hascii⟩ | hc
  · exact absurd hc (h.notMem (by omega))
  · exact hc

theorem isForbidden_marked (h : IsIdeographic label) : (marked label).any isForbidden = false := by
  have hmark : Domain.mark.any isForbidden = false := by decide
  have hdigit : ∀ d < 36, ¬isForbidden (Punycode.digitChar d) = true := by decide
  rw [List.any_eq_false]
  intro c hc
  rcases h.mem_marked hc with hc | rfl | ⟨d, hd, rfl⟩
  · exact List.any_eq_false.1 hmark c hc
  · decide
  · exact hdigit d hd

theorem dot_notMem_marked (h : IsIdeographic label) : '.' ∉ marked label :=
  Domain.dot_notMem_of_write? (h.notMem (by decide)) h.write?_eq

theorem splitWhere_marked (h : IsIdeographic label) :
    Text.splitWhere (fun c => c == '.') (marked label) = [marked label] :=
  Text.splitWhere_of_none fun _ hc => beq_eq_false_iff_ne.2 fun heq =>
    h.dot_notMem_marked (heq ▸ hc)

/-- The mark keeps a form from looking like a number. -/
theorem endsInNumber_marked (h : IsIdeographic label) : endsInNumber (marked label) = false := by
  have hcons : marked label = 'x' :: 'n' :: '-' :: '-' :: Punycode.encode label := rfl
  have hlabels : labels (marked label) = [marked label] := by
    rw [labels, h.splitWhere_marked]
    simp [hcons]
  have hnumber : ipv4Number? (marked label) = none := rfl
  have hletter : (marked label).all Char.isDigit = false := rfl
  rw [endsInNumber, hlabels, List.getLast?_singleton]
  simp only [hletter, hnumber, Bool.and_false, Option.isSome_none, Bool.or_false]

theorem specialHost_eq (h : IsIdeographic label) :
    specialHost label = .ok (.name (marked label)) := by
  have hne : (marked label).isEmpty = false := rfl
  rw [specialHost_of_head, domain, percentDecode?_of_notMem (h.notMem (by decide)),
    Option.bind_some, h.toAscii?_eq]
  · simp only [h.isForbidden_marked, hne, h.endsInNumber_marked]
    rfl
  · exact fun hhead => h.notMem (by decide) (List.mem_of_head? hhead)

/-- The host alone is all of the authority. -/
theorem readAuthority_eq (h : IsIdeographic label) (scheme : List Char) (isFollowed : Bool) :
    readAuthority scheme .special isFollowed label =
      .ok (⟨none, .name (marked label), none⟩, []) := by
  have hport : splitPort false label = (label, none) := by
    have happend := splitPort_append (fun c hc => ⟨fun heq => h.notMem (by decide) (heq ▸ hc),
      fun heq => h.notMem (by decide) (heq ▸ hc)⟩) []
    rwa [List.append_nil, splitPort, List.append_nil] at happend
  rw [readAuthority, splitUser, Text.splitLast_of_notMem (h.notMem (by decide))]
  simp only [hport]
  rw [readHost_special h.ne, h.specialHost_eq]
  rfl

end IsIdeographic

/-- A label of ideographs is a host. -/
theorem parse_ideographs {label : List Char} (h : IsIdeographic label) :
    parse ("http://".toList ++ label) = .ok
      { scheme := "http".toList
        authority := some ⟨none, .name (marked label), none⟩
        path := .segments [[]]
        query := none
        fragment := none } := by
  have hshown : ∀ c ∈ "http://".toList ++ label, 0x20 < c.toNat := by
    have hfront : "http://".toList.all (fun c => 0x20 < c.toNat) = true := by decide
    intro c hc
    rcases List.mem_append.1 hc with hc | hc
    · exact of_decide_eq_true (List.all_eq_true.1 hfront c hc)
    · have hlarge := (h.bounds c hc).1
      omega
  have hscheme : splitScheme (clean ("http://".toList ++ label)) =
      some ("http".toList, '/' :: '/' :: label) := by
    rw [clean_of_shown hshown]
    exact splitScheme_special (show schemeKind "http".toList = .special by decide)
      ('/' :: '/' :: label)
  have hcut : ∀ sep : Char, sep ≠ '/' → sep.toNat < 0x20000 →
      cutAt sep ('/' :: '/' :: label) = ('/' :: '/' :: label, none) := by
    intro sep hslash hsep
    have hnone : sep ∉ '/' :: '/' :: label := by simp [hslash, h.notMem hsep]
    have hbehind := cutAt_behind hnone none
    rwa [behind, List.append_nil] at hbehind
  have hparts : specialParts "http".toList ('/' :: '/' :: label) =
      .ok (some ⟨none, .name (marked label), none⟩, .segments [[]]) := by
    have hslash : ∀ c ∈ label, isAnySlash c = false := fun c hc => by
      rw [isAnySlash, Bool.or_eq_false_iff, beq_eq_false_iff_ne, beq_eq_false_iff_ne]
      exact ⟨fun heq => h.notMem (by decide) (heq ▸ hc), fun heq => h.notMem (by decide) (heq ▸ hc)⟩
    have hslashes := specialParts_slashes "http".toList [] h.ne hslash (fun c hc => by cases hc)
    rw [List.append_nil, h.readAuthority_eq] at hslashes
    exact hslashes
  have hfragment := hcut '#' (by decide) (by decide)
  have hquery := hcut '?' (by decide) (by decide)
  rw [parse_special hscheme (by decide), hfragment, hquery, hparts]
  simp only [Except.map, assemble, hfragment, hquery, Option.map_none]

/-- Seven hundred ideographs, fifty apart. -/
def apart : List Char := (List.range 700).map fun i => Char.ofNat (0x20000 + 50 * i)

theorem toNat_apart {i : Nat} (h : i < 700) :
    (Char.ofNat (0x20000 + 50 * i)).toNat = 0x20000 + 50 * i :=
  Punycode.toNat_ofNat (.inr ⟨by omega, by omega⟩)

theorem isIdeographic_apart : IsIdeographic apart where
  ne := by simp [apart]
  size := by simp [apart, Domain.maxWritten]
  bounds c hc := by
    obtain ⟨i, hi, rfl⟩ := List.mem_map.1 hc
    rw [List.mem_range] at hi
    rw [toNat_apart hi]
    omega

/-- The form is written, but is too long to be read. -/
theorem canReread_apart : Domain.canReread (marked apart) = false := by
  have hapart : apart.Pairwise fun a b => a.toNat + 50 ≤ b.toNat := by
    rw [apart, List.pairwise_map]
    refine List.pairwise_lt_range.imp_of_mem fun hi hj hlt => ?_
    rw [toNat_apart (List.mem_range.1 hi), toNat_apart (List.mem_range.1 hj)]
    omega
  have hlength := Punycode.le_length_encode
    (fun c hc => by have hlarge := (isIdeographic_apart.bounds c hc).1; omega) hapart
  have hcount : apart.length = 700 := by simp [apart]
  have hlong : ¬(marked apart).length ≤ Domain.mark.length + Domain.maxRead := by
    rw [marked, List.length_append, Domain.maxRead]
    omega
  have hmark : Domain.mark.isPrefixOf (marked apart) = true :=
    List.isPrefixOf_iff_prefix.2 (List.prefix_append ..)
  rw [Domain.canReread, isIdeographic_apart.splitWhere_marked]
  simp [Domain.isReadable, hmark, hlong]

end BytecodeLint.Url
