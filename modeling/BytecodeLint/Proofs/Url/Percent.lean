import BytecodeLint.Proofs.FileTree
import BytecodeLint.Url.Percent

/-!
# Percent encoding is settled

What percent encoding writes is the percent sign and digits, and those it leaves as they are. So a
text that has been encoded holds no character of the set, and encoding it again changes nothing.
A text without percent signs is left as it is by decoding.
-/
namespace BytecodeLint.Url

variable {inSet : Char → Bool} {cs : List Char}

/-- Whether encoding leaves a character as it is. -/
def isKept (inSet : Char → Bool) (c : Char) : Bool := isAscii c && !inSet c

/-- A set that leaves what encoding writes as it is. -/
structure KeepsEncoded (inSet : Char → Bool) : Prop where
  sign : inSet '%' = false
  digit : ∀ n < 16, inSet (upperHex n) = false

theorem keepsEncoded_sets : KeepsEncoded inFragmentSet ∧ KeepsEncoded inPathSet ∧
    KeepsEncoded inUserSet ∧ KeepsEncoded inSpecialQuerySet :=
  ⟨⟨by decide, by decide⟩, ⟨by decide, by decide⟩, ⟨by decide, by decide⟩, ⟨by decide, by decide⟩⟩

theorem mem_percentByte {b : UInt8} {c : Char} (h : c ∈ percentByte b) :
    c = '%' ∨ ∃ n < 16, c = upperHex n := by
  have hbyte := b.toNat_lt
  simp only [percentByte, List.mem_cons, List.not_mem_nil, or_false] at h
  rcases h with rfl | rfl | rfl
  · exact .inl rfl
  · exact .inr ⟨_, by omega, rfl⟩
  · exact .inr ⟨_, by omega, rfl⟩

/-- An encoded text holds characters of the text that are kept, and what encoding writes. -/
theorem mem_percentEncode {c : Char} (h : c ∈ percentEncode inSet cs) :
    (c ∈ cs ∧ isKept inSet c = true) ∨ c = '%' ∨ ∃ n < 16, c = upperHex n := by
  obtain ⟨d, hd, hc⟩ := List.mem_flatMap.1 h
  rw [encodeChar] at hc
  split at hc
  · rw [List.mem_singleton.1 hc]
    exact .inl ⟨hd, by assumption⟩
  · obtain ⟨b, -, hc⟩ := List.mem_flatMap.1 hc
    exact .inr (mem_percentByte hc)

theorem isKept_of_mem_percentEncode (hset : KeepsEncoded inSet) {c : Char}
    (h : c ∈ percentEncode inSet cs) : isKept inSet c = true := by
  have hascii : ∀ n < 16, isAscii (upperHex n) = true := by decide
  rcases mem_percentEncode h with ⟨-, hkept⟩ | rfl | ⟨n, hn, rfl⟩
  · exact hkept
  · rw [isKept, hset.sign]
    rfl
  · rw [isKept, hset.digit n hn, hascii n hn]
    rfl

theorem toUTF8_singleton (c : Char) :
    (String.singleton c).toUTF8.data.toList = String.utf8EncodeChar c := by
  simp [String.toUTF8, List.utf8Encode]

theorem percentEncode_eq_nil (h : percentEncode inSet cs = []) : cs = [] := by
  cases cs with
  | nil => rfl
  | cons c cs =>
    rw [percentEncode, List.flatMap_cons, List.append_eq_nil_iff, encodeChar] at h
    split at h
    · exact absurd h.1 (List.cons_ne_nil _ _)
    · rw [toUTF8_singleton, List.flatMap_eq_nil_iff] at h
      obtain ⟨b, bs, hcons⟩ := List.exists_cons_of_ne_nil (String.utf8EncodeChar_ne_nil (c := c))
      exact absurd (h.1 b (hcons ▸ List.mem_cons_self)) (List.cons_ne_nil _ _)

theorem percentEncode_of_isKept (h : ∀ c ∈ cs, isKept inSet c = true) :
    percentEncode inSet cs = cs := by
  induction cs with
  | nil => rfl
  | cons c cs ih =>
    have hc : isAscii c && !inSet c := h c List.mem_cons_self
    rw [percentEncode, List.flatMap_cons, encodeChar, if_pos hc, List.singleton_append]
    exact congrArg (c :: ·) (ih fun d hd => h d (List.mem_cons_of_mem _ hd))

/-! ## Decoding -/

theorem percentDecodeFrom_of_notMem (h : '%' ∉ cs) :
    percentDecodeFrom 0 cs = cs.flatMap String.utf8EncodeChar := by
  induction cs with
  | nil => rfl
  | cons c cs ih =>
    rw [List.mem_cons, not_or] at h
    rw [percentDecodeFrom, List.flatMap_cons, toUTF8_singleton, ih h.2]
    exact fun _ _ _ hc => absurd hc.symm h.1

theorem percentDecode?_of_notMem (h : '%' ∉ cs) : percentDecode? cs = some cs := by
  have hbytes : (⟨(cs.flatMap String.utf8EncodeChar).toArray⟩ : ByteArray) =
      (String.ofList cs).toUTF8 := by
    rw [String.toUTF8, String.toByteArray_ofList, List.utf8Encode]
    exact ByteArray.ext (by simp)
  rw [percentDecode?, percentDecodeFrom_of_notMem h, hbytes, FileTree.fromUTF8?_toUTF8,
    Option.map_some, String.toList_ofList]

end BytecodeLint.Url
