import BytecodeLint.Proofs.Url.Domain
import BytecodeLint.Proofs.Url.IpAddress
import BytecodeLint.Proofs.Url.Percent

/-!
# Hosts are read back

A host of a special URL is settled: an address, or a domain in ASCII that looks like none. Reading
the text of such a host gives the host again, if its labels can be read.

* `isSettled_of_specialHost`: what is read is settled.
* `specialHost_text`: what is settled is read back, or refused as a domain.
-/
namespace BytecodeLint.Url

/-- A host as it is read. -/
def Host.IsSettled : Host → Prop
  | .name text => (∃ cs, Domain.toAscii? cs = some text) ∧ text.any isForbidden = false ∧
      text ≠ [] ∧ endsInNumber text = false
  | .ipv4 address => address < 2 ^ 32
  | .ipv6 pieces => IsIpv6 pieces

theorem isSettled_of_domain {cs : List Char} {host : Host} (h : domain cs = .ok host) :
    host.IsSettled := by
  rw [domain] at h
  split at h
  · cases h
  · rename_i text htext
    split at h
    · cases h
    · rename_i hforbidden
      split at h
      · cases h
      · rename_i hempty
        split at h
        · split at h
          · rename_i address haddress
            cases h
            exact ipv4?_lt haddress
          · cases h
        · rename_i hnumber
          cases h
          obtain ⟨decoded, -, hascii⟩ := Option.bind_eq_some_iff.1 htext
          exact ⟨⟨decoded, hascii⟩, Bool.eq_false_iff.2 hforbidden,
            fun hnil => hempty (by rw [hnil]; rfl), Bool.eq_false_iff.2 hnumber⟩

theorem isSettled_of_specialHost {cs : List Char} {host : Host} (h : specialHost cs = .ok host) :
    host.IsSettled := by
  rw [specialHost.eq_def] at h
  split at h
  · rw [bracketed] at h
    split at h
    · split at h
      · rename_i pieces hpieces
        cases h
        exact ipv6?_isIpv6 hpieces
      · cases h
    · cases h
  · exact isSettled_of_domain h

/-! ## Domains -/

theorem percent_notMem {text : List Char} (h : text.any isForbidden = false) : '%' ∉ text := by
  intro hmem
  exact absurd (List.any_eq_false.1 h _ hmem) (by decide)

/-- A domain in ASCII is read back. -/
theorem domain_text {text : List Char} (h : (Host.name text).IsSettled) :
    domain text = if Domain.canReread text then .ok (.name text) else .error .badDomain := by
  obtain ⟨⟨cs, hascii⟩, hforbidden, hne, hnumber⟩ := h
  rw [domain, percentDecode?_of_notMem (percent_notMem hforbidden), Option.bind_some,
    Domain.toAscii?_of_toAscii? hascii]
  cases Domain.canReread text with
  | false => rfl
  | true => simp [hforbidden, hne, hnumber]

theorem isSimple_of_isDigit {c : Char} (h : c.isDigit = true) :
    Domain.isSimple c = true ∧ isForbidden c = false := by
  have hbounds : 48 ≤ c.toNat ∧ c.toNat ≤ 57 := by
    rw [Char.isDigit, Bool.and_eq_true, decide_eq_true_eq, decide_eq_true_eq] at h
    exact h
  have hall : ∀ n < 58, 48 ≤ n → Domain.isSimple (Char.ofNat n) = true ∧
      isForbidden (Char.ofNat n) = false := by decide
  have hc := hall c.toNat (by omega) hbounds.1
  rwa [Char.ofNat_toNat] at hc

theorem mem_ipv4Text {n : Nat} {c : Char} (h : c ∈ ipv4Text n) : c = '.' ∨ c.isDigit = true := by
  rw [ipv4Text_eq] at h
  rcases Text.mem_joinWith h with hc | ⟨part, hpart, hc⟩
  · exact .inl hc
  · obtain ⟨b, -, rfl⟩ := List.mem_map.1 hpart
    exact .inr (isDigit_of_mem_decimal hc)

theorem toAscii?_ipv4Text (n : Nat) : Domain.toAscii? (ipv4Text n) = some (ipv4Text n) := by
  have hdigits : ∀ label ∈ (ipv4Bytes n).map decimal, ∀ c ∈ label, c.isDigit = true := by
    intro label hlabel c hc
    obtain ⟨b, -, rfl⟩ := List.mem_map.1 hlabel
    exact isDigit_of_mem_decimal hc
  rw [ipv4Text_eq]
  refine Domain.toAscii?_joinWith (by simp [ipv4Bytes]) (fun label hlabel c hc => ?_)
    fun label hlabel => ?_
  · have hdigit := hdigits label hlabel c hc
    exact ⟨(isSimple_of_isDigit hdigit).1, by rintro rfl; exact absurd hdigit (by decide)⟩
  · rw [Bool.eq_false_iff, ne_eq, List.isPrefixOf_iff_prefix]
    intro hmark
    exact absurd (hdigits label hlabel 'x' (hmark.subset (by decide))) (by decide)

/-- An address is read back. -/
theorem domain_ipv4Text {n : Nat} (h : n < 2 ^ 32) : domain (ipv4Text n) = .ok (.ipv4 n) := by
  have hforbidden : (ipv4Text n).any isForbidden = false := by
    rw [List.any_eq_false]
    intro c hc
    rcases mem_ipv4Text hc with rfl | hdigit
    · decide
    · rw [(isSimple_of_isDigit hdigit).2]
      decide
  have hne : (ipv4Text n).isEmpty = false := by simp [ipv4Text]
  rw [domain, percentDecode?_of_notMem (percent_notMem hforbidden), Option.bind_some,
    toAscii?_ipv4Text]
  simp only [hforbidden, hne, endsInNumber_ipv4Text, ipv4?_ipv4Text h]
  rfl

/-! ## All hosts -/

theorem specialHost_of_head {cs : List Char} (h : cs.head? ≠ some '[') :
    specialHost cs = domain cs := by
  rw [specialHost.eq_def]
  split
  · exact absurd rfl h
  · rfl

/-- What is settled is read back, or refused as a domain. -/
theorem specialHost_text {host : Host} (h : host.IsSettled) :
    specialHost host.text =
      if Domain.canReread host.text then .ok host else .error .badDomain := by
  cases host with
  | name text =>
    rw [Host.text, specialHost_of_head, domain_text h]
    intro hhead
    exact absurd (List.any_eq_false.1 h.2.1 _ (List.mem_of_head? hhead)) (by decide)
  | ipv4 address =>
    rw [Host.text, specialHost_of_head, domain_ipv4Text h,
      Domain.canReread_of_toAscii? (toAscii?_ipv4Text address)]
    · rfl
    · intro hhead
      rcases mem_ipv4Text (List.mem_of_head? hhead) with hc | hc
      · exact absurd hc (by decide)
      · exact absurd hc (by decide)
  | ipv6 pieces =>
    have hdot : ∀ c ∈ (Host.ipv6 pieces).text, (c == '.') = false := by
      intro c hc
      rw [Host.text, List.mem_append, List.mem_cons, List.mem_singleton] at hc
      rcases hc with (rfl | hc) | rfl
      · decide
      · rcases mem_ipv6Text hc with rfl | ⟨d, hd, rfl⟩
        · decide
        · exact beq_eq_false_iff_ne.2 (digitChar_ne hd (by decide))
      · decide
    have hread : Domain.canReread (Host.ipv6 pieces).text = true := by
      rw [Domain.canReread, Text.splitWhere_of_none hdot]
      rfl
    rw [hread, if_pos rfl, Host.text, List.cons_append, specialHost, bracketed,
      if_pos List.getLast?_concat, List.dropLast_concat, ipv6?_ipv6Text h]

/-- Whether a character may stand in front of the path. -/
def isFrontChar (c : Char) : Bool := 0x20 < c.toNat && !(['/', '\\', '?', '#'].contains c)

theorem isFrontChar_iff {c : Char} :
    isFrontChar c = true ↔ 0x20 < c.toNat ∧ c ∉ ['/', '\\', '?', '#'] := by
  rw [isFrontChar, Bool.and_eq_true, decide_eq_true_eq, Bool.not_eq_true', Bool.eq_false_iff, ne_eq,
    List.contains_iff_mem]

/-- Whether a character may stand in a host. -/
def isHostChar (c : Char) : Bool := isFrontChar c && c != '@'

theorem isHostChar_of_isForbidden {c : Char} (h : isForbidden c = false) : isHostChar c = true := by
  have hlow : ∀ n < 0x21, isForbidden (Char.ofNat n) = true := by decide
  have hlist : ['/', '\\', '?', '#'].all isForbidden = true := by decide
  rw [isHostChar, Bool.and_eq_true, isFrontChar_iff, bne_iff_ne]
  refine ⟨⟨Nat.lt_of_not_le fun hle => ?_, fun hmem => ?_⟩, ?_⟩
  · have hc := hlow c.toNat (by omega)
    rw [Char.ofNat_toNat, h] at hc
    cases hc
  · have hc := List.all_eq_true.1 hlist c hmem
    rw [h] at hc
    cases hc
  · rintro rfl
    exact absurd h (by decide)

theorem isHostChar_of_mem_text {host : Host} (h : host.IsSettled) {c : Char}
    (hc : c ∈ host.text) : isHostChar c = true := by
  cases host with
  | name text =>
    exact isHostChar_of_isForbidden (Bool.eq_false_iff.2 (List.any_eq_false.1 h.2.1 c hc))
  | ipv4 address =>
    rcases mem_ipv4Text hc with rfl | hdigit
    · decide
    · exact isHostChar_of_isForbidden (isSimple_of_isDigit hdigit).2
  | ipv6 pieces =>
    have hdigit : ∀ d < 16, isHostChar (Nat.digitChar d) = true := by decide
    rw [Host.text, List.mem_append, List.mem_cons, List.mem_singleton] at hc
    rcases hc with (rfl | hc) | rfl
    · decide
    · rcases mem_ipv6Text hc with rfl | ⟨d, hd, rfl⟩
      · decide
      · exact hdigit d hd
    · decide

theorem text_ne_nil {host : Host} (h : host.IsSettled) : host.text ≠ [] := by
  cases host with
  | name text => exact h.2.2.1
  | ipv4 address => simp [Host.text, ipv4Text]
  | ipv6 pieces => simp [Host.text]

end BytecodeLint.Url
