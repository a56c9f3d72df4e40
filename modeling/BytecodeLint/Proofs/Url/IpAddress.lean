import BytecodeLint.Proofs.Text.Cut
import BytecodeLint.Url.Host
import Mathlib.Data.List.Induction
import Mathlib.Data.Nat.Digits.Defs
import Mathlib.Tactic.Ring

/-!
# Addresses are read back

An IPv4 address is printed as four decimal bytes, whatever way it was written. An IPv6 address is
printed as groups of hexadecimal digits, with the longest run of zeros left out. Reading such a text
gives the address again.

* `ipv4?_lt`, `ipv6?_isIpv6`: what reading gives can be printed: 32 bits, and eight pieces of 16.
* `ipv4?_ipv4Text`, `ipv6?_ipv6Text`: printing is read back.
-/
namespace BytecodeLint.Url

/-! ## Digits -/

theorem hexDigit?_digitChar {d : Nat} (h : d < 16) : Text.hexDigit? (Nat.digitChar d) = some d := by
  have hall : ∀ d < 16, Text.hexDigit? (Nat.digitChar d) = some d := by decide
  exact hall d h

theorem ofDigits?_append (base : Nat) (cs : List Char) (c : Char) :
    Text.ofDigits? base (cs ++ [c]) = (Text.ofDigits? base cs).bind fun n =>
      (Text.hexDigit? c).bind fun d => if d < base then some (base * n + d) else none := by
  rw [Text.ofDigits?, Text.ofDigits?, List.foldlM_append]
  simp

theorem ofDigits?_toDigits {base : Nat} (hbase : 1 < base) (hbase' : base ≤ 16) (n : Nat) :
    Text.ofDigits? base (Nat.toDigits base n) = some n := by
  induction n using Nat.strongRecOn with
  | ind n ih =>
    by_cases hlt : n < base
    · rw [Nat.toDigits_of_lt_base hlt, ← List.nil_append [_], ofDigits?_append,
        hexDigit?_digitChar (by omega)]
      simp [Text.ofDigits?, hlt]
    · have hmod := Nat.mod_lt n (show 0 < base by omega)
      rw [Nat.toDigits_of_base_le hbase (by omega), ofDigits?_append,
        ih _ (Nat.div_lt_self (by omega) hbase), hexDigit?_digitChar (by omega)]
      simp [hmod, Nat.div_add_mod]

theorem ofDigits?_lt {base : Nat} {cs : List Char} {n : Nat}
    (h : Text.ofDigits? base cs = some n) : n < base ^ cs.length := by
  induction cs using List.reverseRecOn generalizing n with
  | nil =>
    cases h
    exact Nat.one_pos
  | append_singleton cs c ih =>
    rw [ofDigits?_append, Option.bind_eq_some_iff] at h
    obtain ⟨m, hm, h⟩ := h
    rw [Option.bind_eq_some_iff] at h
    obtain ⟨d, -, h⟩ := h
    split at h
    · rename_i hd
      cases h
      have hle : base * (m + 1) ≤ base * base ^ cs.length := Nat.mul_le_mul_left _ (ih hm)
      rw [List.length_append, List.length_singleton, pow_succ, Nat.mul_comm _ base]
      rw [Nat.mul_succ] at hle
      omega
    · cases h

/-! ## IPv4 -/

/-- A byte in decimal digits is read back, and looks like nothing else. -/
theorem ipv4Number?_decimal {n : Nat} (h : n < 256) : ipv4Number? (decimal n) = some n := by
  have hall : ∀ n < 256, ipv4Number? (decimal n) = some n := by decide +kernel
  exact hall n h

theorem isDigit_of_mem_decimal {n : Nat} {c : Char} (h : c ∈ decimal n) : c.isDigit = true :=
  Nat.isDigit_of_mem_toDigits (by decide) (by decide) h

theorem decimal_ne_nil (n : Nat) : decimal n ≠ [] := Nat.toDigits_ne_nil

/-- The bytes of an address. -/
def ipv4Bytes (n : Nat) : List Nat := [n / 16777216 % 256, n / 65536 % 256, n / 256 % 256, n % 256]

theorem ipv4Text_eq (n : Nat) :
    ipv4Text n = Text.joinWith ['.'] ((ipv4Bytes n).map decimal) := by
  simp [ipv4Text, ipv4Bytes, Text.joinWith]

theorem splitWhere_ipv4Text (n : Nat) :
    Text.splitWhere (fun c => c == '.') (ipv4Text n) = (ipv4Bytes n).map decimal := by
  rw [ipv4Text_eq]
  refine Text.splitWhere_joinWith rfl (by simp [ipv4Bytes]) fun part hpart c hc => ?_
  obtain ⟨b, -, rfl⟩ := List.mem_map.1 hpart
  have hdigit := isDigit_of_mem_decimal hc
  exact beq_eq_false_iff_ne.2 (by rintro rfl; exact absurd hdigit (by decide))

theorem labels_ipv4Text (n : Nat) : labels (ipv4Text n) = (ipv4Bytes n).map decimal := by
  rw [labels, splitWhere_ipv4Text, if_neg (by simp [ipv4Bytes, decimal_ne_nil])]

theorem endsInNumber_ipv4Text (n : Nat) : endsInNumber (ipv4Text n) = true := by
  have hall : (decimal (n % 256)).all Char.isDigit = true :=
    List.all_eq_true.2 fun c hc => isDigit_of_mem_decimal hc
  rw [endsInNumber, labels_ipv4Text]
  simp [ipv4Bytes, hall, decimal_ne_nil]

theorem ipv4?_ipv4Text {n : Nat} (h : n < 2 ^ 32) : ipv4? (ipv4Text n) = some n := by
  have hbyte : ∀ m, m % 256 < 256 := fun m => Nat.mod_lt m (by decide)
  have hparts : ((ipv4Bytes n).map decimal).mapM ipv4Number? = some (ipv4Bytes n) := by
    simp [ipv4Bytes, ipv4Number?_decimal, hbyte]
  have hsmall : (ipv4Bytes n).dropLast.any (fun b => decide (255 < b)) = false := by
    simp only [ipv4Bytes, List.dropLast, List.any_cons, List.any_nil, Bool.or_false,
      Bool.or_eq_false_iff, decide_eq_false_iff_not]
    omega
  rw [ipv4?, labels_ipv4Text, hparts]
  simp only [Option.bind_eq_bind, Option.bind_some]
  rw [ipv4OfParts?.eq_2 _ (by simp [ipv4Bytes]), if_neg (by simp [ipv4Bytes]), hsmall,
    if_neg (by decide)]
  simp only [ipv4Bytes, List.dropLast, List.getLastD_cons, List.getLastD_nil, List.length_cons,
    List.length_nil, Nat.shiftLeft_eq, List.foldl_cons, List.foldl_nil]
  rw [if_neg (by omega), Option.some.injEq]
  omega

theorem foldl_bytes_lt {bytes : List Nat} (h : ∀ b ∈ bytes, b ≤ 255) {m k : Nat}
    (hm : m < 256 ^ k) : bytes.foldl (fun n b => 256 * n + b) m < 256 ^ (k + bytes.length) := by
  induction bytes generalizing m k with
  | nil => exact hm
  | cons b bytes ih =>
    have hb := h b List.mem_cons_self
    have hnext : 256 * m + b < 256 ^ (k + 1) := by
      rw [pow_succ]
      omega
    have hrest := ih (fun b hb => h b (List.mem_cons_of_mem _ hb)) hnext
    rw [List.foldl_cons, List.length_cons, show k + (bytes.length + 1) = k + 1 + bytes.length by
      omega]
    exact hrest

theorem ipv4OfParts?_lt {parts : List Nat} {n : Nat} (h : ipv4OfParts? parts = some n) :
    n < 2 ^ 32 := by
  cases parts with
  | nil => cases h
  | cons part parts =>
    rw [ipv4OfParts?.eq_2 _ (List.cons_ne_nil _ _)] at h
    split at h
    · cases h
    · rename_i hcount
      split at h
      · cases h
      · rename_i hsmall
        split at h
        · cases h
        · rename_i hroom
          cases h
          have hbytes : ∀ b ∈ (part :: parts).dropLast, b ≤ 255 := fun b hb => by
            rw [List.any_eq_true] at hsmall
            exact Nat.le_of_not_lt fun hlt => hsmall ⟨b, hb, decide_eq_true hlt⟩
          have hfront := foldl_bytes_lt hbytes (show 0 < 256 ^ 0 by decide)
          have hlength : (part :: parts).dropLast.length ≤ 3 := by
            rw [List.length_dropLast]
            omega
          rw [Nat.zero_add] at hfront
          generalize (part :: parts).dropLast.length = k at *
          rw [Nat.shiftLeft_eq] at hroom ⊢
          -- the bytes in front and the rest share the 32 bits
          have hshare : 256 ^ k * 2 ^ (8 * (4 - k)) = 2 ^ 32 := by
            rw [show 256 = 2 ^ 8 by rfl, ← pow_mul, ← pow_add]
            congr 1
            omega
          have hmul := Nat.mul_le_mul_right (2 ^ (8 * (4 - k))) (Nat.succ_le_of_lt hfront)
          rw [hshare, Nat.succ_mul] at hmul
          omega

theorem ipv4?_lt {cs : List Char} {n : Nat} (h : ipv4? cs = some n) : n < 2 ^ 32 := by
  rw [ipv4?, Option.bind_eq_bind, Option.bind_eq_some_iff] at h
  obtain ⟨parts, -, hparts⟩ := h
  exact ipv4OfParts?_lt hparts

/-! ## IPv6 -/

theorem hexDigit_of_mem_hexText {n : Nat} {c : Char} (h : c ∈ hexText n) :
    ∃ d < 16, c = Nat.digitChar d := by
  induction n using Nat.strongRecOn with
  | ind n ih =>
    by_cases hlt : n < 16
    · rw [hexText, Nat.toDigits_of_lt_base hlt, List.mem_singleton] at h
      exact ⟨n, hlt, h⟩
    · rw [hexText, Nat.toDigits_of_base_le (by decide) (by omega), List.mem_append,
        List.mem_singleton] at h
      rcases h with h | h
      · exact ih (n / 16) (Nat.div_lt_self (by omega) (by decide)) h
      · exact ⟨n % 16, Nat.mod_lt n (by decide), h⟩

/-- A character that is no digit in any base is not among the digits of a group. -/
theorem digitChar_ne {d : Nat} (h : d < 16) {c : Char} (hc : Text.hexDigit? c = none) :
    Nat.digitChar d ≠ c := by
  rintro rfl
  rw [hexDigit?_digitChar h] at hc
  cases hc

theorem notMem_hexText (n : Nat) {c : Char} (hc : Text.hexDigit? c = none) : c ∉ hexText n := by
  intro h
  obtain ⟨d, hd, heq⟩ := hexDigit_of_mem_hexText h
  exact digitChar_ne hd hc heq.symm

theorem hexText_ne_nil (n : Nat) : hexText n ≠ [] := Nat.toDigits_ne_nil

theorem ipv6Group?_hexText {n : Nat} (h : n < 65536) : ipv6Group? (hexText n) = some n := by
  have hlength : (hexText n).length ≤ 4 := Nat.toDigits_length 16 n 4 (by decide) (by omega)
  rw [ipv6Group?, if_neg, hexText, ofDigits?_toDigits (by decide) (by decide)]
  simp [hexText_ne_nil]
  omega

theorem ipv6LastGroup?_hexText {n : Nat} (h : n < 65536) :
    ipv6LastGroup? (hexText n) = some [n] := by
  have hsplit : Text.splitWhere (fun c => c == '.') (hexText n) = [hexText n] :=
    Text.splitWhere_of_none fun c hc => beq_eq_false_iff_ne.2 fun heq =>
      notMem_hexText n (by decide) (heq ▸ hc)
  rw [ipv6LastGroup?, hsplit]
  simp only
  rw [ipv6Group?_hexText h]
  rfl

/-- Groups with colons between them. -/
def groupsText (ns : List Nat) : List Char := Text.joinWith [':'] (ns.map hexText)

theorem ipv6Groups?_hexText {ns : List Nat} (hne : ns ≠ []) (h : ∀ n ∈ ns, n < 65536) :
    ipv6Groups? (ns.map hexText) = some ns := by
  induction ns with
  | nil => exact absurd rfl hne
  | cons n ns ih =>
    have hn := h n List.mem_cons_self
    cases ns with
    | nil => exact ipv6LastGroup?_hexText hn
    | cons m ns =>
      have hrest := ih (List.cons_ne_nil _ _) fun k hk => h k (List.mem_cons_of_mem _ hk)
      rw [List.map_cons, List.map_cons, ipv6Groups?, ← List.map_cons, hrest, ipv6Group?_hexText hn]
      · rfl
      · simp

theorem ipv6Side?_groupsText {ns : List Nat} (h : ∀ n ∈ ns, n < 65536) :
    ipv6Side? (groupsText ns) = some ns := by
  cases ns with
  | nil => rfl
  | cons n ns =>
    have hne : (groupsText (n :: ns)).isEmpty = false := by
      obtain ⟨c, cs, hcons⟩ := List.exists_cons_of_ne_nil (hexText_ne_nil n)
      rw [groupsText, List.map_cons, hcons]
      cases ns <;> rfl
    rw [ipv6Side?, hne, if_neg (by decide), groupsText, Text.splitWhere_joinWith rfl (by simp),
      ipv6Groups?_hexText (List.cons_ne_nil _ _) h]
    intro part hpart c hc
    obtain ⟨m, -, rfl⟩ := List.mem_map.1 hpart
    exact beq_eq_false_iff_ne.2 fun heq => notMem_hexText m (by decide) (heq ▸ hc)

theorem mem_groupsText {ns : List Nat} {c : Char} (h : c ∈ groupsText ns) :
    c = ':' ∨ ∃ d < 16, c = Nat.digitChar d := by
  rcases Text.mem_joinWith h with hc | ⟨part, hpart, hc⟩
  · exact .inl hc
  · obtain ⟨n, -, rfl⟩ := List.mem_map.1 hpart
    exact .inr (hexDigit_of_mem_hexText hc)

/-! ### The pair of colons -/

theorem splitPair_cons {c : Char} {rest : List Char} (h : c ≠ ':' ∨ rest.head? ≠ some ':') :
    splitPair (c :: rest) = (splitPair rest).map fun parts => (c :: parts.1, parts.2) := by
  rw [splitPair]
  intro after hc hrest
  simp [hc, hrest] at h

theorem splitPair_append {cs : List Char} (h : ':' ∉ cs) (rest : List Char) :
    splitPair (cs ++ rest) = (splitPair rest).map fun parts => (cs ++ parts.1, parts.2) := by
  induction cs with
  | nil => simp
  | cons c cs ih =>
    rw [List.mem_cons, not_or] at h
    rw [List.cons_append, splitPair_cons (.inl (Ne.symm h.1)), ih h.2]
    simp [Function.comp_def]

theorem head?_groupsText_append (n : Nat) (ns : List Nat) (rest : List Char) :
    (groupsText (n :: ns) ++ rest).head? ≠ some ':' := by
  obtain ⟨c, cs, hcons⟩ := List.exists_cons_of_ne_nil (hexText_ne_nil n)
  have hc : c ≠ ':' := fun heq => notMem_hexText n (by decide)
    (heq ▸ hcons ▸ List.mem_cons_self)
  have hhead : (groupsText (n :: ns)).head? = some c := by
    rw [groupsText, List.map_cons, hcons]
    cases ns <;> rfl
  rw [List.head?_append, hhead]
  simpa using hc

/-- Groups hold no pair of colons. -/
theorem splitPair_groupsText (ns : List Nat) (rest : List Char) :
    splitPair (groupsText ns ++ rest) =
      (splitPair rest).map fun parts => (groupsText ns ++ parts.1, parts.2) := by
  induction ns with
  | nil => simp [groupsText, Text.joinWith]
  | cons n ns ih =>
    have hcolon : ':' ∉ hexText n := notMem_hexText n (by decide)
    cases ns with
    | nil => exact splitPair_append hcolon rest
    | cons m ns =>
      have hjoin : groupsText (n :: m :: ns) = hexText n ++ ':' :: groupsText (m :: ns) := by
        simp [groupsText, Text.joinWith]
      rw [hjoin, List.append_assoc, List.cons_append, splitPair_append hcolon,
        splitPair_cons (.inr (head?_groupsText_append m ns rest)), ih]
      simp [Function.comp_def]

theorem eq_leadingZeros_append (pieces : List Nat) :
    pieces = List.replicate (leadingZeros pieces) 0 ++ pieces.drop (leadingZeros pieces) := by
  induction pieces with
  | nil => rfl
  | cons n rest ih =>
    cases n with
    | zero =>
      have hnext : leadingZeros (0 :: rest) = leadingZeros rest + 1 := rfl
      rw [hnext, List.replicate_succ, List.drop_succ_cons, List.cons_append, ← ih]
    | succ n => rfl

/-- The longest run lies among the pieces, and is one of zeros. -/
theorem longestRun_spec (start : Nat) (pieces : List Nat) :
    ∃ skipped, (longestRun start pieces).1 = start + skipped ∧
      pieces = pieces.take skipped ++ List.replicate (longestRun start pieces).2 0 ++
        pieces.drop (skipped + (longestRun start pieces).2) := by
  induction pieces generalizing start with
  | nil => exact ⟨0, rfl, rfl⟩
  | cons n rest ih =>
    rw [longestRun]
    split
    · refine ⟨0, rfl, ?_⟩
      rw [List.take_zero, List.nil_append, Nat.zero_add]
      exact eq_leadingZeros_append (n :: rest)
    · obtain ⟨skipped, hstart, hrest⟩ := ih (start + 1)
      refine ⟨skipped + 1, by omega, ?_⟩
      rw [List.take_succ_cons, Nat.add_right_comm, List.drop_succ_cons, List.cons_append,
        List.cons_append, ← hrest]

theorem ipv6Text_eq (pieces : List Nat) :
    ipv6Text pieces = if (longestRun 0 pieces).2 < 2 then groupsText pieces
      else groupsText (pieces.take (longestRun 0 pieces).1) ++ [':', ':'] ++
        groupsText (pieces.drop ((longestRun 0 pieces).1 + (longestRun 0 pieces).2)) := rfl

/-- An address: eight pieces of sixteen bits. -/
structure IsIpv6 (pieces : List Nat) : Prop where
  length : pieces.length = 8
  bound : ∀ n ∈ pieces, n < 65536

theorem ipv6?_ipv6Text {pieces : List Nat} (h : IsIpv6 pieces) :
    ipv6? (ipv6Text pieces) = some pieces := by
  obtain ⟨start, hstart, hpieces⟩ := longestRun_spec 0 pieces
  rw [Nat.zero_add] at hstart
  rw [ipv6Text_eq, hstart]
  generalize (longestRun 0 pieces).2 = run at hpieces ⊢
  split
  · have hpair : splitPair (groupsText pieces) = none := by
      rw [← List.append_nil (groupsText pieces), splitPair_groupsText]
      rfl
    rw [ipv6?, hpair]
    simp [ipv6Side?_groupsText h.bound, h.length]
  · rename_i hlong
    have hlength := congrArg List.length hpieces
    rw [List.length_append, List.length_append, List.length_replicate, h.length] at hlength
    have hpair : splitPair (groupsText (pieces.take start) ++ [':', ':'] ++
        groupsText (pieces.drop (start + run))) =
        some (groupsText (pieces.take start), groupsText (pieces.drop (start + run))) := by
      rw [List.append_assoc, splitPair_groupsText, List.cons_append, List.singleton_append,
        splitPair, Option.map_some, List.append_nil]
    have hdot : noTail (groupsText (pieces.take start)) = true := by
      rw [noTail, Bool.not_eq_true', Bool.eq_false_iff, ne_eq, List.contains_iff_mem]
      intro hmem
      rcases mem_groupsText hmem with hc | ⟨d, hd, hc⟩
      · exact absurd hc (by decide)
      · exact digitChar_ne hd (by decide) hc.symm
    rw [ipv6?, hpair]
    simp only [Option.bind_eq_bind]
    rw [ipv6Side?_groupsText fun n hn => h.bound n (List.mem_of_mem_take hn),
      ipv6Side?_groupsText fun n hn => h.bound n (List.mem_of_mem_drop hn)]
    simp only [Option.bind_some, hdot, Bool.and_true, decide_eq_true_eq]
    rw [if_pos (by omega), Option.some.injEq, show 8 - (pieces.take start).length -
      (pieces.drop (start + run)).length = run by omega, ← hpieces]

/-! ### What is read -/

theorem ipv6Group?_lt {cs : List Char} {n : Nat} (h : ipv6Group? cs = some n) : n < 65536 := by
  rw [ipv6Group?] at h
  split at h
  · cases h
  · rename_i hlength
    simp only [Bool.or_eq_true, decide_eq_true_eq, not_or] at hlength
    calc n < 16 ^ cs.length := ofDigits?_lt h
      _ ≤ 16 ^ 4 := Nat.pow_le_pow_right (by decide) (by omega)
      _ = 65536 := by rfl

theorem tailByte?_lt {cs : List Char} {n : Nat} (h : tailByte? cs = some n) : n < 256 := by
  rw [tailByte?.eq_def] at h
  split at h
  · cases h
  · cases h
  · rw [Option.bind_eq_some_iff] at h
    obtain ⟨m, -, h⟩ := h
    split at h
    · cases h
      assumption
    · cases h

theorem ipv6LastGroup?_lt {cs : List Char} {ns : List Nat} (h : ipv6LastGroup? cs = some ns) :
    ∀ n ∈ ns, n < 65536 := by
  rw [ipv6LastGroup?] at h
  split at h
  · simp only [Option.bind_eq_bind, Option.bind_eq_some_iff] at h
    obtain ⟨a, ha, b, hb, c, hc, d, hd, heq⟩ := h
    cases heq
    have ha := tailByte?_lt ha
    have hb := tailByte?_lt hb
    have hc := tailByte?_lt hc
    have hd := tailByte?_lt hd
    intro n hn
    simp only [List.mem_cons, List.not_mem_nil, or_false] at hn
    omega
  · rw [Option.map_eq_some_iff] at h
    obtain ⟨n, hn, heq⟩ := h
    cases heq
    intro m hm
    rw [List.mem_singleton.1 hm]
    exact ipv6Group?_lt hn

theorem ipv6Groups?_lt {groups : List (List Char)} {ns : List Nat}
    (h : ipv6Groups? groups = some ns) : ∀ n ∈ ns, n < 65536 := by
  fun_induction ipv6Groups? groups generalizing ns with
  | case1 =>
    cases h
    exact fun n hn => absurd hn List.not_mem_nil
  | case2 last => exact ipv6LastGroup?_lt h
  | case3 group groups hne ih =>
    simp only [Option.bind_eq_bind, Option.bind_eq_some_iff] at h
    obtain ⟨n, hn, ns', hns, heq⟩ := h
    cases heq
    intro m hm
    rcases List.mem_cons.1 hm with rfl | hm
    · exact ipv6Group?_lt hn
    · exact ih hns m hm

theorem ipv6Side?_lt {cs : List Char} {ns : List Nat} (h : ipv6Side? cs = some ns) :
    ∀ n ∈ ns, n < 65536 := by
  rw [ipv6Side?] at h
  split at h
  · cases h
    exact fun n hn => absurd hn List.not_mem_nil
  · exact ipv6Groups?_lt h

theorem ipv6?_isIpv6 {cs : List Char} {pieces : List Nat} (h : ipv6? cs = some pieces) :
    IsIpv6 pieces := by
  rw [ipv6?] at h
  split at h
  · rw [Option.bind_eq_bind, Option.bind_eq_some_iff] at h
    obtain ⟨ns, hns, h⟩ := h
    split at h
    · cases h
      exact ⟨by assumption, ipv6Side?_lt hns⟩
    · cases h
  · simp only [Option.bind_eq_bind, Option.bind_eq_some_iff] at h
    obtain ⟨front, hfront, back, hback, h⟩ := h
    split at h
    · rename_i hcond
      rw [Bool.and_eq_true, decide_eq_true_eq] at hcond
      cases h
      refine ⟨?_, fun n hn => ?_⟩
      · simp only [List.length_append, List.length_replicate]
        omega
      · rw [List.mem_append, List.mem_append, List.mem_replicate] at hn
        rcases hn with (hn | ⟨-, rfl⟩) | hn
        · exact ipv6Side?_lt hfront n hn
        · decide
        · exact ipv6Side?_lt hback n hn
    · cases h

/-- The characters of an address. -/
theorem mem_ipv6Text {pieces : List Nat} {c : Char} (h : c ∈ ipv6Text pieces) :
    c = ':' ∨ ∃ d < 16, c = Nat.digitChar d := by
  rw [ipv6Text_eq] at h
  split at h
  · exact mem_groupsText h
  · rw [List.mem_append, List.mem_append] at h
    rcases h with (h | h) | h
    · exact mem_groupsText h
    · simp only [List.mem_cons, List.not_mem_nil, or_false, or_self] at h
      exact .inl h
    · exact mem_groupsText h

end BytecodeLint.Url
