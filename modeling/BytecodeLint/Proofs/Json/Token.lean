import BytecodeLint.Json.Basic
import BytecodeLint.Json.Token

/-!
# Texts and numbers read back

The writer escapes characters one by one, and the reader undoes one escape at a time, so a text of
any characters is read back (`takeText_escaped`). Digits are read up to the first other character,
so a number needs something behind it that does not go on with it (`Delimited`); inside a document a
comma or a line feed always follows.

* `takeText_escaped`: a quoted text is read back, whatever follows.
* `takeNumeral_digits`, `toWord?_digits`: a number below `2 ^ 32` is read back.
* `toWord?_lt`: nothing else is ever read as a word.
-/

namespace BytecodeLint.Json

/-! ## Texts -/

theorem hexQuad?_hexPair : ∀ n, n < 32 →
    hexQuad? '0' '0' (Nat.digitChar (n / 16)) (Nat.digitChar (n % 16)) = some n := by decide

theorem hasBytes_four (a b c d : Char) (rest : List Char) :
    hasBytes 4 (a :: b :: c :: d :: rest) = true := by
  have ha := a.utf8Size_pos
  have hb := b.utf8Size_pos
  have hc := c.utf8Size_pos
  have hd := d.utf8Size_pos
  simp only [hasBytes, byteCount, List.take, List.foldl, decide_eq_true_eq]
  omega

/-- The escape of a control character is undone. -/
theorem takeEscape_control {c : Char} (h : c.toNat < 32) (rest : List Char) :
    takeEscape ('u' :: '0' :: '0' :: (hexPair c.toNat ++ rest)) = .ok (c, rest) := by
  have hunit : takeUnit ('0' :: '0' :: (hexPair c.toNat ++ rest)) = .ok (c.toNat, rest) := by
    simp [takeUnit, hexPair, hasBytes_four, hexQuad?_hexPair _ h]
  have htrail : isTrail c.toNat = false := by simp [isTrail]; omega
  have hlead : isLead c.toNat = false := by simp [isLead]; omega
  simp [takeEscape, shortEscape?, takeUnitEscape, hunit, htrail, hlead, bind, Except.bind]

theorem takeText_escape {e : List Char} {c : Char} {rest : List Char}
    (h : takeEscape (e ++ rest) = .ok (c, rest)) {chars last : List Char}
    (hrest : takeText rest = .ok (chars, last)) :
    takeText ('\\' :: (e ++ rest)) = .ok (c :: chars, last) := by
  rw [takeText, if_neg (by decide), if_pos rfl]
  split
  · rename_i fault hfault
    simp [h] at hfault
  · rename_i c' rest' hescape
    obtain ⟨rfl, rfl⟩ : c = c' ∧ rest = rest' := by simpa [h] using hescape
    rw [hrest]

/-- One character is read back, whatever the text behind it. -/
theorem takeText_escapeChar (c : Char) {rest chars last : List Char}
    (hrest : takeText rest = .ok (chars, last)) :
    takeText (escapeChar c ++ rest) = .ok (c :: chars, last) := by
  unfold escapeChar
  split
  · subst c
    exact takeText_escape (e := ['"']) rfl hrest
  split
  · subst c
    exact takeText_escape (e := ['\\']) rfl hrest
  split
  · subst c
    exact takeText_escape (e := ['n']) rfl hrest
  split
  · subst c
    exact takeText_escape (e := ['t']) rfl hrest
  split
  · subst c
    exact takeText_escape (e := ['r']) rfl hrest
  split
  · subst c
    exact takeText_escape (e := ['b']) rfl hrest
  split
  · subst c
    exact takeText_escape (e := ['f']) rfl hrest
  split
  · rename_i hcontrol
    exact takeText_escape (e := 'u' :: '0' :: '0' :: hexPair c.toNat)
      (takeEscape_control hcontrol rest) hrest
  · rename_i hquote hbackslash _ _ _ _ _ hcontrol
    rw [List.singleton_append, takeText]
    simp [hquote, hbackslash, hcontrol, hrest]

/-- **A quoted text is read back.** -/
theorem takeText_escaped (cs rest : List Char) :
    takeText (cs.flatMap escapeChar ++ '"' :: rest) = .ok (cs, rest) := by
  induction cs with
  | nil => simp [takeText]
  | cons c cs ih =>
    rw [List.flatMap_cons, List.append_assoc]
    exact takeText_escapeChar c ih

/-! ## Numbers -/

/-- The text behind a value in a document: it goes on with a comma or a line feed. -/
def Delimited (rest : List Char) : Prop := ∃ more, rest = ',' :: more ∨ rest = '\n' :: more

theorem ofDigits_digits (n : Nat) : ofDigits (digits n) = n := by
  have h := @Nat.ofDigitChars_ten_toDigits n
  rwa [Nat.ofDigitChars_eq_foldl] at h

theorem isDigit_of_mem_digits {n : Nat} {c : Char} (h : c ∈ digits n) : c.isDigit = true :=
  Nat.isDigit_of_mem_toDigits (by decide) (by decide) h

theorem digits_cons (n : Nat) : ∃ d ds, digits n = d :: ds ∧ d.isDigit = true := by
  rcases h : digits n with _ | ⟨d, ds⟩
  · exact absurd h Nat.toDigits_ne_nil
  · exact ⟨d, ds, rfl, isDigit_of_mem_digits (h ▸ List.mem_cons_self)⟩

theorem digits_eq (n : Nat) :
    digits n = if n < 10 then [Nat.digitChar n] else digits (n / 10) ++ [Nat.digitChar (n % 10)] :=
  Nat.toDigits_eq_if (by decide)

/-- No number but zero is written with a zero in front. -/
theorem eq_zero_of_digits {n : Nat} {ds : List Char} (h : digits n = '0' :: ds) : n = 0 := by
  induction n using Nat.strongRecOn generalizing ds with
  | ind n ih =>
    rw [digits_eq] at h
    split at h
    · rename_i hlt
      have hzero : ∀ n, n < 10 → Nat.digitChar n = '0' → n = 0 := by decide
      exact hzero n hlt (List.cons.inj h).1
    · obtain ⟨d, more, hcons, -⟩ := digits_cons (n / 10)
      rw [hcons, List.cons_append] at h
      have := ih (n / 10) (by omega) (hcons.trans (by rw [(List.cons.inj h).1]))
      omega

theorem takeDigits_digits (n : Nat) {rest : List Char} (h : Delimited rest) :
    takeDigits (digits n ++ rest) = .ok (digits n, rest) := by
  have hall : ∀ c ∈ digits n, c.isDigit = true := fun c hc => isDigit_of_mem_digits hc
  have hrest : rest.takeWhile Char.isDigit = [] ∧ rest.dropWhile Char.isDigit = rest := by
    obtain ⟨more, rfl | rfl⟩ := h <;> simp
  have htake : (digits n ++ rest).takeWhile Char.isDigit = digits n := by
    rw [List.takeWhile_append_of_pos hall, hrest.1, List.append_nil]
  have hdrop : (digits n ++ rest).dropWhile Char.isDigit = rest := by
    rw [List.dropWhile_append_of_pos hall, hrest.2]
  obtain ⟨d, ds, hcons, -⟩ := digits_cons n
  rw [takeDigits, htake, hdrop, hcons]

theorem le_foldl_digits (ds : List Char) (n : Nat) :
    n ≤ ds.foldl (fun n c => 10 * n + (c.toNat - 48)) n := by
  induction ds generalizing n with
  | nil => exact Nat.le_refl n
  | cons d ds ih =>
    have hstep : n ≤ 10 * n + (d.toNat - 48) := by omega
    exact Nat.le_trans hstep (ih _)

/-- Digits that denote a number of 64 bits all count. -/
theorem addDigits_eq (ds : List Char) (n : Nat)
    (h : ds.foldl (fun n c => 10 * n + (c.toNat - 48)) n < 1 <<< 64) :
    addDigits n ds = (ds.foldl (fun n c => 10 * n + (c.toNat - 48)) n, []) := by
  induction ds generalizing n with
  | nil => rfl
  | cons d ds ih =>
    have hlonger : 10 * n + (d.toNat - 48) < 1 <<< 64 :=
      Nat.lt_of_le_of_lt (le_foldl_digits ds _) h
    rw [addDigits, if_pos hlonger, List.foldl_cons, ih _ h]

/-- A number below `2 ^ 32` without fraction and exponent is not too large. -/
theorem isHuge_digits {n : Nat} (h : n < 4294967296) :
    Numeral.isHuge ⟨false, digits n, none, none⟩ = false := by
  have hadd : addDigits 0 (digits n) = (n, []) := by
    have heq := ofDigits_digits n
    unfold ofDigits at heq
    rw [addDigits_eq _ _ (by rw [heq]; omega), heq]
  have hlimit : n < doubleLimit := by
    have : 4294967296 ≤ doubleLimit := by decide
    omega
  have hround : roundToDouble n = n := by
    rw [roundToDouble, if_pos (by omega)]
  have hone : roundToDouble 1 = 1 := by decide
  have hsignificant : Numeral.significant ⟨false, digits n, none, none⟩ = (n, 0) := by
    simp [Numeral.significant, hadd, addDigits]
  simp [Numeral.isHuge, hsignificant, hround, hone, hlimit]

/-- **A number below `2 ^ 32` is read back.** -/
theorem takeNumeral_digits {n : Nat} (hn : n < 4294967296) {rest : List Char}
    (h : Delimited rest) :
    takeNumeral (digits n ++ rest) = .ok (⟨false, digits n, none, none⟩, rest) := by
  have hwhole : takeWhole (digits n ++ rest) = .ok (digits n, rest) := by
    rw [takeWhole, takeDigits_digits n h]
    simp only [bind, Except.bind]
    split
    · rename_i d ds heq
      obtain rfl := eq_zero_of_digits heq
      cases heq
    · rfl
  have hfraction : takeFraction rest = .ok (none, rest) := by
    obtain ⟨more, rfl | rfl⟩ := h <;> rfl
  have hexponent : takeExponent rest = .ok (none, rest) := by
    obtain ⟨more, rfl | rfl⟩ := h <;> rfl
  have hunsigned : ∀ cs, digits n ++ rest = '-' :: cs → False := by
    intro cs hcs
    obtain ⟨d, ds, hcons, hd⟩ := digits_cons n
    rw [hcons] at hcs
    obtain rfl : d = '-' := (List.cons.inj hcs).1
    exact absurd hd (by decide)
  rw [takeNumeral]
  · simp [hwhole, hfraction, hexponent, isHuge_digits hn, bind, Except.bind]
  · exact hunsigned

theorem toWord?_digits {n : Nat} (h : n < 4294967296) :
    Numeral.toWord? ⟨false, digits n, none, none⟩ = some n := by
  simp [Numeral.toWord?, ofDigits_digits, h]

theorem toWord?_lt {n : Numeral} {value : Nat} (h : n.toWord? = some value) :
    value < 4294967296 := by
  unfold Numeral.toWord? at h
  split at h
  · cases h
  · split at h
    · cases h
      assumption
    · cases h

end BytecodeLint.Json
