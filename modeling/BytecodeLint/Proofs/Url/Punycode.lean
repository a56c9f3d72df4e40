import BytecodeLint.Proofs.Text.Cut
import BytecodeLint.Url.Punycode
import Mathlib.Data.List.InsertIdx
import Mathlib.Tactic.Ring

/-!
# Punycode is read back

Writing goes through the characters outside ASCII in ascending order and tells for each the distance
from the one before, counted in places: going once around the label as it is so far goes on to the
next character. Reading counts the same places. So while a label is being written, what has been
written leads a reader to the same label so far (`Cursor`, `Follows`):

* `readDistance_digits`: the digits of a distance are read back, if the distance is not too large.
  Then neither are the weights of its digits (`adapt_le` bounds the bias, and with it the number of
  digits that do not weigh the least).
* `Follows.pass`, `Follows.foldl`, `Follows.writePoints`: one character, one pass over the label,
  and all passes.
* `decode?_encode`: a label of up to a thousand characters is read back.
-/
namespace BytecodeLint.Url.Punycode

/-! ## Digits -/

theorem digitValue?_digitChar {d : Nat} (h : d < 36) : digitValue? (digitChar d) = some d := by
  have hall : ∀ d < 36, digitValue? (digitChar d) = some d := by decide
  exact hall d h

theorem threshold_bounds (position bias : Nat) :
    1 ≤ threshold position bias ∧ threshold position bias ≤ 26 := by
  unfold threshold
  omega

theorem threshold_of_far {position bias : Nat} (h : bias + 26 ≤ position) :
    threshold position bias = 26 := by
  unfold threshold
  omega

/-- Distances stay below this number, as long as labels have up to a thousand characters. -/
def reach : Nat := 1200000000

/-- Biases stay below this number, and with them the thresholds from the seventh digit on are the
greatest. -/
def maxBias : Nat := 213

/-- The digit that goes on, and the rest that the digits behind it stand for. -/
theorem split_digit {t q : Nat} (h : t ≤ q) (w : Nat) :
    (t + (q - t) % (36 - t)) * w + (q - t) / (36 - t) * (w * (36 - t)) = q * w := by
  have hdiv := Nat.mod_add_div (q - t) (36 - t)
  calc (t + (q - t) % (36 - t)) * w + (q - t) / (36 - t) * (w * (36 - t))
      = (t + ((q - t) % (36 - t) + (36 - t) * ((q - t) / (36 - t)))) * w := by ring
    _ = q * w := by rw [hdiv, Nat.add_sub_cancel' h]

/-- A digit that goes on leaves the next weight below the limit: up to the sixth digit because the
weights grow by less than thirty-six, and from then on because they grow by ten only. -/
theorem next_weight_lt {bias j w q : Nat} (hbias : bias ≤ maxBias) (hw : j ≤ 6 → w ≤ 35 ^ j)
    (hreach : q * w < reach) (hq : threshold (36 * (j + 1)) bias ≤ q) :
    w * (36 - threshold (36 * (j + 1)) bias) < limit ∧
      (j + 1 ≤ 6 → w * (36 - threshold (36 * (j + 1)) bias) ≤ 35 ^ (j + 1)) := by
  have ht := threshold_bounds (36 * (j + 1)) bias
  by_cases hj : j ≤ 5
  · have hnext : w * (36 - threshold (36 * (j + 1)) bias) ≤ 35 ^ (j + 1) := by
      rw [pow_succ]
      exact Nat.mul_le_mul (hw (by omega)) (by omega)
    have hpow : 35 ^ (j + 1) ≤ 35 ^ 6 := Nat.pow_le_pow_right (by decide) (by omega)
    have hlimit : 35 ^ 6 < limit := by decide
    exact ⟨by omega, fun _ => hnext⟩
  · have hfar : threshold (36 * (j + 1)) bias = 26 :=
      threshold_of_far (by unfold maxBias at hbias; omega)
    rw [hfar] at hq ⊢
    have hle : 26 * w ≤ q * w := Nat.mul_le_mul_right w hq
    unfold reach at hreach
    unfold limit
    exact ⟨by omega, fun h => by omega⟩

/-- The digits of a distance are read back. -/
theorem readDistance_digits {bias : Nat} (hbias : bias ≤ maxBias) {q j w total : Nat}
    (hw : j ≤ 6 → w ≤ 35 ^ j) (hreach : total + q * w < reach) (rest : List Char) :
    readDistance bias (36 * (j + 1)) w total (digits bias (36 * (j + 1)) q ++ rest) =
      some (total + q * w, rest) := by
  have hlimit : reach < limit := by decide
  induction q using Nat.strongRecOn generalizing j w total with
  | ind q ih =>
    have ht := threshold_bounds (36 * (j + 1)) bias
    rw [digits]
    split
    · rename_i hlast
      rw [List.singleton_append, readDistance, digitValue?_digitChar (by omega)]
      simp only
      rw [if_neg (by omega), if_pos hlast]
    · rename_i hq
      generalize hthreshold : threshold (36 * (j + 1)) bias = t at *
      have hsplit := split_digit (Nat.le_of_not_lt hq) w
      have hdigit := Nat.mod_lt (q - t) (show 0 < 36 - t by omega)
      have hless : (q - t) / (36 - t) < q :=
        Nat.lt_of_le_of_lt (Nat.div_le_self ..) (by omega)
      obtain ⟨hnext, hnext'⟩ := next_weight_lt hbias hw (by omega : q * w < reach)
        (by omega : threshold (36 * (j + 1)) bias ≤ q)
      rw [hthreshold] at hnext hnext'
      rw [List.cons_append, readDistance, digitValue?_digitChar (by omega)]
      simp only [hthreshold]
      rw [if_neg (by omega), if_neg (by omega), if_neg (by omega)]
      have hlater := ih _ hless hnext' (by omega :
        total + (t + (q - t) % (36 - t)) * w + (q - t) / (36 - t) * (w * (36 - t)) < reach)
      rw [show 36 * (j + 1) + 36 = 36 * (j + 1 + 1) by omega, hlater, Nat.add_assoc, hsplit]

/-! ## The bias -/

theorem scale_le {delta k : Nat} (h : delta < 456 * 35 ^ k) (count : Nat) :
    (scale delta count).1 ≤ 455 ∧ (scale delta count).2 ≤ count + 36 * k := by
  induction k generalizing delta count with
  | zero =>
    rw [scale, if_neg (by omega)]
    exact ⟨by omega, by omega⟩
  | succ k ih =>
    rw [scale]
    split
    · have hless : delta / 35 < 456 * 35 ^ k := by
        rw [Nat.div_lt_iff_lt_mul (by decide), Nat.mul_assoc, ← pow_succ]
        exact h
      obtain ⟨hrest, hcount⟩ := ih hless (count + 36)
      exact ⟨hrest, by omega⟩
    · exact ⟨by omega, by omega⟩

/-- A distance within reach keeps the bias small. -/
theorem adapt_le {delta : Nat} (h : delta < reach) (points : Nat) (isFirst : Bool) :
    adapt delta points isFirst ≤ maxBias := by
  unfold adapt
  simp only
  generalize hhalved : (if isFirst = true then delta / 700 else delta / 2) = halved
  have hle : halved ≤ delta / 2 := by
    rw [← hhalved]
    split <;> omega
  have hdiv := Nat.div_le_self halved points
  obtain ⟨hrest, hcount⟩ :=
    scale_le (show halved + halved / points < 456 * 35 ^ 5 by unfold reach at h; omega) 0
  have hlast : 36 * (scale (halved + halved / points) 0).1 /
      ((scale (halved + halved / points) 0).1 + 38) < 34 :=
    Nat.div_lt_of_lt_mul (by omega)
  unfold maxBias
  omega

/-! ## Reading along -/

/-- How far a reader has come: the label so far, and where the next character goes. -/
structure Cursor where
  label : List Char
  place : Nat
  point : Nat
  bias : Nat

namespace Cursor

/-- The label that a reader makes of the rest. -/
def read (r : Cursor) (cs : List Char) : Option (List Char) :=
  readPoints r.label r.place r.point r.bias cs

/-- Some digits bring a reader further. -/
def Reads (r r' : Cursor) (ds : List Char) : Prop := ∀ rest, r.read (ds ++ rest) = r'.read rest

theorem Reads.refl (r : Cursor) : r.Reads r [] := fun _ => rfl

theorem Reads.trans {r r' r'' : Cursor} {ds ds' : List Char} (h : r.Reads r' ds)
    (h' : r'.Reads r'' ds') : r.Reads r'' (ds ++ ds') := fun rest => by
  rw [List.append_assoc, h, h']

/-- The digits of a distance put a character into the label. -/
theorem reads_digits {r : Cursor} (hbias : r.bias ≤ maxBias) {delta k : Nat} {c : Char}
    (hreach : r.place + delta < reach) (hpoint : r.point ≤ c.toNat) (hk : k ≤ r.label.length)
    (hsum : r.place + delta = (c.toNat - r.point) * (r.label.length + 1) + k) :
    r.Reads ⟨r.label.insertIdx k c, k + 1, c.toNat,
      adapt delta (r.label.length + 1) (r.place == 0)⟩ (digits r.bias 36 delta) := by
  intro rest
  have hread : readDistance r.bias 36 1 r.place (digits r.bias 36 delta ++ rest) =
      some (r.place + delta, rest) := by
    simpa using readDistance_digits hbias (j := 0) (w := 1) (fun _ => Nat.le_refl 1)
      (by omega : r.place + delta * 1 < reach) rest
  have hne : (digits r.bias 36 delta ++ rest).isEmpty = false := by
    rw [digits]
    split <;> rfl
  have hdiv : (r.place + delta) / (r.label.length + 1) = c.toNat - r.point := by
    rw [hsum, Nat.mul_comm, Nat.mul_add_div (by omega), Nat.div_eq_of_lt (by omega), Nat.add_zero]
  have hmod : (r.place + delta) % (r.label.length + 1) = k := by
    rw [hsum, Nat.mul_comm, Nat.mul_add_mod, Nat.mod_eq_of_lt (by omega)]
  have hchar : r.point + (r.place + delta) / (r.label.length + 1) = c.toNat := by omega
  unfold read
  rw [readPoints, hne, if_neg (by decide)]
  split
  · rename_i hnone
    rw [hread] at hnone
    cases hnone
  · rename_i sum rest' hsome
    rw [hread] at hsome
    cases hsome
    have hvalid : c.toNat.isValidChar := c.valid
    simp only [hchar, hmod, if_pos hvalid, Char.ofNat_toNat, Nat.add_sub_cancel_left]

end Cursor

/-! ## Writing and reading in step -/

/-- Digits as they are written. -/
def Figures (ds : List Char) : Prop := ∀ c ∈ ds, ∃ d < 36, c = digitChar d

theorem Figures.append {ds ds' : List Char} (h : Figures ds) (h' : Figures ds') :
    Figures (ds ++ ds') := fun c hc => (List.mem_append.1 hc).elim (h c) (h' c)

theorem figures_digits (bias position delta : Nat) : Figures (digits bias position delta) := by
  fun_induction digits bias position delta with
  | case1 position delta t hlt =>
    have ht := threshold_bounds position bias
    intro c hc
    exact ⟨delta, by omega, List.mem_singleton.1 hc⟩
  | case2 position delta t hge ih =>
    have ht := threshold_bounds position bias
    have hdigit := Nat.mod_lt (delta - t) (show 0 < 36 - t by omega)
    intro c hc
    rcases List.mem_cons.1 hc with rfl | hc
    · exact ⟨_, by omega, rfl⟩
    · exact ih c hc

/-- The characters that have been written, while the one with number `point` is being written and a
part of the label has been passed. -/
def written (point : Nat) (passed ahead : List Char) : List Char :=
  (passed.filter fun c => c.toNat ≤ point) ++ ahead.filter fun c => c.toNat < point

/-- A reader has come as far as a writer: it has the characters that have been written, and the
distance that the writer has counted leads it to where the writer is. -/
structure Follows (basic point : Nat) (passed ahead : List Char) (s : State) (r : Cursor) :
    Prop where
  label : r.label = written point passed ahead
  handled : s.handled = r.label.length
  bias : r.bias = s.bias
  bias_le : s.bias ≤ maxBias
  point_le : r.point ≤ point
  basic_le : basic ≤ s.handled
  first : (r.place == 0) = (s.handled == basic)
  sum : r.place + s.delta =
    (point - r.point) * (s.handled + 1) + (passed.filter fun c => c.toNat ≤ point).length

section
variable {basic point : Nat} {passed ahead : List Char} {c : Char} {s : State} {r : Cursor}

theorem written_of_lt (h : c.toNat < point) :
    written point (passed ++ [c]) ahead = written point passed (c :: ahead) := by
  simp [written, h, Nat.le_of_lt h]

theorem written_of_gt (h : point < c.toNat) :
    written point (passed ++ [c]) ahead = written point passed (c :: ahead) := by
  simp [written, Nat.not_le_of_lt h, Nat.not_lt_of_lt h]

theorem insertIdx_length_append (xs ys : List Char) (c : Char) :
    (xs ++ ys).insertIdx xs.length c = xs ++ c :: ys := by
  induction xs with
  | nil => rfl
  | cons x xs ih => simp [ih]

/-- A character that is written goes behind those that have been passed. -/
theorem insertIdx_written (passed ahead : List Char) :
    (written c.toNat passed (c :: ahead)).insertIdx
        (passed.filter fun d => d.toNat ≤ c.toNat).length c =
      written c.toNat (passed ++ [c]) ahead := by
  simp [written, insertIdx_length_append]

theorem length_written_le (point : Nat) (passed ahead : List Char) :
    (written point passed ahead).length ≤ passed.length + ahead.length := by
  unfold written
  rw [List.length_append]
  exact Nat.add_le_add (List.length_filter_le ..) (List.length_filter_le ..)

theorem Follows.below (h : Follows basic point passed (c :: ahead) s r) (hlt : c.toNat < point) :
    Follows basic point (passed ++ [c]) ahead { s with delta := s.delta + 1 } r := by
  refine { h with label := ?_, sum := ?_ }
  · rw [written_of_lt hlt]
    exact h.label
  · have hsum := h.sum
    simp only [List.filter_append, List.filter_cons, Nat.le_of_lt hlt, decide_true, ↓reduceIte,
      List.filter_nil, List.length_append, List.length_singleton]
    omega

theorem Follows.above (h : Follows basic point passed (c :: ahead) s r) (hgt : point < c.toNat) :
    Follows basic point (passed ++ [c]) ahead s r := by
  refine { h with label := ?_, sum := ?_ }
  · rw [written_of_gt hgt]
    exact h.label
  · simp only [List.filter_append, List.filter_cons, Nat.not_le_of_lt hgt, decide_false,
      Bool.false_eq_true, ↓reduceIte, List.filter_nil, List.append_nil]
    exact h.sum

/-- The distance that the writer has counted is within reach. -/
theorem Follows.sum_lt (h : Follows basic c.toNat passed (c :: ahead) s r)
    (hsize : passed.length + (c :: ahead).length ≤ 1000) :
    (passed.filter fun d => d.toNat ≤ c.toNat).length ≤ r.label.length ∧
      r.place + s.delta < reach := by
  have hle : (passed.filter fun d => d.toNat ≤ c.toNat).length ≤ r.label.length := by
    rw [h.label, written, List.length_append]
    exact Nat.le_add_right ..
  have hlength : r.label.length ≤ 1000 := Nat.le_trans (h.label ▸ length_written_le ..) hsize
  have hchar : c.toNat < 1114112 := by
    have hvalid : c.toNat.isValidChar := c.valid
    unfold Nat.isValidChar at hvalid
    omega
  have hmul : (c.toNat - r.point) * (r.label.length + 1) ≤ 1114112 * 1001 :=
    Nat.mul_le_mul (by omega) (by omega)
  have hsum := h.sum
  rw [h.handled] at hsum
  unfold reach
  exact ⟨hle, by omega⟩

/-- The writer writes a character, and the reader puts it into the label. -/
theorem Follows.write (h : Follows basic c.toNat passed (c :: ahead) s r)
    (hsize : passed.length + (c :: ahead).length ≤ 1000) :
    ∃ r', r.Reads r' (digits s.bias 36 s.delta) ∧
      Follows basic c.toNat (passed ++ [c]) ahead
        ⟨s.output ++ digits s.bias 36 s.delta, 0,
          adapt s.delta (s.handled + 1) (s.handled == basic), s.handled + 1⟩ r' := by
  obtain ⟨hle, hreach⟩ := h.sum_lt hsize
  -- `h.sum` is the division that the reader makes: times around the label, and the place in it
  have hsum := h.sum
  rw [h.handled] at hsum
  refine ⟨_, h.bias ▸ Cursor.reads_digits (h.bias ▸ h.bias_le) hreach h.point_le hle hsum, ?_⟩
  exact {
    label := by rw [h.label, insertIdx_written]
    handled := by rw [List.length_insertIdx_of_le_length hle, h.handled]
    bias := by rw [h.handled, h.first, h.handled]
    bias_le := adapt_le (by omega) ..
    point_le := Nat.le_refl _
    basic_le := Nat.le_succ_of_le h.basic_le
    first := by
      have hbasic : s.handled + 1 ≠ basic := Nat.ne_of_gt (Nat.lt_succ_of_le h.basic_le)
      rw [beq_eq_false_iff_ne.2 (Nat.succ_ne_zero _), beq_eq_false_iff_ne.2 hbasic]
    sum := by simp }

/-- What a writer has written from one state to another brings a reader along. -/
def Leads (s s' : State) (r r' : Cursor) : Prop :=
  ∃ ds, s'.output = s.output ++ ds ∧ Figures ds ∧ r.Reads r' ds

theorem Leads.refl {s s' : State} (h : s'.output = s.output) (r : Cursor) : Leads s s' r r :=
  ⟨[], by rw [h, List.append_nil], fun _ hc => absurd hc List.not_mem_nil, .refl r⟩

theorem Leads.trans {s s' s'' : State} {r r' r'' : Cursor} (h : Leads s s' r r')
    (h' : Leads s' s'' r' r'') : Leads s s'' r r'' := by
  obtain ⟨ds, houtput, hds, hreads⟩ := h
  obtain ⟨ds', houtput', hds', hreads'⟩ := h'
  exact ⟨ds ++ ds', by rw [houtput', houtput, List.append_assoc], hds.append hds',
    hreads.trans hreads'⟩

/-- The writer passes a character. -/
theorem Follows.pass (h : Follows basic point passed (c :: ahead) s r)
    (hsize : passed.length + (c :: ahead).length ≤ 1000) :
    ∃ r', Leads s (s.pass basic point c) r r' ∧
      Follows basic point (passed ++ [c]) ahead (s.pass basic point c) r' := by
  unfold State.pass
  rcases Nat.lt_trichotomy c.toNat point with hlt | rfl | hgt
  · rw [if_pos hlt]
    exact ⟨r, .refl rfl r, h.below hlt⟩
  · rw [if_neg (Nat.lt_irrefl _), if_pos rfl]
    obtain ⟨r', hreads, h'⟩ := h.write hsize
    exact ⟨r', ⟨_, rfl, figures_digits _ _ _, hreads⟩, h'⟩
  · rw [if_neg (by omega), if_neg (by omega)]
    exact ⟨r, .refl rfl r, h.above hgt⟩

/-- The writer passes the rest of the label. -/
theorem Follows.foldl (h : Follows basic point passed ahead s r)
    (hsize : passed.length + ahead.length ≤ 1000) :
    ∃ r', Leads s (ahead.foldl (State.pass basic point) s) r r' ∧
      Follows basic point (passed ++ ahead) [] (ahead.foldl (State.pass basic point) s) r' := by
  induction ahead generalizing passed s r with
  | nil =>
    rw [List.append_nil]
    exact ⟨r, .refl rfl r, h⟩
  | cons c ahead ih =>
    obtain ⟨r', hleads, h'⟩ := h.pass hsize
    obtain ⟨r'', hleads', h''⟩ :=
      ih h' (by simp only [List.length_append, List.length_cons, List.length_nil] at *; omega)
    rw [List.append_assoc] at h''
    exact ⟨r'', hleads.trans hleads', h''⟩

end

section
variable {label : List Char} {basic next : Nat} {s : State} {r : Cursor}

/-- The writer skips the numbers that the label has no characters with. -/
theorem Follows.skip {point : Nat} (h : Follows basic next [] label s r) (hle : next ≤ point)
    (hnone : ∀ c ∈ label, next ≤ c.toNat → point ≤ c.toNat) :
    Follows basic point [] label { s with delta := s.delta + (point - next) * (s.handled + 1) }
      r := by
  have hpoint := h.point_le
  have hsum := h.sum
  refine { h with label := ?_, point_le := by omega, sum := ?_ }
  · rw [h.label]
    simp only [written, List.filter_nil, List.nil_append]
    refine List.filter_congr fun c hc => decide_eq_decide.2 ?_
    have hc := hnone c hc
    omega
  · simp only [List.filter_nil, List.length_nil, Nat.add_zero] at hsum ⊢
    rw [← Nat.add_assoc, hsum, ← Nat.add_mul, show next - r.point + (point - next) =
      point - r.point by omega]

/-- The writer has come to the end of the label, and goes on to the next number. -/
theorem Follows.turn {point : Nat} (h : Follows basic point label [] s r) :
    Follows basic (point + 1) [] label { s with delta := s.delta + 1 } r := by
  have hlabel : r.label = label.filter fun c => c.toNat ≤ point := by
    rw [h.label, written, List.filter_nil, List.append_nil]
  have hpoint := h.point_le
  have hsum := h.sum
  refine { h with label := ?_, point_le := by omega, sum := ?_ }
  · rw [hlabel, written, List.filter_nil, List.nil_append]
    simp only [Nat.lt_succ_iff]
  · rw [← hlabel, ← h.handled] at hsum
    rw [List.filter_nil, List.length_nil, show point + 1 - r.point = point - r.point + 1 by omega,
      Nat.succ_mul]
    simp only
    omega

/-- The writer writes all numbers that are left, and the reader ends with the label. -/
theorem Follows.writePoints {points : List Nat} (h : Follows basic next [] label s r)
    (hsize : label.length ≤ 1000) (hsorted : points.Pairwise (· < ·))
    (hle : ∀ p ∈ points, next ≤ p) (hall : ∀ c ∈ label, next ≤ c.toNat → c.toNat ∈ points) :
    ∃ r', Leads s (writePoints label basic points next s) r r' ∧ r'.label = label := by
  induction points generalizing next s r with
  | nil =>
    refine ⟨r, .refl rfl r, ?_⟩
    rw [h.label, written, List.filter_nil, List.nil_append, List.filter_eq_self]
    intro c hc
    exact decide_eq_true (Nat.lt_of_not_le fun hn => List.not_mem_nil (hall c hc hn))
  | cons point points ih =>
    rw [List.pairwise_cons] at hsorted
    have hpoint := hle point List.mem_cons_self
    have hskip := h.skip hpoint fun c hc hn => by
      rcases List.mem_cons.1 (hall c hc hn) with heq | hlater
      · omega
      · exact Nat.le_of_lt (hsorted.1 _ hlater)
    obtain ⟨r', hleads, hpass⟩ :=
      hskip.foldl (by rw [List.length_nil, Nat.zero_add]; exact hsize)
    obtain ⟨r'', hleads', hlabel⟩ := ih hpass.turn hsorted.2 hsorted.1 fun c hc hn =>
      (List.mem_cons.1 (hall c hc (by omega))).resolve_left (by omega)
    rw [Punycode.writePoints]
    exact ⟨r'', hleads.trans hleads', hlabel⟩

end

/-! ## Labels -/

theorem pairwise_eraseDups {ns : List Nat} (h : ns.Pairwise (· ≤ ·)) :
    ns.eraseDups.Pairwise (· < ·) := by
  induction hlength : ns.length using Nat.strongRecOn generalizing ns with
  | ind length ih =>
    cases ns with
    | nil => exact List.Pairwise.nil
    | cons n ns =>
      rw [List.pairwise_cons] at h
      rw [List.eraseDups_cons, List.pairwise_cons]
      have hless : (ns.filter fun m => !m == n).length < length := by
        rw [← hlength]
        exact Nat.lt_succ_of_le (List.length_filter_le ..)
      refine ⟨fun m hm => ?_, ih _ hless (h.2.filter _) rfl⟩
      rw [List.mem_eraseDups, List.mem_filter] at hm
      have hle := h.1 m hm.1
      have hne : m ≠ n := by simpa using hm.2
      omega

/-- The numbers of the characters outside ASCII, which ascend. -/
theorem pairwise_points (ns : List Nat) : ns.mergeSort.eraseDups.Pairwise (· < ·) := by
  have hsorted : ns.mergeSort.Pairwise fun a b => decide (a ≤ b) = true :=
    List.pairwise_mergeSort
      (fun a b c hab hbc => by simp only [decide_eq_true_eq] at *; omega)
      (fun a b => by simp only [Bool.or_eq_true, decide_eq_true_eq]; omega) ns
  exact pairwise_eraseDups (hsorted.imp of_decide_eq_true)

/-- An ASCII form: the ASCII characters of a label, and digits that lead a reader to the label. -/
theorem exists_encode_eq {label : List Char} (hsize : label.length ≤ 1000) :
    ∃ ds, encode label = (if (label.filter fun c => c.toNat < 128).isEmpty then []
        else (label.filter fun c => c.toNat < 128) ++ ['-']) ++ ds ∧ Figures ds ∧
      readPoints (label.filter fun c => c.toNat < 128) 0 128 72 ds = some label := by
  generalize hbasic : label.filter (fun c => c.toNat < 128) = basic
  have hstart : Follows basic.length 128 [] label ⟨[], 0, 72, basic.length⟩ ⟨basic, 0, 128, 72⟩ := {
    label := hbasic.symm
    handled := rfl
    bias := rfl
    bias_le := show 72 ≤ maxBias by decide
    point_le := Nat.le_refl _
    basic_le := Nat.le_refl _
    first := (beq_self_eq_true _).symm
    sum := by simp }
  obtain ⟨r, ⟨ds, houtput, hds, hreads⟩, hlabel⟩ := hstart.writePoints hsize
    (pairwise_points ((label.map Char.toNat).filter fun n => 128 ≤ n))
    (fun p hp => by
      rw [List.mem_eraseDups, List.mem_mergeSort, List.mem_filter] at hp
      exact of_decide_eq_true hp.2)
    (fun c hc hn => by
      rw [List.mem_eraseDups, List.mem_mergeSort, List.mem_filter]
      exact ⟨List.mem_map_of_mem hc, decide_eq_true hn⟩)
  refine ⟨ds, ?_, hds, ?_⟩
  · rw [encode, hbasic, houtput, List.nil_append]
  · have hread := hreads []
    rw [List.append_nil] at hread
    calc readPoints basic 0 128 72 ds = r.read [] := hread
      _ = some label := by rw [Cursor.read, readPoints, hlabel]; rfl

theorem Figures.dash_notMem {ds : List Char} (h : Figures ds) : '-' ∉ ds := by
  intro hdash
  obtain ⟨d, hd, heq⟩ := h _ hdash
  have hnone : ∀ d < 36, '-' ≠ digitChar d := by decide
  exact hnone d hd heq

/-- A label of up to a thousand characters is read back from its ASCII form. -/
theorem decode?_encode {label : List Char} (hsize : label.length ≤ 1000) :
    decode? (encode label) = some label := by
  obtain ⟨ds, hencode, hds, hread⟩ := exists_encode_eq hsize
  rw [hencode, decode?]
  generalize label.filter (fun c => c.toNat < 128) = basic at hread ⊢
  cases basic with
  | nil =>
    rw [List.isEmpty_nil, if_pos rfl, List.nil_append, Text.splitLast_of_notMem hds.dash_notMem]
    exact hread
  | cons c basic =>
    rw [List.isEmpty_cons, if_neg (by decide), List.append_assoc, List.singleton_append,
      Text.splitLast_append_sep _ hds.dash_notMem]
    exact hread

theorem mem_encode {label : List Char} (hsize : label.length ≤ 1000) {c : Char}
    (h : c ∈ encode label) : (c ∈ label ∧ c.toNat < 128) ∨ c = '-' ∨ ∃ d < 36, c = digitChar d := by
  obtain ⟨ds, hencode, hds, -⟩ := exists_encode_eq hsize
  rw [hencode, List.mem_append] at h
  rcases h with h | h
  · split at h
    · cases h
    · rw [List.mem_append, List.mem_filter, List.mem_singleton, decide_eq_true_eq] at h
      exact h.imp_right .inl
  · exact .inr (.inr (hds c h))

theorem toNat_ofNat {n : Nat} (h : n.isValidChar) : (Char.ofNat n).toNat = n := by
  rw [Char.ofNat, dif_pos h]
  rfl

theorem readPoints_mem {label cs label' : List Char} {place point bias : Nat}
    (hpoint : 128 ≤ point) (h : readPoints label place point bias cs = some label') {c : Char}
    (hc : c ∈ label') : c ∈ label ∨ 128 ≤ c.toNat := by
  fun_induction readPoints label place point bias cs with
  | case1 label place point bias cs hempty =>
    cases h
    exact .inl hc
  | case2 => cases h
  | case3 label place point bias cs hempty sum rest hread count next hvalid ih =>
    have hnext : 128 ≤ next := Nat.le_trans hpoint (Nat.le_add_right ..)
    refine (ih hnext h).elim (fun hmem => ?_) .inr
    rcases List.eq_or_mem_of_mem_insertIdx hmem with rfl | hmem
    · right
      rw [toNat_ofNat hvalid]
      exact hnext
    · exact .inl hmem
  | case4 => cases h

/-- The characters that are read are those of the form, or outside ASCII. -/
theorem decode?_mem {cs label : List Char} (h : decode? cs = some label) {c : Char}
    (hc : c ∈ label) : c ∈ cs ∨ 128 ≤ c.toNat := by
  rw [decode?] at h
  split at h
  · rename_i basic digits hcut
    split at h
    · cases h
    · refine (readPoints_mem (Nat.le_refl 128) h hc).imp_left fun hmem => ?_
      rw [(Text.of_splitLast hcut).1]
      exact List.mem_append_left _ hmem
  · exact (readPoints_mem (Nat.le_refl 128) h hc).imp_left fun hmem => absurd hmem List.not_mem_nil

/-! ## Long forms

Characters far from each other take three digits each, once there are some of them. -/

theorem digits_ne_nil (bias position delta : Nat) : digits bias position delta ≠ [] := by
  rw [digits]
  split <;> exact List.cons_ne_nil _ _

theorem three_le_length_digits (bias : Nat) {delta : Nat} (h : 911 ≤ delta) :
    3 ≤ (digits bias 36 delta).length := by
  have ht := threshold_bounds 36 bias
  have ht' := threshold_bounds (36 + 36) bias
  have hsecond : threshold (36 + 36) bias ≤
      (delta - threshold 36 bias) / (36 - threshold 36 bias) := by
    refine Nat.le_trans ht'.2 ((Nat.le_div_iff_mul_le (by omega)).2 ?_)
    omega
  rw [digits, if_neg (by omega), digits, if_neg (by omega)]
  have hthird := List.length_pos_iff.2 (digits_ne_nil bias (36 + 36 + 36)
    (((delta - threshold 36 bias) / (36 - threshold 36 bias) - threshold (36 + 36) bias) /
      (36 - threshold (36 + 36) bias)))
  simp only [List.length_cons]
  omega

section
variable {basic : Nat} {passed ahead : List Char} {c : Char}

/-- In a label that ascends, the characters in front have been written and those behind come
later. -/
theorem foldl_pass_of_ascending (hpassed : ∀ d ∈ passed, d.toNat < c.toNat)
    (hahead : ∀ d ∈ ahead, c.toNat < d.toNat) (s : State) :
    (passed ++ c :: ahead).foldl (State.pass basic c.toNat) s =
      ⟨s.output ++ digits s.bias 36 (s.delta + passed.length), 0,
        adapt (s.delta + passed.length) (s.handled + 1) (s.handled == basic), s.handled + 1⟩ := by
  have hlater : ∀ s, ahead.foldl (State.pass basic c.toNat) s = s := by
    intro s
    induction ahead generalizing s with
    | nil => rfl
    | cons d ahead ih =>
      have hd := hahead d List.mem_cons_self
      rw [List.foldl_cons, State.pass, if_neg (by omega), if_neg (by omega),
        ih fun d hmem => hahead d (List.mem_cons_of_mem _ hmem)]
  induction passed generalizing s with
  | nil =>
    rw [List.nil_append, List.foldl_cons, hlater, State.pass, if_neg (Nat.lt_irrefl _), if_pos rfl]
    rfl
  | cons d passed ih =>
    have hd := hpassed d List.mem_cons_self
    rw [List.cons_append, List.foldl_cons, State.pass, if_pos hd,
      ih fun d hmem => hpassed d (List.mem_cons_of_mem _ hmem)]
    simp only [List.length_cons, Nat.add_assoc, Nat.add_comm 1]

/-- Up to eighteen characters there is nothing to show, and from then on a character that is far
from the one before takes three digits. -/
theorem le_length_write {s : State} {gap : Nat} (hgap : 49 ≤ gap)
    (hlength : 3 * s.handled ≤ s.output.length + 54) (count : Nat) :
    3 * (s.handled + 1) ≤ (s.output ++
      digits s.bias 36 (s.delta + gap * (s.handled + 1) + count)).length + 54 := by
  rw [List.length_append]
  by_cases hmany : 18 ≤ s.handled
  · have hdelta : 49 * 19 ≤ gap * (s.handled + 1) := Nat.mul_le_mul hgap (by omega)
    have hdigits := three_le_length_digits s.bias
      (show 911 ≤ s.delta + gap * (s.handled + 1) + count by omega)
    omega
  · omega

theorem le_length_writePoints {next : Nat} {s : State} (hhandled : s.handled = passed.length)
    (hpassed : ∀ d ∈ passed, d.toNat < next) (hnext : ∀ d ∈ ahead, next + 49 ≤ d.toNat)
    (hgaps : ahead.Pairwise fun a b => a.toNat + 50 ≤ b.toNat)
    (hlength : 3 * s.handled ≤ s.output.length + 54) :
    3 * (passed ++ ahead).length ≤
      (writePoints (passed ++ ahead) basic (ahead.map Char.toNat) next s).output.length + 54 := by
  induction ahead generalizing passed next s with
  | nil =>
    rw [List.append_nil, ← hhandled]
    exact hlength
  | cons c ahead ih =>
    rw [List.pairwise_cons] at hgaps
    have hc := hnext c List.mem_cons_self
    have hafter : ∀ d ∈ ahead, c.toNat < d.toNat := fun d hd => by
      have hd := hgaps.1 d hd
      omega
    have hbefore : ∀ d ∈ passed, d.toNat < c.toNat := fun d hd => by
      have hd := hpassed d hd
      omega
    rw [List.map_cons, writePoints, foldl_pass_of_ascending hbefore hafter,
      List.append_cons passed c ahead]
    refine ih (by simp [hhandled]) (fun d hd => ?_) (fun d hd => ?_) hgaps.2
      (le_length_write (by omega) hlength _)
    · rw [List.mem_append, List.mem_singleton] at hd
      rcases hd with hd | rfl
      · exact Nat.lt_succ_of_lt (hbefore d hd)
      · exact Nat.lt_succ_self _
    · have hd := hgaps.1 d hd
      omega

end

theorem eraseDups_of_pairwise {ns : List Nat} (h : ns.Pairwise (· < ·)) : ns.eraseDups = ns := by
  induction ns with
  | nil => rfl
  | cons n ns ih =>
    rw [List.pairwise_cons] at h
    have hall : ns.filter (fun m => !m == n) = ns := List.filter_eq_self.2 fun m hm => by
      have hlt := h.1 m hm
      simpa using Nat.ne_of_gt hlt
    rw [List.eraseDups_cons, hall, ih h.2]

/-- A label whose characters are far from each other has a form three times as long. -/
theorem le_length_encode {label : List Char} (hlarge : ∀ c ∈ label, 177 ≤ c.toNat)
    (hgaps : label.Pairwise fun a b => a.toNat + 50 ≤ b.toNat) :
    3 * label.length ≤ (encode label).length + 54 := by
  have hascending : (label.map Char.toNat).Pairwise (· < ·) :=
    List.pairwise_map.2 (hgaps.imp fun h => by omega)
  have hfilter : (label.map Char.toNat).filter (fun n => 128 ≤ n) = label.map Char.toNat := by
    rw [List.filter_eq_self]
    intro n hn
    obtain ⟨c, hc, rfl⟩ := List.mem_map.1 hn
    have hc := hlarge c hc
    exact decide_eq_true (by omega)
  have hsorted : (label.map Char.toNat).mergeSort = label.map Char.toNat :=
    List.mergeSort_of_pairwise (hascending.imp fun h => decide_eq_true (Nat.le_of_lt h))
  have hbasic : label.filter (fun c => c.toNat < 128) = [] := by
    rw [List.filter_eq_nil_iff]
    intro c hc
    have hc := hlarge c hc
    simp only [decide_eq_true_eq]
    omega
  have hlength : 3 * ([] ++ label).length ≤
      (writePoints ([] ++ label) 0 (label.map Char.toNat) 128 ⟨[], 0, 72, 0⟩).output.length + 54 :=
    le_length_writePoints rfl (fun _ h => absurd h List.not_mem_nil) hlarge hgaps (by decide)
  rw [encode, hfilter, hsorted, eraseDups_of_pairwise hascending, hbasic]
  exact hlength

end BytecodeLint.Url.Punycode
