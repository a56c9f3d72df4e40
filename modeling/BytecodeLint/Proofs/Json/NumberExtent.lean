import BytecodeLint.Proofs.Json.Extent

/-!
# How far a number is read

A number is read as far as it goes, so it is the one token whose end is decided by what follows. The
character behind it is one with which the number could not go on: no digit, and no point or exponent
mark where one could stand.

* `takeDigits_eq_ok_iff`: a run of digits.
* `takeFraction_extent`, `takeExponent_extent`, `takeWhole_extent`: the parts of a number.
* `run_numberEnd`: where no part can follow, the number is over.
* `takeNumeral_extent`: whole numbers with their sign.
-/

namespace BytecodeLint.Json

open Skim (State Frame run resume step endsInEscape)

/-- The text does not go on with a digit. -/
def Stops (cs : List Char) : Prop := ∀ c ∈ cs.head?, c.isDigit = false

theorem span_digits {ds rest : List Char} (hall : ∀ d ∈ ds, d.isDigit = true) (hstop : Stops rest) :
    (ds ++ rest).takeWhile Char.isDigit = ds ∧ (ds ++ rest).dropWhile Char.isDigit = rest := by
  have hrest : rest.takeWhile Char.isDigit = [] ∧ rest.dropWhile Char.isDigit = rest := by
    cases rest with
    | nil => simp
    | cons c rest => simp [hstop c rfl]
  rw [List.takeWhile_append_of_pos hall, List.dropWhile_append_of_pos hall, hrest.1, hrest.2,
    List.append_nil]
  exact ⟨rfl, rfl⟩

theorem stops_congr {cs rest : List Char} (h : cs.head? = rest.head?) (hrest : Stops rest) :
    Stops cs := by
  unfold Stops
  rwa [h]

theorem takeDigits_eq_ok_iff {cs ds rest : List Char} :
    takeDigits cs = .ok (ds, rest) ↔
      cs = ds ++ rest ∧ ds ≠ [] ∧ (∀ d ∈ ds, d.isDigit = true) ∧ Stops rest := by
  constructor
  · intro h
    have hstop : Stops (cs.dropWhile Char.isDigit) := by
      intro c hc
      have hnot := List.head?_dropWhile_not Char.isDigit cs
      rwa [hc] at hnot
    unfold takeDigits at h
    split at h
    · cases h
    · cases h
    · rename_i hover hmore
      cases h
      have hne : cs.takeWhile Char.isDigit ≠ [] := by
        intro hnil
        cases hrest : cs.dropWhile Char.isDigit with
        | nil => exact hover hnil hrest
        | cons c rest => exact hmore c rest hnil hrest
      have hall := List.all_eq_true.1 (List.all_takeWhile (p := Char.isDigit) (l := cs))
      exact ⟨List.takeWhile_append_dropWhile.symm, hne, hall, hstop⟩
  · rintro ⟨rfl, hne, hall, hstop⟩
    obtain ⟨htake, hdrop⟩ := span_digits hall hstop
    obtain ⟨d, ds, rfl⟩ := List.exists_cons_of_ne_nil hne
    simp only [takeDigits, htake, hdrop]

/-- A digit leads from one state to another. -/
def LeadsTo (s s' : State) : Prop :=
  ∀ stack d cs, d.isDigit = true → run s stack (d :: cs) = run s' stack cs

theorem leadsTo_of_step {s s' : State} (hescape : ∀ c cs, endsInEscape s c cs = false)
    (hstep : ∀ stack d, d.isDigit = true → step s stack d = .next s' stack) : LeadsTo s s' := by
  intro stack d cs hd
  exact Skim.run_next s' stack (hescape d cs) (hstep stack d hd)

theorem run_digits_of {s : State} (hs : LeadsTo s s) {ds : List Char}
    (hall : ∀ d ∈ ds, d.isDigit = true) (stack : List Frame) (tail : List Char) :
    run s stack (ds ++ tail) = run s stack tail := by
  induction ds with
  | nil => rfl
  | cons d ds ih =>
    rw [List.cons_append, hs stack d _ (hall d List.mem_cons_self)]
    exact ih fun c hc => hall c (List.mem_cons_of_mem d hc)

theorem leadsTo_whole : LeadsTo .whole .whole :=
  leadsTo_of_step (fun _ _ => rfl) fun _ _ hd => if_pos hd

theorem leadsTo_point : LeadsTo .point .fraction :=
  leadsTo_of_step (fun _ _ => rfl) fun _ _ hd => if_pos hd

theorem leadsTo_fraction : LeadsTo .fraction .fraction :=
  leadsTo_of_step (fun _ _ => rfl) fun _ _ hd => if_pos hd

theorem leadsTo_exponentSign : LeadsTo .exponentSign .exponent :=
  leadsTo_of_step (fun _ _ => rfl) fun _ _ hd => if_pos hd

theorem leadsTo_exponent : LeadsTo .exponent .exponent :=
  leadsTo_of_step (fun _ _ => rfl) fun _ _ hd => if_pos hd

theorem not_sign {d : Char} (hd : d.isDigit = true) : d ≠ '+' ∧ d ≠ '-' := by
  constructor <;> rintro rfl <;> cases hd

theorem leadsTo_exponentMark : LeadsTo .exponentMark .exponent :=
  leadsTo_of_step (fun _ _ => rfl) fun _ _ hd => by simp [step, not_sign hd, hd]

section
variable {s s' : State} {cs ds rest : List Char} {fraction : Option (List Char)}
  {exponent : Option Int}

theorem takeDigits_extent (h : takeDigits cs = .ok (ds, rest)) (hfirst : LeadsTo s s')
    (hnext : LeadsTo s' s') :
    Extent false (fun cs rest => takeDigits cs = .ok (ds, rest)) (run s) (run s') cs rest := by
  obtain ⟨rfl, hne, hall, hstop⟩ := takeDigits_eq_ok_iff.1 h
  refine ⟨ds, rfl, fun tail htail => ⟨?_, fun stack => ?_⟩⟩
  · exact takeDigits_eq_ok_iff.2 ⟨rfl, hne, hall, stops_congr (htail rfl) hstop⟩
  · obtain ⟨d, ds, rfl⟩ := List.exists_cons_of_ne_nil hne
    rw [List.cons_append, hfirst stack d _ (hall d List.mem_cons_self)]
    exact run_digits_of hnext (fun c hc => hall c (List.mem_cons_of_mem d hc)) stack tail

theorem takeFraction_of_ne (h : cs.head? ≠ some '.') : takeFraction cs = .ok (none, cs) := by
  unfold takeFraction
  split
  · simp at h
  · rfl

theorem takeFraction_cases (h : takeFraction cs = .ok (fraction, rest)) :
    (fraction = none ∧ rest = cs ∧ cs.head? ≠ some '.') ∨
      ∃ ds cs', fraction = some ds ∧ cs = '.' :: cs' ∧ takeDigits cs' = .ok (ds, rest) := by
  by_cases hpoint : cs.head? = some '.'
  · right
    obtain ⟨cs', rfl⟩ := List.head?_eq_some_iff.1 hpoint
    obtain ⟨⟨ds, rest'⟩, hdigits, h⟩ := bind_eq_ok h
    cases h
    exact ⟨ds, cs', rfl, rfl, hdigits⟩
  · left
    rw [takeFraction_of_ne hpoint] at h
    cases h
    exact ⟨rfl, rfl, hpoint⟩

theorem takeExponent_of_ne (h : cs.head? ≠ some 'e' ∧ cs.head? ≠ some 'E') :
    takeExponent cs = .ok (none, cs) := by
  unfold takeExponent
  split
  · simp at h
  · simp at h
  · rfl

theorem takeExponent_cases (h : takeExponent cs = .ok (exponent, rest)) :
    (exponent = none ∧ rest = cs ∧ cs.head? ≠ some 'e' ∧ cs.head? ≠ some 'E') ∨
      ∃ mark cs', (mark = 'e' ∨ mark = 'E') ∧ cs = mark :: cs' ∧
        takeSignedExponent cs' = .ok (exponent, rest) := by
  by_cases hmark : cs.head? = some 'e' ∨ cs.head? = some 'E'
  · right
    rcases hmark with hmark | hmark <;> obtain ⟨cs', rfl⟩ := List.head?_eq_some_iff.1 hmark
    · exact ⟨'e', cs', .inl rfl, rfl, h⟩
    · exact ⟨'E', cs', .inr rfl, rfl, h⟩
  · left
    obtain ⟨hsmall, hbig⟩ := not_or.1 hmark
    rw [takeExponent_of_ne ⟨hsmall, hbig⟩] at h
    cases h
    exact ⟨rfl, rfl, hsmall, hbig⟩

theorem takeExponentDigits_cases {isNegative : Bool}
    (h : takeExponentDigits isNegative cs = .ok (exponent, rest)) :
    ∃ ds, exponent = some (if isNegative then -(ofDigits ds : Int) else ofDigits ds) ∧
      takeDigits cs = .ok (ds, rest) := by
  obtain ⟨⟨ds, rest'⟩, hdigits, h⟩ := bind_eq_ok h
  cases h
  exact ⟨ds, rfl, hdigits⟩

theorem takeExponentDigits_extent {isNegative : Bool}
    (h : takeExponentDigits isNegative cs = .ok (exponent, rest)) (hs : LeadsTo s .exponent) :
    Extent false (fun cs rest => takeExponentDigits isNegative cs = .ok (exponent, rest)) (run s)
      (run .exponent) cs rest := by
  obtain ⟨ds, rfl, hdigits⟩ := takeExponentDigits_cases h
  refine (takeDigits_extent hdigits hs leadsTo_exponent).imp fun cs rest hdigits => ?_
  simp [takeExponentDigits, hdigits, bind, Except.bind]

theorem takeSignedExponent_of_digit (h : ∀ c ∈ cs.head?, c.isDigit = true) :
    takeSignedExponent cs = takeExponentDigits false cs := by
  unfold takeSignedExponent
  split
  · cases h '+' rfl
  · cases h '-' rfl
  · rfl

theorem takeSignedExponent_extent (h : takeSignedExponent cs = .ok (exponent, rest)) :
    Extent false (fun cs rest => takeSignedExponent cs = .ok (exponent, rest)) (run .exponentMark)
      (run .exponent) cs rest := by
  have hsign (sign : Char) (cs : List Char)
      (hcourse : ∀ stack tail,
        run .exponentMark stack (sign :: tail) = run .exponentSign stack tail) :
      Extent true (fun cs rest => cs = [sign] ++ rest) (run .exponentMark) (run .exponentSign)
        ([sign] ++ cs) cs := .literal _ hcourse
  unfold takeSignedExponent at h
  split at h
  · rename_i cs
    refine ((hsign '+' cs fun _ _ => rfl).andThen
      (takeExponentDigits_extent h leadsTo_exponentSign) (.inl rfl)).imp ?_
    rintro cs rest ⟨between, rfl, hdigits⟩
    exact hdigits
  · rename_i cs
    refine ((hsign '-' cs fun _ _ => rfl).andThen
      (takeExponentDigits_extent h leadsTo_exponentSign) (.inl rfl)).imp ?_
    rintro cs rest ⟨between, rfl, hdigits⟩
    exact hdigits
  · refine (takeExponentDigits_extent h leadsTo_exponentMark).imp fun cs rest hdigits => ?_
    obtain ⟨ds, -, htake⟩ := takeExponentDigits_cases hdigits
    obtain ⟨rfl, hne, hall, -⟩ := takeDigits_eq_ok_iff.1 htake
    rw [takeSignedExponent_of_digit, hdigits]
    obtain ⟨d, ds, rfl⟩ := List.exists_cons_of_ne_nil hne
    intro c hc
    cases hc
    exact hall d List.mem_cons_self

theorem takeSignedExponent_cases (h : takeSignedExponent cs = .ok (exponent, rest)) :
    (∃ n, exponent = some n) ∧ Stops rest := by
  have hdigits {isNegative : Bool} {cs : List Char}
      (h : takeExponentDigits isNegative cs = .ok (exponent, rest)) :
      (∃ n, exponent = some n) ∧ Stops rest := by
    obtain ⟨ds, rfl, htake⟩ := takeExponentDigits_cases h
    exact ⟨⟨_, rfl⟩, (takeDigits_eq_ok_iff.1 htake).2.2.2⟩
  unfold takeSignedExponent at h
  split at h <;> exact hdigits h

/-- Where the machine stands behind a number with or without a fraction and an exponent. -/
def numberEnd (fraction : Option (List Char)) (exponent : Option Int) : State :=
  match exponent, fraction with
  | some _, _ => .exponent
  | none, some _ => .fraction
  | none, none => .whole

theorem takeFraction_extent (h : takeFraction cs = .ok (fraction, rest)) :
    Extent false (fun cs rest => takeFraction cs = .ok (fraction, rest)) (run .whole)
      (run (numberEnd fraction none)) cs rest := by
  obtain ⟨rfl, rfl, hpoint⟩ | ⟨ds, cs', rfl, rfl, hdigits⟩ := takeFraction_cases h
  · refine ⟨[], rfl, fun tail htail => ⟨?_, fun _ => rfl⟩⟩
    exact takeFraction_of_ne (htail rfl ▸ hpoint)
  · have hpoint : Extent true (fun cs rest => cs = ['.'] ++ rest) (run .whole) (run .point)
        (['.'] ++ cs') cs' := .literal _ fun _ _ => rfl
    refine (hpoint.andThen (takeDigits_extent hdigits leadsTo_point leadsTo_fraction)
      (.inl rfl)).imp ?_
    rintro cs rest ⟨between, rfl, hdigits⟩
    simp [takeFraction, hdigits, bind, Except.bind]

theorem takeExponent_extent (h : takeExponent cs = .ok (exponent, rest)) :
    Extent false (fun cs rest => takeExponent cs = .ok (exponent, rest))
      (run (numberEnd fraction none)) (run (numberEnd fraction exponent)) cs rest := by
  obtain ⟨rfl, rfl, hmark⟩ | ⟨mark, cs', hmark, rfl, hsigned⟩ := takeExponent_cases h
  · refine ⟨[], rfl, fun tail htail => ⟨?_, fun _ => rfl⟩⟩
    exact takeExponent_of_ne (htail rfl ▸ hmark)
  · have hstart : Extent true (fun cs rest => cs = [mark] ++ rest) (run (numberEnd fraction none))
        (run .exponentMark) ([mark] ++ cs') cs' := by
      refine .literal _ fun stack tail => ?_
      rcases hmark with rfl | rfl <;> cases fraction <;> rfl
    obtain ⟨⟨n, rfl⟩, -⟩ := takeSignedExponent_cases hsigned
    refine (hstart.andThen (takeSignedExponent_extent hsigned) (.inl rfl)).imp ?_
    rintro cs rest ⟨between, rfl, hsigned⟩
    rcases hmark with rfl | rfl <;> exact hsigned

/-- A number is over where it cannot go on. -/
theorem run_numberEnd {cs' : List Char} (hstop : Stops cs)
    (hfraction : takeFraction cs = .ok (fraction, cs'))
    (hexponent : takeExponent cs' = .ok (exponent, rest)) (stack : List Frame) (tail : List Char)
    (htail : tail.head? = rest.head?) :
    run (numberEnd fraction exponent) stack tail = resume stack tail := by
  have hend : (numberEnd fraction exponent).isNumberEnd = true := by
    cases fraction <;> cases exponent <;> rfl
  refine Skim.run_number hend fun c hc => ?_
  rw [htail] at hc
  obtain ⟨rfl, rfl, hsmall, hbig⟩ | ⟨mark, cs'', -, rfl, hsigned⟩ := takeExponent_cases hexponent
  · have hmark : ¬ (c = 'e' ∨ c = 'E') := by
      rintro (rfl | rfl)
      · exact hsmall hc
      · exact hbig hc
    obtain ⟨rfl, rfl, hpoint⟩ | ⟨ds, cs'', rfl, rfl, hdigits⟩ := takeFraction_cases hfraction
    · have hpoint : c ≠ '.' := by
        rintro rfl
        exact hpoint hc
      simp [numberEnd, step, Skim.afterWhole, hstop c hc, hmark, hpoint]
    · obtain ⟨-, -, -, hstop⟩ := takeDigits_eq_ok_iff.1 hdigits
      simp [numberEnd, step, hstop c hc, hmark]
  · obtain ⟨⟨n, rfl⟩, hstop⟩ := takeSignedExponent_cases hsigned
    simp [numberEnd, step, hstop c hc]

theorem takeWhole_cases (h : takeWhole cs = .ok (ds, rest)) :
    takeDigits cs = .ok (ds, rest) ∧ ∀ d more, ds ≠ '0' :: d :: more := by
  obtain ⟨⟨ds', rest'⟩, hdigits, h⟩ := bind_eq_ok h
  simp only at h
  split at h
  · cases h
  · rename_i hzero
    cases h
    exact ⟨hdigits, fun d more => hzero d more⟩

/-- No digit may follow a zero in front; where none does, the zero is like any other digit. -/
theorem run_zero {tail : List Char} (h : Stops tail) (stack : List Frame) :
    run .zero stack tail = run .whole stack tail := by
  cases tail with
  | nil => rfl
  | cons c tail => simp [run, endsInEscape, step, h c rfl]

theorem takeWhole_extent (hs : s = .value ∨ s = .minus) (h : takeWhole cs = .ok (ds, rest)) :
    Extent false (fun cs rest => takeWhole cs = .ok (ds, rest)) (run s) (run .whole) cs rest := by
  obtain ⟨hdigits, hzero⟩ := takeWhole_cases h
  obtain ⟨rfl, hne, hall, hstop⟩ := takeDigits_eq_ok_iff.1 hdigits
  refine ⟨ds, rfl, fun tail htail => ⟨?_, fun stack => ?_⟩⟩
  · have hdigits : takeDigits (ds ++ tail) = .ok (ds, tail) :=
      takeDigits_eq_ok_iff.2 ⟨rfl, hne, hall, stops_congr (htail rfl) hstop⟩
    simp only [takeWhole, hdigits, bind, Except.bind]
  · obtain ⟨d, ds, rfl⟩ := List.exists_cons_of_ne_nil hne
    have hd := hall d List.mem_cons_self
    by_cases hd0 : d = '0'
    · subst hd0
      obtain rfl : ds = [] := by
        cases ds with
        | nil => rfl
        | cons d more => exact absurd rfl (hzero d more)
      rw [← run_zero (stops_congr (htail rfl) hstop)]
      rcases hs with rfl | rfl <;> rfl
    · have hfirst : run s stack (d :: (ds ++ tail)) = run .whole stack (ds ++ tail) := by
        rcases hs with rfl | rfl
        · refine Skim.run_next _ _ rfl ?_
          simp [step, (opens_of_isDigit hd).not_space, Skim.startValue_digit stack hd hd0]
        · exact Skim.run_next _ _ rfl (by simp [step, hd0, hd])
      rw [List.cons_append, hfirst]
      exact run_digits_of leadsTo_whole (fun c hc => hall c (List.mem_cons_of_mem d hc)) stack tail

/-- A number behind its sign. -/
def takeUnsigned (isNegative : Bool) (cs : List Char) : Except JsonFault (Numeral × List Char) := do
  let (whole, cs) ← takeWhole cs
  let (fraction, cs) ← takeFraction cs
  let (exponent, cs) ← takeExponent cs
  let n : Numeral := ⟨isNegative, whole, fraction, exponent⟩
  if n.isHuge then .error .malformed else .ok (n, cs)

theorem takeUnsigned_extent {isNegative : Bool} {n : Numeral} (hs : s = .value ∨ s = .minus)
    (h : takeUnsigned isNegative cs = .ok (n, rest)) :
    Extent false (fun cs rest => takeUnsigned isNegative cs = .ok (n, rest)) (run s) resume
      cs rest := by
  obtain ⟨⟨whole, cs₁⟩, hwhole, h⟩ := bind_eq_ok h
  obtain ⟨⟨fraction, cs₂⟩, hfraction, h⟩ := bind_eq_ok h
  obtain ⟨⟨exponent, cs₃⟩, hexponent, h⟩ := bind_eq_ok h
  simp only at h
  split at h
  · cases h
  · rename_i hhuge
    cases h
    obtain ⟨hdigits, -⟩ := takeWhole_cases hwhole
    obtain ⟨-, -, -, hstop⟩ := takeDigits_eq_ok_iff.1 hdigits
    refine (((takeWhole_extent hs hwhole).andThen ((takeFraction_extent hfraction).andThen
      (takeExponent_extent hexponent) (.inr (.inl rfl))) (.inr (.inl rfl))).finishAs
      (run_numberEnd hstop hfraction hexponent)).imp ?_
    rintro cs rest ⟨between, hwhole, between', hfraction, hexponent⟩
    simp [takeUnsigned, hwhole, hfraction, hexponent, hhuge, bind, Except.bind]

theorem takeNumeral_of_unsigned {n : Numeral} (h : takeUnsigned false cs = .ok (n, rest)) :
    takeNumeral cs = .ok (n, rest) := by
  obtain ⟨⟨whole, cs'⟩, hwhole, -⟩ := bind_eq_ok h
  obtain ⟨hdigits, -⟩ := takeWhole_cases hwhole
  obtain ⟨rfl, hne, hall, -⟩ := takeDigits_eq_ok_iff.1 hdigits
  obtain ⟨d, ds, rfl⟩ := List.exists_cons_of_ne_nil hne
  have hminus : d ≠ '-' := (not_sign (hall d List.mem_cons_self)).2
  rw [← h, List.cons_append, takeNumeral]
  · rfl
  · rintro cs hcs
    exact hminus (List.cons.inj hcs).1

/-- **Numbers.** A number is over where it cannot go on, so the next character decides. -/
theorem takeNumeral_extent {n : Numeral} (h : takeNumeral cs = .ok (n, rest)) :
    Extent false (fun cs rest => takeNumeral cs = .ok (n, rest)) (run .value) resume cs rest := by
  by_cases hminus : cs.head? = some '-'
  · obtain ⟨cs, rfl⟩ := List.head?_eq_some_iff.1 hminus
    have hsign : Extent true (fun cs rest => cs = ['-'] ++ rest) (run .value) (run .minus)
        (['-'] ++ cs) cs := .literal _ fun _ _ => rfl
    refine (hsign.andThen (takeUnsigned_extent (.inr rfl) h) (.inl rfl)).imp ?_
    rintro cs rest ⟨between, rfl, hunsigned⟩
    exact hunsigned
  · have hunsigned : takeUnsigned false cs = .ok (n, rest) := by
      rw [← h, takeNumeral]
      · rfl
      · rintro cs rfl
        exact hminus rfl
    exact (takeUnsigned_extent (.inl rfl) hunsigned).imp fun _ _ => takeNumeral_of_unsigned

end

end BytecodeLint.Json
