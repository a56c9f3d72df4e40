import BytecodeLint.Proofs.Json.NumberExtent

/-!
# How far a value of a known shape is read

Reading a value of a known shape and passing over a value end at the same place. A text, an array
and a record are over with their last character, so what follows them is not looked at.

* `takes_text`, `takes_word`, `takes_optional`, `takes_array`: the simple shapes.
* `itemsFrom_extent`, `membersFrom_extent`, `fieldsFrom_extent`: the loops, step by step.
* `Record.takes_shape`: a record of fields that are read so is read so itself.
-/

namespace BytecodeLint.Json

open Skim (State Frame run resume step endsInEscape)

variable {α δ : Type}

/-- Values of the shape are read as far as they are passed over. -/
def Takes (isClosed : Bool) (shape : Shape α) : Prop :=
  ∀ ⦃place cs v rest⦄, shape place cs = .ok (v, rest) →
    Extent isClosed (fun cs rest => shape place cs = .ok (v, rest)) (run .value) resume cs rest

theorem Takes.weaken {shape : Shape α} (h : Takes true shape) : Takes false shape :=
  fun _ _ _ _ hread => (h hread).weaken

/-! ## Simple shapes -/

theorem skips_value (around : List Frame → List Frame) :
    Skips fun stack => run .value (around stack) :=
  skips_run around (fun _ _ => rfl) fun _ _ hc => if_pos hc

theorem takes_text : Takes true textShape := by
  intro place cs v rest h
  unfold textShape at h
  split at h
  · rename_i cs' hskip
    obtain ⟨⟨chars, last⟩, htext, h⟩ := bind_eq_ok h
    cases h
    have hquote : Extent true _ (run .value) (run (.text false)) cs cs' :=
      .mark (skips_value id) hskip fun _ _ => rfl
    refine (hquote.andThen (takeText_extent false htext) (.inl rfl)).imp ?_
    rintro cs rest ⟨between, hskip, htext⟩
    simp [textShape, hskip, htext, bind, Except.bind]
  · cases h

theorem takes_word : Takes false wordShape := by
  intro place cs v rest h
  unfold wordShape at h
  split at h
  · cases h
  · rename_i c cs' hskip
    split at h
    · rename_i hc
      obtain ⟨⟨n, last⟩, hnumeral, h⟩ := bind_eq_ok h
      simp only at h
      split at h
      · rename_i value hword
        cases h
        refine ((takeNumeral_extent hnumeral).behindSpaces (skips_value id) hskip (.inl rfl)).imp ?_
        rintro cs rest ⟨hhead, hnumeral⟩
        obtain ⟨more, hskip⟩ := List.head?_eq_some_iff.1 hhead
        rw [hskip] at hnumeral
        simp [wordShape, hskip, hc, hnumeral, hword, bind, Except.bind]
      · cases h
    · cases h

theorem takes_optional {shape : Shape α} (hshape : Takes false shape) :
    Takes false (optionalShape shape) := by
  intro place cs v rest h
  unfold optionalShape at h
  split at h
  · rename_i cs' hskip
    obtain ⟨⟨_, last⟩, hword, h⟩ := bind_eq_ok h
    cases h
    obtain rfl := takeWord_eq_ok_iff.1 hword
    have hnull : Extent false (fun cs rest => cs = ['n', 'u', 'l', 'l'] ++ rest) (run .value) resume
        (['n', 'u', 'l', 'l'] ++ rest) rest := by
      refine .literal _ fun stack tail => ?_
      exact (Skim.run_next (.word ['u', 'l', 'l']) stack rfl rfl).trans (run_word (by simp) _ _)
    refine (hnull.behindSpaces (skips_value id) hskip (.inl rfl)).imp ?_
    rintro cs rest ⟨-, hskip⟩
    simp [optionalShape, hskip, takeWord, bind, Except.bind]
  · rename_i hnull
    obtain ⟨⟨value, last⟩, hvalue, h⟩ := bind_eq_ok h
    cases h
    refine ((hshape hvalue).behindSpaces (skips_value id) rfl (.inl rfl)).imp ?_
    rintro cs rest ⟨hhead, hvalue⟩
    unfold optionalShape
    split
    · rename_i more hskip
      rw [hskip] at hhead
      obtain ⟨more, hmore⟩ := List.head?_eq_some_iff.1 hhead.symm
      exact absurd hmore (hnull more)
    · simp [hvalue, bind, Except.bind]

/-! ## Arrays -/

/-- Where the machine stands before an item of an array, or before its end. -/
def itemStart (isFirst : Bool) : State := if isFirst then .firstItem else .after

theorem skips_itemStart (isFirst : Bool) :
    Skips fun stack => run (itemStart isFirst) (.array :: stack) := by
  cases isFirst with
  | true => exact skips_run (.array :: ·) (fun _ _ => rfl) fun _ _ hc => if_pos hc
  | false => exact skips_run (.array :: ·) (fun _ _ => rfl) fun _ _ hc => if_pos hc

/-- Where the machine stands once it is known whether an item comes. -/
def itemNext (more : Bool) : State := if more then .value else .after

theorem skipSpace_head {cs rest : List Char} {c : Char} (h : skipSpace cs = c :: rest) :
    isSpace c = false := by
  have hnot := List.head?_dropWhile_not isSpace cs
  rwa [show cs.dropWhile isSpace = c :: rest from h] at hnot

section
variable {isFirst more : Bool} {cs rest : List Char}

theorem nextItem_cases (h : nextItem isFirst cs = .ok (more, rest)) :
    (more = false ∧ ∃ cs', skipSpace cs = ']' :: cs' ∧ rest = ']' :: cs') ∨
    (more = true ∧ isFirst = true ∧ ∃ c cs', skipSpace cs = c :: cs' ∧ c ≠ ']' ∧ rest = c :: cs') ∨
    (more = true ∧ isFirst = false ∧ ∃ cs' c cs'', skipSpace cs = ',' :: cs' ∧
      skipSpace cs' = c :: cs'' ∧ c ≠ ']' ∧ rest = c :: cs'') := by
  unfold nextItem at h
  split at h
  · cases h
  · rename_i c cs' hskip
    split at h
    · rename_i hend
      cases h
      subst hend
      exact .inl ⟨rfl, cs', hskip, rfl⟩
    · rename_i hend
      split at h
      · rename_i hfirst
        cases h
        exact .inr (.inl ⟨rfl, hfirst, c, cs', hskip, hend, rfl⟩)
      · rename_i hfirst
        split at h
        · rename_i hcomma
          subst hcomma
          split at h
          · cases h
          · cases h
          · rename_i hnil hend'
            cases h
            obtain ⟨c, cs'', hskip'⟩ := List.exists_cons_of_ne_nil hnil
            refine .inr (.inr ⟨rfl, by simpa using hfirst, cs', c, cs'', hskip, hskip', ?_, hskip'⟩)
            rintro rfl
            exact hend' cs'' hskip'
        · cases h

/-- Before the next item the machine is where an item or the end of the array is wanted. -/
theorem nextItem_extent (h : nextItem isFirst cs = .ok (more, rest)) :
    Extent false (fun cs rest => nextItem isFirst cs = .ok (more, rest))
      (fun stack => run (itemStart isFirst) (.array :: stack))
      (fun stack => run (itemNext more) (.array :: stack)) cs rest := by
  obtain ⟨rfl, cs', hskip, rfl⟩ | ⟨rfl, rfl, c, cs', hskip, hend, rfl⟩ |
    ⟨rfl, rfl, cs', c, cs'', hskip, hskip', hend, rfl⟩ := nextItem_cases h
  · have hseen : Extent false (fun cs rest => cs = rest)
        (fun stack => run (itemStart isFirst) (.array :: stack))
        (fun stack => run (itemNext false) (.array :: stack)) (']' :: cs') (']' :: cs') := by
      refine .seen fun stack tail htail => ?_
      obtain ⟨tail, rfl⟩ := List.head?_eq_some_iff.1 htail
      cases isFirst with
      | true => exact (Skim.run_resume rfl rfl).trans (Skim.run_resume rfl rfl).symm
      | false => rfl
    refine (hseen.behindSpaces (skips_itemStart isFirst) hskip (.inl rfl)).imp ?_
    rintro cs rest ⟨hhead, rfl⟩
    obtain ⟨cs', hskip⟩ := List.head?_eq_some_iff.1 hhead
    simp [nextItem, hskip]
  · have hseen : Extent false (fun cs rest => cs = rest)
        (fun stack => run (itemStart true) (.array :: stack))
        (fun stack => run (itemNext true) (.array :: stack)) (c :: cs') (c :: cs') := by
      refine .seen fun stack tail htail => ?_
      obtain ⟨tail, rfl⟩ := List.head?_eq_some_iff.1 htail
      have hstep : step .firstItem (.array :: stack) c = step .value (.array :: stack) c := by
        simp [step, skipSpace_head hskip, hend]
      simp only [itemStart, itemNext, run, hstep, endsInEscape, ↓reduceIte]
    refine (hseen.behindSpaces (skips_itemStart true) hskip (.inl rfl)).imp ?_
    rintro cs rest ⟨hhead, rfl⟩
    obtain ⟨cs', hskip⟩ := List.head?_eq_some_iff.1 hhead
    simp [nextItem, hskip, hend]
  · have hcomma : Extent true _ (fun stack => run (itemStart false) (.array :: stack))
        (fun stack => run .value (.array :: stack)) cs cs' :=
      .mark (skips_itemStart false) hskip fun _ _ => rfl
    have hseen : Extent false (fun cs rest => cs = rest) (fun stack => run .value (.array :: stack))
        (fun stack => run (itemNext true) (.array :: stack)) (c :: cs'') (c :: cs'') :=
      .seen fun _ _ _ => rfl
    have hitem := hseen.behindSpaces (skips_value (.array :: ·)) hskip' (.inl rfl)
    refine (hcomma.andThen hitem (.inl rfl)).imp ?_
    rintro cs rest ⟨between, hskip, hhead, rfl⟩
    obtain ⟨cs'', hskip'⟩ := List.head?_eq_some_iff.1 hhead
    simp [nextItem, hskip, hskip', hend]

theorem nextItem_length (h : nextItem isFirst cs = .ok (true, rest)) :
    rest.length + (if isFirst then 0 else 1) ≤ cs.length := by
  obtain ⟨hmore, -⟩ | ⟨-, rfl, c, cs', hcs, -, rfl⟩ | ⟨-, rfl, cs', c, cs'', hcs, hcs', -, rfl⟩ :=
    nextItem_cases h
  · cases hmore
  · exact hcs ▸ length_skipSpace cs
  · exact Nat.lt_of_le_of_lt (hcs' ▸ length_skipSpace cs') (length_lt_of_skipSpace hcs)

end

section
variable {shape : Shape α} {place : Place} {fuel n : Nat} {items : List α} {cs rest : List Char}

/-- **Items.** The items of an array are read up to the closing bracket and with it. -/
theorem itemsFrom_extent (hshape : Takes false shape)
    (h : itemsFrom shape place fuel n cs = .ok (items, rest)) :
    rest.length < cs.length ∧
      Extent true (fun cs rest => itemsFrom shape place fuel n cs = .ok (items, rest))
        (fun stack => run (itemStart (n == 0)) (.array :: stack)) resume cs rest := by
  induction fuel generalizing n cs items with
  | zero => cases h
  | succ fuel ih =>
    obtain ⟨⟨more, cs₁⟩, hnext, h⟩ := bind_eq_ok h
    have hnext' := nextItem_extent hnext
    cases more with
    | true =>
      obtain ⟨⟨item, cs₂⟩, hitem, h⟩ := bind_eq_ok h
      obtain ⟨⟨items', cs₃⟩, hitems, h⟩ := bind_eq_ok h
      cases h
      -- an item need not be closed: what is read behind it starts with a comma or a bracket
      have hitem' := (hshape hitem).inside (.array :: ·)
      obtain ⟨hlt, hitems'⟩ := ih hitems
      have hlt' := Nat.lt_of_lt_of_le hlt hitem'.length_le
      refine ⟨Nat.lt_of_lt_of_le hlt' hnext'.length_le, ?_⟩
      refine (hnext'.andThen (hitem'.andThen hitems' (.inr (.inr hlt))) (.inr (.inr hlt'))).imp ?_
      rintro cs rest ⟨between, hnext, between', hitem, hitems⟩
      simp [itemsFrom, hnext, hitem, hitems, bind, Except.bind]
    | false =>
      obtain ⟨-, cs', -, rfl⟩ | ⟨hmore, -⟩ | ⟨hmore, -⟩ := nextItem_cases hnext
      · cases h
        have hend : Extent true (fun cs rest => cs = [']'] ++ rest)
            (fun stack => run .after (.array :: stack)) resume ([']'] ++ cs') cs' :=
          .literal _ fun _ _ => Skim.run_resume rfl rfl
        have hlt : cs'.length < (']' :: cs').length := Nat.lt_succ_self _
        refine ⟨Nat.lt_of_lt_of_le hlt hnext'.length_le, ?_⟩
        refine (hnext'.andThen hend (.inr (.inr hlt))).imp ?_
        rintro cs rest ⟨between, hnext, rfl⟩
        simp [itemsFrom, hnext, bind, Except.bind]
      · cases hmore
      · cases hmore

/-- Each item takes a character, the first one apart. -/
theorem itemsFrom_fuel (hshape : Takes false shape)
    (h : itemsFrom shape place fuel n cs = .ok (items, rest)) {fuel' : Nat}
    (hfuel : cs.length + (if n == 0 then 1 else 0) ≤ rest.length + fuel') :
    itemsFrom shape place fuel' n cs = .ok (items, rest) := by
  induction fuel generalizing n cs items fuel' with
  | zero => cases h
  | succ fuel ih =>
    obtain ⟨hlt, -⟩ := itemsFrom_extent hshape h
    obtain ⟨⟨more, cs₁⟩, hnext, h⟩ := bind_eq_ok h
    cases fuel' with
    | zero => omega
    | succ fuel' =>
      cases more with
      | true =>
        obtain ⟨⟨item, cs₂⟩, hitem, h⟩ := bind_eq_ok h
        obtain ⟨⟨items', cs₃⟩, hitems, h⟩ := bind_eq_ok h
        cases h
        have hnext' := nextItem_length hnext
        have hitem' := (hshape hitem).length_le
        have hfuel' : cs₂.length + (if n + 1 == 0 then 1 else 0) ≤ rest.length + fuel' := by
          cases hn : n == 0 <;> simp [hn] at hfuel hnext' ⊢ <;> omega
        have hrest := ih hitems hfuel'
        simp [itemsFrom, hnext, hitem, hrest, bind, Except.bind]
      | false =>
        cases h
        simp [itemsFrom, hnext, bind, Except.bind]

end

theorem takes_array {shape : Shape α} (hshape : Takes false shape) :
    Takes true (arrayShape shape) := by
  intro place cs items rest h
  unfold arrayShape at h
  split at h
  · rename_i cs' hskip
    obtain ⟨-, hitems⟩ := itemsFrom_extent hshape h
    have hbracket : Extent true _ (run .value) (fun stack => run .firstItem (.array :: stack))
        cs cs' := .mark (skips_value id) hskip fun _ _ => rfl
    refine (hbracket.andThen hitems (.inl rfl)).imp ?_
    rintro cs rest ⟨between, hskip, hitems⟩
    -- the other text may be shorter, and then less fuel was given
    rw [arrayShape, hskip]
    exact itemsFrom_fuel hshape hitems (Nat.le_add_left ..)
  · cases h

/-! ## Objects -/

/-- Where the machine stands before a key of an object, or before its end. -/
def keyStart (isFirst : Bool) : State := if isFirst then .firstKey else .after

theorem skips_keyStart (isFirst : Bool) :
    Skips fun stack => run (keyStart isFirst) (.object :: stack) := by
  cases isFirst with
  | true => exact skips_run (.object :: ·) (fun _ _ => rfl) fun _ _ hc => if_pos hc
  | false => exact skips_run (.object :: ·) (fun _ _ => rfl) fun _ _ hc => if_pos hc

/-- What the machine does once it is known whether a key comes. -/
def keyNext (more : Bool) : Course :=
  if more then fun stack => run (.text true) (.object :: stack) else resume

section
variable {isFirst more : Bool} {cs rest : List Char}

theorem nextKey_cases (h : nextKey isFirst cs = .ok (more, rest)) :
    (more = false ∧ skipSpace cs = '\x7d' :: rest) ∨
    (more = true ∧ isFirst = true ∧ skipSpace cs = '"' :: rest) ∨
    (more = true ∧ isFirst = false ∧ ∃ cs', skipSpace cs = ',' :: cs' ∧
      skipSpace cs' = '"' :: rest) := by
  unfold nextKey at h
  split at h
  · cases h
  · rename_i c cs' hskip
    split at h
    · rename_i hend
      cases h
      subst hend
      exact .inl ⟨rfl, hskip⟩
    · simp only at h
      split at h
      · cases h
      · cases h
      · rename_i cs'' hkey
        cases h
        right
        cases isFirst with
        | true =>
          obtain ⟨rfl, rfl⟩ : c = '"' ∧ cs' = rest := by simpa using hkey
          exact .inl ⟨rfl, rfl, hskip⟩
        | false =>
          by_cases hcomma : c = ','
          · subst hcomma
            exact .inr ⟨rfl, rfl, cs', hskip, by simpa using hkey⟩
          · simp [hcomma] at hkey
      · cases h

/-- Before the next key the machine is where a key or the end of the object is wanted. -/
theorem nextKey_extent (h : nextKey isFirst cs = .ok (more, rest)) :
    rest.length < cs.length ∧ Extent true (fun cs rest => nextKey isFirst cs = .ok (more, rest))
      (fun stack => run (keyStart isFirst) (.object :: stack)) (keyNext more) cs rest := by
  obtain ⟨rfl, hskip⟩ | ⟨rfl, rfl, hskip⟩ | ⟨rfl, rfl, cs', hskip, hskip'⟩ := nextKey_cases h
  · refine ⟨length_lt_of_skipSpace hskip, (Extent.mark (skips_keyStart isFirst) hskip ?_).imp ?_⟩
    · intro stack tail
      cases isFirst with
      | true => exact Skim.run_resume rfl rfl
      | false => exact Skim.run_resume rfl rfl
    · intro cs rest hskip
      simp [nextKey, hskip]
  · refine ⟨length_lt_of_skipSpace hskip, (Extent.mark (skips_keyStart true) hskip ?_).imp ?_⟩
    · exact fun _ _ => rfl
    · intro cs rest hskip
      simp [nextKey, hskip]
  · have hskips : Skips fun stack => run .key (.object :: stack) :=
      skips_run (.object :: ·) (fun _ _ => rfl) fun _ _ hc => if_pos hc
    have hcomma : Extent true _ (fun stack => run (keyStart false) (.object :: stack))
        (fun stack => run .key (.object :: stack)) cs cs' :=
      .mark (skips_keyStart false) hskip fun _ _ => rfl
    have hquote : Extent true _ (fun stack => run .key (.object :: stack)) (keyNext true)
        cs' rest := .mark hskips hskip' fun _ _ => rfl
    refine ⟨Nat.lt_trans (length_lt_of_skipSpace hskip') (length_lt_of_skipSpace hskip), ?_⟩
    refine (hcomma.andThen hquote (.inl rfl)).imp ?_
    rintro cs rest ⟨between, hskip, hskip'⟩
    simp [nextKey, hskip, hskip']

theorem takeColon_extent (h : takeColon cs = .ok rest) :
    Extent true (fun cs rest => takeColon cs = .ok rest) (run .colon) (run .value) cs rest := by
  unfold takeColon at h
  split at h
  · cases h
  · rename_i cs' hskip
    cases h
    have hskips : Skips (run .colon) := skips_run id (fun _ _ => rfl) fun _ _ hc => if_pos hc
    refine (Extent.mark hskips hskip fun _ _ => rfl).imp fun cs rest hskip => ?_
    simp [takeColon, hskip]
  · cases h

/-- A value that nobody asked for. -/
theorem skim_extent (h : Skim.value cs = .ok rest) :
    Extent false (fun cs rest => Skim.value cs = .ok rest) (run .value) resume cs rest := by
  obtain ⟨front, rfl, -, hrun⟩ := Skim.run_within (fun hopen => by cases hopen) h
  refine ⟨front, rfl, fun tail htail => ⟨hrun [] tail (htail rfl), fun stack => ?_⟩⟩
  exact hrun stack tail (htail rfl)

end

namespace Record

section
variable {r : Record δ α} {place : Place} {d d' : δ} {cs rest : List Char}

theorem member_extent (hfields : ∀ f ∈ r.fields, ∀ d, Takes false (f.read d)) {key : String}
    (h : r.member place d key cs = .ok (d', rest)) :
    Extent false (fun cs rest => r.member place d key cs = .ok (d', rest)) (run .colon) resume
      cs rest := by
  unfold member at h
  split at h
  · rename_i hfind
    obtain ⟨cs₁, hcolon, h⟩ := bind_eq_ok h
    obtain ⟨cs₂, hvalue, h⟩ := bind_eq_ok h
    cases h
    refine ((takeColon_extent hcolon).andThen (skim_extent hvalue) (.inl rfl)).imp ?_
    rintro cs rest ⟨between, hcolon, hvalue⟩
    simp [member, hfind, hcolon, hvalue, bind, Except.bind]
  · rename_i f hfind
    split at h
    · cases h
    · rename_i hset
      obtain ⟨cs₁, hcolon, hvalue⟩ := bind_eq_ok h
      have hfield := hfields f (List.mem_of_find?_eq_some hfind) d hvalue
      refine ((takeColon_extent hcolon).andThen hfield (.inl rfl)).imp ?_
      rintro cs rest ⟨between, hcolon, hvalue⟩
      simp [member, hfind, hset, hcolon, hvalue, bind, Except.bind]

/-- **Members.** The members of an object are read up to the closing brace and with it. -/
theorem membersFrom_extent (hfields : ∀ f ∈ r.fields, ∀ d, Takes false (f.read d)) {fuel : Nat}
    {isFirst : Bool} (h : r.membersFrom place fuel isFirst d cs = .ok (d', rest)) :
    rest.length < cs.length ∧
      Extent true (fun cs rest => r.membersFrom place fuel isFirst d cs = .ok (d', rest))
        (fun stack => run (keyStart isFirst) (.object :: stack)) resume cs rest := by
  induction fuel generalizing isFirst d cs with
  | zero => cases h
  | succ fuel ih =>
    obtain ⟨⟨more, cs₁⟩, hnext, h⟩ := bind_eq_ok h
    obtain ⟨hlt, hnext'⟩ := nextKey_extent hnext
    cases more with
    | true =>
      obtain ⟨⟨key, cs₂⟩, hkey, h⟩ := bind_eq_ok h
      obtain ⟨⟨d₁, cs₃⟩, hmember, hmembers⟩ := bind_eq_ok h
      have hkey' := (takeText_extent true hkey).inside (.object :: ·)
      have hmember' := (member_extent hfields hmember).inside (.object :: ·)
      obtain ⟨hlt', hmembers'⟩ := ih hmembers
      refine ⟨?_, ?_⟩
      · exact Nat.lt_of_lt_of_le hlt' (Nat.le_trans hmember'.length_le
          (Nat.le_trans hkey'.length_le (Nat.le_of_lt hlt)))
      · refine (hnext'.andThen (hkey'.andThen (hmember'.andThen hmembers' (.inr (.inr hlt')))
          (.inl rfl)) (.inl rfl)).imp ?_
        rintro cs rest ⟨between, hnext, between', hkey, between'', hmember, hmembers⟩
        simp [membersFrom, hnext, hkey, hmember, hmembers, bind, Except.bind]
    | false =>
      cases h
      refine ⟨hlt, hnext'.imp fun cs rest hnext => ?_⟩
      simp [membersFrom, hnext, bind, Except.bind]

/-- Each member takes a character. -/
theorem membersFrom_fuel (hfields : ∀ f ∈ r.fields, ∀ d, Takes false (f.read d)) {fuel fuel' : Nat}
    {isFirst : Bool} (h : r.membersFrom place fuel isFirst d cs = .ok (d', rest))
    (hfuel : cs.length ≤ rest.length + fuel') :
    r.membersFrom place fuel' isFirst d cs = .ok (d', rest) := by
  induction fuel generalizing isFirst d cs fuel' with
  | zero => cases h
  | succ fuel ih =>
    obtain ⟨hlt, -⟩ := membersFrom_extent hfields h
    obtain ⟨⟨more, cs₁⟩, hnext, h⟩ := bind_eq_ok h
    cases fuel' with
    | zero => omega
    | succ fuel' =>
      cases more with
      | true =>
        obtain ⟨⟨key, cs₂⟩, hkey, h⟩ := bind_eq_ok h
        obtain ⟨⟨d₁, cs₃⟩, hmember, hmembers⟩ := bind_eq_ok h
        have hfirst := (nextKey_extent hnext).1
        have hsecond := (takeText_extent true hkey).length_le
        have hthird := (member_extent hfields hmember).length_le
        have hrest := ih hmembers (show cs₃.length ≤ rest.length + fuel' by omega)
        simp [membersFrom, hnext, hkey, hmember, hrest, bind, Except.bind]
      | false =>
        cases h
        simp [membersFrom, hnext, bind, Except.bind]

/-- **Fields in order.** They are read up to the last one, or to the closing bracket. -/
theorem fieldsFrom_extent {fields : List (Field δ)}
    (hfields : ∀ f ∈ fields, ∀ d, Takes false (f.read d)) {n : Nat} (hsome : n = 0 → fields ≠ [])
    (h : fieldsFrom place fields n d cs = .ok (d', rest)) :
    Extent false (fun cs rest => fieldsFrom place fields n d cs = .ok (d', rest))
      (fun stack => run (itemStart (n == 0)) (.array :: stack))
      (fun stack => run .after (.array :: stack)) cs rest := by
  induction fields generalizing n d cs with
  | nil =>
    cases h
    have hn : (n == 0) = false := by
      cases n with
      | zero => exact absurd rfl (hsome rfl)
      | succ n => rfl
    rw [hn]
    refine (Extent.seen fun _ _ _ => rfl).imp ?_
    rintro cs _ rfl
    rfl
  | cons f fields ih =>
    obtain ⟨⟨more, cs₁⟩, hnext, h⟩ := bind_eq_ok h
    have hnext' := nextItem_extent hnext
    cases more with
    | true =>
      obtain ⟨⟨d₁, cs₂⟩, hfield, hothers⟩ := bind_eq_ok h
      have hfield' := (hfields f List.mem_cons_self d hfield).inside (.array :: ·)
      have hlater : n + 1 = 0 → fields ≠ [] := fun hn => absurd hn (Nat.succ_ne_zero n)
      have hothers' := ih (fun f hf => hfields f (List.mem_cons_of_mem _ hf)) hlater hothers
      refine (hnext'.andThen (hfield'.andThen hothers' (.inr (.inl rfl))) (.inr (.inl rfl))).imp ?_
      rintro cs rest ⟨between, hnext, between', hfield, hothers⟩
      simp [fieldsFrom, hnext, hfield, hothers, bind, Except.bind]
    | false =>
      cases h
      refine hnext'.imp fun cs rest hnext => ?_
      simp [fieldsFrom, hnext, bind, Except.bind]

theorem closeArray_extent (h : closeArray cs = .ok rest) :
    rest.length < cs.length ∧ Extent true (fun cs rest => closeArray cs = .ok rest)
      (fun stack => run .after (.array :: stack)) resume cs rest := by
  unfold closeArray at h
  split at h
  · cases h
  · rename_i cs' hskip
    cases h
    refine ⟨length_lt_of_skipSpace hskip, (Extent.mark (skips_itemStart false) hskip ?_).imp ?_⟩
    · exact fun _ _ => Skim.run_resume rfl rfl
    · intro cs rest hskip
      simp [closeArray, hskip]
  · cases h

theorem close_eq_ok_iff {v : α} :
    r.close place d cs = .ok (v, rest) ↔ r.finish d = some v ∧ rest = cs := by
  unfold close
  split
  · rename_i value hvalue
    simp [hvalue, eq_comm]
  · rename_i hvalue
    simp [hvalue]

/-- **Records.** A record is over with its last character. -/
theorem takes_shape (hfields : ∀ f ∈ r.fields, ∀ d, Takes false (f.read d))
    (hsome : r.fields ≠ []) : Takes true r.shape := by
  intro place cs v rest h
  unfold shape at h
  split at h
  · rename_i cs' hskip
    obtain ⟨⟨d, cs₁⟩, hmembers, h⟩ := bind_eq_ok h
    obtain ⟨hfinish, rfl⟩ := close_eq_ok_iff.1 h
    obtain ⟨-, hmembers'⟩ := membersFrom_extent hfields hmembers
    have hbrace : Extent true _ (run .value) (fun stack => run .firstKey (.object :: stack))
        cs cs' := .mark (skips_value id) hskip fun _ _ => rfl
    refine (hbrace.andThen hmembers' (.inl rfl)).imp ?_
    rintro cs rest ⟨between, hskip, hmembers⟩
    have henough : r.membersFrom place (between.length + 1) true r.draft between =
        .ok (d, rest) := membersFrom_fuel hfields hmembers (by omega)
    simp [shape, hskip, henough, close_eq_ok_iff.2 ⟨hfinish, rfl⟩, bind, Except.bind]
  · rename_i cs' hskip
    obtain ⟨⟨d, cs₁⟩, hread, h⟩ := bind_eq_ok h
    obtain ⟨⟨v', cs₂⟩, hclose, h⟩ := bind_eq_ok h
    obtain ⟨cs₃, hend, h⟩ := bind_eq_ok h
    cases h
    obtain ⟨hfinish, rfl⟩ := close_eq_ok_iff.1 hclose
    have hread' := fieldsFrom_extent hfields (fun _ => hsome) hread
    obtain ⟨hlt, hend'⟩ := closeArray_extent hend
    have hbracket : Extent true _ (run .value) (fun stack => run .firstItem (.array :: stack))
        cs cs' := .mark (skips_value id) hskip fun _ _ => rfl
    refine (hbracket.andThen (hread'.andThen hend' (.inr (.inr hlt))) (.inl rfl)).imp ?_
    rintro cs rest ⟨between, hskip, between', hread, hend⟩
    simp [shape, hskip, hread, close_eq_ok_iff.2 ⟨hfinish, rfl⟩, hend, bind, Except.bind]
  · cases h

end

end Record

theorem takes_field {shape : Shape α} (h : Takes false shape) {name : String} {get : δ → Option α}
    {set : δ → α → δ} (d : δ) : Takes false ((Field.of name shape get set).read d) := by
  intro place cs d' rest hread
  obtain ⟨⟨value, last⟩, hvalue, hread⟩ := bind_eq_ok hread
  cases hread
  refine (h hvalue).imp fun cs rest hvalue => ?_
  simp [Field.of, hvalue, bind, Except.bind]

end BytecodeLint.Json
