import BytecodeLint.Proofs.Json.Nesting

/-!
# How far a reader reads

A reader takes something from the front of a text. What it takes is decided by the characters that
it takes, and for a number also by the next one, as a number ends where it cannot go on. Next to
each reader the machine that passes over values is watched: where the reader takes something, the
machine passes over it.

* `Extent`: what was read, what decided it, and what the machine does meanwhile.
* `Extent.andThen`: reading one thing behind another.
* `skipSpace_extent`, `Extent.mark`: spaces, and a character behind them.
* `takeText_extent`: texts.
-/

namespace BytecodeLint.Json

open Skim (State Frame run resume step endsInEscape)

/-- What the machine does with a text when the given frames are open. -/
abbrev Course := List Frame → List Char → Except JsonFault (List Char)

/-- The text `cs` is read up to `rest`. The part that is read is read just so before any other text,
if nothing behind it decides, or else before any text that goes on with the same character. The
machine passes over the part on its way from one course to another. -/
def Extent (isClosed : Bool) (reads : List Char → List Char → Prop) (start finish : Course)
    (cs rest : List Char) : Prop :=
  ∃ front, cs = front ++ rest ∧ ∀ tail, (isClosed = false → tail.head? = rest.head?) →
    reads (front ++ tail) tail ∧ ∀ stack, start stack (front ++ tail) = finish stack tail

section
variable {isClosed isClosed' : Bool} {reads reads' : List Char → List Char → Prop}
  {start middle finish : Course} {cs cs' rest : List Char}

namespace Extent

theorem length_le (h : Extent isClosed reads start finish cs rest) : rest.length ≤ cs.length := by
  obtain ⟨front, rfl, -⟩ := h
  simp

theorem imp (h : Extent isClosed reads start finish cs rest)
    (himp : ∀ cs rest, reads cs rest → reads' cs rest) :
    Extent isClosed reads' start finish cs rest := by
  obtain ⟨front, rfl, h⟩ := h
  refine ⟨front, rfl, fun tail htail => ?_⟩
  obtain ⟨hreads, hcourse⟩ := h tail htail
  exact ⟨himp _ _ hreads, hcourse⟩

theorem weaken (h : Extent true reads start finish cs rest) :
    Extent isClosed reads start finish cs rest := by
  obtain ⟨front, rfl, h⟩ := h
  exact ⟨front, rfl, fun tail _ => h tail nofun⟩

/-- The frames that are open can be any. -/
theorem inside (h : Extent isClosed reads start finish cs rest)
    (around : List Frame → List Frame) :
    Extent isClosed reads (fun stack => start (around stack)) (fun stack => finish (around stack))
      cs rest := by
  obtain ⟨front, rfl, h⟩ := h
  refine ⟨front, rfl, fun tail htail => ?_⟩
  obtain ⟨hreads, hcourse⟩ := h tail htail
  exact ⟨hreads, fun stack => hcourse (around stack)⟩

/-- The course behind what was read can be seen otherwise. -/
theorem finishAs {finish' : Course} (h : Extent false reads start finish cs rest)
    (hfinish : ∀ stack tail, tail.head? = rest.head? → finish stack tail = finish' stack tail) :
    Extent false reads start finish' cs rest := by
  obtain ⟨front, rfl, h⟩ := h
  refine ⟨front, rfl, fun tail htail => ?_⟩
  obtain ⟨hreads, hcourse⟩ := h tail htail
  exact ⟨hreads, fun stack => (hcourse stack).trans (hfinish stack tail (htail rfl))⟩

/-- A fixed text. -/
theorem literal (word : List Char)
    (hcourse : ∀ stack tail, start stack (word ++ tail) = finish stack tail) :
    Extent isClosed (fun cs rest => cs = word ++ rest) start finish (word ++ rest) rest :=
  ⟨word, rfl, fun tail _ => ⟨rfl, fun stack => hcourse stack tail⟩⟩

/-- Nothing is read, but the next character is seen. -/
theorem seen
    (hcourse : ∀ stack tail, tail.head? = rest.head? → start stack tail = finish stack tail) :
    Extent false (fun cs rest => cs = rest) start finish rest rest :=
  ⟨[], rfl, fun tail htail => ⟨rfl, fun stack => hcourse stack tail (htail rfl)⟩⟩

theorem head?_append {front tail rest : List Char} (h : tail.head? = rest.head?) :
    (front ++ tail).head? = (front ++ rest).head? := by
  simp [List.head?_append, h]

/-- **Reading one thing behind another.** If the first is not closed, its end is decided by the
first character of the second. -/
theorem andThen (h : Extent isClosed reads start middle cs cs')
    (h' : Extent isClosed' reads' middle finish cs' rest)
    (hside : isClosed = true ∨ isClosed' = false ∨ rest.length < cs'.length) :
    Extent isClosed' (fun cs rest => ∃ between, reads cs between ∧ reads' between rest)
      start finish cs rest := by
  obtain ⟨first, rfl, h⟩ := h
  obtain ⟨second, rfl, h'⟩ := h'
  refine ⟨first ++ second, (List.append_assoc ..).symm, fun tail htail => ?_⟩
  have hfirst : isClosed = false → (second ++ tail).head? = (second ++ rest).head? := by
    intro hopen
    rcases hside with hside | hside | hside
    · simp [hside] at hopen
    · exact head?_append (htail hside)
    · have hne : second ≠ [] := by
        rintro rfl
        exact Nat.lt_irrefl _ hside
      obtain ⟨c, more, rfl⟩ := List.exists_cons_of_ne_nil hne
      rfl
  obtain ⟨hreads, hcourse⟩ := h (second ++ tail) hfirst
  obtain ⟨hreads', hcourse'⟩ := h' tail htail
  rw [List.append_assoc]
  exact ⟨⟨_, hreads, hreads'⟩, fun stack => (hcourse stack).trans (hcourse' stack)⟩

end Extent

end

/-! ## Spaces and words -/

/-- The machine passes over spaces here. -/
def Skips (course : Course) : Prop :=
  ∀ stack c cs, isSpace c = true → course stack (c :: cs) = course stack cs

theorem skips_run {s : State} (around : List Frame → List Frame)
    (hescape : ∀ c cs, endsInEscape s c cs = false)
    (hstep : ∀ stack c, isSpace c = true → step s (around stack) c = .next s (around stack)) :
    Skips fun stack => run s (around stack) := by
  intro stack c cs hc
  exact Skim.run_next s _ (hescape c cs) (hstep stack c hc)

theorem skipSpace_extent {course : Course} (hcourse : Skips course) (cs : List Char) :
    Extent false (fun cs rest => skipSpace cs = rest) course course cs (skipSpace cs) := by
  induction cs with
  | nil =>
    refine ⟨[], rfl, fun tail htail => ⟨?_, fun _ => rfl⟩⟩
    obtain rfl : tail = [] := List.head?_eq_none_iff.1 (htail rfl)
    rfl
  | cons c cs ih =>
    by_cases hc : isSpace c = true
    · have hskip (cs : List Char) : skipSpace (c :: cs) = skipSpace cs := by simp [skipSpace, hc]
      obtain ⟨front, hfront, h⟩ := ih
      rw [hskip]
      refine ⟨c :: front, congrArg (c :: ·) hfront, fun tail htail => ?_⟩
      obtain ⟨hreads, hpasses⟩ := h tail htail
      refine ⟨(hskip _).trans hreads, fun stack => ?_⟩
      exact (hcourse stack c _ hc).trans (hpasses stack)
    · have hskip (cs : List Char) : skipSpace (c :: cs) = c :: cs := by simp [skipSpace, hc]
      rw [hskip]
      refine ⟨[], rfl, fun tail htail => ⟨?_, fun _ => rfl⟩⟩
      obtain ⟨more, rfl⟩ : ∃ more, tail = c :: more := List.head?_eq_some_iff.1 (htail rfl)
      exact hskip more

/-- Reading something behind spaces. What comes next was seen when the spaces were passed over. -/
theorem Extent.behindSpaces {isClosed : Bool} {reads : List Char → List Char → Prop}
    {start finish : Course} {cs cs' rest : List Char} (hstart : Skips start)
    (hcs : skipSpace cs = cs') (h : Extent isClosed reads start finish cs' rest)
    (hside : isClosed = false ∨ rest.length < cs'.length) :
    Extent isClosed (fun cs rest => (skipSpace cs).head? = cs'.head? ∧ reads (skipSpace cs) rest)
      start finish cs rest := by
  have hspaces : Extent false (fun cs between => skipSpace cs = between ∧ between.head? = cs'.head?)
      start start cs cs' := by
    obtain ⟨front, hfront, hskip⟩ := hcs ▸ skipSpace_extent hstart cs
    refine ⟨front, hfront, fun tail htail => ?_⟩
    obtain ⟨hreads, hcourse⟩ := hskip tail htail
    exact ⟨⟨hreads, htail rfl⟩, hcourse⟩
  refine (hspaces.andThen h (.inr hside)).imp ?_
  rintro cs rest ⟨between, ⟨rfl, hhead⟩, hreads⟩
  exact ⟨hhead, hreads⟩

/-- A single character behind spaces. -/
theorem Extent.mark {start finish : Course} {cs rest : List Char} {c : Char} (hstart : Skips start)
    (hcs : skipSpace cs = c :: rest)
    (hcourse : ∀ stack tail, start stack (c :: tail) = finish stack tail) :
    Extent true (fun cs rest => skipSpace cs = c :: rest) start finish cs rest :=
  ((literal [c] hcourse).behindSpaces hstart hcs (.inr (Nat.lt_succ_self _))).imp fun _ _ h => h.2

theorem length_skipSpace (cs : List Char) : (skipSpace cs).length ≤ cs.length :=
  (List.dropWhile_sublist isSpace).length_le

theorem length_lt_of_skipSpace {cs rest : List Char} {c : Char} (h : skipSpace cs = c :: rest) :
    rest.length < cs.length := by
  have hle := length_skipSpace cs
  rwa [h] at hle

theorem takeWord_eq_ok_iff {word cs rest : List Char} :
    takeWord word cs = .ok ((), rest) ↔ cs = word ++ rest := by
  induction word generalizing cs with
  | nil => simp [takeWord]
  | cons w word ih =>
    cases cs with
    | nil => simp [takeWord]
    | cons c cs => by_cases hc : c = w <;> simp [takeWord, hc, ih]

/-- The rest of a word is passed over, and the value ends with it. -/
theorem run_word {word : List Char} (hne : word ≠ []) (stack : List Frame) (tail : List Char) :
    run (.word word) stack (word ++ tail) = resume stack tail := by
  induction word with
  | nil => exact absurd rfl hne
  | cons w word ih =>
    cases word with
    | nil => exact Skim.run_resume rfl (if_pos rfl)
    | cons w' word =>
      have hnext : step (.word (w :: w' :: word)) stack w = .next (.word (w' :: word)) stack :=
        if_pos rfl
      exact (Skim.run_next _ _ rfl hnext).trans (ih (by simp))

/-! ## Texts -/

/-- Behind the closing quotation mark of a text. -/
def textEnd (isKey : Bool) : Course := if isKey then run .colon else resume

/-- Behind the `u` of an escape. -/
def unitStart (isKey : Bool) : Course := fun stack cs => run (.escape isKey) stack ('u' :: cs)

theorem takeUnit_eq_ok_iff {cs rest : List Char} {n : Nat} :
    takeUnit cs = .ok (n, rest) ↔ ∃ a b c d, cs = a :: b :: c :: d :: rest ∧
      hexQuad? a b c d = some n := by
  constructor
  · intro h
    unfold takeUnit at h
    split at h
    · split at h
      · split at h
        · rename_i hquad
          cases h
          exact ⟨_, _, _, _, rfl, hquad⟩
        · cases h
      · cases h
    · cases h
  · rintro ⟨a, b, c, d, rfl, hquad⟩
    simp [takeUnit, hasBytes_four, hquad]

section
variable (isKey : Bool) {cs rest : List Char}

theorem takeUnit_extent {n : Nat} (h : takeUnit cs = .ok (n, rest)) :
    Extent true (fun cs rest => takeUnit cs = .ok (n, rest)) (unitStart isKey) (run (.text isKey))
      cs rest := by
  obtain ⟨a, b, c, d, rfl, hquad⟩ := takeUnit_eq_ok_iff.1 h
  refine (Extent.literal [a, b, c, d] fun stack tail => ?_).imp
    fun cs rest hcs => takeUnit_eq_ok_iff.2 ⟨a, b, c, d, hcs, hquad⟩
  simp only [hexQuad?, bind, Option.bind_eq_some_iff] at hquad
  obtain ⟨x, hx, y, hy, z, hz, w, hw, -⟩ := hquad
  have hshort : (shortEscape? 'u').isSome = false := rfl
  simp [unitStart, run, step, endsInEscape, hasBytes_four, hshort, hx, hy, hz, hw]

theorem takeUnitEscape_extent {c : Char} (h : takeUnitEscape cs = .ok (c, rest)) :
    Extent true (fun cs rest => takeUnitEscape cs = .ok (c, rest)) (unitStart isKey)
      (run (.text isKey)) cs rest := by
  obtain ⟨⟨n, cs'⟩, hunit, h⟩ := bind_eq_ok h
  have hfirst := takeUnit_extent isKey hunit
  simp only at h
  split at h
  · cases h
  · rename_i htrail
    split at h
    · rename_i hlead
      obtain ⟨⟨_, cs''⟩, hword, h⟩ := bind_eq_ok h
      obtain ⟨⟨m, cs'''⟩, hunit', h⟩ := bind_eq_ok h
      simp only at h
      split at h
      · rename_i hpair
        simp only [Except.ok.injEq, Prod.mk.injEq] at h
        obtain ⟨rfl, rfl⟩ := h
        obtain rfl := takeWord_eq_ok_iff.1 hword
        have hmark : Extent true (fun cs rest => cs = ['\\', 'u'] ++ rest) (run (.text isKey))
            (unitStart isKey) (['\\', 'u'] ++ cs'') cs'' := .literal _ fun _ _ => rfl
        have hsecond := hmark.andThen (takeUnit_extent isKey hunit') (.inl rfl)
        refine (hfirst.andThen hsecond (.inl rfl)).imp ?_
        rintro cs rest ⟨between, hn, after, rfl, hm⟩
        simp [takeUnitEscape, hn, htrail, hlead, takeWord, hm, hpair, bind, Except.bind]
      · cases h
    · rename_i hlead
      cases h
      refine hfirst.imp fun cs rest hn => ?_
      simp [takeUnitEscape, hn, htrail, hlead, bind, Except.bind]

theorem takeEscape_extent {c : Char} (h : takeEscape cs = .ok (c, rest)) :
    Extent true (fun cs rest => takeEscape cs = .ok (c, rest)) (run (.escape isKey))
      (run (.text isKey)) cs rest := by
  cases cs with
  | nil => cases h
  | cons e cs =>
    rw [takeEscape] at h
    split at h
    · rename_i short hshort
      cases h
      refine (Extent.literal [e] fun stack tail => ?_).imp fun cs rest hcs => ?_
      · have hmark : e ≠ 'u' := by
          rintro rfl
          cases hshort
        exact Skim.run_next _ _ (by simp [endsInEscape, hmark]) (by simp [step, hshort])
      · simp [hcs, takeEscape, hshort]
    · rename_i hshort
      split at h
      · rename_i hmark
        subst hmark
        have hmark : Extent true (fun cs rest => cs = ['u'] ++ rest) (run (.escape isKey))
            (unitStart isKey) (['u'] ++ cs) cs := .literal _ fun _ _ => rfl
        refine (hmark.andThen (takeUnitEscape_extent isKey h) (.inl rfl)).imp ?_
        rintro cs rest ⟨between, rfl, hunit⟩
        simp [takeEscape, hshort, hunit]
      · cases h

theorem takeText_cases {chars : List Char} (h : takeText cs = .ok (chars, rest)) :
    (chars = [] ∧ cs = '"' :: rest) ∨
    (∃ c chars' cs' after, chars = c :: chars' ∧ cs = '\\' :: cs' ∧
      takeEscape cs' = .ok (c, after) ∧ takeText after = .ok (chars', rest)) ∨
    (∃ c chars' cs', chars = c :: chars' ∧ cs = c :: cs' ∧ c ≠ '"' ∧ c ≠ '\\' ∧ ¬ c.toNat < 32 ∧
      takeText cs' = .ok (chars', rest)) := by
  unfold takeText at h
  split at h
  · cases h
  · split at h
    · rename_i hquote
      cases h
      exact .inl ⟨rfl, by rw [hquote]⟩
    · rename_i hquote
      split at h
      · rename_i hbackslash
        split at h
        · cases h
        · rename_i hescape
          split at h
          · cases h
          · rename_i htext
            cases h
            exact .inr (.inl ⟨_, _, _, _, rfl, by rw [hbackslash], hescape, htext⟩)
      · rename_i hbackslash
        split at h
        · cases h
        · rename_i hcontrol
          split at h
          · cases h
          · rename_i htext
            cases h
            exact .inr (.inr ⟨_, _, _, rfl, rfl, hquote, hbackslash, hcontrol, htext⟩)

/-- **Texts.** A text is over with its closing quotation mark. -/
theorem takeText_extent {chars : List Char} (h : takeText cs = .ok (chars, rest)) :
    Extent true (fun cs rest => takeText cs = .ok (chars, rest)) (run (.text isKey))
      (textEnd isKey) cs rest := by
  induction chars generalizing cs with
  | nil =>
    obtain ⟨-, rfl⟩ | ⟨c, chars', cs', after, hchars, -⟩ | ⟨c, chars', cs', hchars, -⟩ :=
      takeText_cases h
    · refine (Extent.literal ['"'] fun stack tail => ?_).imp fun cs rest hcs => ?_
      · cases isKey with
        | true => rfl
        | false => exact Skim.run_resume rfl rfl
      · simp [hcs, takeText]
    · cases hchars
    · cases hchars
  | cons c chars ih =>
    obtain ⟨hchars, -⟩ | ⟨c, chars', cs', after, hchars, rfl, hescape, htext⟩ |
      ⟨c, chars', cs', hchars, rfl, hquote, hbackslash, hcontrol, htext⟩ := takeText_cases h
    · cases hchars
    · cases hchars
      have hmark : Extent true (fun cs rest => cs = ['\\'] ++ rest) (run (.text isKey))
          (run (.escape isKey)) (['\\'] ++ cs') cs' := .literal _ fun _ _ => rfl
      refine (hmark.andThen ((takeEscape_extent isKey hescape).andThen (ih htext) (.inl rfl))
        (.inl rfl)).imp ?_
      rintro cs rest ⟨between, rfl, after, hescape, htext⟩
      obtain ⟨front, rfl, -⟩ := takeEscape_extent isKey hescape
      exact takeText_escape hescape htext
    · cases hchars
      have hchar : Extent true (fun cs rest => cs = [c] ++ rest) (run (.text isKey))
          (run (.text isKey)) ([c] ++ cs') cs' := by
        refine .literal _ fun stack tail => Skim.run_next _ _ rfl ?_
        simp [step, hquote, hbackslash, hcontrol]
      refine (hchar.andThen (ih htext) (.inl rfl)).imp ?_
      rintro cs rest ⟨between, rfl, htext⟩
      rw [List.singleton_append, takeText]
      simp [hquote, hbackslash, hcontrol, htext]

end

end BytecodeLint.Json
