import BytecodeLint.Json.Skim
import BytecodeLint.Proofs.Json.Record

/-!
# Passing over what was written

Members that a record does not ask for are passed over by a machine that reads one character at a
time. On the text of a value it comes to the end of the value, whatever arrays and objects are open
around it.

* `run_escaped`, `run_digits`: texts and numbers.
* `run_render`: any value, by induction along the value.
* `membersFrom_other`: a member of another name leaves the draft as it is.
* `wordShape_text`, `shape_fault`: what is refused.
-/

namespace BytecodeLint.Json

namespace Skim

/-! ## Single steps -/

section
variable {s : State} {stack : List Frame} {c : Char} {rest : List Char}

theorem run_next (s' : State) (stack' : List Frame) (hescape : endsInEscape s c rest = false)
    (hstep : step s stack c = .next s' stack') : run s stack (c :: rest) = run s' stack' rest := by
  simp [run, hescape, hstep]

/-- Behind a value the machine stands the same way whether the value has just ended or not. -/
theorem run_finished {stack' : List Frame} (hescape : endsInEscape s c rest = false)
    (hstep : step s stack c = finished stack') (hrest : rest ≠ []) :
    run s stack (c :: rest) = run .after stack' rest := by
  cases stack' with
  | cons frame outer => exact run_next .after _ hescape hstep
  | nil =>
    obtain ⟨c', more, rfl⟩ := List.exists_cons_of_ne_nil hrest
    simp only [run, hescape, hstep, finished, Bool.false_eq_true, ↓reduceIte]
    rfl

/-- Spaces do not matter in a state that passes over them. -/
theorem run_newLine (hescape : ∀ c rest, endsInEscape s c rest = false)
    (hspace : ∀ c, isSpace c = true → step s stack c = .next s stack) (level : Nat)
    (cs : List Char) : run s stack (newLine level ++ cs) = run s stack cs := by
  have hblanks (n : Nat) : run s stack (List.replicate n ' ' ++ cs) = run s stack cs := by
    induction n with
    | zero => rfl
    | succ n ih =>
      rw [List.replicate_succ, List.cons_append, run_next s stack (hescape ..) (hspace ' ' rfl), ih]
  rw [newLine, List.cons_append, run_next s stack (hescape ..) (hspace '\n' rfl), hblanks]

end

/-! ## Texts and numbers -/

theorem hexDigit?_hexPair : ∀ n, n < 32 →
    (Text.hexDigit? (Nat.digitChar (n / 16))).isNone = false ∧
      (Text.hexDigit? (Nat.digitChar (n % 16))).isNone = false := by decide

section
variable (stack : List Frame)

theorem run_escapeChar (isKey : Bool) (c : Char) (rest : List Char) :
    run (.text isKey) stack (escapeChar c ++ rest) = run (.text isKey) stack rest := by
  unfold escapeChar
  split
  · rfl
  split
  · rfl
  split
  · rfl
  split
  · rfl
  split
  · rfl
  split
  · rfl
  split
  · rfl
  split
  · rename_i hcontrol
    obtain ⟨hfirst, hsecond⟩ := hexDigit?_hexPair c.toNat hcontrol
    have hzero : (Text.hexDigit? '0').isNone = false := rfl
    have hshort : (shortEscape? 'u').isSome = false := rfl
    simp [hexPair, run, step, endsInEscape, hasBytes_four, hfirst, hsecond, hzero, hshort]
  · rename_i hquote hbackslash _ _ _ _ _ hcontrol
    refine run_next (.text isKey) stack rfl ?_
    simp [step, hquote, hbackslash, hcontrol]

theorem run_escaped (isKey : Bool) (cs rest : List Char) :
    run (.text isKey) stack (cs.flatMap escapeChar ++ rest) = run (.text isKey) stack rest := by
  induction cs with
  | nil => rfl
  | cons c cs ih => rw [List.flatMap_cons, List.append_assoc, run_escapeChar, ih]

theorem startValue_digit {d : Char} (hd : d.isDigit = true) (hzero : d ≠ '0') :
    startValue stack d = .next .whole stack := by
  have hother (c : Char) (hc : c.isDigit = false) : d ≠ c := by
    rintro rfl
    rw [hd] at hc
    cases hc
  simp [startValue, hother 'n' rfl, hother 't' rfl, hother 'f' rfl, hother '-' rfl, hzero, hd]

theorem run_whole {ds : List Char} (hall : ∀ d ∈ ds, d.isDigit = true) (rest : List Char) :
    run .whole stack (ds ++ rest) = run .whole stack rest := by
  induction ds with
  | nil => rfl
  | cons d ds ih =>
    have hstep : step .whole stack d = .next .whole stack := if_pos (hall d List.mem_cons_self)
    rw [List.cons_append, run_next .whole stack rfl hstep]
    exact ih fun c hc => hall c (List.mem_cons_of_mem d hc)

theorem run_digits (n : Nat) {rest : List Char} (hrest : Delimited rest) :
    run .value stack (digits n ++ rest) = run .after stack rest := by
  obtain ⟨d, ds, hcons, hd⟩ := digits_cons n
  rw [hcons, List.cons_append]
  by_cases hzero : d = '0'
  · -- no digit follows a zero in front
    subst hzero
    obtain rfl := eq_zero_of_digits hcons
    obtain rfl : ds = [] := (List.cons.inj hcons).2.symm
    obtain ⟨more, rfl | rfl⟩ := hrest <;> rfl
  · have hstep : step .value stack d = .next .whole stack := by
      simp [step, (opens_of_isDigit hd).not_space, startValue_digit stack hd hzero]
    have hall : ∀ c ∈ ds, c.isDigit = true := fun c hc =>
      isDigit_of_mem_digits (n := n) (hcons ▸ List.mem_cons_of_mem d hc)
    rw [run_next .whole stack rfl hstep, run_whole stack hall]
    obtain ⟨more, rfl | rfl⟩ := hrest <;> rfl

end

/-! ## Arrays and objects -/

section
variable (stack : List Frame)

/-- A value that opens an array is read like any other. -/
theorem run_firstItem (level : Nat) (v : Json) (rest : List Char) :
    run .firstItem stack (render level v ++ rest) = run .value stack (render level v ++ rest) := by
  obtain ⟨c, cs, hcons, hopens⟩ := render_opens level v
  have hstep : step .firstItem stack c = step .value stack c := by
    simp [step, hopens.not_space, hopens.not_end]
  rw [hcons, List.cons_append]
  simp only [run, hstep, endsInEscape, Bool.false_eq_true, ↓reduceIte]

/-- The key of a member and what stands between it and the value are passed over. -/
theorem run_key {s : State} (hs : s = .firstKey ∨ s = .key) (level : Nat) (key rest : List Char) :
    run s stack (newLine level ++ (quote key ++ (colon ++ rest))) = run .value stack rest := by
  have hspaces : run s stack (newLine level ++ (quote key ++ (colon ++ rest))) =
      run s stack (quote key ++ (colon ++ rest)) := by
    rcases hs with rfl | rfl
    · exact run_newLine (fun _ _ => rfl) (fun c hc => by simp [step, hc]) level _
    · exact run_newLine (fun _ _ => rfl) (fun c hc => by simp [step, hc]) level _
  have hquote : run s stack (quote key ++ (colon ++ rest)) =
      run (.text true) stack (key.flatMap escapeChar ++ ('"' :: (colon ++ rest))) := by
    simp only [quote, List.cons_append, List.append_assoc, List.nil_append]
    rcases hs with rfl | rfl <;> rfl
  rw [hspaces, hquote, run_escaped]
  rfl

theorem run_after_newLine (frame : Frame) (level : Nat) (cs : List Char) :
    run .after (frame :: stack) (newLine level ++ cs) = run .after (frame :: stack) cs := by
  refine run_newLine (fun _ _ => rfl) (fun c hc => ?_) level cs
  cases frame <;> simp [step, afterValue, hc]

mutual

/-- **A value that was written is passed over**, whatever is open around it. -/
theorem run_render (level : Nat) (stack : List Frame) (v : Json) {rest : List Char}
    (hrest : Delimited rest) :
    run .value stack (render level v ++ rest) = run .after stack rest := by
  have hne : rest ≠ [] := by
    obtain ⟨more, rfl | rfl⟩ := hrest <;> simp
  match v with
  | .bool b =>
    rw [render]
    cases b with
    | true => exact run_finished (s := .word ['e']) (c := 'e') rfl rfl hne
    | false => exact run_finished (s := .word ['e']) (c := 'e') rfl rfl hne
  | .number n =>
    rw [render]
    exact run_digits stack n hrest
  | .text s =>
    simp only [render, quote, List.cons_append, List.append_assoc, List.nil_append]
    rw [run_next (s := .value) (.text false) stack rfl rfl, run_escaped]
    exact run_finished rfl rfl hne
  | .array [] =>
    rw [render]
    exact (run_next .firstItem (.array :: stack) rfl rfl).trans
      (run_finished rfl rfl hne)
  | .array (item :: items) =>
    have hitems := delimited_renderItems (level + 1) level items (']' :: rest)
    simp only [render, List.cons_append, List.append_assoc, List.nil_append]
    rw [run_next (s := .value) .firstItem (.array :: stack) rfl rfl,
      run_newLine (fun _ _ => rfl) (fun c hc => by simp [step, hc]), run_firstItem,
      run_render (level + 1) (.array :: stack) item hitems]
    exact run_renderItems (level + 1) level stack items hne
  | .object [] =>
    rw [render]
    exact (run_next .firstKey (.object :: stack) rfl rfl).trans
      (run_finished rfl rfl hne)
  | .object ((key, value) :: members) =>
    have hmembers := delimited_renderMembers (level + 1) level members ('\x7d' :: rest)
    simp only [render, List.cons_append, List.append_assoc, List.nil_append]
    rw [run_next (s := .value) .firstKey (.object :: stack) rfl rfl,
      run_key _ (.inl rfl), run_render (level + 1) (.object :: stack) value hmembers]
    exact run_renderMembers (level + 1) level stack members hne

theorem run_renderItems (level below : Nat) (stack : List Frame) (items : List Json)
    {rest : List Char} (hne : rest ≠ []) :
    run .after (.array :: stack) (renderItems level items ++ (newLine below ++ ']' :: rest)) =
      run .after stack rest := by
  match items with
  | [] =>
    rw [renderItems, List.nil_append, run_after_newLine]
    exact run_finished rfl rfl hne
  | item :: items =>
    have hitems := delimited_renderItems level below items (']' :: rest)
    simp only [renderItems, List.cons_append, List.append_assoc]
    rw [run_next (s := .after) .value (.array :: stack) rfl rfl,
      run_newLine (fun _ _ => rfl) (fun c hc => by simp [step, hc]),
      run_render level (.array :: stack) item hitems]
    exact run_renderItems level below stack items hne

theorem run_renderMembers (level below : Nat) (stack : List Frame)
    (members : List (String × Json)) {rest : List Char} (hne : rest ≠ []) :
    run .after (.object :: stack)
      (renderMembers level members ++ (newLine below ++ '\x7d' :: rest)) =
        run .after stack rest := by
  match members with
  | [] =>
    rw [renderMembers, List.nil_append, run_after_newLine]
    exact run_finished rfl rfl hne
  | (key, value) :: members =>
    have hmembers := delimited_renderMembers level below members ('\x7d' :: rest)
    simp only [renderMembers, List.cons_append, List.append_assoc]
    rw [run_next (s := .after) .key (.object :: stack) rfl rfl,
      run_key _ (.inr rfl), run_render level (.object :: stack) value hmembers]
    exact run_renderMembers level below stack members hne

end

end

theorem value_render (level : Nat) (v : Json) {rest : List Char} (hrest : Delimited rest) :
    value (' ' :: (render level v ++ rest)) = .ok rest := by
  rw [value, run_next .value [] rfl rfl, run_render level [] v hrest]
  obtain ⟨more, rfl | rfl⟩ := hrest <;> rfl

end Skim

namespace Record

variable {δ α : Type} {r : Record δ α}

/-- A member of a name that is not asked for leaves the draft as it is. -/
theorem membersFrom_other {level fuel : Nat} {isFirst : Bool} {d : δ} {key : String} {value : Json}
    {place : Place} {cs rest : List Char}
    (hfind : (r.fields.find? fun f => f.name == key) = none) (hrest : Delimited rest)
    (hnext : nextKey isFirst cs =
      .ok (true, key.toList.flatMap escapeChar ++ '"' :: (colon ++ (render level value ++ rest)))) :
    r.membersFrom place (fuel + 1) isFirst d cs = r.membersFrom place fuel false d rest := by
  have hcolon : takeColon (colon ++ (render level value ++ rest)) =
      .ok (' ' :: (render level value ++ rest)) := rfl
  have hmember : r.member place d key (colon ++ (render level value ++ rest)) = .ok (d, rest) := by
    simp [member, hfind, hcolon, Skim.value_render level value hrest, bind, Except.bind]
  rw [membersFrom_next hnext, hmember]
  rfl

theorem shape_fault {place : Place} {cs body : List Char} {fault : JsonFault}
    (hcs : skipSpace cs = '\x7b' :: body)
    (h : r.membersFrom place (body.length + 1) true r.draft body = .error fault) :
    r.shape place cs = .error fault := by
  simp [shape, hcs, h, bind, Except.bind]

end Record

/-- A text does not pass for a number. -/
theorem wordShape_text (place : Place) (level : Nat) (s : String) (rest : List Char) :
    wordShape place (' ' :: (render level (.text s) ++ rest)) = .error (misfit place) := by
  have htext := takeText_escaped s.toList rest
  have hskip : skipSpace (' ' :: (render level (.text s) ++ rest)) =
      '"' :: (s.toList.flatMap escapeChar ++ '"' :: rest) := by
    rw [render, quote]
    simp [skipSpace, isSpace]
  have hdigit : '"'.isDigit = false := rfl
  simp [wordShape, hskip, hdigit, otherKind, htext, faultOr]

end BytecodeLint.Json
