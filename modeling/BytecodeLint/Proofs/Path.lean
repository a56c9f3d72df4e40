import BytecodeLint.Path

/-!
# What the components of a path tell

The file name of a path is cut from the end of its text, and its components are collected from the
front. Both look at the same parts: those that mean something.

* `fileName?_eq`: the file name is the last component, when that is a name.
* `extension?_congr`: so paths with the same components have the same extension.
* `fileName?_of_parts`: the file name of a path that ends with a plain part.
* `parent?_of_text`, `join_of_text`: the parent of a path that ends with a name, and what is seen
  from there.
-/

namespace BytecodeLint

namespace Text

variable {p : Char → Bool}

theorem splitWhere_ne_nil (cs : List Char) : splitWhere p cs ≠ [] := by
  cases cs with
  | nil => simp [splitWhere]
  | cons c rest =>
    rw [splitWhere]
    split
    · split <;> simp
    · simp

theorem splitWhere_cons_sep {c : Char} (hc : p c = true) (cs : List Char) :
    splitWhere p (c :: cs) = [] :: splitWhere p cs := by
  rw [splitWhere]
  split
  · rename_i piece later h
    rw [if_pos hc, h]
  · rename_i h
    exact absurd h (splitWhere_ne_nil cs)

theorem splitWhere_append_sep {c : Char} (hc : p c = true) (as bs : List Char) :
    splitWhere p (as ++ c :: bs) = splitWhere p as ++ splitWhere p bs := by
  induction as with
  | nil => exact splitWhere_cons_sep hc bs
  | cons a as ih =>
    obtain ⟨piece, later, hsplit⟩ := List.exists_cons_of_ne_nil (splitWhere_ne_nil (p := p) as)
    rw [List.cons_append, splitWhere, ih, splitWhere, hsplit]
    cases p a <;> simp

theorem splitWhere_of_none {cs : List Char} (h : ∀ c ∈ cs, p c = false) :
    splitWhere p cs = [cs] := by
  induction cs with
  | nil => rfl
  | cons c cs ih =>
    rw [splitWhere, ih fun c hc => h c (List.mem_cons_of_mem _ hc)]
    simp [h c List.mem_cons_self]

theorem sep_of_mem_splitWhere {cs piece : List Char} (h : piece ∈ splitWhere p cs) :
    ∀ c ∈ piece, p c = false := by
  induction cs generalizing piece with
  | nil => simp_all [splitWhere]
  | cons c cs ih =>
    obtain ⟨first, later, hsplit⟩ := List.exists_cons_of_ne_nil (splitWhere_ne_nil (p := p) cs)
    rw [hsplit] at ih
    rw [splitWhere, hsplit] at h
    cases hc : p c with
    | true =>
      simp only [hc, ↓reduceIte, List.mem_cons] at h
      rcases h with rfl | h
      · simp
      · exact ih (List.mem_cons.2 h)
    | false =>
      simp only [hc, Bool.false_eq_true, ↓reduceIte, List.mem_cons] at h
      rcases h with rfl | h
      · simpa [hc] using ih List.mem_cons_self
      · exact ih (List.mem_cons_of_mem _ h)

end Text

namespace Path

/-- The parts of a text that mean something. -/
def meaningful (cs : List Char) : List (List Char) :=
  (Text.splitWhere (fun c => c == '/') cs).filter fun part => !isIdle part

theorem isIdle_reverse (part : List Char) : isIdle part.reverse = isIdle part := by
  rw [Bool.eq_iff_iff]
  simp [isIdle, List.reverse_eq_iff]

/-- The parts of a text are those before its last slash and the one behind it. -/
theorem meaningful_lastPart (rev : List Char) :
    meaningful rev.reverse =
      meaningful (lastPart rev).2.reverse ++
        [(lastPart rev).1.reverse].filter fun part => !isIdle part := by
  have hpiece : ∀ c ∈ (rev.takeWhile fun c => c != '/').reverse, (c == '/') = false := by
    intro c hc
    simpa using List.all_eq_true.1 List.all_takeWhile c (List.mem_reverse.1 hc)
  have hrev := List.takeWhile_append_dropWhile (p := fun c => c != '/') (l := rev)
  rcases hrest : rev.dropWhile fun c => c != '/' with _ | ⟨c, rest⟩
  · rw [hrest, List.append_nil] at hrev
    have hsplit := Text.splitWhere_of_none hpiece
    rw [hrev] at hsplit
    simp [meaningful, lastPart, hrest, hrev, hsplit, Text.splitWhere, isIdle]
  · have hslash : c = '/' := by
      have hhead := List.head_dropWhile_not (fun c => c != '/') (l := rev) (by simp [hrest])
      simpa [hrest] using hhead
    have hparts : rev.reverse = rest.reverse ++ c :: (rev.takeWhile fun c => c != '/').reverse := by
      rw [hrest] at hrev
      exact (congrArg List.reverse hrev).symm.trans (by simp)
    rw [hparts]
    simp only [meaningful, lastPart, hrest, List.drop_one, List.tail_cons]
    rw [Text.splitWhere_append_sep (by simp [hslash]), Text.splitWhere_of_none hpiece,
      List.filter_append]

/-- What is left without the idle parts at the end ends with the last part that means something. -/
theorem getLast?_meaningful (rev : List Char) :
    (meaningful rev.reverse).getLast? =
      match dropIdle rev with
      | [] => none
      | c :: rest => some (lastPart (c :: rest)).1.reverse := by
  fun_induction dropIdle rev with
  | case1 => rfl
  | case2 c rest hidle ih =>
    rw [meaningful_lastPart, ← ih]
    simp [isIdle_reverse, hidle]
  | case3 c rest hidle =>
    rw [meaningful_lastPart]
    simp [isIdle_reverse, hidle]

/-- The front of a path is an idle part. -/
theorem meaningful_drop_front (cs : List Char) :
    meaningful (cs.drop (frontLength cs)) = meaningful cs := by
  unfold frontLength
  split
  · rename_i hfront
    rcases Bool.or_eq_true _ _ ▸ hfront with hroot | hcurrent
    · obtain ⟨rest, rfl⟩ : ∃ rest, cs = '/' :: rest := by
        cases cs with
        | nil => simp at hroot
        | cons c rest => exact ⟨rest, by simpa using hroot⟩
      simp [meaningful, Text.splitWhere_cons_sep, isIdle]
    · unfold startsWithCurrent at hcurrent
      split at hcurrent
      · rfl
      · rename_i rest
        have hsplit := Text.splitWhere_append_sep (p := fun c => c == '/') (c := '/') rfl ['.'] rest
        rw [List.singleton_append] at hsplit
        rw [meaningful, meaningful, hsplit, List.drop_one, List.tail_cons,
          Text.splitWhere_cons_sep rfl]
        rfl
      · cases hcurrent
  · rfl

/-- The component that a meaningful part stands for. -/
def meaning (part : List Char) : Component :=
  if part = ['.', '.'] then .parent else .name (String.ofList part)

theorem component?_ofList (part : List Char) :
    component? (String.ofList part) = if isIdle part then none else some (meaning part) := by
  have hempty : String.ofList part = "" ↔ part = [] := by
    rw [← String.toList_inj]; simp
  have hdot : String.ofList part = "." ↔ part = ['.'] := by
    rw [← String.toList_inj]; simp
  have hdots : String.ofList part = ".." ↔ part = ['.', '.'] := by
    rw [← String.toList_inj]; simp
  simp only [component?, hempty, hdot, hdots, isIdle, meaning]
  grind

theorem filterMap_component?_parts (p : Path) :
    p.parts.filterMap component? = (meaningful p.text.toList).map meaning := by
  rw [parts, List.filterMap_map, meaningful]
  induction Text.splitWhere (fun c => c == '/') p.text.toList with
  | nil => rfl
  | cons part later ih =>
    rw [List.filterMap_cons, ih, List.filter_cons, Function.comp_apply, component?_ofList]
    cases isIdle part <;> simp

/-- The name that a component is. -/
def Component.name? : Component → Option (List Char)
  | .name text => some text.toList
  | _ => none

/-- The components that a path has on account of its front. -/
def front (p : Path) : List Component :=
  if p.isAbsolute then [.root]
  else if startsWithCurrent p.text.toList then [.current]
  else []

theorem components_eq (p : Path) :
    p.components = p.front ++ (meaningful p.text.toList).map meaning := by
  rw [← filterMap_component?_parts]
  rfl

/-- The file name is the last component, when that is a name. -/
theorem fileName?_eq (p : Path) : p.fileName? = p.components.getLast?.bind Component.name? := by
  have hlast := getLast?_meaningful (p.text.toList.drop (frontLength p.text.toList)).reverse
  rw [List.reverse_reverse, meaningful_drop_front] at hlast
  rw [components_eq, List.getLast?_append, List.getLast?_map, hlast]
  unfold fileName? frontAndBody
  rcases hbody : dropIdle (p.text.toList.drop (frontLength p.text.toList)).reverse with
    _ | ⟨c, rest⟩
  · unfold front
    simp only [hbody, Option.map_none, Option.none_or]
    split
    · rfl
    · split <;> rfl
  · simp only [hbody, Option.map_some, Option.some_or, Option.bind_some, meaning]
    split <;> simp [Component.name?]

/-- Paths with the same components have the same extension. -/
theorem extension?_congr {p q : Path} (h : p.components = q.components) :
    p.extension? = q.extension? := by
  rw [extension?, extension?, fileName?_eq, fileName?_eq, h]

theorem components_of_parts {p : Path} {before : List String} {name : String}
    (h : p.parts = before ++ [name]) (hname : name ∉ ["", ".", ".."]) :
    ∃ above, p.components = above ++ [.name name] := by
  simp only [List.mem_cons, List.not_mem_nil, or_false, not_or] at hname
  refine ⟨p.front ++ before.filterMap component?, ?_⟩
  have hcomponents : p.components = p.front ++ p.parts.filterMap component? := rfl
  simp [hcomponents, h, component?, hname]

/-- A plain part at the end is the file name. -/
theorem fileName?_of_parts {p : Path} {before : List String} {name : String}
    (h : p.parts = before ++ [name]) (hname : name ∉ ["", ".", ".."]) :
    p.fileName? = some name.toList := by
  obtain ⟨above, habove⟩ := components_of_parts h hname
  simp [fileName?_eq, habove, Component.name?]

/-! ## Up and down again -/

/-- A text ends plainly when its last character is neither a slash nor a dot: then its last part is
more than an idle one. -/
def EndsPlainly (cs : List Char) : Prop := ∃ c, cs.getLast? = some c ∧ c ≠ '/' ∧ c ≠ '.'

theorem dropIdle_reverse {cs : List Char} (h : EndsPlainly cs) :
    dropIdle cs.reverse = cs.reverse := by
  obtain ⟨c, hlast, hslash, hdot⟩ := h
  obtain ⟨front, rfl⟩ := List.getLast?_eq_some_iff.1 hlast
  rw [List.reverse_append, List.reverse_singleton, List.singleton_append, dropIdle, if_neg]
  simp [lastPart, isIdle, hslash, hdot]

theorem lastPart_reverse (dir : List Char) {name : List Char} (hname : '/' ∉ name) :
    lastPart (dir ++ '/' :: name).reverse = (name.reverse, dir.reverse) := by
  have hpart : ∀ c ∈ name.reverse, (c != '/') = true := by
    intro c hc
    simpa using fun heq : c = '/' => hname (heq ▸ List.mem_reverse.1 hc)
  simp only [lastPart, List.reverse_append, List.reverse_cons, List.append_assoc,
    List.singleton_append]
  rw [List.takeWhile_append_of_pos hpart, List.dropWhile_append_of_pos hpart]
  simp

/-- A text that starts with neither a slash nor a dot has no front. -/
theorem frontLength_of_head {cs : List Char} {c : Char} (h : cs.head? = some c) (hslash : c ≠ '/')
    (hdot : c ≠ '.') : frontLength cs = 0 := by
  obtain ⟨rest, rfl⟩ := List.head?_eq_some_iff.1 h
  have hcurrent : startsWithCurrent (c :: rest) = false := by
    unfold startsWithCurrent
    split
    · simp_all
    · simp_all
    · rfl
  simp [frontLength, hslash, hcurrent]

/-- The parent of a relative path that ends with a name is what stands before its last slash. -/
theorem parent?_of_text {p : Path} {dir name : List Char}
    (htext : p.text.toList = dir ++ '/' :: name) (hfront : frontLength p.text.toList = 0)
    (hslash : '/' ∉ name) (hname : EndsPlainly name) (hdir : EndsPlainly dir) :
    p.parent? = some ⟨String.ofList dir⟩ := by
  have hplain : EndsPlainly (dir ++ '/' :: name) := by
    obtain ⟨c, hlast, hc⟩ := hname
    refine ⟨c, ?_, hc⟩
    rw [List.getLast?_append, List.getLast?_cons, hlast]
    rfl
  have hbody : p.frontAndBody = ([], (dir ++ '/' :: name).reverse) := by
    rw [frontAndBody, hfront, htext]
    simp [-List.reverse_append, dropIdle_reverse hplain]
  obtain ⟨c, rest, hrev⟩ := List.exists_cons_of_ne_nil (l := (dir ++ '/' :: name).reverse) (by simp)
  have hlast := lastPart_reverse dir hslash
  rw [hrev] at hbody hlast
  rw [parent?, hbody]
  simp [hlast, dropIdle_reverse hdir]

/-- A relative path is seen from a directory behind a slash. -/
theorem join_of_text {dir entry : List Char} (hdir : EndsPlainly dir)
    (hentry : entry.head? ≠ some '/') :
    join ⟨String.ofList dir⟩ ⟨String.ofList entry⟩ = ⟨String.ofList (dir ++ '/' :: entry)⟩ := by
  obtain ⟨c, hlast, hslash, -⟩ := hdir
  have hne : dir ≠ [] := by
    rintro rfl
    cases hlast
  simp only [join, isAbsolute, String.toList_ofList, hlast]
  rw [if_neg (by simpa using hentry), if_neg (by simpa [hne] using hslash)]
  congr 1
  rw [← String.toList_inj]
  simp

/-- The extension of a path is told by its last part. -/
theorem extension?_of_parts {p q : Path} {before before' : List String} {name : String}
    (hp : p.parts = before ++ [name]) (hq : q.parts = before' ++ [name])
    (hname : name ∉ ["", ".", ".."]) : p.extension? = q.extension? := by
  rw [extension?, extension?, fileName?_of_parts hp hname, fileName?_of_parts hq hname]

/-- The extension of a path whose last part has a dot behind a stem. -/
theorem extension?_of_stem {p : Path} {before : List String} (stem ext : String)
    (h : p.parts = before ++ [stem ++ "." ++ ext]) (hstem : stem ≠ "") (hext : ext ≠ "")
    (hdot : '.' ∉ ext.toList) : p.extension? = some ext := by
  obtain ⟨c, cs, hcs⟩ :=
    List.exists_cons_of_ne_nil (l := stem.toList.reverse) (by simpa using hstem)
  obtain ⟨d, ds, hds⟩ :=
    List.exists_cons_of_ne_nil (l := ext.toList.reverse) (by simpa using hext)
  have hrev : (stem ++ "." ++ ext).toList.reverse = ext.toList.reverse ++ '.' :: (c :: cs) := by
    simp [hcs]
  have hplain : ∀ a ∈ ext.toList.reverse, (a != '.') = true := by
    intro a ha
    simpa using fun heq : a = '.' => hdot (heq ▸ List.mem_reverse.1 ha)
  -- the last character is no dot, so the part is none of those that are no names
  have hname : stem ++ "." ++ ext ∉ ["", ".", ".."] := by
    intro hmem
    have hd : (d != '.') = true := hplain d (by simp [hds])
    rw [hds] at hrev
    simp only [List.mem_cons, List.not_mem_nil, or_false] at hmem
    rcases hmem with hmem | hmem | hmem <;> rw [hmem] at hrev <;> simp at hrev
    all_goals simp [← hrev.1] at hd
  rw [extension?, fileName?_of_parts h hname]
  simp only [Option.bind_eq_bind, Option.bind_some, hrev, List.dropWhile_append_of_pos hplain,
    List.takeWhile_append_of_pos hplain]
  simp

end Path

end BytecodeLint
