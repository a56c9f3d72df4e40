import BytecodeLint.Manifest
import BytecodeLint.Proofs.Path

/-!
# Folded headers

A manifest is read line by line, with one header open at a time. Here it is read in two passes that
keep nothing open: lines are put into groups first (`gather`), then each group is read as a header
of its own (`Group.header?`), and the last class path counts. Both readings agree.

A long value may be cut into lines wherever its writer likes. Cutting is not seen in the class path:
a blank at the front of a value means nothing, and apart from such blanks a cut value is put
together as it was.

* `classPathValue?_eq`: reading in one pass is reading in two.
* `gist_line`: what a reader keeps depends on what it kept before, blanks in front of values apart.
* `gist_cut`: one cut makes no difference, so no number of them does.
-/
namespace BytecodeLint

/-! ## Texts -/

namespace Text

/-- What is dropped from the end goes no further than a character that stays. -/
theorem dropEnd_append {p : Char → Bool} {front : List Char}
    (h : ∀ c, front.getLast? = some c → p c = false) (cs : List Char) :
    dropEnd p (front ++ cs) = front ++ dropEnd p cs := by
  rcases List.eq_nil_or_concat front with rfl | ⟨init, c, rfl⟩
  · rfl
  · have hc := h c (by simp)
    simp only [dropEnd, List.reverse_append, List.dropWhile_append]
    split
    · rename_i hempty
      simp [hc, List.isEmpty_iff.1 hempty]
    · simp

theorem trimStart_append (front back : List Char) :
    trimStart (trimStart front ++ back) = trimStart (front ++ back) := by
  induction front with
  | nil => rfl
  | cons c front ih =>
    cases hc : isBlank c with
    | true => simpa [trimStart, hc] using ih
    | false => simp [trimStart, hc]

/-- Blanks at the front of a text do not change its words. -/
theorem words_trimStart (cs : List Char) : words (trimStart cs) = words cs := by
  induction cs with
  | nil => rfl
  | cons c cs ih =>
    cases hc : isBlank c with
    | true =>
      have htrim : trimStart (c :: cs) = trimStart cs := by simp [trimStart, hc]
      rw [htrim, ih, words, words, splitWhere_cons_sep hc]
      simp
    | false => simp [trimStart, hc]

theorem splitOnce_eq (sep : Char) (cs : List Char) :
    splitOnce sep cs = if sep ∈ cs then
      some (cs.takeWhile (· != sep), (cs.dropWhile (· != sep)).tail) else none := by
  induction cs with
  | nil => rfl
  | cons c cs ih =>
    rw [splitOnce]
    by_cases hc : c = sep
    · simp [hc]
    · have hmem : sep ∈ c :: cs ↔ sep ∈ cs := by simp [Ne.symm hc]
      simp only [hc, hmem, ih, ↓reduceIte]
      split <;> simp [hc]

theorem splitOnce_append {sep : Char} {front : List Char} (h : sep ∈ front) (back : List Char) :
    ∃ key value, splitOnce sep front = some (key, value) ∧
      splitOnce sep (front ++ back) = some (key, value ++ back) := by
  induction front with
  | nil => cases h
  | cons c front ih =>
    by_cases hc : c = sep
    · exact ⟨[], front, by simp [splitOnce, hc], by simp [splitOnce, hc]⟩
    · obtain ⟨key, value, hfront, hboth⟩ := ih (List.mem_of_ne_of_mem (Ne.symm hc) h)
      exact ⟨c :: key, value, by simp [splitOnce, hc, hfront], by simp [splitOnce, hc, hboth]⟩

theorem lines_append_newline {line : List Char} (h : '\n' ∉ line) (rest : List Char) :
    lines (line ++ '\n' :: rest) = line :: lines rest := by
  induction line with
  | nil => simp [lines]
  | cons c line ih =>
    have hc : c ≠ '\n' := (List.ne_of_not_mem_cons h).symm
    rw [List.cons_append, lines, if_neg hc, ih (List.not_mem_of_not_mem_cons h)]

/-- What a text does to a line that it goes on with does not depend on that line. -/
theorem exists_lines_append (rest : List Char) : ∃ tail later, ∀ line, line ≠ [] →
    '\n' ∉ line → lines (line ++ rest) = (line ++ tail) :: later := by
  induction rest with
  | nil =>
    refine ⟨[], [], fun line hline hfree => ?_⟩
    induction line with
    | nil => exact absurd rfl hline
    | cons c line ih =>
      have hc : c ≠ '\n' := (List.ne_of_not_mem_cons hfree).symm
      cases line with
      | nil => simp [lines, hc]
      | cons d line =>
        have hlater := ih (by simp) (List.not_mem_of_not_mem_cons hfree)
        simp only [List.append_nil] at hlater ⊢
        rw [lines, if_neg hc, hlater]
  | cons c rest ih =>
    by_cases hc : c = '\n'
    · subst hc
      refine ⟨[], lines rest, fun line _ hfree => ?_⟩
      rw [lines_append_newline hfree, List.append_nil]
    · obtain ⟨tail, later, hlines⟩ := ih
      refine ⟨c :: tail, later, fun line _ hfree => ?_⟩
      have hnext := hlines (line ++ [c]) (by simp) (by simp [hfree, Ne.symm hc])
      simpa using hnext

end Text

namespace Manifest

/-! ## Two passes -/

/-- The text of a line that starts with a space, without that space. -/
def continuation? (line : List Char) : Option (List Char) :=
  if line.head? = some ' ' then some line.tail else none

/-- A line that opens a group, and the texts of the lines that go on with it. -/
structure Group where
  first : List Char
  appended : List (List Char)

/-- Puts lines into groups. In front of these are the texts of lines that go on with nothing. -/
def gather : List (List Char) → List (List Char) × List Group
  | [] => ([], [])
  | line :: lines =>
    match continuation? line with
    | some text => (text :: (gather lines).1, (gather lines).2)
    | none => ([], ⟨line, (gather lines).1⟩ :: (gather lines).2)

structure Header where
  key : List Char
  value : List Char

/-- The header that a group is, if its first line has a colon. -/
def Group.header? (g : Group) : Option Header :=
  if ':' ∈ g.first then
    some ⟨Text.trim (g.first.takeWhile (· != ':')),
      Text.trimStart (g.first.dropWhile (· != ':')).tail ++ g.appended.flatten⟩
  else none

/-- A line without the carriage returns at its end. -/
def stripped (line : List Char) : List Char := Text.dropEnd (fun c => c == '\r') line

/-- The headers of a manifest in order. -/
def headers (content : List Char) : List Header :=
  (gather ((Text.lines content).map stripped)).2.filterMap Group.header?

/-- The value of the last class path among headers. -/
def lastClassPath? (hs : List Header) : Option (List Char) :=
  (hs.reverse.find? fun h => h.key = classPathKey).map Header.value

/-- The class path of a jar, read in two passes. -/
def classPathOfGroups (jar : Path) (content : String) : List Path :=
  match lastClassPath? (headers content.toList) with
  | none => []
  | some value => (Text.words value).map fun word =>
    let entry : Path := ⟨String.ofList word⟩
    if entry.isAbsolute then entry else (jar.parent?.getD ⟨""⟩).join entry

theorem lastClassPath?_append (hs hs' : List Header) :
    lastClassPath? (hs ++ hs') = (lastClassPath? hs').or (lastClassPath? hs) := by
  simp [lastClassPath?, List.find?_append, Option.map_or]

/-! ## One pass is two -/

/-- A header with more text behind its value. -/
def Header.goOn (text : List Char) (h : Header) : Header := ⟨h.key, h.value ++ text⟩

theorem Header.goOn_nil : Header.goOn [] = id := by
  funext h
  simp [Header.goOn]

theorem Header.goOn_goOn (text more : List Char) (h : Header) :
    (h.goOn text).goOn more = h.goOn (text ++ more) := by
  simp [Header.goOn]

theorem Group.header?_eq (line : List Char) (texts : List (List Char)) :
    (Group.mk line texts).header? = (Text.splitOnce ':' line).map fun parts =>
      ⟨Text.trim parts.1, Text.trimStart parts.2 ++ texts.flatten⟩ := by
  rw [Group.header?, Text.splitOnce_eq]
  split <;> rfl

theorem Group.header?_goOn (line : List Char) (texts : List (List Char)) :
    (Group.mk line texts).header? = (Group.mk line []).header?.map (Header.goOn texts.flatten) := by
  unfold Group.header?
  split <;> simp [Header.goOn]

namespace State

/-- The header that is open, if any, with its value put together. -/
def opened (s : State) : Option Header := s.header.map fun h => ⟨h.1, h.2.reverse.flatten⟩

theorem line_continuation {s : State} {line text : List Char}
    (h : continuation? (stripped line) = some text) : s.line line = s.extend text := by
  unfold continuation? stripped at h
  unfold State.line
  split
  · rename_i rest hline
    simp only [hline, List.head?_cons, ↓reduceIte, List.tail_cons, Option.some.injEq] at h
    rw [h]
  · rename_i hline
    split at h
    · rename_i hspace
      obtain ⟨rest, hrest⟩ := List.head?_eq_some_iff.1 hspace
      exact absurd hrest (hline rest)
    · cases h

theorem line_opening {s : State} {line : List Char}
    (h : continuation? (stripped line) = none) : s.line line = s.close.start (stripped line) := by
  unfold continuation? stripped at h
  unfold State.line
  split
  · rename_i rest hline
    simp [hline] at h
  · rfl

theorem opened_extend (s : State) (text : List Char) :
    (s.extend text).opened = s.opened.map (Header.goOn text) := by
  unfold State.extend opened
  split
  · rename_i key pieces hheader
    simp [hheader, Header.goOn]
  · rename_i hheader
    simp [hheader]

theorem classPath_extend (s : State) (text : List Char) :
    (s.extend text).classPath = s.classPath := by
  unfold State.extend
  split <;> rfl

theorem header_close (s : State) : s.close.header = none := by
  unfold State.close
  split
  · split <;> rfl
  · assumption

theorem classPath_close (s : State) :
    s.close.classPath = (lastClassPath? s.opened.toList).or s.classPath := by
  unfold State.close opened
  split
  · rename_i key pieces hheader
    split
    · rename_i hkey
      simp [hheader, lastClassPath?, hkey]
    · rename_i hkey
      simp [hheader, lastClassPath?, hkey]
  · rename_i hheader
    simp [hheader, lastClassPath?]

/-- A line that opens a group is a header without texts behind it. -/
theorem opened_start {s : State} (h : s.header = none) (line : List Char) :
    (s.start line).opened = (Group.mk line []).header? := by
  unfold State.start opened
  rw [Group.header?_eq]
  split
  · rename_i key value hsplit
    simp [hsplit]
  · rename_i hsplit
    simp [hsplit, h]

theorem classPath_start (s : State) (line : List Char) :
    (s.start line).classPath = s.classPath := by
  unfold State.start
  split <;> rfl

/-- Reading lines from any state on: the open header goes on with the texts in front of the first
group, and each group is a header of its own. -/
theorem classPath_foldl (lines : List (List Char)) (s : State) :
    (lines.foldl State.line s).close.classPath =
      (lastClassPath?
        ((s.opened.map (Header.goOn (gather (lines.map stripped)).1.flatten)).toList ++
          (gather (lines.map stripped)).2.filterMap Group.header?)).or s.classPath := by
  induction lines generalizing s with
  | nil =>
    rw [List.foldl_nil, classPath_close]
    simp [gather, Header.goOn_nil]
  | cons line lines ih =>
    rw [List.foldl_cons, ih, List.map_cons, gather]
    cases hcont : continuation? (stripped line) with
    | some text =>
      rw [line_continuation hcont, classPath_extend, opened_extend]
      simp [Function.comp_def, Header.goOn_goOn]
    | none =>
      have hgroup (g : Group) (groups : List Group) : (g :: groups).filterMap Group.header? =
          g.header?.toList ++ groups.filterMap Group.header? := by
        cases hheader : g.header? <;> simp [hheader]
      rw [line_opening hcont, classPath_start, classPath_close, opened_start (header_close s),
        ← Group.header?_goOn]
      simp only [hgroup, List.flatten_nil, Header.goOn_nil, Option.map_id, id,
        lastClassPath?_append, Option.or_assoc]

end State

/-- **One pass is two.** -/
theorem classPathValue?_eq (content : List Char) :
    classPathValue? content = lastClassPath? (headers content) := by
  rw [classPathValue?, State.classPath_foldl]
  simp [State.opened, headers]

theorem classPath_eq_groups (jar : Path) (content : String) :
    classPath jar content = classPathOfGroups jar content := by
  have hlocate (word : List Char) : locate jar word =
      if (⟨String.ofList word⟩ : Path).isAbsolute then ⟨String.ofList word⟩
      else (jar.parent?.getD ⟨""⟩).join ⟨String.ofList word⟩ := by
    rw [locate, Path.join]
    split <;> rfl
  rw [classPath, classPathOfGroups, classPathValue?_eq]
  cases lastClassPath? (headers content.toList) with
  | none => rfl
  | some value => exact List.map_congr_left fun word _ => hlocate word

/-! ## What a reader keeps -/

/-- A header up to blanks in front of its value. -/
def Header.trimmed (h : Header) : Header := ⟨h.key, Text.trimStart h.value⟩

theorem Header.trimmed_goOn (h : Header) (text : List Char) :
    (h.trimmed.goOn text).trimmed = (h.goOn text).trimmed := by
  simp [Header.trimmed, Header.goOn, Text.trimStart_append]

namespace State

/-- What matters of a state: the open header up to blanks in front of its value, and the words of
the last class path. -/
def gist (s : State) : Option Header × Option (List (List Char)) :=
  (s.opened.map Header.trimmed, s.classPath.map Text.words)

theorem gist_extend (s : State) (text : List Char) : (s.extend text).gist =
    (s.gist.1.map fun h => (h.goOn text).trimmed, s.gist.2) := by
  simp [gist, opened_extend, classPath_extend, Function.comp_def, Header.trimmed_goOn]

theorem words_close (s : State) : s.close.classPath.map Text.words =
    ((lastClassPath? s.gist.1.toList).map Text.words).or s.gist.2 := by
  rw [classPath_close, gist]
  cases s.opened with
  | none => simp [lastClassPath?]
  | some h =>
    by_cases hkey : h.key = classPathKey
    · simp [lastClassPath?, Header.trimmed, hkey, Text.words_trimStart]
    · simp [lastClassPath?, Header.trimmed, hkey]

theorem gist_open (s : State) (line : List Char) : (s.close.start line).gist =
    ((Group.mk line []).header?.map Header.trimmed,
      ((lastClassPath? s.gist.1.toList).map Text.words).or s.gist.2) := by
  rw [← words_close, gist, opened_start (header_close s), classPath_start]

theorem gist_line {s s' : State} (h : s.gist = s'.gist) (line : List Char) :
    (s.line line).gist = (s'.line line).gist := by
  cases hcont : continuation? (stripped line) with
  | some text => rw [line_continuation hcont, line_continuation hcont, gist_extend, gist_extend, h]
  | none => rw [line_opening hcont, line_opening hcont, gist_open, gist_open, h]

theorem gist_foldl {s s' : State} (h : s.gist = s'.gist) (lines : List (List Char)) :
    (lines.foldl State.line s).gist = (lines.foldl State.line s').gist := by
  induction lines generalizing s s' with
  | nil => exact h
  | cons line lines ih => exact ih (gist_line h line)

end State

/-! ## Cutting a value -/

inductive LineEnd where
  | lf | crlf
  deriving DecidableEq

/-- The carriage returns before the line feed. -/
def LineEnd.returns : LineEnd → List Char
  | .lf => []
  | .crlf => ['\r']

def LineEnd.text (e : LineEnd) : List Char := e.returns ++ ['\n']

theorem stripped_append {front : List Char} (h : front.getLast? ≠ some '\r') (cs : List Char) :
    stripped (front ++ cs) = front ++ stripped cs := by
  refine Text.dropEnd_append (fun c hc => ?_) cs
  rw [beq_eq_false_iff_ne]
  rintro rfl
  exact h hc

theorem stripped_append_returns {front : List Char} (h : front.getLast? ≠ some '\r')
    (e : LineEnd) : stripped (front ++ e.returns) = front := by
  have hreturns : stripped e.returns = [] := by cases e <;> rfl
  rw [stripped_append h, hreturns, List.append_nil]

theorem continuation?_append {front : List Char} (h : front ≠ []) (back : List Char) :
    continuation? (front ++ back) = (continuation? front).map (· ++ back) := by
  obtain ⟨c, front, rfl⟩ := List.exists_cons_of_ne_nil h
  by_cases hc : c = ' ' <;> simp [continuation?, hc]

/-- A header line that is longer is the same header with a longer value, up to blanks. -/
theorem Group.header?_append {front : List Char} (hcolon : ':' ∈ front) (back : List Char) :
    (Group.mk (front ++ back) []).header?.map Header.trimmed =
      (Group.mk front []).header?.map fun h => (h.goOn back).trimmed := by
  obtain ⟨key, value, hfront, hboth⟩ := Text.splitOnce_append hcolon back
  have hblanks : Text.trimStart (Text.trimStart (value ++ back)) =
      Text.trimStart (Text.trimStart value ++ back) := by
    have hagain := Text.trimStart_append (value ++ back) []
    rw [List.append_nil, List.append_nil] at hagain
    rw [hagain, Text.trimStart_append]
  rw [Group.header?_eq, Group.header?_eq, hfront, hboth]
  simp [Header.trimmed, Header.goOn, hblanks]

/-- One cut makes no difference: a line that has its colon may end anywhere behind it and go on in
the next line. -/
theorem State.gist_cut (s : State) {front : List Char} (hcolon : ':' ∈ front)
    (hlast : front.getLast? ≠ some '\r') (e : LineEnd) (back : List Char) :
    ((s.line (front ++ e.returns)).line (' ' :: back)).gist = (s.line (front ++ back)).gist := by
  have hnext : continuation? (stripped (' ' :: back)) = some (stripped back) := by
    rw [← List.singleton_append, stripped_append (by decide)]
    rfl
  have hfirst : continuation? (stripped (front ++ e.returns)) = continuation? front := by
    rw [stripped_append_returns hlast]
  have hboth : continuation? (stripped (front ++ back)) =
      (continuation? front).map (· ++ stripped back) := by
    rw [stripped_append hlast, continuation?_append (List.ne_nil_of_mem hcolon)]
  rw [line_continuation hnext, gist_extend]
  cases hcont : continuation? front with
  | some text =>
    rw [hcont] at hfirst hboth
    rw [line_continuation hfirst, line_continuation hboth, gist_extend, gist_extend]
    simp [Function.comp_def, Header.trimmed_goOn, Header.goOn_goOn]
  | none =>
    rw [hcont] at hfirst hboth
    rw [line_opening hfirst, line_opening hboth, gist_open, gist_open,
      stripped_append_returns hlast, stripped_append hlast, Group.header?_append hcolon]
    simp [Function.comp_def, Header.trimmed_goOn]

/-- The lines of a text that is cut behind a colon, and those of the text as it was. -/
theorem lines_cut {line clean : List Char} (hline : '\n' ∉ line) (hclean : '\n' ∉ clean)
    (e : LineEnd) (back : List Char) : ∃ rest later,
      Text.lines (line ++ ':' :: (clean ++ (e.text ++ ' ' :: back))) =
        (line ++ ':' :: clean ++ e.returns) :: (' ' :: rest) :: later ∧
      Text.lines (line ++ ':' :: (clean ++ back)) = (line ++ ':' :: clean ++ rest) :: later := by
  obtain ⟨rest, later, hlines⟩ := Text.exists_lines_append back
  have hends : '\n' ∉ line ++ ':' :: clean ++ e.returns := by
    cases e <;> simp [LineEnd.returns, hline, hclean]
  have hfirst := Text.lines_append_newline hends (' ' :: back)
  have hnext := hlines [' '] (by simp) (by decide)
  have hwhole := hlines (line ++ ':' :: clean) (by simp) (by simp [hline, hclean])
  simp only [List.append_assoc, List.cons_append, List.nil_append] at hfirst hnext hwhole
  refine ⟨rest, later, ?_, ?_⟩
  · simp only [LineEnd.text, List.append_assoc, List.cons_append, List.nil_append]
    rw [hfirst, hnext]
  · rw [hwhole]
    simp

/-- The same in a whole manifest, the last line of which may have begun already. -/
theorem State.gist_cut_lines (s : State) (line front : List Char) {clean : List Char}
    (hline : '\n' ∉ line) (hfeed : '\n' ∉ clean) (hreturn : '\r' ∉ clean) (e : LineEnd)
    (back : List Char) :
    ((Text.lines (line ++ (front ++ ':' :: (clean ++ (e.text ++ ' ' :: back))))).foldl
      State.line s).gist =
    ((Text.lines (line ++ (front ++ ':' :: (clean ++ back)))).foldl State.line s).gist := by
  induction front generalizing line s with
  | nil =>
    have hlast : (line ++ ':' :: clean).getLast? ≠ some '\r' := by
      intro h
      have hclean : (':' :: clean).getLast? = some '\r' := by
        simpa [List.getLast?_append, List.getLast?_cons] using h
      simpa [hreturn] using List.mem_of_getLast? hclean
    obtain ⟨rest, later, hcut, hwhole⟩ := lines_cut hline hfeed e back
    rw [List.nil_append, List.nil_append, hcut, hwhole]
    exact gist_foldl (s.gist_cut (by simp) hlast e rest) later
  | cons c front ih =>
    by_cases hc : c = '\n'
    · subst hc
      rw [List.cons_append, List.cons_append, Text.lines_append_newline hline,
        Text.lines_append_newline hline]
      exact ih (s.line line) [] List.not_mem_nil
    · have hlonger := ih s (line ++ [c]) (by simp [hline, Ne.symm hc])
      simpa using hlonger

/-- A value that is cut: its first piece, and for each cut the line's end and the next piece. -/
def folded (first : List Char) (cuts : List (LineEnd × List Char)) : List Char :=
  first ++ cuts.flatMap fun cut => cut.1.text ++ ' ' :: cut.2

/-- No number of cuts makes a difference. -/
theorem State.gist_folded (s : State) (front after first : List Char)
    (cuts : List (LineEnd × List Char)) (hfeed : '\n' ∉ first ++ cuts.flatMap Prod.snd)
    (hreturn : '\r' ∉ first ++ cuts.flatMap Prod.snd) :
    ((Text.lines (front ++ ':' :: (folded first cuts ++ after))).foldl State.line s).gist =
      ((Text.lines (front ++ ':' :: (first ++ cuts.flatMap Prod.snd ++ after))).foldl
        State.line s).gist := by
  induction cuts generalizing first with
  | nil => simp [folded]
  | cons cut cuts ih =>
    obtain ⟨e, piece⟩ := cut
    rw [List.flatMap_cons, ← List.append_assoc] at hfeed hreturn
    have hclean {c : Char} (h : c ∉ first ++ piece ++ cuts.flatMap Prod.snd) : c ∉ first :=
      fun hmem => h (by simp [hmem])
    have hcut := s.gist_cut_lines [] front List.not_mem_nil (hclean hfeed) (hclean hreturn) e
      (piece ++ (cuts.flatMap fun cut => cut.1.text ++ ' ' :: cut.2) ++ after)
    have hlater := ih (first ++ piece) hfeed hreturn
    simp only [folded, List.flatMap_cons, List.append_assoc, List.cons_append, List.nil_append]
      at hcut hlater ⊢
    rw [hcut, hlater]

theorem classPath_eq_words (jar : Path) (content : String) :
    classPath jar content =
      (((classPathValue? content.toList).map Text.words).getD []).map (locate jar) := by
  rw [classPath]
  cases classPathValue? content.toList <;> rfl

/-- **Folding is transparent.** The class path of a jar is what the two passes find. The value of a
header may be cut into any number of lines, wherever in the manifest the header stands: `front` ends
with the key. -/
theorem classPath_folding (jar : Path) :
    (∀ content, classPath jar content = classPathOfGroups jar content) ∧
    ∀ (front after value first : List Char) (cuts : List (LineEnd × List Char)),
      value = first ++ cuts.flatMap Prod.snd → '\r' ∉ value → '\n' ∉ value →
      classPath jar (String.ofList (front ++ ':' :: (folded first cuts ++ after))) =
        classPath jar (String.ofList (front ++ ':' :: (value ++ after))) := by
  refine ⟨classPath_eq_groups jar, fun front after value first cuts hvalue hreturn hfeed => ?_⟩
  subst hvalue
  simp only [classPath_eq_words, classPathValue?, State.words_close, String.toList_ofList,
    State.gist_folded _ front after first cuts hfeed hreturn]

/-- A name that is cut, and one that starts a line. -/
theorem classPath_of_cut_name :
    '\r' ∉ " b.jar /ext/c.jar".toList ∧ '\n' ∉ " b.jar /ext/c.jar".toList ∧
    classPath ⟨"lib/a.jar"⟩ "Class-Path: b.j\r\n ar\n  /ext/c.jar\n" =
      classPath ⟨"lib/a.jar"⟩ "Class-Path: b.jar /ext/c.jar\n" ∧
    classPath ⟨"lib/a.jar"⟩ "Class-Path: b.jar /ext/c.jar\n" =
      [⟨"lib/b.jar"⟩, ⟨"/ext/c.jar"⟩] := by
  have hcut := (classPath_folding ⟨"lib/a.jar"⟩).2 "Class-Path".toList ['\n']
    " b.jar /ext/c.jar".toList " b.j".toList
    [(.crlf, "ar".toList), (.lf, " /ext/c.jar".toList)] (by decide) (by decide) (by decide)
  exact ⟨by decide, by decide, hcut, by decide +kernel⟩

end Manifest

end BytecodeLint
