import BytecodeLint.Text.Blank

/-!
# Paths

A path is a text whose parts are separated by slashes. Empty parts, and parts `.` other than one at
the very front of a relative path, mean nothing: they are passed over when components are counted,
but the text keeps them. Two paths are the same place on paper when their components agree.
-/

namespace BytecodeLint

/-- A path as it was written. -/
structure Path where
  text : String
  deriving DecidableEq, Repr

/-- What a part of a path stands for. -/
inductive Path.Component where
  | root
  | current
  | parent
  | name (text : String)
  deriving DecidableEq, Repr

namespace Path

def isAbsolute (p : Path) : Bool := p.text.toList.head? == some '/'

/-- The parts between slashes, empty ones included. -/
def parts (p : Path) : List String :=
  (Text.splitWhere (fun c => c == '/') p.text.toList).map String.ofList

/-- Whether a relative path starts with the part `.`. -/
def startsWithCurrent (cs : List Char) : Bool :=
  match cs with
  | ['.'] => true
  | '.' :: '/' :: _ => true
  | _ => false

/-- The component of a part behind the front of a path. -/
def component? (part : String) : Option Component :=
  if part = "" then none
  else if part = "." then none
  else if part = ".." then some .parent
  else some (.name part)

def components (p : Path) : List Component :=
  let front : List Component :=
    if p.isAbsolute then [.root]
    else if startsWithCurrent p.text.toList then [.current]
    else []
  front ++ p.parts.filterMap component?

/-- Whether two paths have the same components. -/
def samePlace (p q : Path) : Bool := p.components == q.components

/-- Goes on from `p` along `q`: a slash between them, unless `p` is empty or ends with one. An
absolute `q` takes the place of `p`. -/
def join (p q : Path) : Path :=
  if q.isAbsolute then q
  else if p.text.toList.isEmpty || p.text.toList.getLast? == some '/' then ⟨p.text ++ q.text⟩
  else ⟨p.text ++ "/" ++ q.text⟩

/-- A relative path is put behind the text of the path from which it is seen. -/
theorem exists_join (p : Path) :
    ∃ front, p.text.toList <+: front ∧
      ∀ q : Path, q.isAbsolute = false → (p.join q).text.toList = front ++ q.text.toList := by
  cases hgap : p.text.toList.isEmpty || p.text.toList.getLast? == some '/' with
  | true => exact ⟨p.text.toList, List.prefix_rfl, fun q hq => by simp [join, hq, hgap]⟩
  | false =>
    exact ⟨p.text.toList ++ ['/'], List.prefix_append .., fun q hq => by simp [join, hq, hgap]⟩

/-- The number of characters at the front that stand for the root or the current directory. -/
def frontLength (cs : List Char) : Nat :=
  if cs.head? == some '/' || startsWithCurrent cs then 1 else 0

/-- The last part of a reversed text, still reversed, and what stands before its slash. -/
def lastPart (rev : List Char) : List Char × List Char :=
  (rev.takeWhile (fun c => c != '/'), (rev.dropWhile fun c => c != '/').drop 1)

/-- Whether a part means nothing behind the front of a path. -/
def isIdle (part : List Char) : Bool := part == [] || part == ['.']

theorem lastPart_snd_length (c : Char) (rev : List Char) :
    (lastPart (c :: rev)).2.length ≤ rev.length := by
  have h := (List.dropWhile_suffix (fun c => c != '/') (l := c :: rev)).length_le
  simp only [lastPart, List.length_drop, List.length_cons] at *
  omega

/-- Drops idle parts from the end of a text that is given in reverse. -/
def dropIdle (rev : List Char) : List Char :=
  match rev with
  | [] => []
  | c :: rest =>
    if isIdle (lastPart (c :: rest)).1 then dropIdle (lastPart (c :: rest)).2 else c :: rest
  termination_by rev.length
  decreasing_by
    have := lastPart_snd_length c rest
    simp only [List.length_cons]
    omega

/-- The text in front of the body and the body in reverse, without the idle parts at its end. -/
def frontAndBody (p : Path) : List Char × List Char :=
  let cs := p.text.toList
  (cs.take (frontLength cs), dropIdle (cs.drop (frontLength cs)).reverse)

/-- The path without its last component and without the slashes before it. The root and the empty
path have no parent. -/
def parent? (p : Path) : Option Path :=
  match p.frontAndBody with
  | (front, []) => if front = ['.'] then some ⟨""⟩ else none
  | (front, c :: rest) =>
    some ⟨String.ofList (front ++ (dropIdle (lastPart (c :: rest)).2).reverse)⟩

/-- The name of the last component, when it is a name. -/
def fileName? (p : Path) : Option (List Char) :=
  match p.frontAndBody with
  | (_, []) => none
  | (_, c :: rest) =>
    let name := (lastPart (c :: rest)).1.reverse
    if name = ['.', '.'] then none else some name

/-- What follows the last dot of the file name, provided something stands before that dot. -/
def extension? (p : Path) : Option String := do
  let name ← p.fileName?
  let rev := name.reverse
  match rev.dropWhile (fun c => c != '.') with
  | _ :: _ :: _ => some (String.ofList (rev.takeWhile fun c => c != '.').reverse)
  | _ => none

/-- Whether the extension is `jar`, the letters `A` to `Z` counting as their lower-case forms. -/
def isJar (p : Path) : Bool :=
  match p.extension? with
  | some ext => ext.toList.map Char.toLower == ['j', 'a', 'r']
  | none => false

theorem dropIdle_length (rev : List Char) : (dropIdle rev).length ≤ rev.length := by
  fun_induction dropIdle rev with
  | case1 => simp
  | case2 c rest _ ih =>
    have := lastPart_snd_length c rest
    simp only [List.length_cons]
    omega
  | case3 => simp

/-- A parent's text is shorter. -/
theorem parent?_shorter {p q : Path} (h : p.parent? = some q) :
    q.text.toList.length < p.text.toList.length := by
  unfold parent? frontAndBody at h
  have hdrop := dropIdle_length (p.text.toList.drop (frontLength p.text.toList)).reverse
  split at h
  · rename_i front hbody
    split at h
    · rename_i hfront
      simp only [Prod.mk.injEq] at hbody
      cases h
      rw [hfront] at hbody
      have : (p.text.toList.take (frontLength p.text.toList)).length = 1 := by rw [hbody.1]; rfl
      simp only [List.length_take] at this
      simp only [String.toList_empty, List.length_nil]
      omega
    · cases h
  · rename_i front c rest hbody
    simp only [Prod.mk.injEq] at hbody
    cases h
    rw [hbody.2] at hdrop
    have h1 := lastPart_snd_length c rest
    have h2 := dropIdle_length (lastPart (c :: rest)).2
    have h3 : front.length ≤ frontLength p.text.toList := by
      rw [← hbody.1, List.length_take]; omega
    simp only [List.length_reverse, List.length_drop, List.length_cons] at hdrop
    simp only [String.toList_ofList, List.length_append, List.length_reverse]
    omega

end Path

end BytecodeLint
