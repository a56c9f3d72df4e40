import BytecodeLint.Failure
import BytecodeLint.Path

/-!
# File trees

A file tree maps locations to files and directories. A path is resolved part by part, and every part
asks for a directory to stand in: empty parts and `.` stay, `..` goes up, a name goes down. So a
slash at the end of a path asks for a directory too. The root is a directory and its own parent.

* `lookup` finds what stands at a path, `read` and `readText` its content.
* `write`, `makeDirectory`, `createDirectories` and `removeFile` change the tree at one location;
  they fail as the operating system does and then change nothing.
* `list` lists what stands in a directory.
-/

namespace BytecodeLint

/-- A place in a file tree: the names from the root down. -/
abbrev Location := List String

inductive Entry where
  | directory
  | file (content : ByteArray)

/-- Files and directories by location, and the directory in which relative paths start. -/
structure FileTree where
  entries : List (Location × Entry)
  workingDirectory : Location
  distinct : (entries.map Prod.fst).Nodup

namespace FileTree

/-- What stands at a location. The root is always a directory. -/
def get? (t : FileTree) (loc : Location) : Option Entry :=
  if loc = [] then some .directory
  else (t.entries.find? fun e => e.1 == loc).map Prod.snd

def holdsDirectory (t : FileTree) (loc : Location) : Bool :=
  match t.get? loc with
  | some .directory => true
  | _ => false

def others (t : FileTree) (loc : Location) : List (Location × Entry) :=
  t.entries.filter fun e => e.1 != loc

theorem nodup_filter (t : FileTree) (p : Location × Entry → Bool) :
    ((t.entries.filter p).map Prod.fst).Nodup :=
  (List.filter_sublist.map Prod.fst).nodup t.distinct

/-- Puts an entry at a location, in place of what stands there. -/
def put (t : FileTree) (loc : Location) (e : Entry) : FileTree where
  entries := (loc, e) :: t.others loc
  workingDirectory := t.workingDirectory
  distinct := by
    rw [List.map_cons, List.nodup_cons]
    refine ⟨fun h => ?_, t.nodup_filter _⟩
    obtain ⟨e', he, rfl⟩ := List.mem_map.1 h
    simp [others] at he

/-- Keeps the entries that `p` picks. -/
def keep (t : FileTree) (p : Location → Bool) : FileTree where
  entries := t.entries.filter fun e => p e.1
  workingDirectory := t.workingDirectory
  distinct := t.nodup_filter _

/-- Removes what stands at a location, and nothing below it. -/
def eraseAt (t : FileTree) (loc : Location) : FileTree := t.keep fun l => l != loc

/-- Removes what stands at a location and below it. -/
def eraseBelow (t : FileTree) (loc : Location) : FileTree := t.keep fun l => !loc.isPrefixOf l

/-- A tree that holds nothing but its working directory and the directories above. -/
def emptyAt (workingDirectory : Location) : FileTree :=
  (List.range workingDirectory.length).foldl
    (fun t n => t.put (workingDirectory.take (n + 1)) .directory)
    ⟨[], workingDirectory, List.nodup_nil⟩

theorem find?_filter_ne {entries : List (Location × Entry)} {loc other : Location}
    (h : other ≠ loc) :
    ((entries.filter fun e => e.1 != loc).find? fun e => e.1 == other) =
      entries.find? fun e => e.1 == other := by
  induction entries with
  | nil => rfl
  | cons e rest ih =>
    by_cases he : e.1 = loc
    · have hne : (e.1 == other) = false := by simpa [he] using fun h' => h h'.symm
      rw [List.filter_cons, List.find?_cons, hne]
      simp [he, ih]
    · rw [List.filter_cons]
      simp only [bne_iff_ne, ne_eq, he, not_false_eq_true, ↓reduceIte]
      rw [List.find?_cons, List.find?_cons, ih]

/-- What was put at a location stands there; nothing else moves. -/
theorem get?_put (t : FileTree) (loc : Location) (e : Entry) (other : Location)
    (hroot : loc ≠ []) :
    (t.put loc e).get? other = if other = loc then some e else t.get? other := by
  unfold get? put others
  by_cases h : other = loc
  · subst h
    simp [hroot]
  · have hne : (loc == other) = false := by simpa using fun h' => h h'.symm
    rw [List.find?_cons]
    simp only [hne, if_neg h, find?_filter_ne h]

/-- Longest path text, in bytes, that the operating system takes. -/
def pathLimit : Nat := 4095

/-- Longest name, in bytes. -/
def nameLimit : Nat := 255

/-- Refuses texts that are no path at all. -/
def checkText (p : Path) : Except IoFault Unit :=
  if p.text.toList.contains (Char.ofNat 0) then .error .invalidInput
  else if p.text = "" then .error .notFound
  else if pathLimit < p.text.utf8ByteSize then .error .nameTooLong
  else .ok ()

def needDirectory (t : FileTree) (loc : Location) : Except IoFault Unit :=
  match t.get? loc with
  | some .directory => .ok ()
  | some (.file _) => .error .notADirectory
  | none => .error .notFound

/-- Follows one part of a path from a directory. -/
def follow (t : FileTree) (loc : Location) (part : String) : Except IoFault Location :=
  match t.needDirectory loc with
  | .error fault => .error fault
  | .ok () =>
    if part = "" ∨ part = "." then .ok loc
    else if part = ".." then .ok loc.dropLast
    else if nameLimit < part.utf8ByteSize then .error .nameTooLong
    else .ok (loc ++ [part])

def followAll (t : FileTree) (loc : Location) : List String → Except IoFault Location
  | [] => .ok loc
  | part :: rest =>
    match t.follow loc part with
    | .error fault => .error fault
    | .ok next => followAll t next rest

def start (t : FileTree) (p : Path) : Location :=
  if p.isAbsolute then [] else t.workingDirectory

/-- The location a path leads to, whether or not something stands there. -/
def locate (t : FileTree) (p : Path) : Except IoFault Location :=
  match checkText p with
  | .error fault => .error fault
  | .ok () => t.followAll (t.start p) p.parts

/-- What stands at a path. -/
def lookup (t : FileTree) (p : Path) : Except IoFault Entry :=
  match t.locate p with
  | .error fault => .error fault
  | .ok loc =>
    match t.get? loc with
    | some e => .ok e
    | none => .error .notFound

def hasEntry (t : FileTree) (p : Path) : Bool :=
  match t.lookup p with
  | .ok _ => true
  | .error _ => false

theorem length_le_size_utf8Encode (cs : List Char) : cs.length ≤ cs.utf8Encode.size := by
  induction cs with
  | nil => simp
  | cons c cs ih =>
    have := c.utf8Size_pos
    rw [List.utf8Encode_cons, ByteArray.size_append, List.utf8Encode_singleton]
    simp only [List.length_cons, List.size_toByteArray, String.length_utf8EncodeChar]
    omega

/-- Only a text within the limit names an entry. -/
theorem length_le_of_hasEntry {t : FileTree} {p : Path} (h : t.hasEntry p = true) :
    p.text.toList.length ≤ pathLimit := by
  have hsize : p.text.toList.length ≤ p.text.utf8ByteSize := by
    rw [← String.size_toByteArray, ← String.utf8Encode_toList]
    exact length_le_size_utf8Encode p.text.toList
  have hcheck : checkText p = .ok () := by
    match hc : checkText p with
    | .ok () => rfl
    | .error fault => simp [hasEntry, lookup, locate, hc] at h
  unfold checkText at hcheck
  split at hcheck
  · cases hcheck
  · split at hcheck
    · cases hcheck
    · split at hcheck
      · cases hcheck
      · omega

def isDirectory (t : FileTree) (p : Path) : Bool :=
  match t.lookup p with
  | .ok .directory => true
  | _ => false

theorem hasEntry_of_isDirectory {t : FileTree} {p : Path} (h : t.isDirectory p = true) :
    t.hasEntry p = true := by
  unfold isDirectory at h
  split at h
  · simp [hasEntry, *]
  · cases h

def isFile (t : FileTree) (p : Path) : Bool :=
  match t.lookup p with
  | .ok (.file _) => true
  | _ => false

def read (t : FileTree) (p : Path) : Except IoFault ByteArray :=
  match t.lookup p with
  | .ok (.file content) => .ok content
  | .ok .directory => .error .isADirectory
  | .error fault => .error fault

/-- The content of the file at a path as a text in UTF-8. -/
def readText (t : FileTree) (p : Path) : Except IoFault String :=
  match t.read p with
  | .error fault => .error fault
  | .ok content =>
    match String.fromUTF8? content with
    | some text => .ok text
    | none => .error .invalidData

/-- Where a path puts something new: the directory, the name in it (none for the root, `.` and
`..`), and whether slashes follow the name. -/
structure Target where
  parent : Location
  name : Option String
  hasSlash : Bool
  deriving DecidableEq, Repr

/-- The location of a name in the directory of a target. -/
def Target.location (target : Target) (name : String) : Except IoFault Location :=
  if nameLimit < name.utf8ByteSize then .error .nameTooLong else .ok (target.parent ++ [name])

/-- The target of a path. The directory around it has to exist. -/
def target (t : FileTree) (p : Path) : Except IoFault Target := do
  checkText p
  let hasSlash := p.parts.getLast? == some ""
  match p.parts.reverse.dropWhile fun part => part == "" with
  | [] => .ok ⟨[], none, hasSlash⟩
  | last :: before =>
    let parent ← t.followAll (t.start p) before.reverse
    t.needDirectory parent
    if last = "." ∨ last = ".." then .ok ⟨parent, none, hasSlash⟩
    else .ok ⟨parent, some last, hasSlash⟩

/-- Writes a file, in place of one that stands there. Slashes behind the name are refused before the
name is looked at. -/
def write (t : FileTree) (p : Path) (content : ByteArray) : Except IoFault FileTree := do
  let target ← t.target p
  match target.name with
  | none => .error .isADirectory
  | some name =>
    if target.hasSlash then .error .isADirectory
    else do
      let loc ← target.location name
      if t.holdsDirectory loc then .error .isADirectory
      else .ok (t.put loc (.file content))

def makeDirectory (t : FileTree) (p : Path) : Except IoFault FileTree := do
  let target ← t.target p
  match target.name with
  | none => .error .alreadyExists
  | some name => do
    let loc ← target.location name
    if (t.get? loc).isSome then .error .alreadyExists
    else .ok (t.put loc .directory)

/-- Makes a directory at a path, unless there is one. -/
def ensureDirectory (t : FileTree) (p : Path) : Except IoFault FileTree :=
  match t.makeDirectory p with
  | .ok t => .ok t
  | .error fault => if t.isDirectory p then .ok t else .error fault

/-- Makes a directory at a path and the missing ones above it. When this fails, directories made on
the way stay. -/
def createDirectories (t : FileTree) (p : Path) : Except IoFault Unit × FileTree :=
  if p.text = "" then (.ok (), t)
  else
    match t.ensureDirectory p with
    | .ok t => (.ok (), t)
    | .error .notFound =>
      match _h : p.parent? with
      | none => (.error .notFound, t)
      | some parent =>
        match createDirectories t parent with
        | (.error fault, t) => (.error fault, t)
        | (.ok (), t) =>
          match t.ensureDirectory p with
          | .ok t => (.ok (), t)
          | .error fault => (.error fault, t)
    | .error fault => (.error fault, t)
  termination_by p.text.toList.length
  decreasing_by exact Path.parent?_shorter _h

def removeFile (t : FileTree) (p : Path) : Except IoFault FileTree := do
  let target ← t.target p
  match target.name with
  | none => .error .isADirectory
  | some name => do
    let loc ← target.location name
    match t.get? loc with
    | none => .error .notFound
    | some .directory => .error .isADirectory
    | some (.file _) => if target.hasSlash then .error .notADirectory else .ok (t.eraseAt loc)

/-- Removes the file or whole directory at a path, if there is one. -/
def remove? (t : FileTree) (p : Path) : Option FileTree :=
  match t.locate p with
  | .error _ => none
  | .ok loc => if (t.get? loc).isSome then some (t.eraseBelow loc) else none

/-- Writes a file and makes the directories around it. -/
def install (t : FileTree) (p : Path) (content : ByteArray) : Except IoFault FileTree :=
  (((p.parent?.map t.createDirectories).getD (.ok (), t)).2).write p content

/-- Whether a text is a name that can stand in a directory. -/
def isName (text : String) : Bool :=
  text != "" && text != "." && text != ".." && !text.toList.contains '/'

/-- The name of a location in the directory at `above`, when it is in there. -/
def nameIn? : Location → Location → Option String
  | [], [name] => if isName name then some name else none
  | here :: above, next :: loc => if here = next then nameIn? above loc else none
  | _, _ => none

/-- The names in the directory at a location, in the order in which the tree has them. -/
def namesIn (t : FileTree) (loc : Location) : List String :=
  t.entries.filterMap fun e => nameIn? loc e.1

/-- The paths of what stands in the directory at a path. -/
def list (t : FileTree) (p : Path) : Except IoFault (List Path) :=
  match t.locate p with
  | .error fault => .error fault
  | .ok loc =>
    match t.needDirectory loc with
    | .error fault => .error fault
    | .ok () => .ok ((t.namesIn loc).map fun name => p.join ⟨name⟩)

theorem isName_iff {text : String} :
    isName text = true ↔ text ∉ ["", ".", ".."] ∧ '/' ∉ text.toList := by
  simp [isName, and_assoc]

theorem nameIn?_eq_some_iff {above loc : Location} {name : String} :
    nameIn? above loc = some name ↔ loc = above ++ [name] ∧ isName name = true := by
  induction above generalizing loc with
  | nil =>
    rcases loc with _ | ⟨only, _ | ⟨_, _⟩⟩
    · simp [nameIn?]
    · simp only [nameIn?, List.nil_append, List.cons.injEq, and_true]
      grind
    · simp [nameIn?]
  | cons here above ih =>
    cases loc with
    | nil => simp [nameIn?]
    | cons next loc =>
      by_cases h : here = next
      · simp [nameIn?, h, ih]
      · simp [nameIn?, h, Ne.symm h]

theorem isName_of_mem_namesIn {t : FileTree} {loc : Location} {name : String}
    (h : name ∈ t.namesIn loc) : isName name = true := by
  obtain ⟨e, -, he⟩ := List.mem_filterMap.1 h
  exact (nameIn?_eq_some_iff.1 he).2

/-- A name is put behind the path of its directory. -/
theorem isAbsolute_of_isName {name : String} (h : isName name = true) :
    Path.isAbsolute ⟨name⟩ = false := by
  obtain ⟨-, hslash⟩ := isName_iff.1 h
  cases hname : name.toList with
  | nil => simp [Path.isAbsolute, hname]
  | cons c rest =>
    have hc : c ≠ '/' := fun hc => hslash (by simp [hname, hc])
    simp [Path.isAbsolute, hname, hc]

/-- What stands in a directory has a longer path. -/
theorem length_lt_of_mem_list {t : FileTree} {p q : Path} {found : List Path}
    (h : t.list p = .ok found) (hq : q ∈ found) :
    p.text.toList.length < q.text.toList.length := by
  unfold list at h
  split at h
  · cases h
  · split at h
    · cases h
    · cases h
      obtain ⟨name, hmem, rfl⟩ := List.mem_map.1 hq
      have hname := isName_of_mem_namesIn hmem
      have hpos : name.toList.length ≠ 0 := by
        intro hempty
        simp [isName, String.toList_eq_nil_iff.1 (List.length_eq_zero_iff.1 hempty)] at hname
      obtain ⟨front, ⟨gap, rfl⟩, hjoin⟩ := p.exists_join
      rw [hjoin ⟨name⟩ (isAbsolute_of_isName hname)]
      simp only [List.length_append]
      omega

/-- How much longer a path may become. -/
def room (p : Path) : Nat := pathLimit - p.text.toList.length

theorem room_lt {t : FileTree} {p q : Path} {found : List Path} (h : t.list p = .ok found)
    (hq : q ∈ found) (hdir : t.isDirectory q = true) : room q < room p := by
  have hlonger := length_lt_of_mem_list h hq
  have hlimit := length_le_of_hasEntry (hasEntry_of_isDirectory hdir)
  unfold room
  omega

/-- The path as seen from the root; parts that mean nothing are kept. -/
def absolute (t : FileTree) (p : Path) : Path :=
  Path.join ⟨"/" ++ String.intercalate "/" t.workingDirectory⟩ p

end FileTree

end BytecodeLint
