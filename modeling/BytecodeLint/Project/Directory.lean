import BytecodeLint.FileTree
import BytecodeLint.Marker.Store
import BytecodeLint.Project.Basic

/-!
# A project in a file tree

A project with a source root and a marker store, both given as paths. Markers are read when the
project is opened, dropped together with the store when they are cleared, and written when they are
persisted.
-/

namespace BytecodeLint

/-- Why a project cannot be opened, cleared or persisted. -/
inductive DirectoryFault where
  | unreadable (store : Path) (fault : IoFault)
  | corrupt (store : Path) (fault : JsonFault)
  | version (store : Path) (found : Nat)
  | notRemoved (store : Path) (fault : IoFault)
  | noDirectory (directory : Path) (fault : IoFault)
  | notWritten (store : Path) (fault : IoFault)
  deriving DecidableEq, Repr

def DirectoryFault.explain : DirectoryFault → Explanation
  | .unreadable store fault =>
    (Explanation.ofRoot (.io fault)).within ("failed to read marker store " ++ store.text)
  | .corrupt store fault =>
    (Explanation.ofRoot (.json fault)).within ("failed to parse marker store " ++ store.text)
  | .version store found =>
    .ofMessage ("unsupported marker store version " ++ toString found ++ " in " ++ store.text)
  | .notRemoved store fault =>
    (Explanation.ofRoot (.io fault)).within ("failed to remove marker store " ++ store.text)
  | .noDirectory directory fault =>
    (Explanation.ofRoot (.io fault)).within ("failed to create " ++ directory.text)
  | .notWritten store fault =>
    (Explanation.ofRoot (.io fault)).within ("failed to write marker store " ++ store.text)

/-- An open project, without the file tree around it. -/
structure DirectoryProject where
  root : Path
  extension : String
  store : Path
  markers : List Marker
  deriving DecidableEq, Repr

namespace DirectoryProject

/-- An extension with its dot; the empty extension has none. -/
def dotted (extension : String) : String :=
  if extension = "" then extension
  else if extension.toList.head? = some '.' then extension
  else "." ++ extension

/-- The markers a store keeps; a store that does not exist keeps none. -/
def load (t : FileTree) (store : Path) : Except DirectoryFault (List Marker) :=
  if t.hasEntry store then
    match t.readText store with
    | .error fault => .error (.unreadable store fault)
    | .ok text =>
      match MarkerStore.read text with
      | .ok markers => .ok markers
      | .error (.json fault) => .error (.corrupt store fault)
      | .error (.version found) => .error (.version store found)
  else .ok []

/-- Opens a project with the markers its store keeps. -/
def openAt (t : FileTree) (root : Path) (extension : String) (store : Path) :
    Except DirectoryFault DirectoryProject := do
  let markers ← load t store
  .ok { root, extension := dotted extension, store, markers }

/-- The path of a source file of the project. -/
def resourcePath (p : DirectoryProject) (resource : Resource) : Path := p.root.join ⟨resource.path⟩

def findSource (t : FileTree) (p : DirectoryProject) (path : String) : Option Resource :=
  if path = "" ∨ t.isDirectory p.root = false then none
  else if t.isFile (p.root.join ⟨path⟩) then some ⟨path⟩
  else none

/-- Removes the store if it exists, and forgets the markers. -/
def clear (t : FileTree) (p : DirectoryProject) :
    Except DirectoryFault Unit × FileTree × DirectoryProject :=
  if t.hasEntry p.store then
    match t.removeFile p.store with
    | .error fault => (.error (.notRemoved p.store fault), t, p)
    | .ok t => (.ok (), t, { p with markers := [] })
  else (.ok (), t, { p with markers := [] })

/-- Makes the directories around the store. -/
def makeRoom (t : FileTree) (store : Path) : Except DirectoryFault Unit × FileTree :=
  match store.parent? with
  | none => (.ok (), t)
  | some parent =>
    if parent.text = "" then (.ok (), t)
    else
      match t.createDirectories parent with
      | (.ok (), t) => (.ok (), t)
      | (.error fault, t) => (.error (.noDirectory parent fault), t)

def flush (t : FileTree) (p : DirectoryProject) : Except DirectoryFault Unit × FileTree :=
  match makeRoom t p.store with
  | (.error fault, t) => (.error fault, t)
  | (.ok (), t) =>
    match t.write p.store (MarkerStore.write p.markers).toUTF8 with
    | .error fault => (.error (.notWritten p.store fault), t)
    | .ok t => (.ok (), t)

def project : Project (FileTree × DirectoryProject) DirectoryFault where
  extension s := s.2.extension
  findSource s path := findSource s.1 s.2 path
  markers s := s.2.markers
  clear s :=
    match clear s.1 s.2 with
    | (result, t, p) => (result, t, p)
  add m s := (.ok (), s.1, { s.2 with markers := s.2.markers ++ [m] })
  flush s :=
    match flush s.1 s.2 with
    | (result, t) => (result, t, s.2)

end DirectoryProject

end BytecodeLint
