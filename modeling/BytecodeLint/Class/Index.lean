import BytecodeLint.Class.Basic
import BytecodeLint.Failure
import BytecodeLint.Unseen

/-!
# Class sets

Questions that span classes assume one definition per name, so a set with a repeated name is
refused. Super types are found by walking from name to name; the walk passes over names it has
seen, so cycles and diamonds are harmless, and it does not go on from a name that has no class.

* `overridesInherited` asks whether a reachable class declares the same method.
* `hasUnresolvedSuperTypes` asks whether the walk meets a name without a class. The root class
  `java/lang/Object` never counts as one and is not walked through.
-/

namespace BytecodeLint

/-- Repeated class names in ascending order, each with the number of its occurrences. -/
structure DuplicateClasses where
  names : List (String × Nat)
  deriving DecidableEq, Repr

/-- Neighbouring equal names as one name with its number of occurrences. -/
def runLengths : List String → List (String × Nat)
  | [] => []
  | name :: rest =>
    match runLengths rest with
    | (next, count) :: later =>
      if name = next then (name, count + 1) :: later else (name, 1) :: (next, count) :: later
    | [] => [(name, 1)]

/-- The names that occur more than once, in ascending order. -/
def repeatedNames (names : List String) : List (String × Nat) :=
  (runLengths (names.mergeSort fun a b => a ≤ b)).filter fun (_, count) => 1 < count

def DuplicateClasses.explain (d : DuplicateClasses) : Explanation :=
  let listed := d.names.map fun (name, count) => name ++ " (x" ++ toString count ++ ")"
  .ofMessage ("duplicate classes found: " ++ String.intercalate ", " listed)

/-- A class set in which every name has one definition. -/
structure ClassIndex where
  classes : List ClassDecl
  deriving DecidableEq, Repr

namespace ClassIndex

/-- Indexes a class list, unless a name is repeated. -/
def build (classes : List ClassDecl) : Except DuplicateClasses ClassIndex :=
  match repeatedNames (classes.map ClassDecl.name) with
  | [] => .ok ⟨classes⟩
  | names => .error ⟨names⟩

def get? (index : ClassIndex) (name : String) : Option ClassDecl :=
  index.classes.find? fun c => c.name == name

def size (index : ClassIndex) : Nat := index.classes.length

/-- Whether a name is that of an enum. -/
def isEnum (index : ClassIndex) (name : String) : Bool :=
  index.classes.any fun c => c.access.isEnum && c.name == name

def enumCount (index : ClassIndex) : Nat :=
  (index.classes.filter fun c => c.access.isEnum).length

def unseenClasses (index : ClassIndex) (seen : List String) : Nat :=
  unseen ClassDecl.name index.classes seen

theorem unseenClasses_cons_le (index : ClassIndex) (seen : List String) (name : String) :
    index.unseenClasses (name :: seen) ≤ index.unseenClasses seen :=
  unseen_cons_le ClassDecl.name index.classes seen name

theorem unseenClasses_cons_lt {index : ClassIndex} {seen : List String} {name : String}
    {c : ClassDecl} (hget : index.get? name = some c) (hnew : seen.contains name = false) :
    index.unseenClasses (name :: seen) < index.unseenClasses seen := by
  have hname : c.name = name := by simpa using List.find?_some hget
  subst hname
  exact unseen_cons_lt ClassDecl.name (List.mem_of_find?_eq_some hget) hnew

/-- Walks from the pending names to their super types and so on. Names in `seen` and names that
`skip` picks are passed over; the result lists all names met, the last one first. -/
def walk (index : ClassIndex) (skip : String → Bool) (pending seen : List String) : List String :=
  match pending with
  | [] => seen
  | name :: rest =>
    if _hseen : seen.contains name = true then walk index skip rest seen
    else if skip name then walk index skip rest seen
    else
      match _hget : index.get? name with
      | none => walk index skip rest (name :: seen)
      | some c => walk index skip (c.superTypes ++ rest) (name :: seen)
  termination_by (index.unseenClasses seen, pending.length)
  decreasing_by
    · simp [Prod.lex_def]
    · simp [Prod.lex_def]
    · have := index.unseenClasses_cons_le seen name
      simp only [Prod.lex_def, List.length_cons]
      omega
    · have := unseenClasses_cons_lt _hget (by simpa using _hseen)
      simp only [Prod.lex_def]
      omega

/-- All names met on the way up from a class. -/
def superTypesMet (index : ClassIndex) (skip : String → Bool) (c : ClassDecl) : List String :=
  index.walk skip c.superTypes []

/-- The class every other class descends from. -/
def rootClass : String := "java/lang/Object"

/-- Whether an indexed class above `c` declares a method with the name and descriptor of `m`. -/
def overridesInherited (index : ClassIndex) (c : ClassDecl) (m : MethodDecl) : Bool :=
  (index.superTypesMet (fun _ => false) c).any fun name =>
    match index.get? name with
    | some parent => (parent.method? m.name m.descriptor).isSome
    | none => false

/-- Whether a class above `c` is missing from the index. -/
def hasUnresolvedSuperTypes (index : ClassIndex) (c : ClassDecl) : Bool :=
  (index.superTypesMet (fun name => name == rootClass) c).any fun name =>
    (index.get? name).isNone

/-- Whether `m` may override or implement an inherited method, as far as the class set can tell. -/
def mayOverride (index : ClassIndex) (c : ClassDecl) (m : MethodDecl) : Bool :=
  index.overridesInherited c m || index.hasUnresolvedSuperTypes c

end ClassIndex

end BytecodeLint
