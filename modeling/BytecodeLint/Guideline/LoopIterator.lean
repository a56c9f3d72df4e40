import BytecodeLint.Guideline.Basic

/-!
# Avoid iterators over lists with random access

A call that asks an array list, a list or a vector for its iterator is reported.
-/

namespace BytecodeLint.Guideline.LoopIterator

/-- The types whose elements are better reached by index. -/
def randomAccessTypes : List String :=
  ["java/util/ArrayList", "java/util/List", "java/util/Vector"]

/-- Whether a call asks a list with random access for its iterator. -/
def asksForIterator (target : MemberRef) : Bool :=
  target.name == "iterator" && target.descriptor == "()Ljava/util/Iterator;" &&
    randomAccessTypes.contains target.owner

def message? (c : ClassDecl) (m : MethodDecl) (i : Instruction) : Option String :=
  match i.operation with
  | .invoke _ target =>
    if asksForIterator target then
      some ("Iterator over " ++ target.owner ++ " created in " ++ c.location m ++
        "; use an indexed loop")
    else none
  | _ => none

def findings (c : ClassDecl) : List Finding := c.findings (message? c)

def guideline : Guideline where
  id := "ENHANCED_FOR_LOOP_ITERATOR"
  title := "Avoid Enhanced For Loop on Lists"
  description :=
    "The enhanced for loop allocates an iterator, use a counted loop for ArrayList and Vector!"
  check _ c := .ok (findings c)

end BytecodeLint.Guideline.LoopIterator
