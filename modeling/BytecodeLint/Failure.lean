/-!
# Failures

A failure is told as a chain of messages, outermost first. The chain may end in a fault of the
surroundings (the operating system, an archive, a class file, a JSON text) that is kept as data
rather than as prose, so that a caller can still tell the kinds apart.

Each part of the library has its own inductive type of causes; `Explanation` is what all of them
are turned into when they have to be shown.
-/

namespace BytecodeLint

/-- What the operating system, or a stream read to its end, refuses. -/
inductive IoFault where
  | notFound
  | isADirectory
  | notADirectory
  | alreadyExists
  | invalidData
  | invalidInput
  | unexpectedEnd
  | nameTooLong
  deriving DecidableEq, Repr

def IoFault.message : IoFault → String
  | .notFound => "no such file or directory"
  | .isADirectory => "is a directory"
  | .notADirectory => "not a directory"
  | .alreadyExists => "file exists"
  | .invalidData => "invalid data"
  | .invalidInput => "invalid input"
  | .unexpectedEnd => "unexpected end of data"
  | .nameTooLong => "file name too long"

/-- Why a JSON text is refused: its grammar is broken, it ends too early, or it is well formed
but has the wrong shape at the place `path`. -/
inductive JsonFault where
  | malformed
  | truncated
  | shape (path : String)
  deriving DecidableEq, Repr

def JsonFault.message : JsonFault → String
  | .malformed => "malformed JSON"
  | .truncated => "unexpected end of JSON"
  | .shape path => "unexpected value at " ++ path

/-- The fault of the surroundings at which a chain of messages ends. -/
inductive RootCause where
  | io (fault : IoFault)
  | archive
  | classFile
  | json (fault : JsonFault)
  deriving DecidableEq, Repr

def RootCause.message : RootCause → String
  | .io fault => fault.message
  | .archive => "not a readable archive"
  | .classFile => "malformed class file"
  | .json fault => fault.message

/-- A failure as it is shown: messages from the outermost to the innermost, then the root cause
when there is one. -/
structure Explanation where
  messages : List String
  root : Option RootCause := none
  deriving DecidableEq, Repr

namespace Explanation

def ofMessage (text : String) : Explanation := ⟨[text], none⟩

def ofRoot (cause : RootCause) : Explanation := ⟨[], some cause⟩

/-- The same failure seen from further out. -/
def within (context : String) (e : Explanation) : Explanation :=
  { e with messages := context :: e.messages }

/-- All lines of the chain, outermost first, the root cause in words. -/
def lines (e : Explanation) : List String :=
  e.messages ++ (e.root.map RootCause.message).toList

end Explanation

end BytecodeLint
