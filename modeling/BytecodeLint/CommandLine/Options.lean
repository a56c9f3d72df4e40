import BytecodeLint.Path

/-!
# Options

Arguments are long options, with their value behind an equals sign or as the next argument. Options
may come in any order. All but the class path may be given once only, and the input has to be given.

The first problem counts, with one delay: the value of an option that stands in an argument of its
own is looked at when the next option comes or the arguments end.
-/

namespace BytecodeLint.CommandLine

/-- What the arguments ask for. -/
structure Options where
  input : Path
  classpath : List Path
  sourceRoot : Path
  sourceExtension : String
  markers : Path
  output : Option Path
  isQuiet : Bool
  isTimed : Bool
  endpoint : Option String
  deriving DecidableEq, Repr

inductive OptionName where
  | input
  | classpath
  | sourceRoot
  | sourceExtension
  | markers
  | output
  | quiet
  | timing
  | otel
  | help
  | version
  deriving DecidableEq, Repr

namespace OptionName

/-- All options, in the order in which they are explained. -/
def all : List OptionName :=
  [.input, .classpath, .sourceRoot, .sourceExtension, .markers, .output, .quiet, .timing, .otel,
    .help, .version]

/-- The text behind the two hyphens. -/
def word : OptionName → String
  | .input => "input"
  | .classpath => "classpath"
  | .sourceRoot => "source-root"
  | .sourceExtension => "source-extension"
  | .markers => "markers"
  | .output => "output"
  | .quiet => "quiet"
  | .timing => "timing"
  | .otel => "otel"
  | .help => "help"
  | .version => "version"

/-- What a value stands for; an option without one is a switch. -/
def valueName? : OptionName → Option String
  | .input | .classpath | .sourceRoot | .markers | .output => some "PATH"
  | .sourceExtension => some "EXT"
  | .otel => some "URL"
  | .quiet | .timing | .help | .version => none

/-- Whether the value is a path; a path is never empty. -/
def isPath (o : OptionName) : Bool := o.valueName? == some "PATH"

def isRepeatable (o : OptionName) : Bool := o == .classpath

/-- The option with its value as it is shown. -/
def usage (o : OptionName) : String :=
  match o.valueName? with
  | some name => "--" ++ o.word ++ " <" ++ name ++ ">"
  | none => "--" ++ o.word

def find? (word : String) : Option OptionName := all.find? fun o => o.word == word

def ofLetter? : Char → Option OptionName
  | 'h' => some .help
  | 'V' => some .version
  | _ => none

def purpose : OptionName → String
  | .input => "Class file, directory or JAR to analyze"
  | .classpath => "Additional class files, directories or JARs used as context"
  | .sourceRoot => "Root directory that source files are resolved against"
  | .sourceExtension => "Extension of source files"
  | .markers => "JSON file holding markers from the last scan"
  | .output => "File for the report; standard output by default"
  | .quiet => "Tell less"
  | .timing => "Tell how long the run took"
  | .otel => "OTLP HTTP endpoint for trace export"
  | .help => "Print help"
  | .version => "Print version"

end OptionName

/-- Why arguments are not run. -/
inductive Refusal where
  | unexpected (argument : String)
  | noValue (option : OptionName)
  | repeated (option : OptionName)
  | unneededValue (option : OptionName) (value : String)
  | noInput
  /-- The arguments ask for help. -/
  | help
  /-- The arguments ask for the version. -/
  | version
  deriving DecidableEq, Repr

/-- The first line with which arguments are refused. -/
def Refusal.message : Refusal → String
  | .unexpected argument => "unexpected argument '" ++ argument ++ "' found"
  | .noValue option => "a value is required for '" ++ option.usage ++ "' but none was supplied"
  | .repeated option => "the argument '" ++ option.usage ++ "' cannot be used multiple times"
  | .unneededValue option value =>
    "unexpected value '" ++ value ++ "' for '" ++ option.usage ++ "' found; no more were expected"
  | .noInput => "the following required arguments were not provided:"
  | .help => "help"
  | .version => "version"

/-- The arguments read so far: the options settled, the option whose value is awaited or not yet
looked at, and whether two lone hyphens have ended the options. -/
structure State where
  settled : List (OptionName × String) := []
  pending : Option (OptionName × Option String) := none
  isEnded : Bool := false
  deriving DecidableEq, Repr

namespace State

/-- Settles an option with its value; the value of a switch is empty. -/
def settle (s : State) (o : OptionName) (value : String) : Except Refusal State :=
  if s.settled.any fun entry => entry.1 == o && !o.isRepeatable then .error (.repeated o)
  else if o.isPath ∧ value = "" then .error (.noValue o)
  else .ok { s with settled := s.settled ++ [(o, value)] }

def settlePending (s : State) : Except Refusal State :=
  match s.pending with
  | none => .ok s
  | some (o, none) => .error (.noValue o)
  | some (o, some value) => { s with pending := none }.settle o value

def switch (s : State) (o : OptionName) : Except Refusal State := do
  let s ← s.settlePending
  match o with
  | .help => .error .help
  | .version => .error .version
  | o => s.settle o ""

/-- Reads a long option with the value attached to it. -/
def long (s : State) (word : String) (value : Option String) : Except Refusal State :=
  match OptionName.find? word with
  | none => .error (.unexpected ("--" ++ word))
  | some o =>
    match o.valueName?, value with
    | some _, some value => do (← s.settlePending).settle o value
    | some _, none => do
      let s ← s.settlePending
      .ok { s with pending := some (o, none) }
    | none, some value => .error (.unneededValue o value)
    | none, none => s.switch o

/-- Reads the first of some letters behind a single hyphen. -/
def short (s : State) (letter : Char) : Except Refusal State :=
  match OptionName.ofLetter? letter with
  | some o => s.switch o
  | none => .error (.unexpected ("-" ++ String.singleton letter))

def plain (s : State) (argument : String) : Except Refusal State :=
  match s.pending with
  | some (o, none) => .ok { s with pending := some (o, some argument) }
  | _ => .error (.unexpected argument)

def argument (s : State) (text : String) : Except Refusal State :=
  if s.isEnded then .error (.unexpected text)
  else
    match text.toList with
    | ['-', '-'] => .ok { s with isEnded := true }
    | '-' :: '-' :: cs =>
      match Text.splitOnce '=' cs with
      | some (word, value) => s.long (String.ofList word) (some (String.ofList value))
      | none => s.long (String.ofList cs) none
    | '-' :: letter :: _ => s.short letter
    | _ => s.plain text

def values (s : State) (o : OptionName) : List String :=
  (s.settled.filter fun entry => entry.1 == o).map Prod.snd

def value? (s : State) (o : OptionName) : Option String := (s.values o).head?

def has (s : State) (o : OptionName) : Bool := (s.value? o).isSome

end State

def parse (arguments : List String) : Except Refusal Options := do
  let s ← arguments.foldlM State.argument {}
  let s ← s.settlePending
  match s.value? .input with
  | none => .error .noInput
  | some input => .ok {
      input := ⟨input⟩
      classpath := (s.values .classpath).map Path.mk
      sourceRoot := ⟨(s.value? .sourceRoot).getD "src"⟩
      sourceExtension := (s.value? .sourceExtension).getD ".java"
      markers := ⟨(s.value? .markers).getD ".perfguide/markers.json"⟩
      output := (s.value? .output).map Path.mk
      isQuiet := s.has .quiet
      isTimed := s.has .timing
      endpoint := s.value? .otel }

end BytecodeLint.CommandLine
