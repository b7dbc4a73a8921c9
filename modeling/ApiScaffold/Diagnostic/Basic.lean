import ApiScaffold.OpenApi.Mismatch

/-!
Diagnostics. The first one ends a run; it says what is wrong, in which phase, at which place of the
document, and what caused it.
-/

namespace ApiScaffold

inductive DiagnosticKind where
  | loadFailed
  | schemaInvalid
  | extensionTypeMismatch
  | nameCollision
  | writeFailed
deriving DecidableEq, Repr

namespace DiagnosticKind

def all : List DiagnosticKind :=
  [loadFailed, schemaInvalid, extensionTypeMismatch, nameCollision, writeFailed]

def name : DiagnosticKind → String
  | loadFailed => "LoadFailed"
  | schemaInvalid => "SchemaInvalid"
  | extensionTypeMismatch => "ExtensionTypeMismatch"
  | nameCollision => "NameCollision"
  | writeFailed => "WriteFailed"

end DiagnosticKind

inductive Phase where
  | load
  | lower
  | emit
  | write
deriving DecidableEq, Repr

namespace Phase

def all : List Phase := [load, lower, emit, write]

def name : Phase → String
  | load => "load"
  | lower => "lower"
  | emit => "emit"
  | write => "write"

end Phase

inductive SystemError where
  | noEntry
  | alreadyExists
  | notDirectory
  | isDirectory
deriving DecidableEq, Repr

namespace SystemError

def message : SystemError → String
  | noEntry => "No such file or directory (os error 2)"
  | alreadyExists => "File exists (os error 17)"
  | notDirectory => "Not a directory (os error 20)"
  | isDirectory => "Is a directory (os error 21)"

end SystemError

/-- The error below a diagnostic. Of a text that is no document, of an expression and of a transfer
only the kind is told. -/
inductive Cause where
  | mismatch (reason : OpenApi.Mismatch)
  | system (error : SystemError)
  | document
  | pattern
  | transfer
  | text (message : String)

namespace Cause

def message : Cause → String
  | mismatch reason => reason.message
  | system error => error.message
  | document => "<yaml>"
  | pattern => "<regex>"
  | transfer => "<http>"
  | text message => message

end Cause

structure Diagnostic where
  kind : DiagnosticKind
  phase : Phase
  message : String
  location : Option String := none
  operation : Option String := none
  received : Option String := none
  expected : Option String := none
  context : List (String × String) := []
  hints : List String := []
  source : Option Cause := none

namespace Diagnostic

def loadFailed (location message : String) : Diagnostic :=
  { kind := .loadFailed, phase := .load, message, location := some location }

def schemaInvalid (location message : String) : Diagnostic :=
  { kind := .schemaInvalid, phase := .lower, message, location := some location }

def extensionMismatch (location extension received expected : String) : Diagnostic :=
  { kind := .extensionTypeMismatch
    phase := .lower
    message := s!"vendor extension `{extension}` has an unexpected value"
    location := some location
    received := some received
    expected := some expected
    context := [("extension", extension)] }

def nameCollision (phase : Phase) (name first second : String) : Diagnostic :=
  { kind := .nameCollision
    phase
    message := s!"identifier `{name}` is produced by more than one source"
    context := [("first", first), ("second", second)]
    hints := ["rename one of the sources so that their normalised names differ"] }

def writeFailed (path : String) (cause : Cause) : Diagnostic :=
  { kind := .writeFailed
    phase := .write
    message := s!"failed to write artifact: {cause.message}"
    location := some path
    source := some cause }

def located (location : String) (diagnostic : Diagnostic) : Diagnostic :=
  { diagnostic with location := some location }

def inPhase (phase : Phase) (diagnostic : Diagnostic) : Diagnostic := { diagnostic with phase }

def forOperation (operation : String) (diagnostic : Diagnostic) : Diagnostic :=
  { diagnostic with operation := some operation }

def withReceived (received : String) (diagnostic : Diagnostic) : Diagnostic :=
  { diagnostic with received := some received }

def withExpected (expected : String) (diagnostic : Diagnostic) : Diagnostic :=
  { diagnostic with expected := some expected }

def withContext (key value : String) (diagnostic : Diagnostic) : Diagnostic :=
  { diagnostic with context := diagnostic.context ++ [(key, value)] }

def withHint (hint : String) (diagnostic : Diagnostic) : Diagnostic :=
  { diagnostic with hints := diagnostic.hints ++ [hint] }

def withSource (source : Cause) (diagnostic : Diagnostic) : Diagnostic :=
  { diagnostic with source := some source }

/-- Names the operation, unless one is named already. -/
def attributeTo (operation : String) (diagnostic : Diagnostic) : Diagnostic :=
  match diagnostic.operation with
  | some _ => diagnostic
  | none => diagnostic.forOperation operation

def display (diagnostic : Diagnostic) : String := s!"{diagnostic.kind.name}: {diagnostic.message}"

def optionalLine (label : String) : Option String → List String
  | some value => [s!"  {label}: {value}"]
  | none => []

def renderedLines (diagnostic : Diagnostic) : List String :=
  [s!"error[{diagnostic.kind.name}]: {diagnostic.message}", s!"  phase: {diagnostic.phase.name}"] ++
    optionalLine "operation" diagnostic.operation ++
    optionalLine "location" diagnostic.location ++
    (diagnostic.context.map fun (key, value) => s!"  {key}: {value}") ++
    optionalLine "received" diagnostic.received ++
    optionalLine "expected" diagnostic.expected ++
    optionalLine "caused by" (diagnostic.source.map Cause.message) ++
    (diagnostic.hints.map fun hint => s!"  hint: {hint}")

/-- The full text, every line of it ended. -/
def render (diagnostic : Diagnostic) : String :=
  String.join (diagnostic.renderedLines.map (· ++ "\n"))

end Diagnostic

end ApiScaffold
