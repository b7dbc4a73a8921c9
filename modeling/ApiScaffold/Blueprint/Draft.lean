import ApiScaffold.Blueprint.Program

/-!
The state in which a program is drawn up. Components are registered as they are met, each name once;
what can be checked only when all components are known is put off; warnings are kept even if the run
fails later.
-/

namespace ApiScaffold.Blueprint

structure Draft where
  components : Registry Component := []
  /-- Shapes that must come down to texts, and where they stand. -/
  textChecks : List (Shape × String) := []
  warnings : List String := []

abbrev Drafting := ExceptT Diagnostic (StateM Draft)

namespace Drafting

def warn (message : String) : Drafting Unit :=
  modify fun draft => { draft with warnings := draft.warnings ++ [message] }

def fail {α : Type} (problem : Problem) (location : String) : Drafting α :=
  throw (problem.report location)

/-- Registers a component under its name, which must be new. -/
def register (component : Component) : Drafting Unit := do
  match (← get).components.find? component.name with
  | some existing =>
    throw (Diagnostic.nameCollision .lower component.name existing.origin.display
      component.origin.display)
  | none =>
    modify fun draft =>
      { draft with components := draft.components.insert component.name component }

/-- What a shape comes down to, as far as components are known. -/
def resolve (shape : Shape) : Drafting Shape := return resolveIn (← get).components shape

/-- Puts off the check that a shape comes down to a text. -/
def checkTextLater (shape : Shape) (location : String) : Drafting Unit :=
  modify fun draft => { draft with textChecks := draft.textChecks ++ [(shape, location)] }

def checkTexts : Drafting Unit := do
  for (shape, location) in (← get).textChecks do
    if (← resolve shape).kind? != some .string then fail .notText location

/-- Adds the name of an operation to a diagnostic that has none. -/
def attributing {α : Type} (operation : String) (step : Drafting α) : Drafting α :=
  tryCatch step fun diagnostic => throw (diagnostic.attributeTo operation)

end Drafting

end ApiScaffold.Blueprint
