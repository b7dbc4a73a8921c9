import ApiScaffold.Blueprint.Draft
import ApiScaffold.Identifier.Exported

/-!
The security schemes of a document, and the requirements of its operations.
-/

namespace ApiScaffold.Blueprint

open OpenApi (OrRef Specification Table)

def schemeKind (scheme : OpenApi.SecurityScheme) (location : String) : Except Diagnostic SchemeKind :=
  match scheme with
  | .http scheme _ _ =>
    let word := Text.lower scheme
    if word = "bearer" then .ok .httpBearer
    else if word = "basic" then .ok .httpBasic
    else .error ((Problem.unsupportedHttpScheme word).report location)
  | .apiKey name place _ => .ok (.apiKey place name)
  | .oauth2 _ => .ok .oauth2
  | .openIdConnect _ _ => .ok .oauth2

/-- Collects schemes; `known` holds those so far, whose identifiers must differ. -/
def collectSchemes (specification : Specification) (known : List SecurityScheme) :
    Table (OrRef OpenApi.SecurityScheme) → Except Diagnostic (List SecurityScheme)
  | [] => .ok known
  | (name, item) :: rest => do
    let location := OpenApi.securitySchemesPlace ++ name
    match specification.securityScheme? item with
    | none => throw ((Problem.unresolved .securityScheme).report location)
    | some scheme =>
      let identifier := Identifier.exported name
      match known.find? fun other => Identifier.exported other.name == identifier with
      | some first => throw (Diagnostic.nameCollision .lower identifier first.name name)
      | none =>
        let kind ← schemeKind scheme location
        collectSchemes specification (known ++ [{ name, kind }]) rest

def securitySchemesOf (specification : Specification) : Except Diagnostic (List SecurityScheme) := do
  let schemes ← collectSchemes specification [] specification.components.securitySchemes
  return schemes.mergeSort fun left right => left.name ≤ right.name

/-- The names of requirements, all of which must be those of schemes. -/
def collectRequirements (schemes : List SecurityScheme) (location : String) :
    Nat → List OpenApi.SecurityRequirement → Except Diagnostic (List (List String))
  | _, [] => .ok []
  | index, requirement :: rest => do
    let names := requirement.map (·.1)
    match names.find? fun name => !(schemes.any (·.name == name)) with
    | some name =>
      throw ((Problem.undeclaredScheme name).report s!"{location}/security/{index}")
    | none => return names :: (← collectRequirements schemes location (index + 1) rest)

/-- The requirements of an operation, which are those of the document if it states none. -/
def securityOf (specification : Specification) (schemes : List SecurityScheme)
    (operation : OpenApi.Operation) (location : String) : Except Diagnostic (List (List String)) :=
  match operation.security.or specification.security with
  | some requirements => collectRequirements schemes location 0 requirements
  | none => .ok []

end ApiScaffold.Blueprint
