import ApiScaffold.Blueprint.Contents
import ApiScaffold.Blueprint.Security
import ApiScaffold.OpenApi.Document

/-!
The program of a document: its schemas first, then its security schemes, then its operations.
-/

namespace ApiScaffold.Blueprint

open OpenApi (Extensions Specification Document Method PathItem Table)

def pathLocation (path : String) : String :=
  "#/paths/" ++ Text.replaceChar '/' "~1" (Text.replaceChar '~' "~0" path)

def tagOf (operation : OpenApi.Operation) : String :=
  match operation.tags with
  | first :: _ =>
    let tag := Identifier.exported first
    if tag.isEmpty then "Default" else tag
  | [] => "Default"

/-- An operation as it stands in the document. -/
structure StatedOperation where
  path : String
  item : PathItem
  method : Method
  operation : OpenApi.Operation

namespace StatedOperation

def name (stated : StatedOperation) : String :=
  Identifier.ofOperation stated.path stated.method.name

def source (stated : StatedOperation) : String :=
  s!"{Text.upper stated.method.name} {stated.path}"

end StatedOperation

def operationOf (specification : Specification) (schemes : List SecurityScheme)
    (stated : StatedOperation) : Drafting Operation := do
  let name := stated.name
  let operation := stated.operation
  let pathLocation := pathLocation stated.path
  let location := s!"{pathLocation}/{stated.method.name}"
  let extensions ← liftExcept (Extensions.read operation.extensions location)
  let parameters ← parametersOf specification name stated.item operation pathLocation location
  let requestBody ← requestBodyOf specification name operation location
  let responses ← responsesOf specification name operation location
  let security ← liftExcept (securityOf specification schemes operation location)
  return {
    name
    method := stated.method
    path := stated.path
    tag := tagOf operation
    summary := operation.summary
    description := operation.description
    parameters, requestBody, responses, security
    skipSecurityCheck := extensions.skipSecurityCheck }

/-- The operations of a path. `known` holds the names so far and the sources they come from. -/
def collectOperations (specification : Specification) (schemes : List SecurityScheme) :
    List (String × String) → List StatedOperation →
    Drafting (List (String × String) × List Operation)
  | known, [] => return (known, [])
  | known, stated :: rest => do
    let name := stated.name
    match known.lookup name with
    | some first =>
      throw ((Diagnostic.nameCollision .lower name first stated.source).forOperation name)
    | none =>
      let operation ← Drafting.attributing name (operationOf specification schemes stated)
      let (known, others) ←
        collectOperations specification schemes ((name, stated.source) :: known) rest
      return (known, operation :: others)

/-- The operations of all paths. A path item that refers to another document is not followed. -/
def collectPaths (specification : Specification) (schemes : List SecurityScheme) :
    List (String × String) → Table PathItem → Drafting (List Operation)
  | _, [] => return []
  | known, (path, item) :: rest => do
    if let some reference := item.reference then
      Drafting.warn
        s!"path item `{path}` references `{reference}`, external path items are not followed"
    let stated := item.operations.map fun (method, operation) => { path, item, method, operation }
    let (known, operations) ← collectOperations specification schemes known stated
    return operations ++ (← collectPaths specification schemes known rest)

/-- Paths are ordered first, the names of methods second. -/
def Operation.precedes (left right : Operation) : Bool :=
  left.path < right.path || (left.path == right.path && left.method.name ≤ right.method.name)

def operationsOf (specification : Specification) (schemes : List SecurityScheme) :
    Drafting (List Operation) := do
  let operations ← collectPaths specification schemes [] specification.paths
  return operations.mergeSort Operation.precedes

def programOf (specification : Specification) (text : String) (config : Config) :
    Drafting Program := do
  declareSchemas specification
  let securitySchemes ← liftExcept (securitySchemesOf specification)
  let operations ← operationsOf specification securitySchemes
  Drafting.checkTexts
  return {
    title := specification.info.title
    components := (← get).components
    operations, securitySchemes
    document := text
    config }

/-- The program of a document, and the warnings given on the way. -/
def lower (document : Document) (config : Config) : Except Diagnostic Program × List String :=
  let (outcome, draft) :=
    (programOf document.specification document.canonicalText config).run.run {}
  (outcome, draft.warnings)

/-- A closed program of a document, and the warnings. -/
def compile (document : Document) (config : Config) : Except Diagnostic Program × List String :=
  let (outcome, warnings) := lower document config
  match outcome with
  | .ok program =>
    match program.checkClosure with
    | .ok _ => (.ok program, warnings)
    | .error diagnostic => (.error diagnostic, warnings)
  | .error diagnostic => (.error diagnostic, warnings)

end ApiScaffold.Blueprint
