import ApiScaffold.Blueprint.Shaping

/-!
Values that are read from a single text: parameters and the headers of responses. Parameters of a
path hold for all of its operations; an operation may state them anew.
-/

namespace ApiScaffold.Blueprint

open OpenApi (Schema OrRef Extensions Specification)

/-- Shapes whose values are written as one text. -/
def isScalar : Shape → Bool
  | .primitive primitive => primitive.kind != .rawJson
  | .enum _ => true
  | .custom type => type.parser.isSome || type.target.package.isNone
  | _ => false

def isCustom : Shape → Bool
  | .custom _ => true
  | _ => false

/-- Whether a resolved shape may be read from a text. -/
def readsFromText (listsAllowed : Bool) (resolved : Shape) : Drafting Bool :=
  match resolved with
  | .array element _ _ =>
    if listsAllowed then return isScalar (← Drafting.resolve element) else return false
  | other => return isScalar other

def textField (name : String) : Field Shape :=
  { jsonName := name, shape := .ofKind .string, optionality := .required }

def scalarField (specification : Specification) (name : String) (schema : Option (OrRef Schema))
    (required : Bool) (hint location : String) (listsAllowed : Bool) : Drafting (Field Shape) := do
  let schemaLocation := s!"{location}/schema"
  let field ←
    match schema with
    | some item => nestedField specification name item required hint schemaLocation
    | none => pure (textField name)
  let resolved ← Drafting.resolve field.shape
  if !(← readsFromText listsAllowed resolved) then
    Drafting.fail (.notScalar name listsAllowed (isCustom resolved)) schemaLocation
  return { field with optionality := if required then .required else .optional }

/-- The place of a parameter; cookies are not read. -/
def placeOf : OpenApi.ParameterPlace → Option Place
  | .path => some .path
  | .query => some .query
  | .header => some .header
  | .cookie => none

/-- A parameter and where it is stated. -/
structure StatedParameter where
  parameter : OpenApi.Parameter
  location : String

/-- States a parameter. One of the same name and place is replaced where it stands. -/
def restate (stated : StatedParameter) : List StatedParameter → List StatedParameter
  | [] => [stated]
  | known :: rest =>
    if known.parameter.name = stated.parameter.name && known.parameter.place = stated.parameter.place
    then stated :: rest
    else known :: restate stated rest

/-- Parameters with the places they stand at, the first of which has the given index. -/
def locate (location : String) (items : List (OrRef OpenApi.Parameter)) :
    List (OrRef OpenApi.Parameter × String) :=
  items.zipIdx.map fun (item, index) => (item, s!"{location}/parameters/{index}")

/-- All parameters of an operation, those of its path first. -/
def statedParameters (specification : Specification) (known : List StatedParameter) :
    List (OrRef OpenApi.Parameter × String) → Except Diagnostic (List StatedParameter)
  | [] => .ok known
  | (item, location) :: rest =>
    match specification.parameter? item with
    | none => .error ((Problem.unresolved .parameter).report location)
    | some parameter =>
      statedParameters specification (restate ⟨parameter, location⟩ known) rest

/-- What the extensions of a parameter add to the field of its schema. -/
def extendField (field : Field Shape) (parameter : OpenApi.Parameter) (extensions : Extensions) :
    Field Shape :=
  { field with
    regex := extensions.regex.or field.regex
    trimmable := field.trimmable || extensions.trimmable
    skipValidation := field.skipValidation || extensions.skipValidation
    description := field.description.or parameter.description }

/-- The parameter of a statement at a place other than cookies. -/
def parameterAt (specification : Specification) (operation identifier : String) (place : Place)
    (stated : StatedParameter) : Drafting Parameter := do
  let parameter := stated.parameter
  let plain ← scalarField specification parameter.name parameter.schema
    (parameter.required || place == .path) s!"{operation}{place.title}{identifier}" stated.location
    (place == .query)
  let extensions ← liftExcept (Extensions.read parameter.extensions stated.location)
  let field := extendField plain parameter extensions
  if field.regex.isSome || field.trimmable then
    Drafting.checkTextLater field.shape stated.location
  return { name := parameter.name, place, field }

def Place.describe (place : Place) : String := s!"{place.title} parameter"

/-- Reads statements in order; identifiers are distinct at each place. -/
def collectParameters (specification : Specification) (operation : String)
    (known : List (Place × String)) : List StatedParameter → Drafting (List Parameter)
  | [] => return []
  | stated :: rest => do
    let parameter := stated.parameter
    match placeOf parameter.place with
    | none =>
      Drafting.warn
        s!"{operation}: skipping cookie parameter `{parameter.name}`, cookies are not parsed"
      collectParameters specification operation known rest
    | some place =>
      let identifier := Identifier.exported parameter.name
      if identifier.isEmpty then Drafting.fail (.nameless .parameter) stated.location
      if known.contains (place, identifier) then
        throw ((Diagnostic.nameCollision .lower s!"{operation}{place.title}{identifier}"
          place.describe parameter.name).located stated.location)
      let lowered ← parameterAt specification operation identifier place stated
      let others ← collectParameters specification operation ((place, identifier) :: known) rest
      return lowered :: others

def parametersOf (specification : Specification) (name : String) (item : OpenApi.PathItem)
    (operation : OpenApi.Operation) (pathLocation location : String) : Drafting (List Parameter) := do
  let located := locate pathLocation item.parameters ++ locate location operation.parameters
  let stated ← liftExcept (statedParameters specification [] located)
  collectParameters specification name [] stated

end ApiScaffold.Blueprint
