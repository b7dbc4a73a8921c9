import ApiScaffold.Server.Conversion
import ApiScaffold.Server.Security
import ApiScaffold.Server.Validator

/-!
Requests: for every operation the structs of its parameters, and a type for each content type that
its body can have.
-/

namespace ApiScaffold.Server

open Blueprint Go Source

structure RequestVariant where
  typeName : String
  /-- The method of the service that handles it. -/
  method : String
  content : Option BodyContent
deriving Repr

namespace RequestVariant

def parser (variant : RequestVariant) : String := "parse" ++ variant.typeName

/-- With several contents the names of their types tell the variants apart. -/
def ofOperation (operation : Operation) : List RequestVariant :=
  match operation.bodyContents with
  | first :: second :: rest =>
    (first :: second :: rest).map fun content =>
      { typeName := s!"{operation.name}{content.tag}Request"
        method := operation.name ++ content.tag
        content := some content }
  | contents =>
    [{ typeName := s!"{operation.name}Request"
       method := operation.name
       content := contents.head? }]

end RequestVariant

namespace Request

def owner (operation : Operation) : String := s!"operation {operation.name}"

def placeStruct (operation : Operation) (place : Place) : String :=
  s!"{operation.name}Request{place.title}"

def memberName (parameter : Parameter) : String := Identifier.exported parameter.name

def localName (parameter : Parameter) (ending : String) : String :=
  variableName (parameter.place.title ++ memberName parameter ++ ending)

def patternName (operation : Operation) (parameter : Parameter) (ending : String) : String :=
  variableName (operation.name ++ parameter.place.title ++ memberName parameter ++ ending)

def parameterType (outline : Outline) (parameter : Parameter) : TypeExpression :=
  scalarFieldType (outline.resolve parameter.field.shape) parameter.field

def validatesPlace (outline : Outline) (operation : Operation) (place : Place) : Bool :=
  (operation.parametersIn place).any fun parameter => outline.fieldValidates parameter.field

def parameterCheck (outline : Outline) (operation : Operation) (type : String)
    (parameter : Parameter) : Code :=
  Validator.check (receiverName type) (memberName parameter)
    ((outline.rules parameter.field).map (Rule.code (patternName operation parameter "Pattern")))

def placeValidator (outline : Outline) (operation : Operation) (place : Place) : Part :=
  let type := placeStruct operation place
  let validated := (operation.parametersIn place).filter fun parameter =>
    outline.fieldValidates parameter.field
  if validated.isEmpty then {}
  else
    { mentions := Validator.mentions
      declarations := [
        Validator.method type (validated.map (parameterCheck outline operation type))] }

/-- The struct of the parameters at a place, if there are any. -/
def placePart (outline : Outline) (operation : Operation) (place : Place) : Part :=
  match operation.parametersIn place with
  | [] => {}
  | parameters =>
    let type := placeStruct operation place
    let members := parameters.map fun parameter =>
      (⟨memberName parameter, [(parameterType outline parameter).code]⟩ : Entry)
    let struct : Part :=
      { declares := [(type, owner operation)]
        mentions := parameters.flatMap fun parameter => (parameterType outline parameter).code
        declarations := [{ form := .struct type "" [{ members }] }] }
    struct ++ placeValidator outline operation place

def patternVariables (outline : Outline) (operation : Operation) (parameter : Parameter) :
    List PatternVariable :=
  let regex := parameter.field.regex.map fun pattern =>
    (⟨patternName operation parameter "Regex", pattern⟩ : PatternVariable)
  let pattern := parameter.field.constraints.pattern.map fun pattern =>
    (⟨patternName operation parameter "Pattern", pattern⟩ : PatternVariable)
  regex.toList ++
    if (outline.rules parameter.field).contains .pattern then pattern.toList else []

def patternPart (outline : Outline) (operation : Operation) : Part :=
  PatternVariable.part (owner operation)
    (operation.parameters.flatMap (patternVariables outline operation))

def places (operation : Operation) : List Place :=
  Place.all.filter fun place => !(operation.parametersIn place).isEmpty

/-- The members of a request: its parameters, its body, and the outcome of parsing it. -/
def members (operation : Operation) (variant : RequestVariant) : List Entry :=
  ((places operation).map fun place =>
    ⟨place.title, [[.own (placeStruct operation place)]]⟩) ++
  (variant.content.toList.map fun content => ⟨"Body", [(typeOf content.shape).code]⟩) ++
  [⟨"ProcessingResult", [[Hooks.result]]⟩]

end Request

end ApiScaffold.Server
