import ApiScaffold.Blueprint.Draft
import ApiScaffold.Blueprint.Enumerating
import ApiScaffold.Blueprint.Limits

/-!
Shapes of schemas. An object with fields and an enumeration need a declaration, so where they occur
inside of another schema they become components of their own; everything else stays in place.
-/

namespace ApiScaffold.Blueprint

open OpenApi (Schema OrRef Extensions Specification AdditionalProperties Table)

/-- Whether a schema is a declaration of its own or stands inside of one. -/
inductive Placement where
  | declared
  | nested
deriving DecidableEq, Repr

def textKind : Option String → PrimitiveKind
  | some "byte" => .bytes
  | some "binary" => .bytes
  | some "date" => .time
  | some "date-time" => .time
  | some "uuid" => .uuid
  | some "email" => .email
  | some "iso4217-currency-code" => .currencyCode
  | some "iso3166-alpha-2" => .countryA2
  | some "iso3166-alpha-3" => .countryA3
  | some "json" => .rawJson
  | _ => .string

/-- The shape of a schema that holds no other; without a type it is any value. -/
def plainShape (schema : Schema) (location : String) : Except Diagnostic Shape :=
  let ofKind (kind : PrimitiveKind) : Shape := .primitive { kind, format := schema.format }
  match schema.primaryType with
  | some "boolean" => .ok (ofKind .bool)
  | some "integer" => .ok (ofKind .int)
  | some "number" => .ok (ofKind .float)
  | some "string" => .ok (ofKind (textKind schema.format))
  | none => .ok Shape.anything
  | some other => .error ((Problem.unsupportedType other).report location)

/-- A reference to a schema of the document becomes the name of its component. -/
def referenceShape (specification : Specification) (reference location : String) :
    Except Diagnostic Shape :=
  match Text.dropStart? OpenApi.schemasPlace reference with
  | some key =>
    if (specification.components.schemas.lookup key).isSome then
      .ok (.named (Identifier.exported key))
    else
      .error ((Problem.missingSchema reference).report location)
  | none =>
    .error ((Problem.foreignReference reference (OpenApi.schemasPlace ++ "<name>")).report location)

/-- Registers what has to be declared, if it stands inside of another schema. -/
def place (placement : Placement) (hint location : String) (schema : Schema) (shape : Shape) :
    Drafting Shape :=
  match placement with
  | .declared => return shape
  | .nested => do
    let extensions ← liftExcept (Extensions.read schema.extensions location)
    Drafting.register {
      name := hint
      shape
      description := schema.description
      origin := .inside location
      skipValidation := extensions.skipValidation }
    return .named hint

def onlyReference? (schema : Schema) : Option String :=
  match schema.allOf, schema.oneOf, schema.anyOf with
  | [.reference target], [], [] => some target
  | _, _, _ => none

/-- Names that are listed as required, in order and once each. -/
def sortedNames (names : List String) : List String :=
  (names.foldl (fun (known : Registry Unit) name => known.insert name ()) []).keys

/-- Listed names without a property are reported and left out. -/
def requiredNames (schema : Schema) (location : String) : Drafting (List String) := do
  for name in schema.required do
    if (schema.properties.lookup name).isNone then
      Drafting.warn s!"{location}: required property `{name}` is not declared, ignoring"
  return sortedNames (schema.required.filter fun name => (schema.properties.lookup name).isSome)

/-- Whether null may stand for a schema or for what a reference names. -/
def isNullable (specification : Specification) : OrRef Schema → Bool
  | .object schema => schema.isNullable
  | .reference target => ((specification.schema? target).bind OrRef.object?).any Schema.isNullable

/-- What a property asks for besides the shape of its value. -/
structure FieldRules where
  extensions : Extensions := {}
  constraints : Constraints := {}
  description : Option String := none

def fieldRules (item : OrRef Schema) (location : String) : Except Diagnostic FieldRules :=
  match item with
  | .reference _ => .ok {}
  | .object schema => do
    let extensions ← Extensions.read schema.extensions location
    let constraints ← constraintsOf schema location
    return { extensions, constraints, description := schema.description }

def optionalityOf (extensions : Extensions) (required nullable : Bool) : Optionality :=
  if extensions.pointer then .pointer
  else if required then .required
  else if nullable then .optionalNullable
  else .optional

def fieldOf (specification : Specification) (jsonName : String) (item : OrRef Schema)
    (required : Bool) (location : String) (shape : Shape) : Drafting (Field Shape) := do
  let rules ← liftExcept (fieldRules item location)
  let extensions := rules.extensions
  if extensions.regex.isSome || extensions.trimmable then
    Drafting.checkTextLater shape location
  return {
    jsonName, shape
    optionality := optionalityOf extensions required (isNullable specification item)
    omitEmpty := extensions.omitEmpty
    regex := extensions.regex
    constraints := rules.constraints
    trimmable := extensions.trimmable
    skipValidation := extensions.skipValidation
    description := rules.description }

mutual
/-- The shape of a schema; `hint` is the name of the component it may become. -/
def shapeOf (specification : Specification) (placement : Placement) (hint location : String) :
    Schema → Drafting Shape
  | schema@{ properties, items, additionalProperties, allOf, oneOf, anyOf, .. } => do
    let extensions ← liftExcept (Extensions.read schema.extensions location)
    match extensions.goType with
    | some target =>
      return .custom {
        target, parser := extensions.stringParse, validate := !extensions.skipValidation }
    | none =>
      if extensions.stringParse.isSome then Drafting.fail .parserWithoutType location
      else if schema.isComposition then
        match onlyReference? schema with
        | some target => liftExcept (referenceShape specification target s!"{location}/allOf/0")
        | none =>
          if !schema.allOf.isEmpty then
            return .allOf (← memberShapes specification s!"{hint}AllOf" s!"{location}/allOf" 0 allOf)
          else if !schema.oneOf.isEmpty then
            return .oneOf (← memberShapes specification s!"{hint}OneOf" s!"{location}/oneOf" 0 oneOf)
          else
            return .anyOf (← memberShapes specification s!"{hint}AnyOf" s!"{location}/anyOf" 0 anyOf)
      else if schema.isEnum then
        let enumeration ← liftExcept (enumerationOf schema location)
        place placement hint location schema (.enum enumeration)
      else if schema.isArray then
        let element ← elementShape specification s!"{hint}Item" s!"{location}/items" items
        return .array element schema.minItems schema.maxItems
      else if schema.isObject || schema.additionalProperties.isSome || extensions.mapType.isSome then
        let fields ← propertyFields specification schema.required hint location [] properties
        let required ← requiredNames schema location
        let additional ←
          match extensions.mapType with
          | some name => pure (.goMapType name)
          | none =>
            additionalShape specification s!"{hint}Value" s!"{location}/additionalProperties"
              additionalProperties
        let object := Shape.object fields required additional
        if fields.isEmpty && placement = .nested then return object
        else place placement hint location schema object
      else
        liftExcept (plainShape schema location)
termination_by structural schema => schema

def nestedShape (specification : Specification) (hint location : String) :
    OrRef Schema → Drafting Shape
  | .reference target => liftExcept (referenceShape specification target location)
  | .object schema => shapeOf specification .nested hint location schema
termination_by structural item => item

def elementShape (specification : Specification) (hint location : String) :
    Option (OrRef Schema) → Drafting Shape
  | none => return Shape.anything
  | some item => nestedShape specification hint location item
termination_by structural item => item

def additionalShape (specification : Specification) (hint location : String) :
    Option (AdditionalProperties Schema) → Drafting (Additional Shape)
  | none => return .forbidden
  | some (.allowed flag) => return if flag then .any else .forbidden
  | some (.schema item) => return .typed (← nestedShape specification hint location item)
termination_by structural additional => additional

/-- The shapes of the members of a composition, the first of which has the given index. -/
def memberShapes (specification : Specification) (hint location : String) (index : Nat) :
    List (OrRef Schema) → Drafting (List Shape)
  | [] => return []
  | item :: rest => do
    let shape ← nestedShape specification s!"{hint}{index}" s!"{location}/{index}" item
    return shape :: (← memberShapes specification hint location (index + 1) rest)
termination_by structural items => items

/-- The fields of properties. `known` holds the identifiers so far, each with its property. -/
def propertyFields (specification : Specification) (required : List String)
    (hint location : String) (known : List (String × String)) :
    Table (OrRef Schema) → Drafting (List (String × Field Shape))
  | [] => return []
  | (property, item) :: rest => do
    let fieldLocation := s!"{location}/properties/{property}"
    let identifier := Identifier.exported property
    if identifier.isEmpty then Drafting.fail (.nameless .property) fieldLocation
    match known.lookup identifier with
    | some first =>
      throw ((Diagnostic.nameCollision .lower s!"{hint}.{identifier}" first property).located location)
    | none =>
      let shape ← nestedShape specification s!"{hint}{identifier}" fieldLocation item
      let field ←
        fieldOf specification property item (required.contains property) fieldLocation shape
      let others ←
        propertyFields specification required hint location ((identifier, property) :: known) rest
      return (property, field) :: others
termination_by structural properties => properties
end

def nestedField (specification : Specification) (jsonName : String) (item : OrRef Schema)
    (required : Bool) (hint location : String) : Drafting (Field Shape) := do
  let shape ← nestedShape specification hint location item
  fieldOf specification jsonName item required location shape

def declareSchema (specification : Specification) (key : String) (item : OrRef Schema) :
    Drafting Unit := do
  let location := OpenApi.schemasPlace ++ key
  let name := Identifier.exported key
  if name.isEmpty then Drafting.fail (.nameless .schema) location
  match item with
  | .reference target =>
    let shape ← liftExcept (referenceShape specification target location)
    Drafting.register {
      name, shape, description := none, origin := .declared key, skipValidation := false }
  | .object schema =>
    let extensions ← liftExcept (Extensions.read schema.extensions location)
    let shape ← shapeOf specification .declared name location schema
    Drafting.register {
      name, shape
      description := schema.description
      origin := .declared key
      skipValidation := extensions.skipValidation }

def sortByKey {α : Type} (table : Table α) : Table α :=
  table.mergeSort fun left right => left.1 ≤ right.1

/-- Registers the components of all declared schemas, in the order of their keys. -/
def declareSchemas (specification : Specification) : Drafting Unit := do
  for (key, item) in sortByKey specification.components.schemas do
    declareSchema specification key item

end ApiScaffold.Blueprint
