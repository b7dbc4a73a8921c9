import ApiScaffold.Proofs.OperationPlan
import ApiScaffold.Proofs.ShapeOutline

/-!
Where schemas stand in a document. A schema stands under a name: that of its key, one made of the
operation that it serves, or one made of the name of the schema around it. It is the name of the
component that the schema becomes, if it becomes one. Only what lowering looks at counts: nothing
stands inside of a schema with a Go type, and of a composition only the members of one kind.
-/

namespace ApiScaffold.Blueprint

open OpenApi (Schema OrRef Extensions Specification MediaType)

def statedExtensions (schema : Schema) : Option Extensions :=
  (Extensions.read schema.extensions "").toOption

theorem stated_of_read {schema : Schema} {location : String} {extensions : Extensions}
    (read : Extensions.read schema.extensions location = .ok extensions) :
    statedExtensions schema = some extensions := by
  rw [statedExtensions, Extensions.read_anywhere schema.extensions "" location, read]
  rfl

def statedForm (schema : Schema) : Option SchemaForm :=
  (statedExtensions schema).map fun extensions => SchemaForm.of extensions schema

theorem stated_form_of {schema : Schema} {extensions : Extensions} {form : SchemaForm}
    (stated : statedExtensions schema = some extensions)
    (same : SchemaForm.of extensions schema = form) : statedForm schema = some form := by
  rw [statedForm, stated, Option.map_some, same]

theorem stated_form_of_read {schema : Schema} {location : String} {extensions : Extensions}
    (read : Extensions.read schema.extensions location = .ok extensions) :
    statedForm schema = some (SchemaForm.of extensions schema) :=
  stated_form_of (stated_of_read read) rfl

def composedMembers (schema : Schema) : String × List (OrRef Schema) :=
  if !schema.allOf.isEmpty then ("AllOf", schema.allOf)
  else if !schema.oneOf.isEmpty then ("OneOf", schema.oneOf)
  else ("AnyOf", schema.anyOf)

namespace StatedOperation

def location (stated : StatedOperation) : String :=
  s!"{pathLocation stated.path}/{stated.method.name}"

def parameters (specification : Specification) (stated : StatedOperation) :
    List (Place × StatedParameter) :=
  let located := locate (pathLocation stated.path) stated.item.parameters ++
    locate stated.location stated.operation.parameters
  ((statedParameters specification [] located).toOption.map readStatements).getD []

structure Answers (specification : Specification) (stated : StatedOperation) (status : Status)
    (response : OpenApi.Response) : Prop where
  used : stated ∈ statedOperations specification.paths
  listed : ∃ entry ∈ stated.operation.responses, Status.parse? entry.1 = some status ∧
    specification.response? entry.2 = some response

structure Takes (specification : Specification) (stated : StatedOperation)
    (body : OpenApi.RequestBody) : Prop where
  used : stated ∈ statedOperations specification.paths
  given : stated.operation.requestBody.bind specification.requestBody? = some body

end StatedOperation

inductive Stands (specification : Specification) : String → OrRef Schema → Prop where
  | declared {key : String} {item : OrRef Schema}
    (listed : (key, item) ∈ specification.components.schemas) :
    Stands specification (Identifier.exported key) item
  | parameter {stated : StatedOperation} {place : Place} {statement : StatedParameter}
    {item : OrRef Schema} (used : stated ∈ statedOperations specification.paths)
    (listed : (place, statement) ∈ stated.parameters specification)
    (given : statement.parameter.schema = some item) :
    Stands specification
      s!"{stated.name}{place.title}{Identifier.exported statement.parameter.name}" item
  | requestContent {stated : StatedOperation} {body : OpenApi.RequestBody}
    {content : String × MediaType} {item : OrRef Schema}
    (takes : stated.Takes specification body) (listed : content ∈ body.content)
    (given : content.2.schema = some item) :
    Stands specification s!"{stated.name}{Identifier.ofContentType content.1}RequestBody" item
  | responseContent {stated : StatedOperation} {status : Status} {response : OpenApi.Response}
    {content : String × MediaType} {item : OrRef Schema}
    (answers : stated.Answers specification status response) (listed : content ∈ response.content)
    (given : content.2.schema = some item) :
    Stands specification
      s!"{stated.name}{status.label}{Identifier.ofContentType content.1}ResponseBody" item
  | header {stated : StatedOperation} {status : Status} {response : OpenApi.Response}
    {entry : String × OrRef OpenApi.Header} {header : OpenApi.Header} {item : OrRef Schema}
    (answers : stated.Answers specification status response) (listed : entry ∈ response.headers)
    (found : specification.header? entry.2 = some header) (given : header.schema = some item) :
    Stands specification
      s!"{stated.name}{status.label}Header{Identifier.exported entry.1}" item
  | member {name : String} {schema : Schema} {item : OrRef Schema} {index : Nat}
    (around : Stands specification name (.object schema))
    (form : statedForm schema = some .composition) (several : onlyReference? schema = none)
    (listed : (item, index) ∈ (composedMembers schema).2.zipIdx) :
    Stands specification s!"{name}{(composedMembers schema).1}{index}" item
  | element {name : String} {schema : Schema} {item : OrRef Schema}
    (around : Stands specification name (.object schema)) (form : statedForm schema = some .array)
    (given : schema.items = some item) :
    Stands specification s!"{name}Item" item
  | property {name property : String} {schema : Schema} {item : OrRef Schema}
    (around : Stands specification name (.object schema))
    (form : statedForm schema = some .object) (listed : (property, item) ∈ schema.properties) :
    Stands specification s!"{name}{Identifier.exported property}" item
  | additional {name : String} {schema : Schema} {extensions : Extensions} {item : OrRef Schema}
    (around : Stands specification name (.object schema))
    (stated : statedExtensions schema = some extensions)
    (form : SchemaForm.of extensions schema = .object) (untyped : extensions.mapType = none)
    (given : schema.additionalProperties = some (.schema item)) :
    Stands specification s!"{name}Value" item

/-- A schema that stands under a name is that of an object with properties. -/
structure ObjectStands (specification : Specification) (name : String) (schema : Schema) : Prop where
  stands : Stands specification name (.object schema)
  form : statedForm schema = some .object
  filled : schema.properties ≠ []

end ApiScaffold.Blueprint
