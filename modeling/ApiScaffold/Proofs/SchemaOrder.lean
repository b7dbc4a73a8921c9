import ApiScaffold.Proofs.Permuted
import ApiScaffold.Proofs.ReferenceClosure
import ApiScaffold.Server.Artifact

/-!
The order in which a document lists its schemas. Lowering takes them by their keys, and looks one up
wherever it is referred to, so two specifications whose references lead to the same definitions are
lowered by the same steps, failures and warnings included.
-/

namespace ApiScaffold.OpenApi

/-- Specifications whose references lead to the same definitions, and whose operations have to meet
the same requirements. -/
structure Specification.Agrees (specification other : Specification) : Prop where
  schemas : ∀ key,
    specification.components.schemas.lookup key = other.components.schemas.lookup key
  parameters : specification.components.parameters = other.components.parameters
  requestBodies : specification.components.requestBodies = other.components.requestBodies
  responses : specification.components.responses = other.components.responses
  headers : specification.components.headers = other.components.headers
  securitySchemes :
    specification.components.securitySchemes = other.components.securitySchemes
  security : specification.security = other.security

structure Specification.AgreesOnRequests (specification other : Specification) : Prop where
  schemas : ∀ key,
    specification.components.schemas.lookup key = other.components.schemas.lookup key
  parameters : specification.components.parameters = other.components.parameters
  requestBodies : specification.components.requestBodies = other.components.requestBodies
  securitySchemes :
    specification.components.securitySchemes = other.components.securitySchemes
  security : specification.security = other.security

theorem Specification.Agrees.on_requests {specification other : Specification}
    (agrees : specification.Agrees other) : specification.AgreesOnRequests other where
  schemas := agrees.schemas
  parameters := agrees.parameters
  requestBodies := agrees.requestBodies
  securitySchemes := agrees.securitySchemes
  security := agrees.security

end ApiScaffold.OpenApi

namespace ApiScaffold.Blueprint

open OpenApi (Schema OrRef Specification Document Table)

section Shapes

variable {specification other : Specification} (agrees : specification.AgreesOnRequests other)

include agrees

theorem reference_shape_agrees (reference location : String) :
    referenceShape specification reference location = referenceShape other reference location := by
  unfold referenceShape
  cases Text.dropStart? OpenApi.schemasPlace reference with
  | none => rfl
  | some key => dsimp only; rw [agrees.schemas]

theorem is_nullable_agrees (item : OrRef Schema) :
    isNullable specification item = isNullable other item := by
  cases item with
  | object schema => rfl
  | reference target =>
      have found : specification.schema? target = other.schema? target := by
        unfold Specification.schema? OpenApi.lookupReference
        rw [funext agrees.schemas]
      rw [isNullable, isNullable, found]

theorem field_agrees (jsonName : String) (item : OrRef Schema) (required : Bool)
    (location : String) (shape : Shape) :
    fieldOf specification jsonName item required location shape =
      fieldOf other jsonName item required location shape := by
  unfold fieldOf
  rw [is_nullable_agrees agrees]

def ShapedAlike (specification other : Specification) (schema : Schema) : Prop :=
  ∀ placement hint location,
    shapeOf specification placement hint location schema =
      shapeOf other placement hint location schema

theorem nested_shape_agrees {item : OrRef Schema}
    (inside : item.Satisfies (ShapedAlike specification other)) (hint location : String) :
    nestedShape specification hint location item = nestedShape other hint location item := by
  cases item with
  | reference target =>
      rw [nestedShape, nestedShape, reference_shape_agrees agrees]
  | object schema =>
      rw [nestedShape, nestedShape]
      exact inside .nested hint location

theorem element_shape_agrees {items : Option (OrRef Schema)}
    (inside : ∀ item, items = some item → item.Satisfies (ShapedAlike specification other))
    (hint location : String) :
    elementShape specification hint location items = elementShape other hint location items := by
  cases items with
  | none => rfl
  | some item => exact nested_shape_agrees agrees (inside item rfl) hint location

theorem additional_shape_agrees {additional : Option (OpenApi.AdditionalProperties Schema)}
    (inside : ∀ item, additional = some (.schema item) →
      item.Satisfies (ShapedAlike specification other)) (hint location : String) :
    additionalShape specification hint location additional =
      additionalShape other hint location additional := by
  match additional with
  | none => rfl
  | some (.allowed flag) => rfl
  | some (.schema item) =>
      rw [additionalShape, additionalShape, nested_shape_agrees agrees (inside item rfl)]

theorem member_shapes_agrees {items : List (OrRef Schema)}
    (inside : ∀ item ∈ items, item.Satisfies (ShapedAlike specification other))
    (hint location : String) (index : Nat) :
    memberShapes specification hint location index items =
      memberShapes other hint location index items := by
  induction items generalizing index with
  | nil => rfl
  | cons item rest induction =>
      obtain ⟨first, others⟩ := List.forall_mem_cons.mp inside
      rw [memberShapes, memberShapes, nested_shape_agrees agrees first, induction others]

theorem property_fields_agrees {properties : Table (OrRef Schema)}
    (inside : ∀ entry ∈ properties, entry.2.Satisfies (ShapedAlike specification other))
    (required : List String) (hint location : String) (known : List (String × String)) :
    propertyFields specification required hint location known properties =
      propertyFields other required hint location known properties := by
  induction properties generalizing known with
  | nil => rfl
  | cons entry rest induction =>
      obtain ⟨property, item⟩ := entry
      obtain ⟨first, others⟩ := List.forall_mem_cons.mp inside
      rw [propertyFields, propertyFields]
      simp only [nested_shape_agrees agrees first, field_agrees agrees, induction others]

theorem composed_shape_agrees {schema : Schema}
    (inside : schema.Inside (ShapedAlike specification other)) (hint location : String) :
    composedShape specification hint location schema =
      composedShape other hint location schema := by
  unfold composedShape
  rw [member_shapes_agrees agrees inside.allOf, member_shapes_agrees agrees inside.oneOf,
    member_shapes_agrees agrees inside.anyOf]
  simp only [reference_shape_agrees agrees]

theorem object_shape_agrees {schema : Schema}
    (inside : schema.Inside (ShapedAlike specification other)) (placement : Placement)
    (hint location : String) (mapType : Option String) :
    objectShape specification placement hint location mapType schema =
      objectShape other placement hint location mapType schema := by
  unfold objectShape besideFields
  rw [property_fields_agrees agrees inside.properties,
    additional_shape_agrees agrees inside.additional]

theorem shape_agrees (schema : Schema) : ShapedAlike specification other schema := by
  induction schema using Schema.of_inside with
  | step schema inside =>
      intro placement hint location
      rw [shape_of_schema, shape_of_schema]
      congr 1
      funext extensions
      unfold ownShape
      rw [composed_shape_agrees agrees inside, element_shape_agrees agrees inside.items,
        object_shape_agrees agrees inside]

theorem nested_item_agrees (item : OrRef Schema) (hint location : String) :
    nestedShape specification hint location item = nestedShape other hint location item := by
  apply nested_shape_agrees agrees
  cases item with
  | reference target => trivial
  | object schema => exact shape_agrees agrees schema

end Shapes

section Requests

variable {specification other : Specification} (agrees : specification.AgreesOnRequests other)

include agrees

theorem scalar_field_agrees (name : String) (schema : Option (OrRef Schema)) (required : Bool)
    (hint location : String) (listsAllowed : Bool) :
    scalarField specification name schema required hint location listsAllowed =
      scalarField other name schema required hint location listsAllowed := by
  unfold scalarField nestedField
  simp only [nested_item_agrees agrees, field_agrees agrees]

theorem collect_parameters_agrees (operation : String) (known : List (Place × String))
    (stated : List StatedParameter) :
    collectParameters specification operation known stated =
      collectParameters other operation known stated := by
  induction stated generalizing known with
  | nil => rfl
  | cons first rest induction =>
      rw [collectParameters, collectParameters]
      unfold parameterAt
      simp only [scalar_field_agrees agrees, induction]

theorem stated_parameters_agrees (known : List StatedParameter)
    (items : List (OrRef OpenApi.Parameter × String)) :
    statedParameters specification known items = statedParameters other known items := by
  have same : specification.parameter? = other.parameter? := by
    unfold Specification.parameter?
    rw [agrees.parameters]
  induction items generalizing known with
  | nil => rfl
  | cons entry rest induction =>
      rw [statedParameters, statedParameters, same]
      simp only [induction]

theorem parameters_agrees (name : String) (item : OpenApi.PathItem)
    (operation : OpenApi.Operation) (pathLocation location : String) :
    parametersOf specification name item operation pathLocation location =
      parametersOf other name item operation pathLocation location := by
  unfold parametersOf
  simp only [stated_parameters_agrees agrees, collect_parameters_agrees agrees]

theorem collect_contents_agrees (componentName : String → String) (location : String)
    (known : List BodyContent) (content : Table OpenApi.MediaType) :
    collectContents specification componentName location known content =
      collectContents other componentName location known content := by
  induction content generalizing known with
  | nil => rfl
  | cons entry rest induction =>
      rw [collectContents, collectContents]
      unfold contentShape
      simp only [reference_shape_agrees agrees, shape_agrees agrees _ _ _ _, induction]

theorem request_body_agrees (name : String) (operation : OpenApi.Operation) (location : String) :
    requestBodyOf specification name operation location =
      requestBodyOf other name operation location := by
  unfold requestBodyOf Specification.requestBody? contentsOf
  rw [agrees.requestBodies]
  simp only [collect_contents_agrees agrees]

theorem security_schemes_agrees : securitySchemesOf specification = securitySchemesOf other := by
  have same : specification.securityScheme? = other.securityScheme? := by
    unfold Specification.securityScheme?
    rw [agrees.securitySchemes]
  have collected : ∀ known table,
      collectSchemes specification known table = collectSchemes other known table := by
    intro known table
    induction table generalizing known with
    | nil => rfl
    | cons entry rest induction =>
        rw [collectSchemes, collectSchemes, same]
        simp only [induction]
  unfold securitySchemesOf
  rw [collected, agrees.securitySchemes]

theorem declare_schema_agrees (key : String) (item : OrRef Schema) :
    declareSchema specification key item = declareSchema other key item := by
  unfold declareSchema
  simp only [reference_shape_agrees agrees, shape_agrees agrees _ _ _ _]

end Requests

section Operations

variable {specification other : Specification} (agrees : specification.Agrees other)

include agrees

theorem headers_agrees (hint location : String) (headers : Table (OrRef OpenApi.Header)) :
    headersOf specification hint location headers = headersOf other hint location headers := by
  have same : specification.header? = other.header? := by
    unfold Specification.header?
    rw [agrees.headers]
  induction headers with
  | nil => rfl
  | cons entry rest induction =>
      rw [headersOf, headersOf, same]
      simp only [scalar_field_agrees agrees.on_requests, induction]

theorem collect_responses_agrees (name location : String) (known : List Response)
    (responses : Table (OrRef OpenApi.Response)) :
    collectResponses specification name location known responses =
      collectResponses other name location known responses := by
  have same : specification.response? = other.response? := by
    unfold Specification.response?
    rw [agrees.responses]
  induction responses generalizing known with
  | nil => rfl
  | cons entry rest induction =>
      rw [collectResponses, collectResponses, same]
      unfold responseAt contentsOf
      simp only [collect_contents_agrees agrees.on_requests, headers_agrees agrees, induction]

theorem operation_agrees (schemes : List SecurityScheme) (stated : StatedOperation) :
    operationOf specification schemes stated = operationOf other schemes stated := by
  unfold operationOf responsesOf securityOf
  rw [agrees.security]
  simp only [parameters_agrees agrees.on_requests, request_body_agrees agrees.on_requests,
    collect_responses_agrees agrees]

theorem collect_operations_agrees (schemes : List SecurityScheme) (known : List (String × String))
    (stated : List StatedOperation) :
    collectOperations specification schemes known stated =
      collectOperations other schemes known stated := by
  induction stated generalizing known with
  | nil => rfl
  | cons first rest induction =>
      rw [collectOperations, collectOperations]
      simp only [operation_agrees agrees, induction]

theorem collect_paths_agrees (schemes : List SecurityScheme) (known : List (String × String))
    (paths : Table OpenApi.PathItem) :
    collectPaths specification schemes known paths = collectPaths other schemes known paths := by
  induction paths generalizing known with
  | nil => rfl
  | cons entry rest induction =>
      rw [collectPaths, collectPaths]
      simp only [collect_operations_agrees agrees, induction]

end Operations

def reorderSchemas (document : Document) (schemas : Table (OrRef Schema)) : Document :=
  { document with
    specification := { document.specification with
      components := { document.specification.components with schemas } } }

section Order

variable {document : Document} {schemas : Table (OrRef Schema)}
  (distinct : DistinctKeys document.specification.components.schemas)
  (order : document.specification.components.schemas.Perm schemas)

include distinct order

theorem reorder_schemas_agrees :
    document.specification.Agrees (reorderSchemas document schemas).specification where
  schemas := distinct.lookup_perm order
  parameters := rfl
  requestBodies := rfl
  responses := rfl
  headers := rfl
  securitySchemes := rfl
  security := rfl

theorem declare_schemas_reordered :
    declareSchemas document.specification =
      declareSchemas (reorderSchemas document schemas).specification := by
  have sorted : sortByKey document.specification.components.schemas = sortByKey schemas :=
    distinct.sorts.merge_sort_eq order
  have agrees := reorder_schemas_agrees distinct order
  unfold declareSchemas
  simp only [declare_schema_agrees agrees.on_requests]
  rw [sorted]
  rfl

theorem program_reordered (text : String) (config : Config) :
    programOf document.specification text config =
      programOf (reorderSchemas document schemas).specification text config := by
  have agrees := reorder_schemas_agrees distinct order
  unfold programOf operationsOf
  simp only [declare_schemas_reordered distinct order,
    security_schemes_agrees agrees.on_requests, collect_paths_agrees agrees]
  rfl

end Order

/-- Whatever order the schemas of a document are listed in, lowering ends alike and gives the same
warnings, and the same two files are written or the same diagnostic is given. -/
theorem schema_order_immaterial (document : Document) (schemas : Table (OrRef Schema))
    (config : Config) (distinct : DistinctKeys document.specification.components.schemas)
    (order : document.specification.components.schemas.Perm schemas) :
    lower (reorderSchemas document schemas) config = lower document config ∧
      ((lower (reorderSchemas document schemas) config).1 >>= Server.Artifact.all) =
        ((lower document config).1 >>= Server.Artifact.all) := by
  have same : lower (reorderSchemas document schemas) config = lower document config := by
    have text : (reorderSchemas document schemas).canonicalText = document.canonicalText := rfl
    unfold lower
    rw [text, program_reordered distinct order]
  exact ⟨same, by rw [same]⟩

/-- The kennel with the schema that is referred to listed first. -/
theorem kennel_order_immaterial :
    DistinctKeys kennel.specification.components.schemas ∧
      kennel.specification.components.schemas.Perm
        kennel.specification.components.schemas.reverse ∧
      lower (reorderSchemas kennel kennel.specification.components.schemas.reverse)
        { package := "kennel", path := "" } = lower kennel { package := "kennel", path := "" } ∧
      ((lower (reorderSchemas kennel kennel.specification.components.schemas.reverse)
        { package := "kennel", path := "" }).1 >>= Server.Artifact.all) =
        ((lower kennel { package := "kennel", path := "" }).1 >>= Server.Artifact.all) := by
  have distinct : DistinctKeys kennel.specification.components.schemas := by
    unfold DistinctKeys
    decide
  have order := (List.reverse_perm kennel.specification.components.schemas).symm
  exact ⟨distinct, order, schema_order_immaterial kennel _ _ distinct order⟩

end ApiScaffold.Blueprint
