import ApiScaffold.OpenApi.Reference
import ApiScaffold.Proofs.Reordering

/-!
Specifications that differ in the order of their tables only. Everything that a document lists in an
array stays in place; what it writes as members of an object may stand in another order, and so may
the members of the values that are kept as they were written.
-/

namespace ApiScaffold.OpenApi

variable {α : Type}

inductive OrRef.Similar (related : α → α → Prop) : OrRef α → OrRef α → Prop where
  | reference (target : String) : Similar related (.reference target) (.reference target)
  | object {value other : α} (known : related value other) :
      Similar related (.object value) (.object other)

inductive AdditionalProperties.Similar (related : α → α → Prop) :
    AdditionalProperties α → AdditionalProperties α → Prop where
  | allowed (flag : Bool) : Similar related (.allowed flag) (.allowed flag)
  | schema {item other : OrRef α} (known : item.Similar related other) :
      Similar related (.schema item) (.schema other)

structure Table.Similar (related : α → α → Prop) (table other : Table α) : Prop where
  distinct : DistinctKeys table
  permuted : Permuted (Keyed related) table other

def Schema.outline (schema : Schema) : Schema :=
  { schema with
    properties := [], items := none, additionalProperties := none, enum := [], allOf := []
    oneOf := [], anyOf := [], exclusiveMinimum := none, exclusiveMaximum := none
    extensions := [] }

inductive Schema.Similar : Schema → Schema → Prop where
  | intro {schema other : Schema} (outline : schema.outline = other.outline)
      (propertyKeys : DistinctKeys schema.properties)
      (properties : Permuted (Keyed (OrRef.Similar Similar)) schema.properties other.properties)
      (items : Option.Rel (OrRef.Similar Similar) schema.items other.items)
      (additionalProperties : Option.Rel (AdditionalProperties.Similar Similar)
        schema.additionalProperties other.additionalProperties)
      (enum : List.Forall₂ Json.Reordered schema.enum other.enum)
      (allOf : List.Forall₂ (OrRef.Similar Similar) schema.allOf other.allOf)
      (oneOf : List.Forall₂ (OrRef.Similar Similar) schema.oneOf other.oneOf)
      (anyOf : List.Forall₂ (OrRef.Similar Similar) schema.anyOf other.anyOf)
      (exclusiveMinimum : Option.Rel Json.Reordered schema.exclusiveMinimum other.exclusiveMinimum)
      (exclusiveMaximum : Option.Rel Json.Reordered schema.exclusiveMaximum other.exclusiveMaximum)
      (extensions : Table.Similar Json.Reordered schema.extensions other.extensions) :
      Similar schema other

structure Schema.SimilarParts (schema other : Schema) : Prop where
  outline : schema.outline = other.outline
  properties : Table.Similar (OrRef.Similar Schema.Similar) schema.properties other.properties
  items : Option.Rel (OrRef.Similar Schema.Similar) schema.items other.items
  additionalProperties : Option.Rel (AdditionalProperties.Similar Schema.Similar)
    schema.additionalProperties other.additionalProperties
  enum : List.Forall₂ Json.Reordered schema.enum other.enum
  allOf : List.Forall₂ (OrRef.Similar Schema.Similar) schema.allOf other.allOf
  oneOf : List.Forall₂ (OrRef.Similar Schema.Similar) schema.oneOf other.oneOf
  anyOf : List.Forall₂ (OrRef.Similar Schema.Similar) schema.anyOf other.anyOf
  exclusiveMinimum : Option.Rel Json.Reordered schema.exclusiveMinimum other.exclusiveMinimum
  exclusiveMaximum : Option.Rel Json.Reordered schema.exclusiveMaximum other.exclusiveMaximum
  extensions : Table.Similar Json.Reordered schema.extensions other.extensions

theorem Schema.similar_iff {schema other : Schema} :
    schema.Similar other ↔ schema.SimilarParts other := by
  constructor
  · rintro ⟨outline, keys, properties, items, additional, enum, allOf, oneOf, anyOf, least, greatest,
      extensions⟩
    exact ⟨outline, ⟨keys, properties⟩, items, additional, enum, allOf, oneOf, anyOf, least, greatest,
      extensions⟩
  · intro parts
    exact .intro parts.outline parts.properties.distinct parts.properties.permuted parts.items
      parts.additionalProperties parts.enum parts.allOf parts.oneOf parts.anyOf
      parts.exclusiveMinimum parts.exclusiveMaximum parts.extensions

structure Parameter.Similar (parameter other : Parameter) : Prop where
  name : parameter.name = other.name
  place : parameter.place = other.place
  description : parameter.description = other.description
  required : parameter.required = other.required
  schema : Option.Rel (OrRef.Similar Schema.Similar) parameter.schema other.schema
  extensions : Table.Similar Json.Reordered parameter.extensions other.extensions

structure MediaType.Similar (mediaType other : MediaType) : Prop where
  schema : Option.Rel (OrRef.Similar Schema.Similar) mediaType.schema other.schema

structure RequestBody.Similar (body other : RequestBody) : Prop where
  description : body.description = other.description
  content : Table.Similar MediaType.Similar body.content other.content
  required : body.required = other.required

structure Header.Similar (header other : Header) : Prop where
  description : header.description = other.description
  required : header.required = other.required
  schema : Option.Rel (OrRef.Similar Schema.Similar) header.schema other.schema
  extensions : Table.Similar Json.Reordered header.extensions other.extensions

structure Response.Similar (response other : Response) : Prop where
  description : response.description = other.description
  headers : Table.Similar (OrRef.Similar Header.Similar) response.headers other.headers
  content : Table.Similar MediaType.Similar response.content other.content

abbrev SimilarRequirements : List SecurityRequirement → List SecurityRequirement → Prop :=
  List.Forall₂ (Table.Similar Eq)

structure Operation.Similar (operation other : Operation) : Prop where
  tags : operation.tags = other.tags
  summary : operation.summary = other.summary
  description : operation.description = other.description
  operationId : operation.operationId = other.operationId
  parameters : List.Forall₂ (OrRef.Similar Parameter.Similar) operation.parameters other.parameters
  requestBody : Option.Rel (OrRef.Similar RequestBody.Similar) operation.requestBody other.requestBody
  responses : Table.Similar (OrRef.Similar Response.Similar) operation.responses other.responses
  security : Option.Rel SimilarRequirements operation.security other.security
  deprecated : operation.deprecated = other.deprecated
  extensions : Table.Similar Json.Reordered operation.extensions other.extensions

structure PathItem.Similar (item other : PathItem) : Prop where
  reference : item.reference = other.reference
  summary : item.summary = other.summary
  description : item.description = other.description
  operation : ∀ method, Option.Rel Operation.Similar (item.operation? method) (other.operation? method)
  parameters : List.Forall₂ (OrRef.Similar Parameter.Similar) item.parameters other.parameters

structure Components.Similar (components other : Components) : Prop where
  schemas : Table.Similar (OrRef.Similar Schema.Similar) components.schemas other.schemas
  parameters : Table.Similar (OrRef.Similar Parameter.Similar) components.parameters other.parameters
  requestBodies : Table.Similar (OrRef.Similar RequestBody.Similar) components.requestBodies
    other.requestBodies
  responses : Table.Similar (OrRef.Similar Response.Similar) components.responses other.responses
  headers : Table.Similar (OrRef.Similar Header.Similar) components.headers other.headers
  securitySchemes : Table.Similar (OrRef.Similar Eq) components.securitySchemes
    other.securitySchemes

structure Specification.Similar (specification other : Specification) : Prop where
  openapi : specification.openapi = other.openapi
  info : specification.info = other.info
  paths : Table.Similar PathItem.Similar specification.paths other.paths
  components : specification.components.Similar other.components
  security : Option.Rel SimilarRequirements specification.security other.security

namespace Table.Similar

variable {β : Type} {related : α → α → Prop} {table other : Table α}

theorem nil : Table.Similar related ([] : Table α) [] := ⟨List.nodup_nil, .nil⟩

theorem lookup (similar : Table.Similar related table other) (key : String) :
    Option.Rel related (table.lookup key) (other.lookup key) :=
  similar.permuted.lookup similar.distinct key

theorem filter (similar : Table.Similar related table other) (keeps : String → Bool) :
    Table.Similar related (table.filter fun entry => keeps entry.1)
      (other.filter fun entry => keeps entry.1) := by
  refine ⟨similar.distinct.filter _, similar.permuted.filter ?_⟩
  intro entry entry' keyed
  rw [keyed.key]

end Table.Similar

namespace OrRef.Similar

variable {related : α → α → Prop}

theorem object? {item other : OrRef α} (similar : item.Similar related other) :
    Option.Rel related item.object? other.object? := by
  cases similar with
  | reference target => exact .none
  | object known => exact .some known

end OrRef.Similar

section References

variable {related : α → α → Prop} {table other : Table (OrRef α)}

theorem lookup_reference_similar (similar : Table.Similar (OrRef.Similar related) table other)
    (place target : String) :
    Option.Rel (OrRef.Similar related) (lookupReference table place target)
      (lookupReference other place target) := by
  unfold lookupReference
  cases Text.dropStart? place target with
  | none => exact .none
  | some key => exact similar.lookup key

theorem follow_within_similar (similar : Table.Similar (OrRef.Similar related) table other)
    (place : String) (steps : Nat) {item item' : OrRef α} (known : item.Similar related item') :
    Option.Rel related (followWithin table place steps item)
      (followWithin other place steps item') := by
  induction steps generalizing item item' with
  | zero =>
      cases known with
      | reference target => exact .none
      | object inner => exact .some inner
  | succ steps induction =>
      cases known with
      | reference target =>
          rw [followWithin, followWithin]
          apply rel_bind (lookup_reference_similar similar place target)
          intro next next' _ inner
          exact induction inner
      | object inner => exact .some inner

/-- A chain of references ends at related definitions in both tables, or in neither. -/
theorem follow_similar (similar : Table.Similar (OrRef.Similar related) table other)
    (place : String) {item item' : OrRef α} (known : item.Similar related item') :
    Option.Rel related (follow table place item) (follow other place item') := by
  unfold follow
  rw [similar.permuted.length_eq]
  exact follow_within_similar similar place other.length known

end References

end ApiScaffold.OpenApi
