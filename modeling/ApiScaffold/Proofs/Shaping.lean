import ApiScaffold.Blueprint.Parameters

/-!
The shape of a schema, by what the schema is: a composition, an object or something else. This is
how the definition reads for a schema whose members are not spelled out. The field of a scalar value
is taken apart as well, into what the schema gives and the check that it is read from a text. A
property of all schemas follows if every schema has it once the schemas right inside of it have it.
-/

namespace ApiScaffold.OpenApi

def OrRef.Satisfies {α : Type} (property : α → Prop) : OrRef α → Prop
  | .reference _ => True
  | .object value => property value

namespace Schema

structure Inside (property : Schema → Prop) (schema : Schema) : Prop where
  properties : ∀ entry ∈ schema.properties, entry.2.Satisfies property
  items : ∀ item, schema.items = some item → item.Satisfies property
  additional : ∀ item, schema.additionalProperties = some (.schema item) → item.Satisfies property
  allOf : ∀ item ∈ schema.allOf, item.Satisfies property
  oneOf : ∀ item ∈ schema.oneOf, item.Satisfies property
  anyOf : ∀ item ∈ schema.anyOf, item.Satisfies property

theorem of_inside {property : Schema → Prop}
    (step : ∀ schema, schema.Inside property → property schema) (schema : Schema) :
    property schema :=
  @Schema.rec
    property
    (fun table => ∀ entry ∈ table, entry.2.Satisfies property)
    (fun items => ∀ item, items = some item → item.Satisfies property)
    (fun additional => ∀ item, additional = some (.schema item) →
      item.Satisfies property)
    (fun items => ∀ item ∈ items, item.Satisfies property)
    (fun entry => entry.2.Satisfies property)
    (fun item => item.Satisfies property)
    (fun additional => ∀ item, additional = .schema item → item.Satisfies property)
    (by
      intros
      apply step
      constructor <;> assumption)
    (fun _ member => absurd member List.not_mem_nil)
    (fun _ _ first others => List.forall_mem_cons.mpr ⟨first, others⟩)
    (fun _ absent => nomatch absent)
    (fun _ holds _ same => Option.some.inj same ▸ holds)
    (fun _ absent => nomatch absent)
    (fun _ holds item same => holds item (Option.some.inj same))
    (fun _ member => absurd member List.not_mem_nil)
    (fun _ _ first others => List.forall_mem_cons.mpr ⟨first, others⟩)
    (fun _ _ holds => holds)
    (fun _ => trivial)
    (fun _ holds => holds)
    (fun _ _ other => nomatch other)
    (fun _ holds _ same => AdditionalProperties.schema.inj same ▸ holds)
    schema

end Schema

end ApiScaffold.OpenApi

namespace ApiScaffold.Blueprint

open OpenApi (Schema OrRef Extensions Specification Table)

def composedShape (specification : Specification) (hint location : String) (schema : Schema) :
    Drafting Shape :=
  match onlyReference? schema with
  | some target => liftExcept (referenceShape specification target s!"{location}/allOf/0")
  | none =>
    if !schema.allOf.isEmpty then
      return .allOf
        (← memberShapes specification s!"{hint}AllOf" s!"{location}/allOf" 0 schema.allOf)
    else if !schema.oneOf.isEmpty then
      return .oneOf
        (← memberShapes specification s!"{hint}OneOf" s!"{location}/oneOf" 0 schema.oneOf)
    else
      return .anyOf
        (← memberShapes specification s!"{hint}AnyOf" s!"{location}/anyOf" 0 schema.anyOf)

/-- What stands beside the fields of an object that may be a map of a given name. -/
def besideFields (specification : Specification) (hint location : String) (mapType : Option String)
    (schema : Schema) : Drafting (Additional Shape) :=
  match mapType with
  | some name => pure (.goMapType name)
  | none =>
    additionalShape specification s!"{hint}Value" s!"{location}/additionalProperties"
      schema.additionalProperties

def objectShape (specification : Specification) (placement : Placement) (hint location : String)
    (mapType : Option String) (schema : Schema) : Drafting Shape := do
  let fields ←
    propertyFields specification schema.required hint location [] schema.properties
  let required ← requiredNames schema location
  let additional ← besideFields specification hint location mapType schema
  if fields.isEmpty && placement = .nested then return .object fields required additional
  else place placement hint location schema (.object fields required additional)

def ownShape (specification : Specification) (placement : Placement) (hint location : String)
    (extensions : Extensions) (schema : Schema) : Drafting Shape :=
  if extensions.stringParse.isSome then Drafting.fail .parserWithoutType location
  else if schema.isComposition then composedShape specification hint location schema
  else if schema.isEnum then do
    let enumeration ← liftExcept (enumerationOf schema location)
    place placement hint location schema (.enum enumeration)
  else if schema.isArray then do
    let element ← elementShape specification s!"{hint}Item" s!"{location}/items" schema.items
    return .array element schema.minItems schema.maxItems
  else if schema.isObject || schema.additionalProperties.isSome || extensions.mapType.isSome then
    objectShape specification placement hint location extensions.mapType schema
  else
    liftExcept (plainShape schema location)

theorem shape_of_schema (specification : Specification) (placement : Placement)
    (hint location : String) (schema : Schema) :
    shapeOf specification placement hint location schema = (do
      let extensions ← liftExcept (Extensions.read schema.extensions location)
      match extensions.goType with
      | some target =>
        return .custom {
          target, parser := extensions.stringParse, validate := !extensions.skipValidation }
      | none => ownShape specification placement hint location extensions schema) := by
  cases schema
  rw [shapeOf]
  congr 1
  funext extensions
  cases extensions.goType with
  | some target => rfl
  | none =>
      unfold ownShape objectShape besideFields
      cases extensions.mapType <;> rfl

def givenField (specification : Specification) (name : String) (schema : Option (OrRef Schema))
    (required : Bool) (hint location : String) : Drafting (Field Shape) :=
  match schema with
  | some item => nestedField specification name item required hint location
  | none => pure (textField name)

def scalarOf (name : String) (required : Bool) (location : String) (listsAllowed : Bool)
    (field : Field Shape) : Drafting (Field Shape) := do
  let resolved ← Drafting.resolve field.shape
  if !(← readsFromText listsAllowed resolved) then
    Drafting.fail (.notScalar name listsAllowed (isCustom resolved)) location
  return { field with optionality := if required then .required else .optional }

theorem scalar_field_of_given (specification : Specification) (name : String)
    (schema : Option (OrRef Schema)) (required : Bool) (hint location : String)
    (listsAllowed : Bool) :
    scalarField specification name schema required hint location listsAllowed =
      givenField specification name schema required hint s!"{location}/schema" >>=
        scalarOf name required s!"{location}/schema" listsAllowed := by
  cases schema <;> rfl

end ApiScaffold.Blueprint
