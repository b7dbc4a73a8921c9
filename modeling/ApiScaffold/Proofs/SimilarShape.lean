import ApiScaffold.Proofs.ReorderedRules
import ApiScaffold.Proofs.SimilarPlan

/-!
Schemas that differ in the order of their tables only have similar plans. What stands inside of a
schema is planned alike first; the plan of the schema itself puts similar plans together.
-/

namespace ApiScaffold.Blueprint

open OpenApi (Schema OrRef Extensions Specification AdditionalProperties Table)

theorem extensions_similar {members others : Table Json}
    (reordered : Table.Similar Json.Reordered members others) (location : String) :
    Plan.Similar Eq (Plan.given (Extensions.read members location))
      (Plan.given (Extensions.read others location)) :=
  .given (rel_of_eq (Extensions.read_alike reordered location))

theorem place_similar (placement : Placement) (hint location : String) {schema schema' : Schema}
    (parts : schema.SimilarParts schema') {shape shape' : Shape} (known : shape.Similar shape') :
    Plan.Similar Shape.Similar (placePlan placement hint location schema shape)
      (placePlan placement hint location schema' shape') := by
  cases placement with
  | declared => exact .pure known
  | nested =>
      have descriptions : schema.description = schema'.description :=
        parts.reads Schema.description fun _ => rfl
      apply (extensions_similar parts.extensions location).bind
      rintro extensions _ rfl
      refine Plan.Similar.bind (.register ⟨known, ?_⟩) fun _ _ _ => .pure (.named hint)
      rw [descriptions]

theorem field_rules_eq {item item' : OrRef Schema} (known : item.Similar Schema.Similar item')
    (location : String) :
    (fieldRules item location).toOption = (fieldRules item' location).toOption := by
  cases known with
  | reference target => rfl
  | object known =>
      have parts := Schema.similar_iff.mp known
      rw [fieldRules, fieldRules, to_option_bind, to_option_bind,
        Extensions.read_alike parts.extensions, constraints_eq parts,
        parts.reads Schema.description fun _ => rfl]

/-- Sorted by their keys, similar tables have similar entries one by one. -/
theorem sort_by_key_similar {α : Type} {related : α → α → Prop} {table other : Table α}
    (similar : Table.Similar related table other) :
    List.Forall₂ (Keyed related) (sortByKey table) (sortByKey other) := by
  apply similar.permuted.merge_sort similar.distinct.sorts
  intro first second first' second' here there
  rw [here.key, there.key]

section Specifications

variable {specification specification' : Specification}
  (similar : specification.Similar specification')

include similar

/-- A reference comes down to a name, the same one on both sides. -/
theorem reference_similar (reference location : String) :
    Plan.Similar Shape.SameName (Plan.given (referenceShape specification reference location))
      (Plan.given (referenceShape specification' reference location)) := by
  unfold referenceShape
  cases Text.dropStart? OpenApi.schemasPlace reference with
  | none => exact .fails
  | some key =>
      dsimp only
      rw [rel_is_some_eq (similar.components.schemas.lookup key)]
      split
      · exact .pure (.intro _)
      · exact .fails

theorem is_nullable_eq {item item' : OrRef Schema} (known : item.Similar Schema.Similar item') :
    isNullable specification item = isNullable specification' item' := by
  cases known with
  | object known => exact (Schema.similar_iff.mp known).is_nullable_eq
  | reference target =>
      have found : Option.Rel Schema.Similar ((specification.schema? target).bind OrRef.object?)
          ((specification'.schema? target).bind OrRef.object?) :=
        rel_bind (OpenApi.lookup_reference_similar similar.components.schemas _ target)
          fun _ _ _ known => known.object?
      rw [isNullable, isNullable]
      generalize (specification.schema? target).bind OrRef.object? = schema,
        (specification'.schema? target).bind OrRef.object? = schema' at found ⊢
      cases found with
      | none => rfl
      | some known => exact (Schema.similar_iff.mp known).is_nullable_eq

theorem field_similar (jsonName : String) {item item' : OrRef Schema}
    (known : item.Similar Schema.Similar item') (required : Bool) (location : String)
    {shape shape' : Shape} (shapes : shape.Similar shape') :
    Plan.Similar (Field.Similar Shape.Similar)
      (fieldPlan specification jsonName item required location shape)
      (fieldPlan specification' jsonName item' required location shape') := by
  unfold fieldPlan
  apply Plan.Similar.bind (.given (rel_of_eq (field_rules_eq known location)))
  rintro rules _ rfl
  rw [is_nullable_eq similar known]
  dsimp only
  split
  · exact (Plan.Similar.checkText shapes location).bind fun _ _ _ => .pure (.of_rest shapes rfl)
  · exact .pure (.of_rest shapes rfl)

end Specifications

/-- Whatever is similar to a schema has similar plans. -/
def PlannedAlike (specification specification' : Specification) (schema : Schema) : Prop :=
  ∀ schema', schema.Similar schema' → ∀ placement hint location,
    Plan.Similar Shape.Similar (shapePlan specification placement hint location schema)
      (shapePlan specification' placement hint location schema')

def propertyPlan (specification : Specification) (required : List String) (hint location : String)
    (entry : String × OrRef Schema) : Plan (String × Field Shape) := do
  let fieldLocation := s!"{location}/properties/{entry.1}"
  let shape ←
    nestedPlan specification s!"{hint}{Identifier.exported entry.1}" fieldLocation entry.2
  let field ←
    fieldPlan specification entry.1 entry.2 (required.contains entry.1) fieldLocation shape
  return (entry.1, field)

theorem field_plans_collect (specification : Specification) (required : List String)
    (hint location : String) (properties : Table (OrRef Schema)) :
    fieldPlans specification required hint location properties =
      Plan.collect (propertyPlan specification required hint location) properties := by
  induction properties with
  | nil => rfl
  | cons entry rest induction =>
      rw [fieldPlans, Plan.collect, induction, propertyPlan]
      simp only [Plan.bind_assoc, Plan.pure_bind]

/-- Identifiers are compared with one another, in whatever order they stand. -/
theorem identifiable_perm {known identifiers others : List String}
    (order : identifiers.Perm others) :
    Identifiable known identifiers ↔ Identifiable known others :=
  and_congr (Fresh.perm order) (not_congr order.mem_iff)

structure InnerPlans.Similar (inner inner' : InnerPlans) : Prop where
  fields : Plan.Similar (Permuted (Keyed (Field.Similar Shape.Similar))) inner.fields inner'.fields
  element : Plan.Similar Shape.Similar inner.element inner'.element
  additional : Plan.Similar (Additional.Similar Shape.Similar) inner.additional inner'.additional
  allOf : Plan.Similar (List.Forall₂ Shape.Similar) inner.allOf inner'.allOf
  oneOf : Plan.Similar (List.Forall₂ Shape.Similar) inner.oneOf inner'.oneOf
  anyOf : Plan.Similar (List.Forall₂ Shape.Similar) inner.anyOf inner'.anyOf

section Inside

variable {specification specification' : Specification}
  (similar : specification.Similar specification')

include similar

theorem nested_similar_of {item item' : OrRef Schema}
    (inside : item.Satisfies (PlannedAlike specification specification'))
    (known : item.Similar Schema.Similar item') (hint location : String) :
    Plan.Similar Shape.Similar (nestedPlan specification hint location item)
      (nestedPlan specification' hint location item') := by
  cases known with
  | reference target =>
      exact (reference_similar similar target location).imp fun _ _ => Shape.SameName.similar
  | object known => exact inside _ known .nested hint location

theorem property_similar {entry entry' : String × OrRef Schema}
    (inside : entry.2.Satisfies (PlannedAlike specification specification'))
    (keyed : Keyed (OrRef.Similar Schema.Similar) entry entry') (required : List String)
    (hint location : String) :
    Plan.Similar (Keyed (Field.Similar Shape.Similar))
      (propertyPlan specification required hint location entry)
      (propertyPlan specification' required hint location entry') := by
  cases keyed with
  | intro key known =>
      apply (nested_similar_of similar inside known _ _).bind
      intro shape shape' shapes
      apply (field_similar similar key known _ _ shapes).bind
      intro field field' fields
      exact .pure (.intro key fields)

theorem element_similar {items items' : Option (OrRef Schema)}
    (inside : ∀ item, items = some item → item.Satisfies (PlannedAlike specification specification'))
    (known : Option.Rel (OrRef.Similar Schema.Similar) items items') (hint location : String) :
    Plan.Similar Shape.Similar (elementPlan specification hint location items)
      (elementPlan specification' hint location items') := by
  cases known with
  | none => exact .pure (.object .nil [] .forbidden)
  | some known => exact nested_similar_of similar (inside _ rfl) known hint location

theorem additional_similar {additional additional' : Option (AdditionalProperties Schema)}
    (inside : ∀ item, additional = some (.schema item) →
      item.Satisfies (PlannedAlike specification specification'))
    (known : Option.Rel (AdditionalProperties.Similar Schema.Similar) additional additional')
    (hint location : String) :
    Plan.Similar (Additional.Similar Shape.Similar)
      (additionalPlan specification hint location additional)
      (additionalPlan specification' hint location additional') := by
  cases known with
  | none => exact .pure .forbidden
  | some known => cases known with
    | allowed flag => cases flag with
      | false => exact .pure .forbidden
      | true => exact .pure .any
    | schema known =>
        apply (nested_similar_of similar (inside _ rfl) known hint location).bind
        intro shape shape' shapes
        exact .pure (.typed shapes)

theorem members_similar {items items' : List (OrRef Schema)}
    (inside : ∀ item ∈ items, item.Satisfies (PlannedAlike specification specification'))
    (pairs : List.Forall₂ (OrRef.Similar Schema.Similar) items items') (hint location : String)
    (index : Nat) :
    Plan.Similar (List.Forall₂ Shape.Similar) (memberPlans specification hint location index items)
      (memberPlans specification' hint location index items') := by
  induction pairs generalizing index with
  | nil => exact .pure .nil
  | cons known _ induction =>
      obtain ⟨first, others⟩ := List.forall_mem_cons.mp inside
      apply (nested_similar_of similar first known _ _).bind
      intro shape shape' shapes
      apply (induction others (index + 1)).bind
      intro members members' more
      exact .pure (.cons shapes more)

theorem inner_similar {schema schema' : Schema}
    (inside : schema.Inside (PlannedAlike specification specification'))
    (parts : schema.SimilarParts schema') (hint location : String) :
    (innerPlans specification hint location schema).Similar
      (innerPlans specification' hint location schema') where
  fields := by
    have required : schema.required = schema'.required := parts.reads Schema.required fun _ => rfl
    have identifiers : (propertyIdentifiers schema.properties).Perm
        (propertyIdentifiers schema'.properties) :=
      parts.properties.permuted.map_perm fun _ _ keyed => by rw [keyed.key]
    unfold innerPlans
    rw [field_plans_collect, field_plans_collect, required,
      if_congr (identifiable_perm identifiers) rfl rfl]
    split
    · apply Plan.Similar.collect_permuted parts.properties.permuted
      intro entry member entry' keyed
      exact property_similar similar (inside.properties entry member) keyed _ _ _
    · exact .fails
  element := element_similar similar inside.items parts.items _ _
  additional := additional_similar similar inside.additional parts.additionalProperties _ _
  allOf := members_similar similar inside.allOf parts.allOf _ _ 0
  oneOf := members_similar similar inside.oneOf parts.oneOf _ _ 0
  anyOf := members_similar similar inside.anyOf parts.anyOf _ _ 0

end Inside

section Whole

variable {specification specification' : Specification}
  (similar : specification.Similar specification') {schema schema' : Schema}
  (parts : schema.SimilarParts schema') {inner inner' : InnerPlans}

theorem beside_similar (inners : inner.Similar inner') (mapType : Option String) :
    Plan.Similar (Additional.Similar Shape.Similar) (inner.beside mapType)
      (inner'.beside mapType) := by
  cases mapType with
  | none => exact inners.additional
  | some name => exact .pure (.goMapType name)

include parts

theorem object_similar (inners : inner.Similar inner') (placement : Placement)
    (hint location : String) (mapType : Option String) :
    Plan.Similar Shape.Similar (inner.object placement hint location mapType schema)
      (inner'.object placement hint location mapType schema') := by
  apply inners.fields.bind
  intro fields fields' permuted
  apply (beside_similar inners mapType).bind
  intro additional additional' beside
  have shapes := Shape.Similar.object permuted (declaredRequirements schema) beside
  rw [← declared_requirements_eq parts, ← permuted.is_empty_eq]
  split
  · exact .pure shapes
  · exact place_similar placement hint location parts shapes

theorem plain_similar (location : String) :
    Plan.Similar Shape.Similar (Plan.given (plainShape schema location))
      (Plan.given (plainShape schema' location)) := by
  rw [plain_shape_eq parts]
  apply Plan.Similar.given
  unfold plainShape
  split
  · exact .some (.primitive _)
  · exact .some (.primitive _)
  · exact .some (.primitive _)
  · exact .some (.primitive _)
  · exact .some (.object .nil [] .forbidden)
  · exact .none

include similar

theorem composed_similar (inners : inner.Similar inner') (location : String) :
    Plan.Similar Shape.Similar (inner.composed specification location schema)
      (inner'.composed specification' location schema') := by
  unfold InnerPlans.composed
  rw [only_reference_eq parts, pairs_is_empty_eq parts.allOf, pairs_is_empty_eq parts.oneOf]
  cases onlyReference? schema' with
  | some target => exact (reference_similar similar target _).imp fun _ _ => Shape.SameName.similar
  | none =>
      dsimp only
      split
      · exact inners.allOf.bind fun _ _ pairs => .pure (.allOf pairs)
      split
      · exact inners.oneOf.bind fun _ _ pairs => .pure (.oneOf pairs)
      · exact inners.anyOf.bind fun _ _ pairs => .pure (.anyOf pairs)

theorem own_similar (inners : inner.Similar inner') (placement : Placement)
    (hint location : String) (extensions : Extensions) :
    Plan.Similar Shape.Similar (inner.own specification placement hint location extensions schema)
      (inner'.own specification' placement hint location extensions schema') := by
  have least : schema.minItems = schema'.minItems := parts.reads Schema.minItems fun _ => rfl
  have greatest : schema.maxItems = schema'.maxItems := parts.reads Schema.maxItems fun _ => rfl
  unfold InnerPlans.own
  rw [parts.is_composition_eq, parts.is_enum_eq, parts.is_array_eq, parts.is_object_eq,
    rel_is_some_eq parts.additionalProperties, enumeration_eq parts, least, greatest]
  split
  · exact .fails
  split
  · exact composed_similar similar parts inners location
  split
  · apply Plan.Similar.bind (.given (rel_of_eq rfl))
    rintro enumeration _ rfl
    exact place_similar placement hint location parts (.enum enumeration)
  split
  · exact inners.element.bind fun _ _ shapes => .pure (.array shapes _ _)
  split
  · exact object_similar parts inners placement hint location extensions.mapType
  · exact plain_similar parts location

theorem whole_similar (inners : inner.Similar inner') (placement : Placement)
    (hint location : String) :
    Plan.Similar Shape.Similar (inner.whole specification placement hint location schema)
      (inner'.whole specification' placement hint location schema') := by
  apply (extensions_similar parts.extensions location).bind
  rintro extensions _ rfl
  cases extensions.goType with
  | some target => exact .pure (.custom _)
  | none => exact own_similar similar parts inners placement hint location extensions

end Whole

section Declared

variable {specification specification' : Specification}
  (similar : specification.Similar specification')

include similar

/-- Similar schemas come down to similar shapes, or to none. -/
theorem shape_plan_similar (schema : Schema) : PlannedAlike specification specification' schema := by
  induction schema using Schema.of_inside with
  | step schema inside =>
      intro schema' known placement hint location
      have parts := Schema.similar_iff.mp known
      rw [shape_plan_of_schema, shape_plan_of_schema]
      exact whole_similar similar parts (inner_similar similar inside parts hint location) placement
        hint location

theorem nested_plan_similar {item item' : OrRef Schema} (known : item.Similar Schema.Similar item')
    (hint location : String) :
    Plan.Similar Shape.Similar (nestedPlan specification hint location item)
      (nestedPlan specification' hint location item') := by
  apply nested_similar_of similar _ known
  cases item with
  | reference target => trivial
  | object schema => exact shape_plan_similar similar schema

theorem declared_plan_similar (key : String) {item item' : OrRef Schema}
    (known : item.Similar Schema.Similar item') :
    Plan.Similar Eq (declaredPlan specification key item)
      (declaredPlan specification' key item') := by
  unfold declaredPlan
  dsimp only
  split
  · exact .fails
  cases known with
  | reference target =>
      apply (reference_similar similar target _).bind
      intro shape shape' same
      apply Plan.Similar.register
      refine ⟨same.similar, ?_⟩
      dsimp only
  | @object schema schema' known =>
      have parts := Schema.similar_iff.mp known
      have descriptions : schema.description = schema'.description :=
        parts.reads Schema.description fun _ => rfl
      apply (extensions_similar parts.extensions _).bind
      rintro extensions _ rfl
      apply (shape_plan_similar similar schema _ known _ _ _).bind
      intro shape shape' shapes
      apply Plan.Similar.register
      refine ⟨shapes, ?_⟩
      rw [descriptions]

/-- Declared schemas are planned in the order of their keys, however they are written. -/
theorem declared_plans_similar :
    Plan.Similar Eq
      (declaredPlans specification (sortByKey specification.components.schemas))
      (declaredPlans specification' (sortByKey specification'.components.schemas)) := by
  have planned : Plan.Similar (List.Forall₂ Eq)
      (Plan.collect (fun entry => declaredPlan specification entry.1 entry.2)
        (sortByKey specification.components.schemas))
      (Plan.collect (fun entry => declaredPlan specification' entry.1 entry.2)
        (sortByKey specification'.components.schemas)) := by
    apply Plan.Similar.collect_pairs (sort_by_key_similar similar.components.schemas)
    rintro _ _ _ ⟨key, known⟩
    exact declared_plan_similar similar key known
  exact planned.bind fun _ _ _ => .pure rfl

end Declared

end ApiScaffold.Blueprint
