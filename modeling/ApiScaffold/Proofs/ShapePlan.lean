import ApiScaffold.Proofs.Plan
import ApiScaffold.Proofs.Shaping

/-!
The plans of schemas. What stands inside of a schema is planned first; the plan of the schema itself
puts these plans together. Identifiers of properties are compared before any property is planned.
-/

namespace ApiScaffold.Blueprint

open OpenApi (Schema OrRef Extensions Specification AdditionalProperties Table)

/-- The component of a schema that has to be declared, if it stands inside of another one. -/
def placePlan (placement : Placement) (hint location : String) (schema : Schema) (shape : Shape) :
    Plan Shape :=
  match placement with
  | .declared => return shape
  | .nested => do
    let extensions ← Plan.given (Extensions.read schema.extensions location)
    Plan.register {
      name := hint
      shape
      description := schema.description
      origin := .inside location
      skipValidation := extensions.skipValidation }
    return .named hint

def declaredRequirements (schema : Schema) : List String :=
  sortedNames (schema.required.filter fun name => (schema.properties.lookup name).isSome)

def fieldPlan (specification : Specification) (jsonName : String) (item : OrRef Schema)
    (required : Bool) (location : String) (shape : Shape) : Plan (Field Shape) := do
  let rules ← Plan.given (fieldRules item location)
  let extensions := rules.extensions
  let field : Field Shape := {
    jsonName, shape
    optionality := optionalityOf extensions required (isNullable specification item)
    omitEmpty := extensions.omitEmpty
    regex := extensions.regex
    constraints := rules.constraints
    trimmable := extensions.trimmable
    skipValidation := extensions.skipValidation
    description := rules.description }
  if extensions.regex.isSome || extensions.trimmable then
    Plan.checkText shape location
    return field
  else return field

def propertyIdentifiers (properties : Table (OrRef Schema)) : List String :=
  properties.map fun entry => Identifier.exported entry.1

/-- Identifiers that differ from one another and from known ones, and are not empty. -/
def Identifiable (known identifiers : List String) : Prop :=
  Fresh known identifiers ∧ "" ∉ identifiers

instance (known identifiers : List String) : Decidable (Identifiable known identifiers) :=
  inferInstanceAs (Decidable (_ ∧ _))

theorem identifiable_cons {known identifiers : List String} {identifier : String} :
    Identifiable known (identifier :: identifiers) ↔
      identifier ≠ "" ∧ identifier ∉ known ∧ Identifiable (identifier :: known) identifiers := by
  unfold Identifiable
  rw [Fresh.cons_iff, List.mem_cons]
  tauto

structure InnerPlans where
  fields : Plan (List (String × Field Shape))
  element : Plan Shape
  additional : Plan (Additional Shape)
  allOf : Plan (List Shape)
  oneOf : Plan (List Shape)
  anyOf : Plan (List Shape)

namespace InnerPlans

def composed (specification : Specification) (location : String) (schema : Schema)
    (inner : InnerPlans) : Plan Shape :=
  match onlyReference? schema with
  | some target => Plan.given (referenceShape specification target s!"{location}/allOf/0")
  | none =>
    if !schema.allOf.isEmpty then return .allOf (← inner.allOf)
    else if !schema.oneOf.isEmpty then return .oneOf (← inner.oneOf)
    else return .anyOf (← inner.anyOf)

def beside (mapType : Option String) (inner : InnerPlans) : Plan (Additional Shape) :=
  match mapType with
  | some name => return .goMapType name
  | none => inner.additional

def object (placement : Placement) (hint location : String) (mapType : Option String)
    (schema : Schema) (inner : InnerPlans) : Plan Shape := do
  let fields ← inner.fields
  let additional ← inner.beside mapType
  let shape := Shape.object fields (declaredRequirements schema) additional
  if fields.isEmpty && placement = .nested then return shape
  else placePlan placement hint location schema shape

def own (specification : Specification) (placement : Placement) (hint location : String)
    (extensions : Extensions) (schema : Schema) (inner : InnerPlans) : Plan Shape :=
  if extensions.stringParse.isSome then Plan.fails
  else if schema.isComposition then inner.composed specification location schema
  else if schema.isEnum then do
    let enumeration ← Plan.given (enumerationOf schema location)
    placePlan placement hint location schema (.enum enumeration)
  else if schema.isArray then do
    let element ← inner.element
    return .array element schema.minItems schema.maxItems
  else if schema.isObject || schema.additionalProperties.isSome || extensions.mapType.isSome then
    inner.object placement hint location extensions.mapType schema
  else
    Plan.given (plainShape schema location)

def whole (specification : Specification) (placement : Placement) (hint location : String)
    (schema : Schema) (inner : InnerPlans) : Plan Shape := do
  let extensions ← Plan.given (Extensions.read schema.extensions location)
  match extensions.goType with
  | some target =>
    return .custom {
      target, parser := extensions.stringParse, validate := !extensions.skipValidation }
  | none => inner.own specification placement hint location extensions schema

end InnerPlans

mutual
/-- The plan of a schema; `hint` is the name of the component it may become. -/
def shapePlan (specification : Specification) (placement : Placement) (hint location : String) :
    Schema → Plan Shape
  | schema@{ properties, items, additionalProperties, allOf, oneOf, anyOf, .. } =>
    InnerPlans.whole specification placement hint location schema {
      fields :=
        if Identifiable [] (propertyIdentifiers properties) then
          fieldPlans specification schema.required hint location properties
        else Plan.fails
      element := elementPlan specification s!"{hint}Item" s!"{location}/items" items
      additional :=
        additionalPlan specification s!"{hint}Value" s!"{location}/additionalProperties"
          additionalProperties
      allOf := memberPlans specification s!"{hint}AllOf" s!"{location}/allOf" 0 allOf
      oneOf := memberPlans specification s!"{hint}OneOf" s!"{location}/oneOf" 0 oneOf
      anyOf := memberPlans specification s!"{hint}AnyOf" s!"{location}/anyOf" 0 anyOf }
termination_by structural schema => schema

def nestedPlan (specification : Specification) (hint location : String) :
    OrRef Schema → Plan Shape
  | .reference target => Plan.given (referenceShape specification target location)
  | .object schema => shapePlan specification .nested hint location schema
termination_by structural item => item

def elementPlan (specification : Specification) (hint location : String) :
    Option (OrRef Schema) → Plan Shape
  | none => return Shape.anything
  | some item => nestedPlan specification hint location item
termination_by structural item => item

def additionalPlan (specification : Specification) (hint location : String) :
    Option (AdditionalProperties Schema) → Plan (Additional Shape)
  | none => return .forbidden
  | some (.allowed flag) => return if flag then .any else .forbidden
  | some (.schema item) => return .typed (← nestedPlan specification hint location item)
termination_by structural additional => additional

def memberPlans (specification : Specification) (hint location : String) (index : Nat) :
    List (OrRef Schema) → Plan (List Shape)
  | [] => return []
  | item :: rest => do
    let shape ← nestedPlan specification s!"{hint}{index}" s!"{location}/{index}" item
    return shape :: (← memberPlans specification hint location (index + 1) rest)
termination_by structural items => items

def fieldPlans (specification : Specification) (required : List String) (hint location : String) :
    Table (OrRef Schema) → Plan (List (String × Field Shape))
  | [] => return []
  | (property, item) :: rest => do
    let fieldLocation := s!"{location}/properties/{property}"
    let shape ← nestedPlan specification s!"{hint}{Identifier.exported property}" fieldLocation item
    let field ←
      fieldPlan specification property item (required.contains property) fieldLocation shape
    let others ← fieldPlans specification required hint location rest
    return (property, field) :: others
termination_by structural properties => properties
end

def innerPlans (specification : Specification) (hint location : String) (schema : Schema) :
    InnerPlans where
  fields :=
    if Identifiable [] (propertyIdentifiers schema.properties) then
      fieldPlans specification schema.required hint location schema.properties
    else Plan.fails
  element := elementPlan specification s!"{hint}Item" s!"{location}/items" schema.items
  additional :=
    additionalPlan specification s!"{hint}Value" s!"{location}/additionalProperties"
      schema.additionalProperties
  allOf := memberPlans specification s!"{hint}AllOf" s!"{location}/allOf" 0 schema.allOf
  oneOf := memberPlans specification s!"{hint}OneOf" s!"{location}/oneOf" 0 schema.oneOf
  anyOf := memberPlans specification s!"{hint}AnyOf" s!"{location}/anyOf" 0 schema.anyOf

theorem shape_plan_of_schema (specification : Specification) (placement : Placement)
    (hint location : String) (schema : Schema) :
    shapePlan specification placement hint location schema =
      (innerPlans specification hint location schema).whole specification placement hint location
        schema := by
  cases schema
  rw [shapePlan]
  rfl

section Playing

variable {before : Draft → Prop}

theorem place_plays (placement : Placement) (hint location : String) (schema : Schema)
    (shape : Shape) :
    Plays before (place placement hint location schema shape)
      (placePlan placement hint location schema shape) := by
  cases placement with
  | declared => exact Plays.pure
  | nested =>
      apply Plays.lift_except.followed_by
      intro extensions
      apply Plays.register.followed_by
      intro _
      exact Plays.pure

/-- Names that are not declared are only warned of. -/
theorem required_names_plays (schema : Schema) (location : String) :
    Plays before (requiredNames schema location) (pure (declaredRequirements schema)) := by
  unfold requiredNames
  refine Plays.after_silent (Plays.each_silent schema.required ?_) Plays.pure
  intro name
  split
  · exact Plays.warn.after_silent Plays.pure
  · exact Plays.pure

theorem field_plays (specification : Specification) (jsonName : String) (item : OrRef Schema)
    (required : Bool) (location : String) (shape : Shape) :
    Plays before (fieldOf specification jsonName item required location shape)
      (fieldPlan specification jsonName item required location shape) := by
  unfold fieldOf fieldPlan
  apply Plays.lift_except.followed_by
  intro rules
  dsimp only
  split
  · apply Plays.check_text_later.followed_by
    intro _
    exact Plays.pure
  · exact Plays.pure

/-- The shape of a schema is given by its plan. -/
def PlaysShape (specification : Specification) (schema : Schema) : Prop :=
  ∀ placement hint location, Plays (fun _ => True)
    (shapeOf specification placement hint location schema)
    (shapePlan specification placement hint location schema)

variable {specification : Specification}

theorem nested_shape_plays {item : OrRef Schema}
    (inside : item.Satisfies (PlaysShape specification)) (hint location : String) :
    Plays before (nestedShape specification hint location item)
      (nestedPlan specification hint location item) := by
  cases item with
  | reference target => exact Plays.lift_except
  | object schema => exact (inside .nested hint location).weaken fun _ _ => trivial

theorem element_shape_plays {items : Option (OrRef Schema)}
    (inside : ∀ item, items = some item → item.Satisfies (PlaysShape specification))
    (hint location : String) :
    Plays before (elementShape specification hint location items)
      (elementPlan specification hint location items) := by
  cases items with
  | none => exact Plays.pure
  | some item => exact nested_shape_plays (inside item rfl) hint location

theorem additional_shape_plays {additional : Option (AdditionalProperties Schema)}
    (inside : ∀ item, additional = some (.schema item) → item.Satisfies (PlaysShape specification))
    (hint location : String) :
    Plays before (additionalShape specification hint location additional)
      (additionalPlan specification hint location additional) := by
  match additional with
  | none => exact Plays.pure
  | some (.allowed flag) => exact Plays.pure
  | some (.schema item) =>
      apply (nested_shape_plays (inside item rfl) hint location).followed_by
      intro shape
      exact Plays.pure

theorem member_shapes_plays {items : List (OrRef Schema)}
    (inside : ∀ item ∈ items, item.Satisfies (PlaysShape specification)) (hint location : String)
    (index : Nat) :
    Plays before (memberShapes specification hint location index items)
      (memberPlans specification hint location index items) := by
  induction items generalizing index before with
  | nil => exact Plays.pure
  | cons item rest induction =>
      obtain ⟨first, others⟩ := List.forall_mem_cons.mp inside
      rw [memberShapes, memberPlans]
      apply (nested_shape_plays first _ _).followed_by
      intro shape
      apply (induction others (index + 1)).followed_by
      intro shapes
      exact Plays.pure

/-- Identifiers that are compared one after the other may be compared in advance. -/
theorem property_fields_plays {properties : Table (OrRef Schema)}
    (inside : ∀ entry ∈ properties, entry.2.Satisfies (PlaysShape specification))
    (required : List String) (hint location : String) (known : List (String × String)) :
    Plays before (propertyFields specification required hint location known properties)
      (if Identifiable (known.map (·.1)) (propertyIdentifiers properties) then
        fieldPlans specification required hint location properties
      else Plan.fails) := by
  induction properties generalizing known before with
  | nil => exact Plays.pure
  | cons entry rest induction =>
      obtain ⟨property, item⟩ := entry
      obtain ⟨first, others⟩ := List.forall_mem_cons.mp inside
      have identified : propertyIdentifiers ((property, item) :: rest) =
          Identifier.exported property :: propertyIdentifiers rest := rfl
      rw [propertyFields, fieldPlans, identified]
      simp only [Drafting.fail_bind, identifiable_cons]
      generalize Identifier.exported property = identifier
      by_cases nameless : identifier = ""
      · rw [if_pos (by rw [nameless]; rfl), if_neg fun stated => stated.1 nameless]
        exact Plays.fail
      rw [if_neg (by rwa [String.isEmpty_iff])]
      cases found : known.lookup identifier with
      | some other =>
          rw [if_neg fun stated => stated.2.1 (known_of_lookup found)]
          exact Plays.throw
      | none =>
          have others : Plays (fun _ => True) (propertyFields specification required hint location
              ((identifier, property) :: known) rest)
              (if Identifiable (identifier :: known.map (·.1)) (propertyIdentifiers rest) then
                fieldPlans specification required hint location rest
              else Plan.fails) :=
            induction others ((identifier, property) :: known)
          dsimp only
          by_cases distinct : Identifiable (identifier :: known.map (·.1)) (propertyIdentifiers rest)
          · rw [if_pos distinct] at others
            have apart := And.intro nameless (And.intro (unknown_iff.mp found) distinct)
            rw [if_pos apart]
            apply (nested_shape_plays first _ _).followed_by
            intro shape
            apply (field_plays _ _ _ _ _ _).followed_by
            intro field
            apply others.followed_by
            intro fields
            exact Plays.pure
          · rw [if_neg distinct] at others
            rw [if_neg fun stated => distinct stated.2.2]
            apply (nested_shape_plays first _ _).bind_fails
            intro shape
            apply (field_plays _ _ _ _ _ _).bind_fails
            intro field
            exact others.fails_first

section Inner

variable {schema : Schema} (inside : schema.Inside (PlaysShape specification))

include inside

theorem composed_shape_plays (hint location : String) :
    Plays before (composedShape specification hint location schema)
      ((innerPlans specification hint location schema).composed specification location schema) := by
  unfold composedShape InnerPlans.composed
  cases onlyReference? schema with
  | some target => exact Plays.lift_except
  | none =>
    dsimp only
    split
    · apply (member_shapes_plays inside.allOf _ _ 0).followed_by
      intro members
      exact Plays.pure
    · split
      · apply (member_shapes_plays inside.oneOf _ _ 0).followed_by
        intro members
        exact Plays.pure
      · apply (member_shapes_plays inside.anyOf _ _ 0).followed_by
        intro members
        exact Plays.pure

theorem beside_fields_plays (hint location : String) (mapType : Option String) :
    Plays before (besideFields specification hint location mapType schema)
      ((innerPlans specification hint location schema).beside mapType) := by
  cases mapType with
  | some name => exact Plays.pure
  | none => exact additional_shape_plays inside.additional _ _

theorem object_shape_plays (placement : Placement) (hint location : String)
    (mapType : Option String) :
    Plays before (objectShape specification placement hint location mapType schema)
      ((innerPlans specification hint location schema).object placement hint location mapType
        schema) := by
  apply (property_fields_plays inside.properties schema.required hint location []).followed_by
  intro fields
  apply (required_names_plays schema location).after_silent
  apply (beside_fields_plays inside hint location mapType).followed_by
  intro additional
  dsimp only
  split
  · exact Plays.pure
  · exact place_plays placement hint location schema _

theorem own_shape_plays (placement : Placement) (hint location : String)
    (extensions : Extensions) :
    Plays before (ownShape specification placement hint location extensions schema)
      ((innerPlans specification hint location schema).own specification placement hint location
        extensions schema) := by
  unfold ownShape InnerPlans.own
  split
  · exact Plays.fail
  split
  · exact composed_shape_plays inside hint location
  split
  · apply Plays.lift_except.followed_by
    intro enumeration
    exact place_plays placement hint location schema _
  split
  · apply (element_shape_plays inside.items _ _).followed_by
    intro element
    exact Plays.pure
  split
  · exact object_shape_plays inside placement hint location extensions.mapType
  · exact Plays.lift_except

end Inner

/-- Every schema. Nothing has to be known of the draft, as no component is looked at. -/
theorem shape_plays (schema : Schema) : PlaysShape specification schema := by
  induction schema using Schema.of_inside with
  | step schema inside =>
      intro placement hint location
      rw [shape_of_schema, shape_plan_of_schema]
      apply Plays.lift_except.followed_by
      intro extensions
      cases extensions.goType with
      | some target => exact Plays.pure
      | none => exact own_shape_plays inside placement hint location extensions

theorem nested_plays (item : OrRef Schema) (hint location : String) :
    Plays before (nestedShape specification hint location item)
      (nestedPlan specification hint location item) := by
  apply nested_shape_plays
  cases item with
  | reference target => trivial
  | object schema => exact shape_plays schema

def declaredPlan (specification : Specification) (key : String) (item : OrRef Schema) :
    Plan Unit :=
  let location := OpenApi.schemasPlace ++ key
  let name := Identifier.exported key
  if name.isEmpty then Plan.fails
  else
    match item with
    | .reference target => do
      let shape ← Plan.given (referenceShape specification target location)
      Plan.register {
        name, shape, description := none, origin := .declared key, skipValidation := false }
    | .object schema => do
      let extensions ← Plan.given (Extensions.read schema.extensions location)
      let shape ← shapePlan specification .declared name location schema
      Plan.register {
        name, shape
        description := schema.description
        origin := .declared key
        skipValidation := extensions.skipValidation }

theorem declare_schema_plays (key : String) (item : OrRef Schema) :
    Plays before (declareSchema specification key item) (declaredPlan specification key item) := by
  unfold declareSchema declaredPlan
  simp only [Drafting.fail_bind]
  split
  · exact Plays.fail
  · cases item with
    | reference target =>
        apply Plays.lift_except.followed_by
        intro shape
        exact Plays.register
    | object schema =>
        apply Plays.lift_except.followed_by
        intro extensions
        apply (shape_plays schema .declared _ _).followed_by
        intro shape
        exact Plays.register

def declaredPlans (specification : Specification) (schemas : Table (OrRef Schema)) : Plan Unit := do
  let _ ← Plan.collect (fun entry => declaredPlan specification entry.1 entry.2) schemas
  return ()

theorem declare_schemas_plays :
    Plays before (declareSchemas specification)
      (declaredPlans specification (sortByKey specification.components.schemas)) := by
  have planned : declaredPlans specification (sortByKey specification.components.schemas) =
      ((Plan.collect (fun entry => declaredPlan specification entry.1 entry.2)
        (sortByKey specification.components.schemas) >>= fun _ => pure PUnit.unit) >>=
          fun _ => pure ()) := by
    rw [Plan.bind_assoc]
    rfl
  unfold declareSchemas
  rw [planned]
  refine (Plays.each _ _ ?_).followed_by fun _ => Plays.pure
  rintro ⟨key, item⟩
  apply (declare_schema_plays key item).followed_by
  intro _
  exact Plays.pure

end Playing

end ApiScaffold.Blueprint
