import ApiScaffold.Proofs.PlanParts
import ApiScaffold.Proofs.SimilarShape

/-!
One level of a schema. The form of a schema tells what it comes down to where it is declared, and
which plans inside of it have part in that. A schema that stands inside of another one is declared
first; what then needs a name of its own is registered under the name that was handed on to it. So
every component is what some schema comes down to where it is declared.
-/

namespace ApiScaffold.Blueprint

open OpenApi (Schema OrRef Extensions Specification AdditionalProperties Table)

/-- What a schema is taken for; of the forms that fit, the first one counts. -/
inductive SchemaForm where
  | custom
  | composition
  | enumeration
  | array
  | object
  | plain
deriving DecidableEq

def SchemaForm.of (extensions : Extensions) (schema : Schema) : SchemaForm :=
  if extensions.goType.isSome then .custom
  else if schema.isComposition then .composition
  else if schema.isEnum then .enumeration
  else if schema.isArray then .array
  else if schema.isObject || schema.additionalProperties.isSome || extensions.mapType.isSome then
    .object
  else .plain

/-- Whether a type can be written where the shape stands. Enumerations and objects with fields need
a declaration. -/
def Shape.isInPlace : Shape → Bool
  | .enum _ => false
  | .object fields _ _ => fields.isEmpty
  | _ => true

theorem reference_named {specification : Specification} {target location : String} {shape : Shape}
    (referred : referenceShape specification target location = .ok shape) :
    ∃ key, target = OpenApi.schemasPlace ++ key ∧ shape = .named (Identifier.exported key) ∧
      (specification.components.schemas.lookup key).isSome := by
  unfold referenceShape at referred
  split at referred
  · rename_i key cut
    split at referred
    · rename_i declared
      cases referred
      exact ⟨key, Text.dropStart?_eq_some_iff.mp cut, rfl, declared⟩
    · cases referred
  · cases referred

theorem plain_in_place {schema : Schema} {location : String} {shape : Shape}
    (given : plainShape schema location = .ok shape) : shape.isInPlace = true := by
  unfold plainShape at given
  split at given <;> cases given <;> rfl

/-- What a schema comes down to where it is declared. What stands inside of it gives its part within
the effects. -/
inductive Outlined (specification : Specification) (whole : Effects) (hint location : String)
    (extensions : Extensions) (schema : Schema) : Shape → Prop where
  | custom {target : QualifiedName} (stated : extensions.goType = some target) :
    Outlined specification whole hint location extensions schema (.custom {
      target, parser := extensions.stringParse, validate := !extensions.skipValidation })
  | reference {target : String} {shape : Shape}
    (form : SchemaForm.of extensions schema = .composition)
    (sole : onlyReference? schema = some target)
    (referred : referenceShape specification target s!"{location}/allOf/0" = .ok shape) :
    Outlined specification whole hint location extensions schema shape
  | allOf {members : List Shape} (form : SchemaForm.of extensions schema = .composition)
    (several : onlyReference? schema = none)
    (planned : (innerPlans specification hint location schema).allOf.Gives whole members) :
    Outlined specification whole hint location extensions schema (.allOf members)
  | oneOf {members : List Shape} (form : SchemaForm.of extensions schema = .composition)
    (several : onlyReference? schema = none)
    (planned : (innerPlans specification hint location schema).oneOf.Gives whole members) :
    Outlined specification whole hint location extensions schema (.oneOf members)
  | anyOf {members : List Shape} (form : SchemaForm.of extensions schema = .composition)
    (several : onlyReference? schema = none)
    (planned : (innerPlans specification hint location schema).anyOf.Gives whole members) :
    Outlined specification whole hint location extensions schema (.anyOf members)
  | enumeration {enumeration : Enumeration} (form : SchemaForm.of extensions schema = .enumeration)
    (read : enumerationOf schema location = .ok enumeration) :
    Outlined specification whole hint location extensions schema (.enum enumeration)
  | array {element : Shape} (form : SchemaForm.of extensions schema = .array)
    (planned : (innerPlans specification hint location schema).element.Gives whole element) :
    Outlined specification whole hint location extensions schema
      (.array element schema.minItems schema.maxItems)
  | object {fields : List (String × Field Shape)} {additional : Additional Shape}
    (form : SchemaForm.of extensions schema = .object)
    (planned : (innerPlans specification hint location schema).fields.Gives whole fields)
    (beside : ((innerPlans specification hint location schema).beside extensions.mapType).Gives
      whole additional) :
    Outlined specification whole hint location extensions schema
      (.object fields (declaredRequirements schema) additional)
  | plain {shape : Shape} (form : SchemaForm.of extensions schema = .plain)
    (given : plainShape schema location = .ok shape) :
    Outlined specification whole hint location extensions schema shape

section Shapes

variable {specification : Specification} {whole : Effects} {hint location : String}
  {schema : Schema}

theorem composed_outlined {extensions : Extensions} {shape : Shape}
    (form : SchemaForm.of extensions schema = .composition)
    (gives : ((innerPlans specification hint location schema).composed specification location
      schema).Gives whole shape) :
    Outlined specification whole hint location extensions schema shape := by
  unfold InnerPlans.composed at gives
  split at gives
  case h_1 target sole => exact .reference form sole gives.of_given
  case h_2 several =>
    split at gives
    · obtain ⟨members, planned, ended⟩ := Plan.Gives.bind_iff.mp gives
      rw [ended.eq_of_pure]
      exact .allOf form several planned
    split at gives
    · obtain ⟨members, planned, ended⟩ := Plan.Gives.bind_iff.mp gives
      rw [ended.eq_of_pure]
      exact .oneOf form several planned
    · obtain ⟨members, planned, ended⟩ := Plan.Gives.bind_iff.mp gives
      rw [ended.eq_of_pure]
      exact .anyOf form several planned

theorem object_outlined {extensions : Extensions} {shape : Shape}
    (form : SchemaForm.of extensions schema = .object)
    (gives : ((innerPlans specification hint location schema).object .declared hint location
      extensions.mapType schema).Gives whole shape) :
    Outlined specification whole hint location extensions schema shape := by
  obtain ⟨fields, planned, following⟩ := Plan.Gives.bind_iff.mp gives
  obtain ⟨additional, beside, ended⟩ := Plan.Gives.bind_iff.mp following
  have same : shape = .object fields (declaredRequirements schema) additional := by
    simp only [reduceCtorEq, decide_false, Bool.and_false] at ended
    exact ended.eq_of_pure
  rw [same]
  exact .object form planned beside

/-- The first form that fits is the one whose plan is taken. -/
theorem own_outlined {extensions : Extensions} {shape : Shape} (untyped : extensions.goType = none)
    (gives : ((innerPlans specification hint location schema).own specification .declared hint
      location extensions schema).Gives whole shape) :
    Outlined specification whole hint location extensions schema shape := by
  unfold InnerPlans.own at gives
  split at gives
  · exact absurd gives Plan.Gives.not_fails
  split at gives
  case isTrue composition =>
    have form : SchemaForm.of extensions schema = .composition := by
      simp [SchemaForm.of, untyped, composition]
    exact composed_outlined form gives
  split at gives
  case isTrue simple enumeration =>
    have form : SchemaForm.of extensions schema = .enumeration := by
      simp [SchemaForm.of, untyped, simple, enumeration]
    obtain ⟨read, given, ended⟩ := Plan.Gives.bind_iff.mp gives
    rw [ended.eq_of_pure]
    exact .enumeration form given.of_given
  split at gives
  case isTrue simple single array =>
    have form : SchemaForm.of extensions schema = .array := by
      simp [SchemaForm.of, untyped, simple, single, array]
    obtain ⟨element, planned, ended⟩ := Plan.Gives.bind_iff.mp gives
    rw [ended.eq_of_pure]
    exact .array form planned
  split at gives
  case isTrue simple single bare object =>
    have form : SchemaForm.of extensions schema = .object := by
      simp only [SchemaForm.of, untyped, simple, single, bare, object]
      rfl
    exact object_outlined form gives
  case isFalse simple single bare plain =>
    have form : SchemaForm.of extensions schema = .plain := by
      simp only [SchemaForm.of, untyped, simple, single, bare, plain]
      rfl
    exact .plain form gives.of_given

theorem declared_outlined {shape : Shape}
    (gives : (shapePlan specification .declared hint location schema).Gives whole shape) :
    ∃ extensions, Extensions.read schema.extensions location = .ok extensions ∧
      Outlined specification whole hint location extensions schema shape := by
  rw [shape_plan_of_schema] at gives
  obtain ⟨extensions, read, own⟩ := Plan.Gives.bind_iff.mp gives
  refine ⟨extensions, read.of_given, ?_⟩
  split at own
  case h_1 target stated =>
    rw [own.eq_of_pure]
    exact .custom stated
  case h_2 untyped => exact own_outlined untyped own

end Shapes

section Nesting

variable {specification : Specification} {whole : Effects} {hint location : String}
  {schema : Schema}

def settlePlan (hint location : String) (schema : Schema) (shape : Shape) : Plan Shape :=
  if shape.isInPlace then return shape else placePlan .nested hint location schema shape

theorem settle_in_place {shape : Shape} (inPlace : shape.isInPlace = true) :
    settlePlan hint location schema shape = pure shape := if_pos inPlace

theorem settle_given {outcome : Except Diagnostic Shape}
    (inPlace : ∀ shape, outcome = .ok shape → shape.isInPlace = true) :
    (Plan.given outcome >>= settlePlan hint location schema) = Plan.given outcome := by
  cases outcome with
  | error diagnostic => rfl
  | ok shape =>
      rw [Plan.given, Plan.pure_bind]
      exact settle_in_place (inPlace shape rfl)

theorem settle_bound {α : Type} (plan : Plan α) {shape : α → Shape}
    (inPlace : ∀ value, (shape value).isInPlace = true) :
    ((plan >>= fun value => pure (shape value)) >>= settlePlan hint location schema) =
      (plan >>= fun value => pure (shape value)) := by
  rw [Plan.bind_assoc]
  congr 1
  funext value
  rw [Plan.pure_bind]
  exact settle_in_place (inPlace value)

theorem composed_settled :
    ((innerPlans specification hint location schema).composed specification location schema >>=
        settlePlan hint location schema) =
      (innerPlans specification hint location schema).composed specification location schema := by
  unfold InnerPlans.composed
  split
  · apply settle_given
    intro shape referred
    obtain ⟨key, _, rfl, _⟩ := reference_named referred
    rfl
  split
  · exact settle_bound _ fun _ => rfl
  split
  · exact settle_bound _ fun _ => rfl
  · exact settle_bound _ fun _ => rfl

theorem object_settled (mapType : Option String) :
    ((innerPlans specification hint location schema).object .declared hint location mapType
        schema >>= settlePlan hint location schema) =
      (innerPlans specification hint location schema).object .nested hint location mapType
        schema := by
  unfold InnerPlans.object
  rw [Plan.bind_assoc]
  congr 1
  funext fields
  rw [Plan.bind_assoc]
  congr 1
  funext additional
  cases fields with
  | nil => exact Plan.pure_bind _ _
  | cons first rest => exact Plan.pure_bind _ _

/-- What stands inside of a schema is declared first, and then settled. -/
theorem nested_plan_settled : shapePlan specification .nested hint location schema =
    (shapePlan specification .declared hint location schema >>=
      settlePlan hint location schema) := by
  rw [shape_plan_of_schema, shape_plan_of_schema]
  unfold InnerPlans.whole
  rw [Plan.bind_assoc]
  congr 1
  funext extensions
  cases extensions.goType with
  | some target =>
      exact ((Plan.pure_bind _ _).trans (settle_in_place rfl)).symm
  | none =>
      dsimp only
      unfold InnerPlans.own
      split
      · rfl
      split
      · exact composed_settled.symm
      split
      · rw [Plan.bind_assoc]
        congr 1
        funext enumeration
        exact (Plan.pure_bind _ _).symm
      split
      · exact (settle_bound _ fun _ => rfl).symm
      split
      · exact (object_settled extensions.mapType).symm
      · exact (settle_given fun shape given => plain_in_place given).symm

end Nesting

end ApiScaffold.Blueprint
