import ApiScaffold.Proofs.NormalForm
import ApiScaffold.Proofs.PlacedShapes

/-!
The type that a schema has where it is spelt out. A schema that needs no declaration of its own is
drawn alike wherever it stands. So it has one type; under another name, only the components that are
declared for what stands inside of it are called differently.
-/

namespace ApiScaffold

namespace Go

/-- The same type, but for the names of components, which begin otherwise. -/
inductive TypeExpression.Renamed (old new : String) : TypeExpression → TypeExpression → Prop where
  | same {type : TypeExpression} : Renamed old new type type
  | component {ending : String} :
    Renamed old new (.named (.component (old ++ ending))) (.named (.component (new ++ ending)))
  | slice {first second : TypeExpression} (element : Renamed old new first second) :
    Renamed old new (.slice first) (.slice second)
  | map {first second : TypeExpression} (value : Renamed old new first second) :
    Renamed old new (.map first) (.map second)

theorem TypeExpression.Renamed.of_longer {old new ending : String} {first second : TypeExpression}
    (renamed : Renamed (old ++ ending) (new ++ ending) first second) :
    Renamed old new first second := by
  induction renamed with
  | same => exact .same
  | component =>
      rw [String.append_assoc, String.append_assoc]
      exact .component
  | slice _ induction => exact .slice induction
  | map _ induction => exact .map induction

theorem TypeExpression.Renamed.eq {name : String} {first second : TypeExpression}
    (renamed : Renamed name name first second) : first = second := by
  induction renamed with
  | same | component => rfl
  | slice _ induction => rw [induction]
  | map _ induction => rw [induction]

end Go

namespace Blueprint

open Go (TypeExpression)
open OpenApi (Schema OrRef Extensions Specification AdditionalProperties)

def staysInPlace (schema : Schema) : Bool :=
  match statedForm schema with
  | some .enumeration => false
  | some .object => schema.properties.isEmpty
  | _ => true

def allowsNoOthers : Option (AdditionalProperties Schema) → Bool
  | none => true
  | some (.allowed flag) => !flag
  | some (.schema _) => false

/-- Nothing is said of the values, or only that they are objects. -/
def saysNothing (schema : Schema) : Bool :=
  match statedExtensions schema with
  | none => false
  | some extensions =>
    match SchemaForm.of extensions schema with
    | .plain => schema.primaryType.isNone
    | .object =>
      schema.properties.isEmpty && extensions.mapType.isNone &&
        allowsNoOthers schema.additionalProperties
    | _ => false

def Shape.isAnything : Shape → Bool
  | .object [] _ .forbidden => true
  | _ => false

section Places

variable {specification : Specification} {whole : Effects} {hint location : String}
  {schema : Schema} {shape : Shape}

theorem FieldsGiven.is_empty {fields : List (String × Field Shape)}
    (kept : FieldsGiven specification whole hint location schema fields) :
    fields.isEmpty = schema.properties.isEmpty := by
  have names := congrArg List.isEmpty kept.names
  rwa [List.isEmpty_map, List.isEmpty_map] at names

theorem custom_form {extensions : Extensions} {target : QualifiedName}
    (stated : extensions.goType = some target) : SchemaForm.of extensions schema = .custom := by
  rw [SchemaForm.of, stated]
  rfl

/-- What a schema comes down to stays in place iff the schema does. -/
theorem declared_stays (gives : (shapePlan specification .declared hint location schema).Gives whole
    shape) : shape.isInPlace = staysInPlace schema := by
  obtain ⟨extensions, read, outlined⟩ := declared_outlined gives
  unfold staysInPlace
  rw [stated_form_of_read read]
  cases outlined with
  | custom stated => rw [custom_form stated]; rfl
  | reference form sole referred =>
      obtain ⟨key, _, rfl, _⟩ := reference_named referred
      rw [form]
      rfl
  | object form planned beside =>
      rw [form]
      exact (fields_give planned).is_empty
  | plain form given =>
      rw [form]
      exact plain_in_place given
  | _ form => rw [form]; rfl

theorem beside_is_anything {mapType : Option String} {additional : Additional Shape}
    (gives : ((innerPlans specification hint location schema).beside mapType).Gives whole
      additional) :
    (Shape.object [] [] additional).isAnything =
      (mapType.isNone && allowsNoOthers schema.additionalProperties) := by
  cases mapType with
  | some name =>
      rw [gives.eq_of_pure]
      rfl
  | none =>
      unfold InnerPlans.beside innerPlans at gives
      dsimp only at gives
      generalize schema.additionalProperties = stated at gives ⊢
      match stated with
      | none =>
          rw [gives.eq_of_pure]
          rfl
      | some (.allowed flag) =>
          have same := gives.eq_of_pure
          cases flag <;> rw [same] <;> rfl
      | some (.schema item) =>
          obtain ⟨element, _, ended⟩ := Plan.Gives.bind_iff.mp gives
          rw [ended.eq_of_pure]
          rfl

theorem declared_says_nothing
    (gives : (shapePlan specification .declared hint location schema).Gives whole shape) :
    shape.isAnything = saysNothing schema := by
  obtain ⟨extensions, read, outlined⟩ := declared_outlined gives
  unfold saysNothing
  rw [stated_of_read read]
  dsimp only
  cases outlined with
  | custom stated => rw [custom_form stated]; rfl
  | reference form sole referred =>
      obtain ⟨key, _, rfl, _⟩ := reference_named referred
      rw [form]
      rfl
  | @object fields additional form planned beside =>
      rw [form]
      dsimp only
      rw [← (fields_give planned).is_empty, Bool.and_assoc, ← beside_is_anything beside]
      cases fields with
      | nil => cases additional <;> rfl
      | cons first rest => rfl
  | plain form given =>
      rw [form]
      unfold plainShape at given
      split at given
      case h_6 => cases given
      all_goals
        rename_i stated
        cases given
        rw [stated]
        rfl
  | _ form => rw [form]; rfl

/-- An object without properties is not declared. -/
theorem object_placement (mapType : Option String) (bare : schema.properties = []) :
    objectShape specification .nested hint location mapType schema =
      objectShape specification .declared hint location mapType schema := by
  unfold objectShape
  rw [bare, propertyFields]
  rfl

theorem own_placement {extensions : Extensions} (untyped : extensions.goType = none)
    (unlisted : SchemaForm.of extensions schema ≠ .enumeration)
    (bare : SchemaForm.of extensions schema = .object → schema.properties = []) :
    ownShape specification .nested hint location extensions schema =
      ownShape specification .declared hint location extensions schema := by
  unfold SchemaForm.of at unlisted bare
  rw [untyped, Option.isSome_none, if_neg Bool.false_ne_true] at unlisted bare
  unfold ownShape
  split
  · rfl
  split
  · rfl
  case isFalse simple =>
  rw [if_neg simple] at unlisted bare
  split
  case isTrue listed => exact absurd (if_pos listed) unlisted
  case isFalse single =>
  rw [if_neg single] at bare
  split
  · rfl
  case isFalse lone =>
  rw [if_neg lone] at bare
  split
  case isTrue object => exact object_placement _ (bare (if_pos object))
  case isFalse => rfl

/-- Once the extensions of a schema are read, they decide upon its shape. -/
theorem shape_of_read {placement : Placement} {extensions : Extensions}
    (read : Extensions.read schema.extensions location = .ok extensions) :
    shapeOf specification placement hint location schema =
      match extensions.goType with
      | some target =>
        pure (.custom {
          target, parser := extensions.stringParse, validate := !extensions.skipValidation })
      | none => ownShape specification placement hint location extensions schema := by
  rw [shape_of_schema, read]
  rfl

/-- For a schema that stays in place, where it stands makes no difference. -/
theorem placement_immaterial (stays : staysInPlace schema = true) :
    shapeOf specification .nested hint location schema =
      shapeOf specification .declared hint location schema := by
  cases read : Extensions.read schema.extensions location with
  | error diagnostic =>
      rw [shape_of_schema, shape_of_schema, read]
      rfl
  | ok extensions =>
      unfold staysInPlace at stays
      rw [stated_form_of_read read] at stays
      rw [shape_of_read read, shape_of_read read]
      split
      case h_1 => rfl
      case h_2 untyped =>
        apply own_placement untyped
        · intro listed
          rw [listed] at stays
          cases stays
        · intro object
          rw [object] at stays
          exact List.isEmpty_iff.mp stays

end Places

/-- A schema has the type where it is spelt out; the name is that of the place. -/
def TypedInPlace (specification : Specification) (name : String) (schema : Schema)
    (type : TypeExpression) : Prop :=
  ∃ location draft shape reached,
    (shapeOf specification .nested name location schema).run.run draft = (.ok shape, reached) ∧
      Server.typeOf shape = type

/-- Wherever a schema that stays in place is spelt out, it has the same type. -/
def TypedAlike (schema : Schema) : Prop :=
  ∀ {specification specification' : Specification} {whole whole' : Effects}
    {hint hint' location location' : String} {shape shape' : Shape},
    staysInPlace schema = true →
      (shapePlan specification .declared hint location schema).Gives whole shape →
      (shapePlan specification' .declared hint' location' schema).Gives whole' shape' →
      (Server.typeOf shape).Renamed hint hint' (Server.typeOf shape')

section Types

open Server (typeOf)

variable {specification specification' : Specification} {whole whole' : Effects}
  {hint hint' location location' : String} {shape shape' : Shape}

/-- A reference gives the same name everywhere. -/
theorem references_agree {target : String}
    (referred : referenceShape specification target location = .ok shape)
    (referred' : referenceShape specification' target location' = .ok shape') : shape = shape' := by
  obtain ⟨key, rfl, rfl, _⟩ := reference_named referred
  obtain ⟨key', written, rfl, _⟩ := reference_named referred'
  rw [(String.append_right_inj _).mp written]

theorem nested_typed_alike {item : OrRef Schema} (inside : item.Satisfies TypedAlike)
    (gives : (nestedPlan specification hint location item).Gives whole shape)
    (gives' : (nestedPlan specification' hint' location' item).Gives whole' shape') :
    (typeOf shape).Renamed hint hint' (typeOf shape') := by
  cases item with
  | reference target =>
      rw [references_agree gives.of_given gives'.of_given]
      exact .same
  | object schema =>
      rw [nestedPlan, nested_plan_settled] at gives gives'
      obtain ⟨own, declared, settled⟩ := Plan.Gives.bind_iff.mp gives
      obtain ⟨own', declared', settled'⟩ := Plan.Gives.bind_iff.mp gives'
      -- either both stay in place or both become components
      have alike := (declared_stays declared).trans (declared_stays declared').symm
      rcases settle_gives settled with ⟨stays, rfl⟩ | ⟨moves, rfl, _⟩ <;>
        rcases settle_gives settled' with ⟨stays', rfl⟩ | ⟨moves', rfl, _⟩
      · exact inside ((declared_stays declared).symm.trans stays) declared declared'
      · rw [stays, moves'] at alike
        cases alike
      · rw [moves, stays'] at alike
        cases alike
      · have same := @TypeExpression.Renamed.component hint hint' ""
        rwa [String.append_empty, String.append_empty] at same

theorem element_typed_alike {items : Option (OrRef Schema)}
    (inside : ∀ item, items = some item → item.Satisfies TypedAlike)
    (gives : (elementPlan specification hint location items).Gives whole shape)
    (gives' : (elementPlan specification' hint' location' items).Gives whole' shape') :
    (typeOf shape).Renamed hint hint' (typeOf shape') := by
  cases items with
  | none =>
      rw [gives.eq_of_pure, gives'.eq_of_pure]
      exact .same
  | some item => exact nested_typed_alike (inside item rfl) gives gives'

theorem beside_typed_alike {schema : Schema} {mapType : Option String}
    {additional additional' : Additional Shape} (inside : schema.Inside TypedAlike)
    (gives : ((innerPlans specification hint location schema).beside mapType).Gives whole
      additional)
    (gives' : ((innerPlans specification' hint' location' schema).beside mapType).Gives whole'
      additional') :
    (Server.mapTypeOf true additional).Renamed hint hint' (Server.mapTypeOf true additional') := by
  have others := inside.additional
  unfold InnerPlans.beside innerPlans at gives gives'
  dsimp only at gives gives'
  cases mapType with
  | some name =>
      rw [gives.eq_of_pure, gives'.eq_of_pure]
      exact .same
  | none =>
      dsimp only at gives gives'
      generalize schema.additionalProperties = stated at gives gives' others
      match stated with
      | none =>
          rw [gives.eq_of_pure, gives'.eq_of_pure]
          exact .same
      | some (.allowed flag) =>
          rw [gives.eq_of_pure, gives'.eq_of_pure]
          exact .same
      | some (.schema item) =>
          obtain ⟨element, nested, ended⟩ := Plan.Gives.bind_iff.mp gives
          obtain ⟨element', nested', ended'⟩ := Plan.Gives.bind_iff.mp gives'
          rw [ended.eq_of_pure, ended'.eq_of_pure]
          exact .map (nested_typed_alike (others item rfl) nested nested').of_longer

section Forms

variable {schema : Schema}
  (gives : (shapePlan specification .declared hint location schema).Gives whole shape)

include gives

theorem custom_given {extensions : Extensions} {target : QualifiedName}
    (stated : statedExtensions schema = some extensions) (typed : extensions.goType = some target) :
    shape = .custom {
      target, parser := extensions.stringParse, validate := !extensions.skipValidation } := by
  obtain ⟨other, read, outlined⟩ := declared_outlined gives
  cases stated.symm.trans (stated_of_read read)
  cases outlined with
  | custom known =>
      cases typed.symm.trans known
      rfl
  | _ form => cases (custom_form typed).symm.trans form

/-- Of a composition, only a single reference is left. -/
theorem composition_given (stated : statedForm schema = some .composition) :
    match onlyReference? schema with
    | some target => ∃ location, referenceShape specification target location = .ok shape
    | none => typeOf shape = .anything := by
  obtain ⟨extensions, _, form, outlined⟩ := formed_gives gives stated
  cases outlined with
  | reference _ sole referred =>
      rw [sole]
      exact ⟨_, referred⟩
  | allOf _ several | oneOf _ several | anyOf _ several =>
      rw [several]
      rfl
  | custom typed => cases form.symm.trans (custom_form typed)
  | _ other => cases form.symm.trans other

theorem plain_given (stated : statedForm schema = some .plain) :
    plainShape schema "" = .ok shape := by
  obtain ⟨extensions, _, form, outlined⟩ := formed_gives gives stated
  cases outlined with
  | plain _ given =>
      unfold plainShape at given ⊢
      split at given <;> first | exact given | cases given
  | custom typed => cases form.symm.trans (custom_form typed)
  | _ other => cases form.symm.trans other

end Forms

theorem typed_alike (schema : Schema) : TypedAlike schema := by
  induction schema using Schema.of_inside with
  | step schema inside =>
      intro specification specification' whole whole' hint hint' location location' shape shape'
        stays gives gives'
      obtain ⟨extensions, read, outlined⟩ := declared_outlined gives
      -- the form is the schema's own, so both shapes have come about in the same way
      have stated := stated_form_of_read read
      cases form : SchemaForm.of extensions schema with
      | custom =>
          cases outlined with
          | custom typed =>
              rw [custom_given gives' (stated_of_read read) typed]
              exact .same
          | _ other => cases form.symm.trans other
      | composition =>
          rw [form] at stated
          have composed := composition_given gives stated
          have composed' := composition_given gives' stated
          split at composed
          · rename_i target sole
            obtain ⟨_, referred⟩ := composed
            rw [sole] at composed'
            obtain ⟨_, referred'⟩ := composed'
            rw [references_agree referred referred']
            exact .same
          · rename_i several
            rw [several] at composed'
            rw [composed, composed']
            exact .same
      | enumeration =>
          unfold staysInPlace at stays
          rw [stated, form] at stays
          cases stays
      | array =>
          rw [form] at stated
          obtain ⟨element, rfl, planned⟩ := array_given gives stated
          obtain ⟨element', rfl, planned'⟩ := array_given gives' stated
          exact .slice (element_typed_alike inside.items planned planned').of_longer
      | object =>
          rw [form] at stated
          obtain ⟨_, fields, additional, known, rfl, kept, beside⟩ := object_given gives stated
          obtain ⟨_, fields', additional', known', rfl, kept', beside'⟩ := object_given gives' stated
          cases known.symm.trans known'
          unfold staysInPlace at stays
          rw [stated] at stays
          have empty := kept.is_empty.trans stays
          have empty' := kept'.is_empty.trans stays
          rw [typeOf, typeOf, empty, empty']
          exact beside_typed_alike inside beside beside'
      | plain =>
          rw [form] at stated
          cases (plain_given gives stated).symm.trans (plain_given gives' stated)
          exact .same

end Types

section Runs

variable {key : String} {schema : Schema}

theorem declare_schema_ran {specification : Specification} {draft after : Draft}
    (ran : (declareSchema specification key (.object schema)).run.run draft = (.ok (), after)) :
    ∃ before shape reached, (shapeOf specification .declared (Identifier.exported key)
      (OpenApi.schemasPlace ++ key) schema).run.run before = (.ok shape, reached) := by
  unfold declareSchema at ran
  dsimp only at ran
  generalize Identifier.exported key = name at ran ⊢
  rw [Drafting.fail_bind] at ran
  split at ran
  · cases ran
  · obtain ⟨_, _, _, following⟩ := Drafting.run_bind_eq_ok.mp ran
    obtain ⟨shape, reached, drawn, _⟩ := Drafting.run_bind_eq_ok.mp following
    exact ⟨_, shape, reached, drawn⟩

/-- While a document is lowered, each of its schemas gets a shape. -/
theorem declared_shape_ran {document : OpenApi.Document} {config : Config} {program : Program}
    (lowered : (lower document config).1 = .ok program)
    (declared : document.specification.components.schemas.lookup key = some (.object schema)) :
    ∃ draft shape reached, (shapeOf document.specification .declared (Identifier.exported key)
      (OpenApi.schemasPlace ++ key) schema).run.run draft = (.ok shape, reached) := by
  unfold lower at lowered
  generalize ran : (programOf document.specification document.canonicalText config).run.run {} =
    result at lowered
  obtain ⟨outcome, last⟩ := result
  cases lowered
  unfold programOf at ran
  obtain ⟨_, _, declaring, _⟩ := Drafting.run_bind_eq_ok.mp ran
  unfold declareSchemas at declaring
  obtain ⟨_, _, looping, _⟩ := Drafting.run_bind_eq_ok.mp declaring
  have listed : (key, .object schema) ∈ sortByKey document.specification.components.schemas :=
    List.mem_mergeSort.mpr (mem_of_lookup declared)
  obtain ⟨_, _, _, round⟩ := Drafting.run_each_eq_ok (by
    rintro ⟨key, item⟩ draft next after ran
    obtain ⟨_, _, _, ended⟩ := Drafting.run_bind_eq_ok.mp ran
    cases ended
    rfl) looping _ listed
  obtain ⟨_, _, stepped, _⟩ := Drafting.run_bind_eq_ok.mp round
  exact declare_schema_ran stepped

end Runs

end Blueprint

end ApiScaffold
