import ApiScaffold.Proofs.SchemaPlaces

/-!
What stands inside of the shape of a schema. Each part comes of a schema that stands right inside of
the one that was declared. A field also keeps the rules of its property, and the text that they ask
for is put off.
-/

namespace ApiScaffold.Blueprint

open OpenApi (Schema OrRef Extensions Specification AdditionalProperties Table)

/-- A shape has another one right inside. -/
inductive Shape.Contains : Shape → Shape → Prop where
  | element {element : Shape} {minItems maxItems : Option Nat} :
    Contains (.array element minItems maxItems) element
  | field {fields : List (String × Field Shape)} {required : List String}
      {additional : Additional Shape} {entry : String × Field Shape} (listed : entry ∈ fields) :
    Contains (.object fields required additional) entry.2.shape
  | additional {fields : List (String × Field Shape)} {required : List String} {shape : Shape} :
    Contains (.object fields required (.typed shape)) shape
  | anyOf {members : List Shape} {member : Shape} (listed : member ∈ members) :
    Contains (.anyOf members) member
  | oneOf {members : List Shape} {member : Shape} (listed : member ∈ members) :
    Contains (.oneOf members) member
  | allOf {members : List Shape} {member : Shape} (listed : member ∈ members) :
    Contains (.allOf members) member

inductive Nested (specification : Specification) (whole : Effects) (hint location : String) :
    OrRef Schema → Shape → Prop where
  | reference {key : String} (declared : (specification.components.schemas.lookup key).isSome) :
    Nested specification whole hint location (.reference (OpenApi.schemasPlace ++ key))
      (.named (Identifier.exported key))
  | inPlace {schema : Schema} {shape : Shape}
    (declared : (shapePlan specification .declared hint location schema).Gives whole shape)
    (stays : shape.isInPlace = true) :
    Nested specification whole hint location (.object schema) shape
  | component {schema : Schema} {component : Component}
    (declared :
      (shapePlan specification .declared hint location schema).Gives whole component.shape)
    (named : component.name = hint) (registered : component ∈ whole.components) :
    Nested specification whole hint location (.object schema) (.named hint)

section Nesting

variable {specification : Specification} {whole : Effects} {hint location : String}

theorem settle_gives {schema : Schema} {own shape : Shape}
    (settled : (settlePlan hint location schema own).Gives whole shape) :
    own.isInPlace = true ∧ shape = own ∨ own.isInPlace = false ∧ shape = .named hint ∧
      ∃ component ∈ whole.components, component.name = hint ∧ component.shape = own := by
  cases stays : own.isInPlace with
  | true =>
      rw [settle_in_place stays] at settled
      exact .inl ⟨rfl, settled.eq_of_pure⟩
  | false =>
      have placed : settlePlan hint location schema own =
          placePlan .nested hint location schema own := by
        rw [settlePlan, stays, if_neg Bool.false_ne_true]
      rw [placed] at settled
      obtain ⟨extensions, _, following⟩ := Plan.Gives.bind_iff.mp settled
      obtain ⟨_, registering, ended⟩ := Plan.Gives.bind_iff.mp following
      exact .inr ⟨rfl, ended.eq_of_pure, _, registering.registered, rfl, rfl⟩

theorem nested_gives {item : OrRef Schema} {shape : Shape}
    (gives : (nestedPlan specification hint location item).Gives whole shape) :
    Nested specification whole hint location item shape := by
  cases item with
  | reference target =>
      obtain ⟨key, rfl, rfl, declared⟩ := reference_named gives.of_given
      exact .reference declared
  | object schema =>
      rw [nestedPlan, nested_plan_settled] at gives
      obtain ⟨own, declared, settled⟩ := Plan.Gives.bind_iff.mp gives
      rcases settle_gives settled with ⟨stays, rfl⟩ | ⟨_, rfl, component, registered, named, rfl⟩
      · exact .inPlace declared stays
      · exact .component declared named registered

def FieldRules.fieldOf (rules : FieldRules) (specification : Specification) (jsonName : String)
    (item : OrRef Schema) (required : Bool) (shape : Shape) : Field Shape where
  jsonName := jsonName
  shape := shape
  optionality := optionalityOf rules.extensions required (isNullable specification item)
  omitEmpty := rules.extensions.omitEmpty
  regex := rules.extensions.regex
  constraints := rules.constraints
  trimmable := rules.extensions.trimmable
  skipValidation := rules.extensions.skipValidation
  description := rules.description

structure FieldGiven (specification : Specification) (whole : Effects) (jsonName : String)
    (item : OrRef Schema) (required : Bool) (location : String) (shape : Shape)
    (field : Field Shape) : Prop where
  rules : ∃ rules, fieldRules item location = .ok rules ∧
    field = rules.fieldOf specification jsonName item required shape
  checked : field.regex.isSome || field.trimmable → (field.shape, location) ∈ whole.texts

namespace FieldGiven

variable {name : String} {item : OrRef Schema} {required : Bool} {value : Shape}
  {field : Field Shape}
  (given : FieldGiven specification whole name item required location value field)

include given

theorem jsonName : field.jsonName = name := by
  obtain ⟨rules, _, rfl⟩ := given.rules
  rfl

theorem shape : field.shape = value := by
  obtain ⟨rules, _, rfl⟩ := given.rules
  rfl

theorem optionality : ∃ rules, fieldRules item location = .ok rules ∧
    field.optionality = optionalityOf rules.extensions required
      (isNullable specification item) := by
  obtain ⟨rules, read, rfl⟩ := given.rules
  exact ⟨rules, read, rfl⟩

end FieldGiven

theorem field_gives {jsonName : String} {item : OrRef Schema} {required : Bool} {shape : Shape}
    {field : Field Shape}
    (gives : (fieldPlan specification jsonName item required location shape).Gives whole field) :
    FieldGiven specification whole jsonName item required location shape field := by
  obtain ⟨rules, read, following⟩ := Plan.Gives.bind_iff.mp gives
  have given := read.of_given
  dsimp only at following
  split at following
  case isTrue =>
    obtain ⟨_, checks, ended⟩ := Plan.Gives.bind_iff.mp following
    rw [ended.eq_of_pure]
    exact ⟨⟨rules, given, rfl⟩, fun _ => checks.checked⟩
  case isFalse free =>
    rw [following.eq_of_pure]
    exact ⟨⟨rules, given, rfl⟩, fun asked => absurd asked free⟩

theorem members_give {items : List (OrRef Schema)} {index : Nat} {shapes : List Shape}
    (gives : (memberPlans specification hint location index items).Gives whole shapes) :
    ∀ shape ∈ shapes, ∃ item ∈ items, ∃ hint location,
      Nested specification whole hint location item shape := by
  induction items generalizing index shapes with
  | nil =>
      rw [gives.eq_of_pure]
      exact List.forall_mem_nil _
  | cons item rest induction =>
      obtain ⟨first, here, following⟩ := Plan.Gives.bind_iff.mp gives
      obtain ⟨others, there, ended⟩ := Plan.Gives.bind_iff.mp following
      rw [ended.eq_of_pure]
      intro shape listed
      rcases List.mem_cons.mp listed with rfl | listed
      · exact ⟨item, List.mem_cons_self, _, _, nested_gives here⟩
      · obtain ⟨other, member, inside⟩ := induction there shape listed
        exact ⟨other, List.mem_cons_of_mem _ member, inside⟩

theorem element_gives {items : Option (OrRef Schema)} {shape : Shape}
    (gives : (elementPlan specification hint location items).Gives whole shape) :
    shape = .anything ∨ ∃ item, items = some item ∧
      Nested specification whole hint location item shape := by
  cases items with
  | none => exact .inl gives.eq_of_pure
  | some item => exact .inr ⟨item, rfl, nested_gives gives⟩

theorem additional_gives {stated : Option (AdditionalProperties Schema)} {shape : Shape}
    (gives : (additionalPlan specification hint location stated).Gives whole (.typed shape)) :
    ∃ item, stated = some (.schema item) ∧
      Nested specification whole hint location item shape := by
  match stated with
  | none => cases gives.eq_of_pure
  | some (.allowed flag) =>
      have same := gives.eq_of_pure
      cases flag <;> cases same
  | some (.schema item) =>
      obtain ⟨value, here, ended⟩ := Plan.Gives.bind_iff.mp gives
      cases ended.eq_of_pure
      exact ⟨item, rfl, nested_gives here⟩

structure PropertyGiven (specification : Specification) (whole : Effects) (required : List String)
    (hint location : String) (property : String × OrRef Schema) (entry : String × Field Shape) :
    Prop where
  key : entry.1 = property.1
  nested : Nested specification whole (hint ++ Identifier.exported property.1)
    s!"{location}/properties/{property.1}" property.2 entry.2.shape
  field : FieldGiven specification whole property.1 property.2 (required.contains property.1)
    s!"{location}/properties/{property.1}" entry.2.shape entry.2

theorem property_gives {required : List String} {property : String × OrRef Schema}
    {entry : String × Field Shape}
    (gives : (propertyPlan specification required hint location property).Gives whole entry) :
    PropertyGiven specification whole required hint location property entry := by
  obtain ⟨shape, here, following⟩ := Plan.Gives.bind_iff.mp gives
  obtain ⟨field, there, ended⟩ := Plan.Gives.bind_iff.mp following
  have given := field_gives there
  rw [ended.eq_of_pure]
  have same := given.shape
  subst same
  exact ⟨rfl, nested_gives here, given⟩

structure FieldsGiven (specification : Specification) (whole : Effects) (hint location : String)
    (schema : Schema) (fields : List (String × Field Shape)) : Prop where
  identifiable : Identifiable [] (propertyIdentifiers schema.properties)
  given : List.Forall₂ (PropertyGiven specification whole schema.required hint location)
    schema.properties fields

theorem fields_give {schema : Schema} {fields : List (String × Field Shape)}
    (gives : (innerPlans specification hint location schema).fields.Gives whole fields) :
    FieldsGiven specification whole hint location schema fields := by
  unfold innerPlans at gives
  dsimp only at gives
  split at gives
  · rename_i identifiable
    rw [field_plans_collect] at gives
    exact ⟨identifiable, gives.of_collect.imp fun _ _ => property_gives⟩
  · exact absurd gives Plan.Gives.not_fails

theorem beside_gives {schema : Schema} {mapType : Option String} {shape : Shape}
    (gives : ((innerPlans specification hint location schema).beside mapType).Gives whole
      (.typed shape)) :
    ∃ item, schema.additionalProperties = some (.schema item) ∧ ∃ hint location,
      Nested specification whole hint location item shape := by
  cases mapType with
  | some name => cases gives.eq_of_pure
  | none =>
      obtain ⟨item, stated, nested⟩ := additional_gives gives
      exact ⟨item, stated, _, _, nested⟩

theorem plain_primitive {schema : Schema} {shape : Shape}
    (given : plainShape schema location = .ok shape) :
    shape = .anything ∨ ∃ primitive, shape = .primitive primitive := by
  unfold plainShape at given
  split at given
  case h_5 => exact .inl (Except.ok.inj given).symm
  case h_6 => cases given
  all_goals exact .inr ⟨_, (Except.ok.inj given).symm⟩

theorem plain_contains_nothing {schema : Schema} {shape inner : Shape}
    (given : plainShape schema location = .ok shape) : ¬ shape.Contains inner := by
  rcases plain_primitive given with rfl | ⟨primitive, rfl⟩
  · intro contains
    generalize same : Shape.anything = anything at contains
    cases contains <;> cases same
    contradiction
  · nofun

/-- Whatever stands right inside comes of a schema that does. An array without a schema of its
elements has any elements. -/
theorem Outlined.contains {extensions : Extensions} {schema : Schema} {shape inner : Shape}
    {property : Schema → Prop} (inside : schema.Inside property)
    (outlined : Outlined specification whole hint location extensions schema shape)
    (contains : shape.Contains inner) :
    inner = .anything ∨ ∃ item hint location, item.Satisfies property ∧
      Nested specification whole hint location item inner := by
  cases outlined with
  | custom stated => cases contains
  | reference form sole referred =>
      obtain ⟨key, _, rfl, _⟩ := reference_named referred
      cases contains
  | allOf form several planned =>
      cases contains with
      | allOf listed =>
          obtain ⟨item, member, nested⟩ := members_give planned inner listed
          exact .inr ⟨item, _, _, inside.allOf item member, nested.choose_spec.choose_spec⟩
  | oneOf form several planned =>
      cases contains with
      | oneOf listed =>
          obtain ⟨item, member, nested⟩ := members_give planned inner listed
          exact .inr ⟨item, _, _, inside.oneOf item member, nested.choose_spec.choose_spec⟩
  | anyOf form several planned =>
      cases contains with
      | anyOf listed =>
          obtain ⟨item, member, nested⟩ := members_give planned inner listed
          exact .inr ⟨item, _, _, inside.anyOf item member, nested.choose_spec.choose_spec⟩
  | enumeration form read => cases contains
  | array form planned =>
      cases contains with
      | element =>
          rcases element_gives planned with any | ⟨item, stated, nested⟩
          · exact .inl any
          · exact .inr ⟨item, _, _, inside.items item stated, nested⟩
  | object form planned beside =>
      cases contains with
      | field listed =>
          obtain ⟨property, member, given⟩ := partner_of_mem (fields_give planned).given.flip listed
          exact .inr ⟨property.2, _, _, inside.properties property member, given.nested⟩
      | additional =>
          obtain ⟨item, stated, _, _, nested⟩ := beside_gives beside
          exact .inr ⟨item, _, _, inside.additional item stated, nested⟩
  | plain form given => exact absurd contains (plain_contains_nothing given)

end Nesting

/-- The component is that of a schema of the document, which stands under its name. -/
def OfSchema (specification : Specification) (whole : Effects) (component : Component) : Prop :=
  ∃ location schema, Stands specification component.name (.object schema) ∧
    (shapePlan specification .declared component.name location schema).Gives whole component.shape

def AddsOfSchemas (specification : Specification) (whole : Effects) (schema : Schema) : Prop :=
  ∀ hint location, Stands specification hint (.object schema) →
    (shapePlan specification .declared hint location schema).Adds (OfSchema specification whole)
      whole

section Adding

variable {specification : Specification} {whole : Effects} {hint location : String}

theorem settle_adds {schema : Schema} {shape : Shape}
    (stands : Stands specification hint (.object schema))
    (declared : (shapePlan specification .declared hint location schema).Gives whole shape) :
    (settlePlan hint location schema shape).Adds (OfSchema specification whole) whole := by
  unfold settlePlan
  split
  · exact .pure
  · apply Plan.Adds.bind .given
    intro extensions _
    apply Plan.Adds.bind (.register ⟨location, schema, stands, declared⟩)
    intro _ _
    exact .pure

theorem nested_adds_of {item : OrRef Schema} (stands : Stands specification hint item)
    (inside : item.Satisfies (AddsOfSchemas specification whole)) :
    (nestedPlan specification hint location item).Adds (OfSchema specification whole) whole := by
  cases item with
  | reference target => exact .given
  | object schema =>
      rw [nestedPlan, nested_plan_settled]
      apply Plan.Adds.bind (inside hint location stands)
      intro shape declared
      exact settle_adds stands declared

theorem field_adds {jsonName : String} {item : OrRef Schema} {required : Bool} {shape : Shape}
    {property : Component → Prop} :
    (fieldPlan specification jsonName item required location shape).Adds property whole := by
  apply Plan.Adds.bind .given
  intro rules _
  dsimp only
  split
  · exact .bind .check_text fun _ _ => .pure
  · exact .pure

theorem members_add {items : List (OrRef Schema)} {index : Nat}
    (stand : ∀ entry ∈ items.zipIdx index, Stands specification s!"{hint}{entry.2}" entry.1)
    (inside : ∀ item ∈ items, item.Satisfies (AddsOfSchemas specification whole)) :
    (memberPlans specification hint location index items).Adds (OfSchema specification whole)
      whole := by
  induction items generalizing index with
  | nil => exact .pure
  | cons item rest induction =>
      rw [List.zipIdx_cons] at stand
      obtain ⟨here, there⟩ := List.forall_mem_cons.mp stand
      obtain ⟨first, others⟩ := List.forall_mem_cons.mp inside
      apply Plan.Adds.bind (nested_adds_of here first)
      intro shape _
      exact .bind (induction there others) fun _ _ => .pure

section Inner

variable {schema : Schema} (stands : Stands specification hint (.object schema))
  (inside : schema.Inside (AddsOfSchemas specification whole))

include stands inside

theorem composed_adds (form : statedForm schema = some .composition) :
    ((innerPlans specification hint location schema).composed specification location schema).Adds
      (OfSchema specification whole) whole := by
  unfold InnerPlans.composed
  split
  · exact .given
  rename_i several
  have stand : ∀ entry ∈ (composedMembers schema).2.zipIdx, Stands specification
      s!"{hint}{(composedMembers schema).1}{entry.2}" entry.1 :=
    fun _ => .member stands form several
  split
  case isTrue all =>
    rw [composedMembers, if_pos all] at stand
    exact .bind (members_add stand inside.allOf) fun _ _ => .pure
  split
  case isTrue none one =>
    rw [composedMembers, if_neg none, if_pos one] at stand
    exact .bind (members_add stand inside.oneOf) fun _ _ => .pure
  case isFalse none other =>
    rw [composedMembers, if_neg none, if_neg other] at stand
    exact .bind (members_add stand inside.anyOf) fun _ _ => .pure

theorem element_adds (form : statedForm schema = some .array) :
    (innerPlans specification hint location schema).element.Adds (OfSchema specification whole)
      whole := by
  unfold innerPlans
  dsimp only
  cases stated : schema.items with
  | none => exact .pure
  | some item => exact nested_adds_of (.element stands form stated) (inside.items item stated)

theorem beside_adds {extensions : Extensions} (stated : statedExtensions schema = some extensions)
    (form : SchemaForm.of extensions schema = .object) :
    ((innerPlans specification hint location schema).beside extensions.mapType).Adds
      (OfSchema specification whole) whole := by
  cases untyped : extensions.mapType with
  | some name => exact .pure
  | none =>
      unfold innerPlans InnerPlans.beside
      dsimp only
      match given : schema.additionalProperties with
      | none => exact .pure
      | some (.allowed flag) => exact .pure
      | some (.schema item) =>
          have here := Stands.additional stands stated form untyped given
          exact .bind (nested_adds_of here (inside.additional item given)) fun _ _ => .pure

theorem fields_add (form : statedForm schema = some .object) :
    (innerPlans specification hint location schema).fields.Adds (OfSchema specification whole)
      whole := by
  unfold innerPlans
  dsimp only
  split
  · rw [field_plans_collect]
    apply Plan.Adds.collect
    intro property member
    have here := Stands.property stands form member
    apply Plan.Adds.bind (nested_adds_of here (inside.properties property member))
    intro shape _
    exact .bind field_adds fun _ _ => .pure
  · exact .fails

theorem own_adds {extensions : Extensions} (untyped : extensions.goType = none)
    (stated : statedExtensions schema = some extensions) :
    ((innerPlans specification hint location schema).own specification .declared hint location
      extensions schema).Adds (OfSchema specification whole) whole := by
  unfold InnerPlans.own
  split
  · exact .fails
  split
  case isTrue composition =>
    apply composed_adds stands inside (stated_form_of stated _)
    simp [SchemaForm.of, untyped, composition]
  split
  · exact .bind .given fun _ _ => .pure
  split
  case isTrue simple single array =>
    have form : SchemaForm.of extensions schema = .array := by
      simp [SchemaForm.of, untyped, simple, single, array]
    exact .bind (element_adds stands inside (stated_form_of stated form)) fun _ _ => .pure
  split
  case isTrue simple single bare object =>
    have form : SchemaForm.of extensions schema = .object := by
      simp only [SchemaForm.of, untyped, simple, single, bare, object]
      rfl
    apply Plan.Adds.bind (fields_add stands inside (stated_form_of stated form))
    intro fields _
    apply Plan.Adds.bind (beside_adds stands inside stated form)
    intro additional _
    simp only [reduceCtorEq, decide_false, Bool.and_false]
    exact .pure
  · exact .given

end Inner

theorem declared_adds (schema : Schema) : AddsOfSchemas specification whole schema := by
  induction schema using Schema.of_inside with
  | step schema inside =>
      intro hint location stands
      rw [shape_plan_of_schema]
      apply Plan.Adds.bind .given
      intro extensions read
      cases untyped : extensions.goType with
      | some target => exact .pure
      | none => exact own_adds stands inside untyped (stated_of_read read.of_given)

theorem nested_adds {item : OrRef Schema} (stands : Stands specification hint item) :
    (nestedPlan specification hint location item).Adds (OfSchema specification whole) whole := by
  apply nested_adds_of stands
  cases item with
  | reference target => trivial
  | object schema => exact declared_adds schema

end Adding

end ApiScaffold.Blueprint
