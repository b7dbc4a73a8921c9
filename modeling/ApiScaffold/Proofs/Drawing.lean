import ApiScaffold.Proofs.ShapePlan

/-!
How components come out of a schema. What stands inside of a schema is drawn first, under names that
are made longer on the way; an object keeps its fields, whose identifiers differ, and whatever needs
a name of its own is registered behind all that is inside of it. So what a plan registers is a list
of drawings, and what holds of all drawings follows by induction.
-/

namespace ApiScaffold.Blueprint

open OpenApi (Schema OrRef Specification AdditionalProperties Table)

structure Plan.Ensures {α : Type} (property : α → Effects → Prop) (plan : Plan α) : Prop where
  holds : ∀ value effects, plan = some (value, effects) → property value effects

namespace Plan.Ensures

variable {α β : Type} {property : α → Effects → Prop} {last : β → Effects → Prop} {plan : Plan α}

theorem pure {value : α} (holds : property value {}) : Plan.Ensures property (pure value) := by
  constructor
  rintro _ _ ⟨⟩
  exact holds

theorem fails : Plan.Ensures property (Plan.fails : Plan α) := ⟨nofun⟩

theorem given {outcome : Except Diagnostic α}
    (holds : ∀ value, outcome = .ok value → property value {}) :
    Plan.Ensures property (Plan.given outcome) := by
  cases outcome with
  | error diagnostic => exact fails
  | ok value => exact pure (holds value rfl)

theorem after_given {outcome : Except Diagnostic α} {next : α → Plan β}
    (second : ∀ value, outcome = .ok value → (next value).Ensures last) :
    (Plan.given outcome >>= next).Ensures last := by
  cases outcome with
  | error diagnostic => exact ⟨nofun⟩
  | ok value =>
      change (Pure.pure value >>= next).Ensures last
      rw [Plan.pure_bind]
      exact second value rfl

theorem register {component : Component} : Plan.Ensures
    (fun _ effects => effects.components = [component]) (Plan.register component) := by
  constructor
  rintro _ _ ⟨⟩
  rfl

theorem demand {demand : Demand} :
    Plan.Ensures (fun _ effects => effects.components = []) (Plan.demand demand) := by
  constructor
  rintro _ _ ⟨⟩
  rfl

theorem check_text {shape : Shape} {location : String} :
    Plan.Ensures (fun _ effects => effects.components = []) (Plan.checkText shape location) := by
  constructor
  rintro _ _ ⟨⟩
  rfl

theorem bind {next : α → Plan β} (first : plan.Ensures property)
    (second : ∀ value effects, property value effects →
      (next value).Ensures fun result more => last result (effects ++ more)) :
    (plan >>= next).Ensures last := by
  constructor
  intro result effects planned
  obtain ⟨value, here, there, own, rest, rfl⟩ := Plan.bind_eq_some.mp planned
  exact (second value here (first.holds value here own)).holds result there rest

theorem weaken {other : α → Effects → Prop} (ensures : plan.Ensures property)
    (weaker : ∀ value effects, property value effects → other value effects) :
    plan.Ensures other :=
  ⟨fun value effects planned => weaker value effects (ensures.holds value effects planned)⟩

theorem both {other : α → Effects → Prop} (here : plan.Ensures property)
    (there : plan.Ensures other) :
    plan.Ensures fun value effects => property value effects ∧ other value effects :=
  ⟨fun value effects planned =>
    ⟨here.holds value effects planned, there.holds value effects planned⟩⟩

/-- A property of values and of lists of effects that grows item by item. -/
theorem collect {ι : Type} {step : ι → Plan α} {items : List ι} {item : ι → α → Effects → Prop}
    {property : List ι → List α → Effects → Prop} (none : property [] [] {})
    (grows : ∀ first rest value values here there, item first value here →
      property rest values there → property (first :: rest) (value :: values) (here ++ there))
    (each : ∀ first ∈ items, (step first).Ensures (item first)) :
    (Plan.collect step items).Ensures (property items) := by
  induction items with
  | nil => exact pure none
  | cons first rest induction =>
      obtain ⟨own, others⟩ := List.forall_mem_cons.mp each
      apply bind own
      intro value here holds
      apply bind (induction others)
      intro values there follow
      apply pure
      rw [Effects.append_empty]
      exact grows first rest value values here there holds follow

end Plan.Ensures

def Shape.fields : Shape → List (Field Shape)
  | .object fields _ _ => fields.map (·.2)
  | _ => []

def fieldIdentifiers (fields : List (Field Shape)) : List String :=
  fields.map fun field => Identifier.exported field.jsonName

/-- A name that is handed on to what stands right inside of a schema; only an object hands on the
identifiers of its fields. -/
inductive Beneath (identifiers : List String) (hint : String) : String → Prop where
  | item : Beneath identifiers hint (hint ++ "Item")
  | value : Beneath identifiers hint (hint ++ "Value")
  | member (kind : String) (listed : kind ∈ ["AllOf", "OneOf", "AnyOf"]) (index : Nat) :
    Beneath identifiers hint (hint ++ kind ++ toString index)
  | field (identifier : String) (listed : identifier ∈ identifiers) :
    Beneath identifiers hint (hint ++ identifier)

theorem Beneath.mono {identifiers more : List String} {hint name : String}
    (beneath : Beneath identifiers hint name) (included : identifiers ⊆ more) :
    Beneath more hint name := by
  cases beneath with
  | item => exact .item
  | value => exact .value
  | member kind listed index => exact .member kind listed index
  | field identifier listed => exact .field identifier (included listed)

/-- A property of names that lasts when words, numbers and identifiers are put behind them is handed
on with the names. -/
theorem Beneath.hands_on {holds allowed : String → Prop}
    (append : ∀ first second, holds first → allowed second → holds (first ++ second))
    (words : ∀ word ∈ ["Item", "Value", "AllOf", "OneOf", "AnyOf"], allowed word)
    (numbers : ∀ number : Nat, allowed (toString number)) {identifiers : List String}
    {hint name : String} (inside : ∀ identifier ∈ identifiers, allowed identifier)
    (start : holds hint) (beneath : Beneath identifiers hint name) : holds name := by
  cases beneath with
  | item => exact append _ _ start (words _ (by decide))
  | value => exact append _ _ start (words _ (by decide))
  | member kind listed index =>
      have compositions : ["AllOf", "OneOf", "AnyOf"] ⊆
          ["Item", "Value", "AllOf", "OneOf", "AnyOf"] := by decide
      exact append _ _ (append _ _ start (words kind (compositions listed))) (numbers index)
  | field identifier listed => exact append _ _ start (inside identifier listed)

/-- A shape with the name that was handed on to it, and the components behind it. -/
structure Drawing where
  hint : String
  shape : Shape
  components : List Component

/-- How a drawing is made of the drawings inside of it. -/
inductive Drawn : Placement → Drawing → Prop where
  /-- A shape without fields; what stands inside of it has names of its own. -/
  | plain {placement : Placement} {hint : String} {shape : Shape} {inner : List Drawing}
      (bare : shape.fields = [])
      (beneath : ∀ drawing ∈ inner, Beneath [] hint drawing.hint)
      (inside : ∀ drawing ∈ inner, Drawn .nested drawing) :
      Drawn placement ⟨hint, shape, inner.flatMap (·.components)⟩
  /-- An object that somebody else registers. -/
  | object {hint : String} {shape : Shape} {inner : List Drawing}
      (identified : Identifiable [] (fieldIdentifiers shape.fields))
      (beneath : ∀ drawing ∈ inner,
        Beneath (fieldIdentifiers shape.fields) hint drawing.hint)
      (inside : ∀ drawing ∈ inner, Drawn .nested drawing) :
      Drawn .declared ⟨hint, shape, inner.flatMap (·.components)⟩
  /-- A component under the name that was handed on. -/
  | registered {component : Component} {components : List Component}
      (inside : Drawn .declared ⟨component.name, component.shape, components⟩) :
      Drawn .nested ⟨component.name, .named component.name, components ++ [component]⟩

/-- The components of effects are those of drawings whose names have a property. -/
def Effects.DrawnUnder (named : String → Prop) (effects : Effects) : Prop :=
  ∃ drawings : List Drawing, effects.components = drawings.flatMap (·.components) ∧
    ∀ drawing ∈ drawings, named drawing.hint ∧ Drawn .nested drawing

namespace Effects.DrawnUnder

variable {named other : String → Prop} {effects first second : Effects}

theorem nothing (none : effects.components = []) : effects.DrawnUnder named :=
  ⟨[], none, List.forall_mem_nil _⟩

theorem append (here : first.DrawnUnder named) (there : second.DrawnUnder named) :
    (first ++ second).DrawnUnder named := by
  obtain ⟨own, components, drawn⟩ := here
  obtain ⟨others, more, follow⟩ := there
  refine ⟨own ++ others, ?_, List.forall_mem_append.mpr ⟨drawn, follow⟩⟩
  rw [Effects.components_append, components, more, List.flatMap_append]

theorem mono (drawn : effects.DrawnUnder named) (included : ∀ name, named name → other name) :
    effects.DrawnUnder other := by
  obtain ⟨drawings, components, inside⟩ := drawn
  refine ⟨drawings, components, fun drawing member => ?_⟩
  obtain ⟨holds, made⟩ := inside drawing member
  exact ⟨included _ holds, made⟩

theorem one {hint : String} {shape : Shape} (holds : named hint)
    (drawn : Drawn .nested ⟨hint, shape, effects.components⟩) : effects.DrawnUnder named := by
  refine ⟨[⟨hint, shape, effects.components⟩], ?_, ?_⟩
  · rw [List.flatMap_singleton]
  · intro drawing member
    cases List.mem_singleton.mp member
    exact ⟨holds, drawn⟩

theorem plain {placement : Placement} {hint : String} {shape : Shape}
    (inside : effects.DrawnUnder (Beneath [] hint)) (bare : shape.fields = []) :
    Drawn placement ⟨hint, shape, effects.components⟩ := by
  obtain ⟨drawings, components, drawn⟩ := inside
  rw [components]
  exact .plain bare (fun drawing member => (drawn drawing member).1)
    fun drawing member => (drawn drawing member).2

end Effects.DrawnUnder

section Shapes

variable {specification : Specification}

theorem field_plan_ensures (jsonName : String) (item : OrRef Schema) (required : Bool)
    (location : String) (shape : Shape) :
    (fieldPlan specification jsonName item required location shape).Ensures fun field effects =>
      field.jsonName = jsonName ∧ effects.components = [] := by
  apply Plan.Ensures.after_given
  intro rules _
  dsimp only
  split
  · apply Plan.Ensures.bind .check_text
    intro _ effects none
    exact .pure ⟨rfl, by rw [Effects.components_append, none]; rfl⟩
  · exact .pure ⟨rfl, rfl⟩

theorem reference_bare {target location : String} {shape : Shape}
    (referred : referenceShape specification target location = .ok shape) : shape.fields = [] := by
  unfold referenceShape at referred
  split at referred
  · split at referred
    · cases referred
      rfl
    · cases referred
  · cases referred

theorem plain_bare {schema : Schema} {location : String} {shape : Shape}
    (given : plainShape schema location = .ok shape) : shape.fields = [] := by
  unfold plainShape at given
  split at given
  all_goals first
    | cases given; rfl
    | cases given

/-- Every shape of a schema is drawn under the name that is handed on to it. -/
def DrawsShape (specification : Specification) (schema : Schema) : Prop :=
  ∀ placement hint location,
    (shapePlan specification placement hint location schema).Ensures fun shape effects =>
      Drawn placement ⟨hint, shape, effects.components⟩

theorem drawn_alone {placement : Placement} {hint : String} {shape : Shape}
    (bare : shape.fields = []) : Drawn placement ⟨hint, shape, []⟩ :=
  @Drawn.plain _ _ _ [] bare (List.forall_mem_nil _) (List.forall_mem_nil _)

theorem nested_draws {item : OrRef Schema} (inside : item.Satisfies (DrawsShape specification))
    (hint location : String) :
    (nestedPlan specification hint location item).Ensures fun shape effects =>
      Drawn .nested ⟨hint, shape, effects.components⟩ := by
  cases item with
  | reference target => exact .given fun shape referred => drawn_alone (reference_bare referred)
  | object schema => exact inside .nested hint location

theorem place_draws {placement : Placement} {hint location : String} {schema : Schema}
    {shape : Shape} {inside : Effects}
    (drawn : Drawn .declared ⟨hint, shape, inside.components⟩) :
    (placePlan placement hint location schema shape).Ensures fun placed effects =>
      Drawn placement ⟨hint, placed, (inside ++ effects).components⟩ := by
  cases placement with
  | declared =>
      apply Plan.Ensures.pure
      rw [Effects.append_empty]
      exact drawn
  | nested =>
      apply Plan.Ensures.after_given
      intro extensions _
      let component : Component := {
        name := hint
        shape
        description := schema.description
        origin := .inside location
        skipValidation := extensions.skipValidation }
      apply Plan.Ensures.bind .register
      intro _ effects own
      apply Plan.Ensures.pure
      rw [Effects.append_empty, Effects.components_append, own]
      exact @Drawn.registered component _ drawn

theorem members_draw {items : List (OrRef Schema)} {kind hint location : String} {index : Nat}
    (inside : ∀ item ∈ items, item.Satisfies (DrawsShape specification))
    (listed : kind ∈ ["AllOf", "OneOf", "AnyOf"]) :
    (memberPlans specification (hint ++ kind) location index items).Ensures fun _ effects =>
      effects.DrawnUnder (Beneath [] hint) := by
  induction items generalizing index with
  | nil => exact .pure (.nothing rfl)
  | cons item rest induction =>
      obtain ⟨first, others⟩ := List.forall_mem_cons.mp inside
      apply Plan.Ensures.bind (nested_draws first _ _)
      intro shape effects drawn
      apply Plan.Ensures.bind (induction others)
      intro shapes more follow
      apply Plan.Ensures.pure
      rw [Effects.append_empty]
      exact .append (.one (.member kind listed index) drawn) follow

theorem fields_draw {properties : Table (OrRef Schema)} {required : List String}
    {hint location : String}
    (inside : ∀ entry ∈ properties, entry.2.Satisfies (DrawsShape specification)) :
    (fieldPlans specification required hint location properties).Ensures fun fields effects =>
      fieldIdentifiers (fields.map (·.2)) = propertyIdentifiers properties ∧
        effects.DrawnUnder (Beneath (propertyIdentifiers properties) hint) := by
  induction properties with
  | nil => exact .pure ⟨rfl, .nothing rfl⟩
  | cons entry rest induction =>
      obtain ⟨property, item⟩ := entry
      obtain ⟨first, others⟩ := List.forall_mem_cons.mp inside
      have longer : propertyIdentifiers ((property, item) :: rest) =
          Identifier.exported property :: propertyIdentifiers rest := rfl
      rw [longer]
      apply Plan.Ensures.bind (nested_draws first _ _)
      intro shape effects drawn
      apply Plan.Ensures.bind (field_plan_ensures _ _ _ _ _)
      rintro field silent ⟨named, none⟩
      apply Plan.Ensures.bind (induction others)
      rintro fields more ⟨identified, follow⟩
      apply Plan.Ensures.pure
      constructor
      · rw [← identified, ← named]
        rfl
      · rw [Effects.append_empty]
        apply Effects.DrawnUnder.append
        · exact .one (.field _ List.mem_cons_self) drawn
        apply Effects.DrawnUnder.append (.nothing none)
        exact follow.mono fun name beneath => beneath.mono (List.subset_cons_self _ _)

section Inner

variable {schema : Schema} {placement : Placement} {hint location : String}
  (inside : schema.Inside (DrawsShape specification))

include inside

theorem element_draws :
    (innerPlans specification hint location schema).element.Ensures fun _ effects =>
      effects.DrawnUnder (Beneath [] hint) := by
  unfold innerPlans
  dsimp only
  cases stated : schema.items with
  | none => exact .pure (.nothing rfl)
  | some item =>
      apply (nested_draws (inside.items item stated) _ _).weaken
      intro shape effects drawn
      exact .one .item drawn

theorem additional_draws :
    (innerPlans specification hint location schema).additional.Ensures fun _ effects =>
      effects.DrawnUnder (Beneath [] hint) := by
  unfold innerPlans
  dsimp only
  match stated : schema.additionalProperties with
  | none => exact .pure (.nothing rfl)
  | some (.allowed flag) => exact .pure (.nothing rfl)
  | some (.schema item) =>
      apply Plan.Ensures.bind (nested_draws (inside.additional item stated) _ _)
      intro shape effects drawn
      apply Plan.Ensures.pure
      rw [Effects.append_empty]
      exact .one .value drawn

theorem composed_draws :
    ((innerPlans specification hint location schema).composed specification location
      schema).Ensures fun shape effects => Drawn placement ⟨hint, shape, effects.components⟩ := by
  unfold InnerPlans.composed
  split
  · exact .given fun shape referred => drawn_alone (reference_bare referred)
  have follows (shapes : List Shape → Shape) (bare : ∀ members, (shapes members).fields = [])
      (members : List Shape) (effects : Effects) (drawn : effects.DrawnUnder (Beneath [] hint)) :
      Plan.Ensures (fun shape more => Drawn placement ⟨hint, shape, (effects ++ more).components⟩)
        (pure (shapes members)) := by
    apply Plan.Ensures.pure
    rw [Effects.append_empty]
    exact drawn.plain (bare members)
  split
  · exact .bind (members_draw inside.allOf (by decide)) (follows .allOf fun _ => rfl)
  split
  · exact .bind (members_draw inside.oneOf (by decide)) (follows .oneOf fun _ => rfl)
  · exact .bind (members_draw inside.anyOf (by decide)) (follows .anyOf fun _ => rfl)

theorem object_draws (mapType : Option String) :
    ((innerPlans specification hint location schema).object placement hint location mapType
      schema).Ensures fun shape effects => Drawn placement ⟨hint, shape, effects.components⟩ := by
  have fields : (innerPlans specification hint location schema).fields.Ensures fun fields effects =>
      Identifiable [] (fieldIdentifiers (fields.map (·.2))) ∧
        effects.DrawnUnder (Beneath (fieldIdentifiers (fields.map (·.2))) hint) := by
    unfold innerPlans
    dsimp only
    split
    · rename_i identified
      apply (fields_draw inside.properties).weaken
      rintro fields effects ⟨same, drawn⟩
      rw [same]
      exact ⟨identified, drawn⟩
    · exact .fails
  have beside : ((innerPlans specification hint location schema).beside mapType).Ensures
      fun _ effects => effects.DrawnUnder (Beneath [] hint) := by
    cases mapType with
    | some name => exact .pure (.nothing rfl)
    | none => exact additional_draws inside
  apply Plan.Ensures.bind fields
  rintro fields first ⟨identified, drawn⟩
  apply Plan.Ensures.bind beside
  intro additional second follow
  dsimp only
  split
  · rename_i empty
    obtain ⟨none, rfl⟩ : fields = [] ∧ placement = .nested := by simpa using empty
    subst none
    apply Plan.Ensures.pure
    rw [Effects.append_empty]
    exact (drawn.append follow).plain rfl
  · have whole : (first ++ second).DrawnUnder
        (Beneath (fieldIdentifiers (fields.map (·.2))) hint) :=
      drawn.append (follow.mono fun name beneath => beneath.mono (List.nil_subset _))
    obtain ⟨drawings, components, made⟩ := whole
    have declared : Drawn .declared ⟨hint,
        .object fields (declaredRequirements schema) additional, (first ++ second).components⟩ := by
      rw [components]
      exact .object identified (fun drawing member => (made drawing member).1)
        fun drawing member => (made drawing member).2
    apply (place_draws declared).weaken
    intro placed effects
    rw [Effects.append_assoc]
    exact id

end Inner

theorem shape_draws (schema : Schema) : DrawsShape specification schema := by
  induction schema using Schema.of_inside with
  | step schema inside =>
      intro placement hint location
      rw [shape_plan_of_schema]
      apply Plan.Ensures.after_given
      intro extensions _
      cases extensions.goType with
      | some target => exact .pure (drawn_alone rfl)
      | none =>
          dsimp only
          unfold InnerPlans.own
          split
          · exact .fails
          split
          · exact composed_draws inside
          split
          · apply Plan.Ensures.after_given
            intro enumeration _
            exact @place_draws _ _ _ _ _ {} (drawn_alone rfl)
          split
          · apply Plan.Ensures.bind (element_draws inside)
            intro element effects drawn
            apply Plan.Ensures.pure
            rw [Effects.append_empty]
            exact drawn.plain rfl
          split
          · exact object_draws inside extensions.mapType
          · exact .given fun shape given => drawn_alone (plain_bare given)

theorem item_draws (item : OrRef Schema) (hint location : String) :
    (nestedPlan specification hint location item).Ensures fun shape effects =>
      Drawn .nested ⟨hint, shape, effects.components⟩ := by
  apply nested_draws
  cases item with
  | reference target => trivial
  | object schema => exact shape_draws schema

end Shapes

/-- Every component of a drawing is the outcome of a drawing of its own. -/
theorem Drawn.component_drawn {placement : Placement} {drawing : Drawing}
    (drawn : Drawn placement drawing) {component : Component}
    (member : component ∈ drawing.components) :
    ∃ inner, Drawn .declared ⟨component.name, component.shape, inner⟩ := by
  induction drawn with
  | plain bare beneath inside induction =>
      obtain ⟨inner, listed, within⟩ := List.mem_flatMap.mp member
      exact induction inner listed within
  | object identified beneath inside induction =>
      obtain ⟨inner, listed, within⟩ := List.mem_flatMap.mp member
      exact induction inner listed within
  | registered inside induction =>
      rcases List.mem_append.mp member with within | own
      · exact induction within
      · cases List.mem_singleton.mp own
        exact ⟨_, inside⟩

theorem Drawn.identified {hint : String} {shape : Shape} {components : List Component}
    (drawn : Drawn .declared ⟨hint, shape, components⟩) :
    Identifiable [] (fieldIdentifiers shape.fields) := by
  cases drawn with
  | plain bare beneath inside =>
      rw [bare]
      exact ⟨.nil, List.not_mem_nil⟩
  | object identified beneath inside => exact identified

/-- What stands inside of a schema has no fields left: its objects are components. -/
theorem Drawn.nested_bare {placement : Placement} {drawing : Drawing}
    (drawn : Drawn placement drawing) (nested : placement = .nested) : drawing.shape.fields = [] := by
  cases drawn with
  | plain bare beneath inside => exact bare
  | object identified beneath inside => cases nested
  | registered inside => rfl

/-- A property of names that is handed on with the names holds of all components, if it does for
identifiers of fields that have a property of their own. -/
theorem Drawn.names_hold {holds allowed : String → Prop}
    (step : ∀ identifiers hint name, (∀ identifier ∈ identifiers, allowed identifier) →
      holds hint → Beneath identifiers hint name → holds name)
    {placement : Placement} {drawing : Drawing} (drawn : Drawn placement drawing)
    (own : ∀ identifier ∈ fieldIdentifiers drawing.shape.fields, allowed identifier)
    (others : ∀ component ∈ drawing.components,
      ∀ identifier ∈ fieldIdentifiers component.shape.fields, allowed identifier)
    (start : holds drawing.hint) : ∀ component ∈ drawing.components, holds component.name := by
  induction drawn with
  | @plain placement hint shape inner bare beneath inside induction =>
      intro component member
      obtain ⟨drawing, listed, within⟩ := List.mem_flatMap.mp member
      refine induction drawing listed ?_ ?_ ?_ component within
      · rw [(inside drawing listed).nested_bare rfl]
        exact List.forall_mem_nil _
      · exact fun other among => others other (List.mem_flatMap.mpr ⟨drawing, listed, among⟩)
      · exact step [] hint _ (List.forall_mem_nil _) start
          (beneath drawing listed)
  | @object hint shape inner identified beneath inside induction =>
      intro component member
      obtain ⟨drawing, listed, within⟩ := List.mem_flatMap.mp member
      refine induction drawing listed ?_ ?_ ?_ component within
      · rw [(inside drawing listed).nested_bare rfl]
        exact List.forall_mem_nil _
      · exact fun other among => others other (List.mem_flatMap.mpr ⟨drawing, listed, among⟩)
      · exact step _ hint _ own start (beneath drawing listed)
  | @registered component components inside induction =>
      intro other member
      rcases List.mem_append.mp member with within | last
      · exact induction (others component List.mem_concat_self)
          (fun found among => others found (List.mem_append_left _ among)) start other within
      · cases List.mem_singleton.mp last
        exact start

end ApiScaffold.Blueprint
