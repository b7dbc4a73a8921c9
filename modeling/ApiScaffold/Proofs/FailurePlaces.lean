import ApiScaffold.Blueprint.Contents
import ApiScaffold.Proofs.Drafting
import ApiScaffold.Proofs.Shaping

/-!
Where steps of lowering fail. A step that is given a place of the document blames nothing outside of
it, and puts off no check of a text outside of it. The rules follow the ways in which steps are put
together, and schemas are gone through by induction.
-/

namespace ApiScaffold.Blueprint

open OpenApi (Schema OrRef Extensions Specification Table MediaType)

variable {α β : Type} {places : String → Prop} {specification : Specification}
  {hint location : String}

/-- What may become of a draft: texts are put off at the given places only, or the failure is one of
those given. -/
def Confines (failures : Diagnostic → Prop) (places : String → Prop) (draft : Draft) :
    Except Diagnostic α × Draft → Prop
  | (.ok _, after) => ∀ check ∈ after.textChecks, check ∈ draft.textChecks ∨ places check.2
  | (.error diagnostic, _) => failures diagnostic

/-- The step fails in the given ways only, and puts off texts at the given places only. -/
structure Confined (failures : Diagnostic → Prop) (places : String → Prop) (step : Drafting α) :
    Prop where
  confines : ∀ draft, Confines failures places draft (step.run.run draft)

namespace Confined

variable {failures : Diagnostic → Prop} {step : Drafting α}

theorem silent (keeps : ∀ draft, ∃ value after, step.run.run draft = (.ok value, after) ∧
    after.textChecks = draft.textChecks) : Confined failures places step := by
  constructor
  intro draft
  obtain ⟨value, after, ran, same⟩ := keeps draft
  rw [ran]
  intro check member
  rw [same] at member
  exact .inl member

theorem pure {value : α} : Confined failures places (pure value) :=
  silent fun draft => ⟨value, draft, rfl, rfl⟩

theorem bind {next : α → Drafting β} (first : Confined failures places step)
    (second : ∀ value, Confined failures places (next value)) :
    Confined failures places (step >>= next) := by
  constructor
  intro draft
  have here := first.confines draft
  rw [Drafting.run_bind]
  generalize step.run.run draft = result at here
  rcases result with ⟨diagnostic | value, middle⟩
  · exact here
  · have there := (second value).confines middle
    dsimp only
    generalize (next value).run.run middle = result at there
    rcases result with ⟨diagnostic | value, after⟩
    · exact there
    · exact fun check member => (there check member).elim (here check) .inr

theorem imp {weaker : Diagnostic → Prop} {wider : String → Prop}
    (confined : Confined failures places step)
    (weakens : ∀ diagnostic, failures diagnostic → weaker diagnostic)
    (widens : ∀ location, places location → wider location) : Confined weaker wider step := by
  constructor
  intro draft
  have here := confined.confines draft
  generalize step.run.run draft = result at here
  rcases result with ⟨diagnostic | value, after⟩
  · exact weakens diagnostic here
  · exact fun check member => (here check member).imp_right (widens check.2)

theorem throw {diagnostic : Diagnostic} (fails : failures diagnostic) :
    Confined failures places (throw diagnostic : Drafting α) := ⟨fun _ => fails⟩

theorem fail {problem : Problem} (fails : failures (problem.report location)) :
    Confined failures places (Drafting.fail problem location : Drafting α) := throw fails

theorem warn {message : String} : Confined failures places (Drafting.warn message) :=
  silent fun _ => ⟨(), _, rfl, rfl⟩

theorem resolve {shape : Shape} : Confined failures places (Drafting.resolve shape) :=
  silent fun _ => ⟨_, _, rfl, rfl⟩

theorem check_text_later {shape : Shape} (here : places location) :
    Confined failures places (Drafting.checkTextLater shape location) := by
  constructor
  intro draft check member
  obtain known | added := List.mem_append.mp member
  · exact .inl known
  · rw [List.mem_singleton.mp added]
    exact .inr here

theorem lift_except {outcome : Except Diagnostic α}
    (fails : ∀ diagnostic, outcome = .error diagnostic → failures diagnostic) :
    Confined failures places (liftExcept outcome) := by
  cases outcome with
  | error diagnostic => exact throw (fails diagnostic rfl)
  | ok value => exact pure

theorem lift_bind {outcome : Except Diagnostic α} {next : α → Drafting β}
    (fails : ∀ diagnostic, outcome = .error diagnostic → failures diagnostic)
    (second : ∀ value, outcome = .ok value → Confined failures places (next value)) :
    Confined failures places (liftExcept outcome >>= next) := by
  cases outcome with
  | error diagnostic => exact throw (fails diagnostic rfl)
  | ok value => exact second value rfl

theorem register {component : Component}
    (collides : ∀ name first second,
      failures (Diagnostic.nameCollision .lower name first second)) :
    Confined failures places (Drafting.register component) := by
  constructor
  intro draft
  rw [Drafting.run_register]
  cases draft.components.find? component.name with
  | some existing => exact collides _ _ _
  | none => exact fun _ member => .inl member

theorem attributing {operation : String} {attributed : Diagnostic → Prop}
    (confined : Confined failures places step)
    (attributes : ∀ diagnostic, failures diagnostic →
      attributed (diagnostic.attributeTo operation)) :
    Confined attributed places (Drafting.attributing operation step) := by
  constructor
  intro draft
  have here := confined.confines draft
  rw [Drafting.run_attributing]
  generalize step.run.run draft = result at here
  rcases result with ⟨diagnostic | value, after⟩
  · exact attributes diagnostic here
  · exact here

theorem each {ι : Type} {items : List ι} {body : ι → PUnit → Drafting (ForInStep PUnit)}
    (round : ∀ item ∈ items, Confined failures places (body item PUnit.unit)) :
    Confined failures places (forIn items PUnit.unit body) := by
  induction items with
  | nil => exact pure
  | cons item rest induction =>
      obtain ⟨first, others⟩ := List.forall_mem_cons.mp round
      rw [List.forIn_cons]
      apply bind first
      intro result
      cases result with
      | done value => exact pure
      | yield value => exact induction others

end Confined

/-- The step blames nothing and puts off nothing outside of the given places. -/
abbrev StaysIn (places : String → Prop) (step : Drafting α) : Prop :=
  Confined (Blames places) places step

namespace StaysIn

variable {step : Drafting α}

theorem imp {wider : String → Prop} (stays : StaysIn places step)
    (widens : ∀ location, places location → wider location) : StaysIn wider step :=
  Confined.imp stays (fun _ blames => blames.imp widens) widens

/-- What stays below a place stays below all places above it. -/
theorem outward {inner : String} (stays : StaysIn (Under inner) step)
    (below : Under location inner) : StaysIn (Under location) step :=
  stays.imp fun _ => below.trans

end StaysIn

section Shapes

theorem place_stays {placement : Placement} {schema : Schema} {shape : Shape} :
    StaysIn (Under location) (place placement hint location schema shape) := by
  cases placement with
  | declared => exact .pure
  | nested =>
      apply Confined.bind (.lift_except read_extensions_fails_at)
      intro extensions
      exact .bind (.register fun _ _ _ => .collision) fun _ => .pure

theorem required_names_stays {schema : Schema} :
    StaysIn places (requiredNames schema location) := by
  unfold requiredNames
  refine .bind (.each fun name _ => ?_) fun _ => .pure
  split
  · exact .bind .warn fun _ => .pure
  · exact .pure

theorem field_stays {jsonName : String} {item : OrRef Schema} {required : Bool} {shape : Shape} :
    StaysIn (Under location) (fieldOf specification jsonName item required location shape) := by
  unfold fieldOf
  apply Confined.bind (.lift_except field_rules_fails_at)
  intro rules
  dsimp only
  split
  · exact .bind (.check_text_later .refl) fun _ => .pure
  · exact .pure

/-- Wherever the schema is given its shape, the step stays there. -/
def ShapeStays (specification : Specification) (schema : Schema) : Prop :=
  ∀ placement hint location,
    StaysIn (Under location) (shapeOf specification placement hint location schema)

theorem nested_shape_stays {item : OrRef Schema}
    (inside : item.Satisfies (ShapeStays specification)) :
    StaysIn (Under location) (nestedShape specification hint location item) := by
  cases item with
  | reference target =>
      rw [nestedShape]
      exact .lift_except reference_shape_fails_at
  | object schema =>
      rw [nestedShape]
      exact inside .nested hint location

theorem element_shape_stays {items : Option (OrRef Schema)}
    (inside : ∀ item, items = some item → item.Satisfies (ShapeStays specification)) :
    StaysIn (Under location) (elementShape specification hint location items) := by
  cases items with
  | none => exact .pure
  | some item => exact nested_shape_stays (inside item rfl)

theorem additional_shape_stays {additional : Option (OpenApi.AdditionalProperties Schema)}
    (inside : ∀ item, additional = some (.schema item) →
      item.Satisfies (ShapeStays specification)) :
    StaysIn (Under location) (additionalShape specification hint location additional) := by
  match additional with
  | none => exact .pure
  | some (.allowed flag) => exact .pure
  | some (.schema item) => exact .bind (nested_shape_stays (inside item rfl)) fun _ => .pure

theorem member_shapes_stays {items : List (OrRef Schema)} {index : Nat}
    (inside : ∀ item ∈ items, item.Satisfies (ShapeStays specification)) :
    StaysIn (Under location) (memberShapes specification hint location index items) := by
  induction items generalizing index with
  | nil => exact .pure
  | cons item rest induction =>
      obtain ⟨first, others⟩ := List.forall_mem_cons.mp inside
      rw [memberShapes]
      have here : Under location s!"{location}/{index}" := .named rfl
      apply Confined.bind ((nested_shape_stays first).outward here)
      intro shape
      exact .bind (induction others) fun _ => .pure

theorem property_fields_stays {properties : Table (OrRef Schema)} {required : List String}
    {known : List (String × String)}
    (inside : ∀ entry ∈ properties, entry.2.Satisfies (ShapeStays specification)) :
    StaysIn (Under location)
      (propertyFields specification required hint location known properties) := by
  induction properties generalizing known with
  | nil => exact .pure
  | cons entry rest induction =>
      obtain ⟨first, others⟩ := List.forall_mem_cons.mp inside
      rw [propertyFields]
      have here : Under location s!"{location}/properties/{entry.1}" := .named rfl
      simp only [Drafting.fail_bind]
      split
      · exact .fail (.report rfl here)
      split
      · exact .throw (.collision_at .refl)
      · apply Confined.bind ((nested_shape_stays first).outward here)
        intro shape
        apply Confined.bind (field_stays.outward here)
        intro field
        exact .bind (induction others) fun _ => .pure

theorem composed_shape_stays {schema : Schema} (inside : schema.Inside (ShapeStays specification)) :
    StaysIn (Under location) (composedShape specification hint location schema) := by
  unfold composedShape
  split
  · exact StaysIn.outward (.lift_except reference_shape_fails_at) (.step rfl)
  split
  · exact .bind ((member_shapes_stays inside.allOf).outward (.step rfl)) fun _ => .pure
  split
  · exact .bind ((member_shapes_stays inside.oneOf).outward (.step rfl)) fun _ => .pure
  · exact .bind ((member_shapes_stays inside.anyOf).outward (.step rfl)) fun _ => .pure

theorem object_shape_stays {schema : Schema} (inside : schema.Inside (ShapeStays specification))
    {placement : Placement} {mapType : Option String} :
    StaysIn (Under location)
      (objectShape specification placement hint location mapType schema) := by
  have beside : StaysIn (Under location)
      (besideFields specification hint location mapType schema) := by
    unfold besideFields
    split
    · exact .pure
    · exact (additional_shape_stays inside.additional).outward (.step rfl)
  apply Confined.bind (property_fields_stays inside.properties)
  intro fields
  apply Confined.bind required_names_stays
  intro required
  apply Confined.bind beside
  intro additional
  split
  · exact .pure
  · exact place_stays

theorem own_shape_stays {schema : Schema} (inside : schema.Inside (ShapeStays specification))
    {placement : Placement} {extensions : Extensions} :
    StaysIn (Under location)
      (ownShape specification placement hint location extensions schema) := by
  unfold ownShape
  split
  · exact .fail (.report rfl .refl)
  split
  · exact composed_shape_stays inside
  split
  · exact .bind (.lift_except enumeration_fails_at) fun _ => place_stays
  split
  · exact .bind ((element_shape_stays inside.items).outward (.step rfl)) fun _ => .pure
  split
  · exact object_shape_stays inside
  · exact .lift_except plain_shape_fails_at

theorem shape_stays (schema : Schema) : ShapeStays specification schema := by
  induction schema using Schema.of_inside with
  | step schema inside =>
      intro placement hint location
      rw [shape_of_schema]
      apply Confined.bind (.lift_except read_extensions_fails_at)
      intro extensions
      split
      · exact .pure
      · exact own_shape_stays inside

theorem item_stays {item : OrRef Schema} :
    StaysIn (Under location) (nestedShape specification hint location item) := by
  apply nested_shape_stays
  cases item with
  | reference target => trivial
  | object schema => exact shape_stays schema

end Shapes

end ApiScaffold.Blueprint
