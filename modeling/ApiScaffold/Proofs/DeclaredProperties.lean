import ApiScaffold.Proofs.NormalForm
import ApiScaffold.Proofs.ReorderedRules
import ApiScaffold.Proofs.ShortDocuments

/-!
What becomes of the properties of an object. A schema may be several things at once, and the first
form that fits counts: a type from elsewhere, a composition, a list of values and an array come
before properties. Without these, each property has a field. Members of a composition are erased, so
that properties beside them need no fields; but where one reference is all that composes a schema,
the schema becomes the component of that reference, and the properties beside it are lost.
-/

namespace ApiScaffold

namespace OpenApi.Extensions

/-- A slot leaves a part of what was read before as it is. -/
def Slot.Keeps {α : Type} (part : Extensions → α) (slot : Slot) : Prop :=
  ∀ value change, slot value = some change →
    ∀ extensions, part (change extensions) = part extensions

@[simp] theorem storing_keeps {α β : Type} {part : Extensions → α}
    {read : Json → Except Diagnostic β} {store : β → Extensions → Extensions}
    (keeps : ∀ known extensions, part (store known extensions) = part extensions) :
    Slot.Keeps part (.storing read store) := by
  intro value change stored extensions
  obtain ⟨known, _, rfl⟩ := Option.map_eq_some_iff.mp stored
  exact keeps known extensions

theorem change_keeps_go_type (location : String) {key : String} (other : key ≠ "x-go-type") :
    Slot.Keeps goType (change location key) := by
  have others : ∀ entry ∈ slots location, entry.1 ≠ "x-go-type" → Slot.Keeps goType entry.2 := by
    simp [slots]
  unfold change
  cases found : (slots location).lookup key with
  | none =>
      intro value change stored extensions
      cases stored
      rfl
  | some slot => exact others _ (mem_of_lookup found) other

theorem read_member_keeps_go_type {location key : String} {extensions next : Extensions}
    {value : Json} (other : key ≠ "x-go-type")
    (read : readMember location extensions key value = .ok next) :
    next.goType = extensions.goType := by
  have made := to_option_eq_some.mpr read
  rw [read_member_eq] at made
  obtain ⟨change, stored, rfl⟩ := Option.map_eq_some_iff.mp made
  exact change_keeps_go_type location other value change stored extensions

theorem go_type_of_read {members : List (String × Json)} {location : String}
    {extensions : Extensions} (absent : ∀ member ∈ members, member.1 ≠ "x-go-type")
    (read : Extensions.read members location = .ok extensions) : extensions.goType = none := by
  refine foldlM_keeps ?_ read
  intro member listed known next made
  exact read_member_keeps_go_type (absent member listed) made

end OpenApi.Extensions

namespace Blueprint

open OpenApi (Schema OrRef Extensions Specification Table)

theorem Shape.in_place_of_composition {shape : Shape} (composition : shape.isComposition = true) :
    shape.isInPlace = true := by
  cases shape <;> first | rfl | cases composition

/-- A schema of an object that has properties, and that neither stands for a type from elsewhere nor
lists its values. -/
structure DeclaresProperties (schema : Schema) : Prop where
  untyped : ∀ member ∈ schema.extensions, member.1 ≠ "x-go-type"
  unlisted : schema.enum = []
  stated : schema.properties ≠ []
  object : schema.primaryType = some "object" ∨ schema.type = none

def Shape.HasFieldsOf (properties : Table (OrRef Schema)) : Shape → Prop
  | .object fields required _ =>
      fields.map (·.1) = properties.map (·.1) ∧ FieldsAgree fields required
  | _ => False

theorem Shape.HasFieldsOf.json_names {properties : Table (OrRef Schema)} {shape : Shape}
    (own : shape.HasFieldsOf properties) :
    shape.fields.map (·.jsonName) = properties.map (·.1) := by
  cases shape with
  | object fields required additional =>
      obtain ⟨names, agree⟩ := own
      rw [← names, Shape.fields, List.map_map]
      exact List.map_congr_left agree.named
  | _ => cases own

/-- Each property has its field, here or in a component; an erased composition has no need of
fields. -/
inductive KeepsProperties (components : Registry Component) (properties : Table (OrRef Schema)) :
    Shape → Prop where
  | object {shape : Shape} (own : shape.HasFieldsOf properties) :
    KeepsProperties components properties shape
  | placed {name : String} {component : Component} (found : components.find? name = some component)
    (own : component.shape.HasFieldsOf properties) :
    KeepsProperties components properties (.named name)
  | erased {shape : Shape} (composition : shape.isComposition = true) :
    KeepsProperties components properties shape

theorem only_reference_composes {schema : Schema} {target : String}
    (sole : onlyReference? schema = some target) : schema.isComposition = true := by
  unfold onlyReference? at sole
  split at sole
  · rename_i members _ _
    rw [Schema.isComposition, members]
    rfl
  · cases sole

section Declaring

variable {specification : Specification} {whole : Effects} {hint location : String}
  {schema : Schema} {shape : Shape}

/-- Beside properties only a composition counts. -/
theorem DeclaresProperties.form (declares : DeclaresProperties schema) {extensions : Extensions}
    (untyped : extensions.goType = none) : SchemaForm.of extensions schema =
      if schema.isComposition then .composition else .object := by
  have unlisted : schema.isEnum = false := by rw [Schema.isEnum, declares.unlisted]; rfl
  have object : schema.isObject = true := by
    rcases declares.object with stated | none
    · rw [Schema.isObject, stated]
      rfl
    · have filled : schema.properties.isEmpty = false :=
        Bool.eq_false_iff.mpr fun empty => declares.stated (List.isEmpty_iff.mp empty)
      rw [Schema.isObject, none, filled, Option.isNone_none, Bool.not_false, Bool.and_true,
        Bool.or_true]
  have single : schema.isArray = false := by
    rcases declares.object with stated | none
    · rw [Schema.isArray, stated]
      rfl
    · rw [Schema.isArray, Schema.primaryType, none]
      rfl
  simp [SchemaForm.of, untyped, unlisted, single, object]

/-- Where the schema is declared, it is an object, an erased composition or what is referred to. -/
theorem DeclaresProperties.outlined (declares : DeclaresProperties schema)
    (gives : (shapePlan specification .declared hint location schema).Gives whole shape) :
    match onlyReference? schema with
    | some target => ∃ key, target = OpenApi.schemasPlace ++ key ∧
        shape = .named (Identifier.exported key) ∧
        (specification.components.schemas.lookup key).isSome
    | none => shape.isComposition = schema.isComposition ∧
        (schema.isComposition = false → shape.HasFieldsOf schema.properties) := by
  obtain ⟨extensions, read, outlined⟩ := declared_outlined gives
  have untyped := Extensions.go_type_of_read declares.untyped read
  have known := declares.form untyped
  have composes (form : SchemaForm.of extensions schema = .composition) :
      schema.isComposition = true := by
    rw [known] at form
    split at form
    · assumption
    · cases form
  cases outlined with
  | custom stated =>
      rw [untyped] at stated
      cases stated
  | reference form sole referred =>
      rw [sole]
      exact reference_named referred
  | allOf form several planned | oneOf form several planned | anyOf form several planned =>
      have composed := composes form
      rw [several]
      exact ⟨composed.symm, fun single => absurd composed (Bool.eq_false_iff.mp single)⟩
  | object form planned beside =>
      have single : schema.isComposition = false := by
        rw [known] at form
        split at form
        · cases form
        · exact Bool.eq_false_iff.mpr ‹_›
      have given := fields_give planned
      cases sole : onlyReference? schema with
      | some target => exact absurd (only_reference_composes sole) (Bool.eq_false_iff.mp single)
      | none => exact ⟨single.symm, fun _ => ⟨given.names, given.object.toFieldsAgree⟩⟩
  | enumeration form _ | array form _ | plain form _ =>
      rw [known] at form
      split at form <;> cases form

/-- Wherever the schema stands, it is declared first; then it may become a component. -/
theorem shape_plan_gives {placement : Placement}
    (gives : (shapePlan specification placement hint location schema).Gives whole shape) :
    ∃ own, (shapePlan specification .declared hint location schema).Gives whole own ∧
      (shape = own ∨ own.isInPlace = false ∧ shape = .named hint ∧
        ∃ component ∈ whole.components, component.name = hint ∧ component.shape = own) := by
  cases placement with
  | declared => exact ⟨shape, gives, .inl rfl⟩
  | nested =>
      rw [nested_plan_settled] at gives
      obtain ⟨own, declared, settled⟩ := Plan.Gives.bind_iff.mp gives
      exact ⟨own, declared, (settle_gives settled).imp_left And.right⟩

end Declaring

/-- The properties of an object are kept, as its own or as those of a new component under the name
that was handed on, unless the schema is composed. Members of a composition are erased; a single
reference becomes the name of the component that it leads to, whatever the properties are. -/
theorem properties_kept_unless_linked {specification : Specification} {placement : Placement}
    {hint location : String} {schema : Schema} {shape : Shape} {draft reached : Draft}
    (declares : DeclaresProperties schema)
    (success : (shapeOf specification placement hint location schema).run.run draft =
      (.ok shape, reached)) :
    match onlyReference? schema with
    | some target => ∃ key, target = OpenApi.schemasPlace ++ key ∧
        shape = .named (Identifier.exported key) ∧
        (specification.components.schemas.lookup key).isSome
    | none => KeepsProperties reached.components schema.properties shape ∧
        shape.isComposition = schema.isComposition ∧
        ∀ name, shape = .named name → name = hint ∧ hint ∉ draft.components.keys := by
  obtain ⟨effects, planned, fresh, registered⟩ :=
    (shape_plays schema placement hint location).ran trivial success
  obtain ⟨own, declared, settled⟩ := shape_plan_gives ⟨effects, planned, .refl effects⟩
  have outlined := declares.outlined declared
  cases sole : onlyReference? schema with
  | some target =>
      rw [sole] at outlined
      obtain ⟨key, stated, rfl, known⟩ := outlined
      rcases settled with same | ⟨moved, _⟩
      · exact ⟨key, stated, same, known⟩
      · cases moved
  | none =>
      rw [sole] at outlined
      obtain ⟨composed, fields⟩ := outlined
      cases composition : schema.isComposition with
      | true =>
          rw [composition] at composed
          rcases settled with rfl | ⟨moved, _⟩
          · refine ⟨.erased composed, composed, ?_⟩
            rintro name rfl
            cases composed
          · rw [Shape.in_place_of_composition composed] at moved
            cases moved
      | false =>
          have kept := fields composition
          rcases settled with rfl | ⟨moved, rfl, component, added, rfl, rfl⟩
          · refine ⟨.object kept, composed.trans composition, fun name same => ?_⟩
            rw [same] at kept
            cases kept
          · have found := Effects.find?_register fresh added
            have new := fresh.unknown _ (List.mem_map_of_mem added)
            refine ⟨.placed (registered ▸ found) kept, rfl, ?_⟩
            rintro name ⟨⟩
            exact ⟨rfl, new⟩

def desk : Schema where
  type := some (.single "object")
  properties := [("floor", .object { type := some (.single "integer") })]

theorem desk_keeps_floor : DeclaresProperties desk ∧ ∃ shape reached,
    (shapeOf { openapi := "3.0.0" } .nested "OfficeDesk"
      "#/components/schemas/office/properties/desk" desk).run.run {} = (.ok shape, reached) ∧
    KeepsProperties reached.components desk.properties shape := by
  have declares : DeclaresProperties desk := ⟨List.forall_mem_nil _, rfl, nofun, .inl rfl⟩
  let run := (shapeOf { openapi := "3.0.0" } .nested "OfficeDesk"
    "#/components/schemas/office/properties/desk" desk).run.run {}
  have ends : run.1.toOption.isSome := by decide +kernel
  obtain ⟨shape, drawn⟩ := Option.isSome_iff_exists.mp ends
  have success : run = (.ok shape, run.2) := Prod.ext (to_option_eq_some.mp drawn) rfl
  exact ⟨declares, shape, run.2, success, (properties_kept_unless_linked declares success).1⟩

def manager : Schema where
  type := some (.single "object")
  allOf := [.reference "#/components/schemas/person"]
  properties := [("reports", .object { type := some (.single "integer") })]

def staff : OpenApi.Document where
  specification := {
    openapi := "3.0.0"
    components := { schemas := [
      ("manager", .object manager),
      ("person", .object {
        type := some (.single "object")
        properties := [("name", .object { type := some (.single "string") })] })] } }
  raw := .null

theorem manager_loses_reports : DeclaresProperties manager ∧ ∃ program,
    (compile staff { package := "api", path := "" }).1 = .ok program ∧
    (shapeOf staff.specification .declared "Manager" "#/components/schemas/manager" manager).run.run
      {} = (.ok (.named "Person"), {}) ∧
    ¬ KeepsProperties program.components manager.properties (.named "Person") := by
  refine ⟨⟨List.forall_mem_nil _, rfl, nofun, .inl rfl⟩, ?_⟩
  have holds : (compileShort staff { package := "api", path := "" }).any fun program =>
      (program.components.find? "Person").any fun component =>
        component.shape.fields.map (·.jsonName) == ["name"] := by decide +kernel
  obtain ⟨program, drawn, known⟩ := compiled_of_short holds
  obtain ⟨person, found, names⟩ := (Option.any_eq_true _ _).mp known
  refine ⟨program, drawn, rfl, ?_⟩
  intro keeps
  cases keeps with
  | object own => cases own
  | placed stands own =>
      rw [found] at stands
      cases stands
      have same := own.json_names
      rw [beq_iff_eq.mp names] at same
      exact absurd same (by decide)
  | erased composition => cases composition

end Blueprint

end ApiScaffold
