import ApiScaffold.Proofs.ProgramParts
import ApiScaffold.Proofs.ShortDocuments
import Mathlib.Logic.Relation

/-!
The normal form of programs. Enumerations and objects with fields are the shapes of components, and
stand nowhere else: neither inside of another shape nor in an operation, where bodies are names.
The fields of an object agree with their keys, and with the keys that are required.
-/

namespace ApiScaffold.Blueprint

open OpenApi (Schema OrRef Extensions Specification Document)
open Relation (TransGen ReflTransGen)

structure FieldsAgree (fields : List (String × Field Shape)) (required : List String) : Prop where
  distinct : (fields.map (·.1)).Nodup
  named : ∀ entry ∈ fields, entry.2.jsonName = entry.1
  listed : required ⊆ fields.map (·.1)
  present : ∀ entry ∈ fields, entry.2.optionality = .required ↔
    entry.1 ∈ required ∧ entry.2.optionality ≠ .pointer

/-- The fields of an object also have the texts put off that they ask for. -/
structure ObjectGiven (whole : Effects) (fields : List (String × Field Shape))
    (required : List String) : Prop extends FieldsAgree fields required where
  checked : ∀ entry ∈ fields, entry.2.regex.isSome || entry.2.trimmable →
    ∃ location, (entry.2.shape, location) ∈ whole.texts

/-- Nothing inside of a shape needs a declaration, and all of its objects are as they should be. -/
structure Settled (whole : Effects) (shape : Shape) : Prop where
  inPlace : ∀ part, TransGen Shape.Contains shape part → part.isInPlace
  objects : ∀ fields required additional,
    ReflTransGen Shape.Contains shape (.object fields required additional) →
      ObjectGiven whole fields required

section Settling

variable {specification : Specification} {whole : Effects} {hint location : String}

/-- It is enough to look at what stands right inside. -/
theorem Settled.of_parts {shape : Shape}
    (own : ∀ fields required additional, shape = .object fields required additional →
      ObjectGiven whole fields required)
    (parts : ∀ inner, shape.Contains inner → inner.isInPlace ∧ Settled whole inner) :
    Settled whole shape := by
  constructor
  · intro part inside
    rcases TransGen.head'_iff.mp inside with ⟨inner, contains, beneath⟩
    obtain ⟨inPlace, settled⟩ := parts inner contains
    rcases Relation.reflTransGen_iff_eq_or_transGen.mp beneath with same | deeper
    · exact same.symm ▸ inPlace
    · exact settled.inPlace part deeper
  · intro fields required additional inside
    rcases ReflTransGen.cases_head inside with same | ⟨inner, contains, beneath⟩
    · exact own fields required additional same
    · exact (parts inner contains).2.objects fields required additional beneath

theorem Settled.of_leaf {shape : Shape} (none : ∀ inner, ¬ shape.Contains inner)
    (plain : ∀ fields required additional, shape ≠ .object fields required additional) :
    Settled whole shape :=
  .of_parts (fun fields required additional same => absurd same (plain fields required additional))
    fun inner contains => absurd contains (none inner)

theorem settled_named (name : String) : Settled whole (.named name) := .of_leaf nofun nofun

theorem settled_anything : Settled whole .anything := by
  apply Settled.of_parts
  · intro fields required additional same
    cases same
    exact ⟨⟨.nil, List.forall_mem_nil _, List.nil_subset _, List.forall_mem_nil _⟩,
      List.forall_mem_nil _⟩
  · intro inner contains
    generalize same : Shape.anything = anything at contains
    cases contains <;> cases same
    contradiction

theorem mem_sorted_names {names : List String} {name : String} :
    name ∈ sortedNames names ↔ name ∈ names := by
  have listed (known : Registry Unit) :
      name ∈ (names.foldl (fun known name => known.insert name ()) known).keys ↔
        name ∈ names ∨ name ∈ known.keys := by
    induction names generalizing known with
    | nil => simp
    | cons first rest induction =>
        rw [List.foldl_cons, induction, Registry.mem_keys_insert, List.mem_cons]
        tauto
  unfold sortedNames
  rw [listed]
  exact or_iff_left List.not_mem_nil

theorem mem_declared_requirements {schema : Schema} {name : String} :
    name ∈ declaredRequirements schema ↔
      name ∈ schema.required ∧ name ∈ schema.properties.map (·.1) := by
  have declared : (schema.properties.lookup name).isSome ↔ name ∈ schema.properties.map (·.1) :=
    Registry.find?_is_some_iff schema.properties name
  unfold declaredRequirements
  rw [mem_sorted_names, List.mem_filter, declared]

theorem optionality_required_iff {extensions : Extensions} {required nullable : Bool} :
    optionalityOf extensions required nullable = .required ↔
      required ∧ optionalityOf extensions required nullable ≠ .pointer := by
  unfold optionalityOf
  cases extensions.pointer <;> cases required <;> cases nullable <;> decide

theorem FieldsGiven.names {schema : Schema} {fields : List (String × Field Shape)}
    (given : FieldsGiven specification whole hint location schema fields) :
    fields.map (·.1) = schema.properties.map (·.1) :=
  map_eq_of_pairs given.given.flip fun _ _ entry => entry.key

theorem FieldsGiven.object {schema : Schema} {fields : List (String × Field Shape)}
    (given : FieldsGiven specification whole hint location schema fields) :
    ObjectGiven whole fields (declaredRequirements schema) := by
  have keys := given.names.symm
  have source {entry : String × Field Shape} (member : entry ∈ fields) :
      ∃ property, PropertyGiven specification whole schema.required hint location property
        entry := by
    obtain ⟨property, _, kept⟩ := partner_of_mem given.given.flip member
    exact ⟨property, kept⟩
  constructor
  · constructor
    · rw [← keys]
      have apart := given.identifiable.1.distinct
      have mapped : propertyIdentifiers schema.properties =
          (schema.properties.map (·.1)).map Identifier.exported := by
        rw [List.map_map, Function.comp_def, propertyIdentifiers]
      rw [mapped] at apart
      exact apart.of_map
    · intro entry member
      obtain ⟨property, kept⟩ := source member
      rw [kept.field.jsonName, kept.key]
    · intro name required
      rw [← keys]
      exact (mem_declared_requirements.mp required).2
    · intro entry member
      obtain ⟨property, kept⟩ := source member
      obtain ⟨rules, _, optionality⟩ := kept.field.optionality
      have stated : entry.1 ∈ schema.properties.map (·.1) :=
        keys ▸ List.mem_map_of_mem member
      rw [optionality, optionality_required_iff, mem_declared_requirements, and_iff_left stated,
        List.contains_iff_mem, kept.key]
  · intro entry member asked
    obtain ⟨property, kept⟩ := source member
    exact ⟨_, kept.field.checked asked⟩

theorem Outlined.object_given {extensions : Extensions} {schema : Schema}
    {fields : List (String × Field Shape)} {required : List String} {additional : Additional Shape}
    (outlined : Outlined specification whole hint location extensions schema
      (.object fields required additional)) : ObjectGiven whole fields required := by
  cases outlined with
  | reference form sole referred =>
      obtain ⟨key, _, same, _⟩ := reference_named referred
      cases same
  | object form planned beside => exact (fields_give planned).object
  | plain form given =>
      rcases plain_primitive given with same | ⟨primitive, same⟩
      · rw [same] at given
        exact (same ▸ settled_anything).objects _ _ _ .refl
      · cases same

def SettlesShape (specification : Specification) (whole : Effects) (schema : Schema) : Prop :=
  ∀ hint location shape,
    (shapePlan specification .declared hint location schema).Gives whole shape →
      Settled whole shape

theorem nested_settled_of {item : OrRef Schema} {shape : Shape}
    (inside : item.Satisfies (SettlesShape specification whole))
    (nested : Nested specification whole hint location item shape) :
    shape.isInPlace ∧ Settled whole shape := by
  cases nested with
  | reference declared => exact ⟨rfl, settled_named _⟩
  | inPlace declared stays => exact ⟨stays, inside _ _ _ declared⟩
  | component declared named registered => exact ⟨rfl, settled_named _⟩

theorem declared_settled (schema : Schema) : SettlesShape specification whole schema := by
  induction schema using Schema.of_inside with
  | step schema inside =>
      intro hint location shape gives
      obtain ⟨extensions, _, outlined⟩ := declared_outlined gives
      apply Settled.of_parts
      · intro fields required additional same
        exact Outlined.object_given (same ▸ outlined)
      · intro inner contains
        rcases outlined.contains inside contains with rfl | ⟨item, _, _, within, nested⟩
        · exact ⟨rfl, settled_anything⟩
        · exact nested_settled_of within nested

theorem nested_settled {item : OrRef Schema} {shape : Shape}
    (nested : Nested specification whole hint location item shape) :
    shape.isInPlace ∧ Settled whole shape := by
  apply nested_settled_of _ nested
  cases item with
  | reference target => trivial
  | object schema => exact declared_settled schema

theorem Sourced.settled {component : Component}
    (sourced : Sourced specification whole component) : Settled whole component.shape := by
  cases sourced with
  | reference stated named shape declared =>
      rw [shape]
      exact settled_named _
  | schema source =>
      obtain ⟨location, schema, _, declared⟩ := source
      exact declared_settled schema _ _ _ declared
  | content shape =>
      rcases shape with bytes | any
      · rw [bytes]
        exact .of_leaf nofun nofun
      · rw [any]
        exact settled_anything

theorem ScalarGiven.settled {listsAllowed : Bool} {field : Field Shape}
    (given : ScalarGiven specification whole listsAllowed field) :
    field.shape.isInPlace ∧ Settled whole field.shape := by
  rcases given.shape with text | ⟨item, _, _, nested⟩
  · rw [text]
    exact ⟨rfl, .of_leaf nofun nofun⟩
  · exact nested_settled nested

theorem ContentGiven.settled {content : BodyContent} (given : ContentGiven whole content) :
    Settled whole content.shape := by
  obtain ⟨name, named⟩ := given.named
  rw [named]
  exact settled_named name

/-- Whatever a program holds is settled. -/
theorem ProgramGiven.settled {program : Program}
    (given : ProgramGiven specification whole program) {shape : Shape} (held : program.Holds shape) :
    Settled whole shape := by
  cases held with
  | @component entry member =>
      rw [given.registered] at member
      have listed : entry.2 ∈ (whole.register []).values := List.mem_map_of_mem member
      have added := (Effects.mem_registered given.accepted.distinct).mp listed
      exact (given.sourced entry.2 added).settled
  | @parameter operation parameter among member =>
      exact ((given.operations.each operation among).parameters parameter member).scalar.settled.2
  | @requestBody operation body content among stated member =>
      have listed : content ∈ operation.bodyContents := by
        rw [body_contents, stated]
        exact member
      exact ((given.operations.each operation among).request.each content listed).settled
  | @response operation response content among answers member =>
      have parts := (given.operations.each operation among).responses response answers
      exact (parts.contents.each content member).settled
  | @header operation response header among answers member =>
      have parts := (given.operations.each operation among).responses response answers
      exact (parts.headers header member).settled.2

end Settling

/-- Enumerations and objects with fields are the shapes of components only, contents are named, and
all objects agree with their keys. -/
structure Program.Normal (program : Program) : Prop where
  components : ∀ component ∈ program.components.values, ∀ part,
    TransGen Shape.Contains component.shape part → part.isInPlace
  parameters : ∀ operation ∈ program.operations, ∀ parameter ∈ operation.parameters, ∀ part,
    ReflTransGen Shape.Contains parameter.field.shape part → part.isInPlace
  headers : ∀ operation ∈ program.operations, ∀ response ∈ operation.responses,
    ∀ header ∈ response.headers, ∀ part,
      ReflTransGen Shape.Contains header.field.shape part → part.isInPlace
  requests : ∀ operation ∈ program.operations, ∀ content ∈ operation.bodyContents,
    ∃ name, content.shape = .named name
  responses : ∀ operation ∈ program.operations, ∀ response ∈ operation.responses,
    ∀ content ∈ response.contents, ∃ name, content.shape = .named name
  objects : ∀ shape, program.Holds shape → ∀ fields required additional,
    ReflTransGen Shape.Contains shape (.object fields required additional) →
      FieldsAgree fields required

theorem lowered_normal {document : Document} {config : Config} {program : Program}
    (lowered : (lower document config).1 = .ok program) : program.Normal := by
  obtain ⟨whole, given⟩ := lowered_given lowered
  have scalar {listsAllowed : Bool} {field : Field Shape}
      (kept : ScalarGiven document.specification whole listsAllowed field) (part : Shape)
      (inside : ReflTransGen Shape.Contains field.shape part) : part.isInPlace := by
    obtain ⟨inPlace, settled⟩ := kept.settled
    rcases Relation.reflTransGen_iff_eq_or_transGen.mp inside with same | deeper
    · exact same.symm ▸ inPlace
    · exact settled.inPlace part deeper
  constructor
  · intro component member
    obtain ⟨entry, registered, rfl⟩ := List.mem_map.mp member
    exact (given.settled (.component registered)).inPlace
  · intro operation among parameter member
    exact scalar ((given.operations.each operation among).parameters parameter member).scalar
  · intro operation among response answers header member
    exact scalar (((given.operations.each operation among).responses response answers).headers header
      member)
  · intro operation among content member
    exact ((given.operations.each operation among).request.each content member).named
  · intro operation among response answers content member
    have parts := (given.operations.each operation among).responses response answers
    exact (parts.contents.each content member).named
  · intro shape held fields required additional inside
    exact ((given.settled held).objects fields required additional inside).toFieldsAgree

def aviary : Document where
  specification := {
    openapi := "3.0.0"
    components := { schemas := [
      ("bird", .object {
        type := some (.single "object")
        required := ["song"]
        properties := [
          ("song", .object { enum := [.string "trill", .string "chirp"] }),
          ("perches", .object {
            type := some (.single "array")
            items := some (.object { properties := [
              ("height", .object { type := some (.single "integer") })] }) })] })] }
    paths := [("/birds", { declared := [(.get, {
      parameters := [.object {
        name := "song"
        place := .query
        schema := some (.object { enum := [.string "trill", .string "chirp"] }) }]
      responses := [("200", .object { content := [("application/json", {
        schema := some (.object {
          type := some (.single "array")
          items := some (.reference "#/components/schemas/bird") }) })] })] })] })] }
  raw := .null

theorem aviary_normal :
    ∃ program, (lower aviary { package := "aviary", path := "" }).1 = .ok program ∧
      program.components.keys = ["Bird", "BirdPerchesItem", "BirdSong",
        "GetBirds200ApplicationJsonResponseBody", "GetBirdsQuerySong"] ∧ program.Normal := by
  have holds : (lowerShort aviary { package := "aviary", path := "" }).any fun program =>
      program.components.keys == ["Bird", "BirdPerchesItem", "BirdSong",
        "GetBirds200ApplicationJsonResponseBody", "GetBirdsQuerySong"] := by decide +kernel
  obtain ⟨program, result, keys⟩ := lowered_of_short holds
  exact ⟨program, result, eq_of_beq keys, lowered_normal result⟩

end ApiScaffold.Blueprint
