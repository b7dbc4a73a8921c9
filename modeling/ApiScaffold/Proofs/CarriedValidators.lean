import ApiScaffold.Proofs.DeclaredValidators
import ApiScaffold.Proofs.ShortDocuments

/-!
Validation reaches as far as shapes lead by lists and names. A field or a body whose values carry
values with a validator is validated itself, however long the way is and even if components lead to
each other in circles. A component that asks for no validation is the end of a way.
-/

namespace ApiScaffold.Server

open Blueprint Go Source
open OpenApi (Document)

namespace Outline

/-- Values of a component with a validator are somewhere in the values of a shape. -/
inductive Contains (outline : Outline) : Shape → Prop where
  | validated {name : String} (known : outline.hasValidator name = true) :
    Contains outline (.named name)
  | named {name : String} {component : Component}
    (found : outline.program.component? name = some component)
    (inside : Contains outline component.shape) : Contains outline (.named name)
  | element {element : Shape} {minItems maxItems : Option Nat}
    (inside : Contains outline element) : Contains outline (.array element minItems maxItems)
  | additional {fields : List (String × Blueprint.Field Shape)} {required : List String}
    {shape : Shape} (inside : Contains outline shape) :
    Contains outline (.object fields required (.typed shape))

/-- Values of a shape lead to values of a component with a validator, by lists and names. None of the
components on the way asks for no validation. -/
inductive Carries (outline : Outline) : Shape → Prop where
  | validated {name : String} (known : outline.hasValidator name = true) :
    Carries outline (.named name)
  | named {name : String} {component : Component}
    (found : outline.program.component? name = some component)
    (kept : component.skipValidation = false)
    (inside : Carries outline component.shape) : Carries outline (.named name)
  | element {element : Shape} {minItems maxItems : Option Nat}
    (inside : Carries outline element) : Carries outline (.array element minItems maxItems)

section Programs

variable {program : Program} (named : WellNamed program)

include named

/-- On the way back from the validator, every name has one. -/
theorem Carries.validates {shape : Shape} (carries : (ofProgram program).Carries shape) :
    (ofProgram program).validates shape = true := by
  induction carries with
  | validated known => exact known
  | element _ induction => exact induction
  | @named name component found kept inside induction =>
      rw [outline_program, named] at found
      obtain ⟨member, rfl⟩ := found
      refine validator_of_validates member ?_
      unfold componentValidates
      rw [kept]
      cases shape : component.shape with
      | named other => rwa [shape] at induction
      | array element minItems maxItems => rwa [shape] at induction
      | _ =>
          rw [shape] at inside
          cases inside

theorem Carries.nested_validates {shape : Shape} (carries : (ofProgram program).Carries shape) :
    (ofProgram program).nestedValidates shape = true :=
  nested_validates_iff.mpr ⟨[], .here (Bool.or_eq_true_iff.mpr (.inl (carries.validates named)))⟩

end Programs

end Outline

section Held

variable {shape : Shape} {name : String}

def listedName? : Shape → Option String
  | .array (.named name) _ _ => some name
  | _ => none

def valuedName? : Shape → Option String
  | .object _ _ (.typed (.named name)) => some name
  | _ => none

theorem list_of_name (listed : listedName? shape = some name) :
    ∃ minItems maxItems, shape = .array (.named name) minItems maxItems := by
  unfold listedName? at listed
  split at listed
  · cases listed
    exact ⟨_, _, rfl⟩
  · cases listed

theorem values_of_name (valued : valuedName? shape = some name) :
    ∃ fields required, shape = .object fields required (.typed (.named name)) := by
  unfold valuedName? at valued
  split at valued
  · cases valued
    exact ⟨_, _, rfl⟩
  · cases valued

end Held

/-- A parser checks the body that it has read. -/
def ChecksBody (program : Program) (operation : Operation) (variant : RequestVariant) : Prop :=
  ∃ declaration ∈ (routerPart program).declarations, ∃ signature statements,
    declaration.form = .function variant.parser signature statements ∧
      bodyCheck operation ∈ Go.Statement.wholes statements

/-- An object with a field whose values carry validated ones has a validator, and every validator of
it lists the field; a body whose values carry such values is checked by the parser. Neither is said
where validation is refused: by the component, by the field, or on the way. A look without a bound
finds these values as well (`Outline.nested_validates_iff_answers`); but if it has no end elsewhere in
the program, nothing is written. -/
theorem carried_values_validated {document : Document} {config : Config} {program : Program}
    (compiled : (compile document config).1 = .ok program) :
    (∀ component ∈ program.components.values, component.skipValidation = false →
      ∀ field ∈ component.shape.fields, field.skipValidation = false →
        (Outline.ofProgram program).Carries field.shape →
          (Outline.ofProgram program).hasValidator component.name = true ∧
          (∃ rows, Validates (componentsPart program) component.name rows) ∧
          ∀ rows, Validates (componentsPart program) component.name rows → ∃ row ∈ rows,
            ListsMember (receiverName component.name) (Identifier.exported field.jsonName) row) ∧
    ∀ operation ∈ program.operations, ∀ content ∈ operation.bodyContents,
      (Outline.ofProgram program).Carries content.shape →
        ∃ variant ∈ RequestVariant.ofOperation operation, variant.content = some content ∧
          ChecksBody program operation variant := by
  obtain ⟨whole, given⟩ := lowered_given (compiled_iff.mp compiled)
  have named := given_well_named given
  constructor
  · intro component member kept field listed checked carries
    have validates : (Outline.ofProgram program).fieldValidates field = true := by
      unfold Outline.fieldValidates
      rw [checked, carries.nested_validates named, Bool.or_true]
      rfl
    have known := Outline.validator_of_validates member (component_validates kept listed validates)
    refine ⟨known, validator_emitted member kept (List.ne_nil_of_mem listed) known, ?_⟩
    intro rows declared
    obtain ⟨_, _, lists⟩ := validator_rows named member declared
    exact lists.row (List.mem_filter.mpr ⟨listed, validates⟩)
  · intro operation used content listed carries
    obtain ⟨variant, among, given⟩ := variant_of_content listed
    have reads : variant.content = some content := Option.mem_toList.mp given
    obtain ⟨declaration, emitted, signature, form⟩ := parser_emitted used among
    exact ⟨variant, among, reads, declaration, emitted, signature, _, form,
      body_checked (carries.nested_validates named) reads⟩

def shop : Document where
  specification := {
    openapi := "3.0.0"
    paths := [("/orders", { declared := [(.post, {
      requestBody := some (.object {
        content := [("application/json", {
          schema := some (.reference "#/components/schemas/order") })] }) })] })]
    components := { schemas := [
      ("item", .object {
        type := some (.single "object")
        properties := [("name", .object { type := some (.single "string"), minLength := some 1 })] }),
      ("order", .object {
        type := some (.single "object")
        properties := [("lines", .object {
          type := some (.single "array")
          items := some (.reference "#/components/schemas/item") })] })] } }
  raw := .null

theorem shop_validates_orders :
    ∃ program rows row operation content variant,
      (compile shop { package := "api", path := "" }).1 = .ok program ∧
      (Outline.ofProgram program).hasValidator "Order" = true ∧
      Validates (componentsPart program) "Order" rows ∧ row ∈ rows ∧ ListsMember "o" "Lines" row ∧
      operation ∈ program.operations ∧ content ∈ operation.bodyContents ∧
      variant ∈ RequestVariant.ofOperation operation ∧ variant.content = some content ∧
      ChecksBody program operation variant := by
  have holds : (compileShort shop { package := "api", path := "" }).any fun program =>
      (Outline.ofProgram program).hasValidator "Item" &&
      (program.components.values.any fun component =>
        component.name == "Order" && !component.skipValidation &&
        component.shape.fields.any fun field => Identifier.exported field.jsonName == "Lines" &&
          !field.skipValidation && listedName? field.shape == some "Item") &&
      program.operations.any fun operation => operation.bodyContents.any fun content =>
        content.shape.name? == some "Order" := by decide +kernel
  obtain ⟨program, result, known⟩ := compiled_of_short holds
  simp only [Bool.and_eq_true, List.any_eq_true, beq_iff_eq, Bool.not_eq_true'] at known
  obtain ⟨⟨item, component, member, ⟨order, kept⟩, field, among, ⟨lines, checked⟩, list⟩,
    operation, used, content, listed, body⟩ := known
  obtain ⟨fields, bodies⟩ := carried_values_validated result
  obtain ⟨_, _, shape⟩ := list_of_name list
  have carries : (Outline.ofProgram program).Carries field.shape := by
    rw [shape]
    exact .element (.validated item)
  obtain ⟨marked, ⟨rows, validates⟩, lists⟩ :=
    fields component member kept field among checked carries
  obtain ⟨row, inside, own⟩ := lists rows validates
  have letter : receiverName "Order" = "o" := by decide
  rw [order] at marked validates own
  rw [letter, lines] at own
  have carried : (Outline.ofProgram program).Carries content.shape := by
    rw [shape_of_name body]
    exact .validated marked
  obtain ⟨variant, reads, given, checking⟩ := bodies operation used content listed carried
  exact ⟨program, rows, row, operation, content, variant, result, marked, validates, inside, own,
    used, listed, reads, given, checking⟩

/-- Parts have a code. A kit is made of parts under another name, for which validation is refused,
and a shelf has parts under names that are not declared. -/
def workshop : Document where
  specification := {
    openapi := "3.0.0"
    components := { schemas := [
      ("part", .object {
        type := some (.single "object")
        properties := [
          ("code", .object { type := some (.single "string"), minLength := some 1 }),
          ("kit", .object {
            type := some (.single "object")
            properties := [("spares", .object {
              type := some (.single "array")
              items := some (.reference "#/components/schemas/spare") })] }),
          ("shelf", .object {
            type := some (.single "object")
            properties := [("boxes", .object {
              type := some (.single "object")
              additionalProperties :=
                some (.schema (.reference "#/components/schemas/part")) })] })] }),
      ("spare", .object {
        allOf := [.reference "#/components/schemas/part"]
        extensions := [("x-go-skip-validation", .bool true)] })] } }
  raw := .null

theorem workshop_unvalidated :
    ∃ program, (compile workshop { package := "api", path := "" }).1 = .ok program ∧
      ∀ name ∈ ["PartKit", "PartShelf"], ∃ component ∈ program.components.values,
        component.name = name ∧ component.skipValidation = false ∧
        (∃ field ∈ component.shape.fields, field.skipValidation = false ∧
          (Outline.ofProgram program).Contains field.shape) ∧
        (Outline.ofProgram program).hasValidator name = false := by
  have holds : (compileShort workshop { package := "api", path := "" }).any fun program =>
      (Outline.ofProgram program).hasValidator "Part" &&
      ((program.component? "Spare").any fun component => component.shape.name? == some "Part") &&
      [("PartKit", some "Spare", none), ("PartShelf", none, some "Part")].all
        fun (name, listed, valued) =>
          !(Outline.ofProgram program).hasValidator name &&
          program.components.values.any fun component =>
            component.name == name && !component.skipValidation &&
            component.shape.fields.any fun field => !field.skipValidation &&
              listedName? field.shape == listed && valuedName? field.shape == valued := by
    decide +kernel
  obtain ⟨program, result, known⟩ := compiled_of_short holds
  simp only [Bool.and_eq_true, List.any_eq_true, beq_iff_eq, Bool.not_eq_true',
    Option.any_eq_true, List.all_cons, List.all_nil] at known
  obtain ⟨⟨part, spare, found, behind⟩, kit, shelf, _⟩ := known
  have own : (Outline.ofProgram program).Contains (.named "Part") := .validated part
  have other : (Outline.ofProgram program).Contains (.named "Spare") := by
    refine .named ((outline_program program).symm ▸ found) ?_
    rw [shape_of_name behind]
    exact own
  refine ⟨program, result, List.forall_mem_cons.mpr ⟨?_, List.forall_mem_singleton.mpr ?_⟩⟩
  · obtain ⟨unknown, component, member, ⟨named, kept⟩, field, among, ⟨checked, listed⟩, _⟩ := kit
    obtain ⟨_, _, shape⟩ := list_of_name listed
    refine ⟨component, member, named, kept, ⟨field, among, checked, ?_⟩, unknown⟩
    rw [shape]
    exact .element other
  · obtain ⟨unknown, component, member, ⟨named, kept⟩, field, among, ⟨checked, _⟩, valued⟩ := shelf
    obtain ⟨_, _, shape⟩ := values_of_name valued
    refine ⟨component, member, named, kept, ⟨field, among, checked, ?_⟩, unknown⟩
    rw [shape]
    exact .additional own

end ApiScaffold.Server
