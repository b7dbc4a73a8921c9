import ApiScaffold.Proofs.DeclaredValidators
import ApiScaffold.Proofs.ShortDocuments

/-!
Components that ask for no validation. None of them has a validator, but a name without one is
followed to what it stands for: a list whose elements validate, a format and a type of its own check
themselves all the same. So the wish is heard for objects, and for all else only where nothing
behind the name validates.
-/

namespace ApiScaffold.Server

open Blueprint Go Source
open OpenApi (Document)

namespace Outline

def ChecksAlone (outline : Outline) : Shape → Prop
  | .custom type => type.validate = true
  | .primitive primitive => checksItself primitive.kind = true
  | .array element _ _ => outline.nestedValidates element = true
  | _ => False

/-- A name comes down to values that validate without a validator of their component. -/
def Insists (outline : Outline) (name : String) : Prop :=
  ∃ steps target, Reaches outline.program.components steps (.named name) target ∧
    outline.ChecksAlone target

section Names

variable {outline : Outline} {name : String}

theorem insists_iff_resolved : outline.Insists name ↔
    outline.ChecksAlone (outline.resolve (.named name)) := by
  constructor
  · rintro ⟨steps, target, reaches, checks⟩
    rw [show outline.resolve (.named name) = target from reaches.resolve]
    exact checks
  · intro checks
    have plain : (outline.resolve (.named name)).Plain := by
      intro other same
      rw [same] at checks
      exact checks
    obtain ⟨steps, reaches⟩ := Reaches.of_resolve_within plain
    exact ⟨steps, _, reaches, checks⟩

/-- Behind a name without a validator, the values that it stands for are looked at. -/
theorem nested_validates_unmarked (unmarked : outline.hasValidator name = false) :
    outline.nestedValidates (.named name) = true ↔ outline.Insists name := by
  have own : outline.validates (.named name) = false := unmarked
  rw [insists_iff_resolved, nested_validates_step]
  unfold checksHere element? ChecksAlone
  rw [own, Bool.false_or]
  cases outline.resolve (.named name) <;> simp

end Names

section Rounds

variable {outline : Outline}

def Asked (outline : Outline) (name : String) : Prop :=
  ∃ component ∈ outline.program.components.values,
    component.name = name ∧ component.skipValidation = false

theorem unnoticed_asked : ∀ name ∈ outline.unnoticed, outline.Asked name := by
  intro name among
  obtain ⟨component, listed, rfl⟩ := List.mem_map.mp among
  obtain ⟨member, unknown⟩ := List.mem_filter.mp listed
  obtain ⟨_, validates⟩ := Bool.and_eq_true_iff.mp unknown
  obtain ⟨kept, _⟩ := Bool.and_eq_true_iff.mp validates
  exact ⟨component, member, rfl, by simpa using kept⟩

/-- No round notices a component that is not to be validated. -/
theorem validator_asked {program : Program} {name : String}
    (validated : (ofProgram program).hasValidator name = true) :
    (ofProgram program).Asked name := by
  refine @rounds_keep program
    (fun outline => ∀ name, outline.hasValidator name = true → outline.Asked name)
    (fun _ none => absurd none Bool.false_ne_true) (fun outline known other marked => ?_)
    _ validated
  rcases List.mem_append.mp (List.contains_iff_mem.mp marked) with before | now
  · exact known other (List.contains_iff_mem.mpr before)
  · exact @unnoticed_asked outline other now

theorem skipped_unmarked {program : Program} (named : WellNamed program) {component : Component}
    (member : component ∈ program.components.values) (skipped : component.skipValidation = true) :
    (ofProgram program).hasValidator component.name = false := by
  by_contra validated
  obtain ⟨other, known, same, kept⟩ := validator_asked (Bool.not_eq_false _ ▸ validated)
  rw [outline_program] at known
  rw [named.unique known member same, skipped] at kept
  cases kept

end Rounds

end Outline

section Emission

/-- Everything that the two files do with values of a component, as far as it is done because they
are of the component: they are validated iff a condition holds. -/
structure ValidatedIff (program : Program) (name : String) (holds : Prop) : Prop where
  values : (Outline.ofProgram program).nestedValidates (.named name) = true ↔ holds
  /-- In structs of fields, where a field has no rules of its own. -/
  fields : ∀ component ∈ program.components.values, ∀ field ∈ component.shape.fields,
    field.shape = .named name → (Outline.ofProgram program).rules field = [] →
      (ChecksMember (componentsPart program) component.name (Identifier.exported field.jsonName) ↔
        component.skipValidation = false ∧ field.skipValidation = false ∧ holds)
  /-- In structs of parameters. -/
  parameters : ∀ operation ∈ program.operations, ∀ parameter ∈ operation.parameters,
    parameter.field.shape = .named name → (Outline.ofProgram program).rules parameter.field = [] →
      (ChecksMember (routerPart program) (Request.placeStruct operation parameter.place)
          (Request.memberName parameter) ↔
        parameter.field.skipValidation = false ∧ holds)
  /-- In parsers. -/
  bodies : ∀ operation ∈ program.operations, ∀ variant ∈ RequestVariant.ofOperation operation,
    ∀ content, variant.content = some content → content.shape = .named name →
      ∃ declaration ∈ (routerPart program).declarations, ∃ signature statements,
        declaration.form = .function variant.parser signature statements ∧
          (bodyCheck operation ∈ Go.Statement.wholes statements ↔ holds)

variable {document : Document} {config : Config} {program : Program}

theorem validated_iff (compiled : (compile document config).1 = .ok program) {name : String}
    {holds : Prop}
    (values : (Outline.ofProgram program).nestedValidates (.named name) = true ↔ holds) :
    ValidatedIff program name holds := by
  have field (field : Blueprint.Field Shape) (shape : field.shape = .named name)
      (bare : (Outline.ofProgram program).rules field = []) :
      (Outline.ofProgram program).fieldValidates field = true ↔
        field.skipValidation = false ∧ holds := by
    unfold Outline.fieldValidates
    rw [bare, shape, ← values]
    simp
  refine ⟨values, fun component member own listed shape bare => ?_,
    fun operation used parameter listed shape bare => ?_,
    fun operation used variant among content reads shape => ?_⟩
  · rw [field_member_checked compiled member listed, field own shape bare]
  · rw [parameter_member_checked compiled used listed, field parameter.field shape bare]
  · obtain ⟨declaration, emitted, signature, form⟩ := parser_emitted used among
    refine ⟨declaration, emitted, signature, _, form, ?_⟩
    rw [body_checked_iff reads, shape, values]

theorem skipped_without_validator (named : WellNamed program) {component : Component}
    (member : component ∈ program.components.values) (skipped : component.skipValidation = true)
    (rows : List Code) : ¬ Validates (componentsPart program) component.name rows := by
  intro validates
  obtain ⟨kept, _⟩ := validator_rows named member validates
  rw [skipped] at kept
  cases kept

/-- A component that asks for no validation has no validator. Still, what is of the component is
validated iff its name comes down to values that need none: to a list of values that validate, to a
format that checks itself, or to a type of its own. A parameter is asked to check itself iff it is
of such a format. -/
theorem skipped_validated_iff (compiled : (compile document config).1 = .ok program)
    {component : Component} (member : component ∈ program.components.values)
    (skipped : component.skipValidation = true) :
    (∀ rows, ¬ Validates (componentsPart program) component.name rows) ∧
    ValidatedIff program component.name ((Outline.ofProgram program).Insists component.name) ∧
    ∀ operation ∈ program.operations, ∀ parameter ∈ operation.parameters,
      parameter.field.shape = .named component.name →
        (ChecksItself (.ofParameter (Outline.ofProgram program) operation parameter) ↔
          ReadsFormat (Outline.ofProgram program) (.named component.name)) := by
  obtain ⟨whole, given⟩ := lowered_given (compiled_iff.mp compiled)
  have named := given_well_named given
  have unmarked := Outline.skipped_unmarked named member skipped
  refine ⟨skipped_without_validator named member skipped,
    validated_iff compiled (Outline.nested_validates_unmarked unmarked), ?_⟩
  intro operation _ parameter _ shape
  rw [parameter_checks_itself, shape]

/-- A list of addresses that asks for no validation, and an object that has one. -/
def parish : Document where
  specification := {
    openapi := "3.0.0"
    components := { schemas := [
      ("addresses", .object {
        type := some (.single "array")
        items := some (.object { type := some (.single "string"), format := some "email" })
        extensions := [("x-go-skip-validation", .bool true)] }),
      ("household", .object {
        type := some (.single "object")
        properties := [("addresses", .reference "#/components/schemas/addresses")] })] } }
  raw := .null

theorem parish_validates_addresses :
    ∃ program, (compile parish { package := "parish", path := "" }).1 = .ok program ∧
      ∃ component ∈ program.components.values, component.name = "Addresses" ∧
        component.skipValidation = true ∧
        (Outline.ofProgram program).Insists "Addresses" ∧
        ChecksMember (componentsPart program) "Household" "Addresses" := by
  have holds : (compileShort parish { package := "parish", path := "" }).any fun program =>
      (Outline.ofProgram program).nestedValidates (.named "Addresses") &&
      (program.components.values.any fun component =>
        component.name == "Addresses" && component.skipValidation) &&
      program.components.values.any fun component =>
        component.name == "Household" && !component.skipValidation &&
        component.shape.fields.any fun field =>
          !field.skipValidation && field.shape.name? == some "Addresses" &&
            ((Outline.ofProgram program).rules field).isEmpty &&
              Identifier.exported field.jsonName == "Addresses" := by decide +kernel
  obtain ⟨program, result, known⟩ := compiled_of_short holds
  simp only [Bool.and_eq_true, Bool.not_eq_true', List.any_eq_true, List.isEmpty_iff, beq_iff_eq]
    at known
  obtain ⟨⟨nested, component, member, named, skipped⟩, holder, among, ⟨household, kept⟩, field,
    listed, ⟨⟨checked, behind⟩, bare⟩, addresses⟩ := known
  obtain ⟨_, validated, _⟩ := skipped_validated_iff result member skipped
  rw [named] at validated
  have insists := validated.values.mp nested
  have lists := (validated.fields holder among field listed (shape_of_name behind) bare).mpr
    ⟨kept, checked, insists⟩
  rw [household, addresses] at lists
  exact ⟨program, result, component, member, named, skipped, insists, lists⟩

end Emission

end ApiScaffold.Server
