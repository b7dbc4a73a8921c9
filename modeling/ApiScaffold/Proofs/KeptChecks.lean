import ApiScaffold.Proofs.NormalForm
import ApiScaffold.Proofs.RequestScope
import ApiScaffold.Proofs.ShortDocuments

/-!
Checks that are made while a program is drawn up. Components are still missing then, but what a check
follows is complete: a shape that passes comes down to the same one in the finished program. So
emission may rely on it, and finds a conversion for every parameter.
-/

namespace ApiScaffold.Blueprint

open OpenApi (Specification Document)
open Relation (ReflTransGen)

/-- A field whose text is trimmed or matched while it is read. -/
def Field.readsText {σ : Type} (field : Field σ) : Bool := field.regex.isSome || field.trimmable

/-- What was checked on the way holds in the finished program. -/
structure Program.Checked (program : Program) : Prop where
  parameters : ∀ operation ∈ program.operations, ∀ parameter ∈ operation.parameters,
    isScalar (program.resolve parameter.field.shape) ∨ parameter.place = .query ∧
      ∃ element minItems maxItems,
        program.resolve parameter.field.shape = .array element minItems maxItems ∧
          isScalar (program.resolve element)
  headers : ∀ operation ∈ program.operations, ∀ response ∈ operation.responses,
    ∀ header ∈ response.headers, isScalar (program.resolve header.field.shape)
  requests : ∀ operation ∈ program.operations, ∀ content ∈ operation.bodyContents,
    isOctetStream content.contentType → (program.resolve content.shape).kind? = some .bytes
  responses : ∀ operation ∈ program.operations, ∀ response ∈ operation.responses,
    ∀ content ∈ response.contents,
      isOctetStream content.contentType → (program.resolve content.shape).kind? = some .bytes
  fields : ∀ shape, program.Holds shape → ∀ fields required additional,
    ReflTransGen Shape.Contains shape (.object fields required additional) →
      ∀ entry ∈ fields, entry.2.readsText →
        (program.resolve entry.2.shape).kind? = some .string
  texts : ∀ operation ∈ program.operations, ∀ parameter ∈ operation.parameters,
    parameter.field.readsText → (program.resolve parameter.field.shape).kind? = some .string

section Demands

variable {specification : Specification} {whole : Effects} {program : Program}
  (given : ProgramGiven specification whole program)

include given

theorem ProgramGiven.demand_met {demand : Demand} (demanded : demand ∈ whole.demands) :
    demand.holds program.components := by
  rw [given.registered]
  exact given.accepted.met demand demanded

theorem ProgramGiven.text_held {shape : Shape} {location : String}
    (put : (shape, location) ∈ whole.texts) : (program.resolve shape).kind? = some .string := by
  unfold Program.resolve
  rw [given.registered]
  exact given.accepted.texts (shape, location) put

/-- Lists are read from a text only if they are allowed, and then their elements are. -/
theorem ProgramGiven.readable {listsAllowed : Bool} {shape : Shape}
    (demanded : .readable listsAllowed shape ∈ whole.demands) :
    isScalar (program.resolve shape) ∨ listsAllowed = true ∧ ∃ element minItems maxItems,
      program.resolve shape = .array element minItems maxItems ∧
        isScalar (program.resolve element) := by
  have met := given.demand_met demanded
  rw [Demand.holds] at met
  unfold Program.resolve
  cases resolved : resolveIn program.components shape with
  | array element minItems maxItems =>
      rw [resolved, readableIn, Bool.and_eq_true] at met
      exact .inr ⟨met.1, element, minItems, maxItems, rfl, met.2⟩
  | _ =>
      rw [resolved] at met
      exact .inl met

theorem ProgramGiven.binary {content : BodyContent} (kept : ContentGiven whole content)
    (octets : isOctetStream content.contentType) :
    (program.resolve content.shape).kind? = some .bytes := by
  have met := given.demand_met (kept.binary octets)
  rw [Demand.holds, beq_iff_eq] at met
  exact met

theorem ProgramGiven.checked : program.Checked where
  parameters := by
    intro operation among parameter member
    have stated := (given.operations.each operation among).parameters parameter member
    rcases given.readable stated.scalar.readable with scalar | ⟨allowed, list⟩
    · exact .inl scalar
    · exact .inr ⟨eq_of_beq allowed, list⟩
  headers := by
    intro operation among response answers header member
    have parts := (given.operations.each operation among).responses response answers
    rcases given.readable (parts.headers header member).readable with scalar | ⟨allowed, _⟩
    · exact scalar
    · cases allowed
  requests := by
    intro operation among content member
    exact given.binary ((given.operations.each operation among).request.each content member)
  responses := by
    intro operation among response answers content member
    have parts := (given.operations.each operation among).responses response answers
    exact given.binary (parts.contents.each content member)
  fields := by
    intro shape held fields required additional inside entry listed reads
    have object := (given.settled held).objects fields required additional inside
    obtain ⟨location, put⟩ := object.checked entry listed reads
    exact given.text_held put
  texts := by
    intro operation among parameter member reads
    have stated := (given.operations.each operation among).parameters parameter member
    obtain ⟨location, put⟩ := stated.checked reads
    exact given.text_held put

end Demands

end ApiScaffold.Blueprint

namespace ApiScaffold.Server

open Blueprint Source

/-- Shapes that have a conversion of their own. -/
def isConvertible : Shape → Bool
  | .enum _ => true
  | .custom _ => true
  | .primitive _ => true
  | _ => false

theorem conversion_of_others {resolved : Shape} (other : isConvertible resolved = false)
    (shape : Shape) (raw : Code) : conversionOf shape resolved raw = .direct raw := by
  cases resolved with
  | enum _ => cases other
  | custom _ => cases other
  | primitive _ => cases other
  | _ => rfl

theorem convertible_of_scalar {resolved : Shape} (scalar : isScalar resolved) :
    isConvertible resolved := by
  cases resolved with
  | enum _ => rfl
  | custom _ => rfl
  | primitive _ => rfl
  | _ => cases scalar

def ParameterReading.converted (outline : Outline) (parameter : Parameter) : Shape :=
  match outline.resolve parameter.field.shape with
  | .array element _ _ => element
  | _ => parameter.field.shape

theorem conversion_of_parameter (outline : Outline) (operation : Operation)
    (parameter : Parameter) :
    (ParameterReading.ofParameter outline operation parameter).conversion =
      conversionOf (ParameterReading.converted outline parameter)
        (outline.resolve (ParameterReading.converted outline parameter))
        (ParameterReading.rawName parameter) := rfl

/-- A parameter that passed its check is converted to a shape whose values are written as one
text. -/
theorem converted_scalar {program : Program} {parameter : Parameter}
    (checked : isScalar (program.resolve parameter.field.shape) ∨ parameter.place = .query ∧
      ∃ element minItems maxItems,
        program.resolve parameter.field.shape = .array element minItems maxItems ∧
          isScalar (program.resolve element)) :
    isScalar (program.resolve
      (ParameterReading.converted (Outline.ofProgram program) parameter)) := by
  have same : (Outline.ofProgram program).resolve parameter.field.shape =
      program.resolve parameter.field.shape := by
    rw [Outline.resolve, outline_program]
  unfold ParameterReading.converted
  rw [same]
  rcases checked with scalar | ⟨_, element, minItems, maxItems, list, scalar⟩
  · cases resolved : program.resolve parameter.field.shape with
    | array element minItems maxItems =>
        rw [resolved] at scalar
        cases scalar
    | _ => exact resolved.symm ▸ scalar
  · rw [list]
    exact scalar

theorem lowered_checks_hold {document : OpenApi.Document} {config : Config} {program : Program}
    (lowered : (lower document config).1 = .ok program) :
    program.Checked ∧ ∀ operation ∈ program.operations, ∀ parameter ∈ operation.parameters,
      let outline := Outline.ofProgram program
      let shape := ParameterReading.converted outline parameter
      (ParameterReading.ofParameter outline operation parameter).conversion =
          conversionOf shape (outline.resolve shape) (ParameterReading.rawName parameter) ∧
        isConvertible (outline.resolve shape) := by
  obtain ⟨whole, given⟩ := lowered_given lowered
  refine ⟨given.checked, ?_⟩
  intro operation among parameter member
  refine ⟨conversion_of_parameter _ operation parameter, ?_⟩
  rw [Outline.resolve, outline_program]
  exact convertible_of_scalar
    (converted_scalar (given.checked.parameters operation among parameter member))

/-- Values behind a chain of names: in a list, in a header, and matched beside a body of bytes. -/
def depot : OpenApi.Document where
  specification := {
    openapi := "3.0.0"
    components := { schemas := [
      ("code", .reference "#/components/schemas/label"),
      ("label", .object { type := some (.single "string") })] }
    paths := [("/parcels", { declared := [(.post, {
      parameters := [.object {
        name := "codes"
        place := .query
        schema := some (.object {
          type := some (.single "array")
          items := some (.reference "#/components/schemas/code") }) }]
      requestBody := some (.object { content := [("application/json", {
        schema := some (.object { properties := [("mark", .object {
          type := some (.single "string")
          extensions := [("x-go-regex", .string "^[a-z]+$")] })] }) })] })
      responses := [("200", .object {
        content := [("application/octet-stream", {})]
        headers := [("X-Code", .object {
          schema := some (.reference "#/components/schemas/code") })] })] })] })] }
  raw := .null

theorem depot_checks_hold :
    ∃ program, (lower depot { package := "depot", path := "" }).1 = .ok program ∧
      program.operations.flatMap (fun operation => operation.parameters.map (·.name)) =
        ["codes"] ∧
      program.Checked ∧ ∀ operation ∈ program.operations, ∀ parameter ∈ operation.parameters,
        isConvertible ((Outline.ofProgram program).resolve
          (ParameterReading.converted (Outline.ofProgram program) parameter)) := by
  have holds : (lowerShort depot { package := "depot", path := "" }).any fun program =>
      (program.operations.flatMap fun operation => operation.parameters.map (·.name)) ==
        ["codes"] := by decide +kernel
  obtain ⟨program, result, names⟩ := lowered_of_short holds
  obtain ⟨checked, conversions⟩ := lowered_checks_hold result
  refine ⟨program, result, eq_of_beq names, checked, ?_⟩
  intro operation among parameter member
  exact (conversions operation among parameter member).2

end ApiScaffold.Server
