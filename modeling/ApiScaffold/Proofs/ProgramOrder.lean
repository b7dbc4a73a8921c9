import ApiScaffold.Proofs.ProgramParts
import ApiScaffold.Proofs.ShortDocuments
import ApiScaffold.Proofs.SimilarOperation

/-!
The order of programs. Operations, responses, contents and security schemes stand in strict order,
and whatever gives the names of their declarations differs. Emission relies on all of it at once.
-/

namespace ApiScaffold.Blueprint

open OpenApi (Specification Document)

/-- Schemes stand in the order of their names, and their identifiers differ. -/
structure SchemesOrdered (schemes : List SecurityScheme) : Prop where
  names : schemes.Pairwise fun first second => first.name < second.name
  identifiers : (schemes.map fun scheme => Identifier.exported scheme.name).Nodup

/-- Identifiers are compared while schemes are collected, in the order of the document. -/
theorem schemes_ordered {specification : Specification} {schemes : List SecurityScheme}
    (success : securitySchemesOf specification = .ok schemes) : SchemesOrdered schemes := by
  have collecting := collect_schemes_eq specification [] specification.components.securitySchemes
  unfold securitySchemesOf at success
  generalize collectSchemes specification [] specification.components.securitySchemes = outcome
    at success collecting
  cases outcome with
  | error diagnostic => cases success
  | ok collected =>
      cases success
      rw [to_option_ok] at collecting
      split at collecting
      case isFalse => cases collecting
      case isTrue fresh =>
        obtain ⟨read, mapped, same⟩ := Option.map_eq_some_iff.mp collecting.symm
        have all : read = collected := same
        have names : collected.map (·.name) =
            specification.components.securitySchemes.map (·.1) := by
          rw [← all]
          exact mapM_reads scheme_of_name mapped
        have distinct : ((collected.map (·.name)).map Identifier.exported).Nodup := by
          rw [names, List.map_map, Function.comp_def]
          exact fresh.distinct
        constructor
        · exact sorted_strictly_by distinct.of_map
        · have order := List.mergeSort_perm collected fun left right => left.name ≤ right.name
          rw [List.map_map, Function.comp_def] at distinct
          exact (order.map _).nodup_iff.mpr distinct

/-- The parts of an operation stand in order, and differ in what their declarations are named by. -/
structure Operation.Ordered (operation : Operation) : Prop where
  parameters : (parameterIdentifiers operation.parameters).Nodup
  identified : ∀ parameter ∈ operation.parameters, Identifier.exported parameter.name ≠ ""
  request : ContentsOrdered operation.bodyContents
  statuses : operation.responses.Pairwise fun first second => first.status.Before second.status
  responses : ∀ response ∈ operation.responses, ContentsOrdered response.contents

theorem identified_of_placeable {parameters : List Parameter}
    (placeable : Placeable [] (parameterIdentifiers parameters)) {parameter : Parameter}
    (member : parameter ∈ parameters) : Identifier.exported parameter.name ≠ "" := by
  unfold parameterIdentifiers at placeable
  have stated := (List.forall_mem_map.mp placeable.2) parameter member
  dsimp only at stated
  exact stated

theorem OperationGiven.operation_ordered {specification : Specification} {whole : Effects}
    {schemes : List SecurityScheme} {operation : Operation}
    (given : OperationGiven specification whole schemes operation) : operation.Ordered := by
  constructor
  · exact given.placeable.1.distinct
  · intro parameter member
    exact identified_of_placeable given.placeable member
  · exact given.request.toContentsOrdered
  · exact given.ordered
  · intro response answers
    exact (given.responses response answers).contents.toContentsOrdered

structure Program.Ordered (program : Program) : Prop where
  operations : program.operations.Pairwise Operation.Before
  names : (program.operations.map (·.name)).Nodup
  within : ∀ operation ∈ program.operations, operation.Ordered
  schemes : SchemesOrdered program.securitySchemes
  authorised : ∀ operation ∈ program.operations, operation.Authorised program.securitySchemes

theorem lowered_ordered {document : Document} {config : Config} {program : Program}
    (lowered : (lower document config).1 = .ok program) : program.Ordered := by
  obtain ⟨whole, given⟩ := lowered_given lowered
  constructor
  · exact given.operations.ordered
  · exact given.operations.names
  · intro operation member
    exact (given.operations.each operation member).operation_ordered
  · exact schemes_ordered given.schemes
  · intro operation member
    exact (given.operations.each operation member).authorised

def ferry : Document where
  specification := {
    openapi := "3.0.0"
    components := { securitySchemes := [
      ("token", .object (.http "bearer" none none)),
      ("pass", .object (.http "basic" none none))] }
    security := some [[("token", [])]]
    paths := [
      ("/routes", { declared := [(.get, {
        parameters := ["from", "to"].map fun name => .object {
          name := name
          place := .query
          schema := some (.object { type := some (.single "string") }) }
        responses := [("200", .object { content := [("application/json", {})] })] })] }),
      ("/berths", { declared := [(.post, { responses := [("204", .object {})] })] })] }
  raw := .null

theorem ferry_ordered :
    ∃ program, (lower ferry { package := "ferry", path := "" }).1 = .ok program ∧
      program.operations.map (·.name) = ["PostBerths", "GetRoutes"] ∧
      program.securitySchemes.map (·.name) = ["pass", "token"] ∧ program.Ordered := by
  have holds : (lowerShort ferry { package := "ferry", path := "" }).any fun program =>
      program.operations.map (·.name) == ["PostBerths", "GetRoutes"] &&
        program.securitySchemes.map (·.name) == ["pass", "token"] := by decide +kernel
  obtain ⟨program, result, known⟩ := lowered_of_short holds
  simp only [Bool.and_eq_true, beq_iff_eq] at known
  exact ⟨program, result, known.1, known.2, lowered_ordered result⟩

end ApiScaffold.Blueprint
