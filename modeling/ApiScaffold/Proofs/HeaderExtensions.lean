import ApiScaffold.Proofs.AcceptedExtensions
import ApiScaffold.Proofs.SchemaOrder

/-!
The extensions of headers. They are kept when a document is read, but lowering never looks at them,
unlike those of parameters: whatever they are replaced by, every step of lowering stays the same. So
what is not accepted elsewhere is accepted there.
-/

namespace ApiScaffold.OpenApi

variable {α β : Type}

/-- A change of definitions; references stay. -/
def OrRef.map (change : α → β) : OrRef α → OrRef β
  | .reference target => .reference target
  | .object value => .object (change value)

def Table.mapValues (change : α → β) (table : Table α) : Table β :=
  table.map fun entry => (entry.1, change entry.2)

theorem lookup_map_values (change : α → β) (table : Table α) (key : String) :
    (table.mapValues change).lookup key = (table.lookup key).map change := by
  induction table with
  | nil => rfl
  | cons entry rest induction =>
      change (_ :: Table.mapValues change rest).lookup key = _
      rw [List.lookup_cons, List.lookup_cons, induction]
      cases key == entry.1 <;> rfl

section Following

variable (change : α → β) (table : Table (OrRef α)) (place : String)

theorem follow_within_map (steps : Nat) (item : OrRef α) :
    followWithin (table.mapValues (OrRef.map change)) place steps (item.map change) =
      (followWithin table place steps item).map change := by
  induction steps generalizing item with
  | zero => cases item <;> rfl
  | succ steps induction =>
      cases item with
      | object value => rfl
      | reference target =>
          rw [OrRef.map, followWithin, followWithin, lookupReference, lookupReference]
          cases Text.dropStart? place target with
          | none => rfl
          | some key =>
              rw [Option.bind_some, Option.bind_some, lookup_map_values]
              cases table.lookup key with
              | none => rfl
              | some next => exact induction next

/-- Definitions may be changed before references are followed or after. -/
theorem follow_map (item : OrRef α) :
    follow (table.mapValues (OrRef.map change)) place (item.map change) =
      (follow table place item).map change := by
  rw [follow, follow, follow_within_map, Table.mapValues, List.length_map]

end Following

section Extending

variable (extend : Header → Table Json)

def Header.extended (header : Header) : Header := { header with extensions := extend header }

def Response.extended (response : Response) : Response :=
  { response with headers := response.headers.mapValues (OrRef.map (Header.extended extend)) }

def Operation.extended (operation : Operation) : Operation :=
  { operation with
    responses := operation.responses.mapValues (OrRef.map (Response.extended extend)) }

def PathItem.extended (item : PathItem) : PathItem :=
  { item with
    declared := item.declared.map fun entry => (entry.1, Operation.extended extend entry.2) }

def Specification.extended (specification : Specification) : Specification :=
  { specification with
    paths := specification.paths.mapValues (PathItem.extended extend)
    components := { specification.components with
      responses :=
        specification.components.responses.mapValues (OrRef.map (Response.extended extend))
      headers := specification.components.headers.mapValues (OrRef.map (Header.extended extend)) } }

def Document.extended (document : Document) : Document :=
  { document with specification := document.specification.extended extend }

variable (specification : Specification)

theorem extended_agrees : (specification.extended extend).AgreesOnRequests specification :=
  ⟨fun _ => rfl, rfl, rfl, rfl, rfl⟩

theorem header_extended (item : OrRef Header) :
    (specification.extended extend).header? (item.map (Header.extended extend)) =
      (specification.header? item).map (Header.extended extend) := follow_map _ _ _ item

theorem response_extended (item : OrRef Response) :
    (specification.extended extend).response? (item.map (Response.extended extend)) =
      (specification.response? item).map (Response.extended extend) := follow_map _ _ _ item

theorem operations_extended (item : PathItem) :
    (item.extended extend).operations =
      item.operations.map fun entry => (entry.1, Operation.extended extend entry.2) := by
  have found (method : Method) :
      (item.extended extend).operation? method =
        (item.operation? method).map (Operation.extended extend) := by
    unfold PathItem.operation? PathItem.extended
    generalize item.declared = declared
    induction declared with
    | nil => rfl
    | cons entry rest induction =>
        rw [List.map_cons, List.lookup_cons, List.lookup_cons, induction]
        cases method == entry.1 <;> rfl
  unfold PathItem.operations
  rw [List.map_filterMap]
  congr 1
  funext method
  rw [found]
  cases item.operation? method <;> rfl

end Extending

end ApiScaffold.OpenApi

namespace ApiScaffold.Blueprint

open OpenApi (Specification Document Table OrRef Header Extensions extended_agrees)

section Lowering

variable (extend : Header → Table Json) (specification : Specification)

theorem headers_extended (hint location : String) (headers : Table (OrRef Header)) :
    headersOf (specification.extended extend) hint location
        (headers.mapValues (OrRef.map (Header.extended extend))) =
      headersOf specification hint location headers := by
  induction headers with
  | nil => rfl
  | cons entry rest induction =>
      change headersOf _ _ _ (_ :: Table.mapValues _ rest) = _
      rw [headersOf, headersOf, OpenApi.header_extended]
      cases specification.header? entry.2 with
      | none => rfl
      | some header =>
          simp only [Option.map_some, OpenApi.Header.extended, induction,
            scalar_field_agrees (extended_agrees extend specification)]

theorem collect_responses_extended (name location : String) (known : List Response)
    (responses : Table (OrRef OpenApi.Response)) :
    collectResponses (specification.extended extend) name location known
        (responses.mapValues (OrRef.map (OpenApi.Response.extended extend))) =
      collectResponses specification name location known responses := by
  induction responses generalizing known with
  | nil => rfl
  | cons entry rest induction =>
      change collectResponses _ _ _ _ (_ :: Table.mapValues _ rest) = _
      rw [collectResponses, collectResponses, OpenApi.response_extended]
      cases specification.response? entry.2 with
      | none => rfl
      | some response =>
          unfold responseAt contentsOf
          simp only [Option.map_some, OpenApi.Response.extended, induction, headers_extended,
            collect_contents_agrees (extended_agrees extend specification)]

def StatedOperation.extended (stated : StatedOperation) : StatedOperation :=
  { stated with
    item := stated.item.extended extend
    operation := stated.operation.extended extend }

theorem operation_of_extended (schemes : List SecurityScheme) (stated : StatedOperation) :
    operationOf (specification.extended extend) schemes (stated.extended extend) =
      operationOf specification schemes stated := by
  have agrees := extended_agrees extend specification
  have parameters (path location : String) :
      parametersOf (specification.extended extend) (stated.extended extend).name
          (stated.extended extend).item (stated.extended extend).operation path location =
        parametersOf specification stated.name stated.item stated.operation path location :=
    parameters_agrees agrees _ _ _ path location
  have body (location : String) :
      requestBodyOf (specification.extended extend) (stated.extended extend).name
          (stated.extended extend).operation location =
        requestBodyOf specification stated.name stated.operation location :=
    request_body_agrees agrees _ _ location
  have responses (location : String) :
      responsesOf (specification.extended extend) (stated.extended extend).name
          (stated.extended extend).operation location =
        responsesOf specification stated.name stated.operation location :=
    congrArg (· >>= _) (collect_responses_extended extend specification _ _ _ _)
  have security (location : String) :
      securityOf (specification.extended extend) schemes (stated.extended extend).operation
          location = securityOf specification schemes stated.operation location := rfl
  unfold operationOf
  simp only [parameters, body, responses, security]
  rfl

theorem collect_operations_extended (schemes : List SecurityScheme)
    (known : List (String × String)) (stated : List StatedOperation) :
    collectOperations (specification.extended extend) schemes known
        (stated.map (StatedOperation.extended extend)) =
      collectOperations specification schemes known stated := by
  induction stated generalizing known with
  | nil => rfl
  | cons first rest induction =>
      rw [List.map_cons, collectOperations, collectOperations]
      simp only [operation_of_extended, induction]
      rfl

theorem collect_paths_extended (schemes : List SecurityScheme) (known : List (String × String))
    (paths : Table OpenApi.PathItem) :
    collectPaths (specification.extended extend) schemes known
        (paths.mapValues (OpenApi.PathItem.extended extend)) =
      collectPaths specification schemes known paths := by
  induction paths generalizing known with
  | nil => rfl
  | cons entry rest induction =>
      obtain ⟨path, item⟩ := entry
      change collectPaths _ _ _ (_ :: Table.mapValues _ rest) = _
      rw [collectPaths, collectPaths]
      dsimp only
      rw [← collect_operations_extended extend specification schemes known
        (List.map _ item.operations), OpenApi.operations_extended, List.map_map, List.map_map]
      simp only [induction]
      rfl

theorem program_of_extended (text : String) (config : Config) :
    programOf (specification.extended extend) text config =
      programOf specification text config := by
  have agrees := extended_agrees extend specification
  have schemas : declareSchemas (specification.extended extend) = declareSchemas specification := by
    unfold declareSchemas
    simp only [declare_schema_agrees agrees]
    rfl
  have paths (schemes : List SecurityScheme) :
      collectPaths (specification.extended extend) schemes []
          (specification.extended extend).paths =
        collectPaths specification schemes [] specification.paths :=
    collect_paths_extended extend specification schemes [] specification.paths
  unfold programOf operationsOf
  simp only [schemas, security_schemes_agrees agrees, paths]
  rfl

end Lowering

/-- Whatever the extensions of headers are replaced by, a document is compiled alike. -/
theorem compile_extended (extend : Header → Table Json) (document : Document) (config : Config) :
    compile (document.extended extend) config = compile document config := by
  have same : lower (document.extended extend) config = lower document config := by
    have text : (document.extended extend).canonicalText = document.canonicalText := rfl
    unfold lower
    rw [text, OpenApi.Document.extended, program_of_extended]
  unfold compile
  rw [same]

/-- What is not accepted stops the run in an operation, in a parameter that is read and in a schema
that lowering comes to, whatever stands beside it. In a header it changes nothing. -/
theorem extensions_heeded_outside_headers (document : Document) (config : Config) :
    ((∃ members, Heeded document.specification members ∧
        ∃ member ∈ members, ¬ Extensions.Accepted member) →
      ∃ diagnostic, (compile document config).1 = .error diagnostic) ∧
    ∀ extend, compile (document.extended extend) config = compile document config := by
  refine ⟨?_, fun extend => compile_extended extend document config⟩
  rintro ⟨members, heeded, member, listed, refused⟩
  cases compiled : (compile document config).1 with
  | error diagnostic => exact ⟨diagnostic, rfl⟩
  | ok program =>
      obtain ⟨_, given⟩ := lowered_given (compiled_iff.mp compiled)
      exact absurd (given.heeded_accepted heeded member listed) refused

/-- An operation with the given extensions, whose answer has a header with a malformed one. -/
def labelled (extensions : Table Json) : Document where
  specification := {
    openapi := "3.0.0"
    paths := [("/f", { declared := [(.get, {
      extensions
      responses := [("200", .object {
        headers := [("X-A", .object {
          schema := some (.object { type := some (.single "string") })
          extensions := [("x-go-pointer", .string "yes")] })] })] })] })] }
  raw := .null

theorem labelled_refused_for_operation :
    ¬ Extensions.Accepted ("x-go-pointer", .string "yes") ∧
      (compile (labelled []) { package := "f", path := "" }).1.toOption.isSome = true ∧
      compile ((labelled []).extended fun _ => []) { package := "f", path := "" } =
        compile (labelled []) { package := "f", path := "" } ∧
      ∃ diagnostic, (compile (labelled [("x-go-pointer", .string "yes")])
        { package := "f", path := "" }).1 = .error diagnostic := by
  have refused : ¬ Extensions.Accepted ("x-go-pointer", .string "yes") := by
    rw [Extensions.accepted_iff (rfl : Extensions.forms.lookup "x-go-pointer" = some _)]
    rintro ⟨_, ⟨⟩⟩
  refine ⟨refused, by decide +kernel, (extensions_heeded_outside_headers _ _).2 _, ?_⟩
  apply (extensions_heeded_outside_headers _ _).1
  exact ⟨_, .operation List.mem_cons_self, _, List.mem_cons_self, refused⟩

end ApiScaffold.Blueprint
