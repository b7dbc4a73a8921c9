import ApiScaffold.Proofs.CompiledProgram
import ApiScaffold.Proofs.OperationDrawing
import ApiScaffold.Proofs.ShapeParts

/-!
What stands inside of operations. Shapes of parameters and headers come of schemas inside of them, or
are texts; contents have names. What was demanded of a part on the way is one of the demands of the
whole program, and what had to differ from one another does.
-/

namespace ApiScaffold.Blueprint

open OpenApi (Schema OrRef Extensions Specification Table MediaType)

structure ScalarGiven (specification : Specification) (whole : Effects) (listsAllowed : Bool)
    (field : Field Shape) : Prop where
  shape : field.shape = .ofKind .string ∨
    ∃ item hint location, Nested specification whole hint location item field.shape
  readable : .readable listsAllowed field.shape ∈ whole.demands

structure ParameterGiven (specification : Specification) (whole : Effects)
    (parameter : Parameter) : Prop where
  scalar : ScalarGiven specification whole (parameter.place == .query) parameter.field
  checked : parameter.field.regex.isSome || parameter.field.trimmable →
    ∃ location, (parameter.field.shape, location) ∈ whole.texts

structure ContentGiven (whole : Effects) (content : BodyContent) : Prop where
  named : ∃ name, content.shape = .named name
  binary : isOctetStream content.contentType → .binary content.shape ∈ whole.demands

/-- The contents of a body stand in the order of their content types, and their tags differ. -/
structure ContentsOrdered (contents : List BodyContent) : Prop where
  types : contents.Pairwise fun first second => first.contentType < second.contentType
  tags : (contents.map (·.tag)).Nodup

structure ContentsGiven (whole : Effects) (contents : List BodyContent) : Prop
    extends ContentsOrdered contents where
  each : ∀ content ∈ contents, ContentGiven whole content

structure ResponseGiven (specification : Specification) (whole : Effects) (response : Response) :
    Prop where
  contents : ContentsGiven whole response.contents
  headers : ∀ header ∈ response.headers, ScalarGiven specification whole false header.field

/-- A status stands before another one: codes before classes, the default last. -/
def Status.Before (first second : Status) : Prop :=
  first.rank.1 < second.rank.1 ∨ first.rank.1 = second.rank.1 ∧ first.rank.2 < second.rank.2

structure OperationGiven (specification : Specification) (whole : Effects)
    (schemes : List SecurityScheme) (operation : Operation) : Prop where
  parameters : ∀ parameter ∈ operation.parameters, ParameterGiven specification whole parameter
  placeable : Placeable [] (parameterIdentifiers operation.parameters)
  request : ContentsGiven whole operation.bodyContents
  responses : ∀ response ∈ operation.responses, ResponseGiven specification whole response
  ordered : operation.responses.Pairwise fun first second => first.status.Before second.status
  authorised : operation.Authorised schemes

/-- An operation stands before another one: paths count first, the names of methods second. -/
def Operation.Before (first second : Operation) : Prop :=
  first.path < second.path ∨ first.path = second.path ∧ first.method.name < second.method.name

structure OperationsGiven (specification : Specification) (whole : Effects)
    (schemes : List SecurityScheme) (operations : List Operation) : Prop where
  each : ∀ operation ∈ operations, OperationGiven specification whole schemes operation
  ordered : operations.Pairwise Operation.Before
  names : (operations.map (·.name)).Nodup

section Operations

variable {specification : Specification} {whole : Effects}

theorem scalar_field_gives {name : String} {schema : Option (OrRef Schema)} {required : Bool}
    {hint location : String} {listsAllowed : Bool} {field : Field Shape}
    (gives : (scalarFieldPlan specification name schema required hint location listsAllowed).Gives
      whole field) : ScalarGiven specification whole listsAllowed field := by
  obtain ⟨plain, here, following⟩ := Plan.Gives.bind_iff.mp gives
  obtain ⟨_, demanded, ended⟩ := Plan.Gives.bind_iff.mp following
  have readable := demanded.demanded
  rw [ended.eq_of_pure]
  refine ⟨?_, readable⟩
  cases schema with
  | none =>
      rw [here.eq_of_pure]
      exact .inl rfl
  | some item =>
      obtain ⟨shape, nested, kept⟩ := Plan.Gives.bind_iff.mp here
      have same := (field_gives kept).shape
      subst same
      exact .inr ⟨item, _, _, nested_gives nested⟩

theorem parameter_gives {operation identifier : String} {place : Place}
    {stated : StatedParameter} {parameter : Parameter}
    (gives : (parameterPlan specification operation identifier place stated).Gives whole
      parameter) : ParameterGiven specification whole parameter := by
  obtain ⟨plain, scalar, following⟩ := Plan.Gives.bind_iff.mp gives
  obtain ⟨extensions, _, last⟩ := Plan.Gives.bind_iff.mp following
  have given := scalar_field_gives scalar
  have kept : ScalarGiven specification whole (place == .query)
      (extendField plain stated.parameter extensions) := ⟨given.shape, given.readable⟩
  dsimp only at last
  split at last
  case isTrue =>
    obtain ⟨_, checks, ended⟩ := Plan.Gives.bind_iff.mp last
    rw [ended.eq_of_pure]
    exact ⟨kept, fun _ => ⟨_, checks.checked⟩⟩
  case isFalse free =>
    rw [last.eq_of_pure]
    exact ⟨kept, fun asked => absurd asked free⟩

theorem parameters_give {name : String} {item : OpenApi.PathItem} {operation : OpenApi.Operation}
    {pathLocation location : String} {parameters : List Parameter}
    (gives : (parametersPlan specification name item operation pathLocation location).Gives whole
      parameters) :
    (∀ parameter ∈ parameters, ParameterGiven specification whole parameter) ∧
      Placeable [] (parameterIdentifiers parameters) := by
  obtain ⟨own, ran, _⟩ := id gives
  have placeable := ((parameters_draw name item operation pathLocation location).holds _ own ran).1
  refine ⟨?_, placeable⟩
  obtain ⟨stated, _, planned⟩ := Plan.Gives.bind_iff.mp gives
  unfold statementsPlan at planned
  split at planned
  · intro parameter member
    obtain ⟨statement, _, given⟩ := partner_of_mem planned.of_collect.flip member
    exact parameter_gives given
  · exact absurd planned Plan.Gives.not_fails

theorem content_shape_gives {component contentType location : String} {mediaType : MediaType}
    {shape : Shape}
    (gives : (contentShapePlan specification component contentType location mediaType).Gives whole
      shape) : ∃ name, shape = .named name := by
  match mediaType with
  | ⟨some (.reference target)⟩ =>
      obtain ⟨key, _, named, _⟩ := reference_named gives.of_given
      exact ⟨_, named⟩
  | ⟨some (.object schema)⟩ =>
      obtain ⟨_, _, following⟩ := Plan.Gives.bind_iff.mp gives
      obtain ⟨_, _, registering⟩ := Plan.Gives.bind_iff.mp following
      obtain ⟨_, _, ended⟩ := Plan.Gives.bind_iff.mp registering
      exact ⟨_, ended.eq_of_pure⟩
  | ⟨none⟩ =>
      obtain ⟨_, _, ended⟩ := Plan.Gives.bind_iff.mp gives
      exact ⟨_, ended.eq_of_pure⟩

/-- The content under a content type keeps it, and has a tag that is made from it. -/
theorem content_gives {componentName : String → String} {location : String}
    {entry : String × MediaType} {content : BodyContent}
    (gives : (contentPlan specification componentName location entry).Gives whole content) :
    content.contentType = entry.1 ∧ content.tag = Identifier.ofContentType entry.1 ∧
      ContentGiven whole content := by
  obtain ⟨shape, planned, following⟩ := Plan.Gives.bind_iff.mp gives
  have named := content_shape_gives planned
  split at following
  case isTrue =>
    obtain ⟨_, demanded, ended⟩ := Plan.Gives.bind_iff.mp following
    rw [ended.eq_of_pure]
    exact ⟨rfl, rfl, named, fun _ => demanded.demanded⟩
  case isFalse other =>
    rw [following.eq_of_pure]
    exact ⟨rfl, rfl, named, fun bytes => absurd bytes other⟩

theorem contents_give {content : Table MediaType} {componentName : String → String}
    {location : String} {contents : List BodyContent}
    (gives : (contentsPlan specification content componentName location).Gives whole contents) :
    ContentsGiven whole contents := by
  unfold contentsPlan at gives
  split at gives
  case isFalse => exact absurd gives Plan.Gives.not_fails
  case isTrue fresh =>
    have pairs := gives.of_collect.imp fun _ _ => content_gives
    have types : (sortByKey content).map (·.1) = contents.map (·.contentType) :=
      map_eq_of_pairs pairs fun _ _ same => same.1.symm
    have tags : contentTags (sortByKey content) = contents.map (·.tag) :=
      map_eq_of_pairs pairs fun _ _ same => same.2.1.symm
    -- types differ as their tags do
    have distinct : (content.map (·.1)).Nodup := by
      have tagged : (((sortByKey content).map (·.1)).map Identifier.ofContentType).Nodup := by
        rw [List.map_map]
        exact fresh.distinct
      exact ((List.mergeSort_perm _ _).map _).nodup_iff.mp tagged.of_map
    refine ⟨⟨?_, tags ▸ fresh.distinct⟩, ?_⟩
    · have ordered := List.pairwise_map.mpr (sorted_strictly_by distinct)
      exact List.pairwise_map.mp (types ▸ ordered)
    · intro one member
      obtain ⟨entry, _, same⟩ := partner_of_mem pairs.flip member
      exact same.2.2

theorem request_body_gives {name location : String} {operation : OpenApi.Operation}
    {body : Option RequestBody}
    (gives : (requestBodyPlan specification name operation location).Gives whole body) :
    ContentsGiven whole (body.elim [] RequestBody.contents) := by
  have nothing : ContentsGiven whole [] := ⟨⟨.nil, .nil⟩, List.forall_mem_nil _⟩
  unfold requestBodyPlan at gives
  split at gives
  · rw [gives.eq_of_pure]
    exact nothing
  split at gives
  · exact absurd gives Plan.Gives.not_fails
  · obtain ⟨contents, planned, ended⟩ := Plan.Gives.bind_iff.mp gives
    have given := contents_give planned
    rw [ended.eq_of_pure]
    cases contents with
    | nil => exact nothing
    | cons first rest => exact given

theorem header_gives {hint location : String} {entry : String × OrRef OpenApi.Header}
    {header : ResponseHeader}
    (gives : (headerPlan specification hint location entry).Gives whole header) :
    ScalarGiven specification whole false header.field := by
  unfold headerPlan at gives
  dsimp only at gives
  split at gives
  · exact absurd gives Plan.Gives.not_fails
  · obtain ⟨field, scalar, ended⟩ := Plan.Gives.bind_iff.mp gives
    have given := scalar_field_gives scalar
    rw [ended.eq_of_pure]
    exact ⟨given.shape, given.readable⟩

theorem response_gives {name location : String} {entry : String × OrRef OpenApi.Response}
    {response : Response}
    (gives : (responsePlan specification name location entry).Gives whole response) :
    Status.parse? entry.1 = some response.status ∧
      ResponseGiven specification whole response := by
  obtain ⟨own, planned, _⟩ := id gives
  refine ⟨response_plan_status planned, ?_⟩
  unfold responsePlan at gives
  split at gives
  · exact absurd gives Plan.Gives.not_fails
  split at gives
  · exact absurd gives Plan.Gives.not_fails
  obtain ⟨contents, here, following⟩ := Plan.Gives.bind_iff.mp gives
  obtain ⟨headers, there, ended⟩ := Plan.Gives.bind_iff.mp following
  rw [ended.eq_of_pure]
  refine ⟨contents_give here, ?_⟩
  intro header member
  obtain ⟨entry, _, given⟩ := partner_of_mem there.of_collect.flip member
  exact header_gives given

theorem responses_give {name location : String} {operation : OpenApi.Operation}
    {responses : List Response}
    (gives : (responsesPlan specification name operation location).Gives whole responses) :
    (∀ response ∈ responses, ResponseGiven specification whole response) ∧
      responses.Pairwise fun first second => first.status.Before second.status := by
  unfold responsesPlan at gives
  split at gives
  case isFalse => exact absurd gives Plan.Gives.not_fails
  case isTrue fresh =>
    obtain ⟨collected, planned, ended⟩ := Plan.Gives.bind_iff.mp gives
    have pairs := planned.of_collect.imp fun _ _ => response_gives
    have statuses : responseStatuses operation.responses = collected.map fun response =>
        some response.status := map_eq_of_pairs pairs fun _ _ same => same.1
    have distinct : (collected.map (·.status)).Nodup := by
      have read : ((collected.map (·.status)).map some).Nodup := by
        rw [List.map_map]
        exact statuses ▸ fresh.distinct
      exact read.of_map
    rw [ended.eq_of_pure]
    constructor
    · intro response member
      obtain ⟨entry, _, same⟩ := partner_of_mem pairs.flip (List.mem_mergeSort.mp member)
      exact same.2
    · apply (responses_sort distinct).merge_sort_strictly distinct.of_map
      intro first second before after
      rw [status_precedes_iff] at before after
      unfold Status.Before
      omega

theorem operation_gives {schemes : List SecurityScheme} {stated : StatedOperation}
    {operation : Operation}
    (gives : (operationPlan specification schemes stated).Gives whole operation) :
    OperationGiven specification whole schemes operation := by
  obtain ⟨extensions, _, following⟩ := Plan.Gives.bind_iff.mp gives
  obtain ⟨parameters, first, following⟩ := Plan.Gives.bind_iff.mp following
  obtain ⟨body, second, following⟩ := Plan.Gives.bind_iff.mp following
  obtain ⟨responses, third, following⟩ := Plan.Gives.bind_iff.mp following
  obtain ⟨security, last, ended⟩ := Plan.Gives.bind_iff.mp following
  obtain ⟨stated, placeable⟩ := parameters_give first
  obtain ⟨answers, ordered⟩ := responses_give third
  rw [ended.eq_of_pure]
  exact {
    parameters := stated
    placeable
    request := body_contents _ ▸ request_body_gives second
    responses := answers
    ordered
    authorised := security_known specification schemes _ _ security last.of_given }

theorem operations_give {schemes : List SecurityScheme} {paths : Table OpenApi.PathItem}
    {operations : List Operation}
    (gives : (operationsPlan specification schemes paths).Gives whole operations) :
    OperationsGiven specification whole schemes operations := by
  obtain ⟨collected, planned, ended⟩ := Plan.Gives.bind_iff.mp gives
  unfold operationPlans at planned
  split at planned
  case isFalse => exact absurd planned Plan.Gives.not_fails
  case isTrue fresh =>
    obtain ⟨own, ran, _⟩ := id planned
    have pairs := planned.of_collect
    have names : operationNames (statedOperations paths) = collected.map (·.name) := by
      apply map_eq_of_pairs pairs
      intro stated operation given
      obtain ⟨_, here, _⟩ := given
      exact (operation_plan_keeps here).1.symm
    have distinct : (collected.map (·.name)).Nodup := names ▸ fresh.distinct
    rw [ended.eq_of_pure]
    constructor
    · intro operation member
      obtain ⟨stated, _, given⟩ := partner_of_mem pairs.flip (List.mem_mergeSort.mp member)
      exact operation_gives given
    · apply (collected_operations_sort fresh.distinct ran).merge_sort_strictly distinct.of_map
      intro first second before after
      rw [precedes_iff] at before after
      unfold Operation.Before
      rcases before with earlier | ⟨same, here⟩
      · exact .inl earlier
      · have apart : ¬ second.method.name ≤ first.method.name :=
          fun there => after (.inr ⟨same.symm, there⟩)
        exact .inr ⟨same, String.not_le.mp apart⟩
    · exact (((List.mergeSort_perm _ _).map _).nodup_iff).mpr distinct

end Operations

end ApiScaffold.Blueprint
