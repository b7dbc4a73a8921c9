import ApiScaffold.Proofs.OperationParts

/-!
What stands inside of a lowered program. Its components are those of declared schemas, of schemas
inside of others, and of contents without a schema; whatever was demanded on the way is met by the
finished components.
-/

namespace ApiScaffold.Blueprint

open OpenApi (Schema OrRef Extensions Specification Document Table MediaType PathItem)

inductive Sourced (specification : Specification) (whole : Effects) : Component → Prop where
  | reference {component : Component} {key target : String}
    (stated : (key, .reference (OpenApi.schemasPlace ++ target)) ∈ specification.components.schemas)
    (named : component.name = Identifier.exported key)
    (shape : component.shape = .named (Identifier.exported target))
    (declared : (specification.components.schemas.lookup target).isSome) :
    Sourced specification whole component
  | schema {component : Component} (source : OfSchema specification whole component) :
    Sourced specification whole component
  | content {component : Component}
    (shape : component.shape = .ofKind .bytes ∨ component.shape = .anything) :
    Sourced specification whole component

section Adding

variable {specification : Specification} {whole : Effects}

theorem scalar_field_adds {name : String} {schema : Option (OrRef Schema)} {required : Bool}
    {hint location : String} {listsAllowed : Bool}
    (stands : ∀ item, schema = some item → Stands specification hint item) :
    (scalarFieldPlan specification name schema required hint location listsAllowed).Adds
      (OfSchema specification whole) whole := by
  have given : (givenFieldPlan specification name schema required hint
      s!"{location}/schema").Adds (OfSchema specification whole) whole := by
    cases schema with
    | none => exact .pure
    | some item => exact .bind (nested_adds (stands item rfl)) fun _ _ => field_adds
  apply Plan.Adds.bind given
  intro field _
  exact .bind .demand fun _ _ => .pure

theorem parameters_add {stated : StatedOperation}
    (used : stated ∈ statedOperations specification.paths) :
    (parametersPlan specification stated.name stated.item stated.operation
      (pathLocation stated.path) stated.location).Adds (OfSchema specification whole) whole := by
  apply Plan.Adds.bind .given
  intro statements read
  have same : stated.parameters specification = readStatements statements := by
    rw [StatedOperation.parameters, read.of_given]
    rfl
  unfold statementsPlan
  split
  · apply Plan.Adds.collect
    intro statement listed
    rw [← same] at listed
    apply Plan.Adds.bind (scalar_field_adds fun item => .parameter used listed)
    intro plain _
    apply Plan.Adds.bind .given
    intro extensions _
    dsimp only
    split
    · exact .bind .check_text fun _ _ => .pure
    · exact .pure
  · exact .fails

theorem content_shape_adds {component contentType location : String} {mediaType : MediaType}
    (stands : ∀ item, mediaType.schema = some item → Stands specification component item) :
    (contentShapePlan specification component contentType location mediaType).Adds
      (Sourced specification whole) whole := by
  match mediaType with
  | ⟨some (.reference target)⟩ => exact .given
  | ⟨some (.object schema)⟩ =>
      have here := stands (.object schema) rfl
      apply Plan.Adds.bind ((declared_adds schema component location here).imp fun _ => .schema)
      intro shape declared
      apply Plan.Adds.bind .given
      intro extensions _
      exact .bind (.register (.schema ⟨location, schema, here, declared⟩)) fun _ _ => .pure
  | ⟨none⟩ =>
      refine .bind (.register (.content ?_)) fun _ _ => .pure
      dsimp only
      split
      · exact .inl rfl
      · exact .inr rfl

theorem contents_add {content : Table MediaType} {componentName : String → String}
    {location : String}
    (stand : ∀ entry ∈ content, ∀ item, entry.2.schema = some item →
      Stands specification (componentName (Identifier.ofContentType entry.1)) item) :
    (contentsPlan specification content componentName location).Adds (Sourced specification whole)
      whole := by
  unfold contentsPlan
  split
  · apply Plan.Adds.collect
    intro entry listed
    apply Plan.Adds.bind (content_shape_adds (stand entry (List.mem_mergeSort.mp listed)))
    intro shape _
    split
    · exact .bind .demand fun _ _ => .pure
    · exact .pure
  · exact .fails

theorem request_body_adds {stated : StatedOperation}
    (used : stated ∈ statedOperations specification.paths) :
    (requestBodyPlan specification stated.name stated.operation stated.location).Adds
      (Sourced specification whole) whole := by
  unfold requestBodyPlan
  split
  · exact .pure
  rename_i item given
  split
  · exact .fails
  rename_i body found
  have takes : stated.Takes specification body := ⟨used, by rw [given]; exact found⟩
  refine .bind (contents_add ?_) fun _ _ => .pure
  intro entry listed item
  exact .requestContent takes listed

section Answering

variable {stated : StatedOperation} {status : Status} {response : OpenApi.Response}
  (answers : stated.Answers specification status response)

include answers

theorem header_adds {location : String} {entry : String × OrRef OpenApi.Header}
    (listed : entry ∈ response.headers) :
    (headerPlan specification s!"{stated.name}{status.label}" location entry).Adds
      (OfSchema specification whole) whole := by
  unfold headerPlan
  dsimp only
  split
  · exact .fails
  · rename_i header found
    apply Plan.Adds.bind (scalar_field_adds fun item => .header answers listed found)
    intro field _
    exact .pure

theorem response_at_adds {location : String} :
    (responseAtPlan specification stated.name location status response).Adds
      (Sourced specification whole) whole := by
  refine .bind (contents_add ?_) fun contents _ => ?_
  · intro entry listed item
    exact .responseContent answers listed
  refine .bind (.collect fun entry listed => ?_) fun _ _ => .pure
  exact (header_adds answers listed).imp fun _ => .schema

end Answering

theorem responses_add {stated : StatedOperation}
    (used : stated ∈ statedOperations specification.paths) :
    (responsesPlan specification stated.name stated.operation stated.location).Adds
      (Sourced specification whole) whole := by
  unfold responsesPlan
  split
  · refine .bind (.collect fun entry listed => ?_) fun _ _ => .pure
    unfold responsePlan
    split
    · exact .fails
    rename_i status read
    split
    · exact .fails
    rename_i response found
    exact response_at_adds ⟨used, entry, listed, read, found⟩
  · exact .fails

theorem operation_adds {schemes : List SecurityScheme} {stated : StatedOperation}
    (used : stated ∈ statedOperations specification.paths) :
    (operationPlan specification schemes stated).Adds (Sourced specification whole) whole := by
  apply Plan.Adds.bind .given
  intro extensions _
  apply Plan.Adds.bind ((parameters_add used).imp fun _ => .schema)
  intro parameters _
  apply Plan.Adds.bind (request_body_adds used)
  intro body _
  apply Plan.Adds.bind (responses_add used)
  intro responses _
  exact .bind .given fun _ _ => .pure

theorem operations_add {schemes : List SecurityScheme} :
    (operationsPlan specification schemes specification.paths).Adds (Sourced specification whole)
      whole := by
  unfold operationsPlan operationPlans
  refine .bind ?_ fun _ _ => .pure
  split
  · exact .collect fun _ => operation_adds
  · exact .fails

theorem declared_plan_adds {entry : String × OrRef Schema}
    (stated : entry ∈ specification.components.schemas) :
    (declaredPlan specification entry.1 entry.2).Adds (Sourced specification whole) whole := by
  have stands := Stands.declared stated
  obtain ⟨key, item⟩ := entry
  unfold declaredPlan
  dsimp only at stands ⊢
  generalize named : Identifier.exported key = name at stands ⊢
  split
  · exact .fails
  cases item with
  | reference target =>
      apply Plan.Adds.bind .given
      intro shape referred
      obtain ⟨other, rfl, rfl, declared⟩ := reference_named referred.of_given
      exact .register (.reference stated named.symm rfl declared)
  | object schema =>
      apply Plan.Adds.bind .given
      intro extensions _
      apply Plan.Adds.bind ((declared_adds schema _ _ stands).imp fun _ => .schema)
      intro shape declared
      exact .register (.schema ⟨_, schema, stands, declared⟩)

theorem program_adds : (programPlan specification specification.paths).Adds
    (Sourced specification whole) whole := by
  have schemas : (declaredPlans specification (sortByKey specification.components.schemas)).Adds
      (Sourced specification whole) whole := by
    refine .bind (.collect fun entry member => ?_) fun _ _ => .pure
    exact declared_plan_adds (List.mem_mergeSort.mp member)
  apply Plan.Adds.bind schemas
  intro _ _
  apply Plan.Adds.bind .given
  intro schemes _
  exact .bind operations_add fun _ _ => .pure

end Adding

inductive Declared (specification : Specification) (whole : Effects) (component : Component) :
    OrRef Schema → Prop where
  | reference {target : String} (shape : component.shape = .named (Identifier.exported target))
    (declared : (specification.components.schemas.lookup target).isSome) :
    Declared specification whole component (.reference (OpenApi.schemasPlace ++ target))
  | schema {schema : Schema} {location : String}
    (declared : (shapePlan specification .declared component.name location schema).Gives whole
      component.shape) :
    Declared specification whole component (.object schema)

theorem declared_plan_gives {specification : Specification} {whole : Effects}
    {entry : String × OrRef Schema}
    (gives : (declaredPlan specification entry.1 entry.2).Gives whole ()) :
    ∃ component ∈ whole.components, component.name = Identifier.exported entry.1 ∧
      Declared specification whole component entry.2 := by
  obtain ⟨key, item⟩ := entry
  unfold declaredPlan at gives
  generalize Identifier.exported key = name at gives ⊢
  dsimp only at gives
  split at gives
  · exact absurd gives Plan.Gives.not_fails
  cases item with
  | reference target =>
      obtain ⟨shape, referred, registering⟩ := Plan.Gives.bind_iff.mp gives
      obtain ⟨other, rfl, rfl, declared⟩ := reference_named referred.of_given
      exact ⟨_, registering.registered, rfl, .reference rfl declared⟩
  | object schema =>
      obtain ⟨extensions, _, following⟩ := Plan.Gives.bind_iff.mp gives
      obtain ⟨shape, declared, registering⟩ := Plan.Gives.bind_iff.mp following
      exact ⟨_, registering.registered, rfl, .schema declared⟩

structure ProgramGiven (specification : Specification) (whole : Effects) (program : Program) :
    Prop where
  planned : (programPlan specification specification.paths).Gives whole
    (program.securitySchemes, program.operations)
  accepted : whole.Accepted
  registered : program.components = whole.register []
  sourced : ∀ component ∈ whole.components, Sourced specification whole component
  declared : ∀ entry ∈ specification.components.schemas, ∃ component ∈ whole.components,
    component.name = Identifier.exported entry.1 ∧
      Declared specification whole component entry.2
  schemes : securitySchemesOf specification = .ok program.securitySchemes
  operations : OperationsGiven specification whole program.securitySchemes program.operations

theorem lowered_given {document : Document} {config : Config} {program : Program}
    (lowered : (lower document config).1 = .ok program) :
    ∃ whole, ProgramGiven document.specification whole program := by
  obtain ⟨schemes, operations, whole, planned, accepted, rfl⟩ := lowered_iff.mp lowered
  have gives : (programPlan document.specification document.specification.paths).Gives whole
      (schemes, operations) := ⟨whole, planned, .refl whole⟩
  obtain ⟨_, declaring, following⟩ := Plan.Gives.bind_iff.mp gives
  obtain ⟨_, securing, following⟩ := Plan.Gives.bind_iff.mp following
  obtain ⟨_, operating, ended⟩ := Plan.Gives.bind_iff.mp following
  cases ended.eq_of_pure
  refine ⟨whole, gives, accepted, rfl, program_adds.holds _ _ planned (.refl whole), ?_,
    securing.of_given, operations_give operating⟩
  intro entry member
  obtain ⟨_, collected, _⟩ := Plan.Gives.bind_iff.mp declaring
  obtain ⟨_, _, given⟩ := partner_of_mem collected.of_collect (List.mem_mergeSort.mpr member)
  exact declared_plan_gives given

end ApiScaffold.Blueprint
