import ApiScaffold.Proofs.Drawing
import ApiScaffold.Proofs.ProgramPlan

/-!
What is known of the operations of a program, and of the components that come with them. The
identifiers of parameters differ at each place. Names of components start with the key of a schema or
with the name of an operation and what tells its parameters, contents and headers apart.
-/

namespace ApiScaffold.Blueprint

open OpenApi (Schema OrRef Extensions Specification Table Document MediaType)

inductive Operation.Hands (operation : Operation) : String → Prop where
  | parameter (parameter : Parameter) (member : parameter ∈ operation.parameters) :
    Operation.Hands operation
      (operation.name ++ parameter.place.title ++ Identifier.exported parameter.name)
  | request (content : BodyContent) (member : content ∈ operation.bodyContents)
    (own : content.shape = .named (operation.name ++ content.tag ++ "RequestBody")) :
    Operation.Hands operation (operation.name ++ content.tag ++ "RequestBody")
  | response (response : Response) (answers : response ∈ operation.responses)
    (content : BodyContent) (member : content ∈ response.contents) :
    Operation.Hands operation
      (operation.name ++ response.status.label ++ content.tag ++ "ResponseBody")
  | header (response : Response) (answers : response ∈ operation.responses)
    (header : ResponseHeader) (member : header ∈ response.headers) :
    Operation.Hands operation
      (operation.name ++ response.status.label ++ "Header" ++ Identifier.exported header.name)

/-- The places of parameters with the identifiers that must differ there. -/
def parameterIdentifiers (parameters : List Parameter) : List (Place × String) :=
  parameters.map fun parameter => (parameter.place, Identifier.exported parameter.name)

section Plans

theorem collect_draws {ι α : Type} {step : ι → Plan α} {items : List ι}
    {named : α → String → Prop}
    (each : ∀ item ∈ items,
      (step item).Ensures fun value effects => effects.DrawnUnder (named value)) :
    (Plan.collect step items).Ensures fun values effects =>
      effects.DrawnUnder fun hint => ∃ value ∈ values, named value hint := by
  apply Plan.Ensures.collect (.nothing rfl) _ each
  intro item rest value values here there own drawn
  refine .append (own.mono ?_) (drawn.mono ?_)
  · intro hint made
    exact ⟨value, List.mem_cons_self, made⟩
  · rintro hint ⟨other, member, made⟩
    exact ⟨other, List.mem_cons_of_mem _ member, made⟩

theorem collect_each {ι α : Type} {step : ι → Plan α} {items : List ι} {holds : α → Prop}
    (each : ∀ item ∈ items, (step item).Ensures fun value _ => holds value) :
    (Plan.collect step items).Ensures fun values _ => ∀ value ∈ values, holds value := by
  apply Plan.Ensures.collect
    (List.forall_mem_nil _) _ each
  exact fun _ _ _ _ _ _ own others => List.forall_mem_cons.mpr ⟨own, others⟩

variable {specification : Specification}

theorem scalar_field_draws (name : String) (schema : Option (OrRef Schema)) (required : Bool)
    (hint location : String) (listsAllowed : Bool) :
    (scalarFieldPlan specification name schema required hint location listsAllowed).Ensures
      fun _ effects => effects.DrawnUnder (· = hint) := by
  have given : (givenFieldPlan specification name schema required hint
      s!"{location}/schema").Ensures fun _ effects => effects.DrawnUnder (· = hint) := by
    cases schema with
    | none => exact .pure (.nothing rfl)
    | some item =>
        apply Plan.Ensures.bind (item_draws item _ _)
        intro shape effects drawn
        apply (field_plan_ensures _ _ _ _ _).weaken
        rintro field more ⟨_, none⟩
        exact .append (.one rfl drawn) (.nothing none)
  apply Plan.Ensures.bind given
  intro field effects drawn
  apply Plan.Ensures.bind .demand
  intro _ demands none
  apply Plan.Ensures.pure
  exact drawn.append (.append (.nothing none) (.nothing rfl))

theorem parameter_draws (operation identifier : String) (place : Place) (stated : StatedParameter) :
    (parameterPlan specification operation identifier place stated).Ensures
      fun parameter effects => parameter.place = place ∧ parameter.name = stated.parameter.name ∧
        effects.DrawnUnder (· = operation ++ place.title ++ identifier) := by
  apply Plan.Ensures.bind (scalar_field_draws _ _ _ _ _ _)
  intro field effects drawn
  apply Plan.Ensures.after_given
  intro extensions _
  dsimp only
  split
  · apply Plan.Ensures.bind .check_text
    intro _ texts none
    exact .pure ⟨rfl, rfl, drawn.append (.append (.nothing none) (.nothing rfl))⟩
  · exact .pure ⟨rfl, rfl, drawn.append (.nothing rfl)⟩

theorem parameters_draw (name : String) (item : OpenApi.PathItem) (operation : OpenApi.Operation)
    (pathLocation location : String) :
    (parametersPlan specification name item operation pathLocation location).Ensures
      fun parameters effects => Placeable [] (parameterIdentifiers parameters) ∧
        effects.DrawnUnder fun hint => ∃ parameter ∈ parameters,
          hint = name ++ parameter.place.title ++ Identifier.exported parameter.name := by
  apply Plan.Ensures.after_given
  intro stated _
  unfold statementsPlan
  split
  · rename_i placeable
    have collected := @Plan.Ensures.collect _ _
      (fun entry => parameterPlan specification name
        (Identifier.exported entry.2.parameter.name) entry.1 entry.2)
      (readStatements stated) _
      (fun read parameters effects =>
        parameterIdentifiers parameters = statementIdentifiers read ∧
          effects.DrawnUnder fun hint => ∃ parameter ∈ parameters,
            hint = name ++ parameter.place.title ++ Identifier.exported parameter.name)
      ⟨rfl, .nothing rfl⟩ ?_ fun entry _ => parameter_draws _ _ _ _
    · apply collected.weaken
      rintro parameters effects ⟨same, drawn⟩
      exact ⟨same ▸ placeable, drawn⟩
    · rintro ⟨place, statement⟩ rest parameter others here there ⟨rfl, named, own⟩ ⟨same, drawn⟩
      refine ⟨?_, .append (own.mono ?_) (drawn.mono ?_)⟩
      · unfold parameterIdentifiers statementIdentifiers at *
        rw [List.map_cons, List.map_cons, same, named]
      · rintro hint rfl
        exact ⟨parameter, List.mem_cons_self, by rw [named]⟩
      · rintro hint ⟨other, member, made⟩
        exact ⟨other, List.mem_cons_of_mem _ member, made⟩
  · exact .fails

theorem content_shape_draws (component contentType location : String) (mediaType : MediaType) :
    (contentShapePlan specification component contentType location mediaType).Ensures
      fun shape effects => effects.DrawnUnder fun hint =>
        hint = component ∧ shape = .named component := by
  match mediaType with
  | ⟨some (.reference target)⟩ => exact .given fun _ _ => .nothing rfl
  | ⟨some (.object schema)⟩ =>
      apply Plan.Ensures.bind (shape_draws schema .declared component location)
      intro shape effects drawn
      apply Plan.Ensures.after_given
      intro extensions _
      let own : Component := {
        name := component
        shape
        description := schema.description
        origin := .inside location
        skipValidation := extensions.skipValidation }
      apply Plan.Ensures.bind .register
      intro _ registered same
      apply Plan.Ensures.pure
      rw [Effects.append_empty]
      apply Effects.DrawnUnder.one ⟨rfl, rfl⟩
      rw [Effects.components_append, same]
      exact @Drawn.registered own _ drawn
  | ⟨none⟩ =>
      let own : Component := {
        name := component
        shape := if isOctetStream contentType then .ofKind .bytes else .anything
        description := none
        origin := .inside location
        skipValidation := true }
      apply Plan.Ensures.bind .register
      intro _ registered same
      apply Plan.Ensures.pure
      rw [Effects.append_empty]
      apply Effects.DrawnUnder.one ⟨rfl, rfl⟩
      rw [same]
      refine @Drawn.registered own [] (drawn_alone ?_)
      dsimp only [own]
      split <;> rfl

/-- A content is told apart by its content type. -/
def BodyContent.Tagged (content : BodyContent) : Prop :=
  content.tag = Identifier.ofContentType content.contentType

theorem content_draws (componentName : String → String) (location : String)
    (entry : String × MediaType) :
    (contentPlan specification componentName location entry).Ensures fun content effects =>
      content.Tagged ∧ effects.DrawnUnder fun hint =>
        hint = componentName content.tag ∧ content.shape = .named hint := by
  apply Plan.Ensures.bind (content_shape_draws _ _ _ _)
  intro shape effects drawn
  have kept : effects.DrawnUnder fun hint =>
      hint = componentName (Identifier.ofContentType entry.1) ∧ shape = .named hint := by
    apply drawn.mono
    rintro hint ⟨rfl, same⟩
    exact ⟨rfl, same⟩
  split
  · apply Plan.Ensures.bind .demand
    intro _ demands none
    exact .pure ⟨rfl, kept.append (.append (.nothing none) (.nothing rfl))⟩
  · exact .pure ⟨rfl, kept.append (.nothing rfl)⟩

theorem contents_draw (content : Table MediaType) (componentName : String → String)
    (location : String) :
    (contentsPlan specification content componentName location).Ensures fun contents effects =>
      (∀ content ∈ contents, content.Tagged) ∧ effects.DrawnUnder fun hint =>
        ∃ content ∈ contents, hint = componentName content.tag ∧ content.shape = .named hint := by
  unfold contentsPlan
  split
  · have single (entry : String × MediaType) :=
      @content_draws specification componentName location entry
    exact (collect_each fun entry _ => (single entry).weaken fun _ _ both => both.1).both
      (collect_draws fun entry _ => (single entry).weaken fun _ _ both => both.2)
  · exact .fails

theorem headers_draw (hint location : String) (headers : Table (OrRef OpenApi.Header)) :
    (Plan.collect (headerPlan specification hint location) headers).Ensures fun headers effects =>
      effects.DrawnUnder fun name => ∃ header ∈ headers,
        name = hint ++ "Header" ++ Identifier.exported header.name := by
  have single (entry : String × OrRef OpenApi.Header) :
      (headerPlan specification hint location entry).Ensures fun header effects =>
        effects.DrawnUnder (· = hint ++ "Header" ++ Identifier.exported header.name) := by
    unfold headerPlan
    dsimp only
    split
    · exact .fails
    · apply Plan.Ensures.bind (scalar_field_draws _ _ _ _ _ _)
      intro field effects drawn
      exact .pure (drawn.append (.nothing rfl))
  exact collect_draws fun entry _ => single entry

theorem response_draws (name location : String) (entry : String × OrRef OpenApi.Response) :
    (responsePlan specification name location entry).Ensures fun response effects =>
      (∀ content ∈ response.contents, content.Tagged) ∧ effects.DrawnUnder fun hint =>
        (∃ content ∈ response.contents,
          hint = name ++ response.status.label ++ content.tag ++ "ResponseBody") ∨
        ∃ header ∈ response.headers,
          hint = name ++ response.status.label ++ "Header" ++ Identifier.exported header.name := by
  unfold responsePlan
  split
  · exact .fails
  split
  · exact .fails
  apply Plan.Ensures.bind (contents_draw _ _ _)
  rintro contents first ⟨tagged, drawn⟩
  apply Plan.Ensures.bind (headers_draw _ _ _)
  intro headers second follow
  apply Plan.Ensures.pure
  refine ⟨tagged, .append (drawn.mono ?_) (.append (follow.mono ?_) (.nothing rfl))⟩
  · rintro hint ⟨content, member, made, _⟩
    exact .inl ⟨content, member, made⟩
  · exact fun hint made => .inr made

theorem responses_draw (name location : String) (operation : OpenApi.Operation) :
    (responsesPlan specification name operation location).Ensures fun responses effects =>
      (∀ response ∈ responses, ∀ content ∈ response.contents, content.Tagged) ∧
      effects.DrawnUnder fun hint => ∃ response ∈ responses,
        (∃ content ∈ response.contents,
          hint = name ++ response.status.label ++ content.tag ++ "ResponseBody") ∨
        ∃ header ∈ response.headers,
          hint = name ++ response.status.label ++ "Header" ++ Identifier.exported header.name := by
  unfold responsesPlan
  split
  · have single (entry : String × OrRef OpenApi.Response) :=
      @response_draws specification name location entry
    apply Plan.Ensures.bind
      ((collect_each fun entry _ => (single entry).weaken fun _ _ both => both.1).both
        (collect_draws fun entry _ => (single entry).weaken fun _ _ both => both.2))
    rintro responses effects ⟨tagged, drawn⟩
    apply Plan.Ensures.pure
    rw [Effects.append_empty]
    refine ⟨fun response member => tagged response (List.mem_mergeSort.mp member), ?_⟩
    apply drawn.mono
    rintro hint ⟨response, member, made⟩
    exact ⟨response, List.mem_mergeSort.mpr member, made⟩
  · exact .fails

theorem request_body_draws (name location : String) (operation : OpenApi.Operation) :
    (requestBodyPlan specification name operation location).Ensures fun body effects =>
      (∀ content ∈ body.elim [] RequestBody.contents, content.Tagged) ∧
      effects.DrawnUnder fun hint => ∃ content ∈ body.elim [] RequestBody.contents,
        hint = name ++ content.tag ++ "RequestBody" ∧ content.shape = .named hint := by
  unfold requestBodyPlan
  split
  · exact .pure ⟨List.forall_mem_nil _, .nothing rfl⟩
  split
  · exact .fails
  apply Plan.Ensures.bind (contents_draw _ _ _)
  rintro contents effects ⟨tagged, drawn⟩
  apply Plan.Ensures.pure
  rw [Effects.append_empty]
  cases contents with
  | nil => exact ⟨tagged, drawn⟩
  | cons content others => exact ⟨tagged, drawn⟩

theorem body_contents (operation : Operation) :
    operation.bodyContents = operation.requestBody.elim [] RequestBody.contents := by
  unfold Operation.bodyContents
  cases operation.requestBody <;> rfl

theorem tag_ne_empty (operation : OpenApi.Operation) : tagOf operation ≠ "" := by
  unfold tagOf
  split
  · rename_i first others _
    dsimp only
    split
    · decide
    · rename_i given
      exact fun empty => given (String.isEmpty_iff.mpr empty)
  · decide

/-- What is known of an operation by itself. -/
structure Operation.Drafted (operation : Operation) : Prop where
  named : operation.name = Identifier.ofOperation operation.path operation.method.name
  grouped : operation.tag ≠ ""
  placeable : Placeable [] (parameterIdentifiers operation.parameters)
  requests : ∀ content ∈ operation.bodyContents, content.Tagged
  responses : ∀ response ∈ operation.responses, ∀ content ∈ response.contents, content.Tagged

theorem operation_draws (schemes : List SecurityScheme) (stated : StatedOperation) :
    (operationPlan specification schemes stated).Ensures fun operation effects =>
      operation.Drafted ∧ effects.DrawnUnder operation.Hands := by
  apply Plan.Ensures.after_given
  intro extensions _
  apply Plan.Ensures.bind (parameters_draw _ _ _ _ _)
  rintro parameters first ⟨placeable, parametersDrawn⟩
  apply Plan.Ensures.bind (request_body_draws _ _ _)
  rintro body second ⟨requestTagged, bodyDrawn⟩
  apply Plan.Ensures.bind (responses_draw _ _ _)
  rintro responses third ⟨responseTagged, responsesDrawn⟩
  apply Plan.Ensures.after_given
  intro security _
  apply Plan.Ensures.pure
  refine ⟨⟨rfl, tag_ne_empty _, placeable, body_contents _ ▸ requestTagged, responseTagged⟩,
    .append (parametersDrawn.mono ?_)
      (.append (bodyDrawn.mono ?_) (.append (responsesDrawn.mono ?_) (.nothing rfl)))⟩
  · rintro hint ⟨parameter, member, rfl⟩
    exact .parameter parameter member
  · rintro hint ⟨content, member, rfl, own⟩
    exact .request content (body_contents _ ▸ member) own
  · rintro hint ⟨response, answers, ⟨content, member, rfl⟩ | ⟨header, member, rfl⟩⟩
    · exact .response response answers content member
    · exact .header response answers header member

theorem operations_draw (schemes : List SecurityScheme) (paths : Table OpenApi.PathItem) :
    (operationsPlan specification schemes paths).Ensures fun operations effects =>
      (∀ operation ∈ operations, operation.Drafted) ∧
        effects.DrawnUnder fun hint => ∃ operation ∈ operations, operation.Hands hint := by
  have all : (operationPlans specification schemes [] (statedOperations paths)).Ensures
      fun operations effects => (∀ operation ∈ operations, operation.Drafted) ∧
        effects.DrawnUnder fun hint => ∃ operation ∈ operations, operation.Hands hint := by
    unfold operationPlans
    split
    · constructor
      intro operations effects planned
      have drafted : ∀ operation ∈ operations, operation.Drafted := by
        intro operation member
        obtain ⟨stated, _, own, here⟩ := partner_of_mem (Plan.collect_steps planned).flip member
        exact ((operation_draws schemes stated).holds operation own here).1
      exact ⟨drafted, (collect_draws fun stated _ => (operation_draws schemes stated).weaken
        fun _ _ both => both.2).holds operations effects planned⟩
    · exact .fails
  apply Plan.Ensures.bind all
  rintro operations effects ⟨drafted, drawn⟩
  apply Plan.Ensures.pure
  rw [Effects.append_empty]
  refine ⟨fun operation member => drafted operation (List.mem_mergeSort.mp member), ?_⟩
  apply drawn.mono
  rintro hint ⟨operation, member, hands⟩
  exact ⟨operation, List.mem_mergeSort.mpr member, hands⟩

/-- The drawing of a declared schema, under the identifier of its key. -/
theorem declared_draws (key : String) (item : OrRef Schema) :
    (declaredPlan specification key item).Ensures fun _ effects =>
      ∃ component inner, component.origin = .declared key ∧
        component.name = Identifier.exported key ∧
        effects.components = inner ++ [component] ∧
        Drawn .nested ⟨component.name, .named component.name, inner ++ [component]⟩ := by
  unfold declaredPlan
  generalize Identifier.exported key = name
  dsimp only
  split
  · exact .fails
  cases item with
  | reference target =>
      apply Plan.Ensures.after_given
      intro shape referred
      refine Plan.Ensures.register.weaken fun _ _ same => ?_
      exact ⟨_, [], rfl, rfl, same, .registered (drawn_alone (reference_bare referred))⟩
  | object schema =>
      apply Plan.Ensures.after_given
      intro extensions _
      apply Plan.Ensures.bind (shape_draws schema .declared _ _)
      intro shape effects drawn
      refine Plan.Ensures.register.weaken fun _ _ same => ?_
      have components : (effects ++ _).components = effects.components ++ [_] :=
        (Effects.components_append _ _).trans (congrArg _ same)
      exact ⟨_, effects.components, rfl, rfl, components, .registered drawn⟩

end Plans

inductive Roots (components : List Component) (operations : List Operation) : String → Prop where
  | declared (component : Component) (member : component ∈ components) (key : String)
    (origin : component.origin = .declared key)
    (named : component.name = Identifier.exported key) : Roots components operations component.name
  | handed (operation : Operation) (member : operation ∈ operations) (hint : String)
    (hands : operation.Hands hint) : Roots components operations hint

theorem Roots.mono {components others : List Component} {operations more : List Operation}
    {hint : String} (root : Roots components operations hint) (included : components ⊆ others)
    (kept : operations ⊆ more) : Roots others more hint := by
  cases root with
  | declared component member key origin named =>
      exact .declared component (included member) key origin named
  | handed operation member hint hands => exact .handed operation (kept member) hint hands

section Programs

variable {specification : Specification}

theorem declared_schemas_draw (schemas : Table (OrRef Schema)) :
    (declaredPlans specification schemas).Ensures fun _ effects =>
      effects.DrawnUnder (Roots effects.components []) := by
  have all : (Plan.collect (fun entry => declaredPlan specification entry.1 entry.2)
      schemas).Ensures fun _ effects => effects.DrawnUnder (Roots effects.components []) := by
    apply @Plan.Ensures.collect _ _ _ _ _
      (fun _ _ effects => effects.DrawnUnder (Roots effects.components []))
      (.nothing rfl) _ fun entry _ => declared_draws entry.1 entry.2
    rintro entry rest _ _ here there ⟨component, inner, origin, named, components, drawn⟩ follow
    refine .append ?_ (follow.mono fun hint root =>
      root.mono (List.subset_append_right _ _) (.refl _))
    apply Effects.DrawnUnder.one _ (components ▸ drawn)
    apply Roots.declared component _ entry.1 origin named
    rw [Effects.components_append, components]
    exact List.mem_append_left _ List.mem_concat_self
  apply Plan.Ensures.bind all
  intro _ effects drawn
  apply Plan.Ensures.pure
  rw [Effects.append_empty]
  exact drawn

theorem program_draws (paths : Table OpenApi.PathItem) :
    (programPlan specification paths).Ensures fun outline effects =>
      (∀ operation ∈ outline.2, operation.Drafted) ∧
        effects.DrawnUnder (Roots effects.components outline.2) := by
  apply Plan.Ensures.bind (declared_schemas_draw _)
  intro _ first declared
  apply Plan.Ensures.after_given
  intro schemes _
  apply Plan.Ensures.bind (operations_draw schemes paths)
  rintro operations second ⟨drafted, drawn⟩
  apply Plan.Ensures.pure
  rw [Effects.append_empty]
  refine ⟨drafted, .append (declared.mono fun hint root => ?_) (drawn.mono ?_)⟩
  · exact root.mono (List.subset_append_left _ _) (List.nil_subset _)
  · rintro hint ⟨operation, member, hands⟩
    exact .handed operation member hint hands

end Programs

/-- What is known of a program by the way it is drawn up. -/
structure Program.Drafted (program : Program) : Prop where
  operations : ∀ operation ∈ program.operations, operation.Drafted
  components : ∃ drawings : List Drawing,
    (∀ component, component ∈ program.components.values ↔
      component ∈ drawings.flatMap (·.components)) ∧
    ∀ drawing ∈ drawings, Roots program.components.values program.operations drawing.hint ∧
      Drawn .nested drawing

/-- A component of the program is the outcome of a drawing. -/
theorem Program.Drafted.component_drawn {program : Program} (drafted : program.Drafted)
    {component : Component} (member : component ∈ program.components.values) :
    ∃ inner, Drawn .declared ⟨component.name, component.shape, inner⟩ := by
  obtain ⟨drawings, listed, drawn⟩ := drafted.components
  obtain ⟨drawing, among, inside⟩ := List.mem_flatMap.mp ((listed component).mp member)
  exact (drawn drawing among).2.component_drawn inside

/-- What holds of the names that drawings stand under, and is handed on, holds of all components. -/
theorem Program.Drafted.names_hold {program : Program} (drafted : program.Drafted)
    {holds allowed : String → Prop}
    (step : ∀ identifiers hint name, (∀ identifier ∈ identifiers, allowed identifier) →
      holds hint → Beneath identifiers hint name → holds name)
    (fields : ∀ component ∈ program.components.values,
      ∀ identifier ∈ fieldIdentifiers component.shape.fields, allowed identifier)
    (roots : ∀ hint, Roots program.components.values program.operations hint → holds hint) :
    ∀ component ∈ program.components.values, holds component.name := by
  obtain ⟨drawings, listed, drawn⟩ := drafted.components
  intro component member
  obtain ⟨drawing, among, inside⟩ := List.mem_flatMap.mp ((listed component).mp member)
  obtain ⟨root, made⟩ := drawn drawing among
  refine made.names_hold step ?_ (fun other within => ?_) (roots _ root) component inside
  · rw [made.nested_bare rfl]
    exact List.forall_mem_nil _
  · exact fields other ((listed other).mpr (List.mem_flatMap.mpr ⟨drawing, among, within⟩))

theorem compiled_drafted {document : Document} {config : Config} {program : Program}
    (compiled : (compile document config).1 = .ok program) : program.Drafted := by
  obtain ⟨schemes, operations, effects, planned, accepted, rfl⟩ :=
    lowered_iff.mp (compiled_iff.mp compiled)
  obtain ⟨drafted, drawings, components, drawn⟩ :=
    (program_draws document.specification.paths).holds _ _ planned
  have listed := @Effects.mem_registered effects accepted.distinct
  refine ⟨drafted, drawings, fun component => ?_, fun drawing member => ?_⟩
  · rw [← components]
    exact listed
  · obtain ⟨root, made⟩ := drawn drawing member
    exact ⟨root.mono (fun component => listed.mpr) (.refl _), made⟩

end ApiScaffold.Blueprint
