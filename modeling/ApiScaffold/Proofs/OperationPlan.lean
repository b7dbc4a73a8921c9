import ApiScaffold.Proofs.OperationNames
import ApiScaffold.Proofs.Permuted
import ApiScaffold.Proofs.Resolution
import ApiScaffold.Proofs.ShapePlan

/-!
The plans of operations: of parameters, bodies, responses and their headers. Whatever must differ
from one another is compared before anything is planned.
-/

namespace ApiScaffold.Blueprint

open OpenApi (Schema OrRef Extensions Specification Table MediaType)

section Plans

variable (specification : Specification)

def givenFieldPlan (name : String) (schema : Option (OrRef Schema)) (required : Bool)
    (hint location : String) : Plan (Field Shape) :=
  match schema with
  | some item => do
    let shape ← nestedPlan specification hint location item
    fieldPlan specification name item required location shape
  | none => return textField name

def scalarFieldPlan (name : String) (schema : Option (OrRef Schema)) (required : Bool)
    (hint location : String) (listsAllowed : Bool) : Plan (Field Shape) := do
  let field ← givenFieldPlan specification name schema required hint s!"{location}/schema"
  Plan.demand (.readable listsAllowed field.shape)
  return { field with optionality := if required then .required else .optional }

def parameterPlan (operation identifier : String) (place : Place) (stated : StatedParameter) :
    Plan Parameter := do
  let parameter := stated.parameter
  let plain ← scalarFieldPlan specification parameter.name parameter.schema
    (parameter.required || place == .path) s!"{operation}{place.title}{identifier}" stated.location
    (place == .query)
  let extensions ← Plan.given (Extensions.read parameter.extensions stated.location)
  let field := extendField plain parameter extensions
  let lowered : Parameter := { name := parameter.name, place, field }
  if field.regex.isSome || field.trimmable then
    Plan.checkText field.shape stated.location
    return lowered
  else return lowered

def readStatements (stated : List StatedParameter) : List (Place × StatedParameter) :=
  stated.filterMap fun statement =>
    (placeOf statement.parameter.place).map fun place => (place, statement)

def statementIdentifiers (read : List (Place × StatedParameter)) : List (Place × String) :=
  read.map fun (place, statement) => (place, Identifier.exported statement.parameter.name)

/-- Identifiers that differ at each place, and are not empty. -/
def Placeable (known identifiers : List (Place × String)) : Prop :=
  Fresh known identifiers ∧ ∀ identifier ∈ identifiers, identifier.2 ≠ ""

instance (known identifiers : List (Place × String)) : Decidable (Placeable known identifiers) :=
  inferInstanceAs (Decidable (_ ∧ _))

theorem placeable_cons {known identifiers : List (Place × String)} {identifier : Place × String} :
    Placeable known (identifier :: identifiers) ↔ identifier.2 ≠ "" ∧ identifier ∉ known ∧
      Placeable (identifier :: known) identifiers := by
  unfold Placeable
  rw [Fresh.cons_iff, List.forall_mem_cons]
  tauto

def statementsPlan (operation : String) (known : List (Place × String))
    (read : List (Place × StatedParameter)) : Plan (List Parameter) :=
  if Placeable known (statementIdentifiers read) then
    Plan.collect (fun (place, statement) => parameterPlan specification operation
      (Identifier.exported statement.parameter.name) place statement) read
  else Plan.fails

def parametersPlan (name : String) (item : OpenApi.PathItem) (operation : OpenApi.Operation)
    (pathLocation location : String) : Plan (List Parameter) := do
  let located := locate pathLocation item.parameters ++ locate location operation.parameters
  let stated ← Plan.given (statedParameters specification [] located)
  statementsPlan specification name [] (readStatements stated)

def contentShapePlan (component contentType location : String) (mediaType : MediaType) :
    Plan Shape :=
  match mediaType.schema with
  | some (.reference target) => Plan.given (referenceShape specification target location)
  | some (.object schema) => do
    let shape ← shapePlan specification .declared component location schema
    let extensions ← Plan.given (Extensions.read schema.extensions location)
    Plan.register {
      name := component
      shape
      description := schema.description
      origin := .inside location
      skipValidation := extensions.skipValidation }
    return .named component
  | none => do
    Plan.register {
      name := component
      shape := if isOctetStream contentType then .ofKind .bytes else .anything
      description := none
      origin := .inside location
      skipValidation := true }
    return .named component

def contentPlan (componentName : String → String) (location : String)
    (entry : String × MediaType) : Plan BodyContent := do
  let contentType := entry.1
  let tag := Identifier.ofContentType contentType
  let shape ← contentShapePlan specification (componentName tag) contentType
    s!"{location}/content/{contentType}" entry.2
  if isOctetStream contentType then
    Plan.demand (.binary shape)
    return { contentType, tag, shape }
  else return { contentType, tag, shape }

def contentTags (content : Table MediaType) : List String :=
  content.map fun entry => Identifier.ofContentType entry.1

def contentsPlan (content : Table MediaType) (componentName : String → String)
    (location : String) : Plan (List BodyContent) :=
  if Fresh [] (contentTags (sortByKey content)) then
    Plan.collect (contentPlan specification componentName location) (sortByKey content)
  else Plan.fails

def requestBodyPlan (name : String) (operation : OpenApi.Operation) (location : String) :
    Plan (Option RequestBody) :=
  match operation.requestBody with
  | none => return none
  | some item =>
    match specification.requestBody? item with
    | none => Plan.fails
    | some body => do
      let contents ← contentsPlan specification body.content
        (fun tag => s!"{name}{tag}RequestBody") s!"{location}/requestBody"
      return if contents.isEmpty then none else some { required := body.required, contents }

def headerPlan (hint location : String) (entry : String × OrRef OpenApi.Header) :
    Plan ResponseHeader :=
  let name := entry.1
  match specification.header? entry.2 with
  | none => Plan.fails
  | some header => do
    let field ← scalarFieldPlan specification name header.schema header.required
      s!"{hint}Header{Identifier.exported name}" s!"{location}/headers/{name}" false
    let described := { field with description := field.description.or header.description }
    return { name, field := described }

def responseAtPlan (name location : String) (status : Status) (response : OpenApi.Response) :
    Plan Response := do
  let label := status.label
  let contents ← contentsPlan specification response.content
    (fun tag => s!"{name}{label}{tag}ResponseBody") location
  let headers ← Plan.collect (headerPlan specification s!"{name}{label}" location) response.headers
  return { status, description := response.description, contents, headers }

def responsePlan (name location : String) (entry : String × OrRef OpenApi.Response) :
    Plan Response :=
  match Status.parse? entry.1 with
  | none => Plan.fails
  | some status =>
    match specification.response? entry.2 with
    | none => Plan.fails
    | some response =>
      responseAtPlan specification name s!"{location}/responses/{entry.1}" status response

def responseStatuses (responses : Table (OrRef OpenApi.Response)) : List (Option Status) :=
  responses.map fun entry => Status.parse? entry.1

def responsesPlan (name : String) (operation : OpenApi.Operation) (location : String) :
    Plan (List Response) :=
  if Fresh [] (responseStatuses operation.responses) then do
    let responses ← Plan.collect (responsePlan specification name location) operation.responses
    return responses.mergeSort fun left right => left.status.precedes right.status
  else Plan.fails

def operationPlan (schemes : List SecurityScheme) (stated : StatedOperation) : Plan Operation := do
  let name := stated.name
  let operation := stated.operation
  let pathLocation := pathLocation stated.path
  let location := s!"{pathLocation}/{stated.method.name}"
  let extensions ← Plan.given (Extensions.read operation.extensions location)
  let parameters ← parametersPlan specification name stated.item operation pathLocation location
  let requestBody ← requestBodyPlan specification name operation location
  let responses ← responsesPlan specification name operation location
  let security ← Plan.given (securityOf specification schemes operation location)
  return {
    name
    method := stated.method
    path := stated.path
    tag := tagOf operation
    summary := operation.summary
    description := operation.description
    parameters, requestBody, responses, security
    skipSecurityCheck := extensions.skipSecurityCheck }

def statedOperations (paths : Table OpenApi.PathItem) : List StatedOperation :=
  paths.flatMap fun (path, item) =>
    item.operations.map fun (method, operation) => { path, item, method, operation }

def operationNames (stated : List StatedOperation) : List String := stated.map (·.name)

def operationPlans (schemes : List SecurityScheme) (known : List String)
    (stated : List StatedOperation) : Plan (List Operation) :=
  if Fresh known (operationNames stated) then
    Plan.collect (operationPlan specification schemes) stated
  else Plan.fails

end Plans

section Playing

open Plays (ClosedBefore)

variable {specification : Specification} {names : List String}

theorem given_field_plays (name : String) (schema : Option (OrRef Schema)) (required : Bool)
    (hint location : String) :
    Plays (ClosedBefore names) (givenField specification name schema required hint location)
      (givenFieldPlan specification name schema required hint location) := by
  cases schema with
  | none => exact Plays.pure
  | some item =>
      apply (nested_plays item hint location).followed_by
      intro shape
      exact field_plays _ _ _ _ _ _

theorem resolve_run (shape : Shape) (draft : Draft) : (Drafting.resolve shape).run.run draft =
    (.ok (resolveIn draft.components shape), draft) := rfl

theorem scalar_of_run (name : String) (required : Bool) (location : String) (listsAllowed : Bool)
    (field : Field Shape) (draft : Draft) :
    (scalarOf name required location listsAllowed field).run.run draft =
      if (Demand.readable listsAllowed field.shape).holds draft.components then
        (.ok { field with optionality := if required then .required else .optional }, draft)
      else (.error ((Problem.notScalar name listsAllowed
        (isCustom (resolveIn draft.components field.shape))).report location), draft) := by
  have reads : ∀ resolved, (readsFromText listsAllowed resolved).run.run draft =
      (.ok (readableIn draft.components listsAllowed resolved), draft) := by
    intro resolved
    cases resolved with
    | array element minItems maxItems => cases listsAllowed <;> rfl
    | _ => rfl
  unfold scalarOf
  rw [Drafting.run_bind, resolve_run]
  dsimp only
  rw [Drafting.run_bind, reads]
  dsimp only
  rw [Demand.holds]
  cases readableIn draft.components listsAllowed (resolveIn draft.components field.shape) <;> rfl

theorem scalar_of_plays (name : String) (required : Bool) (location : String) (listsAllowed : Bool)
    {field : Field Shape} (usable : field.shape.references ⊆ names) :
    Plays (ClosedBefore names) (scalarOf name required location listsAllowed field) (do
      Plan.demand (.readable listsAllowed field.shape)
      return { field with optionality := if required then .required else .optional }) := by
  apply Plays.demands
  · intro components whole closed grown
    apply readable_alike closed grown listsAllowed
    intro name member
    exact (closed.usable name (usable member)).resolve_left List.not_mem_nil
  · intro draft met
    rw [scalar_of_run, if_pos met]
    exact ⟨draft.warnings, rfl⟩
  · intro draft unmet
    rw [scalar_of_run, if_neg unmet]
    exact ⟨_, rfl⟩

section Declared

variable (declared : declaredNames specification ⊆ names)

include declared

theorem scalar_field_plays (name : String) (schema : Option (OrRef Schema)) (required : Bool)
    (hint location : String) (listsAllowed : Bool) :
    Plays (ClosedBefore names)
      (scalarField specification name schema required hint location listsAllowed)
      (scalarFieldPlan specification name schema required hint location listsAllowed) := by
  rw [scalar_field_of_given]
  apply (given_field_plays name schema required hint _).hands_bind
    (given_field_hands name schema required hint _ declared)
  intro field _ _
  exact scalar_of_plays name required _ listsAllowed (List.subset_append_left _ _)

theorem parameter_plays (operation identifier : String) (place : Place)
    (stated : StatedParameter) :
    Plays (ClosedBefore names) (parameterAt specification operation identifier place stated)
      (parameterPlan specification operation identifier place stated) := by
  unfold parameterAt parameterPlan
  apply (scalar_field_plays declared _ _ _ _ _ _).followed_by
  intro plain
  apply Plays.lift_except.followed_by
  intro extensions
  dsimp only
  split
  · apply Plays.check_text_later.followed_by
    intro _
    exact Plays.pure
  · exact Plays.pure

end Declared

/-- The first statement that is read, if cookies are left out. -/
theorem read_statements_cons (first : StatedParameter) (rest : List StatedParameter) :
    readStatements (first :: rest) =
      match placeOf first.parameter.place with
      | none => readStatements rest
      | some place => (place, first) :: readStatements rest := by
  unfold readStatements
  rw [List.filterMap_cons]
  cases placeOf first.parameter.place <;> rfl

theorem collect_parameters_plays (declared : declaredNames specification ⊆ names)
    (operation : String) (known : List (Place × String)) (stated : List StatedParameter) :
    Plays (ClosedBefore names) (collectParameters specification operation known stated)
      (statementsPlan specification operation known (readStatements stated)) := by
  induction stated generalizing known names with
  | nil => exact Plays.pure
  | cons first rest induction =>
      rw [collectParameters, read_statements_cons]
      simp only [Drafting.fail_bind, Drafting.throw_bind]
      cases placeOf first.parameter.place with
      | none => exact Plays.warned (induction declared known)
      | some place =>
          have identified : statementIdentifiers ((place, first) :: readStatements rest) =
              (place, Identifier.exported first.parameter.name) ::
                statementIdentifiers (readStatements rest) := rfl
          dsimp only
          rw [statementsPlan, identified]
          simp only [placeable_cons]
          generalize tagged : Identifier.exported first.parameter.name = identifier
          by_cases nameless : identifier = ""
          · rw [if_pos (by rw [nameless]; rfl), if_neg fun stated => stated.1 nameless]
            exact Plays.fail
          rw [if_neg (by rwa [String.isEmpty_iff])]
          by_cases taken : (place, identifier) ∈ known
          · rw [if_pos (List.contains_iff_mem.mpr taken), if_neg fun stated => stated.2.1 taken]
            exact Plays.throw
          rw [if_neg fun contained => taken (List.contains_iff_mem.mp contained),
            if_congr (and_iff_right nameless) rfl rfl, if_congr (and_iff_right taken) rfl rfl,
            Plan.collect_guarded]
          subst tagged
          apply (parameter_plays declared operation _ place first).hands_bind
            (parameter_hands operation _ place first declared)
          intro lowered _ _
          apply (induction (List.subset_append_of_subset_right _ declared) _).followed_by
          intro parameters
          exact Plays.pure

theorem parameters_plays (declared : declaredNames specification ⊆ names) (name : String)
    (item : OpenApi.PathItem) (operation : OpenApi.Operation) (pathLocation location : String) :
    Plays (ClosedBefore names)
      (parametersOf specification name item operation pathLocation location)
      (parametersPlan specification name item operation pathLocation location) := by
  unfold parametersOf parametersPlan
  apply Plays.lift_except.hands_bind (Hands.lift_nameless (stated_parameters_fails _ _ _))
  intro stated _ _
  exact collect_parameters_plays declared name [] stated

theorem content_shape_plays (component contentType location : String) (mediaType : MediaType) :
    Plays (ClosedBefore names)
      (contentShape specification component contentType location mediaType)
      (contentShapePlan specification component contentType location mediaType) := by
  match mediaType with
  | ⟨some (.reference target)⟩ => exact Plays.lift_except
  | ⟨some (.object schema)⟩ =>
      apply Plays.followed_by ((shape_plays schema .declared _ _).weaken fun _ _ => trivial)
      intro shape
      apply Plays.lift_except.followed_by
      intro extensions
      apply Plays.register.followed_by
      intro _
      exact Plays.pure
  | ⟨none⟩ =>
      apply Plays.register.followed_by
      intro _
      exact Plays.pure

def checkBinary (shape : Shape) (location : String) : Drafting Unit := do
  if (← Drafting.resolve shape).kind? != some .bytes then Drafting.fail .notBinary location

theorem check_binary_run (shape : Shape) (location : String) (draft : Draft) :
    (checkBinary shape location).run.run draft =
      if (Demand.binary shape).holds draft.components then (.ok (), draft)
      else (.error (Problem.notBinary.report location), draft) := by
  unfold checkBinary
  rw [Drafting.run_bind, resolve_run, Demand.holds]
  dsimp only
  unfold bne
  cases (resolveIn draft.components shape).kind? == some .bytes <;> rfl

theorem check_binary_plays {shape : Shape} (location : String) (usable : shape.references ⊆ names) :
    Plays (ClosedBefore names) (checkBinary shape location)
      (Plan.demand (.binary shape) >>= fun _ => pure ()) := by
  apply Plays.demands
  · intro components whole closed grown
    apply binary_alike closed grown
    intro name member
    exact (closed.usable name (usable member)).resolve_left List.not_mem_nil
  · intro draft met
    rw [check_binary_run, if_pos met]
    exact ⟨draft.warnings, rfl⟩
  · intro draft unmet
    rw [check_binary_run, if_neg unmet]
    exact ⟨_, rfl⟩

def contentOf (specification : Specification) (componentName : String → String)
    (location : String) (entry : String × MediaType) : Drafting BodyContent := do
  let contentType := entry.1
  let tag := Identifier.ofContentType contentType
  let contentLocation := s!"{location}/content/{contentType}"
  let shape ← contentShape specification (componentName tag) contentType contentLocation entry.2
  if isOctetStream contentType then
    checkBinary shape contentLocation
    return { contentType, tag, shape }
  else return { contentType, tag, shape }

theorem content_plays (declared : declaredNames specification ⊆ names)
    (componentName : String → String) (location : String) (entry : String × MediaType) :
    Plays (ClosedBefore names) (contentOf specification componentName location entry)
      (contentPlan specification componentName location entry) := by
  unfold contentOf contentPlan
  apply (content_shape_plays _ _ _ _).hands_bind (content_shape_hands _ _ _ _ declared)
  intro shape _ _
  split
  · exact (check_binary_plays _ (List.subset_append_left _ _)).followed_by fun _ => Plays.pure
  · exact Plays.pure

theorem check_binary_hands {promised : List String} (shape : Shape) (location : String) :
    Hands promised names (checkBinary shape location) fun _ => [] := by
  apply Hands.bind Hands.resolve
  intro resolved
  split
  · exact Hands.fail rfl
  · exact Hands.pure (List.nil_subset _)

theorem content_hands {promised : List String} (declared : declaredNames specification ⊆ names)
    (componentName : String → String) (location : String) (entry : String × MediaType) :
    Hands promised names (contentOf specification componentName location entry)
      fun content => content.shape.references := by
  unfold contentOf
  apply Hands.bind (content_shape_hands _ _ _ _ declared)
  intro shape
  split
  · apply Hands.bind (check_binary_hands _ _)
    · intro _
      exact Hands.pure (List.subset_append_of_subset_right _ (List.subset_append_left _ _))
  · exact Hands.pure (List.subset_append_left _ _)

theorem collect_contents_round (componentName : String → String) (location : String)
    (known : List BodyContent) (entry : String × MediaType) (rest : Table MediaType)
    (fresh : known.find? (·.tag == Identifier.ofContentType entry.1) = none) (draft : Draft) :
    (collectContents specification componentName location known (entry :: rest)).run.run draft =
      (contentOf specification componentName location entry >>= fun content =>
        collectContents specification componentName location (known ++ [content]) rest).run.run
          draft := by
  obtain ⟨contentType, mediaType⟩ := entry
  rw [collectContents, contentOf, bind_assoc]
  simp only [fresh, Drafting.fail_bind]
  rw [Drafting.run_bind, Drafting.run_bind]
  generalize (contentShape specification (componentName (Identifier.ofContentType contentType))
    contentType s!"{location}/content/{contentType}" mediaType).run.run draft = result
  rcases result with ⟨diagnostic | shape, reached⟩
  · rfl
  · dsimp only
    cases isOctetStream contentType with
    | false => rfl
    | true =>
      rw [Drafting.run_bind, resolve_run, if_pos rfl, bind_assoc, Drafting.run_bind,
        check_binary_run, Demand.holds]
      dsimp only
      unfold bne
      cases (resolveIn reached.components shape).kind? == some .bytes <;> rfl

theorem content_plan_tag {componentName : String → String} {location : String}
    {entry : String × MediaType} {content : BodyContent} {effects : Effects}
    (planned : contentPlan specification componentName location entry = some (content, effects)) :
    content.tag = Identifier.ofContentType entry.1 := by
  obtain ⟨shape, _, _, _, rest, _⟩ := Plan.bind_eq_some.mp planned
  split at rest
  · obtain ⟨_, _, _, _, given, _⟩ := Plan.bind_eq_some.mp rest
    cases given
    rfl
  · cases rest
    rfl

theorem collect_contents_plays (declared : declaredNames specification ⊆ names)
    (componentName : String → String) (location : String) (known : List BodyContent)
    (content : Table MediaType) :
    Plays (ClosedBefore names)
      (collectContents specification componentName location known content)
      ((if Fresh (known.map (·.tag)) (contentTags content) then
        Plan.collect (contentPlan specification componentName location) content
      else Plan.fails) >>= fun more => pure (known ++ more)) := by
  induction content generalizing known names with
  | nil =>
      have none : Fresh (known.map (·.tag)) (contentTags []) := Fresh.nil
      rw [if_pos none, Plan.collect, Plan.pure_bind, List.append_nil]
      exact Plays.pure
  | cons entry rest induction =>
      have tags : contentTags (entry :: rest) =
          Identifier.ofContentType entry.1 :: contentTags rest := rfl
      cases found : known.find? (·.tag == Identifier.ofContentType entry.1) with
      | some other =>
          have taken : Identifier.ofContentType entry.1 ∈ known.map (·.tag) := mem_keys_of_find found
          rw [if_neg fun fresh => (Fresh.cons_iff.mp (tags ▸ fresh)).1 taken, collectContents]
          simp only [found]
          exact Plays.throw
      | none =>
          have unknown := find_key_eq_none_iff.mp found
          apply Plays.of_run _ (collect_contents_round componentName location known entry rest found)
          rw [tags, if_congr (Fresh.cons_iff.trans (and_iff_right unknown)) rfl rfl,
            Plan.collect_behind]
          apply (content_plays declared componentName location entry).hands_bind
            (content_hands declared componentName location entry)
          intro content effects planned
          have others := induction (List.subset_append_of_subset_right content.shape.references
            declared) (known ++ [content])
          rw [List.map_append, List.map_singleton, content_plan_tag planned] at others
          simp only [Fresh.append_singleton_iff] at others
          exact others

theorem contents_plays (declared : declaredNames specification ⊆ names) (content : Table MediaType)
    (componentName : String → String) (location : String) :
    Plays (ClosedBefore names) (contentsOf specification content componentName location)
      (contentsPlan specification content componentName location) := by
  have collected := collect_contents_plays declared componentName location [] (sortByKey content)
  exact Plan.bind_pure (contentsPlan specification content componentName location) ▸ collected

section Declared

variable (declared : declaredNames specification ⊆ names)

include declared

theorem request_body_plays (name : String) (operation : OpenApi.Operation) (location : String) :
    Plays (ClosedBefore names) (requestBodyOf specification name operation location)
      (requestBodyPlan specification name operation location) := by
  unfold requestBodyOf requestBodyPlan
  cases operation.requestBody with
  | none => exact Plays.pure
  | some item =>
      dsimp only
      cases specification.requestBody? item with
      | none => exact Plays.fail
      | some body =>
          apply (contents_plays declared _ _ _).followed_by
          intro contents
          exact Plays.pure

theorem headers_plays (hint location : String) (headers : Table (OrRef OpenApi.Header)) :
    Plays (ClosedBefore names) (headersOf specification hint location headers)
      (Plan.collect (headerPlan specification hint location) headers) := by
  induction headers generalizing names with
  | nil => exact Plays.pure
  | cons entry rest induction =>
      obtain ⟨name, item⟩ := entry
      rw [headersOf, Plan.collect, headerPlan]
      dsimp only
      cases specification.header? item with
      | none => exact Plays.fail
      | some header =>
          dsimp only
          rw [Plan.bind_assoc]
          apply (scalar_field_plays declared _ _ _ _ _ _).hands_bind
            (scalar_field_hands _ _ _ _ _ _ declared)
          intro field _ _
          rw [Plan.pure_bind]
          apply (induction (List.subset_append_of_subset_right _ declared)).followed_by
          intro others
          exact Plays.pure

theorem response_at_plays (name location : String) (status : Status)
    (response : OpenApi.Response) :
    Plays (ClosedBefore names) (responseAt specification name location status response)
      (responseAtPlan specification name location status response) := by
  apply (contents_plays declared _ _ _).hands_bind (contents_hands _ _ _ declared)
  intro contents _ _
  apply (headers_plays (List.subset_append_of_subset_right _ declared) _ _ _).followed_by
  intro headers
  exact Plays.pure

end Declared

theorem response_plan_status {name location : String} {entry : String × OrRef OpenApi.Response}
    {response : Response} {effects : Effects}
    (planned : responsePlan specification name location entry = some (response, effects)) :
    Status.parse? entry.1 = some response.status := by
  unfold responsePlan at planned
  split at planned
  · cases planned
  · rename_i status parsed
    split at planned
    · cases planned
    · obtain ⟨_, _, _, _, rest, _⟩ := Plan.bind_eq_some.mp planned
      obtain ⟨_, _, _, _, given, _⟩ := Plan.bind_eq_some.mp rest
      cases given
      exact parsed

theorem response_plan_of_status (specification : Specification) (name location : String)
    {entry : String × OrRef OpenApi.Response} {status : Status}
    (parsed : Status.parse? entry.1 = some status) :
    responsePlan specification name location entry =
      match specification.response? entry.2 with
      | none => Plan.fails
      | some response =>
        responseAtPlan specification name s!"{location}/responses/{entry.1}" status response := by
  rw [responsePlan, parsed]

theorem mem_statuses_iff {known : List Response} {status : Status} :
    some status ∈ known.map (some ·.status) ↔ known.any (·.status == status) := by
  rw [List.any_eq_true, List.mem_map]
  simp only [Option.some.injEq, beq_iff_eq]

/-- One round of collecting responses, for a key whose status is new. -/
theorem response_round {name location : String} {known : List Response}
    {entry : String × OrRef OpenApi.Response} {status : Status} (rest : Table (OrRef OpenApi.Response))
    (parsed : Status.parse? entry.1 = some status) (fresh : known.any (·.status == status) = false) :
    collectResponses specification name location known (entry :: rest) =
      (match specification.response? entry.2 with
      | none => Drafting.fail (.unresolved .response) s!"{location}/responses/{entry.1}"
      | some response => do
        let lowered ←
          responseAt specification name s!"{location}/responses/{entry.1}" status response
        collectResponses specification name location (known ++ [lowered]) rest) := by
  obtain ⟨key, item⟩ := entry
  rw [collectResponses]
  simp only [parsed, fresh]
  rfl

theorem collect_responses_plays (declared : declaredNames specification ⊆ names)
    (name location : String) (known : List Response) (responses : Table (OrRef OpenApi.Response)) :
    Plays (ClosedBefore names) (collectResponses specification name location known responses)
      ((if Fresh (known.map (some ·.status)) (responseStatuses responses) then
        Plan.collect (responsePlan specification name location) responses
      else Plan.fails) >>= fun more => pure (known ++ more)) := by
  induction responses generalizing known names with
  | nil =>
      have none : Fresh (known.map (some ·.status)) (responseStatuses []) := Fresh.nil
      rw [if_pos none, Plan.collect, Plan.pure_bind, List.append_nil]
      exact Plays.pure
  | cons entry rest induction =>
      have statuses : responseStatuses (entry :: rest) =
          Status.parse? entry.1 :: responseStatuses rest := rfl
      rw [statuses]
      cases parsed : Status.parse? entry.1 with
      | none =>
          have unread : responsePlan specification name location entry = Plan.fails := by
            rw [responsePlan, parsed]
          rw [collectResponses, parsed, Plan.collect_behind, unread]
          exact Plays.fail
      | some status =>
          by_cases taken : known.any (·.status == status)
          · rw [if_neg fun fresh => (Fresh.cons_iff.mp fresh).1 (mem_statuses_iff.mpr taken),
              collectResponses, parsed]
            simp only [taken]
            exact Plays.throw
          have unknown : some status ∉ known.map (some ·.status) := by rwa [mem_statuses_iff]
          rw [response_round rest parsed (Bool.eq_false_iff.mpr taken),
            if_congr (Fresh.cons_iff.trans (and_iff_right unknown)) rfl rfl, Plan.collect_behind]
          have planned := response_plan_of_status specification name location parsed
          cases found : specification.response? entry.2 with
          | none =>
              rw [planned, found]
              exact Plays.fail
          | some response =>
              rw [found] at planned
              rw [planned]
              apply (response_at_plays declared _ _ _ _).hands_bind
                (response_hands _ _ _ _ declared)
              intro lowered effects lowering
              have others := induction (List.subset_append_of_subset_right
                (responseReferences [lowered]) declared) (known ++ [lowered])
              have own := parsed.symm.trans (response_plan_status (planned.trans lowering))
              rw [List.map_append, List.map_singleton, ← own] at others
              simp only [Fresh.append_singleton_iff] at others
              exact others

theorem responses_plays (declared : declaredNames specification ⊆ names) (name : String)
    (operation : OpenApi.Operation) (location : String) :
    Plays (ClosedBefore names) (responsesOf specification name operation location)
      (responsesPlan specification name operation location) := by
  have collected := collect_responses_plays declared name location [] operation.responses
  have planned : responsesPlan specification name operation location =
      ((if Fresh [] (responseStatuses operation.responses) then
        Plan.collect (responsePlan specification name location) operation.responses
      else Plan.fails) >>= fun more => pure ([] ++ more)) >>= fun responses =>
        pure (responses.mergeSort fun left right => left.status.precedes right.status) := by
    unfold responsesPlan
    split
    · exact congrArg (· >>= _) (Plan.bind_pure _).symm
    · rfl
  rw [planned]
  exact collected.followed_by fun _ => Plays.pure

theorem operation_plays (declared : declaredNames specification ⊆ names)
    (schemes : List SecurityScheme) (stated : StatedOperation) :
    Plays (ClosedBefore names) (operationOf specification schemes stated)
      (operationPlan specification schemes stated) := by
  have further (more : List String) : declaredNames specification ⊆ more ++ names :=
    List.subset_append_of_subset_right more declared
  apply Plays.lift_except.hands_bind (Hands.lift_nameless (read_extensions_fails _ _))
  intro extensions _ _
  apply (parameters_plays declared _ _ _ _ _).hands_bind (parameters_hands _ _ _ _ _ declared)
  intro parameters _ _
  apply (request_body_plays (further _) _ _ _).hands_bind (request_body_hands _ _ _ (further _))
  intro body _ _
  apply Plays.followed_by
    (responses_plays (List.subset_append_of_subset_right _ (further _)) _ _ _)
  intro responses
  apply Plays.lift_except.followed_by
  intro security
  exact Plays.pure

def knownAfter (known : List (String × String)) (stated : List StatedOperation) :
    List (String × String) :=
  (stated.map fun operation => (operation.name, operation.source)).reverse ++ known

theorem known_after_cons (known : List (String × String)) (first : StatedOperation)
    (rest : List StatedOperation) :
    knownAfter known (first :: rest) = knownAfter ((first.name, first.source) :: known) rest := by
  simp [knownAfter]

theorem mem_known_after (known : List (String × String)) (stated : List StatedOperation)
    (name : String) : name ∈ (knownAfter known stated).map (·.1) ↔
      name ∈ operationNames stated ++ known.map (·.1) := by
  simp [knownAfter, operationNames]

section Operations

variable (schemes : List SecurityScheme)

theorem collect_operations_plays (declared : declaredNames specification ⊆ names)
    (known : List (String × String)) (stated : List StatedOperation) :
    Plays (ClosedBefore names) (collectOperations specification schemes known stated)
      (operationPlans specification schemes (known.map (·.1)) stated >>= fun operations =>
        pure (knownAfter known stated, operations)) := by
  induction stated generalizing known names with
  | nil => exact Plays.pure
  | cons first rest induction =>
      have listed : operationNames (first :: rest) = first.name :: operationNames rest := rfl
      rw [collectOperations, operationPlans, listed]
      dsimp only
      cases found : known.lookup first.name with
      | some other =>
          rw [if_neg fun fresh => (Fresh.cons_iff.mp fresh).1 (known_of_lookup found)]
          exact Plays.throw
      | none =>
          have unknown := unknown_iff.mp found
          rw [if_congr (Fresh.cons_iff.trans (and_iff_right unknown)) rfl rfl,
            Plan.collect_guarded, Plan.bind_assoc]
          apply (operation_plays declared schemes first).attributing.hands_bind
            (Hands.attributing (operation_hands schemes first declared))
          intro operation _ _
          have others := induction (List.subset_append_of_subset_right
            (operationReferences operation) declared) ((first.name, first.source) :: known)
          rw [← known_after_cons] at others
          have planned := others.followed_by fun collected =>
            (Plays.pure : Plays _ (pure (collected.1, operation :: collected.2)) _)
          rw [Plan.bind_assoc] at planned ⊢
          exact planned

/-- The operations of one path and then those of others. -/
theorem operation_plans_append (known : List String) (first second : List StatedOperation) :
    operationPlans specification schemes known (first ++ second) =
      (operationPlans specification schemes known first >>= fun operations =>
        operationPlans specification schemes (operationNames first ++ known) second >>= fun others =>
          pure (operations ++ others)) := by
  have names : operationNames (first ++ second) = operationNames first ++ operationNames second :=
    List.map_append
  unfold operationPlans
  rw [names]
  by_cases here : Fresh known (operationNames first)
  · rw [if_congr (Fresh.append_iff.trans (and_iff_right here)) rfl rfl, if_pos here]
    split
    · exact Plan.collect_append _ first second
    · exact (Plan.bind_fails _).symm
  · rw [if_neg fun fresh => here (Fresh.append_iff.mp fresh).1, if_neg here]
    rfl

theorem operation_plans_congr {known other : List String}
    (same : ∀ name, name ∈ known ↔ name ∈ other) (stated : List StatedOperation) :
    operationPlans specification schemes known stated =
      operationPlans specification schemes other stated := by
  unfold operationPlans
  rw [if_congr (Fresh.congr same) rfl rfl]

/-- Paths that refer to other documents are only warned of. -/
theorem collect_paths_plays (declared : declaredNames specification ⊆ names)
    (known : List (String × String)) (paths : Table OpenApi.PathItem) :
    Plays (ClosedBefore names) (collectPaths specification schemes known paths)
      (operationPlans specification schemes (known.map (·.1)) (statedOperations paths)) := by
  induction paths generalizing known names with
  | nil => exact Plays.pure
  | cons entry rest induction =>
      obtain ⟨path, item⟩ := entry
      have stated : statedOperations ((path, item) :: rest) =
          (item.operations.map fun (method, operation) => ⟨path, item, method, operation⟩) ++
            statedOperations rest := List.flatMap_cons
      have collected : Plays (ClosedBefore names) (do
          let collected ← collectOperations specification schemes known
            (item.operations.map fun (method, operation) => ⟨path, item, method, operation⟩)
          return collected.2 ++ (← collectPaths specification schemes collected.1 rest))
          (operationPlans specification schemes (known.map (·.1))
            (statedOperations ((path, item) :: rest))) := by
        rw [stated]
        generalize (item.operations.map fun (method, operation) =>
          (⟨path, item, method, operation⟩ : StatedOperation)) = here
        -- the names that are known are those that the first operations were given
        have planned : operationPlans specification schemes (known.map (·.1))
            (here ++ statedOperations rest) =
            ((operationPlans specification schemes (known.map (·.1)) here >>= fun operations =>
              pure (knownAfter known here, operations)) >>= fun collected =>
                operationPlans specification schemes (collected.1.map (·.1))
                  (statedOperations rest) >>= fun others => pure (collected.2 ++ others)) := by
          rw [operation_plans_append, Plan.bind_assoc]
          congr 1
          funext operations
          rw [Plan.pure_bind, operation_plans_congr schemes (mem_known_after known here)]
        rw [planned]
        apply (collect_operations_plays schemes declared known here).hands_bind
          (collect_operations_hands schemes known here declared)
        rintro ⟨knownNow, operations⟩ _ _
        apply (induction (List.subset_append_of_subset_right _ declared) knownNow).followed_by
        intro others
        exact Plays.pure
      rw [collectPaths]
      cases item.reference with
      | some reference => exact Plays.warned collected
      | none => exact collected

def operationsPlan (specification : Specification) (schemes : List SecurityScheme)
    (paths : Table OpenApi.PathItem) : Plan (List Operation) := do
  let operations ← operationPlans specification schemes [] (statedOperations paths)
  return operations.mergeSort Operation.precedes

end Operations

end Playing

section Order

theorem operation_plan_keeps {specification : Specification} {schemes : List SecurityScheme}
    {stated : StatedOperation} {operation : Operation} {effects : Effects}
    (planned : operationPlan specification schemes stated = some (operation, effects)) :
    operation.name = stated.name ∧ operation.path = stated.path ∧
      operation.method = stated.method := by
  obtain ⟨_, _, _, _, planned, _⟩ := Plan.bind_eq_some.mp planned
  obtain ⟨_, _, _, _, planned, _⟩ := Plan.bind_eq_some.mp planned
  obtain ⟨_, _, _, _, planned, _⟩ := Plan.bind_eq_some.mp planned
  obtain ⟨_, _, _, _, planned, _⟩ := Plan.bind_eq_some.mp planned
  obtain ⟨_, _, _, _, planned, _⟩ := Plan.bind_eq_some.mp planned
  obtain ⟨same, _⟩ := Prod.mk.inj (Option.some.inj planned)
  rw [← same]
  exact ⟨rfl, rfl, rfl⟩

theorem status_precedes_iff {first second : Status} : first.precedes second ↔
    first.rank.1 < second.rank.1 ∨ first.rank.1 = second.rank.1 ∧ first.rank.2 ≤ second.rank.2 := by
  simp [Status.precedes]

theorem responses_sort {responses : List Response} (distinct : (responses.map (·.status)).Nodup) :
    Sorts (fun first second => first.status.precedes second.status) responses where
  trans := by
    intro first second third before after
    rw [status_precedes_iff] at *
    omega
  total := by
    intro first second
    rw [Bool.or_eq_true, status_precedes_iff, status_precedes_iff]
    omega
  antisymm := by
    intro first here second there before after
    rw [status_precedes_iff] at before after
    have same : first.status.rank = second.status.rank := by
      apply Prod.ext <;> omega
    exact List.inj_on_of_nodup_map distinct here there (Status.rank_injective _ _ same)

theorem precedes_iff {left right : Operation} : left.precedes right ↔
    left.path < right.path ∨ left.path = right.path ∧ left.method.name ≤ right.method.name := by
  simp [Operation.precedes]

theorem operations_sort {operations : List Operation}
    (made : ∀ operation ∈ operations,
      operation.name = Identifier.ofOperation operation.path operation.method.name)
    (distinct : (operations.map (·.name)).Nodup) : Sorts Operation.precedes operations where
  trans := by
    intro first second third before after
    rw [precedes_iff] at *
    rcases before with before | ⟨before, here⟩
    · rcases after with after | ⟨after, _⟩
      · exact .inl (String.lt_trans before after)
      · exact .inl (after ▸ before)
    · rcases after with after | ⟨after, there⟩
      · exact .inl (before ▸ after)
      · exact .inr ⟨before.trans after, String.le_trans here there⟩
  total := by
    intro first second
    rw [Bool.or_eq_true, precedes_iff, precedes_iff]
    have apart : first.path < second.path ∨ first.path = second.path ∨
        second.path < first.path := by grind
    rcases apart with before | same | after
    · exact .inl (.inl before)
    · rcases String.le_total first.method.name second.method.name with here | there
      · exact .inl (.inr ⟨same, here⟩)
      · exact .inr (.inr ⟨same.symm, there⟩)
    · exact .inr (.inl after)
  antisymm := by
    intro first here second there before after
    rw [precedes_iff] at before after
    have same : first.path = second.path := by
      rcases before with before | ⟨before, _⟩
      · rcases after with after | ⟨after, _⟩
        · exact absurd before (String.lt_asymm after)
        · exact after.symm
      · exact before
    have methods : first.method.name = second.method.name := by
      rcases before with before | ⟨_, before⟩
      · exact absurd same (String.ne_of_lt before)
      · rcases after with after | ⟨_, after⟩
        · exact absurd same.symm (String.ne_of_lt after)
        · exact String.le_antisymm before after
    apply List.inj_on_of_nodup_map distinct here there
    rw [made first here, made second there, same, methods]

theorem collected_operations_sort {specification : Specification} {schemes : List SecurityScheme}
    {stated : List StatedOperation} {operations : List Operation} {effects : Effects}
    (distinct : (operationNames stated).Nodup)
    (collected : Plan.collect (operationPlan specification schemes) stated =
      some (operations, effects)) : Sorts Operation.precedes operations := by
  have pairs : List.Forall₂ (fun (stated : StatedOperation) (operation : Operation) =>
      operation.name = stated.name ∧ operation.path = stated.path ∧
        operation.method = stated.method) stated operations :=
    (Plan.collect_steps collected).imp fun _ _ ⟨_, here⟩ => operation_plan_keeps here
  have names : operations.map (·.name) = operationNames stated := by
    apply Eq.symm
    exact map_eq_of_pairs pairs fun _ _ same => same.1.symm
  have made : ∀ operation ∈ operations,
      operation.name = Identifier.ofOperation operation.path operation.method.name := by
    intro operation member
    obtain ⟨stated, _, name, path, method⟩ := partner_of_mem pairs.flip member
    rw [name, path, method]
    rfl
  exact operations_sort made (names ▸ distinct)

end Order

end ApiScaffold.Blueprint
