import ApiScaffold.Proofs.OperationPlan
import ApiScaffold.Proofs.SimilarShape

/-!
Operations that differ in the order of their tables only have similar plans. What the source lists in
an array keeps its order; contents and responses are sorted, headers stand as they are written, and so
do the schemes that must pass together.
-/

namespace ApiScaffold.Blueprint

open OpenApi (Schema OrRef Extensions Specification Table MediaType)

structure Parameter.Similar (parameter other : Parameter) : Prop where
  field : parameter.field.Similar Shape.Similar other.field
  rest : other = { parameter with field := other.field }

structure ResponseHeader.Similar (header other : ResponseHeader) : Prop where
  field : header.field.Similar Shape.Similar other.field
  rest : other = { header with field := other.field }

structure Response.Similar (response other : Response) : Prop where
  headers : Permuted ResponseHeader.Similar response.headers other.headers
  rest : other = { response with headers := other.headers }

/-- Operations that are equal up to the order of fields, of the headers of a response, and of the
schemes that must pass together. -/
structure Operation.Similar (operation other : Operation) : Prop where
  parameters : List.Forall₂ Parameter.Similar operation.parameters other.parameters
  responses : List.Forall₂ Response.Similar operation.responses other.responses
  security : List.Forall₂ List.Perm operation.security other.security
  rest : other = { operation with
    parameters := other.parameters, responses := other.responses, security := other.security }

structure StatedParameter.Similar (stated other : StatedParameter) : Prop where
  parameter : stated.parameter.Similar other.parameter
  location : stated.location = other.location

theorem restate_similar {stated stated' : StatedParameter} (here : stated.Similar stated')
    {known known' : List StatedParameter}
    (pairs : List.Forall₂ StatedParameter.Similar known known') :
    List.Forall₂ StatedParameter.Similar (restate stated known) (restate stated' known') := by
  induction pairs with
  | nil => exact .cons here .nil
  | cons first others induction =>
      rw [restate, restate, first.parameter.name, first.parameter.place, here.parameter.name,
        here.parameter.place]
      split
      · exact .cons here others
      · exact .cons first induction

theorem locate_similar (location : String) {items items' : List (OrRef OpenApi.Parameter)}
    (pairs : List.Forall₂ (OrRef.Similar OpenApi.Parameter.Similar) items items') :
    List.Forall₂ (fun item item' : OrRef OpenApi.Parameter × String =>
      item.1.Similar OpenApi.Parameter.Similar item'.1 ∧ item.2 = item'.2)
      (locate location items) (locate location items') := by
  unfold locate
  generalize 0 = start
  induction pairs generalizing start with
  | nil => exact .nil
  | cons known _ induction => exact .cons ⟨known, rfl⟩ (induction (start + 1))

/-- Whether identifiers are told apart does not depend on the shapes of parameters. -/
theorem read_statements_similar {stated stated' : List StatedParameter}
    (pairs : List.Forall₂ StatedParameter.Similar stated stated') :
    List.Forall₂ (fun statement statement' : Place × StatedParameter =>
      statement.1 = statement'.1 ∧ statement.2.Similar statement'.2)
      (readStatements stated) (readStatements stated') := by
  refine List.rel_filterMap ?_ pairs
  intro statement statement' known
  dsimp only
  rw [known.parameter.place]
  cases placeOf statement'.parameter.place with
  | none => exact .none
  | some place => exact .some ⟨rfl, known⟩

theorem collected_responses_sort {specification : Specification} {name location : String}
    {table : Table (OrRef OpenApi.Response)} {responses : List Response} {effects : Effects}
    (distinct : (responseStatuses table).Nodup)
    (collected : Plan.collect (responsePlan specification name location) table =
      some (responses, effects)) :
    Sorts (fun left right => left.status.precedes right.status) responses := by
  have statuses : responseStatuses table = responses.map (some ·.status) :=
    map_eq_of_pairs (Plan.collect_steps collected) fun _ _ ⟨_, planned⟩ =>
      response_plan_status planned
  apply responses_sort
  apply List.Nodup.of_map some
  rw [List.map_map]
  exact statuses ▸ distinct

section Specifications

variable {specification specification' : Specification}
  (similar : specification.Similar specification')

include similar

theorem stated_parameters_similar
    {located located' : List (OrRef OpenApi.Parameter × String)}
    (pairs : List.Forall₂ (fun item item' : OrRef OpenApi.Parameter × String =>
      item.1.Similar OpenApi.Parameter.Similar item'.1 ∧ item.2 = item'.2) located located')
    {known known' : List StatedParameter}
    (before : List.Forall₂ StatedParameter.Similar known known') :
    Option.Rel (List.Forall₂ StatedParameter.Similar)
      (statedParameters specification known located).toOption
      (statedParameters specification' known' located').toOption := by
  induction pairs generalizing known known' with
  | nil => exact .some before
  | @cons item item' _ _ here _ induction =>
      have found := OpenApi.follow_similar similar.components.parameters OpenApi.parametersPlace
        here.1
      rw [statedParameters, statedParameters]
      unfold OpenApi.Specification.parameter?
      generalize OpenApi.follow specification.components.parameters _ item.1 = parameter,
        OpenApi.follow specification'.components.parameters _ item'.1 = parameter' at found ⊢
      cases found with
      | none => exact .none
      | some known => exact induction (restate_similar ⟨known, here.2⟩ before)

theorem given_field_similar (name : String) {schema schema' : Option (OrRef Schema)}
    (known : Option.Rel (OrRef.Similar Schema.Similar) schema schema') (required : Bool)
    (hint location : String) :
    Plan.Similar (Field.Similar Shape.Similar)
      (givenFieldPlan specification name schema required hint location)
      (givenFieldPlan specification' name schema' required hint location) := by
  cases known with
  | none => exact .pure (.of_rest (.primitive _) rfl)
  | some known =>
      apply (nested_plan_similar similar known hint location).bind
      intro shape shape' shapes
      exact field_similar similar name known required location shapes

theorem scalar_field_similar (name : String) {schema schema' : Option (OrRef Schema)}
    (known : Option.Rel (OrRef.Similar Schema.Similar) schema schema') (required : Bool)
    (hint location : String) (listsAllowed : Bool) :
    Plan.Similar (Field.Similar Shape.Similar)
      (scalarFieldPlan specification name schema required hint location listsAllowed)
      (scalarFieldPlan specification' name schema' required hint location listsAllowed) := by
  apply (given_field_similar similar name known required hint _).bind
  rintro _ _ ⟨field, shapes⟩
  apply (Plan.Similar.demand (.readable listsAllowed shapes)).bind
  intro _ _ _
  exact .pure (.of_rest shapes rfl)

theorem parameter_similar (operation identifier : String) (place : Place)
    {stated stated' : StatedParameter} (known : stated.Similar stated') :
    Plan.Similar Parameter.Similar (parameterPlan specification operation identifier place stated)
      (parameterPlan specification' operation identifier place stated') := by
  obtain ⟨parameter, location⟩ := stated
  obtain ⟨parameter', _⟩ := stated'
  obtain ⟨⟨name, _, description, required, schema, reordered⟩, rfl⟩ := known
  dsimp only at *
  unfold parameterPlan
  dsimp only
  rw [name, required]
  apply (scalar_field_similar similar _ schema _ _ _ _).bind
  rintro _ _ ⟨plain, shapes⟩
  apply (extensions_similar reordered location).bind
  rintro extensions _ rfl
  unfold extendField
  dsimp only
  rw [description]
  split
  · apply (Plan.Similar.checkText shapes location).bind
    intro _ _ _
    exact .pure ⟨.of_rest shapes rfl, rfl⟩
  · exact .pure ⟨.of_rest shapes rfl, rfl⟩

theorem parameters_similar (name : String) {item item' : OpenApi.PathItem}
    (items : List.Forall₂ (OrRef.Similar OpenApi.Parameter.Similar) item.parameters item'.parameters)
    {operation operation' : OpenApi.Operation} (known : operation.Similar operation')
    (pathLocation location : String) :
    Plan.Similar (List.Forall₂ Parameter.Similar)
      (parametersPlan specification name item operation pathLocation location)
      (parametersPlan specification' name item' operation' pathLocation location) := by
  have located := List.rel_append (locate_similar pathLocation items)
    (locate_similar location known.parameters)
  apply Plan.Similar.bind (.given (stated_parameters_similar similar located .nil))
  intro stated stated' pairs
  have read := read_statements_similar pairs
  have identifiers : statementIdentifiers (readStatements stated) =
      statementIdentifiers (readStatements stated') := by
    apply map_eq_of_pairs read
    rintro ⟨place, statement⟩ ⟨_, statement'⟩ ⟨rfl, known⟩
    dsimp only
    rw [known.parameter.name]
  unfold statementsPlan
  rw [identifiers]
  split
  · apply Plan.Similar.collect_pairs read
    rintro ⟨place, statement⟩ _ ⟨_, statement'⟩ ⟨rfl, known⟩
    dsimp only
    rw [known.parameter.name]
    exact parameter_similar similar name _ _ known
  · exact .fails

theorem content_shape_similar (component contentType location : String)
    {mediaType mediaType' : MediaType} (known : mediaType.Similar mediaType') :
    Plan.Similar Shape.SameName
      (contentShapePlan specification component contentType location mediaType)
      (contentShapePlan specification' component contentType location mediaType') := by
  have schemas := known.schema
  unfold contentShapePlan
  generalize mediaType.schema = schema, mediaType'.schema = schema' at schemas ⊢
  cases schemas with
  | none =>
      have shapes : (if isOctetStream contentType then Shape.ofKind .bytes else .anything).Similar
          (if isOctetStream contentType then .ofKind .bytes else .anything) := by
        split
        · exact .primitive _
        · exact .object .nil [] .forbidden
      refine Plan.Similar.bind (.register ⟨shapes, ?_⟩) fun _ _ _ => .pure (.intro component)
      dsimp only
  | some known =>
    cases known with
    | reference target => exact reference_similar similar target location
    | @object schema schema' known =>
        have parts := Schema.similar_iff.mp known
        have descriptions : schema.description = schema'.description :=
          parts.reads Schema.description fun _ => rfl
        apply (shape_plan_similar similar schema _ known _ _ _).bind
        intro shape shape' shapes
        apply (extensions_similar parts.extensions location).bind
        rintro extensions _ rfl
        refine Plan.Similar.bind (.register ⟨shapes, ?_⟩) fun _ _ _ => .pure (.intro component)
        rw [descriptions]

theorem content_similar (componentName : String → String) (location : String)
    {entry entry' : String × MediaType} (keyed : Keyed MediaType.Similar entry entry') :
    Plan.Similar Eq (contentPlan specification componentName location entry)
      (contentPlan specification' componentName location entry') := by
  cases keyed with
  | intro contentType known =>
      apply (content_shape_similar similar _ contentType _ known).bind
      rintro _ _ ⟨name⟩
      dsimp only
      split
      · exact (Plan.Similar.demand (.binary (.named name))).bind fun _ _ _ => .pure rfl
      · exact .pure rfl

theorem contents_similar {content content' : Table MediaType}
    (known : Table.Similar MediaType.Similar content content') (componentName : String → String)
    (location : String) :
    Plan.Similar Eq (contentsPlan specification content componentName location)
      (contentsPlan specification' content' componentName location) := by
  have sorted := sort_by_key_similar known
  have tags : contentTags (sortByKey content) = contentTags (sortByKey content') :=
    map_eq_of_pairs sorted fun _ _ keyed => by rw [keyed.key]
  unfold contentsPlan
  rw [tags]
  split
  · apply Plan.Similar.imp (Plan.Similar.collect_pairs sorted fun _ _ _ keyed =>
      content_similar similar componentName location keyed)
    intro contents contents' pairs
    rwa [List.forall₂_eq_eq_eq] at pairs
  · exact .fails

theorem request_body_similar (name : String) {operation operation' : OpenApi.Operation}
    (known : operation.Similar operation') (location : String) :
    Plan.Similar Eq (requestBodyPlan specification name operation location)
      (requestBodyPlan specification' name operation' location) := by
  have bodies := known.requestBody
  unfold requestBodyPlan
  generalize operation.requestBody = item, operation'.requestBody = item' at bodies ⊢
  cases bodies with
  | none => exact .pure rfl
  | @some item item' here =>
      have found := OpenApi.follow_similar similar.components.requestBodies
        OpenApi.requestBodiesPlace here
      unfold OpenApi.Specification.requestBody?
      dsimp only
      generalize OpenApi.follow specification.components.requestBodies _ item = body,
        OpenApi.follow specification'.components.requestBodies _ item' = body' at found ⊢
      cases found with
      | none => exact .fails
      | some known =>
          apply (contents_similar similar known.content _ _).bind
          rintro contents _ rfl
          rw [known.required]
          exact .pure rfl

theorem header_similar (hint location : String) {entry entry' : String × OrRef OpenApi.Header}
    (keyed : Keyed (OrRef.Similar OpenApi.Header.Similar) entry entry') :
    Plan.Similar ResponseHeader.Similar (headerPlan specification hint location entry)
      (headerPlan specification' hint location entry') := by
  cases keyed with
  | @intro name item item' here =>
      have found := OpenApi.follow_similar similar.components.headers OpenApi.headersPlace here
      unfold headerPlan OpenApi.Specification.header?
      dsimp only
      generalize OpenApi.follow specification.components.headers _ item = header,
        OpenApi.follow specification'.components.headers _ item' = header' at found ⊢
      cases found with
      | none => exact .fails
      | some known =>
          dsimp only
          rw [known.required, known.description]
          apply (scalar_field_similar similar name known.schema _ _ _ _).bind
          rintro _ _ ⟨field, shapes⟩
          exact .pure ⟨.of_rest shapes rfl, rfl⟩

theorem response_similar (name location : String) {entry entry' : String × OrRef OpenApi.Response}
    (keyed : Keyed (OrRef.Similar OpenApi.Response.Similar) entry entry') :
    Plan.Similar Response.Similar (responsePlan specification name location entry)
      (responsePlan specification' name location entry') := by
  cases keyed with
  | @intro key item item' here =>
      have found := OpenApi.follow_similar similar.components.responses OpenApi.responsesPlace here
      unfold responsePlan OpenApi.Specification.response?
      dsimp only
      cases Status.parse? key with
      | none => exact .fails
      | some status =>
          dsimp only
          generalize OpenApi.follow specification.components.responses _ item = response,
            OpenApi.follow specification'.components.responses _ item' = response' at found ⊢
          cases found with
          | none => exact .fails
          | some known =>
              apply (contents_similar similar known.content _ _).bind
              rintro contents _ rfl
              apply Plan.Similar.bind (.collect_permuted known.headers.permuted
                fun _ _ _ keyed => header_similar similar _ _ keyed)
              intro headers headers' permuted
              rw [known.description]
              exact .pure ⟨permuted, rfl⟩

theorem responses_similar (name : String) {operation operation' : OpenApi.Operation}
    (known : operation.Similar operation') (location : String) :
    Plan.Similar (List.Forall₂ Response.Similar) (responsesPlan specification name operation location)
      (responsesPlan specification' name operation' location) := by
  have statuses : (responseStatuses operation.responses).Perm
      (responseStatuses operation'.responses) :=
    known.responses.permuted.map_perm fun _ _ keyed => by rw [keyed.key]
  unfold responsesPlan
  rw [if_congr (Fresh.perm statuses) rfl rfl]
  split
  case isFalse => exact .fails
  case isTrue fresh =>
    rw [← Fresh.perm statuses] at fresh
    apply Plan.Similar.bind_of (.collect_permuted known.responses.permuted
      fun _ _ _ keyed => response_similar similar name location keyed)
    intro responses responses' effects planned permuted
    refine .pure (permuted.merge_sort (collected_responses_sort fresh.distinct planned) ?_)
    intro first second first' second' here there
    rw [here.rest, there.rest]

end Specifications

section Security

/-- Requirements name the same schemes in another order, so all of them are declared in both or in
neither. -/
theorem requirements_similar (schemes : List SecurityScheme) (location : String)
    {requirements requirements' : List OpenApi.SecurityRequirement}
    (pairs : OpenApi.SimilarRequirements requirements requirements') (index : Nat) :
    Option.Rel (List.Forall₂ List.Perm)
      (collectRequirements schemes location index requirements).toOption
      (collectRequirements schemes location index requirements').toOption := by
  induction pairs generalizing index with
  | nil => exact .some .nil
  | @cons requirement requirement' rest rest' here _ induction =>
      have names := here.permuted.keys_perm
      have undeclared : ((requirement.map (·.1)).find?
          fun name => !(schemes.any (·.name == name))).isSome =
          ((requirement'.map (·.1)).find? fun name => !(schemes.any (·.name == name))).isSome := by
        rw [Bool.eq_iff_iff, List.find?_isSome, List.find?_isSome]
        simp only [names.mem_iff]
      rw [collectRequirements, collectRequirements]
      generalize (requirement.map (·.1)).find? _ = missing,
        (requirement'.map (·.1)).find? _ = missing' at undeclared ⊢
      cases missing with
      | some _ => cases missing' with
        | some _ => exact .none
        | none => cases undeclared
      | none => cases missing' with
        | some _ => cases undeclared
        | none =>
            rw [to_option_bind, to_option_bind]
            apply rel_bind (induction (index + 1))
            intro others others' _ more
            exact .some (.cons names more)

def schemeOf? (specification : Specification)
    (entry : String × OrRef OpenApi.SecurityScheme) : Option SecurityScheme := do
  let scheme ← specification.securityScheme? entry.2
  let kind ← (schemeKind scheme (OpenApi.securitySchemesPlace ++ entry.1)).toOption
  return { name := entry.1, kind }

theorem scheme_of_name {specification : Specification}
    (entry : String × OrRef OpenApi.SecurityScheme) (scheme : SecurityScheme)
    (found : schemeOf? specification entry = some scheme) : scheme.name = entry.1 := by
  obtain ⟨_, _, read⟩ := Option.bind_eq_some_iff.mp found
  obtain ⟨_, _, same⟩ := Option.bind_eq_some_iff.mp read
  cases same
  rfl

/-- An entry is refused for its identifier before it is read, and behind those that are known. -/
theorem collect_schemes_cons (specification : Specification) (known : List SecurityScheme)
    (entry : String × OrRef OpenApi.SecurityScheme)
    (rest : Table (OrRef OpenApi.SecurityScheme)) :
    (collectSchemes specification known (entry :: rest)).toOption =
      if Identifier.exported entry.1 ∈ known.map fun scheme => Identifier.exported scheme.name then
        none
      else (schemeOf? specification entry).bind fun scheme =>
        (collectSchemes specification (known ++ [scheme]) rest).toOption := by
  obtain ⟨name, item⟩ := entry
  rw [collectSchemes]
  cases given : specification.securityScheme? item with
  | none =>
      have missing : schemeOf? specification (name, item) = none := by
        simp only [schemeOf?, given, Option.bind_eq_bind, Option.bind_none]
      rw [missing]
      exact (ite_self none).symm
  | some scheme =>
      dsimp only
      cases found : known.find? fun other =>
          Identifier.exported other.name == Identifier.exported name with
      | some first =>
          rw [if_pos (mem_keys_of_find found)]
          rfl
      | none =>
          rw [if_neg (find_key_eq_none_iff.mp found)]
          simp only [schemeOf?, given, Option.bind_eq_bind, Option.bind_some]
          cases schemeKind scheme (OpenApi.securitySchemesPlace ++ name) <;> rfl

/-- Identifiers of schemes may be compared before any scheme is read. -/
theorem collect_schemes_eq (specification : Specification) (known : List SecurityScheme)
    (table : Table (OrRef OpenApi.SecurityScheme)) :
    (collectSchemes specification known table).toOption =
      if Fresh (known.map fun scheme => Identifier.exported scheme.name)
          (table.map fun entry => Identifier.exported entry.1) then
        (table.mapM (schemeOf? specification)).map (known ++ ·)
      else none := by
  induction table generalizing known with
  | nil =>
      rw [List.map_nil, if_pos Fresh.nil]
      exact congrArg some (List.append_nil known).symm
  | cons entry rest induction =>
      rw [collect_schemes_cons, List.map_cons]
      split
      case isTrue taken => rw [if_neg fun fresh => (Fresh.cons_iff.mp fresh).1 taken]
      case isFalse unknown =>
        rw [if_congr (Fresh.cons_iff.trans (and_iff_right unknown)) rfl rfl, List.mapM_cons]
        cases read : schemeOf? specification entry with
        | none => split <;> rfl
        | some scheme =>
            have others := induction (known ++ [scheme])
            rw [List.map_append, List.map_singleton, scheme_of_name entry scheme read,
              if_congr Fresh.append_singleton_iff rfl rfl] at others
            refine others.trans ?_
            split
            · cases rest.mapM (schemeOf? specification) with
              | none => rfl
              | some schemes => exact congrArg some (List.append_assoc known _ schemes)
            · rfl

variable {specification specification' : Specification}
  (similar : specification.Similar specification')

include similar

/-- Schemes are sorted by their names, so they are the same ones in the same order. -/
theorem security_schemes_eq : (securitySchemesOf specification).toOption =
    (securitySchemesOf specification').toOption := by
  have tables := similar.components.securitySchemes
  have identifiers : (specification.components.securitySchemes.map fun entry =>
      Identifier.exported entry.1).Perm (specification'.components.securitySchemes.map fun entry =>
        Identifier.exported entry.1) :=
    tables.permuted.map_perm fun _ _ keyed => by rw [keyed.key]
  have collected : Option.Rel (Permuted Eq)
      (specification.components.securitySchemes.mapM (schemeOf? specification))
      (specification'.components.securitySchemes.mapM (schemeOf? specification')) := by
    apply tables.permuted.mapM
    rintro _ _ _ ⟨name, known⟩
    apply rel_of_eq
    have found := eq_of_rel
      (OpenApi.follow_similar tables OpenApi.securitySchemesPlace known)
    unfold schemeOf? OpenApi.Specification.securityScheme?
    rw [found]
  have names : ∀ schemes,
      specification.components.securitySchemes.mapM (schemeOf? specification) = some schemes →
        schemes.map (·.name) = specification.components.securitySchemes.map (·.1) :=
    fun _ => mapM_reads scheme_of_name
  unfold securitySchemesOf
  rw [to_option_bind, to_option_bind, collect_schemes_eq, collect_schemes_eq,
    if_congr (Fresh.perm identifiers) rfl rfl]
  generalize specification.components.securitySchemes.mapM (schemeOf? specification) = schemes,
    specification'.components.securitySchemes.mapM (schemeOf? specification') = schemes'
    at collected names ⊢
  cases collected with
  | none => rfl
  | @some schemes schemes' permuted =>
      split
      case isFalse => rfl
      case isTrue =>
        have distinct : (schemes.map (·.name)).Nodup := by
          rw [names schemes rfl]
          exact tables.distinct
        have sorted := permuted.merge_sort (sorts_by distinct) fun _ _ _ _ here there => by
          rw [here, there]
        rw [List.forall₂_eq_eq_eq] at sorted
        exact congrArg some sorted

theorem security_similar (schemes : List SecurityScheme) {operation operation' : OpenApi.Operation}
    (known : operation.Similar operation') (location : String) :
    Option.Rel (List.Forall₂ List.Perm)
      (securityOf specification schemes operation location).toOption
      (securityOf specification' schemes operation' location).toOption := by
  have requirements := rel_or known.security similar.security
  unfold securityOf
  generalize operation.security.or specification.security = stated,
    operation'.security.or specification'.security = stated' at requirements ⊢
  cases requirements with
  | none => exact .some .nil
  | some pairs => exact requirements_similar schemes location pairs 0

end Security

structure StatedOperation.Similar (stated other : StatedOperation) : Prop where
  path : stated.path = other.path
  method : stated.method = other.method
  parameters : List.Forall₂ (OrRef.Similar OpenApi.Parameter.Similar) stated.item.parameters
    other.item.parameters
  operation : stated.operation.Similar other.operation

theorem StatedOperation.Similar.name_eq {stated other : StatedOperation}
    (similar : stated.Similar other) : stated.name = other.name := by
  rw [StatedOperation.name, StatedOperation.name, similar.path, similar.method]

/-- The operations of a path are taken in the order of the methods, those of paths as they stand. -/
theorem stated_operations_permuted {paths paths' : Table OpenApi.PathItem}
    (similar : Table.Similar OpenApi.PathItem.Similar paths paths') :
    Permuted StatedOperation.Similar (statedOperations paths) (statedOperations paths') := by
  apply similar.permuted.flatMap
  rintro _ _ ⟨path, known⟩
  dsimp only
  rw [List.forall₂_map_left_iff, List.forall₂_map_right_iff]
  unfold OpenApi.PathItem.operations
  refine List.rel_filterMap ?_ (List.forall₂_eq_eq_eq ▸ rfl)
  rintro method _ rfl
  exact rel_map (known.operation method) fun _ _ inner => ⟨rfl, rfl, known.parameters, inner⟩

section Operations

variable {specification specification' : Specification}
  (similar : specification.Similar specification') (schemes : List SecurityScheme)

include similar

theorem operation_plan_similar {stated stated' : StatedOperation}
    (known : stated.Similar stated') :
    Plan.Similar Operation.Similar (operationPlan specification schemes stated)
      (operationPlan specification' schemes stated') := by
  have operations := known.operation
  have tags : tagOf stated.operation = tagOf stated'.operation := by
    rw [tagOf, tagOf, operations.tags]
  unfold operationPlan
  dsimp only
  rw [known.name_eq, known.path, known.method, tags, operations.summary, operations.description]
  apply (extensions_similar operations.extensions _).bind
  rintro extensions _ rfl
  apply (parameters_similar similar _ known.parameters operations _ _).bind
  intro parameters parameters' ofParameters
  apply (request_body_similar similar _ operations _).bind
  rintro body _ rfl
  apply (responses_similar similar _ operations _).bind
  intro responses responses' ofResponses
  apply Plan.Similar.bind (.given (security_similar similar schemes operations _))
  intro security security' ofSecurity
  exact .pure ⟨ofParameters, ofResponses, ofSecurity, rfl⟩

/-- Operations are sorted by what their names are made of, so paths may stand in any order. -/
theorem operations_plan_similar {paths paths' : Table OpenApi.PathItem}
    (known : Table.Similar OpenApi.PathItem.Similar paths paths') :
    Plan.Similar (List.Forall₂ Operation.Similar) (operationsPlan specification schemes paths)
      (operationsPlan specification' schemes paths') := by
  have permuted := stated_operations_permuted known
  have names : (operationNames (statedOperations paths)).Perm
      (operationNames (statedOperations paths')) :=
    permuted.map_perm fun _ _ => StatedOperation.Similar.name_eq
  unfold operationsPlan operationPlans
  rw [if_congr (Fresh.perm names) rfl rfl]
  split
  case isFalse => exact .fails
  case isTrue fresh =>
    rw [← Fresh.perm names] at fresh
    apply Plan.Similar.bind_of (.collect_permuted permuted
      fun _ _ _ => operation_plan_similar similar schemes)
    intro operations operations' effects planned order
    refine .pure (order.merge_sort (collected_operations_sort fresh.distinct planned) ?_)
    intro first second first' second' here there
    rw [here.rest, there.rest]
    rfl

end Operations

end ApiScaffold.Blueprint
