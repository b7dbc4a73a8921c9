import ApiScaffold.Proofs.RequestScope
import ApiScaffold.Server.Artifact

/-!
The file of the router refers to nothing that is not declared: neither its own names nor those of
components.
-/

namespace ApiScaffold.Server

open Blueprint Go Source

variable {components own : List String} {packages : String → Prop}

theorem reply_in_scope : Reply.part.InScope [] [] (· ∈ Package.runtime) := by
  constructor
  · decide
  · decide

theorem hooks_in_scope : Hooks.part.InScope Outcome.names [] (· ∈ Package.runtime) := by
  constructor
  · decide
  · decide

theorem security_checks_in_scope :
    InScope Outcome.names [] (· ∈ Package.runtime)
      ([Security.checkSecurity, Security.checkAlternative, Security.runProcessor].flatMap
        fun declaration => declaration.form.names) := by
  decide

theorem security_types_in_scope :
    InScope [] [] (· ∈ Package.runtime)
      (Security.types.flatMap fun declaration => declaration.form.names) := by
  decide

/-- The constants of all schemes are declared, the extractors of those whose credential is read. -/
theorem security_declared (schemes : List SecurityScheme) :
    (Security.part schemes).declares.map (·.1) =
      Security.names ++ schemes.map Security.constant ++
        (schemes.filter Security.isExtractable).map Security.extractor := by
  have owned (owner : String) (names : List String) :
      (names.map (·, owner)).map (·.1) = names := by
    rw [List.map_map]
    exact List.map_id names
  have each (known : List SecurityScheme) (name : SecurityScheme → String) :
      (known.map fun scheme => (name scheme, Security.owner scheme)).map (·.1) =
        known.map name := by
    rw [List.map_map]
    exact List.map_congr_left fun _ _ => rfl
  unfold Security.part
  dsimp only
  rw [List.map_append, List.map_append, owned, each, each]

section Provided

variable [Package.Provided packages]

/-- The checks of security use the constant and the extractor of every scheme. -/
theorem security_in_scope {schemes : List SecurityScheme} (runtime : Outcome.names ⊆ components)
    (declared : (Security.part schemes).declares.map (·.1) ⊆ own) :
    (Security.part schemes).InScope components own packages := by
  rw [security_declared] at declared
  have result : "RequestProcessingResult" ∈ components := runtime (by decide)
  have constants : ∀ scheme ∈ schemes, Security.constant scheme ∈ own :=
    fun scheme member => declared
      (List.mem_append_left _ (List.mem_append_right _ (List.mem_map_of_mem member)))
  have extractors : ∀ scheme ∈ schemes.filter Security.isExtractable,
      Security.extractor scheme ∈ own :=
    fun scheme member => declared (List.mem_append_right _ (List.mem_map_of_mem member))
  have rows : ∀ scheme ∈ schemes.filter Security.isExtractable,
      ∀ cell ∈ Security.processorRow scheme, InScope components own packages cell := by
    intro scheme member
    have constant := constants scheme (List.mem_filter.mp member).1
    simp [Security.processorRow, constant, extractors scheme member]
  have extraction : ∀ kind : SchemeKind,
      InScope components own packages (Statement.names (Security.extraction kind)) := by
    intro kind
    unfold Security.extraction
    split <;> simp [Security.authorization, Security.keyedValue, Security.cookieValue]
  constructor
  · simp [Security.part, Reply.http, Hooks.result, result]
  · simp only [Security.part, Part.names, List.flatMap_append, List.flatMap_cons,
      List.flatMap_nil, InScope.append_iff]
    refine ⟨⟨⟨⟨?_, ?_⟩, ?_, ?_, InScope.nil_iff.mpr trivial⟩, ?_⟩, ?_⟩
    · exact security_types_in_scope.mono (List.nil_subset _) (List.nil_subset _)
        Package.Provided.provides
    · split
      · exact InScope.nil_iff.mpr trivial
      · simp [Form.names, Entry.names, Security.constantEntry]
    · simp only [Form.names, Security.schemas, List.flatMap_singleton, List.flatMap_map,
        InScope.flat_map_iff]
      intro scheme _
      simp [Security.request, Reply.http]
    · simp only [Form.names, Security.processors, InScope.append_iff]
      constructor
      · simp
      · split
        · simp
        · rw [Statement.names_when, Statement.names_listing]
          simp only [InScope.append_iff, InScope.flat_map_iff]
          refine ⟨⟨by simp, by simp⟩, ⟨⟨by simp, ?_⟩, by simp⟩, by simp⟩
          intro cell member
          obtain ⟨row, listed, inside⟩ := List.mem_flatten.mp member
          obtain ⟨scheme, known, rfl⟩ := List.mem_map.mp listed
          exact (InScope.names_of_iff cell).mpr (rows scheme known cell inside)
    · rw [List.flatMap_map, InScope.flat_map_iff]
      intro scheme _
      simp [Security.extractorFunction, Form.names, Security.request, Reply.http, extraction]
    · have checks := security_checks_in_scope.mono runtime (List.nil_subset own)
        (Package.Provided.provides : ∀ path ∈ Package.runtime, packages path)
      simpa using checks

end Provided

def responseCode (operation : Operation) : Code :=
  operation.responses.flatMap fun response =>
    (response.headers.flatMap fun header => (typeOf header.field.shape).code) ++
    response.contents.flatMap fun content => (typeOf content.shape).code

namespace Builder

variable {program : Program} {operation : Operation}

theorem step_in_scope {stage method next : String} {parameters : Code} {body : List Statement}
    (known : next ∈ own) (inside : InScope components own packages parameters)
    (statements : InScope components own packages (Statement.names body)) :
    InScope components own packages (step stage method parameters next body).form.names := by
  simp [step, Form.names, handOn, known, inside, statements]

theorem stage_type_in_scope (stage : String) :
    InScope components own packages (stageType stage).form.names := by
  simp [stageType, Form.names, Entry.names]

theorem build_in_scope (stage : String) (interface' : interface operation ∈ own)
    (wrapper' : wrapper operation ∈ own) :
    InScope components own packages (build operation stage).form.names := by
  simp [build, Form.names, interface', wrapper']

theorem start_part_in_scope (declared : (startPart operation).declares.map (·.1) ⊆ own) :
    (startPart operation).InScope components own packages := by
  simp only [startPart, List.map_cons, List.map_nil, List.cons_subset] at declared
  obtain ⟨-, -, -, start', -⟩ := declared
  constructor
  · exact InScope.nil_iff.mpr trivial
  · simp [startPart, Part.names, Form.names, Entry.names, stageType, start']

theorem status_part_in_scope {response : Response}
    (declared : (statusPart operation response).declares.map (·.1) ⊆ own) :
    (statusPart operation response).InScope components own packages := by
  simp only [statusPart, List.map_cons, List.map_nil, List.cons_subset] at declared
  obtain ⟨stage, -⟩ := declared
  constructor
  · exact InScope.nil_iff.mpr trivial
  · simp only [statusPart, Part.names, List.flatMap_cons, List.flatMap_nil, InScope.append_iff]
    refine ⟨?_, stage_type_in_scope _, InScope.nil_iff.mpr trivial⟩
    exact step_in_scope stage (by simp) (by simp)

theorem header_type_in_scope {header : ResponseHeader} (runtime : "Optional" ∈ components)
    (usable : InScope components own packages (typeOf header.field.shape).code) :
    InScope components own packages (headerType program header).code := by
  unfold headerType scalarFieldType
  split
  · exact usable
  · exact optional_in_scope runtime usable

theorem content_part_in_scope {status : Status} {stage : String} {content : BodyContent}
    (usable : InScope components own packages (typeOf content.shape).code)
    (interface' : interface operation ∈ own) (wrapper' : wrapper operation ∈ own)
    (declared : (contentPart operation status stage content).declares.map (·.1) ⊆ own) :
    (contentPart operation status stage content).InScope components own packages := by
  simp only [contentPart, List.map_cons, List.map_nil, List.cons_subset] at declared
  obtain ⟨body, final, -⟩ := declared
  constructor
  · exact usable.any
  · simp only [contentPart, Part.names, List.flatMap_cons, List.flatMap_nil, InScope.append_iff]
    refine ⟨?_, stage_type_in_scope _, ?_, stage_type_in_scope _,
      build_in_scope _ interface' wrapper', InScope.nil_iff.mpr trivial⟩
    · exact step_in_scope body (by simp) (by simp)
    · exact step_in_scope final (by simp [usable]) (by simp)

variable [Package.Provided packages]

theorem primitive_text_in_scope (kind : PrimitiveKind) {value : Code}
    (inside : InScope components own packages value) :
    InScope components own packages (primitiveText kind value) := by
  cases kind <;> simp [primitiveText, call, inside]

theorem text_in_scope (resolved : Shape) {value : Code}
    (inside : InScope components own packages value) :
    InScope components own packages (textOf resolved value) := by
  unfold textOf
  split
  · split <;> simp [call, inside]
  · exact primitive_text_in_scope _ inside
  · simp [call, inside]

theorem header_text_in_scope (header : ResponseHeader) :
    InScope components own packages (headerText program header) := by
  apply text_in_scope
  simp

theorem header_statement_in_scope (header : ResponseHeader) :
    InScope components own packages (Statement.names [headerStatement program header]) := by
  have text : InScope components own packages (headerText program header) :=
    header_text_in_scope header
  unfold headerStatement
  dsimp only
  split <;> simp [text]

theorem headers_part_in_scope {response : Response} (runtime : "Optional" ∈ components)
    (usable : ∀ header ∈ response.headers,
      InScope components own packages (typeOf header.field.shape).code)
    (declared : (headersPart program operation response).declares.map (·.1) ⊆ own) :
    (headersPart program operation response).InScope components own packages := by
  simp only [headersPart, List.map_cons, List.map_nil, List.cons_subset] at declared
  obtain ⟨struct, next, -⟩ := declared
  have types : ∀ header ∈ response.headers,
      InScope components own packages (headerType program header).code :=
    fun header member => header_type_in_scope runtime (usable header member)
  have texts : ∀ headers : List ResponseHeader, InScope components own packages
      (Statement.names (headers.map (headerStatement program))) := by
    intro headers
    induction headers with
    | nil => simp
    | cons header rest induction =>
        rw [List.map_cons, ← List.singleton_append, Statement.names_append, InScope.append_iff]
        exact ⟨header_statement_in_scope header, induction⟩
  constructor
  · simp only [headersPart, InScope.flat_map_iff, InScope.append_iff]
    exact fun header member => ⟨(types header member).any, header_text_in_scope header⟩
  · simp only [headersPart, Part.names, List.flatMap_cons, List.flatMap_nil, InScope.append_iff]
    refine ⟨?_, ?_, stage_type_in_scope _, InScope.nil_iff.mpr trivial⟩
    · simpa [Form.names, Entry.names] using types
    · apply step_in_scope next
      · simp [struct]
      · simp [texts]

section Responses

variable (wellFormed : program.WellFormed) (listed : operation ∈ program.operations)
  (packaged : ∀ fragment ∈ responseCode operation, fragment.PackagedIn packages)
  (interface' : interface operation ∈ own) (wrapper' : wrapper operation ∈ own)

include wellFormed listed packaged interface' wrapper'

/-- A response refers to the components of its headers and contents and to the stages that it
declares. -/
theorem response_part_in_scope {response : Response} (member : response ∈ operation.responses)
    (declared : (responsePart program operation response).declares.map (·.1) ⊆ own) :
    (responsePart program operation response).InScope (componentsDeclared program) own packages := by
  unfold responsePart at declared ⊢
  dsimp only at declared ⊢
  rw [Part.declares_append, Part.declares_append, List.map_append, List.map_append,
    List.append_subset, List.append_subset] at declared
  obtain ⟨⟨status, headers⟩, contents⟩ := declared
  apply Part.InScope.append (Part.InScope.append (status_part_in_scope status) _) _
  · split
    · rename_i present
      rw [if_pos present] at headers
      apply headers_part_in_scope (runtime_declared program (by decide)) _ headers
      intro header inside
      apply InScope.of_packaged (shape_type_in_scope
        (references_declared wellFormed (.header listed member inside)))
      intro fragment here
      exact packaged fragment (List.mem_flatMap.mpr ⟨response, member,
        List.mem_append_left _ (List.mem_flatMap.mpr ⟨header, inside, here⟩)⟩)
    · exact Part.InScope.empty
  · split
    · constructor
      · exact InScope.nil_iff.mpr trivial
      · simp only [Part.names, List.flatMap_singleton]
        exact build_in_scope _ interface' wrapper'
    · rename_i filled
      rw [if_neg filled, Part.declares_join] at contents
      apply Part.InScope.join
      intro part stated
      obtain ⟨content, inside, rfl⟩ := List.mem_map.mp stated
      have usable : InScope (componentsDeclared program) own packages
          (typeOf content.shape).code := by
        apply InScope.of_packaged (shape_type_in_scope
          (references_declared wellFormed (.response listed member inside)))
        intro fragment here
        exact packaged fragment (List.mem_flatMap.mpr ⟨response, member,
          List.mem_append_right _ (List.mem_flatMap.mpr ⟨content, inside, here⟩)⟩)
      apply content_part_in_scope usable interface' wrapper'
      intro name known
      obtain ⟨entry, here, rfl⟩ := List.mem_map.mp known
      exact contents (List.mem_map_of_mem (List.mem_flatMap.mpr ⟨_, stated, here⟩))

end Responses

theorem interface_declared (operation : Operation) :
    interface operation ∈ (startPart operation).declares.map (·.1) := by
  simp [startPart]

theorem wrapper_declared (operation : Operation) :
    wrapper operation ∈ (startPart operation).declares.map (·.1) := by
  simp [startPart]

theorem part_in_scope (wellFormed : program.WellFormed) (listed : operation ∈ program.operations)
    (packaged : ∀ fragment ∈ responseCode operation, fragment.PackagedIn packages)
    (declared : (part program operation).declares.map (·.1) ⊆ own) :
    (part program operation).InScope (componentsDeclared program) own packages := by
  unfold part at declared ⊢
  rw [Part.declares_append, List.map_append, List.append_subset, Part.declares_join] at declared
  obtain ⟨first, others⟩ := declared
  apply Part.InScope.append (start_part_in_scope first)
  apply Part.InScope.join
  intro part stated
  obtain ⟨response, member, rfl⟩ := List.mem_map.mp stated
  apply response_part_in_scope wellFormed listed packaged (first (interface_declared operation))
    (first (wrapper_declared operation)) member
  intro name known
  obtain ⟨entry, here, rfl⟩ := List.mem_map.mp known
  exact others (List.mem_map_of_mem (List.mem_flatMap.mpr ⟨_, stated, here⟩))

end Builder

namespace Service

/-- What a router uses of its operations: the types of their requests, their parsers and the
interfaces of their responses. -/
structure Known (own : List String) (operation : Operation) : Prop where
  requests : ∀ variant ∈ RequestVariant.ofOperation operation,
    variant.typeName ∈ own ∧ variant.parser ∈ own
  responses : Builder.interface operation ∈ own

theorem parser_call_in_scope {variant : RequestVariant} (known : variant.parser ∈ own) :
    InScope components own packages (parserCall variant) := by
  simp [parserCall, known]

theorem mount_in_scope (tag : String) (operations : List Operation) :
    InScope components own packages (mountMethod tag operations).form.names := by
  have actions : ∀ operation : Operation, ∀ route ∈ Route.ofOperation operation,
      InScope components own packages route.action := by
    intro operation route member
    unfold Route.ofOperation at member
    dsimp only at member
    split at member
    · cases List.mem_singleton.mp member
      simp
    · rcases List.mem_pair.mp member with rfl | rfl <;> simp
  have lines : ∀ routes : List Route,
      (∀ route ∈ routes, InScope components own packages route.action) →
      InScope components own packages (Statement.names (routes.map Route.statement)) := by
    intro routes inside
    induction routes with
    | nil => exact InScope.nil_iff.mpr trivial
    | cons route rest induction =>
        obtain ⟨first, others⟩ := List.forall_mem_cons.mp inside
        rw [List.map_cons, Route.statement, Statement.names_plain, InScope.append_iff]
        exact ⟨by simp [first], induction others⟩
  simp only [mountMethod, Form.names, InScope.append_iff]
  constructor
  · simp
  · apply lines
    intro route member
    obtain ⟨operation, _, listed⟩ := List.mem_flatMap.mp member
    exact actions operation route listed

variable [Package.Provided packages]

theorem interface_in_scope {tag : String} {operations : List Operation}
    (known : ∀ operation ∈ operations, Known own operation) :
    InScope components own packages (interface tag operations).form.names := by
  simp only [interface, Form.names, List.flatMap_map, InScope.flat_map_iff, InScope.names_of_iff]
  intro operation member variant listed
  have request : variant.typeName ∈ own := ((known operation member).requests variant listed).1
  simp [serviceMethod, request, (known operation member).responses]

theorem response_statements_in_scope {operation : Operation} (known : Known own operation) :
    InScope components own packages (Statement.names (responseStatements operation)) := by
  have calls : ∀ variant ∈ RequestVariant.ofOperation operation,
      InScope components own packages (parserCall variant) :=
    fun variant member => parser_call_in_scope (known.requests variant member).2
  unfold responseStatements
  split
  · rename_i variant only
    rw [only] at calls
    simp [calls variant List.mem_cons_self]
  · have branches : ∀ variant ∈ RequestVariant.ofOperation operation,
        InScope components own packages (namesOf (variantBranch variant).1 ++
          Statement.names (variantBranch variant).2) := by
      intro variant member
      simp [variantBranch, calls variant member]
    simp only [Statement.names_define, Statement.names_zeroed, Statement.names_cases,
      InScope.append_iff, InScope.names_of_iff, List.flatMap_map, InScope.flat_map_iff]
    refine ⟨by simp, ?_, ⟨⟨by simp, ?_⟩, ?_⟩, by simp⟩
    · simp [known.responses]
    · exact fun variant member => InScope.append_iff.mp (branches variant member) |>.imp
        (InScope.names_of_iff _).mp id
    · simp [Reply.http]

theorem handler_part_in_scope {tag : String} {operation : Operation}
    (known : Known own operation) : (handlerPart tag operation).InScope components own packages := by
  have response : InScope components own packages (Statement.names (responseStatements operation)) :=
    response_statements_in_scope known
  constructor
  · unfold handlerPart
    dsimp only
    split <;> simp
  · simp only [handlerPart, Part.names, List.flatMap_singleton, handlerMethod, Form.names,
      Statement.names_append, InScope.append_iff]
    refine ⟨?_, response, ?_⟩
    · simp [handlerSignature, Reply.writerAndRequest, Reply.http]
    · simp [callRouterHook]

theorem part_in_scope {tag : String} {operations : List Operation}
    (known : ∀ operation ∈ operations, Known own operation) :
    (part tag operations).InScope components own packages := by
  have service : InScope components own packages (interface tag operations).form.names :=
    interface_in_scope known
  have mounts : InScope components own packages (mountMethod tag operations).form.names :=
    mount_in_scope tag operations
  apply Part.InScope.append
  · constructor
    · simp
    · simp only [Part.names, List.flatMap_cons, List.flatMap_nil, InScope.append_iff]
      refine ⟨service, ?_, ?_, ?_, mounts, InScope.nil_iff.mpr trivial⟩
      · simp [routerType, Form.names, Entry.names]
      · simp [routerConstructor, Form.names, Reply.http]
      · simp [serveMethod, Form.names, handlerSignature, Reply.writerAndRequest, Reply.http]
  · apply Part.InScope.join
    intro part listed
    obtain ⟨operation, member, rfl⟩ := List.mem_map.mp listed
    exact handler_part_in_scope (known operation member)

end Service

end ApiScaffold.Server
