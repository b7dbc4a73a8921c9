import ApiScaffold.Blueprint.Assembly
import ApiScaffold.Proofs.ShapeNames

/-!
The names in the shapes of operations: of parameters, bodies, responses and their headers.
-/

namespace ApiScaffold.Blueprint

open OpenApi (Schema OrRef Specification Table MediaType)

section Operations

variable {specification : Specification} {promised names : List String}

theorem nested_item_hands (item : OrRef Schema) (hint location : String)
    (declared : declaredNames specification ⊆ names) :
    Hands promised names (nestedShape specification hint location item) Shape.references := by
  apply nested_shape_hands _ hint location declared
  cases item with
  | reference target => trivial
  | object schema => exact shape_hands schema

theorem reads_from_text_hands (listsAllowed : Bool) (resolved : Shape) :
    Hands promised names (readsFromText listsAllowed resolved) fun _ => [] := by
  unfold readsFromText
  split
  · split
    · apply Hands.bind Hands.resolve
      intro element
      exact Hands.pure (List.nil_subset _)
    · exact Hands.pure (List.nil_subset _)
  · exact Hands.pure (List.nil_subset _)

theorem given_field_hands (name : String) (schema : Option (OrRef Schema)) (required : Bool)
    (hint location : String) (declared : declaredNames specification ⊆ names) :
    Hands promised names (givenField specification name schema required hint location)
      fun field => field.shape.references := by
  cases schema with
  | none => exact Hands.pure (List.nil_subset names)
  | some item =>
      apply Hands.bind (nested_item_hands item hint location declared)
      intro shape
      exact field_hands (List.subset_append_left _ _)

theorem scalar_of_hands (name : String) (required : Bool) (location : String) (listsAllowed : Bool)
    {field : Field Shape} (usable : field.shape.references ⊆ names) :
    Hands promised names (scalarOf name required location listsAllowed field)
      fun field => field.shape.references := by
  unfold scalarOf
  simp only [Drafting.fail_bind]
  apply Hands.bind Hands.resolve
  intro resolved
  apply Hands.bind (reads_from_text_hands listsAllowed resolved)
  intro readable
  split
  · exact Hands.fail rfl
  · exact Hands.pure usable

theorem scalar_field_hands (name : String) (schema : Option (OrRef Schema)) (required : Bool)
    (hint location : String) (listsAllowed : Bool)
    (declared : declaredNames specification ⊆ names) :
    Hands promised names
      (scalarField specification name schema required hint location listsAllowed)
      fun field => field.shape.references := by
  rw [scalar_field_of_given]
  apply Hands.bind (given_field_hands name schema required hint _ declared)
  intro field
  exact scalar_of_hands name required _ listsAllowed (List.subset_append_left _ _)

theorem parameter_hands (operation identifier : String) (place : Place) (stated : StatedParameter)
    (declared : declaredNames specification ⊆ names) :
    Hands promised names (parameterAt specification operation identifier place stated)
      fun parameter => parameter.field.shape.references := by
  unfold parameterAt
  apply Hands.bind (scalar_field_hands _ _ _ _ _ _ declared)
  intro plain
  apply Hands.bind (Hands.lift_nameless (read_extensions_fails _ _))
  intro extensions
  have usable : (extendField plain stated.parameter extensions).shape.references ⊆
      plain.shape.references ++ names := List.subset_append_left _ _
  dsimp only
  split
  · apply Hands.bind Hands.check_text_later
    intro _
    exact Hands.pure usable
  · exact Hands.pure usable

def parameterReferences (parameters : List Parameter) : List String :=
  parameters.flatMap fun parameter => parameter.field.shape.references

def contentReferences (contents : List BodyContent) : List String :=
  contents.flatMap fun content => content.shape.references

def headerReferences (headers : List ResponseHeader) : List String :=
  headers.flatMap fun header => header.field.shape.references

theorem collect_parameters_hands (operation : String) (known : List (Place × String))
    (stated : List StatedParameter) (declared : declaredNames specification ⊆ names) :
    Hands promised names (collectParameters specification operation known stated)
      parameterReferences := by
  induction stated generalizing known names with
  | nil => exact Hands.pure (List.nil_subset names)
  | cons first rest induction =>
      rw [collectParameters]
      simp only [Drafting.fail_bind, Drafting.throw_bind]
      split
      · apply Hands.bind Hands.warn
        intro _
        exact induction known declared
      · split
        · exact Hands.fail rfl
        split
        · exact Hands.throw rfl
        · apply Hands.bind (parameter_hands operation _ _ first declared)
          intro lowered
          apply Hands.bind
          · exact induction _ (List.subset_append_of_subset_right _ declared)
          · intro others
            apply Hands.pure
            unfold parameterReferences
            rw [List.flatMap_cons]
            exact subset_after_last _ _ _

theorem parameters_hands (name : String) (item : OpenApi.PathItem) (operation : OpenApi.Operation)
    (pathLocation location : String) (declared : declaredNames specification ⊆ names) :
    Hands promised names (parametersOf specification name item operation pathLocation location)
      parameterReferences := by
  apply Hands.bind (Hands.lift_nameless (stated_parameters_fails _ _ _))
  intro stated
  exact collect_parameters_hands name [] stated declared

theorem content_shape_hands (component contentType location : String) (mediaType : MediaType)
    (declared : declaredNames specification ⊆ names) :
    Hands promised names (contentShape specification component contentType location mediaType)
      Shape.references := by
  unfold contentShape
  split
  · exact reference_shape_hands declared
  · rename_i schema _
    apply Hands.bind (shape_hands schema promised names .declared component location declared)
    intro shape
    apply Hands.bind (Hands.lift_nameless (read_extensions_fails _ _))
    intro extensions
    have usable : shape.references ⊆ [] ++ (shape.references ++ names) :=
      List.subset_append_left _ _
    apply Hands.bind (Hands.register usable)
    intro _
    exact Hands.pure (List.subset_append_left _ _)
  · apply Hands.bind
    · apply Hands.register
      dsimp only
      split <;> exact List.nil_subset names
    · intro _
      exact Hands.pure (List.subset_append_left _ _)

theorem collect_contents_hands (componentName : String → String) (location : String)
    (known : List BodyContent) (content : Table MediaType)
    (declared : declaredNames specification ⊆ names) (usable : contentReferences known ⊆ names) :
    Hands promised names (collectContents specification componentName location known content)
      contentReferences := by
  induction content generalizing known names with
  | nil => exact Hands.pure usable
  | cons entry rest induction =>
      obtain ⟨contentType, mediaType⟩ := entry
      rw [collectContents]
      simp only [Drafting.fail_bind]
      split
      · exact Hands.throw rfl
      · apply Hands.bind (content_shape_hands _ contentType _ mediaType declared)
        intro shape
        apply Hands.bind Hands.resolve
        intro resolved
        split
        · exact Hands.fail rfl
        · have more : contentReferences
              (known ++ [⟨contentType, Identifier.ofContentType contentType, shape⟩]) ⊆
              [] ++ (shape.references ++ names) := by
            unfold contentReferences
            rw [List.flatMap_append, List.flatMap_singleton]
            exact List.append_subset.mpr
              ⟨List.subset_append_of_subset_right shape.references usable,
                List.subset_append_left shape.references names⟩
          exact (induction _ (List.subset_append_of_subset_right _ declared) more).weaken
            fun _ => List.subset_append_left _ _

theorem contents_hands (content : Table MediaType) (componentName : String → String)
    (location : String) (declared : declaredNames specification ⊆ names) :
    Hands promised names (contentsOf specification content componentName location)
      contentReferences :=
  collect_contents_hands componentName location [] _ declared (List.nil_subset names)

def bodyReferences : Option RequestBody → List String
  | none => []
  | some body => contentReferences body.contents

theorem request_body_hands (name : String) (operation : OpenApi.Operation) (location : String)
    (declared : declaredNames specification ⊆ names) :
    Hands promised names (requestBodyOf specification name operation location) bodyReferences := by
  unfold requestBodyOf
  split
  · exact Hands.pure (List.nil_subset names)
  · dsimp only
    split
    · exact Hands.fail rfl
    · apply Hands.bind (contents_hands _ _ _ declared)
      intro contents
      apply Hands.pure
      split
      · exact List.nil_subset _
      · exact List.subset_append_left _ _

theorem headers_hands (hint location : String) (headers : Table (OrRef OpenApi.Header))
    (declared : declaredNames specification ⊆ names) :
    Hands promised names (headersOf specification hint location headers) headerReferences := by
  induction headers generalizing names with
  | nil => exact Hands.pure (List.nil_subset names)
  | cons entry rest induction =>
      rw [headersOf]
      dsimp only
      split
      · exact Hands.fail rfl
      · apply Hands.bind (scalar_field_hands _ _ _ _ _ _ declared)
        intro field
        apply Hands.bind (induction (List.subset_append_of_subset_right _ declared))
        intro others
        apply Hands.pure
        unfold headerReferences
        rw [List.flatMap_cons]
        exact subset_after_last _ _ _

def responseReferences (responses : List Response) : List String :=
  responses.flatMap fun response =>
    contentReferences response.contents ++ headerReferences response.headers

theorem response_hands (name location : String) (status : Status) (response : OpenApi.Response)
    (declared : declaredNames specification ⊆ names) :
    Hands promised names (responseAt specification name location status response)
      fun response => responseReferences [response] := by
  apply Hands.bind (contents_hands _ _ _ declared)
  intro contents
  apply Hands.bind (headers_hands _ _ _ (List.subset_append_of_subset_right _ declared))
  intro headers
  apply Hands.pure
  unfold responseReferences
  rw [List.flatMap_singleton]
  exact subset_after_last _ _ _

theorem collect_responses_hands (name location : String) (known : List Response)
    (responses : Table (OrRef OpenApi.Response)) (declared : declaredNames specification ⊆ names)
    (usable : responseReferences known ⊆ names) :
    Hands promised names (collectResponses specification name location known responses)
      responseReferences := by
  induction responses generalizing known names with
  | nil => exact Hands.pure usable
  | cons entry rest induction =>
      rw [collectResponses]
      simp only [Drafting.throw_bind]
      split
      · exact Hands.fail rfl
      split
      · exact Hands.throw rfl
      split
      · exact Hands.fail rfl
      · apply Hands.bind (response_hands _ _ _ _ declared)
        intro lowered
        have more : responseReferences (known ++ [lowered]) ⊆
            responseReferences [lowered] ++ names := by
          have split : responseReferences (known ++ [lowered]) =
              responseReferences known ++ responseReferences [lowered] := List.flatMap_append
          rw [split]
          exact List.append_subset.mpr
            ⟨List.subset_append_of_subset_right _ usable, List.subset_append_left _ _⟩
        exact (induction _ (List.subset_append_of_subset_right _ declared) more).weaken
          fun _ => List.subset_append_left _ _

theorem responses_hands (name : String) (operation : OpenApi.Operation) (location : String)
    (declared : declaredNames specification ⊆ names) :
    Hands promised names (responsesOf specification name operation location)
      responseReferences := by
  apply Hands.bind
  · exact collect_responses_hands _ _ [] _ declared (List.nil_subset names)
  · intro responses
    apply Hands.pure
    apply List.subset_append_of_subset_left
    intro name member
    obtain ⟨response, listed, inside⟩ := List.mem_flatMap.mp member
    exact List.mem_flatMap.mpr ⟨response, (List.mergeSort_perm _ _).mem_iff.mp listed, inside⟩

def operationReferences (operation : Operation) : List String :=
  parameterReferences operation.parameters ++ bodyReferences operation.requestBody ++
    responseReferences operation.responses

theorem operation_hands (schemes : List SecurityScheme) (stated : StatedOperation)
    (declared : declaredNames specification ⊆ names) :
    Hands promised names (operationOf specification schemes stated) operationReferences := by
  have further (more : List String) : declaredNames specification ⊆ more ++ names :=
    List.subset_append_of_subset_right more declared
  apply Hands.bind (Hands.lift_nameless (read_extensions_fails _ _))
  intro extensions
  apply Hands.bind (parameters_hands _ _ _ _ _ declared)
  intro parameters
  apply Hands.bind (request_body_hands _ _ _ (further _))
  intro body
  apply Hands.bind (responses_hands _ _ _ (List.subset_append_of_subset_right _ (further _)))
  intro responses
  apply Hands.bind (Hands.lift_nameless (security_fails _ _ _ _))
  intro security
  apply Hands.pure
  intro name member
  simp only [operationReferences, List.nil_append, List.mem_append] at member ⊢
  rcases member with (parameter | body) | response
  · exact .inr (.inr (.inl parameter))
  · exact .inr (.inl body)
  · exact .inl response

def operationsReferences (operations : List Operation) : List String :=
  operations.flatMap operationReferences

theorem collect_operations_hands (schemes : List SecurityScheme) (known : List (String × String))
    (stated : List StatedOperation) (declared : declaredNames specification ⊆ names) :
    Hands promised names (collectOperations specification schemes known stated)
      fun collected => operationsReferences collected.2 := by
  induction stated generalizing known names with
  | nil => exact Hands.pure (List.nil_subset names)
  | cons first rest induction =>
      rw [collectOperations]
      dsimp only
      split
      · exact Hands.throw (by rfl)
      · apply Hands.bind (Hands.attributing (operation_hands schemes first declared))
        intro operation
        apply Hands.bind (induction _ (List.subset_append_of_subset_right _ declared))
        rintro ⟨knownNow, others⟩
        apply Hands.pure
        unfold operationsReferences
        rw [List.flatMap_cons]
        exact subset_after_last _ _ _

theorem collect_paths_hands (schemes : List SecurityScheme) (known : List (String × String))
    (paths : Table OpenApi.PathItem) (declared : declaredNames specification ⊆ names) :
    Hands promised names (collectPaths specification schemes known paths)
      operationsReferences := by
  induction paths generalizing known names with
  | nil => exact Hands.pure (List.nil_subset names)
  | cons entry rest induction =>
      have following (stated : List StatedOperation) (more : List String) :
          Hands promised (more ++ names) (do
            let collected ← collectOperations specification schemes known stated
            return collected.2 ++ (← collectPaths specification schemes collected.1 rest))
            operationsReferences := by
        apply Hands.bind
        · exact collect_operations_hands schemes known stated
            (List.subset_append_of_subset_right _ declared)
        · rintro ⟨knownNow, operations⟩
          apply Hands.bind
          · exact induction knownNow
              (List.subset_append_of_subset_right _ (List.subset_append_of_subset_right _ declared))
          · intro others
            apply Hands.pure
            have split : operationsReferences (operations ++ others) =
                operationsReferences operations ++ operationsReferences others :=
              List.flatMap_append
            rw [split]
            exact subset_after_last _ _ _
      rw [collectPaths]
      dsimp only
      split
      · apply Hands.bind Hands.warn
        intro _
        exact following _ []
      · exact following _ []

theorem operations_hands (schemes : List SecurityScheme)
    (declared : declaredNames specification ⊆ names) :
    Hands promised names (operationsOf specification schemes) operationsReferences := by
  apply Hands.bind (collect_paths_hands schemes [] _ declared)
  intro operations
  apply Hands.pure
  apply List.subset_append_of_subset_left
  intro name member
  obtain ⟨operation, listed, inside⟩ := List.mem_flatMap.mp member
  exact List.mem_flatMap.mpr ⟨operation, (List.mergeSort_perm _ _).mem_iff.mp listed, inside⟩

end Operations

end ApiScaffold.Blueprint
