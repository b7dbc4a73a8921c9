import ApiScaffold.Proofs.ComponentNames
import ApiScaffold.Proofs.ShortDocuments
import ApiScaffold.Proofs.SpeltNames

/-!
Which names of a document give identifiers. Only a few separators are left out of a name, so whatever
else stands in it comes to stand in declarations: in those of the components, and in those of the
router, which names types, members, methods and variables after operations, tags, parameters, headers,
contents and security schemes.
-/

namespace ApiScaffold.Blueprint

open Go (IsIdentifier IsWord Plain words_plain number_plain)

structure Operation.Spelt (operation : Operation) : Prop where
  name : IsIdentifier operation.name
  tag : IsIdentifier operation.tag
  parameters : ∀ parameter ∈ operation.parameters,
    IsIdentifier (Identifier.exported parameter.name)
  /-- One of several contents is told apart by its tag, and one without a reference is a component
  that is named after it. -/
  requests : ∀ content ∈ operation.bodyContents, 1 < operation.bodyContents.length ∨
    content.shape = .named (operation.name ++ content.tag ++ "RequestBody") → IsWord content.tag
  responses : ∀ response ∈ operation.responses, ∀ content ∈ response.contents,
    IsIdentifier content.tag
  headers : ∀ response ∈ operation.responses, ∀ header ∈ response.headers,
    IsIdentifier (Identifier.exported header.name)

/-- What the names of a program are made of; `keys` are those of the schemas that are declared. -/
structure Program.Spelt (program : Program) (keys : List String) : Prop where
  schemas : ∀ key ∈ keys, IsIdentifier (Identifier.exported key)
  fields : ∀ component ∈ program.components.values,
    ∀ identifier ∈ fieldIdentifiers component.shape.fields, IsIdentifier identifier
  members : ∀ component ∈ program.components.values, ∀ member ∈ component.shape.members,
    IsWord member.tag
  operations : ∀ operation ∈ program.operations, operation.Spelt
  schemes : ∀ scheme ∈ program.securitySchemes, IsWord (Identifier.exported scheme.name)

structure Operation.Steady (operation : Operation) : Prop where
  name : Go.Steady operation.name
  parameters : ∀ parameter ∈ operation.parameters, Go.Steady (Identifier.exported parameter.name)
  requests : ∀ content ∈ operation.bodyContents, Go.Steady content.tag
  responses : ∀ response ∈ operation.responses, ∀ content ∈ response.contents,
    Go.Steady content.tag
  headers : ∀ response ∈ operation.responses, ∀ header ∈ response.headers,
    Go.Steady (Identifier.exported header.name)

/-- The names of a program keep their letters in camel case. -/
structure Program.Steady (program : Program) (keys : List String) : Prop where
  schemas : ∀ key ∈ keys, Go.Steady (Identifier.exported key)
  fields : ∀ component ∈ program.components.values,
    ∀ identifier ∈ fieldIdentifiers component.shape.fields, Go.Steady identifier
  operations : ∀ operation ∈ program.operations, operation.Steady
  schemes : ∀ scheme ∈ program.securitySchemes, Go.Steady (Identifier.exported scheme.name)

theorem Program.mem_tags_keys {program : Program} {tag : String} :
    tag ∈ program.tags.keys ↔ ∃ operation ∈ program.operations, operation.tag = tag := by
  have kept (operations : List Operation) (tags : Registry (List Operation)) :
      tag ∈ Registry.keys (operations.foldl (fun tags operation => tags.insert operation.tag
        ((tags.find? operation.tag).getD [] ++ [operation])) tags) ↔
        tag ∈ tags.keys ∨ ∃ operation ∈ operations, operation.tag = tag := by
    induction operations generalizing tags with
    | nil => simp
    | cons operation rest induction =>
        rw [List.foldl_cons, induction, Registry.mem_keys_insert, @eq_comm _ tag]
        simp only [List.mem_cons, or_and_right, exists_or, exists_eq_left]
        rw [or_assoc, or_left_comm]
  rw [tags, kept]
  exact or_iff_right List.not_mem_nil

theorem label_plain (status : Status) : Plain status.label := by
  cases status with
  | code value => exact number_plain value
  | range leading => exact (number_plain leading).append (words_plain "XX" (by decide))
  | default => exact words_plain "Default" (by decide)

theorem title_plain (place : Place) : Plain place.title := by
  cases place <;> exact words_plain _ (by decide)

theorem Operation.Drafted.name_ne_empty {operation : Operation} (drafted : operation.Drafted) :
    operation.name ≠ "" := by
  rw [drafted.named]
  exact (Identifier.of_operation_proper _ _).ne_empty

section Operations

variable {operation : Operation} (drafted : operation.Drafted) (steady : operation.Steady)
  (spelt : operation.Spelt)

include drafted steady spelt

theorem name_plain : Plain operation.name := ⟨drafted.name_clean, steady.name, spelt.name.word⟩

omit drafted in
theorem parameter_plain {parameter : Parameter} (member : parameter ∈ operation.parameters) :
    Plain (Identifier.exported parameter.name) :=
  ⟨Identifier.exported_clean _, steady.parameters parameter member,
    (spelt.parameters parameter member).word⟩

theorem content_plain {response : Response} (answers : response ∈ operation.responses)
    {content : BodyContent} (member : content ∈ response.contents) : Plain content.tag :=
  ⟨drafted.response_clean answers member, steady.responses response answers content member,
    (spelt.responses response answers content member).word⟩

theorem hands_spelt {hint : String} (hands : operation.Hands hint) :
    IsIdentifier hint ∧ Plain hint := by
  have append {first second : String} (both : IsIdentifier first ∧ Plain first)
      (plain : Plain second) : IsIdentifier (first ++ second) ∧ Plain (first ++ second) :=
    ⟨both.1.append plain.word, both.2.append plain⟩
  have name : IsIdentifier operation.name ∧ Plain operation.name :=
    ⟨spelt.name, name_plain drafted steady spelt⟩
  cases hands with
  | parameter parameter member =>
      exact append (append name (title_plain _)) (parameter_plain steady spelt member)
  | request content member own =>
      refine append (append name ?_) (words_plain "RequestBody" (by decide))
      exact ⟨drafted.request_clean member, steady.requests content member,
        spelt.requests content member (.inr own)⟩
  | response response answers content member =>
      exact append (append (append name (label_plain _))
        (content_plain drafted steady spelt answers member)) (words_plain "ResponseBody" (by decide))
  | header response answers header member =>
      refine append (append (append name (label_plain _)) (words_plain "Header" (by decide))) ?_
      exact ⟨Identifier.exported_clean _, steady.headers response answers header member,
        (spelt.headers response answers header member).word⟩

end Operations

section Programs

variable {program : Program} {keys : List String} (steady : program.Steady keys)
  (spelt : program.Spelt keys)

include steady spelt

theorem field_plain {component : Component} (member : component ∈ program.components.values) :
    ∀ identifier ∈ fieldIdentifiers component.shape.fields, Plain identifier := by
  intro identifier listed
  refine ⟨?_, steady.fields component member identifier listed,
    (spelt.fields component member identifier listed).word⟩
  obtain ⟨field, _, rfl⟩ := List.mem_map.mp listed
  exact Identifier.exported_clean _

/-- The names of all components are made of names that are spelt well. -/
theorem component_names_spelt (drafted : program.Drafted)
    (declared : ∀ component ∈ program.components.values, ∀ key, component.origin = .declared key →
      key ∈ keys) :
    ∀ component ∈ program.components.values, IsIdentifier component.name ∧ Plain component.name := by
  refine @Program.Drafted.names_hold _ drafted (fun name => IsIdentifier name ∧ Plain name) Plain
    (fun identifiers hint name inside start beneath => ?_)
    (fun component member => field_plain steady spelt member) ?_
  · refine @Beneath.hands_on (fun name => IsIdentifier name ∧ Plain name) Plain
      (fun first second both plain => ?_) ?_ number_plain _ _ _ inside start beneath
    · exact ⟨both.1.append plain.word, both.2.append plain⟩
    · exact fun word listed => words_plain word
        ((by decide : ["Item", "Value", "AllOf", "OneOf", "AnyOf"] ⊆ Go.nameWords) listed)
  · intro hint root
    cases root with
    | declared component member key origin named =>
        have among := declared component member key origin
        have identifier := spelt.schemas key among
        rw [named]
        exact ⟨identifier, Identifier.exported_clean _, steady.schemas key among, identifier.word⟩
    | handed operation member hint hands =>
        exact hands_spelt (drafted.operations operation member)
          (steady.operations operation member) (spelt.operations operation member) hands

end Programs

end ApiScaffold.Blueprint

namespace ApiScaffold.Server

open Blueprint Go Source

section Security

variable {schemes : List SecurityScheme}

theorem check_method_clean (scheme : SecurityScheme) :
    Identifier.Clean (Security.checkMethod scheme) := by
  have word : Identifier.Clean "SecurityCheck" := by
    unfold Identifier.Clean Identifier.CleanChars
    decide
  exact word.append (Identifier.exported_clean _)

theorem schemas_ask : (Security.schemas schemes).form.asks = schemes.map Security.checkMethod := by
  simp only [Security.schemas, Form.asks, List.flatMap_cons, List.flatMap_nil, List.append_nil,
    List.map_map]
  exact List.map_congr_left fun scheme _ =>
    method_name_clean (check_method_clean scheme) (List.append_nil _).symm rfl

theorem security_part_spelt (plain : ∀ scheme ∈ schemes, Plain (Identifier.exported scheme.name)) :
    (Security.part schemes).Every (·.form.Spelt) := by
  have types : ∀ declaration ∈ Security.types, declaration.form.Spelt := by decide
  have constants : ∀ declaration ∈ (if schemes.isEmpty then [] else
      [({ form := .constants (schemes.map Security.constantEntry) } : Declaration)]),
        declaration.form.Spelt := by
    split
    · exact List.forall_mem_nil _
    · refine List.forall_mem_singleton.mpr ((Form.spelt_constants _).mpr ?_)
      refine List.forall_mem_map.mpr fun scheme member => ?_
      exact IsIdentifier.append (by decide) (plain scheme member).word
  have extractors : ∀ scheme ∈ schemes, (Security.extractorFunction scheme).form.Spelt := by
    intro scheme member
    have extracts := words_plain "Extract" (by decide)
    have named := plain scheme member
    refine (Form.spelt_function _ _ _).mpr (Plain.variable ?_ ?_)
    · exact (extracts.append named).append (words_plain "Security" (by decide))
    · exact IsIdentifier.append (IsIdentifier.append (by decide) named.word) (by decide)
  have fixed : IsIdentifier "SecuritySchemas" ∧ IsIdentifier "securityProcessors" ∧
      IsIdentifier "checkSecurity" ∧ IsIdentifier "checkSecurityAlternative" ∧
      IsIdentifier "runSecurityProcessor" := by decide
  unfold Security.part Part.Every
  simp only [List.forall_mem_append, List.forall_mem_cons, List.not_mem_nil, false_imp_iff,
    implies_true, and_true, List.forall_mem_map, List.mem_filter]
  refine ⟨⟨⟨⟨types, constants⟩, ?_, ?_⟩, fun scheme member => extractors scheme member.1⟩,
    ?_, ?_, ?_⟩
  · refine (Form.spelt_interface _ _).mpr ⟨fixed.1, ?_⟩
    change ∀ method ∈ (Security.schemas (schemes.filter Security.isExtractable)).form.asks,
      IsIdentifier method
    rw [schemas_ask, List.forall_mem_map]
    exact fun scheme member =>
      IsIdentifier.append (by decide) (plain scheme (List.mem_filter.mp member).1).word
  · exact (Form.spelt_function _ _ _).mpr fixed.2.1
  · exact (Form.spelt_function _ _ _).mpr fixed.2.2.1
  · exact (Form.spelt_function _ _ _).mpr fixed.2.2.2.1
  · exact (Form.spelt_function _ _ _).mpr fixed.2.2.2.2

theorem security_part_needs (spelt : (Security.part schemes).Every (·.form.Spelt)) :
    ∀ scheme ∈ schemes, IsWord (Identifier.exported scheme.name) := by
  intro scheme member
  have declared : ({ form := .constants (schemes.map Security.constantEntry) } : Declaration) ∈
      (Security.part schemes).declarations := by
    unfold Security.part
    have filled : schemes.isEmpty = false := by
      rw [List.isEmpty_eq_false_iff]
      exact List.ne_nil_of_mem member
    simp [filled]
  have constants := (Form.spelt_constants _).mp (spelt _ declared)
  have constant : IsIdentifier ("SecurityScheme" ++ Identifier.exported scheme.name) :=
    constants _ (List.mem_map_of_mem member)
  exact ((is_identifier_append (by decide)).mp constant).2

end Security

section Requests

variable {outline : Outline} {operation : Operation}

theorem variants_spelt (spelt : operation.Spelt) :
    ∀ variant ∈ RequestVariant.ofOperation operation,
      IsIdentifier variant.typeName ∧ IsIdentifier variant.method := by
  have request : IsWord "Request" := by decide
  unfold RequestVariant.ofOperation
  split
  · rename_i first second rest contents
    intro variant member
    obtain ⟨content, listed, rfl⟩ := List.mem_map.mp member
    have several : 1 < operation.bodyContents.length := by
      rw [contents, List.length_cons, List.length_cons]
      omega
    have word := spelt.requests content (contents ▸ listed) (.inl several)
    exact ⟨(spelt.name.append word).append request, spelt.name.append word⟩
  · exact List.forall_mem_singleton.mpr ⟨spelt.name.append request, spelt.name⟩

theorem variants_need (named : operation.name ≠ "")
    (spelt : ∀ variant ∈ RequestVariant.ofOperation operation, IsIdentifier variant.typeName)
    (several : 1 < operation.bodyContents.length) :
    ∀ content ∈ operation.bodyContents, IsWord content.tag := by
  unfold RequestVariant.ofOperation at spelt
  split at spelt
  · rename_i first second rest contents
    intro content member
    rw [contents] at member
    have type : IsIdentifier (operation.name ++ (content.tag ++ "Request")) := by
      rw [← String.append_assoc]
      exact spelt _ (List.mem_map_of_mem member)
    exact (is_word_append.mp ((is_identifier_append named).mp type).2).1
  · rename_i few
    match contents : operation.bodyContents with
    | [] =>
        rw [contents] at several
        cases several
    | [content] =>
        rw [contents] at several
        cases several
        contradiction
    | first :: second :: rest => exact absurd contents (few first second rest)

theorem place_part_spelt (spelt : operation.Spelt) (place : Place) :
    (Request.placePart outline operation place).Every (·.form.Spelt) := by
  have request : IsWord "Request" ∧ IsIdentifier "Validate" := by decide
  unfold Request.placePart
  split
  · exact Part.every_empty
  · rename_i parameters _
    rw [Part.every_append]
    constructor
    · refine List.forall_mem_singleton.mpr ((Form.spelt_struct _ _ _).mpr ⟨?_, ?_⟩)
      · exact (spelt.name.append request.1).append (title_plain place).word
      · simp only [Form.members, List.flatMap_cons, List.flatMap_nil, List.append_nil, List.map_map,
          List.forall_mem_map, Function.comp_apply]
        exact fun parameter member =>
          spelt.parameters parameter (List.mem_filter.mp member).1
    · unfold Request.placeValidator
      dsimp only
      split
      · exact Part.every_empty
      · exact List.forall_mem_singleton.mpr ((Form.spelt_method _ _ _ _).mpr request.2)

theorem request_patterns_spelt (drafted : operation.Drafted) (steady : operation.Steady)
    (spelt : operation.Spelt) : (Request.patternPart outline operation).Every (·.form.Spelt) := by
  refine (patterns_spelt_iff _ _).mpr fun stored member => ?_
  obtain ⟨parameter, listed, among⟩ := List.mem_flatMap.mp member
  unfold Request.patternVariables at among
  dsimp only at among
  have name := name_plain drafted steady spelt
  have own := parameter_plain steady spelt listed
  have title := title_plain parameter.place
  have named (ending : String) (listed : ending ∈ nameWords) :
      IsIdentifier (Request.patternName operation parameter ending) := by
    have ends := words_plain ending listed
    exact (((name.append title).append own).append ends).variable
      (((spelt.name.append title.word).append own.word).append ends.word)
  rcases List.mem_append.mp among with regex | pattern
  · obtain ⟨text, _, rfl⟩ := Option.map_eq_some_iff.mp (Option.mem_toList.mp regex)
    dsimp only
    exact named "Regex" (by decide)
  · split at pattern
    · obtain ⟨text, _, rfl⟩ := Option.map_eq_some_iff.mp (Option.mem_toList.mp pattern)
      dsimp only
      exact named "Pattern" (by decide)
    · cases pattern

/-- The members of a request are the same for every document, but for their number. -/
theorem request_members_spelt (variant : RequestVariant) :
    ∀ entry ∈ Request.members operation variant, IsIdentifier entry.name := by
  have titles (place : Place) : IsIdentifier place.title := by
    cases place <;> decide
  unfold Request.members
  simp only [List.forall_mem_append, List.forall_mem_map, List.forall_mem_singleton]
  exact ⟨⟨fun place _ => titles place, fun _ _ => by decide⟩, by decide⟩

theorem variant_part_spelt {variant : RequestVariant} (name : IsIdentifier variant.typeName) :
    (Request.variantPart outline operation variant).Every (·.form.Spelt) := by
  unfold Request.variantPart
  simp only [Part.Every, List.forall_mem_cons, List.not_mem_nil, false_imp_iff, implies_true,
    and_true, Form.spelt_struct]
  refine ⟨⟨name, ?_⟩, (Form.spelt_function _ _ _).mpr (IsIdentifier.append (by decide) name.word)⟩
  simp only [Form.members, List.flatMap_cons, List.flatMap_nil, List.append_nil, List.forall_mem_map]
  exact request_members_spelt variant

theorem request_part_spelt (drafted : operation.Drafted) (steady : operation.Steady)
    (spelt : operation.Spelt) : (Request.part outline operation).Every (·.form.Spelt) := by
  unfold Request.part
  rw [Part.every_append, Part.every_append, Part.every_append, Part.every_join_map,
    Part.every_join_map]
  refine ⟨⟨⟨fun place _ => place_part_spelt spelt place,
    request_patterns_spelt drafted steady spelt⟩, Part.every_empty⟩, fun variant member => ?_⟩
  exact variant_part_spelt (variants_spelt spelt variant member).1

/-- Every parameter is a member of the struct for its place, and every variant has a type. -/
theorem request_part_needs (spelt : (Request.part outline operation).Every (·.form.Spelt)) :
    (∀ parameter ∈ operation.parameters, IsIdentifier (Identifier.exported parameter.name)) ∧
    ∀ variant ∈ RequestVariant.ofOperation operation, IsIdentifier variant.typeName := by
  unfold Request.part at spelt
  rw [Part.every_append, Part.every_append, Part.every_append, Part.every_join_map,
    Part.every_join_map] at spelt
  obtain ⟨⟨⟨placed, _⟩, _⟩, varied⟩ := spelt
  constructor
  · intro parameter member
    have listed : parameter ∈ operation.parametersIn parameter.place :=
      List.mem_filter.mpr ⟨member, beq_self_eq_true _⟩
    have own := placed parameter.place (by cases parameter.place <;> decide)
    unfold Request.placePart at own
    split at own
    · rename_i none
      rw [none] at listed
      cases listed
    · rw [Part.every_append] at own
      have members := ((Form.spelt_struct _ _ _).mp (own.1 _ List.mem_cons_self)).2
      simp only [Form.members, List.flatMap_cons, List.flatMap_nil, List.append_nil, List.map_map,
        List.forall_mem_map, Function.comp_apply] at members
      exact members parameter listed
  · exact fun variant member =>
      ((Form.spelt_struct _ _ _).mp (varied variant member _ List.mem_cons_self)).1

end Requests

section Builders

open Builder

variable {operation : Operation} (program : Program)

theorem builder_asks (clean : Identifier.Clean operation.name) :
    (Form.interface (Builder.interface operation) [
      { methods := ["Response", s!"{marker operation}()"] }]).asks =
        ["Response", marker operation] := by
  have words : Identifier.Clean "is" ∧ Identifier.Clean "Response" := by
    unfold Identifier.Clean Identifier.CleanChars
    decide
  have marked : Identifier.Clean (marker operation) := words.1.append (clean.append words.2)
  have embedded := @method_name_clean "Response" "Response" [] [] words.2 rfl rfl
  have own := @method_name_clean s!"{marker operation}()" _ ['(', ')'] [] marked
    (String.toList_append ..) rfl
  simp only [Form.asks, List.flatMap_cons, List.flatMap_nil, List.append_nil, List.map_cons,
    List.map_nil, embedded, own]

theorem stage_type_spelt {stage : String} (identifier : IsIdentifier stage) :
    (stageType stage).form.Spelt := by
  refine (Form.spelt_struct _ _ _).mpr ⟨identifier, ?_⟩
  have response : IsIdentifier "response" := by decide
  exact List.forall_mem_singleton.mpr response

section Spelt

variable (drafted : operation.Drafted) (steady : operation.Steady) (spelt : operation.Spelt)

include drafted steady spelt

theorem stage_spelt {stem : String} (plain : Plain stem) (ending : String)
    (ends : ending ∈ nameWords) :
    IsIdentifier (variableName (operation.name ++ stem ++ ending)) :=
  (((name_plain drafted steady spelt).append plain).append (words_plain ending ends)).variable
    ((spelt.name.append plain.word).append (words_plain ending ends).word)

theorem start_part_spelt : (startPart operation).Every (·.form.Spelt) := by
  have plain : Plain (Builder.interface operation) :=
    (name_plain drafted steady spelt).append (words_plain "Response" (by decide))
  have interface : IsIdentifier (Builder.interface operation) := spelt.name.append (by decide)
  have builds : Plain (constructor operation) :=
    plain.append (words_plain "Builder" (by decide))
  have builder : IsIdentifier (constructor operation) := interface.append (by decide)
  have marked : IsIdentifier (marker operation) := IsIdentifier.append (by decide) interface.word
  unfold startPart Part.Every
  simp only [List.forall_mem_cons, List.not_mem_nil, false_imp_iff, implies_true, and_true]
  have asked : ∀ method ∈ ["Response", marker operation], IsIdentifier method :=
    List.forall_mem_cons.mpr ⟨by decide, List.forall_mem_singleton.mpr marked⟩
  rw [← builder_asks drafted.name_clean] at asked
  exact ⟨(Form.spelt_interface _ _).mpr ⟨interface, asked⟩,
    stage_type_spelt (plain.variable interface),
    (Form.spelt_marker _ _).mpr marked, (Form.spelt_function _ _ _).mpr builder,
    stage_type_spelt (builds.variable builder)⟩

theorem status_part_spelt (response : Response) :
    (statusPart operation response).Every (·.form.Spelt) := by
  have label := label_plain response.status
  have method : IsIdentifier ("StatusCode" ++ response.status.label) :=
    IsIdentifier.append (by decide) label.word
  unfold statusPart Part.Every
  simp only [List.forall_mem_cons, List.not_mem_nil, false_imp_iff, implies_true, and_true]
  refine ⟨(Form.spelt_method _ _ _ _).mpr method, stage_type_spelt ?_⟩
  exact stage_spelt drafted steady spelt label "ResponseBuilder" (by decide)

theorem headers_part_spelt {response : Response} (answers : response ∈ operation.responses) :
    (headersPart program operation response).Every (·.form.Spelt) := by
  have label := label_plain response.status
  have struct : IsIdentifier (headersStruct operation response.status) :=
    (spelt.name.append label.word).append (by decide)
  have method : IsIdentifier "Headers" := by decide
  unfold headersPart Part.Every
  simp only [List.forall_mem_cons, List.not_mem_nil, false_imp_iff, implies_true, and_true,
    Form.spelt_struct]
  refine ⟨⟨struct, ?_⟩, (Form.spelt_method _ _ _ _).mpr method, stage_type_spelt ?_⟩
  · simp only [Form.members, List.flatMap_cons, List.flatMap_nil, List.append_nil, List.map_map,
      List.forall_mem_map, Function.comp_apply]
    exact spelt.headers response answers
  · exact stage_spelt drafted steady spelt label "HeadersResponseBuilder" (by decide)

theorem content_part_spelt {response : Response} (answers : response ∈ operation.responses)
    {content : BodyContent} (member : content ∈ response.contents) (stage : String) :
    (contentPart operation response.status stage content).Every (·.form.Spelt) := by
  have label := label_plain response.status
  have tag := content_plain drafted steady spelt answers member
  have methods : IsIdentifier "Body" ∧ IsIdentifier "Build" := by decide
  have named (ending : String) (ends : ending ∈ nameWords) : IsIdentifier
      (variableName (operation.name ++ response.status.label ++ content.tag ++ ending)) := by
    have stage := stage_spelt drafted steady spelt (label.append tag) ending ends
    rwa [← String.append_assoc] at stage
  unfold contentPart Part.Every
  simp only [List.forall_mem_cons, List.not_mem_nil, false_imp_iff, implies_true, and_true]
  exact ⟨(Form.spelt_method _ _ _ _).mpr (spelt.responses response answers content member),
    stage_type_spelt (named "ResponseBuilder" (by decide)),
    (Form.spelt_method _ _ _ _).mpr methods.1,
    stage_type_spelt (named "BodyResponseBuilder" (by decide)),
    (Form.spelt_method _ _ _ _).mpr methods.2⟩

theorem builder_part_spelt : (Builder.part program operation).Every (·.form.Spelt) := by
  have method : IsIdentifier "Build" := by decide
  unfold Builder.part
  rw [Part.every_append, Part.every_join_map]
  refine ⟨start_part_spelt drafted steady spelt, fun response answers => ?_⟩
  unfold responsePart
  dsimp only
  rw [Part.every_append, Part.every_append]
  refine ⟨⟨status_part_spelt drafted steady spelt response, ?_⟩, ?_⟩
  · split
    · exact headers_part_spelt program drafted steady spelt answers
    · exact Part.every_empty
  · split
    · exact List.forall_mem_singleton.mpr ((Form.spelt_method _ _ _ _).mpr method)
    · rw [Part.every_join_map]
      exact fun content member => content_part_spelt drafted steady spelt answers member _

end Spelt

/-- The interface of responses is named after the operation, a method after each content, and a
member after each header. -/
theorem builder_part_needs (named : operation.name ≠ "")
    (spelt : (Builder.part program operation).Every (·.form.Spelt)) :
    IsIdentifier operation.name ∧ ∀ response ∈ operation.responses,
      (∀ content ∈ response.contents, IsIdentifier content.tag) ∧
      ∀ header ∈ response.headers, IsIdentifier (Identifier.exported header.name) := by
  unfold Builder.part at spelt
  rw [Part.every_append, Part.every_join_map] at spelt
  obtain ⟨started, answered⟩ := spelt
  have interface : IsIdentifier (operation.name ++ "Response") :=
    ((Form.spelt_interface _ _).mp (started _ List.mem_cons_self)).1
  refine ⟨((is_identifier_append named).mp interface).1, fun response answers => ?_⟩
  have own := answered response answers
  unfold responsePart at own
  dsimp only at own
  rw [Part.every_append, Part.every_append] at own
  obtain ⟨⟨_, headed⟩, filled⟩ := own
  constructor
  · intro content member
    rw [if_neg (by simpa using List.ne_nil_of_mem member), Part.every_join_map] at filled
    exact (Form.spelt_method _ _ _ _).mp (filled content member _ List.mem_cons_self)
  · intro header member
    rw [if_pos (by simpa using List.ne_nil_of_mem member)] at headed
    have members := ((Form.spelt_struct _ _ _).mp (headed _ List.mem_cons_self)).2
    simp only [Form.members, List.flatMap_cons, List.flatMap_nil, List.append_nil, List.map_map,
      List.forall_mem_map, Function.comp_apply] at members
    exact members header member

end Builders

section Services

open Service

variable {tag : String} {operations : List Operation}

theorem variant_method_clean {operation : Operation} (drafted : operation.Drafted) :
    ∀ variant ∈ RequestVariant.ofOperation operation, Identifier.Clean variant.method := by
  unfold RequestVariant.ofOperation
  split
  · rename_i first second rest contents
    intro variant member
    obtain ⟨content, listed, rfl⟩ := List.mem_map.mp member
    exact drafted.name_clean.append (drafted.request_clean (contents ▸ listed))
  · exact List.forall_mem_singleton.mpr drafted.name_clean

/-- A service has a method for each operation, or for each kind of body that it takes. -/
theorem service_asks (drafted : ∀ operation ∈ operations, operation.Drafted) :
    (interface tag operations).form.asks = operations.flatMap fun operation =>
      (RequestVariant.ofOperation operation).map (·.method) := by
  simp only [interface, Form.asks, List.flatMap_map, List.map_map]
  refine List.flatMap_congr fun operation member => List.map_congr_left fun variant listed => ?_
  exact @method_name_clean _ _ "(ctx ".toList _
    (variant_method_clean (drafted operation member) variant listed) (String.toList_append ..) rfl

theorem service_part_spelt (identifier : IsIdentifier tag)
    (handled : ∀ operation ∈ operations,
      operation.Drafted ∧ operation.Steady ∧ operation.Spelt) :
    (Service.part tag operations).Every (·.form.Spelt) := by
  have service : IsIdentifier (service tag) := identifier.append (by decide)
  have router : IsIdentifier (router tag) := identifier.append (by decide)
  have create : IsIdentifier (constructor tag) :=
    IsIdentifier.append (IsIdentifier.append (by decide) identifier.word) (by decide)
  have methods : IsIdentifier "ServeHTTP" ∧ IsIdentifier "mount" := by decide
  have members : ∀ name ∈ ["router", "service", "hooks", "processors"], IsIdentifier name := by
    decide
  have asked : ∀ method ∈ (interface tag operations).form.asks, IsIdentifier method := by
    rw [service_asks fun operation member => (handled operation member).1]
    intro method listed
    obtain ⟨operation, member, among⟩ := List.mem_flatMap.mp listed
    obtain ⟨variant, chosen, rfl⟩ := List.mem_map.mp among
    exact (variants_spelt (handled operation member).2.2 variant chosen).2
  unfold Service.part
  rw [Part.every_append, Part.every_join_map]
  constructor
  · simp only [Part.Every, List.forall_mem_cons, List.not_mem_nil, false_imp_iff, implies_true,
      and_true]
    exact ⟨(Form.spelt_interface _ _).mpr ⟨service, asked⟩,
      (Form.spelt_struct _ _ _).mpr ⟨router, members⟩, (Form.spelt_function _ _ _).mpr create,
      (Form.spelt_method _ _ _ _).mpr methods.1, (Form.spelt_method _ _ _ _).mpr methods.2⟩
  · intro operation member
    obtain ⟨drafted, steady, spelt⟩ := handled operation member
    have plain := (words_plain "Handle" (by decide)).append (name_plain drafted steady spelt)
    refine List.forall_mem_singleton.mpr ((Form.spelt_method _ _ _ _).mpr ?_)
    exact plain.variable (IsIdentifier.append (by decide) spelt.name.word)

theorem service_part_needs (grouped : tag ≠ "")
    (spelt : (Service.part tag operations).Every (·.form.Spelt)) : IsIdentifier tag := by
  unfold Service.part at spelt
  rw [Part.every_append] at spelt
  have service := ((Form.spelt_interface _ _).mp (spelt.1 _ List.mem_cons_self)).1
  exact ((is_identifier_append grouped).mp service).1

end Services

section Programs

variable {program : Program}

theorem components_spelt_iff : (componentsPart program).Every (·.form.Spelt) ↔
    ∀ component ∈ program.components.values,
      (Component.part (Outline.ofProgram program) component).Every (·.form.Spelt) := by
  have runtime : Outcome.part.Every (·.form.Spelt) := by
    unfold Part.Every
    decide
  unfold componentsPart
  dsimp only
  rw [Part.every_append, and_iff_right runtime, Part.every_join_map]

theorem router_spelt_iff : (routerPart program).Every (·.form.Spelt) ↔
    ((Security.part program.securitySchemes).Every (·.form.Spelt) ∧
      ∀ operation ∈ program.operations,
        (operationPart (Outline.ofProgram program) operation).Every (·.form.Spelt)) ∧
    ∀ entry ∈ program.tags, (Service.part entry.1 entry.2).Every (·.form.Spelt) := by
  have reply : Reply.part.Every (·.form.Spelt) := by
    unfold Part.Every
    decide
  have hooks : Hooks.part.Every (·.form.Spelt) := by
    unfold Part.Every
    decide
  have text : IsIdentifier "OpenAPISpec" := by decide
  have shown : (documentPart program).Every (·.form.Spelt) :=
    List.forall_mem_singleton.mpr ((Form.spelt_global _ _).mpr text)
  unfold routerPart
  dsimp only
  rw [Part.every_append, Part.every_append, Part.every_append, Part.every_append,
    Part.every_append, and_iff_left shown, Part.every_join_map, Part.every_join_map,
    and_iff_right reply, and_iff_right hooks]

/-- The names that the declarations of both files write. -/
def emittedNames (program : Program) : List String :=
  ((componentsPart program).declarations ++ (routerPart program).declarations).flatMap
    (·.form.identifiers)

theorem emitted_spelt_iff : (∀ name ∈ emittedNames program, IsIdentifier name) ↔
    (componentsPart program).Every (·.form.Spelt) ∧ (routerPart program).Every (·.form.Spelt) := by
  unfold emittedNames
  rw [List.forall_mem_flatMap, List.forall_mem_append]
  rfl

theorem operation_part_needs {outline : Outline} {operation : Operation}
    (drafted : operation.Drafted)
    (spelt : (operationPart outline operation).Every (·.form.Spelt))
    (tag : IsIdentifier operation.tag)
    (inline : ∀ content ∈ operation.bodyContents, ∀ name, content.shape = .named name →
      IsIdentifier name) : operation.Spelt := by
  have given := drafted.name_ne_empty
  unfold operationPart at spelt
  rw [Part.every_append] at spelt
  obtain ⟨requested, built⟩ := spelt
  obtain ⟨parameters, types⟩ := request_part_needs requested
  obtain ⟨name, answered⟩ := builder_part_needs outline.program given built
  refine ⟨name, tag, parameters, ?_, fun response answers => (answered response answers).1,
    fun response answers => (answered response answers).2⟩
  rintro content member (several | own)
  · exact variants_need given types several content member
  · have component := inline content member _ own
    rw [String.append_assoc] at component
    exact (is_word_append.mp ((is_identifier_append given).mp component).2).1

variable {document : OpenApi.Document} {config : Config}

theorem compiled_keeps (compiled : (compile document config).1 = .ok program) :
    program.KeepsSchemas document.specification.components.schemas := by
  obtain ⟨schemes, operations, effects, planned, accepted, rfl⟩ :=
    lowered_iff.mp (compiled_iff.mp compiled)
  exact keeps_schemas planned accepted.distinct rfl

def schemaKeys (document : OpenApi.Document) : List String :=
  document.specification.components.schemas.map (·.1)

theorem program_spelt_of_names (compiled : (compile document config).1 = .ok program)
    (names : ∀ name ∈ emittedNames program, IsIdentifier name) :
    program.Spelt (schemaKeys document) := by
  have drafted := compiled_drafted compiled
  have keeps := compiled_keeps compiled
  have wellFormed := compiled_well_formed compiled
  obtain ⟨components, router⟩ := emitted_spelt_iff.mp names
  obtain ⟨⟨secured, operated⟩, served⟩ := router_spelt_iff.mp router
  have component (component : Component) (member : component ∈ program.components.values) :
      component.Spelt :=
    ((component_spelt_iff _).mp (components_spelt_iff.mp components component member)).1
  refine ⟨fun key listed => ?_, fun own member => (component own member).fields,
    fun own member => (component own member).members, fun operation member => ?_,
    security_part_needs secured⟩
  · obtain ⟨entry, stated, rfl⟩ := List.mem_map.mp listed
    obtain ⟨own, ⟨member, origin⟩, _⟩ := keeps.declared entry stated
    rcases keeps.origins own member with ⟨other, _, there, named⟩ | ⟨location, inside⟩
    · have same := Origin.declared.inj (origin.symm.trans there)
      rw [same, ← named]
      exact (component own member).name
    · exact nomatch origin.symm.trans inside
  · refine operation_part_needs (drafted.operations operation member) (operated operation member)
      ?_ fun content listed name shape => ?_
    · obtain ⟨entry, among, same⟩ := List.mem_map.mp
        (Program.mem_tags_keys.mpr ⟨operation, member, rfl⟩)
      have grouped := (drafted.operations operation member).grouped
      rw [← same] at grouped ⊢
      exact service_part_needs grouped (served entry among)
    · have held : program.Holds content.shape := by
        unfold Operation.bodyContents at listed
        split at listed
        · rename_i body given
          exact .requestBody member given listed
        · cases listed
      have known := wellFormed.registered _ held name (by rw [shape]; exact List.mem_cons_self)
      obtain ⟨entry, registered, rfl⟩ := List.mem_map.mp known
      rw [← wellFormed.named entry registered]
      exact (component entry.2 (List.mem_map_of_mem registered)).name

theorem names_spelt_of_program (compiled : (compile document config).1 = .ok program)
    (steady : program.Steady (schemaKeys document)) (spelt : program.Spelt (schemaKeys document)) :
    ∀ name ∈ emittedNames program, IsIdentifier name := by
  have drafted := compiled_drafted compiled
  have keeps := compiled_keeps compiled
  have declared : ∀ component ∈ program.components.values, ∀ key,
      component.origin = .declared key → key ∈ schemaKeys document := by
    intro component member key origin
    rcases keeps.origins component member with ⟨entry, stated, there, _⟩ | ⟨location, inside⟩
    · rw [Origin.declared.inj (origin.symm.trans there)]
      exact List.mem_map_of_mem stated
    · exact nomatch origin.symm.trans inside
  have handled (operation : Operation) (member : operation ∈ program.operations) :
      operation.Drafted ∧ operation.Steady ∧ operation.Spelt :=
    ⟨drafted.operations operation member, steady.operations operation member,
      spelt.operations operation member⟩
  refine emitted_spelt_iff.mpr ⟨components_spelt_iff.mpr fun component member => ?_,
    router_spelt_iff.mpr ⟨⟨security_part_spelt fun scheme member => ?_, fun operation member => ?_⟩,
      fun entry among => ?_⟩⟩
  · obtain ⟨identifier, plain⟩ :=
      component_names_spelt steady spelt drafted declared component member
    have own : component.Spelt :=
      ⟨identifier, spelt.fields component member, spelt.members component member⟩
    exact (component_spelt_iff _).mpr
      ⟨own, component_patterns_spelt _ plain own (field_plain steady spelt member)⟩
  · exact ⟨Identifier.exported_clean _, steady.schemes scheme member, spelt.schemes scheme member⟩
  · obtain ⟨drafted, steady, spelt⟩ := handled operation member
    exact (Part.every_append _ _).mpr
      ⟨request_part_spelt drafted steady spelt, builder_part_spelt _ drafted steady spelt⟩
  · obtain ⟨operation, member, same⟩ := Program.mem_tags_keys.mp (List.mem_map_of_mem among)
    have tag : IsIdentifier entry.1 := same ▸ (spelt.operations operation member).tag
    exact service_part_spelt tag fun operation listed =>
      handled operation (Program.tagged_operations entry among operation listed)

/-- Names are not checked when they are read. Those that are written are identifiers only if what
they are made of is, and if it is, then they are as long as no letter loses that in camel case. -/
theorem emitted_names_identifiers (compiled : (compile document config).1 = .ok program) :
    ((∀ name ∈ emittedNames program, IsIdentifier name) → program.Spelt (schemaKeys document)) ∧
    (program.Steady (schemaKeys document) → program.Spelt (schemaKeys document) →
      ∀ name ∈ emittedNames program, IsIdentifier name) :=
  ⟨program_spelt_of_names compiled, names_spelt_of_program compiled⟩

end Programs

def gallery (format : String) : OpenApi.Document where
  specification := {
    openapi := "3.0.0"
    components := { schemas := [
      ("kind", .object { type := some (.single "string"), enum := [.string format] })] } }
  raw := .null

/-- The slash of a media type gets into the name of a constant, a hyphen does not. -/
theorem gallery_names_constants :
    (∃ program artifacts,
      (compile (gallery "image/png") { package := "api", path := "" }).1 = .ok program ∧
      Artifact.all program = .ok artifacts ∧ ¬ ∀ name ∈ emittedNames program, IsIdentifier name) ∧
    ∃ program artifacts,
      (compile (gallery "image-png") { package := "api", path := "" }).1 = .ok program ∧
      Artifact.all program = .ok artifacts ∧ ∀ name ∈ emittedNames program, IsIdentifier name := by
  have slash : (compileShort (gallery "image/png") { package := "api", path := "" }).any
      fun program =>
        (program.components.values.any fun component => component.shape.members.any fun member =>
          decide (¬ IsWord member.tag)) &&
        decide ((componentsPart program).taken ++ (routerPart program).taken).Nodup := by
    decide +kernel
  have hyphen : (compileShort (gallery "image-png") { package := "api", path := "" }).any
      fun program => program.operations.isEmpty && program.securitySchemes.isEmpty &&
        (program.components.values.all fun component => component.shape.fields.isEmpty &&
          component.shape.members.all fun member => decide (IsWord member.tag)) &&
        decide ((componentsPart program).taken ++ (routerPart program).taken).Nodup := by
    decide +kernel
  constructor
  · obtain ⟨program, result, slash⟩ := compiled_of_short slash
    simp only [Bool.and_eq_true, List.any_eq_true, decide_eq_true_eq] at slash
    obtain ⟨⟨component, listed, member, among, broken⟩, distinct⟩ := slash
    obtain ⟨artifacts, emitted⟩ := Artifact.succeeds_of_distinct distinct
    refine ⟨program, artifacts, result, emitted, fun names => broken ?_⟩
    exact ((emitted_names_identifiers result).1 names).members component listed member among
  · obtain ⟨program, result, hyphen⟩ := compiled_of_short hyphen
    simp only [Bool.and_eq_true, List.isEmpty_iff, List.all_eq_true, decide_eq_true_eq] at hyphen
    obtain ⟨⟨⟨idle, unsecured⟩, components⟩, distinct⟩ := hyphen
    obtain ⟨artifacts, emitted⟩ := Artifact.succeeds_of_distinct distinct
    have fieldless (holds : String → Prop) : ∀ component ∈ program.components.values,
        ∀ identifier ∈ fieldIdentifiers component.shape.fields, holds identifier := by
      intro component member
      rw [(components component member).1]
      exact List.forall_mem_nil _
    have exported : Identifier.exported "kind" = "Kind" := by decide
    have ascii : ∀ c ∈ "Kind".toList, c.toNat < 0x80 := by decide
    have identifier : IsIdentifier "Kind" := by decide
    refine ⟨program, artifacts, result, emitted, (emitted_names_identifiers result).2 ?_ ?_⟩
    · refine ⟨List.forall_mem_singleton.mpr ?_, fieldless _, ?_, ?_⟩
      · rw [exported]
        exact steady_of_ascii ascii
      · rw [idle]
        exact List.forall_mem_nil _
      · rw [unsecured]
        exact List.forall_mem_nil _
    · refine ⟨List.forall_mem_singleton.mpr (exported ▸ identifier), fieldless _,
        fun component member => (components component member).2, ?_, ?_⟩
      · rw [idle]
        exact List.forall_mem_nil _
      · rw [unsecured]
        exact List.forall_mem_nil _

end ApiScaffold.Server
