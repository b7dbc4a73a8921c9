import ApiScaffold.Proofs.DeclaredOnce
import ApiScaffold.Proofs.NestedStatements
import ApiScaffold.Proofs.OperationDrawing
import ApiScaffold.Proofs.ShortDocuments

/-!
The members of structs. Objects and parameters are only drawn up if their identifiers differ and are
not empty, so their structs have members that can be told apart, and so have the structs that every
program declares. The headers of a response are not compared with one another: only the structs of
headers may have a member without a name, or two of one name.
-/

namespace ApiScaffold.Go

open Source

structure Unambiguous (names : List String) : Prop where
  given : "" ∉ names
  distinct : names.Nodup

instance (names : List String) : Decidable (Unambiguous names) :=
  decidable_of_iff ("" ∉ names ∧ names.Nodup)
    ⟨fun both => ⟨both.1, both.2⟩, fun holds => ⟨holds.given, holds.distinct⟩⟩

namespace Statement

def opensStruct (opening : Code) : Bool :=
  opening.getLast?.any fun fragment => Text.endsWith "struct \x7b" fragment.bare

def rowName (row : List Code) : String :=
  ((row.head?.bind List.head?).map Fragment.bare).getD ""

@[simp] def structMembers : Statement → List (List String)
  | listing opening table _ => if opensStruct opening then [table.map rowName] else []
  | _ => []

end Statement

def Form.structs (form : Form) : List (List String) :=
  (match form with
    | .struct _ _ _ => [form.members]
    | _ => []) ++ Statement.gather Statement.structMembers form.body

theorem Form.structs_unambiguous {form : Form} (none : form.structs = []) :
    ∀ members ∈ form.structs, Unambiguous members := by
  rw [none]
  exact List.forall_mem_nil _

def Part.structs (part : Part) : List (List String) :=
  part.declarations.flatMap (·.form.structs)

/-- The members of every struct can be told apart. -/
def Part.StructsUnambiguous (part : Part) : Prop := ∀ members ∈ part.structs, Unambiguous members

namespace Part

theorem structs_append (first second : Part) :
    (first ++ second).structs = first.structs ++ second.structs := List.flatMap_append

theorem mem_structs_join {parts : List Part} {members : List String} :
    members ∈ (join parts).structs ↔ ∃ part ∈ parts, members ∈ part.structs := by
  unfold structs
  rw [declarations_join]
  simp only [List.mem_flatMap]
  constructor
  · rintro ⟨declaration, ⟨part, among, listed⟩, member⟩
    exact ⟨part, among, declaration, listed, member⟩
  · rintro ⟨part, among, declaration, listed, member⟩
    exact ⟨declaration, ⟨part, among, listed⟩, member⟩

namespace StructsUnambiguous

theorem empty : StructsUnambiguous {} := List.forall_mem_nil _

theorem append {first second : Part} (here : first.StructsUnambiguous)
    (there : second.StructsUnambiguous) : (first ++ second).StructsUnambiguous := by
  unfold StructsUnambiguous
  rw [structs_append]
  exact List.forall_mem_append.mpr ⟨here, there⟩

theorem join {parts : List Part} (each : ∀ part ∈ parts, part.StructsUnambiguous) :
    (join parts).StructsUnambiguous := by
  intro members member
  obtain ⟨part, among, listed⟩ := mem_structs_join.mp member
  exact each part among members listed

theorem of_declarations {part : Part}
    (each : ∀ declaration ∈ part.declarations, ∀ members ∈ declaration.form.structs,
      Unambiguous members) : part.StructsUnambiguous := by
  intro members member
  obtain ⟨declaration, among, listed⟩ := List.mem_flatMap.mp member
  exact each declaration among members listed

theorem none {part : Part} (none : part.structs = []) : part.StructsUnambiguous := by
  unfold StructsUnambiguous
  rw [none]
  exact List.forall_mem_nil _

end StructsUnambiguous

end Part

end ApiScaffold.Go

namespace ApiScaffold.Server

open Blueprint Go Source

theorem unambiguous_of_identifiable {identifiers : List String}
    (identifiable : Identifiable [] identifiers) : Unambiguous identifiers :=
  ⟨identifiable.2, identifiable.1.distinct⟩

/-- A table that ends in a comma lists no members. -/
theorem opens_no_struct (start : Code) (text : String) :
    Statement.opensStruct (start ++ [.text (text ++ ",")]) = false := by
  unfold Statement.opensStruct Text.endsWith Text.dropEnd?
  rw [List.getLast?_concat, Option.any_some, Fragment.bare, String.toList_append]
  rw [List.reverse_append]
  rfl

def Component.readings (outline : Outline) (component : Component) : List FieldReading :=
  match component.shape with
  | .object fields required _ =>
    fields.map fun field => FieldReading.ofField outline required field.2
  | _ => []

theorem Component.readings_of_object (outline : Outline) {component : Component}
    {fields : List (String × Blueprint.Field Shape)} {required : List String}
    {additional : Additional Shape} (object : component.shape = .object fields required additional) :
    Component.readings outline component =
      (fields.map (·.2)).map (FieldReading.ofField outline required) := by
  rw [Component.readings, object, List.map_map]
  rfl

theorem Component.readings_of_fieldless (outline : Outline) {component : Component}
    (fieldless : component.shape.fields = []) : Component.readings outline component = [] := by
  unfold Component.readings
  cases object : component.shape with
  | object fields required additional =>
      rw [object] at fieldless
      rw [List.map_eq_nil_iff.mp fieldless]
      rfl
  | _ => rfl

section Components

variable (type receiver : String)

theorem outcome_structs : Outcome.part.StructsUnambiguous := by
  unfold Part.StructsUnambiguous
  decide

theorem validator_structs (checks : List Code) :
    (Validator.method type checks).form.structs = [] := by
  have closed := opens_no_struct [.text "return ", .imported Package.validation "ValidateStruct"]
    s!"(&{receiverName type}"
  change Statement.gather Statement.structMembers [.listing _ _ _] = []
  rw [Statement.gather_listing, Statement.gather_nil, List.append_nil]
  exact if_neg (ne_true_of_eq_false closed)

theorem patterns_structs (owner : String) (patterns : List PatternVariable) :
    (PatternVariable.part owner patterns).structs = [] := by
  unfold PatternVariable.part
  split <;> rfl

theorem reading_structs (reading : FieldReading) :
    Statement.gather Statement.structMembers (reading.statements type receiver) = [] := by
  have plain : Statement.gather Statement.structMembers (reading.plainAssignment receiver) = [] := by
    unfold FieldReading.plainAssignment
    dsimp only
    split
    · rfl
    · split <;> rfl
    · rfl
    · rfl
  have transformation :
      Statement.gather Statement.structMembers (reading.transformation type receiver) = [] := by
    unfold FieldReading.transformation FieldReading.trimming FieldReading.matching
      FieldReading.parsing FieldReading.finalAssignment
    cases reading.field.trimmable <;> cases reading.field.regex <;> cases reading.parser <;>
      cases reading.field.optionality <;> rfl
  have transformed :
      Statement.gather Statement.structMembers (reading.transformedAssignment type receiver) = [] := by
    unfold FieldReading.transformedAssignment
    dsimp only
    split
    · exact transformation
    · split
      · simp [transformation, FieldReading.emptyAssignment]
      · simp [transformation]
  unfold FieldReading.statements FieldReading.presenceGuards
  rw [Statement.gather_append]
  cases reading.checked <;> cases reading.isTransformed <;> simp [plain, transformed]

theorem decoder_structs (readings : List FieldReading) :
    (Decoder.method type readings).form.structs = [readings.map FieldReading.member] := by
  have fields : Statement.gather Statement.structMembers
      (readings.flatMap (FieldReading.statements type (receiverName type))) = [] := by
    rw [Statement.gather_flat_map]
    exact List.flatMap_eq_nil_iff.mpr fun reading _ => reading_structs type _ reading
  have row (reading : FieldReading) : Statement.rowName reading.shadowRow = reading.member := by
    unfold FieldReading.shadowRow
    generalize reading.member = member
    rfl
  have rows : (readings.map FieldReading.shadowRow).map Statement.rowName =
      readings.map FieldReading.member := by
    simp only [List.map_map, Function.comp_def, row]
  have opened : Statement.opensStruct "var shadow struct \x7b" = true := by decide
  unfold Decoder.method Form.structs Form.body
  simp [Decoder.acceptNull, Decoder.unmarshalInto, giveError, fields, rows, opened]

/-- The struct of fields has their identifiers as members. -/
theorem struct_members (name : String) (fields : List (Blueprint.Field Shape)) :
    (Form.struct name "" (memberGroups (fields.map Component.memberOf))).members =
      fieldIdentifiers fields := by
  change ((memberGroups _).flatMap fun group => group.members.map (·.name)) = _
  rw [← List.map_flatMap, member_groups_members]
  simp only [List.map_map, Function.comp_def, Component.memberOf, fieldIdentifiers]

theorem struct_part_structs (outline : Outline) (component : Component) (comment : List String)
    {fields : List (Blueprint.Field Shape)} (required : List String)
    (unambiguous : Unambiguous (fieldIdentifiers fields)) :
    (Component.structPart outline component comment fields required).StructsUnambiguous := by
  have own : (Form.struct component.name "" (memberGroups (fields.map Component.memberOf))).structs =
      [fieldIdentifiers fields] := by
    unfold Form.structs Form.body
    rw [struct_members]
    rfl
  have shadow : ∀ readings : List FieldReading,
      readings.map FieldReading.member = fieldIdentifiers fields →
      (Decoder.part component.name readings).StructsUnambiguous := by
    intro readings same
    unfold Decoder.part
    split
    · unfold Part.StructsUnambiguous Part.structs
      rw [List.flatMap_singleton, decoder_structs, same]
      exact List.forall_mem_singleton.mpr unambiguous
    · exact .empty
  unfold Component.structPart
  dsimp only
  refine .append (.append (.append ?_ (.none (patterns_structs _ _))) (shadow _ ?_)) ?_
  · unfold Part.StructsUnambiguous Part.structs
    rw [List.flatMap_singleton, own]
    exact List.forall_mem_singleton.mpr unambiguous
  · simp only [List.map_map, Function.comp_def, FieldReading.member, FieldReading.ofField,
      fieldIdentifiers]
  · split
    · apply Part.StructsUnambiguous.none
      unfold Component.validatorPart Part.structs
      rw [List.flatMap_singleton, validator_structs]
    · exact .empty

theorem shape_part_structs (outline : Outline) (component : Component) (comment : List String)
    (unambiguous : Unambiguous (fieldIdentifiers component.shape.fields)) :
    (Component.shapePart outline component comment).StructsUnambiguous := by
  unfold Component.shapePart
  split
  · exact .none rfl
  · rename_i field fields required additional same
    rw [same] at unambiguous
    exact struct_part_structs outline component comment required unambiguous
  · exact .none rfl
  · exact .none rfl

/-- All structs among the components, shadows included. -/
theorem components_unambiguous {program : Program} (drafted : program.Drafted) :
    (componentsPart program).StructsUnambiguous := by
  refine .append outcome_structs (.join ?_)
  intro part among
  obtain ⟨component, member, rfl⟩ := List.mem_map.mp among
  obtain ⟨inner, drawn⟩ := drafted.component_drawn member
  exact .append (.none rfl)
    (shape_part_structs _ component _ (unambiguous_of_identifiable drawn.identified))

end Components

end ApiScaffold.Server

namespace ApiScaffold.Server

open Blueprint Go Source Statement

section Router

theorem reply_structs : Reply.part.StructsUnambiguous := by
  unfold Part.StructsUnambiguous
  decide

theorem hooks_structs : Hooks.part.StructsUnambiguous := by
  unfold Part.StructsUnambiguous
  decide

@[simp] theorem call_hook_structs (hook : String) (arguments : List Code)
    (rest : List Statement) :
    gather structMembers (Reply.callHook hook arguments :: rest) = gather structMembers rest := by
  unfold Reply.callHook
  rw [gather_when, gather_plain, gather_nil]
  rfl

theorem extraction_structs (kind : SchemeKind) :
    gather structMembers (Security.extraction kind) = [] := by
  rcases kind with _ | _ | ⟨place, name⟩ | _
  · rfl
  · rfl
  · cases place <;> rfl
  · rfl

theorem processors_structs (schemes : List SecurityScheme) :
    (Security.processors schemes).form.structs = [] := by
  have opened : opensStruct "return []securityProcessor\x7b" = false := by decide
  unfold Security.processors Form.structs Form.body
  cases schemes <;> simp [opened]

theorem security_structs (schemes : List SecurityScheme) :
    (Security.part schemes).StructsUnambiguous := by
  have fixed : ∀ declaration ∈ Security.types ++
      [Security.checkSecurity, Security.checkAlternative, Security.runProcessor],
      ∀ members ∈ declaration.form.structs, Unambiguous members := by decide
  apply Part.StructsUnambiguous.of_declarations
  intro declaration member
  simp only [Security.part, List.mem_append, List.mem_cons, List.not_mem_nil, or_false] at member
  rcases member with (((type | constants) | rfl | rfl) | extractor) | rfl | rfl | rfl
  · exact fixed declaration (List.mem_append_left _ type)
  · split at constants
    · cases constants
    · cases List.mem_singleton.mp constants
      exact Form.structs_unambiguous rfl
  · exact Form.structs_unambiguous rfl
  · exact Form.structs_unambiguous (processors_structs _)
  · obtain ⟨scheme, _, rfl⟩ := List.mem_map.mp extractor
    exact Form.structs_unambiguous (extraction_structs scheme.kind)
  · exact fixed _ (by simp)
  · exact fixed _ (by simp)
  · exact fixed _ (by simp)

@[simp] theorem fail_structs (kind : String) (error : Code) (hook : String)
    (arguments : List Code) : gather structMembers (fail kind error hook arguments) = [] := by
  simp [fail]

theorem parameter_structs (reading : ParameterReading) :
    gather structMembers reading.statements = [] := by
  have trimming : gather structMembers reading.trimming = [] := by
    unfold ParameterReading.trimming
    split <;> rfl
  have matching : gather structMembers reading.matching = [] := by
    unfold ParameterReading.matching ParameterReading.refuse
    split <;> simp
  have converting : gather structMembers reading.converting = [] := by
    unfold ParameterReading.converting ParameterReading.orRefuse ParameterReading.selfCheck
      ParameterReading.refuse
    dsimp only
    split <;> simp
  unfold ParameterReading.statements ParameterReading.arrayStatements
    ParameterReading.singleStatements ParameterReading.refuse
  dsimp only
  split <;> split <;> simp [trimming, matching, converting]

theorem body_structs (reading : BodyReading) : gather structMembers reading.statements = [] := by
  have decoding : gather structMembers reading.decodingStatements = [] := by
    unfold BodyReading.decodingStatements BodyReading.refuse
    split
    · simp
    · split <;> simp
  have validation : gather structMembers reading.validation = [] := by
    unfold BodyReading.validation
    dsimp only
    split
    · rfl
    · split <;> simp
  simp [BodyReading.statements, decoding, validation]

theorem place_statements_structs (outline : Outline) (operation : Operation) (place : Place) :
    gather structMembers (Parser.placeStatements outline operation place) = [] := by
  have readings (readings : List ParameterReading) :
      gather structMembers (readings.flatMap ParameterReading.statements) = [] := by
    rw [gather_flat_map]
    exact List.flatMap_eq_nil_iff.mpr fun reading _ => parameter_structs reading
  unfold Parser.placeStatements
  dsimp only
  split <;> simp [readings]

theorem parser_structs (outline : Outline) (operation : Operation) (variant : RequestVariant) :
    (Parser.function outline operation variant).form.structs = [] := by
  have places : gather structMembers ((Request.places operation).flatMap
      (Parser.placeStatements outline operation)) = [] := by
    rw [gather_flat_map]
    exact List.flatMap_eq_nil_iff.mpr fun place _ => place_statements_structs outline operation place
  have body : gather structMembers ((Parser.bodyReading outline operation variant).toList.flatMap
      BodyReading.statements) = [] := by
    rw [gather_flat_map]
    exact List.flatMap_eq_nil_iff.mpr fun reading _ => body_structs reading
  have security : gather structMembers (Parser.securityStatements operation) = [] := by
    unfold Parser.securityStatements
    split <;> simp
  unfold Parser.function Form.structs Form.body Parser.statements
  simp [places, body, security]

section Requests

variable (outline : Outline) {operation : Operation}

theorem place_unambiguous (drafted : operation.Drafted) (place : Place) :
    Unambiguous ((operation.parametersIn place).map Request.memberName) := by
  obtain ⟨fresh, given⟩ := drafted.placeable
  unfold parameterIdentifiers at fresh given
  have here (parameter : Parameter) (member : parameter ∈ operation.parametersIn place) :
      parameter ∈ operation.parameters ∧ parameter.place = place :=
    ⟨(List.mem_filter.mp member).1, eq_of_beq (List.mem_filter.mp member).2⟩
  unfold Request.memberName
  constructor
  · intro empty
    obtain ⟨parameter, member, nameless⟩ := List.mem_map.mp empty
    have listed := List.mem_map_of_mem (f := fun parameter : Parameter =>
      (parameter.place, Identifier.exported parameter.name)) (here parameter member).1
    have named := given _ listed
    rw [nameless] at named
    exact named rfl
  · have placed : (operation.parametersIn place).map
        (fun parameter => (parameter.place, Identifier.exported parameter.name)) =
        ((operation.parametersIn place).map fun parameter =>
          Identifier.exported parameter.name).map (place, ·) := by
      rw [List.map_map]
      apply List.map_congr_left
      intro parameter member
      rw [(here parameter member).2]
      rfl
    have kept : (operation.parametersIn place).Sublist operation.parameters := List.filter_sublist
    have distinct := fresh.distinct.sublist (kept.map _)
    rw [placed] at distinct
    exact distinct.of_map

theorem place_part_structs (drafted : operation.Drafted) (place : Place) :
    (Request.placePart outline operation place).StructsUnambiguous := by
  have unambiguous := place_unambiguous drafted place
  have validator : (Request.placeValidator outline operation place).structs = [] := by
    unfold Request.placeValidator
    dsimp only
    split
    · rfl
    · unfold Part.structs
      rw [List.flatMap_singleton, validator_structs]
  unfold Request.placePart
  generalize operation.parametersIn place = parameters at unambiguous
  cases parameters with
  | nil => exact .empty
  | cons parameter others =>
      refine .append (fun members member => ?_) (.none validator)
      rw [List.mem_singleton.mp member]
      simpa [Form.members, Function.comp_def] using unambiguous

/-- The members of a request are some of five. -/
theorem request_members_unambiguous (variant : RequestVariant) :
    Unambiguous ((Request.members operation variant).map (·.name)) := by
  have places : ((Request.places operation).map Place.title).Sublist
      ["Path", "Query", "Header"] := (List.filter_sublist (l := Place.all)).map Place.title
  have body : ((variant.content.toList.map fun _ => "Body")).Sublist ["Body"] := by
    cases variant.content with
    | none => exact List.nil_sublist _
    | some content => exact List.Sublist.refl _
  have named : ((Request.members operation variant).map (·.name)).Sublist
      ["Path", "Query", "Header", "Body", "ProcessingResult"] := by
    have all := (places.append body).append (List.Sublist.refl ["ProcessingResult"])
    simpa [Request.members, Function.comp_def] using all
  have fixed : Unambiguous ["Path", "Query", "Header", "Body", "ProcessingResult"] := by decide
  exact ⟨fun empty => fixed.given (named.subset empty), fixed.distinct.sublist named⟩

theorem request_structs (drafted : operation.Drafted) :
    (Request.part outline operation).StructsUnambiguous := by
  have places : ∀ part ∈ Place.all.map (Request.placePart outline operation),
      part.StructsUnambiguous := by
    intro part among
    obtain ⟨place, _, rfl⟩ := List.mem_map.mp among
    exact place_part_structs outline drafted place
  have variants : ∀ part ∈ (RequestVariant.ofOperation operation).map
      (Request.variantPart outline operation), part.StructsUnambiguous := by
    intro part among
    obtain ⟨variant, _, rfl⟩ := List.mem_map.mp among
    intro members member
    unfold Request.variantPart Part.structs at member
    rw [List.flatMap_cons, List.flatMap_singleton, parser_structs, List.append_nil] at member
    have only : members = (Request.members operation variant).map (·.name) := by
      rw [List.mem_singleton.mp member]
      exact List.append_nil _
    exact only ▸ request_members_unambiguous variant
  refine .append (.append (.append (.join places) (.none (patterns_structs _ _))) (.none rfl))
    (.join variants)

end Requests

section Builders

variable (program : Program) (operation : Operation)

theorem stage_unambiguous (stage : String) :
    ∀ members ∈ (Builder.stageType stage).form.structs, Unambiguous members := by
  intro members member
  have only : Unambiguous ["response"] := by decide
  rw [List.mem_singleton.mp member]
  exact only

theorem step_structs (stage method : String) (parameters : Code) (next : String)
    {body : List Statement} (none : gather structMembers body = []) :
    (Builder.step stage method parameters next body).form.structs = [] := by
  unfold Builder.step Form.structs Form.body Builder.handOn
  simp [none]

theorem start_part_structs : (Builder.startPart operation).StructsUnambiguous := by
  apply Part.StructsUnambiguous.of_declarations
  unfold Builder.startPart
  simp only [List.forall_mem_cons, List.not_mem_nil, false_imp_iff, implies_true, and_true]
  refine ⟨?_, stage_unambiguous _, ?_, ?_, stage_unambiguous _⟩ <;>
    exact List.forall_mem_nil _

theorem status_part_structs (response : Response) :
    (Builder.statusPart operation response).StructsUnambiguous := by
  apply Part.StructsUnambiguous.of_declarations
  unfold Builder.statusPart
  simp only [List.forall_mem_cons, List.not_mem_nil, false_imp_iff, implies_true, and_true]
  exact ⟨List.forall_mem_nil _, stage_unambiguous _⟩

theorem content_part_structs (status : Status) (stage : String) (content : BodyContent) :
    (Builder.contentPart operation status stage content).StructsUnambiguous := by
  apply Part.StructsUnambiguous.of_declarations
  unfold Builder.contentPart
  simp only [List.forall_mem_cons, List.not_mem_nil, false_imp_iff, implies_true, and_true]
  refine ⟨?_, stage_unambiguous _, ?_, stage_unambiguous _, ?_⟩ <;>
    exact List.forall_mem_nil _

theorem headers_part_structs (response : Response) :
    (Builder.headersPart program operation response).structs =
      [response.headers.map Builder.headerMember, ["response"]] := by
  have statements :
      gather structMembers (response.headers.map (Builder.headerStatement program)) = [] := by
    have single (header : ResponseHeader) :
        gather structMembers [Builder.headerStatement program header] = [] := by
      unfold Builder.headerStatement
      dsimp only
      split <;> rfl
    rw [← List.flatMap_singleton' (response.headers.map _), List.flatMap_map, gather_flat_map]
    exact List.flatMap_eq_nil_iff.mpr fun header _ => single header
  unfold Builder.headersPart Part.structs
  rw [List.flatMap_cons, List.flatMap_cons, List.flatMap_singleton,
    step_structs _ _ _ _ (by simp [statements])]
  simp [Form.structs, Form.members, Form.body, Builder.stageType, Function.comp_def]

variable {program operation}

/-- Where the members of a struct cannot be told apart, they are the headers of a response. -/
theorem response_part_structs {response : Response} {members : List String}
    (ambiguous : ¬ Unambiguous members) :
    members ∈ (Builder.responsePart program operation response).structs ↔
      members = response.headers.map Builder.headerMember := by
  have last (stage : String) : Part.StructsUnambiguous
      (if response.contents.isEmpty then { declarations := [Builder.build operation stage] }
        else Part.join (response.contents.map
          (Builder.contentPart operation response.status stage))) := by
    split
    · exact .none rfl
    · apply Part.StructsUnambiguous.join
      intro part among
      obtain ⟨content, _, rfl⟩ := List.mem_map.mp among
      exact content_part_structs operation response.status stage content
  have single : Unambiguous ["response"] := by decide
  unfold Builder.responsePart
  dsimp only
  rw [Part.structs_append, Part.structs_append, List.mem_append, List.mem_append]
  have first : members ∉ (Builder.statusPart operation response).structs :=
    fun member => ambiguous (status_part_structs operation response members member)
  have others (stage : String) := fun member => ambiguous (last stage members member)
  rw [or_iff_right first, or_iff_left (others _)]
  cases empty : response.headers.isEmpty with
  | true =>
      rw [List.isEmpty_iff.mp empty]
      constructor
      · exact fun member => absurd member List.not_mem_nil
      · rintro rfl
        exact absurd ⟨List.not_mem_nil, List.nodup_nil⟩ ambiguous
  | false =>
      rw [Bool.not_false, if_pos rfl, headers_part_structs, List.mem_cons, List.mem_singleton]
      exact or_iff_left fun same => ambiguous (same ▸ single)

theorem builder_structs {members : List String} (ambiguous : ¬ Unambiguous members) :
    members ∈ (Builder.part program operation).structs ↔
      ∃ response ∈ operation.responses, members = response.headers.map Builder.headerMember := by
  unfold Builder.part
  rw [Part.structs_append, List.mem_append, Part.mem_structs_join, or_iff_right
    fun member => ambiguous (start_part_structs operation members member)]
  simp only [List.mem_map, exists_exists_and_eq_and, response_part_structs ambiguous]

end Builders

theorem router_constructor_structs (tag : String) :
    (Service.routerConstructor tag).form.structs = [] := by
  have closed : opensStruct s!"router := &{Service.router tag}\x7b" = false := by
    unfold opensStruct Service.router Text.endsWith Text.dropEnd?
    simp only [toString, List.getLast?_singleton, Option.any_some, Fragment.bare,
      String.toList_append, List.reverse_append]
    rfl
  unfold Service.routerConstructor Form.structs Form.body
  simp [closed]

theorem handler_structs (tag : String) (operation : Operation) :
    (Service.handlerMethod tag operation).form.structs = [] := by
  have branches (variants : List RequestVariant) :
      (variants.map Service.variantBranch).flatMap
        (fun branch => gather structMembers branch.2) = [] := by
    rw [List.flatMap_map]
    exact List.flatMap_eq_nil_iff.mpr fun variant _ => rfl
  have response : gather structMembers (Service.responseStatements operation) = [] := by
    unfold Service.responseStatements
    split
    · rfl
    · simp [branches]
  unfold Service.handlerMethod Form.structs Form.body Service.callRouterHook
  simp [response]

theorem service_structs (tag : String) (operations : List Operation) :
    (Service.part tag operations).StructsUnambiguous := by
  have handlers : ∀ part ∈ operations.map (Service.handlerPart tag), part.StructsUnambiguous := by
    intro part among
    obtain ⟨operation, _, rfl⟩ := List.mem_map.mp among
    apply Part.StructsUnambiguous.none
    unfold Service.handlerPart Part.structs
    rw [List.flatMap_singleton, handler_structs]
  have mounted : (Service.mountMethod tag operations).form.structs = [] := by
    unfold Service.mountMethod Form.structs Form.body
    generalize operations.flatMap Service.Route.ofOperation = routes
    induction routes with
    | nil => rfl
    | cons route rest induction => exact induction
  have members : Unambiguous ["router", "service", "hooks", "processors"] := by decide
  refine .append (.of_declarations ?_) (.join handlers)
  simp only [List.forall_mem_cons, List.not_mem_nil, false_imp_iff, implies_true, and_true]
  refine ⟨List.forall_mem_nil _, ?_,
    Form.structs_unambiguous (router_constructor_structs tag), List.forall_mem_nil _,
    Form.structs_unambiguous mounted⟩
  intro names member
  exact List.mem_singleton.mp member ▸ members

end Router

/-- In every struct that is written the members have names that differ, but for the headers of a
response: their identifiers are not compared with one another, and may be empty. So a struct is
wrong if and only if it is that of such headers. -/
theorem ambiguous_structs_are_headers {document : OpenApi.Document} {config : Config}
    {program : Program} (compiled : (compile document config).1 = .ok program) :
    (∀ members ∈ (componentsPart program).structs, Unambiguous members) ∧
    ∀ members, ¬ Unambiguous members →
      (members ∈ (routerPart program).structs ↔
        ∃ operation ∈ program.operations, ∃ response ∈ operation.responses,
          members = response.headers.map Builder.headerMember) := by
  have drafted := compiled_drafted compiled
  refine ⟨components_unambiguous drafted, fun members ambiguous => ?_⟩
  have apart {part : Part} (sound : part.StructsUnambiguous) : members ∉ part.structs :=
    fun member => ambiguous (sound members member)
  have services : Part.StructsUnambiguous
      (Part.join (program.tags.map fun entry => Service.part entry.1 entry.2)) := by
    apply Part.StructsUnambiguous.join
    intro part among
    obtain ⟨⟨tag, operations⟩, _, rfl⟩ := List.mem_map.mp among
    exact service_structs tag operations
  have single (operation : Operation) (member : operation ∈ program.operations) :
      members ∈ (operationPart (Outline.ofProgram program) operation).structs ↔
        ∃ response ∈ operation.responses, members = response.headers.map Builder.headerMember := by
    unfold operationPart
    rw [Part.structs_append, List.mem_append, builder_structs ambiguous,
      or_iff_right (apart (request_structs _ (drafted.operations operation member)))]
  unfold routerPart
  simp only [Part.structs_append, List.mem_append, apart reply_structs, apart hooks_structs,
    apart (security_structs _), apart services, apart (Part.StructsUnambiguous.none
      (show (documentPart program).structs = [] from rfl)), false_or, or_false,
    Part.mem_structs_join, List.mem_map, exists_exists_and_eq_and]
  constructor
  · rintro ⟨operation, member, listed⟩
    exact ⟨operation, member, (single operation member).mp listed⟩
  · rintro ⟨operation, member, listed⟩
    exact ⟨operation, member, (single operation member).mpr listed⟩

def beacon : OpenApi.Document where
  specification := {
    openapi := "3.0.0"
    paths := [("/f", { declared := [(.get, {
      responses := [("200", .object { headers := [
        ("X-A", .object { schema := some (.object { type := some (.single "string") }) }),
        ("X_A", .object {
          schema := some (.object { type := some (.single "string") }) })] })] })] })] }
  raw := .null

theorem beacon_repeats_member :
    ∃ program artifacts, (compile beacon { package := "api", path := "" }).1 = .ok program ∧
      Artifact.all program = .ok artifacts ∧
      (componentsPart program).StructsUnambiguous ∧
      ["XA", "XA"] ∈ (routerPart program).structs ∧ ¬ Unambiguous ["XA", "XA"] := by
  have holds : (compileShort beacon { package := "api", path := "" }).any fun program =>
      (program.operations.any fun operation => operation.responses.any fun response =>
        response.headers.map Builder.headerMember == ["XA", "XA"]) &&
      decide ((componentsPart program).taken ++ (routerPart program).taken).Nodup := by
    decide +kernel
  obtain ⟨program, result, holds⟩ := compiled_of_short holds
  simp only [Bool.and_eq_true, List.any_eq_true, beq_iff_eq, decide_eq_true_eq] at holds
  obtain ⟨⟨operation, listed, response, answers, members⟩, distinct⟩ := holds
  obtain ⟨artifacts, emitted⟩ := Artifact.succeeds_of_distinct distinct
  have ambiguous : ¬ Unambiguous ["XA", "XA"] := by decide
  obtain ⟨components, router⟩ := ambiguous_structs_are_headers result
  exact ⟨program, artifacts, result, emitted, components,
    (router _ ambiguous).mpr ⟨operation, listed, response, answers, members.symm⟩, ambiguous⟩

end ApiScaffold.Server
