import ApiScaffold.Proofs.ImportUse
import ApiScaffold.Proofs.MethodClash
import ApiScaffold.Proofs.ValidatorRounds

/-!
All validators of the two files, as they are written. A validator is a method that is nothing but a
table of checks, and nothing else that is declared is such a method; so the structs of components and
of parameters have the validators that were drawn up for them, and no others. Each row of a table is
a call of `validation.Field` for one member.
-/

namespace ApiScaffold.Go

open Source

/-- The rows of a method that is nothing but a table, and the type that it belongs to. -/
def Form.table? : Form → Option (String × List (List Code))
  | .method receiver _ _ [.listing _ table _] => some (receiver.type, table)
  | _ => none

/-- If a declaration is a table, it is one that is known. -/
def Tabled (known : String → List (List Code) → Prop) (declaration : Declaration) : Prop :=
  ∀ table, declaration.form.table? = some table → known table.1 table.2

namespace Tabled

variable {known more : String → List (List Code) → Prop} {declaration : Declaration}

theorem none (plain : declaration.form.table? = none) : Tabled known declaration := by
  intro table same
  rw [plain] at same
  cases same

theorem mono (tabled : Tabled known declaration)
    (weaker : ∀ type rows, known type rows → more type rows) : Tabled more declaration :=
  fun table same => weaker _ _ (tabled table same)

end Tabled

end ApiScaffold.Go

namespace ApiScaffold.Server

open Blueprint Go Source

section Rows

/-- The row `validation.Field(&receiver.Member, …),` with the rules of the member. -/
def ListsMember (receiver member : String) (row : Code) : Prop :=
  ∃ rules : List Code, row =
    code [Fragment.imported Package.validation "Field", "(", "&", receiver, ".", member,
      rules.flatMap fun rule => .text ", " :: rule, "),"]

/-- A type has the method `Validate`, which returns `validation.ValidateStruct(&receiver, …)` and
has one row in each line. -/
def Validates (part : Part) (type : String) (rows : List Code) : Prop :=
  ∃ declaration ∈ part.declarations, declaration.form =
    .method { name := receiverName type, type } "Validate" "() error" [
      .listing
        ["return ", .imported Package.validation "ValidateStruct", s!"(&{receiverName type},"]
        (rows.map fun row => [row]) ")"]

def ChecksMember (part : Part) (type member : String) : Prop :=
  ∃ rows, Validates part type rows ∧ ∃ row ∈ rows, ListsMember (receiverName type) member row

theorem separated_cons (separator : String) (first : Code) (rest : List Code) :
    separated separator (first :: rest) =
      first ++ rest.flatMap fun piece => .text separator :: piece := by
  induction rest generalizing first with
  | nil => simp [separated]
  | cons second others induction =>
      have further := induction second
      unfold separated at further ⊢
      rw [List.intersperse_cons_cons, List.flatten_cons, List.flatten_cons, further]
      rfl

theorem check_lists_member (receiver member : String) (arguments : List Code) :
    ListsMember receiver member (Validator.check receiver member arguments) := by
  refine ⟨arguments, ?_⟩
  unfold Validator.check
  rw [separated_cons]
  simp [code]

/-- A row lists one member. -/
theorem ListsMember.unique {receiver first second : String} {row : Code}
    (here : ListsMember receiver first row) (there : ListsMember receiver second row) :
    first = second := by
  obtain ⟨_, spelled⟩ := here
  obtain ⟨_, same⟩ := there
  have sixth := congrArg (fun row : Code => row[5]?) (spelled.symm.trans same)
  exact Fragment.text.inj (Option.some.inj sixth)

theorem validates_of_method {part : Part} {type : String} {checks : List Code}
    (declared : Validator.method type checks ∈ part.declarations) : Validates part type checks :=
  ⟨_, declared, rfl⟩

theorem Validates.tabled {part : Part} {type : String} {rows : List Code}
    {known : String → List (List Code) → Prop} (validates : Validates part type rows)
    (tabled : part.Every (Tabled known)) : known type (rows.map fun row => [row]) := by
  obtain ⟨declaration, declared, form⟩ := validates
  exact tabled declaration declared (type, _) (by rw [form]; rfl)

/-- One row lists the member of each item. -/
def ListsEach {α : Type} (receiver : String) (member : α → String) (items : List α)
    (rows : List Code) : Prop :=
  List.Forall₂ (fun item row => ListsMember receiver (member item) row) items rows

section Items

variable {α : Type} {items : List α} {member : α → String} {validates : α → Bool}
  {receiver : String} {rows : List Code}

theorem ListsEach.row (lists : ListsEach receiver member items rows) {item : α}
    (listed : item ∈ items) : ∃ row ∈ rows, ListsMember receiver (member item) row :=
  partner_of_mem lists listed

theorem lists_each_of_checks (items : List α) (arguments : α → List Code) :
    ListsEach receiver member items
      (items.map fun item => Validator.check receiver (member item) (arguments item)) :=
  List.forall₂_map_right_iff.mpr
    (List.forall₂_same.mpr fun item _ => check_lists_member receiver (member item) _)

/-- Where the members of items differ, an item is only listed if it is among those that are. -/
theorem ListsEach.validated (lists : ListsEach receiver member (items.filter validates) rows)
    (distinct : (items.map member).Nodup) {item : α} (listed : item ∈ items) {row : Code}
    (among : row ∈ rows) (own : ListsMember receiver (member item) row) :
    validates item = true := by
  obtain ⟨found, kept, other⟩ := partner_of_mem lists.flip among
  obtain ⟨inside, validated⟩ := List.mem_filter.mp kept
  have equal := List.inj_on_of_nodup_map distinct inside listed (ListsMember.unique other own)
  exact equal ▸ validated

end Items

end Rows

theorem singletons_injective {first second : List Code}
    (same : (first.map fun row => [row]) = second.map fun row => [row]) : first = second :=
  List.map_injective_iff.mpr (fun _ _ => List.singleton_inj.mp) same

section Components

variable (outline : Outline) (component : Component)

def Component.Checks (type : String) (rows : List (List Code)) : Prop :=
  component.name = type ∧ component.skipValidation = false ∧
    outline.hasValidator component.name = true ∧
    rows = ((component.shape.fields.filter outline.fieldValidates).map
      (Component.fieldCheck outline type)).map fun check => [check]

theorem patterns_tabled {known : String → List (List Code) → Prop} (owner : String)
    (patterns : List PatternVariable) :
    (PatternVariable.part owner patterns).Every (Tabled known) := by
  unfold PatternVariable.part
  split
  · exact Part.every_empty
  · exact List.forall_mem_singleton.mpr (.none rfl)

theorem shape_part_tabled (comment : List String) :
    (Component.shapePart outline component comment).Every
      (Tabled (Component.Checks outline component)) := by
  unfold Component.shapePart
  split
  · exact List.forall_mem_singleton.mpr (.none rfl)
  · rename_i field fields required additional object
    unfold Component.structPart Decoder.part
    dsimp only
    rw [Part.every_append, Part.every_append, Part.every_append]
    refine ⟨⟨⟨List.forall_mem_singleton.mpr (.none rfl), patterns_tabled _ _⟩, ?_⟩, ?_⟩
    · split
      · exact List.forall_mem_singleton.mpr (.none rfl)
      · exact Part.every_empty
    · split
      · rename_i validated
        refine List.forall_mem_singleton.mpr fun table same => ?_
        cases same
        obtain ⟨kept, marked⟩ := Bool.and_eq_true_iff.mp validated
        refine ⟨rfl, by simpa using kept, marked, ?_⟩
        rw [object]
        rfl
      · exact Part.every_empty
  · simp only [Part.Every, Component.enumPart, List.forall_mem_cons, List.not_mem_nil,
      false_imp_iff, implies_true, and_true]
    exact ⟨.none rfl, .none rfl, .none rfl, .none rfl⟩
  · exact List.forall_mem_singleton.mpr (.none rfl)

theorem components_tabled (program : Program) : (componentsPart program).Every
    (Tabled fun type rows => ∃ component ∈ program.components.values,
      Component.Checks (Outline.ofProgram program) component type rows) := by
  have runtime : ∀ declaration ∈ Outcome.part.declarations, declaration.form.table? = none := by
    decide
  unfold componentsPart
  dsimp only
  rw [Part.every_append, Part.every_join_map]
  refine ⟨fun declaration listed => .none (runtime declaration listed), fun component member => ?_⟩
  unfold Component.part
  dsimp only
  rw [Part.every_append]
  refine ⟨List.forall_mem_nil _, fun declaration listed => ?_⟩
  exact (shape_part_tabled _ component _ declaration listed).mono fun type rows own =>
    ⟨component, member, own⟩

end Components

section Router

def Operation.Checks (outline : Outline) (operation : Operation) (type : String)
    (rows : List (List Code)) : Prop :=
  ∃ place, Request.placeStruct operation place = type ∧
    rows = (((operation.parametersIn place).filter fun parameter =>
      outline.fieldValidates parameter.field).map
        (Request.parameterCheck outline operation type)).map fun check => [check]

variable (outline : Outline) (operation : Operation) {known : String → List (List Code) → Prop}

theorem request_part_tabled : (Request.part outline operation).Every
    (Tabled (Operation.Checks outline operation)) := by
  unfold Request.part Request.patternPart
  rw [Part.every_append, Part.every_append, Part.every_append, Part.every_join_map,
    Part.every_join_map]
  refine ⟨⟨⟨fun place _ => ?_, patterns_tabled _ _⟩, Part.every_empty⟩, fun variant _ => ?_⟩
  · unfold Request.placePart
    split
    · exact Part.every_empty
    · unfold Request.placeValidator
      dsimp only
      rw [Part.every_append]
      refine ⟨List.forall_mem_singleton.mpr (.none rfl), ?_⟩
      split
      · exact Part.every_empty
      · refine List.forall_mem_singleton.mpr fun table same => ?_
        cases same
        exact ⟨place, rfl, rfl⟩
  · unfold Request.variantPart Parser.function
    simp only [Part.Every, List.forall_mem_cons, List.not_mem_nil, false_imp_iff, implies_true,
      and_true]
    exact ⟨.none rfl, .none rfl⟩

theorem builder_part_tabled (program : Program) :
    (Builder.part program operation).Every (Tabled known) := by
  unfold Builder.part
  rw [Part.every_append, Part.every_join_map]
  refine ⟨?_, fun response _ => ?_⟩
  · unfold Builder.startPart
    simp only [Part.Every, List.forall_mem_cons, List.not_mem_nil, false_imp_iff, implies_true,
      and_true]
    exact ⟨.none rfl, .none rfl, .none rfl, .none rfl, .none rfl⟩
  · unfold Builder.responsePart
    dsimp only
    rw [Part.every_append, Part.every_append]
    refine ⟨⟨?_, ?_⟩, ?_⟩
    · unfold Builder.statusPart
      simp only [Part.Every, List.forall_mem_cons, List.not_mem_nil, false_imp_iff, implies_true,
        and_true]
      exact ⟨.none rfl, .none rfl⟩
    · split
      · unfold Builder.headersPart
        simp only [Part.Every, List.forall_mem_cons, List.not_mem_nil, false_imp_iff,
          implies_true, and_true]
        exact ⟨.none rfl, .none rfl, .none rfl⟩
      · exact Part.every_empty
    · split
      · exact List.forall_mem_singleton.mpr (.none rfl)
      · rw [Part.every_join_map]
        intro content _
        unfold Builder.contentPart
        simp only [Part.Every, List.forall_mem_cons, List.not_mem_nil, false_imp_iff,
          implies_true, and_true]
        exact ⟨.none rfl, .none rfl, .none rfl, .none rfl, .none rfl⟩

theorem handler_untabled (tag : String) :
    (Service.handlerMethod tag operation).form.table? = none := by
  unfold Service.handlerMethod Service.responseStatements
  split <;> rfl

theorem mount_untabled (tag : String) (operations : List Operation) :
    (Service.mountMethod tag operations).form.table? = none := by
  unfold Service.mountMethod
  cases operations.flatMap Service.Route.ofOperation with
  | nil => rfl
  | cons route rest => rfl

theorem service_part_tabled (tag : String) (operations : List Operation) :
    (Service.part tag operations).Every (Tabled known) := by
  unfold Service.part
  rw [Part.every_append, Part.every_join_map]
  refine ⟨?_, fun operation _ => List.forall_mem_singleton.mpr (.none (handler_untabled _ _))⟩
  simp only [Part.Every, List.forall_mem_cons, List.not_mem_nil, false_imp_iff, implies_true,
    and_true]
  exact ⟨.none rfl, .none rfl, .none rfl, .none rfl, .none (mount_untabled _ _)⟩

theorem security_part_tabled (schemes : List SecurityScheme) :
    (Security.part schemes).Every (Tabled known) := by
  have types : ∀ declaration ∈ Security.types, declaration.form.table? = none := by decide
  unfold Security.part Part.Every
  simp only [List.forall_mem_append, List.forall_mem_cons, List.not_mem_nil, false_imp_iff,
    implies_true, and_true, List.forall_mem_map]
  refine ⟨⟨⟨⟨fun declaration listed => .none (types declaration listed), ?_⟩, .none rfl,
    .none rfl⟩, fun _ _ => .none rfl⟩, .none rfl, .none rfl, .none rfl⟩
  split
  · exact List.forall_mem_nil _
  · exact List.forall_mem_singleton.mpr (.none rfl)

theorem router_tabled (program : Program) : (routerPart program).Every
    (Tabled fun type rows => ∃ operation ∈ program.operations,
      Operation.Checks (Outline.ofProgram program) operation type rows) := by
  have reply : ∀ declaration ∈ Reply.part.declarations, declaration.form.table? = none := by
    decide
  unfold routerPart operationPart
  dsimp only
  simp only [Part.every_append, Part.every_join_map]
  refine ⟨⟨⟨⟨⟨fun declaration listed => .none (reply declaration listed),
    List.forall_mem_singleton.mpr (.none rfl)⟩, security_part_tabled _⟩,
    fun operation member => ⟨fun declaration listed => ?_, builder_part_tabled _ _⟩⟩,
    fun entry _ => service_part_tabled entry.1 entry.2⟩, List.forall_mem_singleton.mpr (.none rfl)⟩
  exact (request_part_tabled _ operation declaration listed).mono fun type rows own =>
    ⟨operation, member, own⟩

end Router

section Components

variable {program : Program} {component : Component}

theorem component_validates {outline : Outline} (kept : component.skipValidation = false)
    {field : Blueprint.Field Shape} (listed : field ∈ component.shape.fields)
    (validates : outline.fieldValidates field = true) :
    outline.componentValidates component = true := by
  unfold Outline.componentValidates
  rw [kept]
  cases shape : component.shape with
  | object fields required additional =>
      rw [shape] at listed
      obtain ⟨entry, among, rfl⟩ := List.mem_map.mp listed
      exact List.any_eq_true.mpr ⟨entry, among, validates⟩
  | _ =>
      rw [shape] at listed
      cases listed

/-- The fields of a component that validate are listed one after the other. -/
def ListsFields (outline : Outline) (component : Component) (rows : List Code) : Prop :=
  ListsEach (receiverName component.name) (fun field => Identifier.exported field.jsonName)
    (component.shape.fields.filter outline.fieldValidates) rows

theorem validator_emitted (member : component ∈ program.components.values)
    (kept : component.skipValidation = false) (filled : component.shape.fields ≠ [])
    (known : (Outline.ofProgram program).hasValidator component.name = true) :
    ∃ rows, Validates (componentsPart program) component.name rows := by
  have among := List.mem_map_of_mem (f := Component.part (Outline.ofProgram program)) member
  refine ⟨((component.shape.fields.filter (Outline.ofProgram program).fieldValidates).map
    (Component.fieldCheck (Outline.ofProgram program) component.name)), validates_of_method ?_⟩
  refine List.mem_append_right _ (Part.declarations_subset_join among ?_)
  refine List.mem_append_right _ ?_
  cases object : component.shape with
  | object fields required additional =>
      rw [object] at filled
      rw [Component.shape_part_of_fields _ object fun none => filled (by rw [none]; rfl)]
      refine List.mem_append_right _ ?_
      rw [kept, known, Bool.not_false, Bool.true_and, if_pos rfl]
      exact List.mem_cons_self
  | _ =>
      rw [object] at filled
      exact absurd rfl filled

/-- Every validator is that of a component which is to be validated, and lists its fields. -/
theorem validator_rows (named : WellNamed program) (member : component ∈ program.components.values)
    {rows : List Code} (validates : Validates (componentsPart program) component.name rows) :
    component.skipValidation = false ∧
      (Outline.ofProgram program).hasValidator component.name = true ∧
      ListsFields (Outline.ofProgram program) component rows := by
  obtain ⟨other, known, same, kept, marked, tabled⟩ :=
    validates.tabled (components_tabled program)
  obtain rfl := named.unique known member same
  refine ⟨kept, marked, ?_⟩
  rw [singletons_injective tabled]
  exact lists_each_of_checks _ _

end Components

section Members

variable {document : OpenApi.Document} {config : Config} {program : Program}
  (compiled : (compile document config).1 = .ok program)

include compiled

/-- A struct of fields checks a member iff it is to be validated and the field validates. -/
theorem field_member_checked {component : Component}
    (member : component ∈ program.components.values) {field : Blueprint.Field Shape}
    (listed : field ∈ component.shape.fields) :
    ChecksMember (componentsPart program) component.name (Identifier.exported field.jsonName) ↔
      component.skipValidation = false ∧
        (Outline.ofProgram program).fieldValidates field = true := by
  obtain ⟨whole, given⟩ := lowered_given (compiled_iff.mp compiled)
  have named := given_well_named given
  constructor
  · rintro ⟨rows, declared, row, among, own⟩
    obtain ⟨kept, _, lists⟩ := validator_rows named member declared
    obtain ⟨_, drawn⟩ := (compiled_drafted compiled).component_drawn member
    have distinct := (unambiguous_of_identifiable drawn.identified).distinct
    exact ⟨kept, lists.validated distinct listed among own⟩
  · rintro ⟨kept, validates⟩
    have known := Outline.validator_of_validates member (component_validates kept listed validates)
    obtain ⟨rows, declared⟩ := validator_emitted member kept (List.ne_nil_of_mem listed) known
    obtain ⟨_, _, lists⟩ := validator_rows named member declared
    exact ⟨rows, declared, lists.row (List.mem_filter.mpr ⟨listed, validates⟩)⟩

omit compiled in
theorem place_struct_injective {first second : Operation} {place place' : Place}
    (same : Request.placeStruct first place = Request.placeStruct second place') :
    first.name = second.name ∧ place = place' := by
  -- The titles of the places end with different letters.
  have last (operation : Operation) (place : Place) :
      (Request.placeStruct operation place).toList.getLast? = place.title.toList.getLast? := by
    unfold Request.placeStruct
    cases place <;> simp [toString, String.toList_append, Place.title]
  have places : place = place' := by
    have ends := (last first place).symm.trans (same ▸ last second place')
    revert ends
    cases place <;> cases place' <;> decide
  subst places
  refine ⟨?_, rfl⟩
  unfold Request.placeStruct at same
  simpa [toString] using same

omit compiled in
theorem parameter_placed {operation : Operation} {parameter : Parameter}
    (listed : parameter ∈ operation.parameters) :
    parameter ∈ operation.parametersIn parameter.place :=
  List.mem_filter.mpr ⟨listed, beq_self_eq_true _⟩

omit compiled in
theorem place_validator_emitted {operation : Operation} (used : operation ∈ program.operations)
    {parameter : Parameter} (listed : parameter ∈ operation.parameters)
    (validates : (Outline.ofProgram program).fieldValidates parameter.field = true) :
    Validator.method (Request.placeStruct operation parameter.place)
      (((operation.parametersIn parameter.place).filter fun parameter =>
        (Outline.ofProgram program).fieldValidates parameter.field).map
          (Request.parameterCheck (Outline.ofProgram program) operation
            (Request.placeStruct operation parameter.place))) ∈
              (routerPart program).declarations := by
  have placed := parameter_placed listed
  refine place_part_included used parameter.place ?_
  unfold Request.placePart
  split
  · rename_i empty
    rw [empty] at placed
    cases placed
  · refine List.mem_append_right _ ?_
    unfold Request.placeValidator
    dsimp only
    rw [if_neg]
    · exact List.mem_singleton_self _
    · rw [List.isEmpty_iff]
      exact List.ne_nil_of_mem (List.mem_filter.mpr ⟨placed, validates⟩)

/-- A struct of parameters checks a member iff the parameter validates. -/
theorem parameter_member_checked {operation : Operation} (used : operation ∈ program.operations)
    {parameter : Parameter} (listed : parameter ∈ operation.parameters) :
    ChecksMember (routerPart program) (Request.placeStruct operation parameter.place)
        (Request.memberName parameter) ↔
      (Outline.ofProgram program).fieldValidates parameter.field = true := by
  constructor
  · rintro ⟨rows, declared, row, among, own⟩
    obtain ⟨whole, given⟩ := lowered_given (compiled_iff.mp compiled)
    obtain ⟨other, known, place, struct, tabled⟩ := declared.tabled (router_tabled program)
    obtain ⟨named, rfl⟩ := place_struct_injective struct
    have same := List.inj_on_of_nodup_map given.operations.names known used named
    subst same
    have drafted := (compiled_drafted compiled).operations _ used
    have distinct := (place_unambiguous drafted parameter.place).distinct
    rw [singletons_injective tabled] at among
    exact (lists_each_of_checks _ _).validated distinct (parameter_placed listed) among own
  · intro validates
    have kept : parameter ∈ (operation.parametersIn parameter.place).filter fun parameter =>
        (Outline.ofProgram program).fieldValidates parameter.field :=
      List.mem_filter.mpr ⟨parameter_placed listed, validates⟩
    exact ⟨_, validates_of_method (place_validator_emitted used listed validates),
      (lists_each_of_checks _ _).row kept⟩

end Members

section Bodies

open Go.Statement

/-- Asks `validation.Validate(request.Body)`; on an error the outcome is recorded, its hook called,
and the parser left. -/
def bodyCheck (operation : Operation) : Statement :=
  .when ["err := ", .qualified Package.validation "Validate", "(request.Body); err != nil"] [
    .assign "request.ProcessingResult"
      [.component "NewRequestProcessingResult", "(", .component "BodyValidationFailed", ", ", "err",
        ")"],
    .when "hooks.RequestBodyValidationFailed != nil" [
      .plain ["hooks.RequestBodyValidationFailed(", "r", ", ", quote operation.name, ", ",
        "request.ProcessingResult", ")"]],
    .give []]

/-- A body that validates is checked once it has been read. -/
theorem validation_checks {reading : BodyReading} {operation : Operation}
    (keyed : reading.operationKey = quote operation.name) (validates : reading.validates = true) :
    bodyCheck operation ∈ wholes reading.validation := by
  unfold BodyReading.validation
  rw [validates, keyed, Bool.not_true, if_neg Bool.false_ne_true]
  split
  · exact List.mem_append_left _ (List.mem_cons_of_mem _ List.mem_cons_self)
  · exact List.mem_cons_self

theorem body_checked {outline : Outline} {operation : Operation} {content : BodyContent}
    (validates : outline.nestedValidates content.shape = true) {variant : RequestVariant}
    (reads : variant.content = some content) :
    bodyCheck operation ∈ wholes (Parser.statements outline operation variant) := by
  have checked := @validation_checks (BodyReading.ofContent outline operation content) operation
    rfl validates
  unfold Parser.statements Parser.bodyReading
  rw [reads, Option.map_some, Option.toList_some, List.flatMap_singleton]
  unfold BodyReading.statements
  simp only [wholes_append, List.mem_append]
  exact .inl (.inr (.inr checked))

theorem parser_emitted {program : Program} {operation : Operation} {variant : RequestVariant}
    (listed : operation ∈ program.operations)
    (among : variant ∈ RequestVariant.ofOperation operation) :
    ∃ declaration ∈ (routerPart program).declarations, ∃ signature, declaration.form =
      .function variant.parser signature
        (Parser.statements (Outline.ofProgram program) operation variant) := by
  have own : Parser.function (Outline.ofProgram program) operation variant ∈
      (operationPart (Outline.ofProgram program) operation).declarations := by
    refine List.mem_append_left _ (List.mem_append_right _ ?_)
    exact Part.declarations_subset_join (List.mem_map_of_mem among)
      (List.mem_cons_of_mem _ List.mem_cons_self)
  have emitted : Parser.function (Outline.ofProgram program) operation variant ∈
      (routerPart program).declarations := by
    refine List.mem_append_left _ (List.mem_append_left _ (List.mem_append_right _ ?_))
    exact Part.declarations_subset_join (List.mem_map_of_mem listed) own
  exact ⟨_, emitted, _, rfl⟩

/-- The conditions that ask for the validity of what has been read. -/
def validityAsked : Statement → List Code
  | .when condition _ =>
    if .qualified Package.validation "Validate" ∈ namesOf condition then [condition] else []
  | _ => []

@[simp] theorem call_hook_validity (hook : String) (arguments : List Code)
    (rest : List Statement) :
    gather validityAsked (Reply.callHook hook arguments :: rest) = gather validityAsked rest := by
  simp [Reply.callHook, validityAsked]

@[simp] theorem fail_validity (kind : String) (error : Code) (hook : String)
    (arguments : List Code) : gather validityAsked (fail kind error hook arguments) = [] := by
  simp [fail, validityAsked]

theorem parameter_validity (reading : ParameterReading) :
    gather validityAsked reading.statements = [] := by
  have trimming : gather validityAsked reading.trimming = [] := by
    unfold ParameterReading.trimming
    split <;> rfl
  have matching : gather validityAsked reading.matching = [] := by
    unfold ParameterReading.matching ParameterReading.refuse
    split <;> simp [validityAsked]
  have converting : gather validityAsked reading.converting = [] := by
    unfold ParameterReading.converting ParameterReading.orRefuse ParameterReading.selfCheck
      ParameterReading.refuse
    dsimp only
    split <;> simp [validityAsked]
  have source : Fragment.qualified Package.validation "Validate" ∉ namesOf reading.source := by
    unfold ParameterReading.source
    cases reading.parameter.place with
    | query => cases reading.repeated <;> simp
    | _ => simp
  unfold ParameterReading.statements ParameterReading.arrayStatements
    ParameterReading.singleStatements ParameterReading.refuse
  dsimp only
  split <;> split <;> simp [trimming, matching, converting, validityAsked, source]

theorem decoding_validity (reading : BodyReading) :
    gather validityAsked reading.decodingStatements = [] := by
  unfold BodyReading.decodingStatements BodyReading.refuse
  split
  · simp [validityAsked]
  · have decoder : Fragment.qualified Package.validation "Validate" ∉
        namesOf reading.decoding.code := by
      unfold BodyDecoding.code BodyDecoding.decoderCall
      split <;> simp
    split <;> simp [validityAsked, decoder]

theorem place_validity (outline : Outline) (operation : Operation) (place : Place) :
    gather validityAsked (Parser.placeStatements outline operation place) = [] := by
  have readings (readings : List ParameterReading) :
      gather validityAsked (readings.flatMap ParameterReading.statements) = [] := by
    rw [gather_flat_map]
    exact List.flatMap_eq_nil_iff.mpr fun reading _ => parameter_validity reading
  unfold Parser.placeStatements
  dsimp only
  split <;> simp [readings, validityAsked]

theorem security_validity (operation : Operation) :
    gather validityAsked (Parser.securityStatements operation) = [] := by
  unfold Parser.securityStatements Parser.alternatives
  split <;> simp [validityAsked]

theorem parser_validity (outline : Outline) (operation : Operation) (variant : RequestVariant) :
    gather validityAsked (Parser.statements outline operation variant) =
      (Parser.bodyReading outline operation variant).toList.flatMap fun reading =>
        gather validityAsked reading.validation := by
  have places : gather validityAsked ((Request.places operation).flatMap
      (Parser.placeStatements outline operation)) = [] := by
    rw [gather_flat_map]
    exact List.flatMap_eq_nil_iff.mpr fun place _ => place_validity outline operation place
  have body (reading : BodyReading) : gather validityAsked reading.statements =
      gather validityAsked reading.validation := by
    simp [BodyReading.statements, decoding_validity, validityAsked]
  unfold Parser.statements
  simp [places, security_validity, gather_flat_map, body, validityAsked]

/-- A parser checks the body iff the values of its shape validate. -/
theorem body_checked_iff {outline : Outline} {operation : Operation} {variant : RequestVariant}
    {content : BodyContent} (reads : variant.content = some content) :
    bodyCheck operation ∈ wholes (Parser.statements outline operation variant) ↔
      outline.nestedValidates content.shape = true := by
  constructor
  · intro checked
    -- Its condition asks for validity, and only the validation of a body has such conditions.
    have asked : validityAsked (bodyCheck operation) ≠ [] := by
      simp [bodyCheck, validityAsked]
    obtain ⟨condition, own⟩ := List.exists_mem_of_ne_nil _ asked
    have among : condition ∈ gather validityAsked (Parser.statements outline operation variant) :=
      List.mem_flatMap.mpr ⟨_, checked, own⟩
    rw [parser_validity, Parser.bodyReading, reads] at among
    obtain ⟨reading, known, inside⟩ := List.mem_flatMap.mp among
    cases List.mem_singleton.mp known
    by_contra plain
    have idle : (BodyReading.ofContent outline operation content).validation = [] := by
      unfold BodyReading.validation BodyReading.ofContent
      simp [plain]
    rw [idle] at inside
    cases inside
  · exact fun validates => body_checked validates reads

end Bodies

section Conversions

theorem primitive_conversion_validated {kind : PrimitiveKind} {raw : Code} :
    (∃ value, primitiveConversion kind raw = .validated value) ↔ checksItself kind = true := by
  cases kind <;> simp [primitiveConversion, checksItself]

theorem conversion_validated_iff {shape resolved : Shape} {raw : Code} :
    (∃ value, conversionOf shape resolved raw = .validated value) ↔
      ∃ primitive, resolved = .primitive primitive ∧ checksItself primitive.kind = true := by
  unfold conversionOf
  cases resolved with
  | primitive primitive => simpa using primitive_conversion_validated
  | enum enumeration =>
      dsimp only
      split <;> simp
  | custom type =>
      dsimp only
      split <;> simp
  | _ => simp

/-- The value of a parameter is asked to validate itself. -/
def ChecksItself (reading : ParameterReading) : Prop :=
  ∃ refusal, .when s!"err := {reading.value}.Validate(); err != nil" refusal ∈ reading.converting

theorem self_check_validate (reading : ParameterReading) : reading.selfCheck "Validate" =
    .when s!"err := {reading.value}.Validate(); err != nil" (reading.refuse "err") := by
  unfold ParameterReading.selfCheck
  simp only [toString, String.append_assoc]
  rfl

theorem self_check_check (reading : ParameterReading) : reading.selfCheck "Check" =
    .when s!"err := {reading.value}.Check(); err != nil" (reading.refuse "err") := by
  unfold ParameterReading.selfCheck
  simp only [toString, String.append_assoc]
  rfl

/-- Of the conditions under which a parameter is refused, one asks the value to validate itself. -/
theorem validate_condition_ne (value : String) :
    s!"err := {value}.Validate(); err != nil" ≠ s!"err := {value}.Check(); err != nil" ∧
      s!"err := {value}.Validate(); err != nil" ≠ "err != nil" := by
  constructor
  · intro same
    have lengths := congrArg String.length same
    simp only [toString, String.length_append, Nat.add_left_cancel_iff] at lengths
    exact absurd lengths (by decide)
  · intro same
    have lengths := congrArg String.length same
    have shorter : "err != nil".length < ".Validate(); err != nil".length := by decide
    simp only [toString, String.length_append] at lengths
    omega

theorem checks_itself_iff (reading : ParameterReading) :
    ChecksItself reading ↔ ∃ value, reading.conversion = .validated value := by
  obtain ⟨check, refusal⟩ := validate_condition_ne reading.value
  unfold ChecksItself ParameterReading.converting ParameterReading.orRefuse
  rw [self_check_validate, self_check_check]
  dsimp only
  cases reading.conversion <;> simp [check, refusal]

/-- The values that a parameter of a shape is made of are of a format that checks itself. -/
def ReadsFormat (outline : Outline) (shape : Shape) : Prop :=
  ∃ primitive, outline.resolve ((outline.element? shape).getD shape) = .primitive primitive ∧
    checksItself primitive.kind = true

/-- A parameter is asked to validate itself iff its values are of a format that does. -/
theorem parameter_checks_itself {outline : Outline} {operation : Operation}
    {parameter : Parameter} :
    ChecksItself (.ofParameter outline operation parameter) ↔
      ReadsFormat outline parameter.field.shape := by
  rw [checks_itself_iff]
  unfold ParameterReading.ofParameter ReadsFormat Outline.element?
  dsimp only
  rw [conversion_validated_iff]
  cases outline.resolve parameter.field.shape <;> rfl

end Conversions
end ApiScaffold.Server
