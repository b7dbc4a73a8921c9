import ApiScaffold.Proofs.RecursiveTypes

/-!
Every schema that stands in a document has its part in the program. By induction over where it
stands, lowering has come to it and has given it a shape; if the shape needs a declaration, there is
a component of the name under which the schema stands. So what a schema says of its properties can
be found in the program by that name alone.
-/

namespace ApiScaffold.Blueprint

open OpenApi (Schema OrRef Extensions Specification AdditionalProperties MediaType Document)

/-- Something of the document has been given its shape where it stands under a name. -/
inductive Shaped (specification : Specification) (whole : Effects) (name : String) :
    OrRef Schema → Prop where
  | reference {target : String} : Shaped specification whole name (.reference target)
  | schema {schema : Schema} {location : String} {shape : Shape}
    (declared : (shapePlan specification .declared name location schema).Gives whole shape)
    (registered : shape.isInPlace = false →
      ∃ component ∈ whole.components, component.name = name ∧ component.shape = shape) :
    Shaped specification whole name (.object schema)

section Levels

variable {specification : Specification} {whole : Effects} {hint location : String}

theorem Nested.shaped {item : OrRef Schema} {shape : Shape}
    (nested : Nested specification whole hint location item shape) :
    Shaped specification whole hint item := by
  cases nested with
  | reference declared => exact .reference
  | inPlace declared stays =>
      refine .schema declared fun moves => ?_
      rw [stays] at moves
      cases moves
  | component declared named registered =>
      exact .schema declared fun _ => ⟨_, registered, named, rfl⟩

theorem nested_shaped {item : OrRef Schema} {shape : Shape}
    (gives : (nestedPlan specification hint location item).Gives whole shape) :
    Shaped specification whole hint item := (nested_gives gives).shaped

section Forms

variable {schema : Schema} {shape : Shape}
  (gives : (shapePlan specification .declared hint location schema).Gives whole shape)

include gives

theorem own_gives {form : SchemaForm} (stated : statedForm schema = some form)
    (other : form ≠ .custom) : ∃ extensions, statedExtensions schema = some extensions ∧
      SchemaForm.of extensions schema = form ∧
      ((innerPlans specification hint location schema).own specification .declared hint location
        extensions schema).Gives whole shape := by
  rw [shape_plan_of_schema] at gives
  obtain ⟨extensions, read, own⟩ := Plan.Gives.bind_iff.mp gives
  have taken := stated_form_of_read read.of_given
  rw [stated] at taken
  have form_eq := (Option.some.inj taken).symm
  refine ⟨extensions, stated_of_read read.of_given, form_eq, ?_⟩
  split at own
  case h_1 target typed =>
    rw [← form_eq, SchemaForm.of, typed] at other
    exact absurd rfl other
  case h_2 untyped => exact own

theorem composed_gives (stated : statedForm schema = some .composition) :
    ((innerPlans specification hint location schema).composed specification location schema).Gives
      whole shape := by
  obtain ⟨extensions, _, form, own⟩ := own_gives gives stated nofun
  unfold SchemaForm.of at form
  unfold InnerPlans.own at own
  split at own
  · exact absurd own Plan.Gives.not_fails
  split at own
  · exact own
  · rename_i simple
    rw [if_neg simple] at form
    split at form
    · cases form
    split at form
    · cases form
    split at form
    · cases form
    split at form <;> cases form

theorem members_given (stated : statedForm schema = some .composition)
    (several : onlyReference? schema = none) :
    ∃ location members, (memberPlans specification s!"{hint}{(composedMembers schema).1}" location 0
      (composedMembers schema).2).Gives whole members := by
  have composed := composed_gives gives stated
  unfold InnerPlans.composed at composed
  rw [several] at composed
  dsimp only at composed
  unfold composedMembers
  split at composed
  case isTrue all =>
    obtain ⟨members, planned, _⟩ := Plan.Gives.bind_iff.mp composed
    rw [if_pos all]
    exact ⟨_, members, planned⟩
  split at composed
  case isTrue none one =>
    obtain ⟨members, planned, _⟩ := Plan.Gives.bind_iff.mp composed
    rw [if_neg none, if_pos one]
    exact ⟨_, members, planned⟩
  case isFalse none other =>
    obtain ⟨members, planned, _⟩ := Plan.Gives.bind_iff.mp composed
    rw [if_neg none, if_neg other]
    exact ⟨_, members, planned⟩

/-- The shape of a schema of a form, which is that of the schema where it is declared. -/
theorem formed_gives {form : SchemaForm} (stated : statedForm schema = some form) :
    ∃ extensions, statedExtensions schema = some extensions ∧
      SchemaForm.of extensions schema = form ∧
      Outlined specification whole hint location extensions schema shape := by
  obtain ⟨extensions, read, outlined⟩ := declared_outlined gives
  have taken := stated_form_of_read read
  rw [stated] at taken
  exact ⟨extensions, stated_of_read read, (Option.some.inj taken).symm, outlined⟩

theorem array_given (stated : statedForm schema = some .array) :
    ∃ element, shape = .array element schema.minItems schema.maxItems ∧
      (innerPlans specification hint location schema).element.Gives whole element := by
  obtain ⟨extensions, _, form, outlined⟩ := formed_gives gives stated
  cases outlined with
  | array _ planned => exact ⟨_, rfl, planned⟩
  | custom stated => simp [SchemaForm.of, stated] at form
  | _ => cases form.symm.trans ‹SchemaForm.of extensions schema = _›

theorem object_given (stated : statedForm schema = some .object) :
    ∃ extensions fields additional, statedExtensions schema = some extensions ∧
      shape = .object fields (declaredRequirements schema) additional ∧
      FieldsGiven specification whole hint location schema fields ∧
      ((innerPlans specification hint location schema).beside extensions.mapType).Gives whole
        additional := by
  obtain ⟨extensions, read, form, outlined⟩ := formed_gives gives stated
  cases outlined with
  | object _ planned beside => exact ⟨_, _, _, read, rfl, fields_give planned, beside⟩
  | custom stated => simp [SchemaForm.of, stated] at form
  | _ => cases form.symm.trans ‹SchemaForm.of extensions schema = _›

end Forms

theorem FieldsGiven.filled {schema : Schema} {fields : List (String × Field Shape)}
    (kept : FieldsGiven specification whole hint location schema fields)
    (properties : schema.properties ≠ []) : fields ≠ [] := by
  rintro rfl
  have pairs := kept.given
  cases stated : schema.properties with
  | nil => exact properties stated
  | cons first rest =>
      rw [stated] at pairs
      cases pairs

theorem members_shaped {items : List (OrRef Schema)} {index : Nat} {members : List Shape}
    (gives : (memberPlans specification hint location index items).Gives whole members) :
    ∀ entry ∈ items.zipIdx index, Shaped specification whole s!"{hint}{entry.2}" entry.1 := by
  induction items generalizing index members with
  | nil => exact List.forall_mem_nil _
  | cons item rest induction =>
      obtain ⟨first, here, following⟩ := Plan.Gives.bind_iff.mp gives
      obtain ⟨others, there, _⟩ := Plan.Gives.bind_iff.mp following
      rw [List.zipIdx_cons]
      exact List.forall_mem_cons.mpr ⟨nested_shaped here, induction there⟩

theorem scalar_field_shaped {name : String} {item : OrRef Schema} {required : Bool}
    {listsAllowed : Bool} {field : Field Shape}
    (gives : (scalarFieldPlan specification name (some item) required hint location
      listsAllowed).Gives whole field) : Shaped specification whole hint item := by
  obtain ⟨_, given, _⟩ := Plan.Gives.bind_iff.mp gives
  obtain ⟨_, nested, _⟩ := Plan.Gives.bind_iff.mp given
  exact nested_shaped nested

theorem content_shape_shaped {component contentType : String} {mediaType : MediaType}
    {item : OrRef Schema} {shape : Shape} (stated : mediaType.schema = some item)
    (gives : (contentShapePlan specification component contentType location mediaType).Gives whole
      shape) : Shaped specification whole component item := by
  unfold contentShapePlan at gives
  rw [stated] at gives
  cases item with
  | reference target => exact .reference
  | object schema =>
      obtain ⟨own, declared, following⟩ := Plan.Gives.bind_iff.mp gives
      obtain ⟨_, _, placing⟩ := Plan.Gives.bind_iff.mp following
      obtain ⟨_, registering, _⟩ := Plan.Gives.bind_iff.mp placing
      exact .schema declared fun _ => ⟨_, registering.registered, rfl, rfl⟩

theorem contents_shaped {content : OpenApi.Table MediaType} {componentName : String → String}
    {contents : List BodyContent}
    (gives : (contentsPlan specification content componentName location).Gives whole contents)
    {entry : String × MediaType} (listed : entry ∈ content) {item : OrRef Schema}
    (stated : entry.2.schema = some item) :
    Shaped specification whole (componentName (Identifier.ofContentType entry.1)) item := by
  unfold contentsPlan at gives
  split at gives
  case isFalse => exact absurd gives Plan.Gives.not_fails
  case isTrue =>
    obtain ⟨_, _, planned⟩ := partner_of_mem gives.of_collect (List.mem_mergeSort.mpr listed)
    obtain ⟨_, shaping, _⟩ := Plan.Gives.bind_iff.mp planned
    exact content_shape_shaped stated shaping

end Levels

section Programs

variable {specification : Specification} {whole : Effects} {program : Program}
  (given : ProgramGiven specification whole program)

include given

theorem ProgramGiven.operation_planned {stated : StatedOperation}
    (used : stated ∈ statedOperations specification.paths) :
    ∃ operation, (operationPlan specification program.securitySchemes stated).Gives whole
      operation := by
  obtain ⟨_, _, following⟩ := Plan.Gives.bind_iff.mp given.planned
  obtain ⟨schemes, _, following⟩ := Plan.Gives.bind_iff.mp following
  obtain ⟨_, operating, ended⟩ := Plan.Gives.bind_iff.mp following
  cases ended.eq_of_pure
  obtain ⟨_, planned, _⟩ := Plan.Gives.bind_iff.mp operating
  unfold operationPlans at planned
  split at planned
  case isFalse => exact absurd planned Plan.Gives.not_fails
  case isTrue =>
    obtain ⟨operation, _, gives⟩ := partner_of_mem planned.of_collect used
    exact ⟨operation, gives⟩

theorem ProgramGiven.declared_shaped {key : String} {item : OrRef Schema}
    (listed : (key, item) ∈ specification.components.schemas) :
    Shaped specification whole (Identifier.exported key) item := by
  obtain ⟨component, registered, named, declared⟩ := given.declared _ listed
  cases declared with
  | reference => exact .reference
  | schema declared =>
      rw [named] at declared
      exact .schema declared fun _ => ⟨component, registered, named, rfl⟩

theorem ProgramGiven.parameter_planned {stated : StatedOperation} {place : Place}
    {statement : StatedParameter} (used : stated ∈ statedOperations specification.paths)
    (listed : (place, statement) ∈ stated.parameters specification) :
    ∃ parameter, (parameterPlan specification stated.name
      (Identifier.exported statement.parameter.name) place statement).Gives whole parameter := by
  obtain ⟨_, planned⟩ := given.operation_planned used
  obtain ⟨_, _, following⟩ := Plan.Gives.bind_iff.mp planned
  obtain ⟨_, parameters, _⟩ := Plan.Gives.bind_iff.mp following
  obtain ⟨statements, read, stating⟩ := Plan.Gives.bind_iff.mp parameters
  have same : stated.parameters specification = readStatements statements := by
    rw [StatedOperation.parameters, StatedOperation.location, read.of_given]
    rfl
  unfold statementsPlan at stating
  split at stating
  case isFalse => exact absurd stating Plan.Gives.not_fails
  case isTrue =>
    obtain ⟨parameter, _, gives⟩ := partner_of_mem stating.of_collect (same ▸ listed)
    exact ⟨parameter, gives⟩

theorem ProgramGiven.parameter_shaped {stated : StatedOperation} {place : Place}
    {statement : StatedParameter} {item : OrRef Schema}
    (used : stated ∈ statedOperations specification.paths)
    (listed : (place, statement) ∈ stated.parameters specification)
    (schema : statement.parameter.schema = some item) :
    Shaped specification whole
      s!"{stated.name}{place.title}{Identifier.exported statement.parameter.name}" item := by
  obtain ⟨_, gives⟩ := given.parameter_planned used listed
  obtain ⟨_, scalar, _⟩ := Plan.Gives.bind_iff.mp gives
  rw [schema] at scalar
  exact scalar_field_shaped scalar

theorem ProgramGiven.request_planned {stated : StatedOperation} {body : OpenApi.RequestBody}
    (takes : stated.Takes specification body) :
    ∃ location contents, (contentsPlan specification body.content
      (fun tag => s!"{stated.name}{tag}RequestBody") location).Gives whole contents := by
  obtain ⟨_, planned⟩ := given.operation_planned takes.used
  obtain ⟨_, _, following⟩ := Plan.Gives.bind_iff.mp planned
  obtain ⟨_, _, following⟩ := Plan.Gives.bind_iff.mp following
  obtain ⟨_, requesting, _⟩ := Plan.Gives.bind_iff.mp following
  obtain ⟨item, stating, found⟩ := Option.bind_eq_some_iff.mp takes.given
  unfold requestBodyPlan at requesting
  rw [stating] at requesting
  dsimp only at requesting
  rw [found] at requesting
  obtain ⟨contents, gives, _⟩ := Plan.Gives.bind_iff.mp requesting
  exact ⟨_, contents, gives⟩

theorem ProgramGiven.response_planned {stated : StatedOperation} {status : Status}
    {response : OpenApi.Response} (answers : stated.Answers specification status response) :
    ∃ location answer,
      (responseAtPlan specification stated.name location status response).Gives whole answer := by
  obtain ⟨entry, listed, read, found⟩ := answers.listed
  obtain ⟨_, planned⟩ := given.operation_planned answers.used
  obtain ⟨_, _, following⟩ := Plan.Gives.bind_iff.mp planned
  obtain ⟨_, _, following⟩ := Plan.Gives.bind_iff.mp following
  obtain ⟨_, _, following⟩ := Plan.Gives.bind_iff.mp following
  obtain ⟨_, responding, _⟩ := Plan.Gives.bind_iff.mp following
  unfold responsesPlan at responding
  split at responding
  case isFalse => exact absurd responding Plan.Gives.not_fails
  case isTrue =>
    obtain ⟨_, collected, _⟩ := Plan.Gives.bind_iff.mp responding
    obtain ⟨answer, _, gives⟩ := partner_of_mem collected.of_collect listed
    unfold responsePlan at gives
    rw [read] at gives
    dsimp only at gives
    rw [found] at gives
    exact ⟨_, answer, gives⟩

/-- Lowering has come to every schema. -/
theorem ProgramGiven.shaped {name : String} {item : OrRef Schema}
    (stands : Stands specification name item) : Shaped specification whole name item := by
  induction stands with
  | declared listed => exact given.declared_shaped listed
  | parameter used listed schema => exact given.parameter_shaped used listed schema
  | requestContent takes listed schema =>
      obtain ⟨_, _, gives⟩ := given.request_planned takes
      exact contents_shaped gives listed schema
  | responseContent answers listed schema =>
      obtain ⟨_, _, gives⟩ := given.response_planned answers
      obtain ⟨_, contents, _⟩ := Plan.Gives.bind_iff.mp gives
      exact contents_shaped contents listed schema
  | header answers listed found schema =>
      obtain ⟨_, _, gives⟩ := given.response_planned answers
      obtain ⟨_, _, following⟩ := Plan.Gives.bind_iff.mp gives
      obtain ⟨_, headers, _⟩ := Plan.Gives.bind_iff.mp following
      obtain ⟨_, _, header⟩ := partner_of_mem headers.of_collect listed
      unfold headerPlan at header
      rw [found] at header
      obtain ⟨_, scalar, _⟩ := Plan.Gives.bind_iff.mp header
      rw [schema] at scalar
      exact scalar_field_shaped scalar
  | member around form several listed induction =>
      cases induction with
      | schema declared _ =>
          obtain ⟨_, _, planned⟩ := members_given declared form several
          exact members_shaped planned _ listed
  | element around form stated induction =>
      cases induction with
      | schema declared _ =>
          obtain ⟨_, _, planned⟩ := array_given declared form
          unfold innerPlans at planned
          rw [stated] at planned
          exact nested_shaped planned
  | property around form listed induction =>
      cases induction with
      | schema declared _ =>
          obtain ⟨_, _, _, _, _, fields, _⟩ := object_given declared form
          obtain ⟨_, _, property⟩ := partner_of_mem fields.given listed
          exact property.nested.shaped
  | additional around stated form untyped value induction =>
      cases induction with
      | schema declared _ =>
          obtain ⟨_, _, _, read, _, _, beside⟩ :=
            object_given declared (stated_form_of stated form)
          rw [stated] at read
          cases read
          rw [untyped] at beside
          unfold innerPlans InnerPlans.beside at beside
          rw [value] at beside
          obtain ⟨_, nested, _⟩ := Plan.Gives.bind_iff.mp beside
          exact nested_shaped nested

theorem ProgramGiven.mem_values_iff {component : Component} :
    component ∈ program.components.values ↔ component ∈ whole.components := by
  rw [given.registered]
  exact Effects.mem_registered given.accepted.distinct

theorem ProgramGiven.component_unique {first second : Component}
    (here : first ∈ program.components.values) (there : second ∈ program.components.values)
    (same : first.name = second.name) : first = second := by
  have found := given.find?_iff.mpr ⟨given.mem_values_iff.mp here, rfl⟩
  rw [same, given.find?_iff.mpr ⟨given.mem_values_iff.mp there, rfl⟩] at found
  exact (Option.some.inj found).symm

/-- An object with properties becomes a component of the name under which it stands. -/
theorem ProgramGiven.object_placed {name : String} {schema : Schema}
    (object : ObjectStands specification name schema) :
    ∃ component ∈ program.components.values, component.name = name ∧
      ∃ location fields additional,
        component.shape = .object fields (declaredRequirements schema) additional ∧
        FieldsGiven specification whole name location schema fields := by
  obtain ⟨stands, form, filled⟩ := object
  cases given.shaped stands with
  | @schema _ location shape declared registered =>
      obtain ⟨_, fields, additional, _, rfl, kept, _⟩ := object_given declared form
      have moves : (Shape.object fields (declaredRequirements schema) additional).isInPlace =
          false := by
        obtain ⟨first, rest, rfl⟩ := List.exists_cons_of_ne_nil (kept.filled filled)
        rfl
      obtain ⟨component, among, named, shape⟩ := registered moves
      exact ⟨component, given.mem_values_iff.mpr among, named, location, fields, additional, shape,
        kept⟩

/-- Every component with fields comes of an object that stands under its name. -/
theorem ProgramGiven.object_stands {component : Component}
    (member : component ∈ program.components.values) {fields : List (String × Field Shape)}
    {required : List String} {additional : Additional Shape}
    (object : component.shape = .object fields required additional) (filled : fields ≠ []) :
    ∃ schema, ObjectStands specification component.name schema := by
  cases given.sourced component (given.mem_values_iff.mp member) with
  | reference _ _ shape _ => cases object.symm.trans shape
  | schema source =>
      obtain ⟨location, schema, stands, declared⟩ := source
      obtain ⟨extensions, read, outlined⟩ := declared_outlined declared
      rw [object] at outlined
      cases outlined with
      | reference form sole referred =>
          obtain ⟨_, _, same, _⟩ := reference_named referred
          cases same
      | object form planned beside =>
          refine ⟨schema, stands, stated_form_of (stated_of_read read) form, fun empty => ?_⟩
          have pairs := (fields_give planned).given
          rw [empty] at pairs
          cases pairs
          exact filled rfl
      | plain form plain =>
          rcases plain_primitive plain with same | ⟨primitive, same⟩
          · exact absurd (Shape.object.inj same).1 filled
          · cases same
  | content shape =>
      rcases shape with bytes | any
      · cases object.symm.trans bytes
      · exact absurd (Shape.object.inj (object.symm.trans any)).1 filled

end Programs

end ApiScaffold.Blueprint
