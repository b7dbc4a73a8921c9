import ApiScaffold.Proofs.NormalForm
import ApiScaffold.Proofs.PlacedShapes
import ApiScaffold.Proofs.RequestScope
import ApiScaffold.Proofs.ShortDocuments

/-!
Properties that refer to declared schemas. The shape of such a property is a name, through which the
limits of lists are still found. Everything else that its field asks for is read off the property
itself: the limits of texts and numbers are lost behind a reference, and of null only the schema
right behind the reference is asked, not the one at the end of a chain.
-/

namespace ApiScaffold.Blueprint

open OpenApi (Schema OrRef Extensions Specification Document)

def Program.field? (program : Program) (name property : String) : Option (Field Shape) :=
  match (program.component? name).map Component.shape with
  | some (.object fields _ _) => fields.lookup property
  | _ => none

/-- A chain of references leads to a schema. -/
inductive ReferenceChain (specification : Specification) : Nat → OrRef Schema → Schema → Prop where
  | here {schema : Schema} : ReferenceChain specification 0 (.object schema) schema
  | step {key : String} {item : OrRef Schema} {last : Schema} {steps : Nat}
    (found : specification.components.schemas.lookup key = some item)
    (rest : ReferenceChain specification steps item last) :
    ReferenceChain specification (steps + 1) (.reference (OpenApi.schemasPlace ++ key)) last

section Fields

variable {specification : Specification} {whole : Effects} {program : Program}
  (given : ProgramGiven specification whole program)

include given

/-- A property of an object has its field where the object stands. -/
theorem ProgramGiven.field_placed {name property : String} {schema : Schema} {item : OrRef Schema}
    (object : ObjectStands specification name schema)
    (listed : (property, item) ∈ schema.properties) :
    ∃ location field, program.field? name property = some field ∧
      PropertyGiven specification whole schema.required name location (property, item)
        (property, field) := by
  obtain ⟨component, member, named, location, fields, additional, shape, kept⟩ :=
    given.object_placed object
  obtain ⟨⟨key, field⟩, among, entry⟩ := partner_of_mem kept.given listed
  have same : key = property := entry.key
  subst same
  have keys : DistinctKeys fields := kept.object.distinct
  have found := given.find?_iff.mpr ⟨given.mem_values_iff.mp member, named⟩
  refine ⟨location, field, ?_, entry⟩
  unfold Program.field? Program.component?
  rw [found, Option.map_some, shape]
  exact keys.lookup_of_mem among

end Fields

/-- Null is asked of the schema right behind a reference. -/
theorem ReferenceChain.nullable_iff {specification : Specification} {steps : Nat}
    {item : OrRef Schema} {last : Schema}
    (chain : ReferenceChain specification (steps + 1) item last) :
    isNullable specification item = true ↔ steps = 0 ∧ last.isNullable = true := by
  cases chain with
  | @step key next _ _ found rest =>
      have looked : specification.schema? (OpenApi.schemasPlace ++ key) = some next := by
        unfold OpenApi.Specification.schema? OpenApi.lookupReference
        rw [Text.dropStart?_eq_some_iff.mpr rfl]
        exact found
      unfold isNullable
      dsimp only
      rw [looked]
      cases rest with
      | here => simp [OrRef.object?]
      | step _ _ => simp [OrRef.object?]

/-- An optional property that refers to a schema takes null iff it refers to it directly and the
schema allows null; one that wraps the reference, iff the wrapper itself allows null. -/
theorem referred_nullable_iff {document : Document} {config : Config} {program : Program}
    (compiled : (compile document config).1 = .ok program) {name property : String}
    {schema : Schema} {item : OrRef Schema}
    (object : ObjectStands document.specification name schema)
    (listed : (property, item) ∈ schema.properties) (free : property ∉ schema.required) :
    ∃ field, program.field? name property = some field ∧
      (∀ steps last, ReferenceChain document.specification (steps + 1) item last →
        (field.optionality = .optionalNullable ↔ steps = 0 ∧ last.isNullable = true)) ∧
      ∀ wrapper target, item = .object wrapper → onlyReference? wrapper = some target →
        asksPointer item = false →
          (field.optionality = .optionalNullable ↔ wrapper.isNullable = true) := by
  obtain ⟨whole, given⟩ := lowered_given (compiled_iff.mp compiled)
  obtain ⟨location, field, found, entry⟩ := given.field_placed object listed
  obtain ⟨rules, read, optionality⟩ := entry.field.optionality
  have optional : schema.required.contains property = false := by
    rw [Bool.eq_false_iff, Ne, List.contains_iff_mem]
    exact free
  -- without a pointer, an optional property is told apart by null alone
  have decided (direct : asksPointer item = false) :
      field.optionality = .optionalNullable ↔
        isNullable document.specification item = true := by
    rw [optionality, optionalityOf, pointer_of_rules read, direct, optional]
    cases isNullable document.specification item <;> decide
  refine ⟨field, found, fun steps last chain => ?_, fun wrapper target wraps sole direct => ?_⟩
  · have direct : asksPointer item = false := by
      cases chain
      rfl
    rw [decided direct, chain.nullable_iff]
  · rw [decided direct, wraps]
    rfl

/-- Employees name others in three ways: directly, by another name and behind a wrapper. -/
def office : Document where
  specification := {
    openapi := "3.0.0"
    components := { schemas := [
      ("superior", .reference "#/components/schemas/employee"),
      ("employee", .object employee)] } }
  raw := .null
where
  employee : Schema := {
    type := some (.single "object")
    nullable := true
    properties := [
      ("manager", .reference "#/components/schemas/employee"),
      ("deputy", .reference "#/components/schemas/superior"),
      ("mentor", .object { allOf := [.reference "#/components/schemas/employee"] })] }

theorem office_takes_null :
    ∃ program manager deputy mentor,
      (compile office { package := "api", path := "" }).1 = .ok program ∧
      program.field? "Employee" "manager" = some manager ∧
        manager.optionality = .optionalNullable ∧
      program.field? "Employee" "deputy" = some deputy ∧ deputy.optionality ≠ .optionalNullable ∧
      program.field? "Employee" "mentor" = some mentor ∧
        mentor.optionality ≠ .optionalNullable := by
  have holds : (compileShort office { package := "api", path := "" }).any fun _ => true := by
    decide +kernel
  obtain ⟨program, result, _⟩ := compiled_of_short holds
  have name : Identifier.exported "employee" = "Employee" := by decide
  have employee : ObjectStands office.specification "Employee" office.employee :=
    ⟨name ▸ .declared (List.mem_cons_of_mem _ List.mem_cons_self), by decide +kernel,
      List.cons_ne_nil _ _⟩
  have own : "#/components/schemas/employee" = OpenApi.schemasPlace ++ "employee" := by decide
  have other : "#/components/schemas/superior" = OpenApi.schemasPlace ++ "superior" := by decide
  -- the other name is one step further away
  have near : ReferenceChain office.specification 1
      (.reference "#/components/schemas/employee") office.employee := by
    rw [own]
    exact .step rfl .here
  have far : ReferenceChain office.specification 2
      (.reference "#/components/schemas/superior") office.employee := by
    rw [other]
    exact .step rfl near
  obtain ⟨manager, managing, direct, _⟩ :=
    referred_nullable_iff result employee List.mem_cons_self List.not_mem_nil
  obtain ⟨deputy, standing, distant, _⟩ := referred_nullable_iff result employee
    (List.mem_cons_of_mem _ List.mem_cons_self) List.not_mem_nil
  obtain ⟨mentor, advising, _, wrapped⟩ := referred_nullable_iff result employee
    (List.mem_cons_of_mem _ (List.mem_cons_of_mem _ List.mem_cons_self)) List.not_mem_nil
  refine ⟨program, manager, deputy, mentor, result, managing, (direct _ _ near).mpr ⟨rfl, rfl⟩,
    standing, fun nulled => ?_, advising, fun nulled => ?_⟩
  · exact absurd ((distant _ _ far).mp nulled).1 (by decide)
  · exact absurd ((wrapped _ _ rfl rfl (by decide +kernel)).mp nulled) (by decide)

theorem Nested.named {specification : Specification} {whole : Effects} {hint location key : String}
    {shape : Shape}
    (nested : Nested specification whole hint location
      (.reference (OpenApi.schemasPlace ++ key)) shape) :
    shape = .named (Identifier.exported key) := by
  generalize written : OpenApi.schemasPlace ++ key = target at nested
  cases nested with
  | reference declared => rw [String.append_right_inj _ |>.mp written]

section Resolving

variable {specification : Specification} {whole : Effects} {program : Program}
  (given : ProgramGiven specification whole program) {schema : Schema}

include given

/-- The name of a declared schema stands for the shape that the schema has there. -/
theorem ProgramGiven.resolve_declared {key : String}
    (found : specification.components.schemas.lookup key = some (.object schema)) :
    ∃ name location own, (shapePlan specification .declared name location schema).Gives whole own ∧
      (own.Plain → program.resolve (.named (Identifier.exported key)) = own) := by
  obtain ⟨component, registered, named, declared⟩ := given.declared _ (mem_of_lookup found)
  cases declared with
  | schema gives =>
      refine ⟨_, _, component.shape, gives, fun plain => ?_⟩
      have known := given.find?_iff.mpr ⟨registered, named⟩
      exact (Reaches.step known (.here plain)).resolve

theorem ProgramGiven.resolve_nested {hint location : String} {shape : Shape}
    (nested : Nested specification whole hint location (.object schema) shape) :
    ∃ own, (shapePlan specification .declared hint location schema).Gives whole own ∧
      (own.Plain → program.resolve shape = own) := by
  cases nested with
  | inPlace declared stays => exact ⟨shape, declared, fun plain => (Reaches.here plain).resolve⟩
  | component declared named registered =>
      refine ⟨_, declared, fun plain => ?_⟩
      have known := given.find?_iff.mpr ⟨registered, named⟩
      exact (Reaches.step known (.here plain)).resolve

end Resolving

def isBounded (limit : Option Binary64) (exclusive : Option Json) : Bool :=
  limit.isSome || match exclusive with
    | some (.number _) => true
    | _ => false

theorem bound_given {limit : Option Binary64} {exclusive : Option Json}
    {keyword location : String} {bound : Option Bound}
    (read : boundOf limit exclusive keyword location = .ok bound) :
    bound.isSome = isBounded limit exclusive := by
  unfold boundOf at read
  unfold isBounded
  split at read
  · cases read
    cases limit <;> rfl
  · cases read
    cases limit <;> rfl
  · split at read
    · cases read
      rfl
    · cases read
  · cases read
    cases limit <;> rfl
  · cases read

structure LimitsGiven (schema : Schema) (constraints : Constraints) : Prop where
  minLength : constraints.minLength = schema.minLength
  maxLength : constraints.maxLength = schema.maxLength
  pattern : constraints.pattern = schema.pattern
  minimum : constraints.minimum.isSome = isBounded schema.minimum schema.exclusiveMinimum
  maximum : constraints.maximum.isSome = isBounded schema.maximum schema.exclusiveMaximum

/-- Each limit is kept or made by itself. -/
theorem constraints_of_eq_ok {schema : Schema} {location : String} {constraints : Constraints}
    (read : constraintsOf schema location = .ok constraints) :
    ∃ least greatest,
      boundOf schema.minimum schema.exclusiveMinimum "exclusiveMinimum" location = .ok least ∧
      boundOf schema.maximum schema.exclusiveMaximum "exclusiveMaximum" location = .ok greatest ∧
      constraints = {
        minLength := schema.minLength
        maxLength := schema.maxLength
        minimum := least
        maximum := greatest
        pattern := schema.pattern } := by
  rw [← to_option_eq_some] at read
  unfold constraintsOf at read
  cases stated : schema.pattern with
  | none =>
      simp only [stated, to_option_bind, Option.bind_eq_some_iff, to_option_eq_some] at read
      obtain ⟨least, made, greatest, above, kept⟩ := read
      cases kept
      exact ⟨least, greatest, made, above, rfl⟩
  | some pattern =>
      simp only [stated, to_option_bind, Option.bind_eq_some_iff, to_option_eq_some] at read
      obtain ⟨_, _, least, made, greatest, above, kept⟩ := read
      cases kept
      exact ⟨least, greatest, made, above, rfl⟩

theorem limits_given {schema : Schema} {location : String} {constraints : Constraints}
    (read : constraintsOf schema location = .ok constraints) :
    LimitsGiven schema constraints := by
  obtain ⟨least, greatest, made, above, rfl⟩ := constraints_of_eq_ok read
  exact ⟨rfl, rfl, rfl, bound_given made, bound_given above⟩

/-- What the field of a property without a reference asks for. -/
theorem FieldGiven.of_schema {specification : Specification} {whole : Effects} {jsonName : String}
    {schema : Schema} {required : Bool} {location : String} {shape : Shape} {field : Field Shape}
    {extensions : Extensions}
    (given : FieldGiven specification whole jsonName (.object schema) required location shape field)
    (stated : statedExtensions schema = some extensions) :
    field.skipValidation = extensions.skipValidation ∧
      field.isRequired = (required && !extensions.pointer) ∧
      LimitsGiven schema field.constraints := by
  obtain ⟨rules, read, rfl⟩ := given.rules
  rw [← to_option_eq_some, fieldRules] at read
  simp only [to_option_bind, Option.bind_eq_some_iff, to_option_eq_some] at read
  obtain ⟨own, known, limits, limited, kept⟩ := read
  cases kept
  have same : own = extensions := Option.some.inj ((stated_of_read known).symm.trans stated)
  subst same
  refine ⟨rfl, ?_, limits_given limited⟩
  unfold Field.isRequired FieldRules.fieldOf optionalityOf
  dsimp only
  cases own.pointer <;> cases required <;> cases isNullable specification (.object schema) <;>
    decide

/-- The field of a property that is a reference asks for nothing. -/
theorem FieldGiven.of_reference {specification : Specification} {whole : Effects}
    {jsonName target : String} {required : Bool} {location : String} {shape : Shape}
    {field : Field Shape}
    (given : FieldGiven specification whole jsonName (.reference target) required location shape
      field) :
    field.skipValidation = false ∧ field.isRequired = required ∧ field.constraints = {} := by
  obtain ⟨rules, read, rfl⟩ := given.rules
  cases read
  refine ⟨rfl, ?_, rfl⟩
  unfold Field.isRequired FieldRules.fieldOf optionalityOf
  dsimp only
  cases required <;> cases isNullable specification (.reference target) <;> decide

end ApiScaffold.Blueprint

namespace ApiScaffold.Server

open Blueprint
open OpenApi (Schema Extensions Document)

def plainRules (schema : Schema) (field : Blueprint.Field Shape) : List Rule :=
  match schema.primaryType with
  | some "string" => if (textKind schema.format).isTextual then textRules field else []
  | some "integer" => numberRules field true
  | some "number" => numberRules field false
  | _ => []

def limitRules (schema : Schema) (field : Blueprint.Field Shape) : SchemaForm → List Rule
  | .array => arrayRules field schema.minItems schema.maxItems
  | .plain => plainRules schema field
  | _ => []

section Limits

variable {specification : OpenApi.Specification} {whole : Effects} {hint location : String}
  {extensions : Extensions} {schema : Schema}

/-- A schema that is neither of a Go type nor a composition nor an enumeration. -/
structure IsSimple (extensions : Extensions) (schema : Schema) : Prop where
  stated : statedExtensions schema = some extensions
  untyped : extensions.goType = none
  single : schema.isComposition = false
  unlisted : schema.isEnum = false

theorem IsSimple.form_of (simple : IsSimple extensions schema) :
    SchemaForm.of extensions schema =
      if schema.isArray then .array
      else if schema.isObject || schema.additionalProperties.isSome || extensions.mapType.isSome then
        .object
      else .plain := by
  rw [SchemaForm.of, simple.untyped, simple.single, simple.unlisted]
  rfl

theorem IsSimple.form_ne (simple : IsSimple extensions schema) {form : SchemaForm}
    (other : form ∉ [.array, .object, .plain]) : SchemaForm.of extensions schema ≠ form := by
  rintro rfl
  apply other
  rw [simple.form_of]
  split
  · decide
  split <;> decide

theorem text_kind_not_numeric (format : Option String) : (textKind format).isNumeric = false := by
  unfold textKind
  split <;> rfl

/-- Only the limits of arrays, texts and numbers make rules. -/
theorem IsSimple.rules_of {own : Shape} (simple : IsSimple extensions schema)
    (gives : (shapePlan specification .declared hint location schema).Gives whole own)
    (field : Blueprint.Field Shape) :
    own.Plain ∧ rulesOf own field =
      if field.skipValidation then []
      else limitRules schema field (SchemaForm.of extensions schema) := by
  obtain ⟨read, stating, outlined⟩ := declared_outlined gives
  have same : read = extensions :=
    Option.some.inj ((stated_of_read stating).symm.trans simple.stated)
  subst same
  cases outlined with
  | custom typed =>
      rw [simple.untyped] at typed
      cases typed
  | array form =>
      rw [form]
      exact ⟨nofun, rfl⟩
  | object form =>
      rw [form]
      exact ⟨nofun, rfl⟩
  | plain form given =>
      rw [form]
      unfold plainShape at given
      unfold limitRules plainRules
      split at given
      case h_6 => cases given
      case h_4 text =>
        cases given
        rw [text]
        refine ⟨nofun, ?_⟩
        dsimp only [rulesOf]
        rw [text_kind_not_numeric, if_neg Bool.false_ne_true]
        rfl
      all_goals
        cases given
        rename_i kind
        rw [kind]
        exact ⟨nofun, rfl⟩
  | _ form => exact absurd form (simple.form_ne (by decide))

end Limits

section Rules

variable {field other : Blueprint.Field Shape}

theorem text_rules_nil_iff : textRules field = [] ↔
    field.constraints.minLength = none ∧ field.constraints.maxLength = none ∧
      field.constraints.pattern = none := by
  unfold textRules
  dsimp only
  cases field.constraints.minLength <;> cases field.constraints.maxLength <;>
    cases field.constraints.pattern <;> simp

theorem number_rules_nil_iff {integer : Bool} : numberRules field integer = [] ↔
    field.constraints.minimum.isSome = false ∧ field.constraints.maximum.isSome = false := by
  unfold numberRules
  cases field.constraints.minimum <;> cases field.constraints.maximum <;> simp

theorem array_rules_nil_iff {minItems maxItems : Option Nat} :
    arrayRules field minItems maxItems = [] ↔ minItems = none ∧ maxItems = none := by
  unfold arrayRules
  cases minItems <;> cases maxItems <;> simp

/-- Of a field, array rules only ask whether it is required, and only for a least length. -/
theorem array_rules_eq_iff {minItems maxItems : Option Nat} :
    arrayRules field minItems maxItems = arrayRules other minItems maxItems ↔
      field.isRequired = other.isRequired ∨ minItems.getD 0 = 0 := by
  unfold arrayRules
  rw [List.append_cancel_right_eq]
  cases minItems with
  | none => simp
  | some least =>
      cases least with
      | zero => simp
      | succ least => cases field.isRequired <;> cases other.isRequired <;> simp

end Rules

def IsLimited (schema : Schema) : Prop :=
  match schema.primaryType with
  | some "string" => (textKind schema.format).isTextual = true ∧
    ¬ (schema.minLength = none ∧ schema.maxLength = none ∧ schema.pattern = none)
  | some "integer" | some "number" =>
    ¬ (isBounded schema.minimum schema.exclusiveMinimum = false ∧
      isBounded schema.maximum schema.exclusiveMaximum = false)
  | _ => False

/-- A reference to the schema makes the same rules as the schema itself. Behind a reference, texts
and numbers have none; arrays keep theirs, even if the schema asks for no validation. -/
def LimitsSurvive (schema : Schema) (extensions : Extensions) (required : Bool) : Prop :=
  match SchemaForm.of extensions schema with
  | .array =>
    if extensions.skipValidation then schema.minItems = none ∧ schema.maxItems = none
    else required = true → extensions.pointer = true → schema.minItems.getD 0 = 0
  | .plain => extensions.skipValidation = true ∨ ¬ IsLimited schema
  | _ => True

theorem plain_rules_nil_iff {schema : Schema} {field : Blueprint.Field Shape}
    (limits : LimitsGiven schema field.constraints) :
    plainRules schema field = [] ↔ ¬ IsLimited schema := by
  unfold plainRules IsLimited
  split
  case h_1 =>
    rw [← limits.minLength, ← limits.maxLength, ← limits.pattern, ← text_rules_nil_iff]
    cases (textKind schema.format).isTextual <;> simp
  case h_4 => simp
  all_goals
    rw [← limits.minimum, ← limits.maximum, ← number_rules_nil_iff, not_not]

theorem plain_rules_unlimited {schema : Schema} {field : Blueprint.Field Shape}
    (unlimited : field.constraints = {}) : plainRules schema field = [] := by
  unfold plainRules
  split
  case h_1 =>
    rw [text_rules_nil_iff.mpr ⟨by rw [unlimited], by rw [unlimited], by rw [unlimited]⟩]
    exact ite_self _
  case h_4 => rfl
  all_goals exact number_rules_nil_iff.mpr ⟨by rw [unlimited]; rfl, by rw [unlimited]; rfl⟩

/-- A property that refers to a schema and one that spells it out have the same rules exactly if its
limits survive the reference. -/
theorem referred_rules_iff {document other : Document} {config config' : Config}
    {program program' : Program}
    (compiled : (compile document config).1 = .ok program)
    (compiled' : (compile other config').1 = .ok program')
    {name name' property key : String} {around around' limited : Schema} {extensions : Extensions}
    (object : ObjectStands document.specification name around)
    (object' : ObjectStands other.specification name' around')
    (declared : document.specification.components.schemas.lookup key = some (.object limited))
    (referred : (property, .reference (OpenApi.schemasPlace ++ key)) ∈ around.properties)
    (spelt : (property, .object limited) ∈ around'.properties)
    (alike : around.required.contains property = around'.required.contains property)
    (simple : IsSimple extensions limited) :
    ∃ field field', program.field? name property = some field ∧
      program'.field? name' property = some field' ∧
      ((Outline.ofProgram program).rules field = (Outline.ofProgram program').rules field' ↔
        LimitsSurvive limited extensions (around.required.contains property)) := by
  obtain ⟨whole, given⟩ := lowered_given (compiled_iff.mp compiled)
  obtain ⟨whole', given'⟩ := lowered_given (compiled_iff.mp compiled')
  obtain ⟨_, field, found, entry⟩ := given.field_placed object referred
  obtain ⟨_, field', found', entry'⟩ := given'.field_placed object' spelt
  refine ⟨field, field', found, found', ?_⟩
  obtain ⟨kept, required, unlimited⟩ := entry.field.of_reference
  obtain ⟨kept', required', limits⟩ := entry'.field.of_schema simple.stated
  -- both shapes come down to what the schema is where it is declared
  obtain ⟨_, _, own, gives, resolved⟩ := given.resolve_declared declared
  obtain ⟨own', gives', resolved'⟩ := given'.resolve_nested entry'.nested
  obtain ⟨plain, rules⟩ := simple.rules_of gives field
  obtain ⟨plain', rules'⟩ := simple.rules_of gives' field'
  have here : (Outline.ofProgram program).rules field =
      limitRules limited field (SchemaForm.of extensions limited) := by
    rw [Outline.rules, Outline.resolve, outline_program, entry.nested.named, resolved plain, rules,
      kept, if_neg Bool.false_ne_true]
  have there : (Outline.ofProgram program').rules field' =
      if extensions.skipValidation then []
      else limitRules limited field' (SchemaForm.of extensions limited) := by
    rw [← kept', ← rules', Outline.rules, Outline.resolve, outline_program, resolved' plain']
  rw [here, there]
  unfold LimitsSurvive limitRules
  split
  case h_1 =>
    split
    case isTrue => exact array_rules_nil_iff
    case isFalse =>
      rw [array_rules_eq_iff, required, required', ← alike]
      cases around.required.contains property <;> cases extensions.pointer <;> simp
  case h_2 =>
    rw [plain_rules_unlimited unlimited, ← plain_rules_nil_iff limits, eq_comm, ite_eq_left_iff]
    tauto
  case h_3 => exact iff_of_true (ite_self _).symm trivial

def boxOffice (shown : OpenApi.OrRef Schema) (others : List (String × OpenApi.OrRef Schema)) :
    Document where
  specification := {
    openapi := "3.0.0"
    components := { schemas := ("ticket", .object (ticket shown)) :: others } }
  raw := .null
where
  ticket (shown : OpenApi.OrRef Schema) : Schema := {
    type := some (.single "object")
    properties := [("code", shown)] }
  code : Schema := { type := some (.single "string"), minLength := some 3 }

theorem box_office_loses_limit :
    ∃ program program' field field',
      (compile (boxOffice (.reference "#/components/schemas/code")
        [("code", .object boxOffice.code)]) { package := "api", path := "" }).1 = .ok program ∧
      (compile (boxOffice (.object boxOffice.code) []) { package := "api", path := "" }).1 =
        .ok program' ∧
      program.field? "Ticket" "code" = some field ∧
      program'.field? "Ticket" "code" = some field' ∧
      (Outline.ofProgram program).rules field ≠ (Outline.ofProgram program').rules field' := by
  have referring : (compileShort (boxOffice (.reference "#/components/schemas/code")
      [("code", .object boxOffice.code)]) { package := "api", path := "" }).any fun _ => true := by
    decide +kernel
  have spelling : (compileShort (boxOffice (.object boxOffice.code) [])
      { package := "api", path := "" }).any fun _ => true := by decide +kernel
  obtain ⟨program, result, _⟩ := compiled_of_short referring
  obtain ⟨program', result', _⟩ := compiled_of_short spelling
  have name : Identifier.exported "ticket" = "Ticket" := by decide
  have place : "#/components/schemas/code" = OpenApi.schemasPlace ++ "code" := by decide
  have object : ObjectStands (boxOffice (.reference "#/components/schemas/code")
      [("code", .object boxOffice.code)]).specification "Ticket"
      (boxOffice.ticket (.reference "#/components/schemas/code")) :=
    ⟨name ▸ .declared List.mem_cons_self, by decide +kernel, List.cons_ne_nil _ _⟩
  have object' : ObjectStands (boxOffice (.object boxOffice.code) []).specification "Ticket"
      (boxOffice.ticket (.object boxOffice.code)) :=
    ⟨name ▸ .declared List.mem_cons_self, by decide +kernel, List.cons_ne_nil _ _⟩
  have referred : ("code", .reference (OpenApi.schemasPlace ++ "code")) ∈
      (boxOffice.ticket (.reference "#/components/schemas/code")).properties :=
    place ▸ List.mem_cons_self
  have simple : IsSimple {} boxOffice.code := ⟨by decide +kernel, rfl, rfl, rfl⟩
  obtain ⟨field, field', found, found', same⟩ := referred_rules_iff result result' object object'
    rfl referred List.mem_cons_self rfl simple
  refine ⟨program, program', field, field', result, result', found, found', fun equal => ?_⟩
  rcases same.mp equal with skipped | unlimited
  · cases skipped
  · exact unlimited ⟨rfl, fun none => Option.some_ne_none _ none.1⟩

end ApiScaffold.Server
