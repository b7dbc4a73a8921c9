import ApiScaffold.Proofs.CompiledProgram
import ApiScaffold.Proofs.NameScope
import ApiScaffold.Server.Components

/-!
The file of components refers to nothing that it does not declare. Its own names are regular
expressions in variables and members of enumerations; both are declared under the conditions under
which they are used.
-/

namespace ApiScaffold.Server

open Blueprint Go Source

variable {components own : List String} {packages : String → Prop}

theorem shape_type_in_scope {shape : Shape} (usable : shape.references ⊆ components) :
    InScope components own Package.any (typeOf shape).code :=
  (type_in_scope own shape).mono usable (List.Subset.refl own) (fun _ _ => trivial)

theorem optional_in_scope {type : TypeExpression} (runtime : "Optional" ∈ components)
    (inside : InScope components own packages type.code) :
    InScope components own packages (optional type).code := by
  simp [optional, TypeExpression.code, runtime, inside]

theorem field_type_in_scope {field : Blueprint.Field Shape} (runtime : "Optional" ∈ components)
    (usable : InScope components own packages (typeOf field.shape).code) :
    InScope components own packages (fieldType field).code := by
  unfold fieldType
  split
  · exact usable
  · exact usable
  · exact optional_in_scope runtime usable
  · rw [TypeExpression.code, InScope.text_iff]
    exact usable

namespace FieldReading

variable {reading : FieldReading} {type receiver : String}

theorem shadow_type_in_scope (runtime : "Optional" ∈ components)
    (usable : InScope components own Package.any (typeOf reading.field.shape).code) :
    InScope components own Package.any reading.shadowType.code := by
  have base : InScope components own Package.any
      (if reading.parser.isSome then TypeExpression.string
        else typeOf reading.field.shape).code := by
    split
    · simp [TypeExpression.code]
    · exact usable
  unfold shadowType
  dsimp only
  split
  · exact optional_in_scope runtime base
  · exact optional_in_scope runtime base
  · exact base
  · split
    · exact optional_in_scope runtime base
    · rw [TypeExpression.code, InScope.text_iff]
      exact base

theorem plain_assignment_in_scope :
    InScope components own Package.any (Statement.names (reading.plainAssignment receiver)) := by
  unfold plainAssignment
  split
  · simp [target]
  · split <;> simp [target]
  · simp [target]
  · simp [target]

theorem transformation_in_scope (runtime : Outcome.names ⊆ components)
    (regex : reading.field.regex.isSome → reading.regexName type ∈ own) :
    InScope components own Package.any (Statement.names (reading.transformation type receiver)) := by
  have missing : "PatternMismatchError" ∈ components := runtime (by decide)
  have wrapper : "NewOptional" ∈ components := runtime (by decide)
  have trims : InScope components own Package.any (Statement.names reading.trimming) := by
    unfold trimming
    split <;> simp
  have fits : InScope components own Package.any (Statement.names (reading.matching type)) := by
    unfold matching
    split
    · rename_i present
      simp [missing, regex present]
    · simp
  have parses : InScope components own Package.any (Statement.names reading.parsing) := by
    unfold parsing
    split <;> simp
  have assigns : InScope components own Package.any
      (Statement.names [reading.finalAssignment receiver]) := by
    unfold finalAssignment
    dsimp only
    split <;> simp [target, wrapper]
  have held : InScope components own Package.any reading.source.2 := by
    unfold source
    split
    · simp
    · simp
    · simp
    · split <;> simp
  unfold transformation
  rw [Statement.names_define, Statement.names_append, Statement.names_append,
    Statement.names_append]
  simp only [InScope.append_iff, InScope.names_of_iff]
  exact ⟨held, ⟨⟨trims, fits⟩, parses⟩, assigns⟩

theorem guard_in_scope {guard : Code} (present : reading.source.1 = some guard) :
    InScope components own Package.any guard := by
  unfold source at present
  split at present
  · cases present
  · cases present
    simp
  · cases present
    simp
  · split at present
    · cases present
    · cases present
      simp

theorem transformed_assignment_in_scope (runtime : Outcome.names ⊆ components)
    (usable : InScope components own Package.any (typeOf reading.field.shape).code)
    (regex : reading.field.regex.isSome → reading.regexName type ∈ own) :
    InScope components own Package.any
      (Statement.names (reading.transformedAssignment type receiver)) := by
  have body : InScope components own Package.any
      (Statement.names (reading.transformation type receiver)) :=
    transformation_in_scope runtime regex
  have empties : InScope components own Package.any
      (Statement.names [reading.emptyAssignment receiver]) := by
    have wrapped : InScope components own Package.any (optional (typeOf reading.field.shape)).code :=
      optional_in_scope (runtime (by decide)) usable
    simp [emptyAssignment, target, wrapped]
  unfold transformedAssignment
  dsimp only
  split
  · exact body
  · rename_i guard present
    have condition : InScope components own Package.any guard := guard_in_scope present
    split
    · simp [condition, body, empties]
    · simp [condition, body]

theorem statements_in_scope (runtime : Outcome.names ⊆ components)
    (usable : InScope components own Package.any (typeOf reading.field.shape).code)
    (regex : reading.field.regex.isSome → reading.regexName type ∈ own) :
    InScope components own Package.any (Statement.names (reading.statements type receiver)) := by
  have null : "RequiredFieldNullError" ∈ components := runtime (by decide)
  have missing : "RequiredFieldMissingError" ∈ components := runtime (by decide)
  unfold statements
  rw [Statement.names_append, InScope.append_iff]
  constructor
  · split <;> simp [presenceGuards, failure, null, missing]
  · split
    · exact transformed_assignment_in_scope runtime usable regex
    · exact plain_assignment_in_scope

theorem mentions_in_scope (runtime : Outcome.names ⊆ components)
    (usable : InScope components own Package.any (typeOf reading.field.shape).code) :
    InScope components own Package.any reading.mentions := by
  unfold mentions
  rw [InScope.append_iff]
  constructor
  · cases reading.parser <;> simp
  · split
    · exact optional_in_scope (runtime (by decide)) usable
    · simp

end FieldReading

namespace Decoder

/-- The decoder of a struct refers to the components of its fields and to their expressions. -/
theorem part_in_scope {type : String} {readings : List FieldReading}
    (runtime : Outcome.names ⊆ components)
    (usable : ∀ reading ∈ readings,
      InScope components own Package.any (typeOf reading.field.shape).code)
    (regexes : ∀ reading ∈ readings, reading.field.regex.isSome → reading.regexName type ∈ own) :
    (part type readings).InScope components own Package.any := by
  have wrapper : "NewOptional" ∈ components := runtime (by decide)
  have shadows : ∀ reading ∈ readings, InScope components own Package.any reading.shadowType.code :=
    fun reading member => FieldReading.shadow_type_in_scope (runtime (by decide))
      (usable reading member)
  have rows : ∀ reading ∈ readings, ∀ cell ∈ reading.shadowRow,
      InScope components own Package.any cell := by
    intro reading member
    simp [FieldReading.shadowRow, shadows reading member]
  have bodies : ∀ reading ∈ readings, InScope components own Package.any
      (Statement.names (reading.statements type (receiverName type))) :=
    fun reading member => FieldReading.statements_in_scope runtime (usable reading member)
      (regexes reading member)
  unfold part
  split
  · constructor
    · unfold mentions
      simp only [InScope.append_iff, InScope.flat_map_iff]
      refine ⟨⟨⟨⟨by simp, ?_⟩, by simp [wrapper]⟩, shadows⟩, ?_⟩
      · split <;> simp
      · intro reading member
        exact FieldReading.mentions_in_scope runtime (usable reading member)
    · have all : InScope components own Package.any (Statement.names
          (readings.flatMap (FieldReading.statements type (receiverName type)))) := by
        rw [Statement.names_flat_map, InScope.flat_map_iff]
        exact bodies
      have shadow : InScope components own Package.any
          ((readings.map FieldReading.shadowRow).flatten.flatMap namesOf) := by
        rw [InScope.flat_map_iff]
        intro cell member
        obtain ⟨row, listed, inside⟩ := List.mem_flatten.mp member
        obtain ⟨reading, known, rfl⟩ := List.mem_map.mp listed
        exact (InScope.names_of_iff cell).mpr (rows reading known cell inside)
      simp only [Part.names, List.flatMap_singleton, method, Form.names, Statement.names_append,
        InScope.append_iff]
      simp [acceptNull, unmarshalInto, giveError, signature, all, shadow]
  · exact Part.InScope.empty

end Decoder

section Checks

variable [Package.Provided packages]

theorem rule_in_scope {expression : String} {rule : Rule}
    (declared : rule = .pattern → expression ∈ own) :
    InScope components own packages (rule.code expression) := by
  cases rule with
  | pattern => simp [Rule.code, Rule.ruleName, declared]
  | required => simp [Rule.code, Rule.ruleName]
  | runeLength least greatest => simp [Rule.code, Rule.lengthCode, Rule.ruleName]
  | length least greatest => simp [Rule.code, Rule.lengthCode, Rule.ruleName]
  | atLeast bound exclusive => cases exclusive <;> simp [Rule.code, Rule.boundCode, Rule.ruleName]
  | atMost bound exclusive => cases exclusive <;> simp [Rule.code, Rule.boundCode, Rule.ruleName]

namespace Validator

theorem check_in_scope {receiver member : String} {arguments : List Code}
    (inside : ∀ argument ∈ arguments, InScope components own packages argument) :
    InScope components own packages (check receiver member arguments) := by
  simp only [check, InScope.code_iff, List.forall_mem_cons, InScope.separated_iff]
  simpa using inside

theorem method_in_scope {type : String} {checks : List Code}
    (inside : ∀ check ∈ checks, InScope components own packages check) :
    InScope components own packages (method type checks).form.names := by
  have lines : InScope components own packages
      ((checks.map fun check => [check]).flatten.flatMap namesOf) := by
    rw [InScope.flat_map_iff]
    intro check member
    obtain ⟨row, listed, here⟩ := List.mem_flatten.mp member
    obtain ⟨known, given, rfl⟩ := List.mem_map.mp listed
    rw [List.mem_singleton.mp here]
    exact (InScope.names_of_iff known).mpr (inside known given)
  simp only [method, Form.names]
  rw [Statement.names_listing]
  simp [lines]

end Validator

theorem member_groups_members (members : List (List String × Bool × Entry)) :
    (memberGroups members).flatMap (·.members) = members.map (·.2.2) := by
  unfold memberGroups
  dsimp only
  rw [List.flatMap_cons]
  dsimp only
  induction members with
  | nil => rfl
  | cons first rest induction =>
      obtain ⟨comment, starts, member⟩ := first
      rw [List.foldr_cons, List.map_cons, ← induction]
      cases starts <;> simp

theorem struct_names (type : String) (members : List (List String × Bool × Entry)) :
    (Form.struct type "" (memberGroups members)).names =
      members.flatMap fun member => member.2.2.names := by
  have grouped : ((memberGroups members).flatMap (·.members)).flatMap Entry.names =
      (members.map (·.2.2)).flatMap Entry.names := by
    rw [member_groups_members]
  rw [List.flatMap_assoc, List.flatMap_map] at grouped
  exact grouped

/-- With a struct come only variables and methods. -/
theorem struct_part_declarations (outline : Outline) (component : Component) (comment : List String)
    (fields : List (Blueprint.Field Shape)) (required : List String) :
    ∃ others, (Component.structPart outline component comment fields required).declarations =
        { comment
          form := .struct component.name "" (memberGroups (fields.map Component.memberOf)) } ::
          others ∧
      ∀ declaration ∈ others, (∃ entries, declaration.form = .globals entries) ∨
        ∃ receiver name signature body, declaration.form = .method receiver name signature body := by
  refine ⟨_, rfl, ?_⟩
  intro declaration listed
  rcases List.mem_append.mp listed with inside | validator
  · rcases List.mem_append.mp inside with patterns | decoder
    · unfold PatternVariable.part at patterns
      split at patterns
      · cases patterns
      · rw [List.mem_singleton.mp patterns]
        exact .inl ⟨_, rfl⟩
    · unfold Decoder.part at decoder
      split at decoder
      · rw [List.mem_singleton.mp decoder]
        exact .inr ⟨_, _, _, _, rfl⟩
      · cases decoder
  · split at validator
    · rw [List.mem_singleton.mp validator]
      exact .inr ⟨_, _, _, _, rfl⟩
    · cases validator

theorem pattern_part_in_scope (owner : String) (patterns : List PatternVariable) :
    (PatternVariable.part owner patterns).InScope components own packages := by
  unfold PatternVariable.part
  split
  · exact Part.InScope.empty
  · constructor
    · simp
    · simp [Part.names, Form.names, Entry.names, PatternVariable.entry]

end Checks

/-- A rule checks a pattern only if the field states one. -/
theorem pattern_stated {outline : Outline} {field : Blueprint.Field Shape}
    (checked : .pattern ∈ outline.rules field) : field.constraints.pattern.isSome := by
  unfold Outline.rules at checked
  generalize outline.resolve field.shape = resolved at checked
  unfold rulesOf at checked
  split at checked
  · cases checked
  · split at checked
    · split at checked
      · simpa [textRules] using checked
      · split at checked
        · simp [numberRules] at checked
        · cases checked
    · simp [arrayRules] at checked
    · cases checked

namespace Component

variable {outline : Outline} {type : String} {fields : List (Blueprint.Field Shape)}

/-- A rule that checks a pattern has the pattern of its field in a variable. -/
theorem pattern_declared {field : Blueprint.Field Shape}
    (declared : ∀ stored ∈ patternVariables outline type true fields, stored.name ∈ own)
    (member : field ∈ fields) (checked : .pattern ∈ outline.rules field) :
    patternName type field ∈ own := by
  obtain ⟨pattern, present⟩ := Option.isSome_iff_exists.mp (pattern_stated checked)
  apply declared ⟨patternName type field, pattern⟩
  apply List.mem_flatMap.mpr
  refine ⟨field, member, List.mem_append_right _ ?_⟩
  simp [patternVariable, checked, present]

theorem field_check_in_scope {field : Blueprint.Field Shape}
    (declared : ∀ stored ∈ patternVariables outline type true fields, stored.name ∈ own)
    (member : field ∈ fields) :
    InScope components own Package.any (fieldCheck outline type field) := by
  apply Validator.check_in_scope
  rw [List.forall_mem_append]
  constructor
  · split <;> simp [Validator.skipWhenEmpty]
  · intro argument listed
    obtain ⟨rule, checked, rfl⟩ := List.mem_map.mp listed
    apply rule_in_scope
    intro pattern
    exact pattern_declared declared member (pattern ▸ checked)

theorem regex_declared {validated : Bool} {field : Blueprint.Field Shape} {required : List String}
    (declared : ∀ stored ∈ patternVariables outline type validated fields, stored.name ∈ own)
    (member : field ∈ fields) (present : field.regex.isSome) :
    (FieldReading.ofField outline required field).regexName type ∈ own := by
  obtain ⟨regex, stated⟩ := Option.isSome_iff_exists.mp present
  apply declared ⟨(FieldReading.ofField outline required field).regexName type, regex⟩
  apply List.mem_flatMap.mpr
  refine ⟨field, member, List.mem_append_left _ ?_⟩
  simp [regexVariable, stated, FieldReading.regexName, FieldReading.member, FieldReading.ofField]

theorem shape_part_of_fields (outline : Outline) {component : Component}
    {fields : List (String × Blueprint.Field Shape)} {required : List String}
    {additional : Additional Shape} (object : component.shape = .object fields required additional)
    (filled : fields ≠ []) (comment : List String) :
    shapePart outline component comment =
      structPart outline component comment (fields.map (·.2)) required := by
  obtain ⟨first, rest, rfl⟩ := List.exists_cons_of_ne_nil filled
  rw [shapePart, object]

theorem struct_part_in_scope {component : Component} {comment : List String}
    {required : List String} (runtime : Outcome.names ⊆ components)
    (usable : ∀ field ∈ fields, InScope components own Package.any (typeOf field.shape).code)
    (declared : ∀ stored ∈ patternVariables outline component.name
      (!component.skipValidation && outline.hasValidator component.name) fields,
      stored.name ∈ own) :
    (structPart outline component comment fields required).InScope components own Package.any := by
  have types : ∀ field ∈ fields, InScope components own Package.any (fieldType field).code :=
    fun field member => field_type_in_scope (runtime (by decide)) (usable field member)
  unfold structPart
  dsimp only
  apply Part.InScope.append (Part.InScope.append (Part.InScope.append _ _) _) _
  · constructor
    · rw [InScope.flat_map_iff]
      exact types
    · simp only [Part.names, List.flatMap_singleton, struct_names, InScope.flat_map_iff]
      intro entry member
      obtain ⟨field, listed, rfl⟩ := List.mem_map.mp member
      simp [Entry.names, memberOf, types field listed]
  · exact pattern_part_in_scope _ _
  · apply Decoder.part_in_scope runtime
    · intro reading member
      obtain ⟨field, listed, rfl⟩ := List.mem_map.mp member
      exact usable field listed
    · intro reading member present
      obtain ⟨field, listed, rfl⟩ := List.mem_map.mp member
      exact regex_declared declared listed present
  · split
    · rename_i validated
      rw [validated] at declared
      constructor
      · simp [validatorPart, Validator.mentions]
      · simp only [validatorPart, Part.names, List.flatMap_singleton]
        apply Validator.method_in_scope
        intro check member
        obtain ⟨field, kept, rfl⟩ := List.mem_map.mp member
        exact field_check_in_scope declared (List.mem_filter.mp kept).1
    · exact Part.InScope.empty

theorem enum_part_in_scope {comment : List String} {enumeration : Enumeration}
    (runtime : Outcome.names ⊆ components)
    (declared : ∀ member ∈ enumeration.members, constantName type member ∈ own) :
    (enumPart type comment enumeration).InScope components own Package.any := by
  have invalid : "InvalidEnumValueError" ∈ components := runtime (by decide)
  have base : InScope components own Package.any (primitiveType enumeration.base).code :=
    primitive_type_in_scope enumeration.base
  constructor
  · simp [enumPart, base]
  · simp only [enumPart, Part.names, List.flatMap_cons, List.flatMap_nil, InScope.append_iff]
    refine ⟨?_, ?_, ?_, ?_, InScope.nil_iff.mpr trivial⟩
    · simp [Form.names, base]
    · simp [Form.names, constantEntry, Entry.names]
    · simpa [Form.names, memberCheck, invalid] using declared
    · simp [Form.names, memberDecoder, Decoder.signature, Decoder.acceptNull,
        Decoder.unmarshalInto, giveError, base]

theorem alias_part_in_scope {comment : List String} {shape : Shape}
    (usable : shape.references ⊆ components) :
    (aliasPart type comment shape).InScope components own Package.any := by
  have named : InScope components own Package.any (typeOf shape).code :=
    shape_type_in_scope usable
  constructor
  · exact named
  · simp [aliasPart, Part.names, Form.names, named]

theorem pattern_part_declares (owner : String) {patterns : List PatternVariable}
    {stored : PatternVariable} (member : stored ∈ patterns) :
    stored.name ∈ (PatternVariable.part owner patterns).declares.map (·.1) := by
  unfold PatternVariable.part
  split
  · rename_i none
    rw [List.isEmpty_iff.mp none] at member
    cases member
  · exact List.mem_map.mpr ⟨_, List.mem_map.mpr ⟨stored, member, rfl⟩, rfl⟩

/-- The declarations of a component refer to what the shape of the component refers to and to what
they declare themselves. -/
theorem shape_part_in_scope {component : Component} {comment : List String}
    (runtime : Outcome.names ⊆ components) (usable : component.shape.references ⊆ components)
    (declared : (shapePart outline component comment).declares.map (·.1) ⊆ own) :
    (shapePart outline component comment).InScope components own Package.any := by
  unfold shapePart at declared ⊢
  split at declared
  · constructor
    · exact InScope.nil_iff.mpr trivial
    · simp [Part.names, Form.names]
  · rename_i field fields required additional shape
    apply struct_part_in_scope runtime
    · intro other member
      obtain ⟨entry, listed, rfl⟩ := List.mem_map.mp member
      apply shape_type_in_scope
      intro name inside
      apply usable
      rw [shape, Shape.references]
      exact List.mem_append_left _ (Shape.mem_field_references listed inside)
    · intro stored member
      apply declared
      rw [structPart, Part.declares_append, Part.declares_append, Part.declares_append]
      simp only [List.map_append, List.mem_append]
      exact .inl (.inl (.inr (pattern_part_declares _ member)))
  · apply enum_part_in_scope runtime
    intro member listed
    apply declared
    exact List.mem_map.mpr ⟨_, List.mem_map.mpr ⟨member, listed, rfl⟩, rfl⟩
  · exact alias_part_in_scope usable

theorem part_in_scope {component : Component} (runtime : Outcome.names ⊆ components)
    (usable : component.shape.references ⊆ components)
    (declared : (part outline component).declares.map (·.1) ⊆ own) :
    (part outline component).InScope components own Package.any := by
  apply Part.InScope.append
  · constructor
    · exact InScope.nil_iff.mpr trivial
    · exact InScope.nil_iff.mpr trivial
  · apply shape_part_in_scope runtime usable
    intro name member
    apply declared
    rw [part, Part.declares_append, List.map_append]
    exact List.mem_append_right _ member

end Component

theorem runtime_in_scope : Outcome.part.InScope Outcome.names [] Package.any := by
  constructor
  · decide
  · decide

def componentsDeclared (program : Program) : List String :=
  (componentsPart program).declares.map (·.1)

theorem runtime_declared (program : Program) : Outcome.names ⊆ componentsDeclared program := by
  intro name member
  unfold componentsDeclared componentsPart
  rw [Part.declares_append, List.map_append]
  apply List.mem_append_left
  exact List.mem_map.mpr ⟨_, List.mem_map.mpr ⟨name, member, rfl⟩, rfl⟩

theorem component_part_declared {program : Program} {component : Component}
    (member : component ∈ program.components.values) :
    (Component.part (Outline.ofProgram program) component).declares.map (·.1) ⊆
      componentsDeclared program := by
  intro name declared
  unfold componentsDeclared componentsPart
  rw [Part.declares_append, List.map_append, Part.declares_join]
  apply List.mem_append_right
  obtain ⟨entry, listed, rfl⟩ := List.mem_map.mp declared
  exact List.mem_map.mpr ⟨entry, List.mem_flatMap.mpr
    ⟨_, List.mem_map.mpr ⟨component, member, rfl⟩, listed⟩, rfl⟩

theorem component_declared {program : Program} (wellFormed : program.WellFormed) {name : String}
    (known : name ∈ program.components.keys) : name ∈ componentsDeclared program := by
  obtain ⟨entry, member, rfl⟩ := List.mem_map.mp known
  apply component_part_declared (List.mem_map.mpr ⟨entry, member, rfl⟩)
  rw [← wellFormed.named entry member]
  exact List.mem_cons_self

/-- Shapes that a program holds refer to components that are declared. -/
theorem references_declared {program : Program} (wellFormed : program.WellFormed) {shape : Shape}
    (held : program.Holds shape) : shape.references ⊆ componentsDeclared program :=
  fun name member => component_declared wellFormed (wellFormed.registered shape held name member)

theorem components_part_in_scope {program : Program} (wellFormed : program.WellFormed) :
    (componentsPart program).InScope (componentsDeclared program) (componentsDeclared program)
      Package.any := by
  apply Part.InScope.append
  · exact runtime_in_scope.mono (runtime_declared program) (List.nil_subset _) fun _ known => known
  · apply Part.InScope.join
    intro part member
    obtain ⟨component, listed, rfl⟩ := List.mem_map.mp member
    obtain ⟨entry, registered, rfl⟩ := List.mem_map.mp listed
    apply Component.part_in_scope (runtime_declared program)
    · exact references_declared wellFormed (.component registered)
    · exact component_part_declared listed

end ApiScaffold.Server
