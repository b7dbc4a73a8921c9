import ApiScaffold.Proofs.ComponentScope
import ApiScaffold.Server.Parser

/-!
Requests and their parsers refer to nothing that is not declared. The regular expressions, the types
and the parsers that they use are declared by the request itself, the constants of security schemes
by the part on security, everything else by the components.
-/

namespace ApiScaffold.Server

open Blueprint Go Source

variable {components own : List String} {packages : String → Prop}

theorem outcome_in_scope {kind : String} {error : Code} (runtime : Outcome.names ⊆ components)
    (known : kind ∈ Outcome.kinds) (inside : InScope components own packages error) :
    InScope components own packages (Security.outcome kind error) := by
  have make : "NewRequestProcessingResult" ∈ components := runtime (by decide)
  have kind' : kind ∈ components := runtime (List.mem_append_right _ known)
  simp [Security.outcome, make, kind', inside]

theorem call_hook_in_scope {hook : String} {arguments : List Code}
    (inside : ∀ argument ∈ arguments, InScope components own packages argument) :
    InScope components own packages (Statement.names [Reply.callHook hook arguments]) := by
  simpa [Reply.callHook] using inside

theorem fail_in_scope {kind hook : String} {error : Code} {arguments : List Code}
    (runtime : Outcome.names ⊆ components) (known : kind ∈ Outcome.kinds)
    (inside : InScope components own packages error)
    (others : ∀ argument ∈ arguments, InScope components own packages argument) :
    InScope components own packages (Statement.names (fail kind error hook arguments)) := by
  have outcome : InScope components own packages (Security.outcome kind error) :=
    outcome_in_scope runtime known inside
  have hooked : InScope components own packages (Statement.names [Reply.callHook hook
      (("r" : Code) :: arguments ++ [("request.ProcessingResult" : Code)])]) := by
    apply call_hook_in_scope
    rw [List.forall_mem_append, List.forall_mem_cons]
    exact ⟨⟨by simp, others⟩, by simp⟩
  rw [fail, Statement.names_assign, Statement.names_cons, Statement.names_give]
  rw [Statement.names_cons] at hooked
  simp only [InScope.append_iff, InScope.names_of_iff] at hooked ⊢
  exact ⟨⟨by simp, outcome⟩, hooked.1, by simp⟩

theorem call_in_scope {function argument : Code} (callee : InScope components own packages function)
    (inside : InScope components own packages argument) :
    InScope components own packages (call function argument) := by
  simp [call, callee, inside]

theorem primitive_conversion_in_scope (kind : PrimitiveKind) {raw : Code}
    (inside : InScope components own Package.any raw) :
    InScope components own Package.any
      (ParameterReading.conversionMentions (primitiveConversion kind raw)) := by
  have typed : ∀ kind, InScope components own Package.any (primitiveType kind).code :=
    primitive_type_in_scope
  cases kind <;>
    simp [primitiveConversion, ParameterReading.conversionMentions, call, checksItself, inside, typed]

theorem conversion_in_scope {shape resolved : Shape} {raw : Code}
    (usable : shape.references ⊆ components) (inside : InScope components own Package.any raw) :
    InScope components own Package.any
      (ParameterReading.conversionMentions (conversionOf shape resolved raw)) := by
  have typed : InScope components own Package.any (typeOf shape).code := shape_type_in_scope usable
  unfold conversionOf
  split
  · split
    · simp [ParameterReading.conversionMentions, typed]
    · exact call_in_scope typed inside
  · split
    · exact call_in_scope (by simp) inside
    · exact call_in_scope typed inside
  · exact primitive_conversion_in_scope _ inside
  · exact inside

namespace ParameterReading

variable {reading : ParameterReading}

theorem refuse_in_scope {error : Code} (runtime : Outcome.names ⊆ components)
    (inside : InScope components own packages error) :
    InScope components own packages (Statement.names (reading.refuse error)) := by
  apply fail_in_scope runtime
  · cases reading.parameter.place <;> decide
  · exact inside
  · simp

theorem self_check_in_scope {method : String} (runtime : Outcome.names ⊆ components) :
    InScope components own packages (Statement.names [reading.selfCheck method]) := by
  have refused : InScope components own packages (Statement.names (reading.refuse "err")) :=
    refuse_in_scope runtime (by simp)
  simp [selfCheck, refused]

theorem or_refuse_in_scope (runtime : Outcome.names ⊆ components) :
    InScope components own packages (Statement.names [reading.orRefuse]) := by
  have refused : InScope components own packages (Statement.names (reading.refuse "err")) :=
    refuse_in_scope runtime (by simp)
  simp [orRefuse, refused]

theorem matching_in_scope (runtime : Outcome.names ⊆ components)
    (regex : reading.parameter.field.regex.isSome →
      Request.patternName reading.operation reading.parameter "Regex" ∈ own) :
    InScope components own packages (Statement.names reading.matching) := by
  have mismatch : "PatternMismatchError" ∈ components := runtime (by decide)
  unfold matching
  split
  · rename_i present
    have declared := regex present
    have refused : InScope components own packages (Statement.names (reading.refuse
        [.component "PatternMismatchError", s!"\x7bField: {reading.key}, Pattern: ",
          .own (Request.patternName reading.operation reading.parameter "Regex"),
          ".String()\x7d"])) := by
      apply refuse_in_scope runtime
      simp [mismatch, declared]
    simp [declared, refused]
  · simp

variable [Package.Provided packages]

theorem source_in_scope : InScope components own packages reading.source := by
  unfold source
  split
  · simp
  · split <;> simp
  · simp

theorem converting_in_scope (runtime : Outcome.names ⊆ components)
    (inside : InScope components own packages (conversionMentions reading.conversion)) :
    InScope components own packages (Statement.names reading.converting) := by
  have check (method : String) :
      InScope components own packages (Statement.names [reading.selfCheck method]) :=
    self_check_in_scope runtime
  have refused : InScope components own packages (Statement.names [reading.orRefuse]) :=
    or_refuse_in_scope runtime
  unfold converting
  cases conversion : reading.conversion with
  | direct expression =>
      rw [conversion] at inside
      simpa [conversionMentions] using inside
  | fallible call =>
      rw [conversion] at inside
      simp only [Statement.names_define, InScope.append_iff, InScope.names_of_iff]
      exact ⟨inside, refused⟩
  | member expression =>
      rw [conversion] at inside
      simp only [Statement.names_define, InScope.append_iff, InScope.names_of_iff]
      exact ⟨inside, check "Check"⟩
  | intMember type =>
      rw [conversion] at inside
      have named : InScope components own packages type := (InScope.append_iff.mp inside).1
      have made : InScope components own packages (call type reading.numberName) :=
        call_in_scope named (by simp)
      have both : InScope components own packages (Statement.names
          [.define [reading.value] (call type reading.numberName), reading.selfCheck "Check"]) := by
        simp only [Statement.names_define, InScope.append_iff, InScope.names_of_iff]
        exact ⟨made, check "Check"⟩
      rw [Statement.names_define, Statement.names_cons]
      rw [Statement.names_cons] at refused
      simp only [InScope.append_iff] at refused ⊢
      exact ⟨by simp, refused.1, both⟩
  | validated expression =>
      rw [conversion] at inside
      simp only [Statement.names_define, InScope.append_iff, InScope.names_of_iff]
      exact ⟨inside, check "Validate"⟩

theorem trimming_in_scope : InScope components own packages (Statement.names reading.trimming) := by
  unfold trimming
  split <;> simp

theorem statements_in_scope (runtime : Outcome.names ⊆ components)
    (missing : "RequiredParameterMissingError" ∈ own)
    (regex : reading.parameter.field.regex.isSome →
      Request.patternName reading.operation reading.parameter "Regex" ∈ own)
    (inside : InScope components own packages (conversionMentions reading.conversion)) :
    InScope components own packages (Statement.names reading.statements) := by
  have source : InScope components own packages reading.source := source_in_scope
  have trims : InScope components own packages (Statement.names reading.trimming) := trimming_in_scope
  have fits : InScope components own packages (Statement.names reading.matching) :=
    matching_in_scope runtime regex
  have converts : InScope components own packages (Statement.names reading.converting) :=
    converting_in_scope runtime inside
  have refused : InScope components own packages
      (Statement.names (reading.refuse reading.missing)) := by
    apply refuse_in_scope runtime
    simp [ParameterReading.missing, missing]
  unfold statements
  split
  · unfold arrayStatements
    rw [Statement.names_append, InScope.append_iff]
    constructor
    · split
      · simp [source, refused]
      · simp
    · simp [source, trims, fits, converts]
  · unfold singleStatements
    dsimp only
    split <;> simp [source, trims, fits, converts, refused]

theorem mentions_in_scope
    (inside : InScope components own packages (conversionMentions reading.conversion)) :
    InScope components own packages reading.mentions := by
  unfold mentions
  simp only [InScope.append_iff]
  refine ⟨⟨source_in_scope, inside⟩, ?_⟩
  split <;> simp

end ParameterReading

namespace BodyReading

variable {reading : BodyReading}

theorem refuse_in_scope {error : Code} (runtime : Outcome.names ⊆ components)
    (inside : InScope components own packages error) :
    InScope components own packages (Statement.names (reading.refuse error)) := by
  apply fail_in_scope runtime
  · decide
  · exact inside
  · simp

variable [Package.Provided packages]

theorem decoding_in_scope (decoding : BodyDecoding) :
    InScope components own packages decoding.code := by
  cases decoding <;> simp [BodyDecoding.code, BodyDecoding.decoderCall]

theorem statements_in_scope (runtime : Outcome.names ⊆ components)
    (empty : reading.mayBeEmpty → Package.Among packages Package.errors) :
    InScope components own packages (Statement.names reading.statements) := by
  have decodes : InScope components own packages reading.decoding.code := decoding_in_scope _
  have refused (error : String) :
      InScope components own packages (Statement.names (reading.refuse error)) :=
    refuse_in_scope runtime (by simp)
  have invalid : InScope components own packages (Statement.names
      (fail "BodyValidationFailed" "err" "RequestBodyValidationFailed"
        [reading.operationKey])) := by
    apply fail_in_scope runtime
    · decide
    · simp
    · simp
  have hooked : InScope components own packages (Statement.names
      [Reply.callHook "RequestBodyUnmarshalCompleted" ["r", reading.operationKey]]) := by
    apply call_hook_in_scope
    simp
  have reads : InScope components own packages (Statement.names reading.decodingStatements) := by
    unfold decodingStatements
    split
    · rename_i text decoding
      split <;> simp [refused, decodes]
    · rename_i decoded
      split
      · simp [refused, decodes]
      · rename_i optional
        have needed : Package.Among packages Package.errors := by
          apply empty
          unfold mayBeEmpty
          split
          · rename_i text raw
            exact absurd raw (decoded text)
          · simpa using optional
        simp [refused, decodes, needed]
  have validates : InScope components own packages (Statement.names reading.validation) := by
    unfold validation
    dsimp only
    split
    · simp
    · split <;> simp [invalid]
  unfold statements
  rw [List.cons_append, List.cons_append, Statement.names_gap, Statement.names_append,
    Statement.names_append]
  simp only [InScope.append_iff]
  exact ⟨⟨reads, hooked⟩, validates⟩

theorem mentions_in_scope : InScope components own Package.any reading.mentions := by
  have decodes : InScope components own Package.any reading.decoding.code := decoding_in_scope _
  unfold mentions
  simp only [InScope.append_iff]
  refine ⟨⟨decodes, ?_⟩, ?_⟩ <;> split <;> simp

end BodyReading

/-- What a name can stand for has no other names than the components have. -/
theorem resolve_declared {program : Program} (wellFormed : program.WellFormed) {shape : Shape}
    (usable : shape.references ⊆ componentsDeclared program) :
    (program.resolve shape).references ⊆ componentsDeclared program := by
  unfold Program.resolve resolveIn
  generalize program.components.length + 1 = steps
  fun_induction resolveWithin program.components steps shape with
  | case1 steps name component found induction =>
      have registered := Registry.mem_of_find? found
      exact induction (references_declared wellFormed (.component registered))
  | case2 => exact usable
  | case3 => exact usable

theorem outline_program (program : Program) : (Outline.ofProgram program).program = program := by
  have kept : ∀ (rounds : Nat) (outline : Outline),
      (Outline.collect rounds outline).program = outline.program := by
    intro rounds
    induction rounds with
    | zero =>
        intro outline
        rfl
    | succ rounds induction =>
        intro outline
        unfold Outline.collect
        split
        · rfl
        · rw [induction]
  exact kept _ _

/-- The conversion of a parameter is made from its shape, or from that of the elements of a list. -/
theorem parameter_conversion_in_scope {program : Program} (wellFormed : program.WellFormed)
    {operation : Operation} {parameter : Parameter}
    (usable : parameter.field.shape.references ⊆ componentsDeclared program) :
    InScope (componentsDeclared program) own Package.any (ParameterReading.conversionMentions
      (ParameterReading.ofParameter (Outline.ofProgram program) operation parameter).conversion) := by
  have resolved : ((Outline.ofProgram program).resolve parameter.field.shape).references ⊆
      componentsDeclared program := by
    unfold Outline.resolve
    rw [outline_program]
    exact resolve_declared wellFormed usable
  unfold ParameterReading.ofParameter
  apply conversion_in_scope
  · split
    · rename_i element minItems maxItems list
      rw [list, Shape.references] at resolved
      exact resolved
    · exact usable
  · simp

theorem variant_contents {operation : Operation} {variant : RequestVariant} {content : BodyContent}
    (member : variant ∈ RequestVariant.ofOperation operation)
    (inside : content ∈ variant.content.toList) : content ∈ operation.bodyContents := by
  unfold RequestVariant.ofOperation at member
  split at member
  · rename_i first second rest contents
    obtain ⟨other, listed, rfl⟩ := List.mem_map.mp member
    cases Option.mem_toList.mp inside
    rw [contents]
    exact listed
  · rw [List.mem_singleton.mp member] at inside
    exact List.mem_of_mem_head? (Option.mem_toList.mp inside)

section Operations

variable {program : Program} {operation : Operation}

def requestCode (outline : Outline) (operation : Operation) : Code :=
  (operation.parameters.flatMap fun parameter =>
    (typeOf parameter.field.shape).code ++ ParameterReading.conversionMentions
      (ParameterReading.ofParameter outline operation parameter).conversion) ++
  operation.bodyContents.flatMap fun content => (typeOf content.shape).code

/-- What the request of an operation relies on. -/
structure RequestScope (program : Program) (operation : Operation) (own : List String)
    (packages : String → Prop) : Prop where
  wellFormed : program.WellFormed
  listed : operation ∈ program.operations
  missing : "RequiredParameterMissingError" ∈ own
  schemes : ∀ scheme ∈ program.securitySchemes, Security.constant scheme ∈ own
  declared : (Request.part (Outline.ofProgram program) operation).declares.map (·.1) ⊆ own
  packaged : ∀ fragment ∈ requestCode (Outline.ofProgram program) operation,
    fragment.PackagedIn packages
  emptied : ∀ variant ∈ RequestVariant.ofOperation operation,
    ∀ reading ∈ Parser.bodyReading (Outline.ofProgram program) operation variant,
      reading.mayBeEmpty → Package.Among packages Package.errors

namespace RequestScope

variable (scope : RequestScope program operation own packages)

include scope

theorem parameter_usable {parameter : Parameter} (member : parameter ∈ operation.parameters) :
    InScope (componentsDeclared program) own packages (typeOf parameter.field.shape).code := by
  apply InScope.of_packaged (shape_type_in_scope
    (references_declared scope.wellFormed (.parameter scope.listed member)))
  intro fragment inside
  exact scope.packaged fragment (List.mem_append_left _
    (List.mem_flatMap.mpr ⟨parameter, member, List.mem_append_left _ inside⟩))

theorem content_usable {content : BodyContent} (member : content ∈ operation.bodyContents) :
    InScope (componentsDeclared program) own packages (typeOf content.shape).code := by
  have usable : content.shape.references ⊆ componentsDeclared program := by
    unfold Operation.bodyContents at member
    split at member
    · rename_i body present
      exact references_declared scope.wellFormed (.requestBody scope.listed present member)
    · cases member
  apply InScope.of_packaged (shape_type_in_scope usable)
  intro fragment inside
  exact scope.packaged fragment (List.mem_append_right _
    (List.mem_flatMap.mpr ⟨content, member, inside⟩))

theorem place_declared {place : Place} {name : String}
    (member : name ∈ (Request.placePart (Outline.ofProgram program) operation place).declares.map
      (·.1)) : name ∈ own := by
  obtain ⟨entry, listed, rfl⟩ := List.mem_map.mp member
  apply scope.declared
  apply List.mem_map.mpr ⟨entry, _, rfl⟩
  have known : place ∈ Place.all := by cases place <;> decide
  simp only [Request.part, Part.declares_append, Part.declares_join, List.mem_append]
  exact .inl (.inl (.inl (List.mem_flatMap.mpr ⟨_, List.mem_map_of_mem known, listed⟩)))

theorem pattern_declared {parameter : Parameter} {stored : PatternVariable}
    (member : parameter ∈ operation.parameters)
    (inside : stored ∈ Request.patternVariables (Outline.ofProgram program) operation parameter) :
    stored.name ∈ own := by
  have listed : stored ∈ operation.parameters.flatMap
      (Request.patternVariables (Outline.ofProgram program) operation) :=
    List.mem_flatMap.mpr ⟨parameter, member, inside⟩
  obtain ⟨entry, declared, same⟩ := List.mem_map.mp
    (Component.pattern_part_declares (Request.owner operation) listed)
  apply scope.declared
  apply List.mem_map.mpr ⟨entry, _, same⟩
  simp only [Request.part, Part.declares_append, List.mem_append]
  exact .inl (.inl (.inr declared))

theorem variant_declared {variant : RequestVariant} {name : String}
    (member : variant ∈ RequestVariant.ofOperation operation)
    (inside : name = variant.typeName ∨ name = variant.parser) : name ∈ own := by
  apply scope.declared
  simp only [Request.part, Part.declares_append, Part.declares_join, List.map_append, List.mem_append]
  apply Or.inr
  have own : name ∈ (Request.variantPart (Outline.ofProgram program) operation
      variant).declares.map (·.1) := by
    simpa [Request.variantPart] using inside
  obtain ⟨entry, listed, rfl⟩ := List.mem_map.mp own
  exact List.mem_map_of_mem (List.mem_flatMap.mpr ⟨_, List.mem_map_of_mem member, listed⟩)

theorem regex_declared {parameter : Parameter} (member : parameter ∈ operation.parameters)
    (present : parameter.field.regex.isSome) :
    Request.patternName operation parameter "Regex" ∈ own := by
  obtain ⟨regex, stated⟩ := Option.isSome_iff_exists.mp present
  have inside : (⟨Request.patternName operation parameter "Regex", regex⟩ : PatternVariable) ∈
      Request.patternVariables (Outline.ofProgram program) operation parameter := by
    apply List.mem_append_left
    rw [stated]
    exact List.mem_singleton_self _
  have declared := scope.pattern_declared member inside
  dsimp only at declared
  exact declared

theorem alternatives_in_scope :
    InScope (componentsDeclared program) own packages (Parser.alternatives operation) := by
  have known : ∀ required ∈ operation.security, ∀ name ∈ required,
      Security.scheme name ∈ own := by
    intro required member name inside
    obtain ⟨scheme, declared, rfl⟩ :=
      scope.wellFormed.authorised operation scope.listed required member name inside
    exact scope.schemes scheme declared
  simpa [Parser.alternatives] using known

theorem conversion_in_scope {parameter : Parameter} (member : parameter ∈ operation.parameters) :
    InScope (componentsDeclared program) own packages (ParameterReading.conversionMentions
      (ParameterReading.ofParameter (Outline.ofProgram program) operation parameter).conversion) := by
  apply InScope.of_packaged (parameter_conversion_in_scope scope.wellFormed
    (references_declared scope.wellFormed (.parameter scope.listed member)))
  intro fragment inside
  exact scope.packaged fragment (List.mem_append_left _
    (List.mem_flatMap.mpr ⟨parameter, member, List.mem_append_right _ inside⟩))

theorem parser_mentions_in_scope (variant : RequestVariant) :
    InScope (componentsDeclared program) own Package.any
      (Parser.mentions (Outline.ofProgram program) operation variant) := by
  unfold Parser.mentions
  simp only [InScope.append_iff, InScope.flat_map_iff]
  refine ⟨⟨by simp, ?_⟩, ?_⟩
  · intro place _
    unfold Parser.placeMentions
    rw [InScope.flat_map_iff]
    intro parameter inPlace
    exact ParameterReading.mentions_in_scope
      (scope.conversion_in_scope (List.mem_filter.mp inPlace).1).any
  · intro reading _
    exact BodyReading.mentions_in_scope

theorem place_struct_declared {place : Place} (used : place ∈ Request.places operation) :
    Request.placeStruct operation place ∈ own := by
  have filled : (operation.parametersIn place).isEmpty = false := by
    simpa using (List.mem_filter.mp used).2
  have declares : Request.placeStruct operation place ∈
      (Request.placePart (Outline.ofProgram program) operation place).declares.map (·.1) := by
    unfold Request.placePart
    split
    · rename_i none
      rw [none] at filled
      cases filled
    · rw [Part.declares_append, List.map_append]
      exact List.mem_append_left _ (List.mem_singleton_self _)
  exact scope.place_declared declares

theorem parameter_type_in_scope {parameter : Parameter}
    (member : parameter ∈ operation.parameters) :
    InScope (componentsDeclared program) own packages
      (Request.parameterType (Outline.ofProgram program) parameter).code := by
  have plain : InScope (componentsDeclared program) own packages (typeOf parameter.field.shape).code :=
    scope.parameter_usable member
  unfold Request.parameterType scalarFieldType
  split
  · exact plain
  · exact optional_in_scope (runtime_declared program (by decide)) plain

/-- A rule that checks a pattern has it in a variable that the request declares. -/
theorem rule_pattern_declared {parameter : Parameter} (member : parameter ∈ operation.parameters)
    (checked : .pattern ∈ (Outline.ofProgram program).rules parameter.field) :
    Request.patternName operation parameter "Pattern" ∈ own := by
  obtain ⟨pattern, stated⟩ := Option.isSome_iff_exists.mp (pattern_stated checked)
  have inside : (⟨Request.patternName operation parameter "Pattern", pattern⟩ : PatternVariable) ∈
      Request.patternVariables (Outline.ofProgram program) operation parameter := by
    apply List.mem_append_right
    simp [checked, stated]
  have declared := scope.pattern_declared member inside
  dsimp only at declared
  exact declared

variable [Package.Provided packages]

theorem place_statements_in_scope (place : Place) :
    InScope (componentsDeclared program) own packages
      (Statement.names (Parser.placeStatements (Outline.ofProgram program) operation place)) := by
  have runtime := runtime_declared program
  have readings : InScope (componentsDeclared program) own packages (Statement.names
      (((operation.parametersIn place).map (ParameterReading.ofParameter
        (Outline.ofProgram program) operation)).flatMap ParameterReading.statements)) := by
    rw [Statement.names_flat_map, InScope.flat_map_iff]
    intro reading listed
    obtain ⟨parameter, inPlace, rfl⟩ := List.mem_map.mp listed
    have member : parameter ∈ operation.parameters := (List.mem_filter.mp inPlace).1
    exact ParameterReading.statements_in_scope runtime scope.missing
      (scope.regex_declared member) (scope.conversion_in_scope member)
  have hooked : InScope (componentsDeclared program) own packages (Statement.names
      [Reply.callHook s!"Request{place.title}ParseCompleted" ["r", quote operation.name]]) := by
    apply call_hook_in_scope
    simp
  have invalid : InScope (componentsDeclared program) own packages (Statement.names
      (fail (place.title ++ "ValidationFailed") "err" s!"Request{place.title}ValidationFailed"
        [quote operation.name])) := by
    apply fail_in_scope runtime
    · cases place <;> decide
    · simp
    · simp
  unfold Parser.placeStatements
  dsimp only
  rw [List.cons_append, List.cons_append, Statement.names_gap, Statement.names_append,
    Statement.names_append]
  simp only [InScope.append_iff]
  refine ⟨⟨readings, hooked⟩, ?_⟩
  split
  · simp [invalid]
  · simp

theorem parser_in_scope {variant : RequestVariant}
    (member : variant ∈ RequestVariant.ofOperation operation) :
    InScope (componentsDeclared program) own packages
      (Parser.function (Outline.ofProgram program) operation variant).form.names := by
  have runtime := runtime_declared program
  have type : variant.typeName ∈ own := scope.variant_declared member (.inl rfl)
  have outcome : InScope (componentsDeclared program) own packages
      (Security.outcome "ParseSucceed" "nil") :=
    outcome_in_scope runtime (by decide) (by simp)
  have security : InScope (componentsDeclared program) own packages
      (Statement.names (Parser.securityStatements operation)) := by
    unfold Parser.securityStatements
    split
    · simp [scope.alternatives_in_scope]
    · simp
  have places : InScope (componentsDeclared program) own packages (Statement.names
      ((Request.places operation).flatMap
        (Parser.placeStatements (Outline.ofProgram program) operation))) := by
    rw [Statement.names_flat_map, InScope.flat_map_iff]
    intro place _
    exact scope.place_statements_in_scope place
  have body : InScope (componentsDeclared program) own packages (Statement.names
      ((Parser.bodyReading (Outline.ofProgram program) operation variant).toList.flatMap
        BodyReading.statements)) := by
    rw [Statement.names_flat_map, InScope.flat_map_iff]
    intro reading given
    exact BodyReading.statements_in_scope runtime
      (scope.emptied variant member reading (Option.mem_toList.mp given))
  have hooked : InScope (componentsDeclared program) own packages (Statement.names
      [.gap, Reply.callHook "RequestParseCompleted" ["r", quote operation.name], .give []]) := by
    simp [Reply.callHook]
  unfold Parser.function Form.names Parser.statements
  simp only [Statement.names_append, InScope.append_iff]
  refine ⟨?_, ⟨⟨⟨?_, security⟩, places⟩, body⟩, hooked⟩
  · simp [type]
  · simp [outcome]

theorem place_validator_in_scope (place : Place) :
    (Request.placeValidator (Outline.ofProgram program) operation place).InScope
      (componentsDeclared program) own packages := by
  unfold Request.placeValidator
  dsimp only
  split
  · exact Part.InScope.empty
  · constructor
    · simp [Validator.mentions]
    · simp only [Part.names, List.flatMap_singleton]
      apply Validator.method_in_scope
      intro check listed
      obtain ⟨parameter, kept, rfl⟩ := List.mem_map.mp listed
      have member : parameter ∈ operation.parameters :=
        (List.mem_filter.mp (List.mem_filter.mp kept).1).1
      apply Validator.check_in_scope
      intro argument inside
      obtain ⟨rule, checked, rfl⟩ := List.mem_map.mp inside
      apply rule_in_scope
      intro pattern
      exact scope.rule_pattern_declared member (pattern ▸ checked)

theorem place_part_in_scope (place : Place) :
    (Request.placePart (Outline.ofProgram program) operation place).InScope
      (componentsDeclared program) own packages := by
  have types : ∀ parameter ∈ operation.parametersIn place,
      InScope (componentsDeclared program) own packages
        (Request.parameterType (Outline.ofProgram program) parameter).code :=
    fun parameter inPlace => scope.parameter_type_in_scope (List.mem_filter.mp inPlace).1
  unfold Request.placePart
  split
  · exact Part.InScope.empty
  · apply Part.InScope.append
    · constructor
      · rw [InScope.flat_map_iff]
        exact fun parameter inPlace => (types parameter inPlace).any
      · simpa [Part.names, Form.names, Entry.names] using types
    · exact scope.place_validator_in_scope place

theorem variant_part_in_scope {variant : RequestVariant}
    (member : variant ∈ RequestVariant.ofOperation operation) :
    (Request.variantPart (Outline.ofProgram program) operation variant).InScope
      (componentsDeclared program) own packages := by
  have types : ∀ content ∈ variant.content.toList,
      InScope (componentsDeclared program) own packages (typeOf content.shape).code :=
    fun content inside => scope.content_usable (variant_contents member inside)
  have result : "RequestProcessingResult" ∈ componentsDeclared program :=
    runtime_declared program (by decide)
  constructor
  · simp only [Request.variantPart, InScope.append_iff, InScope.flat_map_iff]
    exact ⟨fun content inside => (types content inside).any, scope.parser_mentions_in_scope variant⟩
  · simp only [Request.variantPart, Part.names, List.flatMap_cons, List.flatMap_nil,
      InScope.append_iff]
    refine ⟨?_, scope.parser_in_scope member, InScope.nil_iff.mpr trivial⟩
    have structs : ∀ place ∈ Request.places operation,
        Request.placeStruct operation place ∈ own :=
      fun place used => scope.place_struct_declared used
    simp only [Form.names, List.flatMap_singleton, Request.members, List.flatMap_append,
      InScope.append_iff, List.flatMap_map]
    refine ⟨⟨?_, ?_⟩, ?_⟩
    · simpa [Entry.names] using structs
    · simpa [Entry.names] using types
    · simp [Entry.names, Hooks.result, result]

theorem request_part_in_scope :
    (Request.part (Outline.ofProgram program) operation).InScope (componentsDeclared program)
      own packages := by
  have result : "RequestProcessingResult" ∈ componentsDeclared program :=
    runtime_declared program (by decide)
  unfold Request.part
  apply Part.InScope.append (Part.InScope.append (Part.InScope.append _ _) _) _
  · apply Part.InScope.join
    intro part listed
    obtain ⟨place, _, rfl⟩ := List.mem_map.mp listed
    exact scope.place_part_in_scope place
  · exact pattern_part_in_scope _ _
  · constructor
    · simp [Hooks.result, result]
    · exact InScope.nil_iff.mpr trivial
  · apply Part.InScope.join
    intro part listed
    obtain ⟨variant, member, rfl⟩ := List.mem_map.mp listed
    exact scope.variant_part_in_scope member

end RequestScope

end Operations

end ApiScaffold.Server
