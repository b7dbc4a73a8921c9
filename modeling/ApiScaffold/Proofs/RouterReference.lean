import ApiScaffold.Proofs.ComponentReference
import ApiScaffold.Proofs.EmissionClosure

/-!
The file of the router writes whatever it mentions, with one exception: an optional body that is
read as it is mentions what an empty one would be told by, and has no use for it.
-/

namespace ApiScaffold.Server

open Blueprint Go Source

variable {scope : Scope} {path : String} {whole : Prop} {elsewhere : String → Prop}

def routerRuntime : List Fragment := Reply.part.names ++ Hooks.part.names

/-- Paths that a part of the router can leave to others: those of every router, and that of errors
where an optional body is read as a whole. -/
def Elsewhere (scope : Scope) (whole : Prop) (path : String) : Prop :=
  (path = Package.errors ∧ Package.errors ≠ scope.package ∧ whole) ∨
    Refers scope path routerRuntime

theorem elsewhere_of_runtime (mentioned : Refers scope path [
    .imported Package.http "Request", .imported Package.fmt "Sprintf",
    .imported Package.mime "ParseMediaType", Hooks.result]) :
    Elsewhere scope whole path := by
  apply Or.inr
  apply mentioned.mono
  decide

theorem remote_elsewhere (remote : scope.Remote path) : Elsewhere scope whole path := by
  apply elsewhere_of_runtime
  simp [Hooks.result, remote]

theorem security_part_uses (schemes : List SecurityScheme) :
    (Security.part schemes).Uses scope (Elsewhere scope whole) := by
  constructor
  intro path mentioned
  apply Or.inl
  apply elsewhere_of_runtime
  apply mentioned.mono
  simp only [Security.part]
  decide

namespace ParameterReading

variable {reading : ParameterReading}

theorem source_used (mentioned : Refers scope path reading.source) :
    Refers scope path (Statement.names reading.statements) := by
  unfold statements
  split
  · simp [arrayStatements, mentioned]
  · unfold singleStatements
    simp [mentioned]

theorem conversion_used (mentioned : Refers scope path (conversionMentions reading.conversion)) :
    Refers scope path (Statement.names reading.converting) := by
  unfold converting
  cases conversion : reading.conversion with
  | intMember type =>
      rw [conversion, conversionMentions, Refers.append_iff] at mentioned
      rcases mentioned with typed | read
      · have made : Refers scope path (call type reading.numberName) := by simp [call, typed]
        simp [orRefuse, made]
      · simp only [Refers.qualified_iff, Refers.nil_iff, or_false] at read
        obtain ⟨foreign, rfl⟩ := read
        simp [foreign]
  | _ =>
      rw [conversion, conversionMentions] at mentioned
      simp [mentioned]

theorem trimming_used (trimmed : reading.parameter.field.trimmable)
    (mentioned : Refers scope path [.qualified Package.strings "TrimSpace"]) :
    Refers scope path (Statement.names reading.trimming) := by
  unfold trimming
  rw [if_pos trimmed]
  simpa using mentioned

/-- Trimming and conversion are written whether the parameter is a list or not. -/
theorem changes_written (used : Refers scope path (Statement.names reading.trimming) ∨
      Refers scope path (Statement.names reading.converting)) :
    Refers scope path (Statement.names reading.statements) := by
  unfold statements
  split
  · rcases used with trims | converts
    · simp [arrayStatements, trims]
    · simp [arrayStatements, converts]
  · unfold singleStatements
    rcases used with trims | converts
    · simp [trims]
    · dsimp only
      split <;> simp [converts]

theorem mentions_used (mentioned : Refers scope path reading.mentions) :
    Refers scope path (Statement.names reading.statements) := by
  rcases Refers.append_iff.mp mentioned with first | trims
  · rcases Refers.append_iff.mp first with taken | converted
    · exact source_used taken
    · exact changes_written (.inr (conversion_used converted))
  · split at trims
    · rename_i trimmed
      exact changes_written (.inl (trimming_used trimmed trims))
    · exact absurd trims (Refers.nil_iff.mp ·)

end ParameterReading

namespace BodyReading

variable {reading : BodyReading}

/-- Whether the body is optional and read as it is, so that an empty one is none to notice. -/
def isWhole (reading : BodyReading) : Bool :=
  match reading.decoding with
  | .raw _ => !reading.required
  | _ => false

theorem whole_or_empty (optional : reading.required = false) :
    reading.isWhole ∨ reading.mayBeEmpty := by
  unfold isWhole mayBeEmpty
  split <;> simp [optional]

theorem decoding_used (mentioned : Refers scope path reading.decoding.code) :
    Refers scope path (Statement.names reading.decodingStatements) := by
  unfold decodingStatements
  split
  · rename_i text raw
    rw [raw] at mentioned ⊢
    simp [mentioned]
  · split <;> simp [mentioned]

theorem end_used (optional : reading.required = false)
    (mentioned : Refers scope path [.qualified Package.io "EOF"]) :
    Refers scope path (Statement.names reading.decodingStatements) := by
  simp only [Refers.qualified_iff, Refers.nil_iff, or_false] at mentioned
  obtain ⟨foreign, rfl⟩ := mentioned
  unfold decodingStatements
  split
  · rename_i text raw
    simp [raw, BodyDecoding.code, foreign]
  · rw [if_neg (Bool.eq_false_iff.mp optional)]
    simp [foreign]

/-- The package of errors is used where an empty body is told from a broken one. -/
theorem errors_used (empty : reading.mayBeEmpty) (foreign : Package.errors ≠ scope.package) :
    Refers scope Package.errors (Statement.names reading.decodingStatements) := by
  unfold mayBeEmpty at empty
  unfold decodingStatements
  split at empty
  · cases empty
  · rename_i decoded
    rw [Bool.not_eq_true'] at empty
    split
    · rename_i required
      rw [empty] at required
      cases required
    · simp [foreign]

theorem validation_used (validates : reading.validates)
    (mentioned : Refers scope path [.qualified Package.validation "Validate"]) :
    Refers scope path (Statement.names reading.validation) := by
  simp only [Refers.qualified_iff, Refers.nil_iff, or_false] at mentioned
  obtain ⟨foreign, rfl⟩ := mentioned
  unfold validation
  dsimp only
  rw [if_neg (by simp [validates])]
  split <;> simp [foreign]

theorem statements_names : Statement.names reading.statements =
    Statement.names reading.decodingStatements ++ Statement.names
      [Reply.callHook "RequestBodyUnmarshalCompleted" ["r", reading.operationKey]] ++
      Statement.names reading.validation := by
  unfold statements
  rw [List.cons_append, List.cons_append, Statement.names_gap, Statement.names_append,
    Statement.names_append]

theorem mentions_used (mentioned : Refers scope path reading.mentions) :
    (path = Package.errors ∧ Package.errors ≠ scope.package ∧ reading.isWhole) ∨
      Refers scope path (Statement.names reading.statements) := by
  rw [statements_names, Refers.append_iff, Refers.append_iff]
  rcases Refers.append_iff.mp mentioned with first | validated
  · rcases Refers.append_iff.mp first with decoded | emptied
    · exact .inr (.inl (.inl (decoding_used decoded)))
    · split at emptied
      · exact absurd emptied (Refers.nil_iff.mp ·)
      · rename_i given
        have optional : reading.required = false := Bool.eq_false_iff.mpr given
        rw [← List.singleton_append, Refers.append_iff] at emptied
        rcases emptied with compared | ended
        · simp only [Refers.qualified_iff, Refers.nil_iff, or_false] at compared
          obtain ⟨foreign, rfl⟩ := compared
          rcases whole_or_empty optional with whole | empty
          · exact .inl ⟨rfl, foreign, whole⟩
          · exact .inr (.inl (.inl (errors_used empty foreign)))
        · exact .inr (.inl (.inl (end_used optional ended)))
  · split at validated
    · rename_i validates
      exact .inr (.inr (validation_used validates validated))
    · exact absurd validated (Refers.nil_iff.mp ·)

end BodyReading

theorem variants_filled (operation : Operation) :
    ∃ variant others, RequestVariant.ofOperation operation = variant :: others := by
  unfold RequestVariant.ofOperation
  split <;> exact ⟨_, _, rfl⟩

namespace Request

variable {outline : Outline} {operation : Operation}

theorem place_part_uses (place : Place) :
    (placePart outline operation place).Uses scope elsewhere := by
  unfold placePart
  split
  · exact Part.Uses.empty
  · apply Part.Uses.append
    · constructor
      intro path mentioned
      apply Or.inr
      obtain ⟨parameter, member, used⟩ := (Refers.flat_map_iff _ _).mp mentioned
      simp only [Part.names, List.flatMap_singleton, Form.names, List.flatMap_map,
        Refers.flat_map_iff]
      exact ⟨parameter, member, by simpa [Entry.names] using used⟩
    · unfold placeValidator
      dsimp only
      split
      · exact Part.Uses.empty
      · constructor
        intro path mentioned
        apply Or.inr
        simp only [Part.names, List.flatMap_singleton]
        exact validator_uses _ mentioned

theorem body_written {variant : RequestVariant} {reading : BodyReading}
    (member : reading ∈ Parser.bodyReading outline operation variant)
    (used : Refers scope path (Statement.names reading.statements)) :
    Refers scope path (Parser.function outline operation variant).form.names := by
  have body : Refers scope path (Statement.names
      ((Parser.bodyReading outline operation variant).toList.flatMap BodyReading.statements)) := by
    rw [Statement.names_flat_map, Refers.flat_map_iff]
    exact ⟨reading, Option.mem_toList.mpr member, used⟩
  simp [Parser.function, Form.names, Parser.statements, body]

theorem place_written {variant : RequestVariant} {place : Place} {parameter : Parameter}
    (listed : place ∈ places operation) (member : parameter ∈ operation.parametersIn place)
    (used : Refers scope path (Statement.names
      (ParameterReading.ofParameter outline operation parameter).statements)) :
    Refers scope path (Parser.function outline operation variant).form.names := by
  have readings : Refers scope path (Statement.names
      (((operation.parametersIn place).map (ParameterReading.ofParameter outline
        operation)).flatMap ParameterReading.statements)) := by
    rw [Statement.names_flat_map, Refers.flat_map_iff]
    exact ⟨_, List.mem_map_of_mem member, used⟩
  have statements : Refers scope path
      (Statement.names (Parser.placeStatements outline operation place)) := by
    unfold Parser.placeStatements
    dsimp only
    rw [List.cons_append, List.cons_append, Statement.names_gap, Statement.names_append,
      Statement.names_append]
    exact Refers.append_iff.mpr (.inl (Refers.append_iff.mpr (.inl readings)))
  have places : Refers scope path (Statement.names
      ((places operation).flatMap (Parser.placeStatements outline operation))) := by
    rw [Statement.names_flat_map, Refers.flat_map_iff]
    exact ⟨place, listed, statements⟩
  simp [Parser.function, Form.names, Parser.statements, places]

theorem parser_uses {variant : RequestVariant}
    (known : ∀ reading ∈ Parser.bodyReading outline operation variant, reading.isWhole → whole)
    (mentioned : Refers scope path (Parser.mentions outline operation variant)) :
    Elsewhere scope whole path ∨
      Refers scope path (Parser.function outline operation variant).form.names := by
  unfold Parser.mentions at mentioned
  rcases Refers.append_iff.mp mentioned with first | body
  · rcases Refers.append_iff.mp first with request | parameters
    · apply Or.inr
      simp only [Refers.qualified_iff, Refers.nil_iff, or_false] at request
      obtain ⟨foreign, rfl⟩ := request
      simp [Parser.function, Form.names, foreign]
    · obtain ⟨place, listed, inside⟩ := (Refers.flat_map_iff _ _).mp parameters
      obtain ⟨parameter, member, used⟩ := (Refers.flat_map_iff _ _).mp inside
      exact .inr (place_written listed member (ParameterReading.mentions_used used))
  · obtain ⟨reading, member, used⟩ := (Refers.flat_map_iff _ _).mp body
    rcases BodyReading.mentions_used used with ⟨same, foreign, read⟩ | written
    · exact .inl (.inl ⟨same, foreign, known reading (Option.mem_toList.mp member) read⟩)
    · exact .inr (body_written (Option.mem_toList.mp member) written)

theorem content_written {variant : RequestVariant} {content : BodyContent}
    (member : content ∈ variant.content.toList)
    (used : Refers scope path (typeOf content.shape).code) :
    Refers scope path
      (Form.names (.struct variant.typeName "" [{ members := members operation variant }])) := by
  have body : (⟨"Body", [(typeOf content.shape).code]⟩ : Entry) ∈ members operation variant := by
    apply List.mem_append_left
    apply List.mem_append_right
    exact List.mem_map_of_mem (f := fun content => (⟨"Body", [(typeOf content.shape).code]⟩ : Entry))
      member
  simp only [Form.names, List.flatMap_singleton, Refers.flat_map_iff]
  exact ⟨_, body, by simpa [Entry.names] using used⟩

theorem variant_part_uses {variant : RequestVariant}
    (known : ∀ reading ∈ Parser.bodyReading outline operation variant, reading.isWhole → whole) :
    (variantPart outline operation variant).Uses scope (Elsewhere scope whole) := by
  constructor
  intro path mentioned
  simp only [variantPart, Part.names, List.flatMap_cons, List.flatMap_nil, List.append_nil,
    Refers.append_iff] at mentioned ⊢
  rcases mentioned with typed | parsed
  · obtain ⟨content, member, used⟩ := (Refers.flat_map_iff _ _).mp typed
    exact .inr (.inl (content_written member used))
  · exact (parser_uses known parsed).imp_right .inr

theorem part_uses (known : ∀ variant ∈ RequestVariant.ofOperation operation,
      ∀ reading ∈ Parser.bodyReading outline operation variant, reading.isWhole → whole) :
    (part outline operation).Uses scope (Elsewhere scope whole) := by
  apply Part.Uses.append (Part.Uses.append (Part.Uses.append _ _) _) _
  · apply Part.Uses.join
    intro part listed
    obtain ⟨place, _, rfl⟩ := List.mem_map.mp listed
    exact place_part_uses place
  · exact pattern_part_uses _ _
  · constructor
    intro path mentioned
    apply Or.inl
    apply remote_elsewhere
    simpa [Hooks.result] using mentioned
  · apply Part.Uses.join
    intro part listed
    obtain ⟨variant, member, rfl⟩ := List.mem_map.mp listed
    exact variant_part_uses (known variant member)

end Request

namespace Builder

variable {program : Program} {operation : Operation}

theorem headers_part_uses (response : Response) :
    (headersPart program operation response).Uses scope elsewhere := by
  constructor
  intro path mentioned
  simp only [headersPart, Refers.flat_map_iff, Refers.append_iff] at mentioned
  obtain ⟨header, member, typed | written⟩ := mentioned
  · apply Or.inr
    have listed : Refers scope path (Form.names (.struct (headersStruct operation response.status) ""
        [{ members := response.headers.map fun header =>
          ⟨headerMember header, [(headerType program header).code]⟩ }])) := by
      simp only [Form.names, List.flatMap_singleton, List.flatMap_map, Refers.flat_map_iff]
      exact ⟨header, member, by simpa [Entry.names] using typed⟩
    simp [headersPart, Part.names, listed]
  · apply Or.inr
    have assigned : Refers scope path (Statement.names [headerStatement program header]) := by
      unfold headerStatement
      dsimp only
      split <;> simp [written]
    have body : Refers scope path
        (Statement.names (response.headers.map (headerStatement program))) := by
      obtain ⟨before, after, split⟩ := List.append_of_mem member
      rw [split, List.map_append, List.map_cons, Statement.names_append]
      rw [← List.singleton_append, Statement.names_append]
      simp [assigned]
    simp [headersPart, Part.names, step, Form.names, body]

theorem content_part_uses (status : Status) (stage : String) (content : BodyContent) :
    (contentPart operation status stage content).Uses scope elsewhere := by
  constructor
  intro path mentioned
  apply Or.inr
  have typed : Refers scope path (typeOf content.shape).code := mentioned
  simp [contentPart, Part.names, step, Form.names, typed]

theorem part_uses : (part program operation).Uses scope elsewhere := by
  apply Part.Uses.append
  · exact Part.Uses.of_subset (List.nil_subset _)
  · apply Part.Uses.join
    intro part stated
    obtain ⟨response, _, rfl⟩ := List.mem_map.mp stated
    unfold responsePart
    dsimp only
    apply Part.Uses.append (Part.Uses.append _ _) _
    · exact Part.Uses.of_subset (List.nil_subset _)
    · split
      · exact headers_part_uses response
      · exact Part.Uses.empty
    · split
      · exact Part.Uses.of_subset (List.nil_subset _)
      · apply Part.Uses.join
        intro part listed
        obtain ⟨content, _, rfl⟩ := List.mem_map.mp listed
        exact content_part_uses _ _ content

end Builder

namespace Service

theorem handler_part_uses (tag : String) (operation : Operation) :
    (handlerPart tag operation).Uses scope (Elsewhere scope whole) := by
  constructor
  intro path mentioned
  apply Or.inl
  unfold handlerPart at mentioned
  dsimp only at mentioned
  split at mentioned
  · apply elsewhere_of_runtime
    simp only [Refers.qualified_iff, Refers.nil_iff, or_false] at mentioned
    simp [mentioned]
  · exact absurd mentioned (Refers.nil_iff.mp ·)

/-- There is a service method for every operation, and at least one operation for every tag. -/
theorem part_uses (tag : String) {operations : List Operation} (filled : operations ≠ []) :
    (part tag operations).Uses scope (Elsewhere scope whole) := by
  apply Part.Uses.append
  · constructor
    intro path mentioned
    apply Or.inr
    have context : Refers scope path [.qualified Package.context "Context"] →
        Refers scope path (interface tag operations).form.names := by
      intro used
      obtain ⟨operation, rest, rfl⟩ := List.exists_cons_of_ne_nil filled
      obtain ⟨variant, others, variants⟩ := variants_filled operation
      have method : Refers scope path (serviceMethod operation variant) := by
        simp only [Refers.qualified_iff, Refers.nil_iff, or_false] at used
        obtain ⟨foreign, rfl⟩ := used
        simp [serviceMethod, foreign]
      simp [interface, Form.names, variants, method]
    have mux : Refers scope path [.qualified Package.chi "Mux", .qualified Package.chi "NewRouter"] →
        Refers scope path (routerType tag).form.names := by
      intro used
      simp only [Refers.qualified_iff, Refers.nil_iff, or_false, or_self] at used
      obtain ⟨foreign, rfl⟩ := used
      simp [routerType, Form.names, Entry.names, foreign]
    have split : Refers scope path [.qualified Package.context "Context"] ∨
        Refers scope path [.qualified Package.chi "Mux", .qualified Package.chi "NewRouter"] :=
      Refers.append_iff.mp mentioned
    rw [Part.names]
    simp only [List.flatMap_cons, Refers.append_iff]
    exact split.imp context (.inl ∘ mux)
  · apply Part.Uses.join
    intro part listed
    obtain ⟨operation, _, rfl⟩ := List.mem_map.mp listed
    exact handler_part_uses tag operation

end Service

theorem runtime_written (program : Program) : routerRuntime ⊆ (routerPart program).names := by
  unfold routerRuntime routerPart
  dsimp only
  rw [Part.names_append, Part.names_append, Part.names_append, Part.names_append,
    Part.names_append]
  simp only [List.append_assoc]
  exact fun name member => (List.mem_append.mp member).elim (List.mem_append_left _)
    fun inside => List.mem_append_right _ (List.mem_append_left _ inside)

def ReadsWhole (program : Program) : Prop :=
  ∃ operation ∈ program.operations, ∃ variant ∈ RequestVariant.ofOperation operation,
    ∃ reading ∈ Parser.bodyReading (Outline.ofProgram program) operation variant, reading.isWhole

/-- Whatever the router mentions is used in it, unless it is the package of errors and there is an
optional body that is read as it is. -/
theorem router_refers {program : Program}
    (mentioned : Refers scope path (routerPart program).mentions) :
    (path = Package.errors ∧ Package.errors ≠ scope.package ∧ ReadsWhole program) ∨
      Refers scope path (routerPart program).names := by
  have uses : (routerPart program).Uses scope (Elsewhere scope (ReadsWhole program)) := by
    unfold routerPart
    dsimp only
    apply Part.Uses.append (Part.Uses.append (Part.Uses.append (Part.Uses.append
      (Part.Uses.append _ _) _) _) _) _
    · apply Part.Uses.of_subset
      decide
    · apply Part.Uses.of_subset
      decide
    · exact security_part_uses _
    · apply Part.Uses.join
      intro part stated
      obtain ⟨operation, listed, rfl⟩ := List.mem_map.mp stated
      apply Part.Uses.append _ Builder.part_uses
      apply Request.part_uses
      exact fun variant member reading given whole =>
        ⟨operation, listed, variant, member, reading, given, whole⟩
    · apply Part.Uses.join
      intro part stated
      obtain ⟨entry, tagged, rfl⟩ := List.mem_map.mp stated
      exact Service.part_uses _ (Program.tagged_filled entry tagged)
    · exact Part.Uses.of_subset (List.nil_subset _)
  rcases uses.used path mentioned with (errors | runtime) | used
  · exact .inl errors
  · exact .inr (runtime.mono (runtime_written program))
  · exact .inr used

end ApiScaffold.Server
