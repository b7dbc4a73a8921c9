import ApiScaffold.Proofs.Reference
import ApiScaffold.Proofs.ComponentScope

/-!
The file of components writes whatever it mentions. Errors are formatted by the runtime in any case;
all other packages are those of a declaration that mentions them.
-/

namespace ApiScaffold.Server

open Blueprint Go Source

variable {scope : Scope} {elsewhere : String → Prop}

theorem refers_optional_iff {path : String} (type : TypeExpression) :
    Refers scope path (optional type).code ↔ scope.Remote path ∨ Refers scope path type.code := by
  simp [optional, TypeExpression.code]

theorem pattern_part_uses (owner : String) (patterns : List PatternVariable) :
    (PatternVariable.part owner patterns).Uses scope elsewhere := by
  unfold PatternVariable.part
  split
  · exact Part.Uses.empty
  · rename_i filled
    obtain ⟨first, rest, rfl⟩ := List.exists_cons_of_ne_nil (List.isEmpty_eq_false_iff.mp
      (Bool.eq_false_iff.mpr filled))
    constructor
    intro path mentioned
    apply Or.inr
    have compiled : Refers scope path (PatternVariable.entry first).names := by
      simpa [Entry.names, PatternVariable.entry] using mentioned
    simp [Part.names, Form.names, compiled]

theorem validator_uses {path type : String} (checks : List Code)
    (mentioned : Refers scope path Validator.mentions) :
    Refers scope path (Validator.method type checks).form.names := by
  simp only [Validator.method, Form.names]
  rw [Statement.names_listing]
  simp only [Refers.append_iff]
  refine .inr (.inl (.inl (.inl ?_)))
  simpa [Validator.mentions] using mentioned

namespace FieldReading

variable {reading : FieldReading} {path : String} (type receiver : String)

theorem trimming_used (trimmed : reading.field.trimmable)
    (mentioned : Refers scope path [.qualified Package.strings "TrimSpace"]) :
    Refers scope path (Statement.names (reading.transformation type receiver)) := by
  have written : Refers scope path (Statement.names reading.trimming) := by
    unfold trimming
    rw [if_pos trimmed]
    simpa using mentioned
  simp [transformation, written]

theorem parser_used {parser : QualifiedName} (present : reading.parser = some parser)
    (mentioned : Refers scope path [Package.reference parser]) :
    Refers scope path (Statement.names (reading.transformation type receiver)) := by
  have written : Refers scope path (Statement.names reading.parsing) := by
    unfold parsing
    rw [present]
    have call : Refers scope path
        [Package.reference parser, .text s!"({reading.valueName})"] := by
      rw [← List.singleton_append, Refers.append_iff]
      exact .inl mentioned
    simp [call]
  simp [transformation, written]

theorem transformation_written (transformed : reading.isTransformed)
    (used : Refers scope path (Statement.names (reading.transformation type receiver))) :
    Refers scope path (Statement.names (reading.statements type receiver)) := by
  have assigned : Refers scope path
      (Statement.names (reading.transformedAssignment type receiver)) := by
    unfold transformedAssignment
    dsimp only
    split
    · exact used
    · split <;> simp [used]
  simp [statements, transformed, assigned]

/-- The optional type of a nullable field stands in the shadow, or it is that of the empty value. -/
theorem empty_type_used (nullable : reading.field.optionality = .optionalNullable)
    (mentioned : Refers scope path (optional (typeOf reading.field.shape)).code) :
    Refers scope path reading.shadowType.code ∨
      Refers scope path (Statement.names (reading.statements type receiver)) := by
  cases parser : reading.parser with
  | none =>
      apply Or.inl
      simpa [shadowType, parser, nullable] using mentioned
  | some name =>
      apply Or.inr
      have transformed : reading.isTransformed := by simp [isTransformed, parser]
      have empties : Refers scope path (Statement.names [reading.emptyAssignment receiver]) := by
        simp [emptyAssignment, mentioned]
      have assigned : Refers scope path
          (Statement.names (reading.transformedAssignment type receiver)) := by
        simp [transformedAssignment, source, nullable, empties]
      simp [statements, transformed, assigned]

theorem mentions_used (mentioned : Refers scope path reading.mentions) :
    Refers scope path reading.shadowType.code ∨
      Refers scope path (Statement.names (reading.statements type receiver)) := by
  unfold mentions at mentioned
  rcases Refers.append_iff.mp mentioned with parsed | typed
  · apply Or.inr
    cases parser : reading.parser with
    | none => simp [parser] at parsed
    | some name =>
        have transformed : reading.isTransformed := by simp [isTransformed, parser]
        have named : Refers scope path [Package.reference name] := by
          simpa [parser] using parsed
        exact transformation_written type receiver transformed
          (parser_used type receiver parser named)
  · split at typed
    · rename_i nullable
      exact empty_type_used type receiver nullable typed
    · exact absurd typed (Refers.nil_iff.mp ·)

end FieldReading

namespace Decoder

/-- A decoder refers to the types in the shadow, to the reading of documents, and to what is done
with every field. -/
theorem method_names (type : String) (readings : List FieldReading) :
    (method type readings).form.names =
      (readings.map FieldReading.shadowRow).flatten.flatMap namesOf ++
        [.qualified Package.json "Unmarshal"] ++
        readings.flatMap fun reading =>
          Statement.names (reading.statements type (receiverName type)) := by
  simp [method, Form.names, signature, acceptNull, unmarshalInto, giveError,
    Statement.names_flat_map]

theorem part_uses (local' : scope.components = none) (type : String)
    (readings : List FieldReading) :
    (part type readings).Uses scope (· = Package.fmt) := by
  unfold part
  split
  · constructor
    intro path mentioned
    have shadows : ∀ reading ∈ readings, Refers scope path reading.shadowType.code →
        Refers scope path (method type readings).form.names := by
      intro reading member used
      rw [method_names, Refers.append_iff, Refers.append_iff]
      apply Or.inl ∘ Or.inl
      rw [Refers.flat_map_iff]
      refine ⟨reading.shadowType.code, ?_, (Refers.names_of_iff _).mpr used⟩
      apply List.mem_flatten.mpr ⟨_, List.mem_map_of_mem member, _⟩
      simp [FieldReading.shadowRow]
    have bodies : ∀ reading ∈ readings, Refers scope path
        (Statement.names (reading.statements type (receiverName type))) →
        Refers scope path (method type readings).form.names := by
      intro reading member used
      rw [method_names, Refers.append_iff]
      exact .inr ((Refers.flat_map_iff _ _).mpr ⟨reading, member, used⟩)
    simp only [mentions, Refers.append_iff, Refers.flat_map_iff] at mentioned
    have remote : ¬ scope.Remote path := by simp [Scope.Remote, local']
    simp only [Part.names, List.flatMap_singleton]
    rcases mentioned with (((first | trimmed) | wrapper) | ⟨reading, member, used⟩) |
      ⟨reading, member, used⟩
    · simp only [Refers.qualified_iff, Refers.nil_iff, or_false] at first
      rcases first with ⟨foreign, rfl⟩ | ⟨_, rfl⟩
      · apply Or.inr
        simp [method_names, foreign]
      · exact .inl rfl
    · apply Or.inr
      split at trimmed
      · rename_i some'
        obtain ⟨reading, member, trims⟩ := List.any_eq_true.mp some'
        have transformed : reading.isTransformed := by
          simp [FieldReading.isTransformed, trims]
        exact bodies reading member (FieldReading.transformation_written type _ transformed
          (FieldReading.trimming_used type _ trims trimmed))
      · exact absurd trimmed (Refers.nil_iff.mp ·)
    · simp [remote] at wrapper
    · exact .inr (shadows reading member used)
    · apply Or.inr
      exact (FieldReading.mentions_used type (receiverName type) used).elim
        (shadows reading member) (bodies reading member)
  · exact Part.Uses.empty

end Decoder

namespace Component

variable {outline : Outline} (local' : scope.components = none)

include local' in
theorem struct_part_uses (component : Component) (comment : List String)
    (fields : List (Blueprint.Field Shape)) (required : List String) :
    (structPart outline component comment fields required).Uses scope (· = Package.fmt) := by
  unfold structPart
  dsimp only
  apply Part.Uses.append (Part.Uses.append (Part.Uses.append _ _) _) _
  · constructor
    intro path mentioned
    apply Or.inr
    obtain ⟨field, member, used⟩ := (Refers.flat_map_iff _ _).mp mentioned
    simp only [Part.names, List.flatMap_singleton, struct_names, Refers.flat_map_iff]
    refine ⟨memberOf field, List.mem_map_of_mem member, ?_⟩
    simp [memberOf, Entry.names, used]
  · exact pattern_part_uses _ _
  · exact Decoder.part_uses local' _ _
  · split
    · constructor
      intro path mentioned
      apply Or.inr
      simp only [validatorPart, Part.names, List.flatMap_singleton]
      exact validator_uses _ mentioned
    · exact Part.Uses.empty

theorem enum_part_uses (type : String) (comment : List String) (enumeration : Enumeration) :
    (enumPart type comment enumeration).Uses scope elsewhere := by
  constructor
  intro path mentioned
  apply Or.inr
  rcases Refers.append_iff.mp mentioned with base | decoded
  · simp [enumPart, Part.names, Form.names, base]
  · have written : Refers scope path
        (memberDecoder type enumeration.base).form.names := by
      simp only [Refers.qualified_iff, Refers.nil_iff, or_false] at decoded
      obtain ⟨foreign, rfl⟩ := decoded
      simp [memberDecoder, Form.names, Decoder.acceptNull, Decoder.unmarshalInto, foreign]
    simp [enumPart, Part.names, written]

theorem alias_part_uses (type : String) (comment : List String) (shape : Shape) :
    (aliasPart type comment shape).Uses scope elsewhere := by
  constructor
  intro path mentioned
  apply Or.inr
  simpa [aliasPart, Part.names, Form.names] using mentioned

include local' in
theorem part_uses (component : Component) :
    (part outline component).Uses scope (· = Package.fmt) := by
  apply Part.Uses.append
  · exact Part.Uses.of_subset (List.nil_subset _)
  · unfold shapePart
    split
    · exact Part.Uses.of_subset (List.nil_subset _)
    · exact struct_part_uses local' _ _ _ _
    · exact enum_part_uses _ _ _
    · exact alias_part_uses _ _ _

end Component

theorem outcome_uses : Outcome.part.mentions ⊆ Outcome.part.names := by
  decide

/-- Every package that the file of components mentions is used in it. -/
theorem components_refer {path : String} (program : Program) (local' : scope.components = none)
    (mentioned : Refers scope path (componentsPart program).mentions) :
    Refers scope path (componentsPart program).names := by
  have uses : (componentsPart program).Uses scope (· = Package.fmt) := by
    apply Part.Uses.append
    · exact Part.Uses.of_subset outcome_uses
    · apply Part.Uses.join
      intro part listed
      obtain ⟨component, _, rfl⟩ := List.mem_map.mp listed
      exact Component.part_uses local' component
  rcases uses.used path mentioned with rfl | used
  · have formats : Refers scope Package.fmt [.imported Package.fmt "Sprintf"] := by simp
    apply formats.mono
    have written : [.imported Package.fmt "Sprintf"] ⊆ Outcome.part.names := by decide
    exact List.Subset.trans written (by
      unfold componentsPart
      rw [Part.names_append]
      exact List.subset_append_left _ _)
  · exact used

end ApiScaffold.Server
