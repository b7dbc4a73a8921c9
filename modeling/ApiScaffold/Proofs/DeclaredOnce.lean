import ApiScaffold.Proofs.EmissionClosure
import ApiScaffold.Proofs.ShortDocuments
import ApiScaffold.Server.Artifact
import Mathlib.Data.List.Perm.Subperm

/-!
No name is introduced twice. Whatever the declarations of a part introduce, the part has taken the
name for it, as often as it is introduced; a name that is taken a second time ends the run, and a
router in the package of the components starts with the names that these have taken.
-/

namespace ApiScaffold.Source.Declared

/-- Names that were all taken are distinct, and differ from those that were taken before. -/
theorem names_distinct {declared result : Declared} {names : List (String × String)}
    (known : (declared.map (·.1)).Nodup) (success : declared.addAll names = .ok result) :
    (names.map (·.1) ++ declared.map (·.1)).Nodup := by
  induction names generalizing declared with
  | nil => exact known
  | cons entry rest induction =>
      obtain ⟨name, owner⟩ := entry
      simp only [addAll, List.foldlM_cons] at success
      unfold add at success
      split at success
      · cases success
      · rename_i fresh
        have distinct : (((name, owner) :: declared).map (·.1)).Nodup := by
          apply List.nodup_cons.mpr ⟨_, known⟩
          intro taken
          obtain ⟨entry, member, same⟩ := List.mem_map.mp taken
          have found := List.lookup_eq_none_iff.mp fresh entry member
          exact bne_iff_ne.mp found same.symm
        have later := induction distinct success
        exact (List.perm_middle.nodup_iff).mp later

/-- Names that are distinct, and differ from those that were taken before, can all be taken. -/
theorem taken_of_distinct {declared : Declared} {names : List (String × String)}
    (distinct : (names.map (·.1) ++ declared.map (·.1)).Nodup) :
    ∃ result, declared.addAll names = .ok result := by
  induction names generalizing declared with
  | nil => exact ⟨declared, rfl⟩
  | cons entry rest induction =>
      obtain ⟨name, owner⟩ := entry
      have absent := fun taken => (List.nodup_cons.mp distinct).1 (List.mem_append_right _ taken)
      have fresh : declared.lookup name = none := by
        apply List.lookup_eq_none_iff.mpr
        intro known member
        apply bne_iff_ne.mpr
        rintro rfl
        exact absent (List.mem_map.mpr ⟨known, member, rfl⟩)
      have taken : (rest.map (·.1) ++ List.map (·.1) ((name, owner) :: declared)).Nodup :=
        List.perm_middle.nodup_iff.mpr distinct
      obtain ⟨result, success⟩ := induction taken
      refine ⟨result, ?_⟩
      simp only [addAll, List.foldlM_cons, add, fresh]
      exact success

theorem sorted_names_perm (declared : Declared) :
    (declared.sorted.map (·.1)).Perm (declared.map (·.1)) :=
  (List.mergeSort_perm _ _).map _

end ApiScaffold.Source.Declared

namespace ApiScaffold.Go.Part

def taken (part : Part) : List String := part.declares.map (·.1)

@[simp] theorem taken_append (first second : Part) :
    (first ++ second).taken = first.taken ++ second.taken := List.map_append

/-- Every name that is introduced is taken, once for each time. -/
structure Accounted (part : Part) : Prop where
  subperm : part.introduces.Subperm part.taken

namespace Accounted

variable {first second : Part}

theorem of_eq {part : Part} (same : part.introduces = part.taken) : part.Accounted :=
  ⟨same ▸ List.Subperm.refl _⟩

theorem empty : Part.Accounted {} := of_eq rfl

theorem silent {part : Part} (none : part.introduces = []) : part.Accounted :=
  ⟨none ▸ List.nil_subperm⟩

theorem append (left : first.Accounted) (right : second.Accounted) :
    (first ++ second).Accounted := by
  constructor
  rw [introduces_append, taken_append]
  exact left.subperm.append right.subperm

theorem join {parts : List Part} (each : ∀ part ∈ parts, part.Accounted) :
    (Part.join parts).Accounted := by
  induction parts with
  | nil => exact empty
  | cons part rest induction =>
      obtain ⟨first, others⟩ := List.forall_mem_cons.mp each
      exact append first (induction others)

theorem nodup {part : Part} (accounted : part.Accounted) (distinct : part.taken.Nodup) :
    part.introduces.Nodup := by
  obtain ⟨names, order, included⟩ := accounted.subperm
  exact order.nodup_iff.mp (distinct.sublist included)

end Accounted

end ApiScaffold.Go.Part

namespace ApiScaffold.Server

open Blueprint Go Source

theorem pattern_part_introduces (owner : String) (patterns : List PatternVariable) :
    (PatternVariable.part owner patterns).introduces =
      (PatternVariable.part owner patterns).taken := by
  unfold PatternVariable.part
  split
  · rfl
  · simp [Part.introduces, Form.introduces, Part.taken, PatternVariable.entry, Function.comp_def]

theorem decoder_part_introduces (type : String) (readings : List FieldReading) :
    (Decoder.part type readings).introduces = [] := by
  unfold Decoder.part
  split <;> rfl

section Components

variable (outline : Outline) (component : Component) (comment : List String)

theorem struct_part_introduces (fields : List (Blueprint.Field Shape)) (required : List String) :
    (Component.structPart outline component comment fields required).introduces =
      component.name :: (Component.structPart outline component comment fields required).taken := by
  have validator (validated : Bool) :
      (if validated = true then Component.validatorPart outline component.name fields
        else ({} : Part)).introduces = [] := by
    cases validated <;> rfl
  have silent (validated : Bool) :
      (if validated = true then Component.validatorPart outline component.name fields
        else ({} : Part)).taken = [] := by
    cases validated <;> rfl
  have decoder (type : String) (readings : List FieldReading) :
      (Decoder.part type readings).taken = [] := by
    unfold Decoder.part
    split <;> rfl
  unfold Component.structPart
  simp only [Part.introduces_append, Part.taken_append, pattern_part_introduces,
    decoder_part_introduces, validator, silent, decoder, List.append_nil]
  rfl

theorem enum_part_introduces (type : String) (enumeration : Enumeration) :
    (Component.enumPart type comment enumeration).introduces =
      type :: (Component.enumPart type comment enumeration).taken := by
  simp [Component.enumPart, Part.introduces, Part.taken, Form.introduces, Component.constantEntry,
    Component.memberCheck, Component.memberDecoder, Function.comp_def]

/-- The declarations of a component introduce its name, and whatever else they take. -/
theorem shape_part_introduces :
    (Component.shapePart outline component comment).introduces =
      component.name :: (Component.shapePart outline component comment).taken := by
  unfold Component.shapePart
  split
  · rfl
  · exact struct_part_introduces outline component comment _ _
  · exact enum_part_introduces comment component.name _
  · rfl

theorem component_part_accounted : (Component.part outline component).Accounted := by
  apply Part.Accounted.of_eq
  unfold Component.part
  rw [Part.introduces_append, Part.taken_append, shape_part_introduces]
  rfl

end Components

theorem outcome_part_accounted : Outcome.part.Accounted := by
  constructor
  apply List.Perm.subperm
  decide

theorem components_part_accounted (program : Program) : (componentsPart program).Accounted := by
  apply Part.Accounted.append outcome_part_accounted
  apply Part.Accounted.join
  intro part stated
  obtain ⟨component, _, rfl⟩ := List.mem_map.mp stated
  exact component_part_accounted _ component

section Router

variable (outline : Outline) (operation : Operation)

theorem security_part_accounted (schemes : List SecurityScheme) :
    (Security.part schemes).Accounted := by
  have constants : (if schemes.isEmpty then [] else
      [({ form := .constants (schemes.map Security.constantEntry) } : Declaration)]).flatMap
        (·.form.introduces) = schemes.map Security.constant := by
    cases schemes with
    | nil => rfl
    | cons scheme rest => simp [Form.introduces, Security.constantEntry, Function.comp_def]
  have extractors (extracted : List SecurityScheme) :
      (extracted.map Security.extractorFunction).flatMap (·.form.introduces) =
        extracted.map Security.extractor := by
    rw [List.flatMap_map]
    exact List.flatMap_pure_eq_map Security.extractor extracted
  -- the functions of the runtime stand around the constants and the extractors
  have gathered (types constants checks extractors last : List String) :
      (types ++ constants ++ checks ++ extractors ++ last).Perm
        (types ++ checks ++ last ++ constants ++ extractors) := by
    rw [List.perm_iff_count]
    intro name
    simp only [List.count_append]
    omega
  constructor
  apply List.Perm.subperm
  simp only [Part.introduces, Part.taken, Security.part, List.flatMap_append, List.map_append,
    constants, extractors, List.map_map, Function.comp_def]
  exact gathered _ _ _ _ _

theorem place_part_accounted (place : Place) :
    (Request.placePart outline operation place).Accounted := by
  have validator : (Request.placeValidator outline operation place).introduces = [] := by
    unfold Request.placeValidator
    dsimp only
    split <;> rfl
  unfold Request.placePart
  split
  · exact Part.Accounted.empty
  · exact Part.Accounted.append (Part.Accounted.of_eq rfl) (Part.Accounted.silent validator)

theorem request_part_accounted : (Request.part outline operation).Accounted := by
  unfold Request.part
  apply Part.Accounted.append (Part.Accounted.append (Part.Accounted.append _ _) _) _
  · apply Part.Accounted.join
    intro part stated
    obtain ⟨place, _, rfl⟩ := List.mem_map.mp stated
    exact place_part_accounted outline operation place
  · exact Part.Accounted.of_eq (pattern_part_introduces _ _)
  · exact Part.Accounted.of_eq rfl
  · apply Part.Accounted.join
    intro part stated
    obtain ⟨variant, _, rfl⟩ := List.mem_map.mp stated
    exact Part.Accounted.of_eq rfl

theorem start_part_accounted : (Builder.startPart operation).Accounted :=
  .of_eq (by simp [Builder.startPart, Builder.stageType, Part.introduces, Part.taken,
    Form.introduces])

theorem status_part_accounted (response : Response) :
    (Builder.statusPart operation response).Accounted :=
  .of_eq (by simp [Builder.statusPart, Builder.step, Builder.stageType, Part.introduces,
    Part.taken, Form.introduces])

theorem headers_part_accounted (program : Program) (response : Response) :
    (Builder.headersPart program operation response).Accounted :=
  .of_eq (by simp [Builder.headersPart, Builder.step, Builder.stageType, Part.introduces,
    Part.taken, Form.introduces])

theorem content_part_accounted (status : Status) (stage : String) (content : BodyContent) :
    (Builder.contentPart operation status stage content).Accounted :=
  .of_eq (by simp [Builder.contentPart, Builder.step, Builder.stageType, Builder.build,
    Part.introduces, Part.taken, Form.introduces])

theorem response_part_accounted (program : Program) (response : Response) :
    (Builder.responsePart program operation response).Accounted := by
  unfold Builder.responsePart
  dsimp only
  apply Part.Accounted.append (Part.Accounted.append (status_part_accounted operation response) _) _
  · split
    · exact headers_part_accounted operation program response
    · exact Part.Accounted.empty
  · split
    · exact Part.Accounted.silent rfl
    · apply Part.Accounted.join
      intro part stated
      obtain ⟨content, _, rfl⟩ := List.mem_map.mp stated
      exact content_part_accounted operation _ _ content

theorem operation_part_accounted : (operationPart outline operation).Accounted := by
  apply Part.Accounted.append (request_part_accounted outline operation)
  apply Part.Accounted.append (start_part_accounted operation)
  apply Part.Accounted.join
  intro part stated
  obtain ⟨response, _, rfl⟩ := List.mem_map.mp stated
  exact response_part_accounted operation _ response

/-- A service also takes the names of its handlers, which are methods. -/
theorem service_part_accounted (tag : String) (operations : List Operation) :
    (Service.part tag operations).Accounted := by
  apply Part.Accounted.append (Part.Accounted.of_eq rfl)
  apply Part.Accounted.join
  intro part stated
  obtain ⟨operation, _, rfl⟩ := List.mem_map.mp stated
  exact Part.Accounted.silent rfl

theorem reply_part_accounted : Reply.part.Accounted := Part.Accounted.of_eq rfl

theorem router_part_accounted (program : Program) : (routerPart program).Accounted := by
  unfold routerPart
  dsimp only
  refine .append (.append (.append (.append (.append ?_ ?_) ?_) ?_) ?_) ?_
  · exact reply_part_accounted
  · exact Part.Accounted.of_eq rfl
  · exact security_part_accounted _
  · apply Part.Accounted.join
    intro part stated
    obtain ⟨operation, _, rfl⟩ := List.mem_map.mp stated
    exact operation_part_accounted _ operation
  · apply Part.Accounted.join
    intro part stated
    obtain ⟨entry, _, rfl⟩ := List.mem_map.mp stated
    exact service_part_accounted entry.1 entry.2
  · exact Part.Accounted.of_eq rfl

end Router

namespace Artifact

variable {program : Program}

/-- What the router starts with: the names of the components, if both are of one package. -/
theorem shared_names_perm (declared : Declared) (config : Config) :
    ((sharedNames config declared).map (·.1)).Perm
      (if config.componentsImportPath.isNone then declared.map (·.1) else []) := by
  unfold sharedNames
  split
  · exact declared.sorted_names_perm
  · exact .refl _

/-- The names that the components take, and that the router starts with where both are of one
package. -/
def sharedTaken (program : Program) : List String :=
  if program.config.componentsImportPath.isNone then (componentsPart program).taken else []

theorem shared_perm {declared : Declared}
    (success : Declared.addAll [] (componentsPart program).declares = .ok declared) :
    ((sharedNames program.config declared).map (·.1)).Perm (sharedTaken program) := by
  have names := Declared.names_of_addAll success
  have order : (declared.map (·.1)).Perm (componentsPart program).taken := by
    rw [names, List.map_nil, List.append_nil]
    exact List.reverse_perm _
  apply (shared_names_perm declared program.config).trans
  unfold sharedTaken
  split
  · exact order
  · exact .refl _

def written (program : Program) : Artifact × Artifact :=
  ({ path := program.config.componentsFile
     contents := File.write program.config.componentsPackageName (componentsScope program.config)
       (componentsPart program) },
    { path := program.config.routerFile
      contents := File.write program.config.routerPackageName (routerScope program.config)
        (routerPart program) })

theorem all_cases {artifacts : Artifact × Artifact} :
    all program = .ok artifacts ↔ ∃ declared result,
      Declared.addAll [] (componentsPart program).declares = .ok declared ∧
      Declared.addAll [] (sharedNames program.config declared ++ (routerPart program).declares) =
        .ok result ∧
      written program = artifacts := by
  unfold all components router
  rcases first : Declared.addAll [] (componentsPart program).declares with diagnostic | declared
  · simp [bind, Except.bind, first]
  · rcases second : Declared.addAll []
        (sharedNames program.config declared ++ (routerPart program).declares)
      with diagnostic | result
    · simp [bind, Except.bind, pure, Except.pure, first, second]
    · simp [bind, Except.bind, pure, Except.pure, first, second, written]

/-- Both files are written iff the names that they take differ. -/
theorem all_succeeds_iff :
    (∃ artifacts, all program = .ok artifacts) ↔
      (componentsPart program).taken.Nodup ∧
      (sharedTaken program ++ (routerPart program).taken).Nodup := by
  have order {declared : Declared}
      (success : Declared.addAll [] (componentsPart program).declares = .ok declared) :
      ((sharedNames program.config declared ++ (routerPart program).declares).map (·.1)).Perm
        (sharedTaken program ++ (routerPart program).taken) := by
    rw [List.map_append]
    exact (shared_perm success).append_right _
  constructor
  · rintro ⟨artifacts, success⟩
    obtain ⟨declared, result, first, second, _⟩ := all_cases.mp success
    have own := Declared.names_distinct (by simp) first
    have both := Declared.names_distinct (by simp) second
    rw [List.map_nil, List.append_nil] at own both
    exact ⟨own, (order first).nodup_iff.mp both⟩
  · rintro ⟨own, both⟩
    obtain ⟨declared, first⟩ : ∃ declared,
        Declared.addAll [] (componentsPart program).declares = .ok declared :=
      Declared.taken_of_distinct (by rwa [List.map_nil, List.append_nil])
    have distinct := (order first).nodup_iff.mpr both
    obtain ⟨result, second⟩ : ∃ result, Declared.addAll []
        (sharedNames program.config declared ++ (routerPart program).declares) = .ok result :=
      Declared.taken_of_distinct (by rwa [List.map_nil, List.append_nil])
    exact ⟨_, all_cases.mpr ⟨declared, result, first, second, rfl⟩⟩

/-- Files that could stand in one package are written wherever they stand. -/
theorem succeeds_of_distinct
    (distinct : ((componentsPart program).taken ++ (routerPart program).taken).Nodup) :
    ∃ artifacts, all program = .ok artifacts := by
  obtain ⟨own, others, _⟩ := List.nodup_append.mp distinct
  refine all_succeeds_iff.mpr ⟨own, ?_⟩
  unfold sharedTaken
  split
  · exact distinct
  · exact others

end Artifact

/-- Of two files that are written, none introduces a name twice, and both together introduce no name
twice where they are of one package. -/
theorem introduced_names_distinct {program : Program} {artifacts : Artifact × Artifact}
    (emitted : Artifact.all program = .ok artifacts) :
    artifacts = Artifact.written program ∧
    (componentsPart program).introduces.Nodup ∧
    (routerPart program).introduces.Nodup ∧
    (program.config.componentsImportPath = none →
      ((componentsPart program).introduces ++ (routerPart program).introduces).Nodup) := by
  obtain ⟨_, _, _, _, same⟩ := Artifact.all_cases.mp emitted
  obtain ⟨own, both⟩ := Artifact.all_succeeds_iff.mp ⟨_, emitted⟩
  have first := components_part_accounted program
  have second := router_part_accounted program
  refine ⟨same.symm, first.nodup own, second.nodup (List.nodup_append.mp both).2.1, ?_⟩
  intro shared
  have all : ((componentsPart program).taken ++ (routerPart program).taken).Nodup := by
    simpa [Artifact.sharedTaken, shared] using both
  rw [← Part.taken_append] at all
  rw [← Part.introduces_append]
  exact (first.append second).nodup all

/-- A program in one package: it has a schema whose pattern is a variable of its own, and an operation
with a security scheme. -/
theorem shelter_introduces_distinct :
    ∃ program artifacts, (compile shelter { package := "shelter", path := "" }).1 = .ok program ∧
      program.config.componentsImportPath = none ∧
      Artifact.all program = .ok artifacts ∧
      artifacts = Artifact.written program ∧
      ["Dog", "dogNamePattern"] ⊆ (componentsPart program).introduces ∧
      "SecuritySchemeKey" ∈ (routerPart program).introduces ∧
      ((componentsPart program).introduces ++ (routerPart program).introduces).Nodup := by
  have holds : (compileShort shelter { package := "shelter", path := "" }).any fun program =>
      program.config.componentsImportPath.isNone &&
        (componentsPart program).introduces.contains "Dog" &&
          (componentsPart program).introduces.contains "dogNamePattern" &&
            (routerPart program).introduces.contains "SecuritySchemeKey" &&
              decide ((componentsPart program).taken ++ (routerPart program).taken).Nodup := by
    decide +kernel
  obtain ⟨program, result, holds⟩ := compiled_of_short holds
  simp only [Bool.and_eq_true, List.contains_iff_mem, decide_eq_true_eq, Option.isNone_iff_eq_none]
    at holds
  obtain ⟨⟨⟨⟨shared, schema⟩, pattern⟩, scheme⟩, distinct⟩ := holds
  have names : (Artifact.sharedTaken program ++ (routerPart program).taken).Nodup := by
    simpa [Artifact.sharedTaken, shared] using distinct
  obtain ⟨artifacts, emitted⟩ :=
    Artifact.all_succeeds_iff.mpr ⟨(List.nodup_append.mp distinct).1, names⟩
  obtain ⟨same, _, _, together⟩ := introduced_names_distinct emitted
  exact ⟨program, artifacts, result, shared, emitted, same, by simp [schema, pattern], scheme,
    together shared⟩

end ApiScaffold.Server
