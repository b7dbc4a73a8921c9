import ApiScaffold.Proofs.RouterReference
import ApiScaffold.Proofs.ShortDocuments
import ApiScaffold.Proofs.WrittenText

/-!
Imports that are used. The file of components uses all of its imports. The router uses all of them but
possibly one: an optional body that is read as it is has the package of errors imported, which only
the decoding of an optional body needs.
-/

namespace ApiScaffold.Server

open Blueprint Go Source

def bodyText (scope : Scope) (part : Part) : String :=
  (Layout.writeAll (Code.spelled scope (importsOf Package.aliases scope part.mentions)) part.layouts
    { unit := File.indentation }).body

/-- Something that is written is of the path, and the alias of the path stands in the text with a
dot. -/
structure ImportUsed (scope : Scope) (part : Part) (path : String) : Prop where
  referred : Refers scope path (Layout.allFragments part.layouts)
  qualified : Contains
    (qualifier ((importsOf Package.aliases scope part.mentions).localName path)) (bodyText scope part)

def UsesImports (scope : Scope) (part : Part) : Prop :=
  ∀ path ∈ Registry.keys (importsOf Package.aliases scope part.mentions), ImportUsed scope part path

/-- What is written refers to the same packages as what is named. -/
theorem refers_layouts_iff {scope : Scope} {path : String} {part : Part} :
    Refers scope path (Layout.allFragments part.layouts) ↔ Refers scope path part.names := by
  rw [← names_part, Layout.names, Refers.names_of_iff]

theorem import_used_of_refers {scope : Scope} {path : String} {part : Part}
    (used : Refers scope path part.names) : ImportUsed scope part path := by
  have referred := refers_layouts_iff.mpr used
  obtain ⟨fragment, member, found⟩ := referred
  refine ⟨⟨fragment, member, found⟩, Buffer.contains_body ?_⟩
  exact Layout.write_all_qualifies (fun _ inside => contains_spelled found inside) part.layouts _
    (.inr member)

theorem components_use_imports (program : Program) {scope : Scope}
    (local' : scope.components = none) : UsesImports scope (componentsPart program) := by
  intro path imported
  rw [mem_imports_iff] at imported
  exact import_used_of_refers (components_refer program local' imported)

/-- Whether a router has a use for the package of errors: the components or one of its types are in
it, or an optional body is decoded. -/
def NeedsErrors (scope : Scope) (program : Program) : Prop :=
  scope.Remote Package.errors ∨
  ∃ operation ∈ program.operations,
    Refers scope Package.errors (requestCode (Outline.ofProgram program) operation) ∨
    Refers scope Package.errors (responseCode operation) ∨
    ∃ variant ∈ RequestVariant.ofOperation operation,
      ∃ reading ∈ Parser.bodyReading (Outline.ofProgram program) operation variant,
        reading.mayBeEmpty

section Written

variable {scope : Scope} {path : String} {program : Program} {operation : Operation}

theorem operation_written (listed : operation ∈ program.operations)
    (used : Refers scope path (operationPart (Outline.ofProgram program) operation).names) :
    Refers scope path (routerPart program).names := by
  have operations : Refers scope path (Part.join (program.operations.map
      (operationPart (Outline.ofProgram program)))).names := by
    rw [Part.names_join, List.flatMap_map, Refers.flat_map_iff]
    exact ⟨operation, listed, used⟩
  unfold routerPart
  dsimp only
  simp only [Part.names_append, Refers.append_iff]
  exact .inl (.inl (.inr operations))

theorem variant_written {variant : RequestVariant}
    (member : variant ∈ RequestVariant.ofOperation operation)
    (used : Refers scope path
      (Request.variantPart (Outline.ofProgram program) operation variant).names) :
    Refers scope path (Request.part (Outline.ofProgram program) operation).names := by
  have variants : Refers scope path (Part.join ((RequestVariant.ofOperation operation).map
      (Request.variantPart (Outline.ofProgram program) operation))).names := by
    rw [Part.names_join, List.flatMap_map, Refers.flat_map_iff]
    exact ⟨variant, member, used⟩
  unfold Request.part
  simp only [Part.names_append, Refers.append_iff]
  exact .inr variants

theorem parser_written {variant : RequestVariant}
    (member : variant ∈ RequestVariant.ofOperation operation)
    (used : Refers scope path
      (Parser.function (Outline.ofProgram program) operation variant).form.names) :
    Refers scope path (Request.part (Outline.ofProgram program) operation).names := by
  apply variant_written member
  simp only [Request.variantPart, Part.names, List.flatMap_cons, Refers.append_iff]
  exact .inr (.inl used)

theorem place_type_written {parameter : Parameter} (member : parameter ∈ operation.parameters)
    (used : Refers scope path (typeOf parameter.field.shape).code) :
    Refers scope path (Request.part (Outline.ofProgram program) operation).names := by
  have inPlace : parameter ∈ operation.parametersIn parameter.place := by
    simp [Operation.parametersIn, member]
  have typed : Refers scope path
      (Request.parameterType (Outline.ofProgram program) parameter).code := by
    unfold Request.parameterType scalarFieldType
    split
    · exact used
    · exact (refers_optional_iff _).mpr (.inr used)
  have mentioned : Refers scope path
      (Request.placePart (Outline.ofProgram program) operation parameter.place).mentions := by
    unfold Request.placePart
    split
    · rename_i none
      rw [none] at inPlace
      cases inPlace
    · rw [Part.mentions_append, Refers.append_iff, Refers.flat_map_iff]
      exact .inl ⟨parameter, inPlace, typed⟩
  have uses : (Request.placePart (Outline.ofProgram program) operation parameter.place).Uses scope
      fun _ => False := Request.place_part_uses parameter.place
  have written := (uses.used path mentioned).resolve_left id
  have places : Refers scope path (Part.join (Place.all.map
      (Request.placePart (Outline.ofProgram program) operation))).names := by
    rw [Part.names_join, List.flatMap_map, Refers.flat_map_iff]
    exact ⟨parameter.place, by cases parameter.place <;> decide, written⟩
  unfold Request.part
  simp only [Part.names_append, Refers.append_iff]
  exact .inl (.inl (.inl places))

/-- Every operation has a request, and every content of its body a request of its own. -/
theorem variant_of_content {content : BodyContent} (member : content ∈ operation.bodyContents) :
    ∃ variant ∈ RequestVariant.ofOperation operation, content ∈ variant.content.toList := by
  unfold RequestVariant.ofOperation
  split
  · rename_i first second rest contents
    rw [contents] at member
    exact ⟨_, List.mem_map_of_mem member, by simp⟩
  · rename_i few
    refine ⟨_, List.mem_singleton_self _, ?_⟩
    cases contents : operation.bodyContents with
    | nil =>
        rw [contents] at member
        cases member
    | cons first rest =>
        cases rest with
        | nil =>
            rw [contents] at member
            simpa using member
        | cons second others => exact absurd contents (few first second others)

theorem request_code_written
    (used : Refers scope path (requestCode (Outline.ofProgram program) operation)) :
    Refers scope path (Request.part (Outline.ofProgram program) operation).names := by
  rcases Refers.append_iff.mp used with parameters | contents
  · obtain ⟨parameter, member, inside⟩ := (Refers.flat_map_iff _ _).mp parameters
    rcases Refers.append_iff.mp inside with typed | converted
    · exact place_type_written member typed
    · have inPlace : parameter ∈ operation.parametersIn parameter.place := by
        simp [Operation.parametersIn, member]
      have listed : parameter.place ∈ Request.places operation := by
        apply List.mem_filter.mpr ⟨by cases parameter.place <;> decide, _⟩
        simpa using List.ne_nil_of_mem inPlace
      obtain ⟨variant, others, variants⟩ := variants_filled operation
      have given : variant ∈ RequestVariant.ofOperation operation := by
        rw [variants]
        exact List.mem_cons_self
      apply parser_written given
      exact Request.place_written listed inPlace
        (ParameterReading.changes_written (.inr (ParameterReading.conversion_used converted)))
  · obtain ⟨content, member, typed⟩ := (Refers.flat_map_iff _ _).mp contents
    obtain ⟨variant, given, has⟩ := variant_of_content member
    apply variant_written given
    simp only [Request.variantPart, Part.names, List.flatMap_cons, Refers.append_iff]
    exact .inl (Request.content_written has typed)

theorem response_code_written (used : Refers scope path (responseCode operation)) :
    Refers scope path (Builder.part program operation).names := by
  have mentioned : Refers scope path (Builder.part program operation).mentions := by
    obtain ⟨response, member, inside⟩ := (Refers.flat_map_iff _ _).mp used
    unfold Builder.part
    rw [Part.mentions_append, Refers.append_iff, Part.mentions_join, List.flatMap_map,
      Refers.flat_map_iff]
    refine .inr ⟨response, member, ?_⟩
    unfold Builder.responsePart
    dsimp only
    rw [Part.mentions_append, Part.mentions_append, Refers.append_iff, Refers.append_iff]
    rcases Refers.append_iff.mp inside with headers | contents
    · obtain ⟨header, listed, typed⟩ := (Refers.flat_map_iff _ _).mp headers
      apply Or.inl ∘ Or.inr
      rw [if_pos (by simpa using List.ne_nil_of_mem listed)]
      simp only [Builder.headersPart, Refers.flat_map_iff, Refers.append_iff]
      refine ⟨header, listed, .inl ?_⟩
      unfold Builder.headerType scalarFieldType
      split
      · exact typed
      · exact (refers_optional_iff _).mpr (.inr typed)
    · obtain ⟨content, listed, typed⟩ := (Refers.flat_map_iff _ _).mp contents
      apply Or.inr
      rw [if_neg (by simpa using List.ne_nil_of_mem listed), Part.mentions_join, List.flatMap_map,
        Refers.flat_map_iff]
      exact ⟨content, listed, typed⟩
  have uses : (Builder.part program operation).Uses scope fun _ => False := Builder.part_uses
  exact (uses.used path mentioned).resolve_left id

theorem errors_mentioned (foreign : Package.errors ≠ scope.package) (whole : ReadsWhole program) :
    Refers scope Package.errors (routerPart program).mentions := by
  obtain ⟨operation, listed, variant, member, reading, given, optional⟩ := whole
  have read : Refers scope Package.errors reading.mentions := by
    have unrequired : reading.required = false := by
      unfold BodyReading.isWhole at optional
      split at optional
      · simpa using optional
      · cases optional
    simp [BodyReading.mentions, unrequired, foreign]
  have parsed : Refers scope Package.errors
      (Request.variantPart (Outline.ofProgram program) operation variant).mentions := by
    simp only [Request.variantPart, Parser.mentions, Refers.append_iff]
    exact .inr (.inr ((Refers.flat_map_iff _ _).mpr ⟨reading, Option.mem_toList.mpr given, read⟩))
  have requested : Refers scope Package.errors
      (Request.part (Outline.ofProgram program) operation).mentions := by
    simp only [Request.part, Part.mentions_append, Refers.append_iff, Part.mentions_join]
    exact .inr ((Refers.flat_map_iff _ _).mpr ⟨_, List.mem_map_of_mem member, parsed⟩)
  have operations : Refers scope Package.errors (Part.join (program.operations.map
      (operationPart (Outline.ofProgram program)))).mentions := by
    rw [Part.mentions_join, List.flatMap_map, Refers.flat_map_iff]
    exact ⟨operation, listed, Refers.append_iff.mpr (.inl requested)⟩
  unfold routerPart
  dsimp only
  simp only [Part.mentions_append, Refers.append_iff]
  exact .inl (.inl (.inr operations))

/-- A router that needs the package of errors refers to it. -/
theorem errors_written (foreign : Package.errors ≠ scope.package)
    (needed : NeedsErrors scope program) :
    Refers scope Package.errors (routerPart program).names := by
  rcases needed with remote | ⟨operation, listed, request | response | body⟩
  · have hooked : Refers scope Package.errors [Hooks.result] := by simp [Hooks.result, remote]
    have runtime : [Hooks.result] ⊆ routerRuntime := by decide
    exact (hooked.mono runtime).mono (runtime_written program)
  · apply operation_written listed
    rw [operationPart, Part.names_append, Refers.append_iff]
    exact .inl (request_code_written request)
  · apply operation_written listed
    rw [operationPart, Part.names_append, Refers.append_iff, outline_program]
    exact .inr (response_code_written response)
  · obtain ⟨variant, member, reading, given, empty⟩ := body
    apply operation_written listed
    rw [operationPart, Part.names_append, Refers.append_iff]
    apply Or.inl (parser_written member (Request.body_written given _))
    rw [BodyReading.statements_names, Refers.append_iff, Refers.append_iff]
    exact .inl (.inl (BodyReading.errors_used empty foreign))

/-- A router that does not need the package of errors does not refer to it. -/
theorem errors_unwritten (wellFormed : program.WellFormed)
    (foreign : Package.errors ≠ scope.package) (unneeded : ¬ NeedsErrors scope program) :
    ¬ Refers scope Package.errors (routerPart program).names := by
  have elsewhere {fragment : Fragment} {fragments : List Fragment}
      (unused : ¬ Refers scope Package.errors fragments) (member : fragment ∈ fragments) :
      fragment.PackagedIn (· ≠ Package.errors) := by
    have other : fragment.importPath? scope ≠ some Package.errors :=
      fun same => unused ⟨fragment, member, same⟩
    cases fragment with
    | imported path name => exact fun same => other (congrArg some same)
    | qualified path name =>
        intro same
        apply other
        rw [Fragment.importPath?, same, if_neg foreign]
    | _ => trivial
  have packaged : Packaged program (· ≠ Package.errors) := {
    requests := fun operation listed fragment member => elsewhere
      (fun used => unneeded (.inr ⟨operation, listed, .inl used⟩)) member
    responses := fun operation listed fragment member => elsewhere
      (fun used => unneeded (.inr ⟨operation, listed, .inr (.inl used)⟩)) member
    bodies := fun operation listed variant member reading given empty => absurd
      (.inr ⟨operation, listed, .inr (.inr ⟨variant, member, reading, given, empty⟩)⟩) unneeded }
  have provided : Package.Provided (· ≠ Package.errors) := ⟨by decide⟩
  rintro ⟨fragment, member, referred⟩
  have known := ((router_part_in_scope wellFormed packaged).names fragment member).2
  cases fragment with
  | text content => cases referred
  | own name => cases referred
  | component name => exact unneeded (.inl referred)
  | imported path name => exact known (Option.some.inj referred)
  | qualified path name =>
      rw [Fragment.importPath?] at referred
      split at referred
      · cases referred
      · exact known (Option.some.inj referred)

end Written

/-- All imports of the components are used. Those of the router are, unless the package of errors is
imported for an optional body that is read as it is and nothing else needs it. -/
theorem imports_used_iff {document : OpenApi.Document} {config : Config} {program : Program}
    (compiled : (compile document config).1 = .ok program) :
    UsesImports (Artifact.componentsScope program.config) (componentsPart program) ∧
    (UsesImports (Artifact.routerScope program.config) (routerPart program) ↔
      ¬ (Package.errors ≠ program.config.package ∧ ReadsWhole program ∧
        ¬ NeedsErrors (Artifact.routerScope program.config) program)) := by
  constructor
  · exact components_use_imports program rfl
  · constructor
    · rintro uses ⟨foreign, whole, unneeded⟩
      apply errors_unwritten (compiled_well_formed compiled) foreign unneeded
      apply refers_layouts_iff.mp
      exact (uses _ (mem_imports_iff.mpr (errors_mentioned foreign whole))).referred
    · intro sound path imported
      apply import_used_of_refers
      rcases router_refers (mem_imports_iff.mp imported) with ⟨rfl, foreign, whole⟩ | used
      · have needed : NeedsErrors (Artifact.routerScope program.config) program := by
          by_contra unneeded
          exact sound ⟨foreign, whole, unneeded⟩
        exact errors_written foreign needed
      · exact used

def upload : OpenApi.Document where
  specification := {
    openapi := "3.0.0"
    paths := [("/f", { declared := [(.post, {
      requestBody := some (.object { content := [("application/octet-stream", {})] }) })] })] }
  raw := .null

theorem upload_leaves_import_unused :
    ∃ program, (compile upload { package := "api", path := "" }).1 = .ok program ∧
      UsesImports (Artifact.componentsScope program.config) (componentsPart program) ∧
      ¬ UsesImports (Artifact.routerScope program.config) (routerPart program) ∧
      ReadsWhole program ∧ ¬ NeedsErrors (Artifact.routerScope program.config) program := by
  have holds : (compileShort upload { package := "api", path := "" }).any fun program =>
      let scope := Artifact.routerScope program.config
      (Registry.keys (importsOf Package.aliases scope (routerPart program).mentions)).contains
          Package.errors &&
        (Layout.allFragments (routerPart program).layouts).all fun fragment =>
          fragment.importPath? scope != some Package.errors := by decide +kernel
  obtain ⟨program, result, holds⟩ := compiled_of_short holds
  simp only [Bool.and_eq_true, List.contains_iff_mem, List.all_eq_true, bne_iff_ne] at holds
  obtain ⟨imported, written⟩ := holds
  obtain ⟨components, router⟩ := imports_used_iff result
  have unused : ¬ UsesImports (Artifact.routerScope program.config) (routerPart program) := by
    intro uses
    obtain ⟨fragment, member, found⟩ := (uses _ imported).referred
    exact written fragment member found
  rw [router, not_not] at unused
  exact ⟨program, result, components, fun uses => router.mp uses unused, unused.2⟩

end ApiScaffold.Server
