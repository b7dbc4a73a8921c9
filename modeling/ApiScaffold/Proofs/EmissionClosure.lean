import ApiScaffold.Proofs.RouterScope
import ApiScaffold.Proofs.ShortDocuments

/-!
Emission is closed. Whatever either file of a compiled program mentions or writes, the names of
components in it are declared by the file of components, and its own names by the file itself.
-/

namespace ApiScaffold.Blueprint

/-- Operations under a tag are put behind one another, the first behind none. -/
theorem Program.tags_induction {program : Program} (holds : String → List Operation → Prop)
    (step : ∀ before, ∀ operation ∈ program.operations, before = [] ∨ holds operation.tag before →
      holds operation.tag (before ++ [operation])) :
    ∀ entry ∈ program.tags, holds entry.1 entry.2 := by
  have kept : ∀ (remaining : List Operation) (tags : Registry (List Operation)),
      (∀ entry ∈ tags, holds entry.1 entry.2) →
      (∀ operation ∈ remaining, operation ∈ program.operations) →
      ∀ entry ∈ remaining.foldl (fun tags operation => tags.insert operation.tag
        ((tags.find? operation.tag).getD [] ++ [operation])) tags, holds entry.1 entry.2 := by
    intro remaining
    induction remaining with
    | nil => exact fun _ sorted _ => sorted
    | cons next rest induction =>
        intro tags sorted known
        rw [List.forall_mem_cons] at known
        rw [List.foldl_cons]
        apply induction _ _ known.2
        intro entry inserted
        rcases Registry.mem_insert inserted with here | there
        · rw [here]
          apply step _ _ known.1
          cases found : Registry.find? tags next.tag with
          | none => exact .inl rfl
          | some earlier => exact .inr (sorted _ (Registry.mem_of_find? found))
        · exact sorted entry there
  exact kept program.operations [] (fun _ none => absurd none List.not_mem_nil)
    (fun _ listed => listed)

/-- Operations are only sorted, each under its own tag. -/
theorem Program.tagged {program : Program} : ∀ entry ∈ program.tags, ∀ operation ∈ entry.2,
    operation ∈ program.operations ∧ operation.tag = entry.1 := by
  apply Program.tags_induction fun tag operations =>
    ∀ operation ∈ operations, operation ∈ program.operations ∧ operation.tag = tag
  intro before operation listed earlier other member
  rcases List.mem_append.mp member with before' | last
  · rcases earlier with none | sorted
    · rw [none] at before'
      cases before'
    · exact sorted other before'
  · cases List.mem_singleton.mp last
    exact ⟨listed, rfl⟩

theorem Program.tagged_operations {program : Program} :
    ∀ entry ∈ program.tags, ∀ operation ∈ entry.2, operation ∈ program.operations :=
  fun entry member operation listed => (Program.tagged entry member operation listed).1

theorem Program.tagged_filled {program : Program} : ∀ entry ∈ program.tags, entry.2 ≠ [] := by
  apply Program.tags_induction fun _ operations => operations ≠ []
  intro before operation _ _ empty
  cases before <;> cases empty

end ApiScaffold.Blueprint

namespace ApiScaffold.Server

open Blueprint Go Source

def routerDeclared (program : Program) : List String :=
  (routerPart program).declares.map (·.1)

section Declared

variable (program : Program)

theorem reply_declared : Reply.names ⊆ routerDeclared program := by
  intro name member
  simp only [routerDeclared, routerPart, Part.declares_append, List.map_append, List.mem_append]
  refine .inl (.inl (.inl (.inl (.inl ?_))))
  exact List.mem_map.mpr ⟨_, List.mem_map_of_mem member, rfl⟩

theorem security_part_declared :
    (Security.part program.securitySchemes).declares.map (·.1) ⊆ routerDeclared program := by
  intro name member
  simp only [routerDeclared, routerPart, Part.declares_append, List.map_append, List.mem_append]
  exact .inl (.inl (.inl (.inr member)))

theorem operation_part_declared {operation : Operation} (listed : operation ∈ program.operations) :
    (operationPart (Outline.ofProgram program) operation).declares.map (·.1) ⊆
      routerDeclared program := by
  intro name member
  simp only [routerDeclared, routerPart, Part.declares_append, List.map_append, List.mem_append,
    Part.declares_join]
  refine .inl (.inl (.inr ?_))
  obtain ⟨entry, inside, rfl⟩ := List.mem_map.mp member
  exact List.mem_map_of_mem (List.mem_flatMap.mpr ⟨_, List.mem_map_of_mem listed, inside⟩)

end Declared

theorem builder_part_declared {program : Program} {operation : Operation}
    (listed : operation ∈ program.operations) :
    (Builder.part program operation).declares.map (·.1) ⊆ routerDeclared program := by
  intro name member
  apply operation_part_declared program listed
  rw [operationPart, Part.declares_append, List.map_append, outline_program]
  exact List.mem_append_right _ member

/-- What the packages in a router have to be: those of the types that its operations use, and the
one that tells an empty body from a broken one. -/
structure Packaged (program : Program) (packages : String → Prop) : Prop where
  requests : ∀ operation ∈ program.operations,
    ∀ fragment ∈ requestCode (Outline.ofProgram program) operation, fragment.PackagedIn packages
  responses : ∀ operation ∈ program.operations,
    ∀ fragment ∈ responseCode operation, fragment.PackagedIn packages
  bodies : ∀ operation ∈ program.operations, ∀ variant ∈ RequestVariant.ofOperation operation,
    ∀ reading ∈ Parser.bodyReading (Outline.ofProgram program) operation variant,
      reading.mayBeEmpty → Package.Among packages Package.errors

theorem packaged_any (program : Program) : Packaged program Package.any where
  requests _ _ fragment _ := by cases fragment <;> trivial
  responses _ _ fragment _ := by cases fragment <;> trivial
  bodies _ _ _ _ _ _ _ := trivial

section Compiled

variable {program : Program} {packages : String → Prop} (wellFormed : program.WellFormed)
  (packaged : Packaged program packages)

include wellFormed packaged

theorem request_scope {operation : Operation} (listed : operation ∈ program.operations) :
    RequestScope program operation (routerDeclared program) packages where
  wellFormed := wellFormed
  listed := listed
  missing := reply_declared program (by decide)
  schemes := by
    intro scheme member
    apply security_part_declared
    rw [security_declared]
    exact List.mem_append_left _ (List.mem_append_right _ (List.mem_map_of_mem member))
  declared := by
    intro name member
    apply operation_part_declared program listed
    rw [operationPart, Part.declares_append, List.map_append]
    exact List.mem_append_left _ member
  packaged := packaged.requests operation listed
  emptied := packaged.bodies operation listed

theorem service_known {operation : Operation} (listed : operation ∈ program.operations) :
    Service.Known (routerDeclared program) operation where
  requests := by
    intro variant member
    have scope := request_scope wellFormed packaged listed
    exact ⟨scope.variant_declared member (.inl rfl), scope.variant_declared member (.inr rfl)⟩
  responses := by
    apply builder_part_declared listed
    rw [Builder.part, Part.declares_append, List.map_append]
    exact List.mem_append_left _ (Builder.interface_declared operation)

variable [Package.Provided packages]

theorem operation_part_in_scope {operation : Operation} (listed : operation ∈ program.operations) :
    (operationPart (Outline.ofProgram program) operation).InScope (componentsDeclared program)
      (routerDeclared program) packages := by
  apply Part.InScope.append (request_scope wellFormed packaged listed).request_part_in_scope
  rw [outline_program]
  exact Builder.part_in_scope wellFormed listed (packaged.responses operation listed)
    (builder_part_declared listed)

/-- The router refers to declared names, and to no packages but those of the runtime and of the types
of its operations. -/
theorem router_part_in_scope :
    (routerPart program).InScope (componentsDeclared program) (routerDeclared program)
      packages := by
  have runtime : Outcome.names ⊆ componentsDeclared program := runtime_declared program
  have provided : ∀ path ∈ Package.runtime, packages path := Package.Provided.provides
  unfold routerPart
  dsimp only
  apply Part.InScope.append (Part.InScope.append (Part.InScope.append (Part.InScope.append
    (Part.InScope.append _ _) _) _) _) _
  · exact reply_in_scope.mono (List.nil_subset _) (List.nil_subset _) provided
  · exact hooks_in_scope.mono runtime (List.nil_subset _) provided
  · exact security_in_scope runtime (security_part_declared program)
  · apply Part.InScope.join
    intro part stated
    obtain ⟨operation, listed, rfl⟩ := List.mem_map.mp stated
    exact operation_part_in_scope wellFormed packaged listed
  · apply Part.InScope.join
    intro part stated
    obtain ⟨entry, tagged, rfl⟩ := List.mem_map.mp stated
    apply Service.part_in_scope
    intro operation member
    exact service_known wellFormed packaged (Program.tagged_operations entry tagged operation member)
  · constructor
    · exact InScope.nil_iff.mpr trivial
    · simp [documentPart, Part.names, Form.names]

end Compiled

def written (part : Part) : List Fragment := part.mentions ++ Layout.allFragments part.layouts

theorem written_declared {components own : List String} {part : Part}
    (inside : part.InScope components own Package.any) :
    ∀ fragment ∈ written part, fragment.DeclaredIn components own := by
  have names : InScope components own Package.any part.names := inside.names
  rw [← names_part] at names
  have all : InScope components own Package.any (written part) :=
    InScope.append_iff.mpr ⟨inside.mentions, (InScope.names_of_iff _).mp names⟩
  exact fun fragment member => (all fragment member).1

/-- Every component that one of the two files refers to is declared by the file of components, and
every name of its own by the file itself. -/
theorem emitted_names_declared {document : OpenApi.Document} {config : Config} {program : Program}
    (compiled : (compile document config).1 = .ok program) :
    (∀ fragment ∈ written (componentsPart program),
      fragment.DeclaredIn (componentsDeclared program) (componentsDeclared program)) ∧
    ∀ fragment ∈ written (routerPart program),
      fragment.DeclaredIn (componentsDeclared program) (routerDeclared program) := by
  have wellFormed := compiled_well_formed compiled
  exact ⟨written_declared (components_part_in_scope wellFormed),
    written_declared (router_part_in_scope wellFormed (packaged_any program))⟩

def shelter : OpenApi.Document where
  specification := {
    openapi := "3.0.0"
    components := {
      schemas := [
        ("dog", .object { type := some (.single "object"), properties := [
          ("name", .object { type := some (.single "string"), pattern := some "^[a-z]+$" })] })]
      securitySchemes := [("key", .object (.apiKey "X-Key" .header none))] }
    paths := [
      ("/dogs", { declared := [(.get, {
        security := some [[("key", [])]]
        responses := [
          ("200", .object { content := [("application/json",
            { schema := some (.reference "#/components/schemas/dog") })] })] })] })] }
  raw := .null

theorem shelter_names_declared :
    ∃ program, (compile shelter { package := "shelter", path := "" }).1 = .ok program ∧
      .own "dogNamePattern" ∈ written (componentsPart program) ∧
      [.own "SecuritySchemeKey", .component "Dog"] ⊆ written (routerPart program) ∧
      (∀ fragment ∈ written (componentsPart program),
        fragment.DeclaredIn (componentsDeclared program) (componentsDeclared program)) ∧
      ∀ fragment ∈ written (routerPart program),
        fragment.DeclaredIn (componentsDeclared program) (routerDeclared program) := by
  have holds : (compileShort shelter { package := "shelter", path := "" }).any fun program =>
      (written (componentsPart program)).contains (.own "dogNamePattern") &&
        (written (routerPart program)).contains (.own "SecuritySchemeKey") &&
          (written (routerPart program)).contains (.component "Dog") := by decide +kernel
  obtain ⟨program, result, holds⟩ := compiled_of_short holds
  simp only [Bool.and_eq_true, List.contains_iff_mem] at holds
  obtain ⟨⟨pattern, scheme⟩, schema⟩ := holds
  exact ⟨program, result, pattern, by simp [scheme, schema], emitted_names_declared result⟩

end ApiScaffold.Server
