import ApiScaffold.Proofs.OperationNames
import ApiScaffold.Proofs.Permuted
import ApiScaffold.Proofs.ProgramClosure
import ApiScaffold.Proofs.ShortDocuments

/-!
Lowering gives closed programs. Before the first schema all names of schemas are promised, after
the last one none is, and operations use no other ones.
-/

namespace ApiScaffold.Blueprint

open OpenApi (Schema OrRef Specification Table Document)

/-- The component of a schema is registered; then its name need not be promised any more. -/
theorem declare_schema_meets {specification : Specification} {promised names : List String}
    (key : String) (item : OrRef Schema) (declared : declaredNames specification ⊆ names) :
    Drafting.Meets
      (fun draft => ClosedUnder (Identifier.exported key :: promised) names draft.components)
      (declareSchema specification key item)
      fun _ draft => ClosedUnder promised names draft.components := by
  unfold declareSchema
  simp only [Drafting.fail_bind]
  generalize Identifier.exported key = name
  have registers (component : Component) (more : List String) (own : component.name = name)
      (usable : component.shape.references ⊆ more ++ names) :
      Drafting.Meets
        (fun draft => ClosedUnder (name :: promised) (more ++ names) draft.components)
        (Drafting.register component)
        fun _ draft => ClosedUnder promised names draft.components := by
    apply Drafting.Meets.register
    intro draft closed fresh
    have registered : name ∈ (draft.components.insert component.name component).keys :=
      Registry.mem_keys_insert.mpr (.inl own.symm)
    apply ((closed.insert usable).settle registered).mono
    exact List.subset_cons_of_subset _ (List.subset_append_right more names)
  split
  · exact Drafting.Meets.fail rfl
  · split
    · apply Drafting.Meets.bind (reference_shape_hands declared)
      intro shape
      exact registers _ shape.references rfl (List.subset_append_left _ _)
    · rename_i schema
      apply Drafting.Meets.bind (Hands.lift_nameless (read_extensions_fails _ _))
      intro extensions
      apply Drafting.Meets.bind (shape_hands schema _ _ _ _ _ declared)
      intro shape
      exact registers _ shape.references rfl (List.subset_append_left _ _)

/-- Before the first schema every name is promised, after the last one none is. -/
theorem declare_schemas_meets (specification : Specification) :
    Drafting.Meets
      (fun draft => ClosedUnder (declaredNames specification) (declaredNames specification)
        draft.components)
      (declareSchemas specification)
      fun _ draft => ClosedUnder [] (declaredNames specification) draft.components := by
  have sorted : ∀ name, name ∈ declaredNames specification →
      name ∈ componentNames (sortByKey specification.components.schemas) := by
    intro name member
    obtain ⟨entry, listed, own⟩ := List.mem_map.mp member
    exact List.mem_map.mpr ⟨entry, (List.mergeSort_perm _ _).mem_iff.mpr listed, own⟩
  have start : ∀ draft : Draft,
      ClosedUnder (declaredNames specification) (declaredNames specification) draft.components →
      ClosedUnder (componentNames (sortByKey specification.components.schemas))
        (declaredNames specification) draft.components := by
    intro draft closed
    exact ⟨fun name member => (closed.usable name member).imp_left (sorted name),
      fun entry member name occurs => (closed.inside entry member name occurs).imp_left
        (sorted name), closed.named⟩
  unfold declareSchemas
  apply Drafting.Meets.bind
  · apply (Drafting.Meets.each (fun items draft => ClosedUnder (componentNames items)
      (declaredNames specification) draft.components) _ _).weaken start fun _ _ closed => closed
    rintro ⟨key, item⟩ rest
    rw [component_names_cons]
    apply Drafting.Meets.bind (declare_schema_meets key item (List.Subset.refl _))
    intro _
    exact Drafting.Meets.pure fun _ closed => ⟨rfl, closed⟩
  · intro _
    exact Drafting.Meets.pure fun _ closed => closed

/-- The program has the components of the draft, and nothing is promised any more. -/
theorem program_meets (specification : Specification) (text : String) (config : Config) :
    Drafting.Meets (fun draft => draft = {}) (programOf specification text config)
      fun program draft => program.components = draft.components ∧
        ClosedUnder [] (operationsReferences program.operations) draft.components := by
  have start : ∀ draft : Draft, draft = {} → ClosedUnder (declaredNames specification)
      (declaredNames specification) draft.components := by
    rintro draft rfl
    exact ⟨fun name member => .inl member, fun _ member => absurd member List.not_mem_nil,
      fun _ member => absurd member List.not_mem_nil⟩
  unfold programOf
  apply Drafting.Meets.bind ((declare_schemas_meets specification).weaken start
    fun _ _ closed => closed)
  intro _
  apply Drafting.Meets.bind (Hands.lift_nameless (security_schemes_fails specification))
  intro schemes
  apply Drafting.Meets.bind (operations_hands schemes (List.Subset.refl _))
  intro operations
  apply Drafting.Meets.bind Drafting.Meets.check_texts
  intro _
  constructor
  intro draft closed
  exact ⟨rfl, closed.mono (List.subset_append_left _ _)⟩

/-- What is known of the result of lowering a document. -/
theorem lower_ends (document : Document) (config : Config) :
    match (lower document config).1 with
    | .ok program =>
      ClosedUnder [] (operationsReferences program.operations) program.components
    | .error diagnostic => diagnostic.phase = .lower := by
  have ends :=
    (program_meets document.specification document.canonicalText config).ends {} rfl
  unfold lower
  generalize (programOf document.specification document.canonicalText config).run.run {} = result
    at ends
  rcases result with ⟨diagnostic | program, draft⟩
  · exact ends
  · obtain ⟨same, closed⟩ := ends
    dsimp only
    rw [same]
    exact closed

namespace ClosedUnder

variable {program : Program}

/-- Every name of a shape that the program holds is that of a component. -/
theorem references_registered
    (closed : ClosedUnder [] (operationsReferences program.operations) program.components)
    {shape : Shape} (held : program.Holds shape) {name : String} (member : name ∈ shape.references) :
    name ∈ program.components.keys := by
  have used : ∀ operation ∈ program.operations, name ∈ operationReferences operation →
      name ∈ program.components.keys := by
    intro operation listed inside
    have usable := closed.usable name (List.mem_flatMap.mpr ⟨operation, listed, inside⟩)
    exact usable.resolve_left List.not_mem_nil
  cases held with
  | component listed =>
      exact (closed.inside _ listed name member).resolve_left List.not_mem_nil
  | parameter listed parameter =>
      apply used _ listed
      exact List.mem_append_left _ (List.mem_append_left _
        (List.mem_flatMap.mpr ⟨_, parameter, member⟩))
  | requestBody listed body content =>
      apply used _ listed
      apply List.mem_append_left _ (List.mem_append_right _ _)
      rw [body]
      exact List.mem_flatMap.mpr ⟨_, content, member⟩
  | response listed response content =>
      apply used _ listed
      apply List.mem_append_right _ (List.mem_flatMap.mpr ⟨_, response, _⟩)
      exact List.mem_append_left _ (List.mem_flatMap.mpr ⟨_, content, member⟩)
  | header listed response header =>
      apply used _ listed
      apply List.mem_append_right _ (List.mem_flatMap.mpr ⟨_, response, _⟩)
      exact List.mem_append_right _ (List.mem_flatMap.mpr ⟨_, header, member⟩)

end ClosedUnder

/-- Lowering hands out closed programs only, so the check of a finished program never fails. -/
theorem lowered_program_closed (document : Document) (config : Config) :
    (∀ program, (lower document config).1 = .ok program →
      program.Closed ∧ program.checkClosure = .ok ()) ∧
    (∀ diagnostic, (compile document config).1 = .error diagnostic →
      diagnostic.phase ≠ .emit) := by
  have ends := lower_ends document config
  unfold compile
  generalize lower document config = lowered at ends
  obtain ⟨diagnostic | program, warnings⟩ := lowered
  · constructor
    · intro program lowered
      cases lowered
    · intro other failure emitted
      cases failure
      rw [ends] at emitted
      cases emitted
  · have registered : ∀ shape, program.Holds shape → ∀ name ∈ shape.references,
        name ∈ program.components.keys :=
      fun shape held name member => ends.references_registered held member
    have checked := check_closure_of_registered registered
    constructor
    · intro other lowered
      cases lowered
      exact ⟨fun shape held name occurs =>
        registered shape held name (Shape.mem_references_of_occurs occurs), checked⟩
    · intro diagnostic failure
      dsimp only at failure
      rw [checked] at failure
      cases failure

/-- A schema that names one after it and holds one without a name of its own. -/
def kennel : Document where
  specification := {
    openapi := "3.0.0"
    components := { schemas := [
      ("dog", .object { type := some (.single "object"), properties := [
        ("owner", .reference "#/components/schemas/person"),
        ("collar", .object { properties := [("tag", .object { type := some (.single "string") })] })]
      }),
      ("person", .object { type := some (.single "string") })] } }
  raw := .null

def stray : Document where
  specification := {
    openapi := "3.0.0"
    components := { schemas := [("dog", .reference "#/components/schemas/person")] } }
  raw := .null

theorem kennel_closed_and_stray_refused :
    (∃ program, (lower kennel { package := "kennel", path := "" }).1 = .ok program ∧
      program.components.keys = ["Dog", "DogCollar", "Person"] ∧
      program.Closed ∧ program.checkClosure = .ok ()) ∧
    (∃ diagnostic, (compile stray { package := "kennel", path := "" }).1 = .error diagnostic ∧
      diagnostic.phase ≠ .emit) := by
  constructor
  · have holds : (lowerShort kennel { package := "kennel", path := "" }).any fun program =>
        program.components.keys == ["Dog", "DogCollar", "Person"] := by decide +kernel
    have closed := (lowered_program_closed kennel { package := "kennel", path := "" }).1
    obtain ⟨program, result, keys⟩ := lowered_of_short holds
    exact ⟨program, result, eq_of_beq keys, closed program result⟩
  · have fails : (compile stray { package := "kennel", path := "" }).1.toOption.isNone := by
      rw [compile_short]
      decide +kernel
    have phases := (lowered_program_closed stray { package := "kennel", path := "" }).2
    rcases result : (compile stray { package := "kennel", path := "" }).1 with diagnostic | program
    · exact ⟨diagnostic, rfl, phases diagnostic result⟩
    · rw [result] at fails
      cases fails

end ApiScaffold.Blueprint
