import ApiScaffold.Proofs.ComponentNames
import ApiScaffold.Proofs.SchemaOrder
import ApiScaffold.Proofs.ShortDocuments

/-!
Paths that are added to a document. Every operation is planned for itself, so the plan of a document
with fewer paths is a part of the plan of one with more. Nothing of the program changes, except that
there is more of it.
-/

namespace ApiScaffold.Blueprint

open OpenApi (Specification Table Document PathItem)

namespace Plan

variable {ι α : Type} {step : ι → Plan α}

/-- What is planned for some of the items is what is planned for them among all items. -/
theorem collect_filter {keeps : ι → Bool} {keeps' : α → Bool}
    (alike : ∀ item value effects, step item = some (value, effects) → keeps' value = keeps item)
    {items : List ι} {values : List α} {effects : Effects}
    (planned : collect step items = some (values, effects)) :
    ∃ fewer, collect step (items.filter keeps) = some (values.filter keeps', fewer) ∧
      fewer.components ⊆ effects.components := by
  induction items generalizing values effects with
  | nil =>
      cases planned
      exact ⟨{}, rfl, List.Subset.refl _⟩
  | cons item rest induction =>
      obtain ⟨value, first, others, here, following, rfl⟩ := bind_eq_some.mp planned
      obtain ⟨more, second, third, there, ended, rfl⟩ := bind_eq_some.mp following
      cases ended
      obtain ⟨fewer, filtered, included⟩ := induction there
      have same := alike item value first here
      rw [Effects.append_empty, Effects.components_append]
      cases keep : keeps item with
      | false =>
          rw [List.filter_cons_of_neg (ne_true_of_eq_false keep),
            List.filter_cons_of_neg (ne_true_of_eq_false (same.trans keep))]
          exact ⟨fewer, filtered, List.subset_append_of_subset_right _ included⟩
      | true =>
          rw [List.filter_cons_of_pos keep, List.filter_cons_of_pos (by rw [same, keep])]
          refine ⟨first ++ fewer, ?_, ?_⟩
          · rw [collect, bind_eq_some]
            refine ⟨value, first, fewer, here, ?_, rfl⟩
            rw [bind_eq_some]
            exact ⟨_, fewer, {}, filtered, rfl, fewer.append_empty.symm⟩
          · rw [Effects.components_append]
            exact List.append_subset.mpr ⟨List.subset_append_left _ _,
              List.subset_append_of_subset_right _ included⟩

end Plan

theorem stated_operations_cons (path : String) (item : PathItem) (rest : Table PathItem) :
    statedOperations ((path, item) :: rest) =
      (item.operations.map fun (method, operation) => ⟨path, item, method, operation⟩) ++
        statedOperations rest := List.flatMap_cons

theorem stated_operations_filter (keeps : String → Bool) (paths : Table PathItem) :
    (statedOperations paths).filter (fun stated => keeps stated.path) =
      statedOperations (paths.filter fun entry => keeps entry.1) := by
  induction paths with
  | nil => rfl
  | cons entry rest induction =>
      obtain ⟨path, item⟩ := entry
      have here : (item.operations.map fun (method, operation) =>
          (⟨path, item, method, operation⟩ : StatedOperation)).filter
            (fun stated => keeps stated.path) =
          if keeps path then item.operations.map fun (method, operation) =>
            ⟨path, item, method, operation⟩ else [] := by
        rw [List.filter_map]
        cases keep : keeps path with
        | false => exact List.map_eq_nil_iff.mpr (List.filter_eq_nil_iff.mpr fun _ _ => by
            simp [keep])
        | true => exact congrArg _ (List.filter_eq_self.mpr fun _ _ => keep)
      rw [stated_operations_cons, List.filter_append, here, induction, List.filter_cons]
      cases keep : keeps path with
      | false => rfl
      | true => exact (stated_operations_cons path item _).symm

section Inserting

variable {specification : Specification} {schemes : List SecurityScheme}

/-- What is planned for some of the paths is what is planned for them among all paths. -/
theorem operations_plan_filter (keeps : String → Bool) {paths : Table PathItem}
    {operations : List Operation} {effects : Effects}
    (planned : operationsPlan specification schemes paths = some (operations, effects)) :
    ∃ fewer, operationsPlan specification schemes (paths.filter fun entry => keeps entry.1) =
        some (operations.filter (fun operation => keeps operation.path), fewer) ∧
      fewer.components ⊆ effects.components := by
  obtain ⟨listed, first, last, collected, ended, rfl⟩ := Plan.bind_eq_some.mp planned
  cases ended
  unfold operationPlans at collected
  split at collected
  case isFalse => cases collected
  case isTrue fresh =>
    have sorts := collected_operations_sort fresh.distinct collected
    obtain ⟨fewer, filtered, included⟩ := Plan.collect_filter
      (fun _ _ _ here => congrArg keeps (operation_plan_keeps here).2.1) collected
    have fewerFresh : Fresh [] (operationNames
        (statedOperations (paths.filter fun entry => keeps entry.1))) := by
      rw [← stated_operations_filter, Fresh.of_nothing_known]
      exact fresh.distinct.sublist (List.filter_sublist.map _)
    refine ⟨fewer, ?_, ?_⟩
    · rw [sorts.merge_sort_filter, operationsPlan, operationPlans, if_pos fewerFresh,
        ← stated_operations_filter, filtered]
      exact congrArg (fun effects => some (_, effects)) fewer.append_empty
    · rw [Effects.append_empty]
      exact included

theorem program_plan_filter (keeps : String → Bool) {paths : Table PathItem}
    {operations : List Operation} {effects : Effects}
    (planned : programPlan specification paths = some ((schemes, operations), effects)) :
    ∃ fewer, programPlan specification (paths.filter fun entry => keeps entry.1) =
        some ((schemes, operations.filter fun operation => keeps operation.path), fewer) ∧
      fewer.components ⊆ effects.components := by
  obtain ⟨_, first, second, declared, following, rfl⟩ := Plan.bind_eq_some.mp planned
  obtain ⟨known, third, fourth, read, remaining, rfl⟩ := Plan.bind_eq_some.mp following
  obtain ⟨_, fifth, sixth, collected, ended, rfl⟩ := Plan.bind_eq_some.mp remaining
  cases ended
  obtain ⟨fewer, filtered, included⟩ := operations_plan_filter keeps collected
  refine ⟨first ++ (third ++ (fewer ++ {})), ?_, ?_⟩
  · apply Plan.bind_eq_some.mpr
    refine ⟨_, first, _, declared, ?_, rfl⟩
    apply Plan.bind_eq_some.mpr
    refine ⟨_, third, _, read, ?_, rfl⟩
    exact Plan.bind_eq_some.mpr ⟨_, fewer, {}, filtered, rfl, rfl⟩
  · simp only [Effects.components_append]
    grind

end Inserting

/-- A specification with more paths, between or around those that it had. -/
structure InsertsPaths (specification other : Specification) : Prop where
  rest : other = { specification with paths := other.paths }
  kept : (other.paths.filter fun entry => entry.1 ∈ specification.paths.map (·.1)) =
    specification.paths

theorem InsertsPaths.agrees {specification other : Specification}
    (inserts : InsertsPaths specification other) : specification.Agrees other := by
  rw [inserts.rest]
  exact ⟨fun _ => rfl, rfl, rfl, rfl, rfl, rfl, rfl⟩

/-- Paths are planned by the rest of the specification, whatever paths it has itself. -/
theorem InsertsPaths.outline {specification other : Specification}
    (inserts : InsertsPaths specification other) (paths : Table PathItem) :
    outlineOf specification paths = outlineOf other paths := by
  have agrees := inserts.agrees
  have schemas : declareSchemas specification = declareSchemas other := by
    have components : other.components = specification.components := by rw [inserts.rest]
    unfold declareSchemas
    simp only [declare_schema_agrees agrees.on_requests]
    rw [components]
  unfold outlineOf
  simp only [schemas, security_schemes_agrees agrees.on_requests, collect_paths_agrees agrees]

/-- What is registered by fewer effects is found among what is registered by more. -/
theorem Effects.within_of_subset {fewer effects : Effects}
    (distinct : effects.names.Nodup) (fewerDistinct : fewer.names.Nodup)
    (included : fewer.components ⊆ effects.components) :
    (fewer.register []).Within (effects.register []) := by
  have order := registered_perm distinct
  have keys : DistinctKeys (effects.register []) := by
    unfold DistinctKeys
    rw [(order.map Prod.fst).nodup_iff, List.map_map]
    exact distinct
  intro name component found
  have member := (registered_perm fewerDistinct).mem_iff.mp (Registry.mem_of_find? found)
  obtain ⟨_, listed, same⟩ := List.mem_map.mp member
  exact keys.lookup_of_mem
    (order.mem_iff.mpr (same ▸ List.mem_map.mpr ⟨_, included listed, rfl⟩))

/-- Where paths are added to a document, the components stay what they are, the operations of its
own paths stay what they are and in order, and the security schemes stay the same. -/
theorem paths_inserted {document other : Document} {config : Config} {program larger : Program}
    (inserts : InsertsPaths document.specification other.specification)
    (compiled : (compile document config).1 = .ok program)
    (recompiled : (compile other config).1 = .ok larger) :
    program.components.Within larger.components ∧
      (larger.operations.filter fun operation =>
        operation.path ∈ document.specification.paths.map (·.1)) = program.operations ∧
      larger.securitySchemes = program.securitySchemes := by
  -- both are planned by the same specification, each by its own paths
  have plays := outline_plays document.specification other.specification.paths
  rw [inserts.outline] at plays
  obtain ⟨schemes, operations, effects, planned, accepted, rfl⟩ :=
    lowered_iff.mp (compiled_iff.mp compiled)
  obtain ⟨others, more, further, replanned, reaccepted, rfl⟩ :=
    (lowered_iff_of_plays plays).mp (compiled_iff.mp recompiled)
  obtain ⟨fewer, filtered, included⟩ := program_plan_filter
    (fun path => path ∈ document.specification.paths.map (·.1)) replanned
  rw [inserts.kept, planned] at filtered
  obtain ⟨same, rfl⟩ := Prod.mk.inj (Option.some.inj filtered)
  obtain ⟨rfl, rfl⟩ := Prod.mk.inj same
  exact ⟨Effects.within_of_subset reaccepted.distinct accepted.distinct included, rfl, rfl⟩

def walkedKennel : Document where
  specification := { kennel.specification with
    paths := [("/walks", { declared := [(.get, {
      responses := [("200", .object { content := [("application/json", {
        schema := some (.reference "#/components/schemas/dog") })] })] })] })] }
  raw := .null

def busyKennel : Document where
  specification := { walkedKennel.specification with
    paths := [("/dogs", { declared := [(.post, { responses := [("204", .object {})] })] })] ++
      walkedKennel.specification.paths ++ [("/meals", {})] }
  raw := .null

theorem kennel_paths_inserted :
    InsertsPaths walkedKennel.specification busyKennel.specification ∧
    ∃ program larger,
      (compile walkedKennel { package := "kennel", path := "" }).1 = .ok program ∧
      (compile busyKennel { package := "kennel", path := "" }).1 = .ok larger ∧
      program.operations.map (·.path) = ["/walks"] ∧
      larger.operations.map (·.path) = ["/dogs", "/walks"] ∧
      program.components.Within larger.components ∧
      (larger.operations.filter fun operation =>
        operation.path ∈ walkedKennel.specification.paths.map (·.1)) = program.operations ∧
      larger.securitySchemes = program.securitySchemes := by
  have inserts : InsertsPaths walkedKennel.specification busyKennel.specification :=
    ⟨rfl, by rfl⟩
  have first : (compileShort walkedKennel { package := "kennel", path := "" }).any fun program =>
      program.operations.map (·.path) == ["/walks"] := by decide +kernel
  have second : (compileShort busyKennel { package := "kennel", path := "" }).any fun program =>
      program.operations.map (·.path) == ["/dogs", "/walks"] := by decide +kernel
  obtain ⟨program, compiled, walks⟩ := compiled_of_short first
  obtain ⟨larger, recompiled, dogs⟩ := compiled_of_short second
  exact ⟨inserts, program, larger, compiled, recompiled, eq_of_beq walks, eq_of_beq dogs,
    paths_inserted inserts compiled recompiled⟩

end ApiScaffold.Blueprint
