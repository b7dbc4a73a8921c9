import ApiScaffold.Proofs.MethodClash

/-!
Methods that mount routes. Of all that the file of a router declares, only services have methods of
that name, and each has one.
-/

namespace ApiScaffold.Go

/-- The type that a method called `mount` belongs to, and what the method does. -/
def Form.mount? : Form → Option (String × List Statement)
  | .method receiver name _ body => if name = "mount" then some (receiver.type, body) else none
  | _ => none

namespace Part

def mounts (part : Part) : List (String × List Statement) :=
  part.declarations.filterMap (·.form.mount?)

theorem mounts_append (first second : Part) :
    (first ++ second).mounts = first.mounts ++ second.mounts := List.filterMap_append

theorem mounts_join (parts : List Part) : (join parts).mounts = parts.flatMap mounts := by
  unfold mounts
  rw [declarations_join, List.filterMap_flatMap]

theorem mounts_eq_nil {part : Part} (none : ∀ pair ∈ part.methods, pair.2 ≠ "mount") :
    part.mounts = [] := by
  apply List.filterMap_eq_nil_iff.mpr
  intro declaration listed
  cases form : declaration.form with
  | method receiver name signature body =>
      have attached : (receiver.type, name) ∈ part.methods :=
        List.mem_filterMap.mpr ⟨declaration, listed, by rw [form]; rfl⟩
      exact if_neg (none _ attached)
  | _ => rfl

theorem mounts_join_eq_nil {α : Type} {items : List α} {part : α → Part}
    (none : ∀ item ∈ items, (part item).mounts = []) : (join (items.map part)).mounts = [] := by
  rw [mounts_join, List.flatMap_map]
  exact List.flatMap_eq_nil_iff.mpr none

end Part

end ApiScaffold.Go

namespace ApiScaffold.Server

open Blueprint Go Source

theorem reply_mounts : Reply.part.mounts = [] := Part.mounts_eq_nil (by decide)

theorem security_mounts (schemes : List SecurityScheme) : (Security.part schemes).mounts = [] := by
  apply Part.mounts_eq_nil
  rw [security_part_methods]
  decide

section Operations

variable (outline : Outline) (operation : Operation)

theorem request_mounts : (Request.part outline operation).mounts = [] := by
  have places : (Part.join (Place.all.map (Request.placePart outline operation))).mounts = [] := by
    apply Part.mounts_join_eq_nil
    intro place _
    unfold Request.placePart
    split
    · rfl
    · apply Part.mounts_eq_nil
      intro pair member
      rw [Part.methods_append, place_validator_methods] at member
      split at member
      · rw [List.mem_singleton.mp member]
        exact show "Validate" ≠ "mount" by decide
      · cases member
  have patterns : (Request.patternPart outline operation).mounts = [] := by
    apply Part.mounts_eq_nil
    unfold Request.patternPart
    rw [patterns_methods]
    exact List.forall_mem_nil _
  have variants : (Part.join ((RequestVariant.ofOperation operation).map
      (Request.variantPart outline operation))).mounts = [] :=
    Part.mounts_join_eq_nil fun _ _ => rfl
  unfold Request.part
  rw [Part.mounts_append, Part.mounts_append, Part.mounts_append, places, patterns, variants]
  rfl

theorem builder_mounts (program : Program) {operation : Operation}
    (drafted : operation.Drafted) : (Builder.part program operation).mounts = [] := by
  apply Part.mounts_eq_nil
  intro pair member same
  have other := (builder_part_staged program drafted pair member).2
  exact other (by simp [same])

theorem handler_mounts (tag : String) {operation : Operation} (drafted : operation.Drafted) :
    (Service.handlerPart tag operation).mounts = [] := by
  apply Part.mounts_eq_nil
  rw [handler_part_methods, List.forall_mem_singleton]
  intro same
  obtain ⟨rest, begins⟩ := handler_begins operation drafted
  rw [show Service.handler operation = "mount" from same] at begins
  cases begins

end Operations

/-- A service has one method that mounts routes. -/
theorem service_mounts (tag : String) {operations : List Operation}
    (drafted : ∀ operation ∈ operations, operation.Drafted) :
    (Service.part tag operations).mounts =
      [(Service.router tag, (operations.flatMap Service.Route.ofOperation).map
        Service.Route.statement)] := by
  unfold Service.part
  dsimp only
  rw [Part.mounts_append, Part.mounts_join_eq_nil fun operation listed =>
    handler_mounts tag (drafted operation listed), List.append_nil]
  rfl

/-- For every tag there is one method that mounts routes, and it registers those of the operations
with that tag. -/
theorem router_mounts {program : Program} (drafted : program.Drafted) :
    (routerPart program).mounts = program.tags.map fun entry =>
      (Service.router entry.1, (entry.2.flatMap Service.Route.ofOperation).map
        Service.Route.statement) := by
  have operations : (Part.join (program.operations.map
      (operationPart (Outline.ofProgram program)))).mounts = [] := by
    apply Part.mounts_join_eq_nil
    intro operation listed
    unfold operationPart
    rw [Part.mounts_append, request_mounts, List.nil_append]
    exact builder_mounts _ (drafted.operations operation listed)
  have services : (Part.join (program.tags.map fun entry =>
      Service.part entry.1 entry.2)).mounts = program.tags.map fun entry =>
        (Service.router entry.1, (entry.2.flatMap Service.Route.ofOperation).map
          Service.Route.statement) := by
    rw [Part.mounts_join, List.flatMap_map, ← List.flatMap_pure_eq_map]
    apply List.flatMap_congr
    intro entry member
    exact service_mounts entry.1 fun operation listed =>
      drafted.operations operation (Program.tagged_operations entry member operation listed)
  unfold routerPart
  dsimp only
  simp only [Part.mounts_append, reply_mounts, security_mounts, operations, services]
  exact List.append_nil _

end ApiScaffold.Server
