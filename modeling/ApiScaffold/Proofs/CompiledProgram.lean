import ApiScaffold.Proofs.ReferenceClosure

/-!
What is known of a compiled program: every name in it is that of a component, components are kept
under their names, and every requirement of an operation names schemes of the program.
-/

namespace ApiScaffold.Blueprint

open OpenApi (Specification Table Document)

namespace Drafting

variable {α β : Type}

structure Yields (step : Drafting α) (property : α → Prop) : Prop where
  holds : ∀ draft value reached, step.run.run draft = (.ok value, reached) → property value

namespace Yields

variable {step : Drafting α} {property : α → Prop} {last : β → Prop}

theorem pure {value : α} (holds : property value) : Yields (pure value) property := by
  constructor
  intro draft result reached same
  cases same
  exact holds

theorem throw {diagnostic : Diagnostic} : Yields (throw diagnostic) property := by
  constructor
  intro draft result reached same
  cases same

theorem bind {next : α → Drafting β} (first : Yields step property)
    (second : ∀ value, property value → Yields (next value) last) : Yields (step >>= next) last := by
  constructor
  intro draft result reached same
  rw [run_bind] at same
  generalize ran : step.run.run draft = middle at same
  rcases middle with ⟨diagnostic | value, between⟩
  · cases same
  · exact (second value (first.holds draft value between ran)).holds between result reached same

theorem after {next : α → Drafting β} (second : ∀ value, Yields (next value) last) :
    Yields (step >>= next) last :=
  bind ⟨fun _ _ _ _ => trivial⟩ fun value (_ : True) => second value

theorem lift_except {outcome : Except Diagnostic α}
    (holds : ∀ value, outcome = .ok value → property value) :
    Yields (liftExcept outcome) property := by
  constructor
  intro draft value reached same
  rw [run_lift_except] at same
  exact holds value (Prod.mk.inj same).1

theorem attributing {operation : String} (yields : Yields step property) :
    Yields (attributing operation step) property := by
  constructor
  intro draft value reached same
  rw [run_attributing] at same
  generalize ran : step.run.run draft = middle at same
  rcases middle with ⟨diagnostic | result, between⟩
  · cases same
  · cases same
    exact yields.holds draft value reached ran

end Yields

end Drafting

open Drafting (Yields)

/-- Every scheme in the alternatives is one of the given ones. -/
def Declares (schemes : List SecurityScheme) (alternatives : List (List String)) : Prop :=
  ∀ required ∈ alternatives, ∀ name ∈ required, ∃ scheme ∈ schemes, scheme.name = name

def Operation.Authorised (schemes : List SecurityScheme) (operation : Operation) : Prop :=
  Declares schemes operation.security

theorem collect_requirements_known {schemes : List SecurityScheme} {location : String} {index : Nat}
    {requirements : List OpenApi.SecurityRequirement} {collected : List (List String)}
    (success : collectRequirements schemes location index requirements = .ok collected) :
    Declares schemes collected := by
  induction requirements generalizing index collected with
  | nil =>
      cases success
      intro required member
      cases member
  | cons requirement rest induction =>
      rw [collectRequirements] at success
      split at success
      · cases success
      · rename_i known
        generalize others : collectRequirements schemes location (index + 1) rest = outcome
          at success
        cases outcome with
        | error diagnostic => cases success
        | ok listed =>
            cases success
            intro required member name inside
            rcases List.mem_cons.mp member with own | other
            · rw [own] at inside
              have declared := List.find?_eq_none.mp known name inside
              rw [Bool.not_eq_true', Bool.not_eq_false, List.any_eq_true] at declared
              obtain ⟨scheme, declares, same⟩ := declared
              exact ⟨scheme, declares, eq_of_beq same⟩
            · exact induction others required other name inside

section Authorisation

variable (specification : Specification) (schemes : List SecurityScheme)

theorem security_known (operation : OpenApi.Operation) (location : String) :
    ∀ security, securityOf specification schemes operation location = .ok security →
      Declares schemes security := by
  intro security success
  unfold securityOf at success
  split at success
  · exact collect_requirements_known success
  · cases success
    intro required member
    cases member

theorem operation_authorised (stated : StatedOperation) :
    Yields (operationOf specification schemes stated) (Operation.Authorised schemes) := by
  unfold operationOf
  apply Yields.after
  intro extensions
  apply Yields.after
  intro parameters
  apply Yields.after
  intro body
  apply Yields.after
  intro responses
  apply Yields.bind (Yields.lift_except (security_known specification schemes stated.operation _))
  intro security known
  exact Yields.pure known

theorem collect_operations_authorised (known : List (String × String))
    (stated : List StatedOperation) :
    Yields (collectOperations specification schemes known stated)
      fun collected => ∀ operation ∈ collected.2, operation.Authorised schemes := by
  induction stated generalizing known with
  | nil => exact Yields.pure fun _ member => absurd member List.not_mem_nil
  | cons first rest induction =>
      rw [collectOperations]
      dsimp only
      split
      · exact Yields.throw
      · apply Yields.bind (Yields.attributing (operation_authorised specification schemes first))
        intro operation own
        apply Yields.bind (induction _)
        intro collected others
        exact Yields.pure (List.forall_mem_cons.mpr ⟨own, others⟩)

theorem collect_paths_authorised (known : List (String × String)) (paths : Table OpenApi.PathItem) :
    Yields (collectPaths specification schemes known paths)
      fun operations => ∀ operation ∈ operations, operation.Authorised schemes := by
  induction paths generalizing known with
  | nil => exact Yields.pure fun _ member => absurd member List.not_mem_nil
  | cons entry rest induction =>
      have following (stated : List StatedOperation) : Yields (do
          let collected ← collectOperations specification schemes known stated
          return collected.2 ++ (← collectPaths specification schemes collected.1 rest))
          fun operations => ∀ operation ∈ operations, operation.Authorised schemes := by
        apply Yields.bind (collect_operations_authorised specification schemes known stated)
        intro collected first
        apply Yields.bind (induction _)
        intro operations others
        exact Yields.pure (List.forall_mem_append.mpr ⟨first, others⟩)
      rw [collectPaths]
      dsimp only
      split
      · apply Yields.after
        intro _
        exact following _
      · exact following _

theorem operations_authorised :
    Yields (operationsOf specification schemes)
      fun operations => ∀ operation ∈ operations, operation.Authorised schemes := by
  apply Yields.bind (collect_paths_authorised specification schemes [] specification.paths)
  intro operations authorised
  apply Yields.pure
  intro operation member
  exact authorised operation ((List.mergeSort_perm _ _).mem_iff.mp member)

end Authorisation

theorem program_authorised (specification : Specification) (text : String) (config : Config) :
    Yields (programOf specification text config)
      fun program => ∀ operation ∈ program.operations,
        operation.Authorised program.securitySchemes := by
  unfold programOf
  apply Yields.after
  intro _
  apply Yields.after
  intro schemes
  apply Yields.bind (operations_authorised specification schemes)
  intro operations authorised
  apply Yields.after
  intro _
  apply Yields.after
  intro draft
  exact Yields.pure authorised

/-- What emission relies on. -/
structure Program.WellFormed (program : Program) : Prop where
  registered : ∀ shape, program.Holds shape → ∀ name ∈ shape.references,
    name ∈ program.components.keys
  named : ∀ entry ∈ program.components, entry.2.name = entry.1
  authorised : ∀ operation ∈ program.operations, operation.Authorised program.securitySchemes

theorem compiled_well_formed {document : Document} {config : Config} {program : Program}
    (compiled : (compile document config).1 = .ok program) : program.WellFormed := by
  have ends := lower_ends document config
  have lowered : (lower document config).1 = .ok program := by
    unfold compile at compiled
    generalize lower document config = result at compiled
    obtain ⟨diagnostic | other, warnings⟩ := result
    · cases compiled
    · dsimp only at compiled
      split at compiled
      · exact compiled
      · cases compiled
  have authorised : ∀ operation ∈ program.operations,
      operation.Authorised program.securitySchemes := by
    unfold lower at lowered
    generalize ran : (programOf document.specification document.canonicalText config).run.run {} =
      result at lowered
    obtain ⟨outcome, draft⟩ := result
    cases lowered
    exact (program_authorised _ _ _).holds {} program draft ran
  rw [lowered] at ends
  exact ⟨fun shape held name member => ends.references_registered held member, ends.named,
    authorised⟩

end ApiScaffold.Blueprint
