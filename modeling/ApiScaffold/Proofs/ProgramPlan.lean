import ApiScaffold.Proofs.OperationPlan
import ApiScaffold.Proofs.ReferenceClosure

/-!
The plan of a program. A document is lowered iff there is a plan of it in which no name is given to
two components, and whose components meet all demands; the program is the one that was planned.
-/

namespace ApiScaffold.Blueprint

open OpenApi (Specification Table Document PathItem)

/-- The components of declared schemas come first, the operations of the given paths last. -/
def programPlan (specification : Specification) (paths : Table PathItem) :
    Plan (List SecurityScheme × List Operation) := do
  declaredPlans specification (sortByKey specification.components.schemas)
  let schemes ← Plan.given (securitySchemesOf specification)
  let operations ← operationsPlan specification schemes paths
  return (schemes, operations)

def outlineOf (specification : Specification) (paths : Table PathItem) :
    Drafting (List SecurityScheme × List Operation) := do
  declareSchemas specification
  let schemes ← liftExcept (securitySchemesOf specification)
  let operations ← collectPaths specification schemes [] paths
  return (schemes, operations.mergeSort Operation.precedes)

theorem closed_at_start (specification : Specification) {draft : Draft} (start : draft = {}) :
    ClosedUnder (declaredNames specification) (declaredNames specification) draft.components := by
  subst start
  exact ⟨fun name member => .inl member, fun _ member => absurd member List.not_mem_nil,
    fun _ member => absurd member List.not_mem_nil⟩

theorem outline_plays (specification : Specification) (paths : Table PathItem) :
    Plays (fun draft => draft = {}) (outlineOf specification paths)
      (programPlan specification paths) := by
  have reaches : ∀ draft value after, draft = {} →
      (declareSchemas specification).run.run draft = (.ok value, after) →
      Plays.ClosedBefore (declaredNames specification) after := by
    intro draft value after start ran
    have ends := (declare_schemas_meets specification).ends draft (closed_at_start specification start)
    rw [ran] at ends
    exact ends
  apply declare_schemas_plays.bind reaches
  intro _ _ _
  apply Plays.lift_except.hands_bind (Hands.lift_nameless (security_schemes_fails specification))
  intro schemes _ _
  have planned : (operationsPlan specification schemes paths >>= fun operations =>
      pure (schemes, operations)) =
      (operationPlans specification schemes [] (statedOperations paths) >>= fun operations =>
        pure (schemes, operations.mergeSort Operation.precedes)) := by
    unfold operationsPlan
    rw [Plan.bind_assoc]
    rfl
  rw [planned]
  apply (collect_paths_plays schemes (List.Subset.refl _) [] paths).followed_by
  intro operations
  exact Plays.pure

def TextsHold (components : Registry Component) (texts : List (Shape × String)) : Prop :=
  ∀ check ∈ texts, (resolveIn components check.1).kind? = some .string

def Checks {α : Type} (draft : Draft) (value : α) (holds : Prop) (step : Drafting α) : Prop :=
  holds ∧ step.run.run draft = (.ok value, draft) ∨
    ¬ holds ∧ ∃ diagnostic, step.run.run draft = (.error diagnostic, draft)

namespace Checks

variable {α β : Type} {draft : Draft} {holds : Prop}

theorem get {value : α} {next : Draft → Drafting α} (checks : Checks draft value holds (next draft)) :
    Checks draft value holds (get >>= next) := checks

theorem finish {value : α} {result : β} {step : Drafting α}
    (checks : Checks draft value holds step) :
    Checks draft result holds (step >>= fun _ => pure result) := by
  unfold Checks
  rw [Drafting.run_bind]
  rcases checks with ⟨here, result⟩ | ⟨here, diagnostic, result⟩
  · rw [result]
    exact .inl ⟨here, rfl⟩
  · rw [result]
    exact .inr ⟨here, diagnostic, rfl⟩

theorem each {ι : Type} {body : ι → PUnit → Drafting (ForInStep PUnit)} {holds : ι → Prop}
    (items : List ι)
    (round : ∀ item, Checks draft (ForInStep.yield PUnit.unit) (holds item) (body item PUnit.unit)) :
    Checks draft PUnit.unit (∀ item ∈ items, holds item) (forIn items PUnit.unit body) := by
  induction items with
  | nil => exact .inl ⟨fun _ member => absurd member List.not_mem_nil, rfl⟩
  | cons item rest induction =>
      unfold Checks
      rw [List.forall_mem_cons, List.forIn_cons, Drafting.run_bind]
      rcases round item with ⟨here, result⟩ | ⟨here, diagnostic, result⟩
      · rw [result]
        rcases induction with ⟨others, result⟩ | ⟨others, failure⟩
        · exact .inl ⟨⟨here, others⟩, result⟩
        · exact .inr ⟨fun both => others both.2, failure⟩
      · rw [result]
        exact .inr ⟨fun both => here both.1, diagnostic, rfl⟩

end Checks

theorem check_texts_checks (draft : Draft) :
    Checks draft () (TextsHold draft.components draft.textChecks) Drafting.checkTexts := by
  apply Checks.get
  apply Checks.finish
  refine Checks.each draft.textChecks ?_
  rintro ⟨shape, location⟩
  unfold Checks
  rw [Drafting.run_bind, resolve_run]
  dsimp only
  by_cases text : (resolveIn draft.components shape).kind? = some .string
  · rw [text]
    exact .inl ⟨rfl, rfl⟩
  · rw [if_pos (bne_iff_ne.mpr text)]
    exact .inr ⟨text, _, rfl⟩

/-- Effects that may all be had at once, from the start. -/
structure Effects.Accepted (effects : Effects) : Prop where
  distinct : effects.names.Nodup
  met : effects.Met (effects.register [])
  texts : TextsHold (effects.register []) effects.texts

def plannedProgram (document : Document) (config : Config) (schemes : List SecurityScheme)
    (operations : List Operation) (effects : Effects) : Program where
  title := document.specification.info.title
  components := effects.register []
  operations
  securitySchemes := schemes
  document := document.canonicalText
  config

theorem program_of_outline (specification : Specification) (text : String) (config : Config) :
    programOf specification text config =
      outlineOf specification specification.paths >>= fun outline => do
        Drafting.checkTexts
        return {
          title := specification.info.title
          components := (← get).components
          operations := outline.2
          securitySchemes := outline.1
          document := text
          config } := by
  unfold programOf outlineOf operationsOf
  simp only [bind_assoc, pure_bind]

section Lowering

variable {document : Document} {config : Config}

theorem lower_of_outline_failure (config : Config)
    (fails : Fails ((outlineOf document.specification document.specification.paths).run.run {})) :
    ∃ diagnostic, (lower document config).1 = .error diagnostic := by
  obtain ⟨diagnostic, failed⟩ := fails
  unfold lower
  rw [program_of_outline, Drafting.run_bind]
  generalize (outlineOf document.specification document.specification.paths).run.run {} = result
    at failed
  obtain ⟨outcome, reached⟩ := result
  cases failed
  exact ⟨diagnostic, rfl⟩

/-- After the outline only the texts are checked. -/
theorem lower_of_outline_success (config : Config) {schemes : List SecurityScheme}
    {operations : List Operation} {effects : Effects}
    (succeeds : Succeeds (schemes, operations) (effects.onto {})
      ((outlineOf document.specification document.specification.paths).run.run {})) :
    TextsHold (effects.register []) effects.texts ∧
        (lower document config).1 =
          .ok (plannedProgram document config schemes operations effects) ∨
      ¬ TextsHold (effects.register []) effects.texts ∧
        ∃ diagnostic, (lower document config).1 = .error diagnostic := by
  obtain ⟨warnings, result⟩ := succeeds
  have checks := check_texts_checks { effects.onto {} with warnings }
  unfold lower
  rw [program_of_outline, Drafting.run_bind, result]
  dsimp only
  rw [Drafting.run_bind]
  rcases checks with ⟨texts, checked⟩ | ⟨texts, diagnostic, checked⟩
  · rw [checked]
    exact .inl ⟨texts, rfl⟩
  · rw [checked]
    exact .inr ⟨texts, diagnostic, rfl⟩

/-- A document is lowered iff all effects of its plan may be had, to the program that is planned. -/
theorem lowered_iff_of_plays {plan : Plan (List SecurityScheme × List Operation)}
    {program : Program}
    (plays : Plays (fun draft => draft = {})
      (outlineOf document.specification document.specification.paths) plan) :
    (lower document config).1 = .ok program ↔ ∃ schemes operations effects,
      plan = some ((schemes, operations), effects) ∧ effects.Accepted ∧
        program = plannedProgram document config schemes operations effects := by
  have follows := plays.follows {} rfl
  have failing : Fails ((outlineOf document.specification
      document.specification.paths).run.run {}) → (lower document config).1 ≠ .ok program := by
    intro fails success
    obtain ⟨diagnostic, failed⟩ := lower_of_outline_failure config fails
    rw [failed] at success
    cases success
  rcases plan with _ | ⟨⟨schemes, operations⟩, effects⟩
  · constructor
    · exact fun success => absurd success (failing follows)
    · rintro ⟨_, _, _, none, _⟩
      cases none
  have ends : Follows {} (schemes, operations) effects _ := follows
  constructor
  · intro success
    by_cases distinct : effects.names.Nodup
    · have fresh : Fresh (Registry.keys ([] : Registry Component)) effects.names :=
        Fresh.of_nothing_known.mpr distinct
      by_cases met : effects.Met (effects.register [])
      · have succeeds := ends.succeeds fresh (effects.register []) (.refl _) met
        rcases lower_of_outline_success config succeeds with
          ⟨texts, lowered⟩ | ⟨_, _, failed⟩
        · rw [lowered] at success
          cases success
          exact ⟨schemes, operations, effects, rfl, ⟨distinct, met, texts⟩, rfl⟩
        · rw [failed] at success
          cases success
      · exact absurd success (failing (ends.refused _ (.refl _) met))
    · exact absurd success (failing (ends.collides fun fresh => distinct fresh.distinct))
  · rintro ⟨_, _, _, planned, accepted, rfl⟩
    cases planned
    have fresh : Fresh (Registry.keys ([] : Registry Component)) effects.names :=
      Fresh.of_nothing_known.mpr accepted.distinct
    have succeeds := ends.succeeds fresh (effects.register []) (.refl _) accepted.met
    rcases lower_of_outline_success config succeeds with
      ⟨_, lowered⟩ | ⟨refused, _⟩
    · exact lowered
    · exact absurd accepted.texts refused

/-- The plan of a document, by its own paths. -/
theorem lowered_iff {program : Program} :
    (lower document config).1 = .ok program ↔ ∃ schemes operations effects,
      programPlan document.specification document.specification.paths =
        some ((schemes, operations), effects) ∧ effects.Accepted ∧
        program = plannedProgram document config schemes operations effects :=
  lowered_iff_of_plays (outline_plays document.specification document.specification.paths)

/-- A program that is lowered is closed, so compiling does not refuse it. -/
theorem compiled_iff {program : Program} :
    (compile document config).1 = .ok program ↔ (lower document config).1 = .ok program := by
  have ends := lower_ends document config
  unfold compile
  generalize lower document config = lowered at ends
  obtain ⟨diagnostic | result, warnings⟩ := lowered
  · exact Iff.rfl
  · have checked := check_closure_of_registered
      fun shape held name member => ends.references_registered held member
    dsimp only
    rw [checked]

end Lowering

end ApiScaffold.Blueprint
