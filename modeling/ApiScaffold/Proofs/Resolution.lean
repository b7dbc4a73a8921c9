import ApiScaffold.Proofs.Chains
import ApiScaffold.Proofs.ClosedNames
import ApiScaffold.Proofs.Plan

/-!
Chains of names. A chain that ends at a shape other than a name has no more steps than there are
components, so the bound under which shapes are resolved cuts off endless chains only. Components
that are closed resolve a shape as all larger registries do, as far as demands can tell.
-/

namespace ApiScaffold.Blueprint

def Shape.Plain (shape : Shape) : Prop := ∀ name, shape ≠ .named name

inductive Reaches (components : Registry Component) : Nat → Shape → Shape → Prop where
  | here {shape : Shape} (plain : shape.Plain) : Reaches components 0 shape shape
  | step {name : String} {component : Component} {target : Shape} {steps : Nat}
      (found : components.find? name = some component)
      (rest : Reaches components steps component.shape target) :
      Reaches components (steps + 1) (.named name) target

/-- The shape that a name stands for; other shapes stand for themselves only. -/
def Shape.link? (components : Registry Component) : Shape → Option Shape
  | .named name => (components.find? name).map Component.shape
  | _ => none

section Links

variable {components : Registry Component} {shape : Shape}

theorem Shape.link_eq_some_iff {next : Shape} : shape.link? components = some next ↔
    ∃ name component, shape = .named name ∧ components.find? name = some component ∧
      component.shape = next := by
  constructor
  · intro linked
    cases shape with
    | named name =>
        obtain ⟨component, found, same⟩ := Option.map_eq_some_iff.mp linked
        exact ⟨name, component, rfl, found, same⟩
    | _ => cases linked
  · rintro ⟨name, component, rfl, found, rfl⟩
    exact Option.map_eq_some_iff.mpr ⟨component, found, rfl⟩

theorem Shape.Plain.final (plain : shape.Plain) : shape.link? components = none := by
  apply Option.eq_none_iff_forall_ne_some.mpr
  intro next linked
  obtain ⟨name, _, same, _⟩ := Shape.link_eq_some_iff.mp linked
  exact plain name same

theorem linked_registered (shape : Shape) (linked : (shape.link? components).isSome) :
    shape ∈ components.keys.map .named := by
  obtain ⟨next, known⟩ := Option.isSome_iff_exists.mp linked
  obtain ⟨name, component, rfl, found, _⟩ := Shape.link_eq_some_iff.mp known
  have registered := (Registry.find?_is_some_iff components name).mp (Option.isSome_of_eq_some found)
  exact List.mem_map_of_mem registered

/-- A chain of names that ends has no more steps than there are components. -/
theorem steps_within_components {steps : Nat} {last : Shape}
    (chain : Chain (Shape.link? components) steps shape last)
    (final : last.link? components = none) : steps ≤ components.length := by
  have bound := chain.steps_le linked_registered (chain.straight final)
  rwa [List.length_map, Registry.keys, List.length_map] at bound

/-- A shape is followed to the end of its chain, unless the bound is met before. -/
theorem resolve_within_chain (bound : Nat) (shape : Shape) :
    ∃ steps, Chain (Shape.link? components) steps shape (resolveWithin components bound shape) ∧
      ((resolveWithin components bound shape).link? components = none ∨ steps = bound) := by
  induction bound, shape using resolveWithin.induct components with
  | case1 bound name component found induction =>
      obtain ⟨steps, chain, ended⟩ := induction
      have linked : (Shape.named name).link? components = some component.shape :=
        Shape.link_eq_some_iff.mpr ⟨name, component, rfl, found, rfl⟩
      rw [resolveWithin, found]
      exact ⟨steps + 1, .step linked chain, ended.imp_right (congrArg (· + 1))⟩
  | case2 bound name missing =>
      rw [resolveWithin, missing]
      exact ⟨0, .here, .inl (Option.map_eq_none_iff.mpr missing)⟩
  | case3 bound shape stays =>
      rw [resolveWithin.eq_2 _ _ _ stays]
      refine ⟨0, .here, ?_⟩
      cases bound with
      | zero => exact .inr rfl
      | succ bound => exact .inl (Shape.Plain.final fun name same => stays bound name rfl same)

/-- Wherever a chain of names ends, the shape is followed to its end. -/
theorem resolve_of_end {steps : Nat} {last : Shape}
    (chain : Chain (Shape.link? components) steps shape last)
    (final : last.link? components = none) : resolveIn components shape = last := by
  obtain ⟨many, reached, ended⟩ := resolve_within_chain (components.length + 1) shape
  rcases ended with stopped | exhausted
  · exact reached.end_unique stopped chain final
  · have most := chain.steps_le_of_end final reached
    have bound := steps_within_components chain final
    omega

end Links

namespace Reaches

variable {components other : Registry Component} {steps : Nat} {shape target : Shape}

theorem within (reaches : Reaches components steps shape target) (grown : components.Within other) :
    Reaches other steps shape target := by
  induction reaches with
  | here plain => exact .here plain
  | step found _ induction => exact .step (grown _ _ found) induction

theorem plain (reaches : Reaches components steps shape target) : target.Plain := by
  induction reaches with
  | here plain => exact plain
  | step _ _ induction => exact induction

theorem chain (reaches : Reaches components steps shape target) :
    Chain (Shape.link? components) steps shape target := by
  induction reaches with
  | here => exact .here
  | step found _ induction =>
      exact .step (Shape.link_eq_some_iff.mpr ⟨_, _, rfl, found, rfl⟩) induction

theorem of_chain (chain : Chain (Shape.link? components) steps shape target)
    (plain : target.Plain) : Reaches components steps shape target := by
  induction chain with
  | here => exact .here plain
  | step linked _ induction =>
      obtain ⟨name, component, rfl, found, rfl⟩ := Shape.link_eq_some_iff.mp linked
      exact .step found (induction plain)

theorem of_resolve_within {bound : Nat} (plain : (resolveWithin components bound shape).Plain) :
    ∃ steps, Reaches components steps shape (resolveWithin components bound shape) := by
  obtain ⟨steps, chain, _⟩ := resolve_within_chain bound shape
  exact ⟨steps, of_chain chain plain⟩

theorem resolve (reaches : Reaches components steps shape target) :
    resolveIn components shape = target := resolve_of_end reaches.chain reaches.plain.final

end Reaches

theorem named_of_not_plain {shape : Shape} (named : ¬ shape.Plain) : ∃ name, shape = .named name := by
  by_contra none
  exact named fun name same => none ⟨name, same⟩

theorem not_scalar_of_name {shape : Shape} (named : ¬ shape.Plain) : isScalar shape = false := by
  obtain ⟨name, rfl⟩ := named_of_not_plain named
  rfl

theorem not_readable_of_name {components : Registry Component} {listsAllowed : Bool} {shape : Shape}
    (named : ¬ shape.Plain) : readableIn components listsAllowed shape = false := by
  obtain ⟨name, rfl⟩ := named_of_not_plain named
  rfl

theorem kind_of_name {shape : Shape} (named : ¬ shape.Plain) : shape.kind? = none := by
  obtain ⟨name, rfl⟩ := named_of_not_plain named
  rfl

section Stability

variable {names : List String} {components whole : Registry Component}
  (closed : ClosedUnder [] names components) (grown : components.Within whole)

include closed grown

/-- A chain through a larger registry does not leave the components. -/
theorem reaches_of_whole {steps : Nat} {shape target : Shape}
    (usable : shape.references ⊆ components.keys) (reaches : Reaches whole steps shape target) :
    Reaches components steps shape target := by
  induction reaches with
  | here plain => exact .here plain
  | @step name component target steps found _ induction =>
      have registered : name ∈ components.keys := usable (by simp [Shape.references])
      obtain ⟨own, known⟩ := Option.isSome_iff_exists.mp
        ((Registry.find?_is_some_iff components name).mpr registered)
      have same : own = component := Option.some.inj ((grown name own known).symm.trans found)
      subst same
      apply Reaches.step known
      apply induction
      intro inner occurs
      exact (closed.inside _ (Registry.mem_of_find? known) inner occurs).resolve_left
        List.not_mem_nil

omit grown in
/-- Names in a shape that is resolved are registered, too. -/
theorem resolved_references_registered {shape : Shape}
    (usable : shape.references ⊆ components.keys) :
    (resolveIn components shape).references ⊆ components.keys := by
  unfold resolveIn
  generalize components.length + 1 = bound
  induction bound, shape using resolveWithin.induct components with
  | case1 bound name component found induction =>
      rw [resolveWithin, found]
      apply induction
      intro inner occurs
      exact (closed.inside _ (Registry.mem_of_find? found) inner occurs).resolve_left
        List.not_mem_nil
  | case2 bound name missing => rwa [resolveWithin, missing]
  | case3 bound shape ended => rwa [resolveWithin.eq_2 _ _ _ ended]

/-- Both resolve a shape to the same one, or both to a name. -/
theorem resolved_alike {shape : Shape} (usable : shape.references ⊆ components.keys) :
    resolveIn components shape = resolveIn whole shape ∨
      (¬ (resolveIn components shape).Plain ∧ ¬ (resolveIn whole shape).Plain) := by
  by_cases here : (resolveIn components shape).Plain
  · obtain ⟨steps, reaches⟩ := Reaches.of_resolve_within here
    exact .inl (reaches.within grown).resolve.symm
  · by_cases there : (resolveIn whole shape).Plain
    · obtain ⟨steps, reaches⟩ := Reaches.of_resolve_within there
      exact .inl (reaches_of_whole closed grown usable reaches).resolve
    · exact .inr ⟨here, there⟩

theorem scalar_alike {shape : Shape} (usable : shape.references ⊆ components.keys) :
    isScalar (resolveIn components shape) = isScalar (resolveIn whole shape) := by
  rcases resolved_alike closed grown usable with same | ⟨here, there⟩
  · rw [same]
  · rw [not_scalar_of_name here, not_scalar_of_name there]

theorem binary_alike {shape : Shape} (usable : shape.references ⊆ components.keys) :
    (Demand.binary shape).holds components = (Demand.binary shape).holds whole := by
  rw [Demand.holds, Demand.holds]
  rcases resolved_alike closed grown usable with same | ⟨here, there⟩
  · rw [same]
  · rw [kind_of_name here, kind_of_name there]

theorem readable_alike (listsAllowed : Bool) {shape : Shape}
    (usable : shape.references ⊆ components.keys) :
    (Demand.readable listsAllowed shape).holds components =
      (Demand.readable listsAllowed shape).holds whole := by
  rw [Demand.holds, Demand.holds]
  rcases resolved_alike closed grown usable with same | ⟨here, there⟩
  · have inside := resolved_references_registered closed usable
    rw [← same]
    cases resolved : resolveIn components shape with
    | array element minItems maxItems =>
        rw [resolved] at inside
        have alike : isScalar (resolveIn components element) = isScalar (resolveIn whole element) :=
          scalar_alike closed grown inside
        rw [readableIn, readableIn, alike]
    | _ => rfl
  · rw [not_readable_of_name here, not_readable_of_name there]

end Stability

namespace Plays

abbrev ClosedBefore (names : List String) (draft : Draft) : Prop :=
  ClosedUnder [] names draft.components

variable {α : Type} {names : List String} {value : α} {step : Drafting α} {demand : Demand}

/-- A step that fails unless the components at hand meet a demand, if they meet it as all that follow
do. -/
theorem demands
    (stable : ∀ components whole, ClosedUnder [] names components → components.Within whole →
      demand.holds components = demand.holds whole)
    (met : ∀ draft, demand.holds draft.components → Succeeds value draft (step.run.run draft))
    (unmet : ∀ draft, ¬ demand.holds draft.components → Fails (step.run.run draft)) :
    Plays (ClosedBefore names) step (Plan.demand demand >>= fun _ => Pure.pure value) := by
  constructor
  intro draft closed
  have alone : ∀ whole, Effects.Met { demands := [demand] } whole ↔ demand.holds whole :=
    fun whole => List.forall_mem_singleton
  change Follows draft value { demands := [demand] } _
  refine ⟨fun stale => absurd Fresh.nil stale, ?_, ?_⟩
  · intro whole grown refused
    rw [alone, ← stable _ _ closed grown] at refused
    exact unmet draft refused
  · intro _ whole grown holds
    rw [alone, ← stable _ _ closed grown] at holds
    obtain ⟨warnings, result⟩ := met draft holds
    refine ⟨warnings, ?_⟩
    rw [result]
    change _ = (Except.ok value, { draft with textChecks := draft.textChecks ++ [], warnings })
    rw [List.append_nil]

/-- Whatever the first step hands out may be used by the second one. -/
theorem hands_bind {β : Type} {plan : Plan α} {references : α → List String} {next : α → Drafting β}
    {following : α → Plan β} (first : Plays (ClosedBefore names) step plan)
    (hands : Hands [] names step references)
    (second : ∀ value effects, plan = some (value, effects) →
      Plays (ClosedBefore (references value ++ names)) (next value) (following value)) :
    Plays (ClosedBefore names) (step >>= next) (plan >>= following) := by
  apply first.bind _ second
  intro draft value after closed ran
  have ends := hands.ends draft closed
  rw [ran] at ends
  exact ends

theorem warned {message : String} {next : Drafting α} {plan : Plan α}
    (second : Plays (ClosedBefore names) next plan) :
    Plays (ClosedBefore names) (Drafting.warn message >>= fun _ => next) plan := by
  rw [← Plan.pure_bind () fun _ => plan]
  exact Plays.warn.hands_bind Hands.warn fun _ _ _ => second

end Plays

end ApiScaffold.Blueprint
