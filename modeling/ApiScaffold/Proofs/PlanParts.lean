import ApiScaffold.Proofs.Plan

/-!
The parts of a plan. Whatever a part of a plan does is done by the whole, so a part is best spoken of
in view of the effects of the whole: it gives a value within them. Each way to build a plan has one
rule that takes such a statement apart, and one for what holds of all components that are added.
-/

namespace ApiScaffold.Blueprint

/-- Everything that one plan does is done by another one. -/
structure Effects.Within (part whole : Effects) : Prop where
  components : part.components ⊆ whole.components
  texts : part.texts ⊆ whole.texts
  demands : part.demands ⊆ whole.demands

namespace Effects.Within

variable {first second whole : Effects}

theorem refl (effects : Effects) : effects.Within effects :=
  ⟨List.Subset.refl _, List.Subset.refl _, List.Subset.refl _⟩

theorem append_left (within : (first ++ second).Within whole) : first.Within whole where
  components := (List.append_subset.mp within.components).1
  texts := (List.append_subset.mp within.texts).1
  demands := (List.append_subset.mp within.demands).1

theorem append_right (within : (first ++ second).Within whole) : second.Within whole where
  components := (List.append_subset.mp within.components).2
  texts := (List.append_subset.mp within.texts).2
  demands := (List.append_subset.mp within.demands).2

theorem append (left : first.Within whole) (right : second.Within whole) :
    (first ++ second).Within whole where
  components := List.append_subset.mpr ⟨left.components, right.components⟩
  texts := List.append_subset.mpr ⟨left.texts, right.texts⟩
  demands := List.append_subset.mpr ⟨left.demands, right.demands⟩

end Effects.Within

namespace Plan

variable {α β ι : Type}

/-- The plan ends with the value, and what it does is part of the effects. -/
def Gives (plan : Plan α) (whole : Effects) (value : α) : Prop :=
  ∃ own, plan = some (value, own) ∧ own.Within whole

/-- Every component that the plan adds has a property, if what it does is part of the effects. -/
structure Adds (property : Component → Prop) (whole : Effects) (plan : Plan α) : Prop where
  holds : ∀ value own, plan = some (value, own) → own.Within whole →
    ∀ component ∈ own.components, property component

variable {plan : Plan α} {next : α → Plan β} {whole : Effects} {value other : α} {result : β}
  {component : Component} {property : Component → Prop}

namespace Gives

theorem not_fails : ¬ (Plan.fails : Plan α).Gives whole value := nofun

theorem eq_of_pure (gives : (Pure.pure value : Plan α).Gives whole other) : other = value := by
  obtain ⟨own, same, _⟩ := gives
  cases same
  rfl

theorem of_given {outcome : Except Diagnostic α} (gives : (Plan.given outcome).Gives whole value) :
    outcome = .ok value := by
  cases outcome with
  | error diagnostic => exact absurd gives not_fails
  | ok known => rw [eq_of_pure gives]

theorem registered (gives : (Plan.register component).Gives whole ()) :
    component ∈ whole.components := by
  obtain ⟨own, same, within⟩ := gives
  cases same
  exact within.components List.mem_cons_self

theorem demanded {demand : Demand} (gives : (Plan.demand demand).Gives whole ()) :
    demand ∈ whole.demands := by
  obtain ⟨own, same, within⟩ := gives
  cases same
  exact within.demands List.mem_cons_self

theorem checked {shape : Shape} {location : String}
    (gives : (Plan.checkText shape location).Gives whole ()) : (shape, location) ∈ whole.texts := by
  obtain ⟨own, same, within⟩ := gives
  cases same
  exact within.texts List.mem_cons_self

theorem bind_iff : (plan >>= next).Gives whole result ↔
    ∃ value, plan.Gives whole value ∧ (next value).Gives whole result := by
  constructor
  · intro gives
    obtain ⟨own, planned, within⟩ := gives
    obtain ⟨value, first, second, here, there, rfl⟩ := Plan.bind_eq_some.mp planned
    exact ⟨value, ⟨first, here, within.append_left⟩, ⟨second, there, within.append_right⟩⟩
  · intro parts
    obtain ⟨value, ⟨first, here, left⟩, ⟨second, there, right⟩⟩ := parts
    have planned := Plan.bind_eq_some.mpr ⟨value, first, second, here, there, rfl⟩
    exact ⟨first ++ second, planned, left.append right⟩

theorem of_collect {step : ι → Plan α} {items : List ι} {values : List α}
    (gives : (Plan.collect step items).Gives whole values) :
    List.Forall₂ (fun item value => (step item).Gives whole value) items values := by
  induction items generalizing values with
  | nil =>
      rw [eq_of_pure gives]
      exact .nil
  | cons item rest induction =>
      obtain ⟨value, here, following⟩ := bind_iff.mp gives
      obtain ⟨others, there, ended⟩ := bind_iff.mp following
      rw [eq_of_pure ended]
      exact .cons here (induction there)

end Gives

namespace Adds

theorem fails : (Plan.fails : Plan α).Adds property whole := ⟨nofun⟩

theorem pure : (Pure.pure value : Plan α).Adds property whole := by
  constructor
  intro _ own same _ component member
  cases same
  cases member

theorem given {outcome : Except Diagnostic α} : (Plan.given outcome).Adds property whole := by
  cases outcome with
  | error diagnostic => exact fails
  | ok value => exact pure

theorem demand {demand : Demand} : (Plan.demand demand).Adds property whole := by
  constructor
  intro _ own same _ component member
  cases same
  cases member

theorem check_text {shape : Shape} {location : String} :
    (Plan.checkText shape location).Adds property whole := by
  constructor
  intro _ own same _ component member
  cases same
  cases member

theorem register (holds : property component) :
    (Plan.register component).Adds property whole := by
  constructor
  intro _ own same _ known member
  cases same
  rw [List.mem_singleton.mp member]
  exact holds

theorem bind (first : plan.Adds property whole)
    (second : ∀ value, plan.Gives whole value → (next value).Adds property whole) :
    (plan >>= next).Adds property whole := by
  constructor
  intro result own planned within component member
  obtain ⟨value, here, there, ran, following, rfl⟩ := Plan.bind_eq_some.mp planned
  rcases List.mem_append.mp member with inside | after
  · exact first.holds value here ran within.append_left component inside
  · have gives : plan.Gives whole value := ⟨here, ran, within.append_left⟩
    exact (second value gives).holds result there following within.append_right component after

theorem imp {weaker : Component → Prop} (adds : plan.Adds property whole)
    (weakens : ∀ component, property component → weaker component) :
    plan.Adds weaker whole :=
  ⟨fun value own planned within component member =>
    weakens component (adds.holds value own planned within component member)⟩

theorem collect {step : ι → Plan α} {items : List ι}
    (each : ∀ item ∈ items, (step item).Adds property whole) :
    (Plan.collect step items).Adds property whole := by
  induction items with
  | nil => exact pure
  | cons item rest induction =>
      obtain ⟨first, others⟩ := List.forall_mem_cons.mp each
      apply bind first
      intro value _
      apply bind (induction others)
      intro values _
      exact pure

end Adds

end Plan

end ApiScaffold.Blueprint
