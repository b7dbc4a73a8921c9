import ApiScaffold.Proofs.Resolution

/-!
Where chains of names lead. A program and the draft of one follow the names of their components in
the same way: to the shape at the end of the chain, which is no name, or a name without a component.
Only a circle of names leaves a name of a component over.
-/

namespace ApiScaffold.Blueprint

variable {components : Registry Component} {shape : Shape}

theorem unregistered_final {name : String} (unknown : name ∉ components.keys) :
    (Shape.named name).link? components = none :=
  Option.map_eq_none_iff.mpr ((Registry.find?_eq_none_iff components name).mpr unknown)

/-- A name of a component is left over iff the names go round in a circle. -/
theorem registered_left_iff : (∃ name ∈ components.keys, resolveIn components shape = .named name) ↔
    Cyclic (Shape.link? components) shape := by
  constructor
  · rintro ⟨name, registered, left⟩
    rcases ends_or_cyclic linked_registered shape with ⟨steps, last, chain, final⟩ | cyclic
    · rw [resolve_of_end chain final] at left
      subst left
      have unknown := Option.map_eq_none_iff.mp final
      exact absurd registered ((Registry.find?_eq_none_iff components name).mp unknown)
    · exact cyclic
  · intro cyclic
    obtain ⟨steps, chain, _⟩ := resolve_within_chain (components.length + 1) shape
    obtain ⟨next, linked⟩ := cyclic.linked chain
    obtain ⟨name, component, left, found, _⟩ := Shape.link_eq_some_iff.mp linked
    exact ⟨name, (Registry.find?_is_some_iff components name).mp (Option.isSome_of_eq_some found),
      left⟩

/-- A program and a draft with the same components give the same shape for one that they are asked
to follow. It is the shape that the chain of names reaches, if it is no name; it is the name without
a component at which the chain ends; and it is the name of a component iff the chain is a circle. No
chain that ends is longer than the bound. -/
theorem names_followed (components : Registry Component) (shape : Shape) :
    ∃ resolved,
      (∀ program : Program, program.components = components → program.resolve shape = resolved) ∧
      (∀ draft : Draft, draft.components = components →
        (Drafting.resolve shape).run.run draft = (.ok resolved, draft)) ∧
      (∀ steps target, Chain (Shape.link? components) steps shape target → target.Plain →
        resolved = target) ∧
      (∀ steps name, Chain (Shape.link? components) steps shape (.named name) →
        name ∉ components.keys → resolved = .named name) ∧
      ((∃ name ∈ components.keys, resolved = .named name) ↔
        Cyclic (Shape.link? components) shape) ∧
      ∀ steps last, Chain (Shape.link? components) steps shape last →
        last.link? components = none → steps ≤ components.length := by
  refine ⟨resolveIn components shape, ?_, ?_, ?_, ?_, registered_left_iff,
    fun _ _ => steps_within_components⟩
  · rintro program rfl
    rfl
  · rintro draft rfl
    rfl
  · exact fun steps target chain plain => resolve_of_end chain plain.final
  · exact fun steps name chain unknown => resolve_of_end chain (unregistered_final unknown)

/-- A name for the name of a text, a name for nothing, and two names for each other. -/
def crossroads : Program where
  title := "crossroads"
  components := [sign "Echo" (.named "Sound"), sign "Ghost" (.named "Nobody"),
    sign "Left" (.named "Right"), sign "Right" (.named "Left"), sign "Sound" (.ofKind .string)]
  operations := []
  securitySchemes := []
  document := "{}"
  config := { package := "api", path := "" }
where
  sign (name : String) (shape : Shape) : String × Component :=
    (name, { name, shape, description := none, origin := .declared name, skipValidation := false })

theorem crossroads_followed :
    crossroads.resolve (.named "Echo") = .ofKind .string ∧
      crossroads.resolve (.named "Ghost") = .named "Nobody" ∧
      ∃ name ∈ crossroads.components.keys, crossroads.resolve (.named "Left") = .named name := by
  obtain ⟨sound, heard, _, plain, _⟩ := names_followed crossroads.components (.named "Echo")
  obtain ⟨ghost, seen, _, _, missing, _⟩ := names_followed crossroads.components (.named "Ghost")
  obtain ⟨turn, taken, _, _, _, circle, _⟩ := names_followed crossroads.components (.named "Left")
  rw [heard crossroads rfl, seen crossroads rfl, taken crossroads rfl]
  refine ⟨plain 2 _ (.step rfl (.step rfl .here)) nofun,
    missing 1 "Nobody" (.step rfl .here) (by decide), circle.mpr ?_⟩
  exact ⟨0, 1, _, .here, .step rfl (.step rfl .here)⟩

end ApiScaffold.Blueprint
