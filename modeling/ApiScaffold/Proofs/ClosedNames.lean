import ApiScaffold.Proofs.Drafting
import ApiScaffold.Proofs.Registry

/-!
The invariant under which a program is drawn up. Names are handed out before the components that
they stand for are registered, so it allows a name that is promised: one of a schema whose turn is
still to come.
-/

namespace ApiScaffold.Blueprint

/-- Components so far, beside names that are promised and names that may be used. -/
structure ClosedUnder (promised names : List String) (components : Registry Component) : Prop where
  /-- A name that may be used is that of a component, or it is promised. -/
  usable : ∀ name ∈ names, name ∈ promised ∨ name ∈ components.keys
  /-- So is every name inside of a component. -/
  inside : ∀ entry ∈ components, ∀ name ∈ entry.2.shape.references,
    name ∈ promised ∨ name ∈ components.keys
  /-- Components are registered under their names. -/
  named : ∀ entry ∈ components, entry.2.name = entry.1

namespace ClosedUnder

variable {promised names others : List String} {components : Registry Component}

theorem mono (closed : ClosedUnder promised names components) (fewer : others ⊆ names) :
    ClosedUnder promised others components :=
  ⟨fun name member => closed.usable name (fewer member), closed.inside, closed.named⟩

theorem insert {component : Component}
    (closed : ClosedUnder promised names components)
    (usable : component.shape.references ⊆ names) :
    ClosedUnder promised (component.name :: names)
      (components.insert component.name component) := by
  have kept : ∀ name, name ∈ promised ∨ name ∈ components.keys →
      name ∈ promised ∨ name ∈ (components.insert component.name component).keys := by
    intro name
    exact Or.imp_right fun known => Registry.mem_keys_insert.mpr (.inr known)
  constructor
  · intro name member
    rcases List.mem_cons.mp member with own | known
    · exact .inr (Registry.mem_keys_insert.mpr (.inl own))
    · exact kept name (closed.usable name known)
  · intro entry member name occurs
    apply kept
    rcases Registry.mem_insert member with new | known
    · rw [new] at occurs
      exact closed.usable name (usable occurs)
    · exact closed.inside entry known name occurs
  · intro entry member
    rcases Registry.mem_insert member with new | known
    · rw [new]
    · exact closed.named entry known

/-- A promise is kept once the name is that of a component. -/
theorem settle {name : String} (closed : ClosedUnder (name :: promised) names components)
    (registered : name ∈ components.keys) : ClosedUnder promised names components := by
  have settled : ∀ other, other ∈ name :: promised ∨ other ∈ components.keys →
      other ∈ promised ∨ other ∈ components.keys := by
    intro other known
    rcases known with listed | known
    · rcases List.mem_cons.mp listed with same | rest
      · exact .inr (same ▸ registered)
      · exact .inl rest
    · exact .inr known
  exact ⟨fun other member => settled other (closed.usable other member),
    fun entry member other occurs => settled other (closed.inside entry member other occurs),
    closed.named⟩

end ClosedUnder

/-- Of two values that were handed out, the later one is known first. -/
theorem subset_after_last (first last known : List String) :
    first ++ last ⊆ last ++ (first ++ known) := by
  intro name member
  simp only [List.mem_append] at member ⊢
  exact member.elim (fun own => .inr (.inl own)) .inl

/-- A step that may use some names. Whatever names its value has are such ones or registered. -/
def Hands {α : Type} (promised names : List String) (step : Drafting α)
    (references : α → List String) : Prop :=
  Drafting.Meets (fun draft => ClosedUnder promised names draft.components) step
    fun value draft => ClosedUnder promised (references value ++ names) draft.components

namespace Hands

open Drafting

variable {α β : Type} {promised names : List String} {step : Drafting α}
  {references : α → List String}

theorem pure {value : α} (usable : references value ⊆ names) :
    Hands promised names (pure value) references :=
  Meets.pure fun _ closed =>
    closed.mono (List.append_subset.mpr ⟨usable, List.Subset.refl names⟩)

theorem bind {next : α → Drafting β} {last : β → List String}
    (first : Hands promised names step references)
    (second : ∀ value, Hands promised (references value ++ names) (next value) last) :
    Hands promised names (step >>= next) last := by
  apply Meets.bind first
  intro value
  apply (second value).weaken (fun _ closed => closed)
  intro result draft closed
  apply closed.mono
  rw [← List.append_assoc]
  intro name member
  simp only [List.mem_append] at member ⊢
  exact member.imp_left .inl

/-- Names of the value that are not asked for, or could have been used before. -/
theorem weaken {fewer : α → List String} (hands : Hands promised names step references)
    (usable : ∀ value, fewer value ⊆ references value ++ names) :
    Hands promised names step fewer := by
  apply Meets.weaken hands (fun _ closed => closed)
  intro value draft closed
  apply closed.mono
  exact List.append_subset.mpr ⟨usable value, List.subset_append_right _ _⟩

theorem lift_except {outcome : Except Diagnostic α} (fails : FailsInLowering outcome)
    (usable : ∀ value, outcome = .ok value → references value ⊆ names) :
    Hands promised names (liftExcept outcome) references := by
  apply (Meets.lift_except fails).weaken (fun _ closed => closed)
  intro value draft ⟨result, closed⟩
  exact closed.mono (List.append_subset.mpr ⟨usable value result, List.Subset.refl names⟩)

theorem lift_nameless {outcome : Except Diagnostic α} (fails : FailsInLowering outcome) :
    Hands promised names (liftExcept outcome) fun _ => [] :=
  lift_except fails fun _ _ => List.nil_subset names

theorem fail {problem : Problem} {location : String} (phase : problem.phase = .lower) :
    Hands promised names (fail problem location) references := Meets.fail phase

theorem throw {diagnostic : Diagnostic} (phase : diagnostic.phase = .lower) :
    Hands promised names (throw diagnostic) references := Meets.throw phase

theorem warn {message : String} : Hands promised names (warn message) fun _ => [] :=
  Meets.warn fun _ closed => closed

theorem check_text_later {shape : Shape} {location : String} :
    Hands promised names (checkTextLater shape location) fun _ => [] :=
  Meets.check_text_later fun _ closed => closed

theorem resolve {shape : Shape} : Hands promised names (resolve shape) fun _ => [] :=
  Meets.resolve.weaken (fun _ closed => closed) fun _ _ closed => closed.2

theorem register {component : Component} (usable : component.shape.references ⊆ names) :
    Hands promised names (register component) fun _ => [component.name] :=
  Meets.register fun _ closed _ => closed.insert usable

theorem attributing {operation : String} (hands : Hands promised names step references) :
    Hands promised names (attributing operation step) references :=
  Meets.attributing hands

theorem throughout {ι : Type} {body : ι → PUnit → Drafting (ForInStep PUnit)} (items : List ι)
    (round : ∀ item, Meets (fun draft => ClosedUnder promised names draft.components)
      (body item PUnit.unit) fun result draft =>
        result = .yield PUnit.unit ∧ ClosedUnder promised names draft.components) :
    Hands promised names (forIn items PUnit.unit body) fun _ => [] :=
  Meets.throughout items round

end Hands

end ApiScaffold.Blueprint
