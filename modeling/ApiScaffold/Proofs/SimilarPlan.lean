import ApiScaffold.Proofs.Permuted
import ApiScaffold.Proofs.Plan

/-!
Plans that are alike but for the order of fields, and for the order in which their effects are listed.
Each form of plan has a rule by which plans that are built alike are alike.
-/

namespace ApiScaffold.Blueprint

section Shapes

inductive Field.Similar {σ : Type} (related : σ → σ → Prop) : Field σ → Field σ → Prop where
  | intro (field : Field σ) {shape other : σ} (known : related shape other) :
      Similar related { field with shape } { field with shape := other }

theorem Field.Similar.of_rest {σ : Type} {related : σ → σ → Prop} {field other : Field σ}
    (shape : related field.shape other.shape) (rest : other = { field with shape := other.shape }) :
    field.Similar related other := by
  rw [rest]
  exact .intro field shape

inductive Additional.Similar {σ : Type} (related : σ → σ → Prop) :
    Additional σ → Additional σ → Prop where
  | forbidden : Similar related .forbidden .forbidden
  | any : Similar related .any .any
  | typed {shape other : σ} (known : related shape other) :
      Similar related (.typed shape) (.typed other)
  | goMapType (name : String) : Similar related (.goMapType name) (.goMapType name)

/-- Shapes that are equal up to the order of the fields of objects, at any depth. -/
inductive Shape.Similar : Shape → Shape → Prop where
  | primitive (primitive : Primitive) : Similar (.primitive primitive) (.primitive primitive)
  | array {element other : Shape} (known : Similar element other) (minItems maxItems : Option Nat) :
      Similar (.array element minItems maxItems) (.array other minItems maxItems)
  | object {fields fields' : List (String × Field Shape)} {additional additional' : Additional Shape}
      (permuted : Permuted (Keyed (Field.Similar Similar)) fields fields') (required : List String)
      (beside : Additional.Similar Similar additional additional') :
      Similar (.object fields required additional) (.object fields' required additional')
  | enum (enumeration : Enumeration) : Similar (.enum enumeration) (.enum enumeration)
  | named (name : String) : Similar (.named name) (.named name)
  | anyOf {members others : List Shape} (pairs : List.Forall₂ Similar members others) :
      Similar (.anyOf members) (.anyOf others)
  | oneOf {members others : List Shape} (pairs : List.Forall₂ Similar members others) :
      Similar (.oneOf members) (.oneOf others)
  | allOf {members others : List Shape} (pairs : List.Forall₂ Similar members others) :
      Similar (.allOf members) (.allOf others)
  | custom (type : CustomType) : Similar (.custom type) (.custom type)

theorem Shape.Similar.kind_eq {shape other : Shape} (similar : shape.Similar other) :
    shape.kind? = other.kind? := by
  cases similar <;> rfl

inductive Shape.SameName : Shape → Shape → Prop where
  | intro (name : String) : SameName (.named name) (.named name)

theorem Shape.SameName.similar {shape other : Shape} (same : shape.SameName other) :
    shape.Similar other := by
  cases same with
  | intro name => exact .named name

end Shapes

structure Component.Similar (component other : Component) : Prop where
  shape : component.shape.Similar other.shape
  rest : other = { component with shape := other.shape }

theorem Component.Similar.name_eq {component other : Component} (similar : component.Similar other) :
    component.name = other.name := (congrArg Component.name similar.rest).symm

inductive Demand.Similar : Demand → Demand → Prop where
  | readable (listsAllowed : Bool) {shape other : Shape} (known : shape.Similar other) :
      Similar (.readable listsAllowed shape) (.readable listsAllowed other)
  | binary {shape other : Shape} (known : shape.Similar other) :
      Similar (.binary shape) (.binary other)

structure TextSimilar (text other : Shape × String) : Prop where
  shape : text.1.Similar other.1
  location : text.2 = other.2

/-- The same effects in any order, up to the order of fields. -/
structure Effects.Similar (effects other : Effects) : Prop where
  components : Permuted Component.Similar effects.components other.components
  texts : Permuted TextSimilar effects.texts other.texts
  demands : Permuted Demand.Similar effects.demands other.demands

namespace Effects.Similar

variable {first second first' second' third : Effects}

theorem empty : Effects.Similar {} {} := ⟨.nil, .nil, .nil⟩

theorem append (here : first.Similar first') (there : second.Similar second') :
    (first ++ second).Similar (first' ++ second') :=
  ⟨here.components.append there.components, here.texts.append there.texts,
    here.demands.append there.demands⟩

theorem between (here : first.Similar first') (others : second.Similar (second' ++ third)) :
    (first ++ second).Similar (second' ++ (first' ++ third)) :=
  ⟨here.components.between others.components, here.texts.between others.texts,
    here.demands.between others.demands⟩

end Effects.Similar

namespace Plan

variable {α β γ δ : Type} {related : α → β → Prop} {further : γ → δ → Prop}

/-- Plans of related values with similar effects, or none at all. -/
def Similar (related : α → β → Prop) : Plan α → Plan β → Prop :=
  Option.Rel fun result other => related result.1 other.1 ∧ result.2.Similar other.2

namespace Similar

theorem fails : Plan.Similar related Plan.fails Plan.fails := .none

theorem pure {value : α} {other : β} (known : related value other) :
    Plan.Similar related (Pure.pure value) (Pure.pure other) := .some ⟨known, .empty⟩

theorem given {outcome : Except Diagnostic α} {other : Except Diagnostic β}
    (known : Option.Rel related outcome.toOption other.toOption) :
    Plan.Similar related (Plan.given outcome) (Plan.given other) := by
  cases outcome with
  | error _ => cases other with
    | error _ => exact .none
    | ok _ => cases known
  | ok value => cases other with
    | error _ => cases known
    | ok other => cases known with
      | some same => exact .pure same

theorem register {component other : Component} (known : component.Similar other) :
    Plan.Similar Eq (Plan.register component) (Plan.register other) :=
  .some ⟨rfl, .of_pairs (.cons known .nil), .nil, .nil⟩

theorem checkText {shape other : Shape} (known : shape.Similar other) (location : String) :
    Plan.Similar Eq (Plan.checkText shape location) (Plan.checkText other location) :=
  .some ⟨rfl, .nil, .of_pairs (.cons ⟨known, rfl⟩ .nil), .nil⟩

theorem demand {demand other : Demand} (known : demand.Similar other) :
    Plan.Similar Eq (Plan.demand demand) (Plan.demand other) :=
  .some ⟨rfl, .nil, .nil, .of_pairs (.cons known .nil)⟩

theorem imp {weaker : α → β → Prop} {plan : Plan α} {other : Plan β}
    (similar : Plan.Similar related plan other)
    (weakens : ∀ value value', related value value' → weaker value value') :
    Plan.Similar weaker plan other :=
  rel_imp similar fun _ _ known => ⟨weakens _ _ known.1, known.2⟩

theorem bind_of {plan : Plan α} {other : Plan β} {next : α → Plan γ} {next' : β → Plan δ}
    (similar : Plan.Similar related plan other)
    (follows : ∀ value value' effects, plan = some (value, effects) → related value value' →
      Plan.Similar further (next value) (next' value')) :
    Plan.Similar further (plan >>= next) (other >>= next') := by
  apply rel_bind similar
  rintro ⟨value, effects⟩ ⟨value', effects'⟩ planned ⟨known, here⟩
  apply rel_map (follows value value' effects planned known)
  rintro ⟨result, more⟩ ⟨result', more'⟩ ⟨reached, there⟩
  exact ⟨reached, here.append there⟩

theorem bind {plan : Plan α} {other : Plan β} {next : α → Plan γ} {next' : β → Plan δ}
    (similar : Plan.Similar related plan other)
    (follows : ∀ value value', related value value' →
      Plan.Similar further (next value) (next' value')) :
    Plan.Similar further (plan >>= next) (other >>= next') :=
  similar.bind_of fun value value' _ _ => follows value value'

theorem collect_pairs {ι κ : Type} {listed : ι → κ → Prop} {step : ι → Plan α} {step' : κ → Plan β}
    {items : List ι} {others : List κ} (pairs : List.Forall₂ listed items others)
    (follows : ∀ item ∈ items, ∀ item', listed item item' →
      Plan.Similar related (step item) (step' item')) :
    Plan.Similar (List.Forall₂ related) (collect step items) (collect step' others) := by
  induction pairs with
  | nil => exact .pure .nil
  | @cons item item' rest _ known _ induction =>
      apply Plan.Similar.bind (follows item List.mem_cons_self item' known)
      intro value value' here
      apply Plan.Similar.bind (induction fun other member =>
        follows other (List.mem_cons_of_mem _ member))
      intro values values' there
      exact .pure (.cons here there)

theorem collect_permuted {ι κ : Type} {listed : ι → κ → Prop} {step : ι → Plan α}
    {step' : κ → Plan β} {items : List ι} {others : List κ} (permuted : Permuted listed items others)
    (follows : ∀ item ∈ items, ∀ item', listed item item' →
      Plan.Similar related (step item) (step' item')) :
    Plan.Similar (Permuted related) (collect step items) (collect step' others) := by
  induction permuted with
  | nil => exact .pure .nil
  | @cons first second rest before after known _ induction =>
      have here := follows first List.mem_cons_self second known
      have others := induction fun item member => follows item (List.mem_cons_of_mem _ member)
      rw [collect_append] at others
      rw [collect, collect_append, collect]
      generalize step first = value, collect step rest = values, step' second = value',
        collect step' before = front, collect step' after = back at here others ⊢
      cases here with
      | none => cases front <;> exact .none
      | @some value value' here =>
          rcases front with _ | ⟨xs, early⟩
          · cases others
            exact .none
          rcases back with _ | ⟨ys, late⟩
          · cases others
            exact .none
          cases others with
          | some others =>
              refine .some ⟨.cons here.1 others.1, ?_⟩
              have listed := here.2.between others.2
              rw [Effects.append_empty] at listed
              dsimp only
              rw [Effects.append_empty, Effects.append_empty, Effects.append_empty]
              exact listed

end Similar

end Plan

end ApiScaffold.Blueprint
