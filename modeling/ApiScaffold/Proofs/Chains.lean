import Mathlib.Data.List.Nodup
import Mathlib.Data.List.Perm.Subperm

/-!
Chains of links. An item has at most one link, so from every item there is one way to go. Either it
ends, at an item without a link, or it comes back to an item that it has passed and never ends. If
all items with a link are listed, a way that ends has no more steps than there are items in the list.
-/

namespace ApiScaffold

/-- That many links lead from one item to another one. -/
inductive Chain {σ : Type} (link : σ → Option σ) : Nat → σ → σ → Prop where
  | here {item : σ} : Chain link 0 item item
  | step {item next last : σ} {steps : Nat} (linked : link item = some next)
      (rest : Chain link steps next last) : Chain link (steps + 1) item last

/-- The way from an item comes back to an item on it. -/
def Cyclic {σ : Type} (link : σ → Option σ) (first : σ) : Prop :=
  ∃ before round again, Chain link before first again ∧ Chain link (round + 1) again again

variable {σ : Type} {link : σ → Option σ} {steps more : Nat} {first middle last other : σ}

namespace Chain

theorem unique (here : Chain link steps first last) (there : Chain link steps first other) :
    last = other := by
  induction here with
  | here =>
      cases there
      rfl
  | step linked _ induction =>
      cases there with
      | step same rest =>
          rw [linked] at same
          cases same
          exact induction rest

theorem append (here : Chain link steps first middle) (there : Chain link more middle last) :
    Chain link (steps + more) first last := by
  induction here with
  | here =>
      rw [Nat.zero_add]
      exact there
  | step linked _ induction =>
      rw [Nat.add_right_comm]
      exact .step linked (induction there)

theorem split (whole : Chain link (steps + more) first last) :
    ∃ middle, Chain link steps first middle ∧ Chain link more middle last := by
  induction steps generalizing first with
  | zero =>
      rw [Nat.zero_add] at whole
      exact ⟨first, .here, whole⟩
  | succ steps induction =>
      rw [Nat.add_right_comm] at whole
      cases whole with
      | step linked rest =>
          obtain ⟨middle, before, after⟩ := induction rest
          exact ⟨middle, .step linked before, after⟩

theorem steps_le_of_end (ends : Chain link steps first last) (final : link last = none)
    (passes : Chain link more first other) : more ≤ steps := by
  by_contra beyond
  obtain ⟨rest, rfl⟩ := Nat.exists_eq_add_of_lt (Nat.lt_of_not_le beyond)
  obtain ⟨middle, before, after⟩ := split (Nat.add_assoc steps rest 1 ▸ passes)
  rw [← ends.unique before] at after
  cases after with
  | step linked _ =>
      rw [final] at linked
      cases linked

theorem end_unique (ends : Chain link steps first last) (final : link last = none)
    (stops : Chain link more first other) (closing : link other = none) : last = other := by
  have same := Nat.le_antisymm (stops.steps_le_of_end closing ends)
    (ends.steps_le_of_end final stops)
  rw [same] at ends
  exact ends.unique stops

theorem passed (chain : Chain link steps first last) (straight : ¬ Cyclic link first) :
    ∃ items : List σ, items.Nodup ∧ items.length = steps ∧
      ∀ item ∈ items, (link item).isSome ∧ ∃ before, Chain link before first item := by
  induction chain with
  | here => exact ⟨[], List.nodup_nil, rfl, List.forall_mem_nil _⟩
  | @step item next last steps linked rest induction =>
      have onward : ¬ Cyclic link next := by
        rintro ⟨before, round, again, reached, back⟩
        exact straight ⟨before + 1, round, again, .step linked reached, back⟩
      obtain ⟨items, distinct, length, known⟩ := induction onward
      have new : item ∉ items := by
        intro member
        obtain ⟨_, before, back⟩ := known item member
        exact straight ⟨0, before, item, .here, .step linked back⟩
      refine ⟨item :: items, List.nodup_cons.mpr ⟨new, distinct⟩, congrArg (· + 1) length, ?_⟩
      intro one member
      rcases List.mem_cons.mp member with rfl | inside
      · exact ⟨Option.isSome_of_eq_some linked, 0, .here⟩
      · obtain ⟨onwards, before, reached⟩ := known one inside
        exact ⟨onwards, before + 1, .step linked reached⟩

end Chain

namespace Cyclic

/-- An item on a cycle, or before one, has a link, and so has what it leads to. -/
theorem next (cyclic : Cyclic link first) : ∃ next, link first = some next ∧ Cyclic link next := by
  obtain ⟨before, round, again, reached, back⟩ := cyclic
  cases reached with
  | here =>
      cases id back with
      | step linked rest => exact ⟨_, linked, round, round, _, rest, back⟩
  | step linked rest => exact ⟨_, linked, _, round, again, rest, back⟩

theorem onward (cyclic : Cyclic link first) (chain : Chain link steps first last) :
    Cyclic link last := by
  induction chain with
  | here => exact cyclic
  | step linked _ induction =>
      obtain ⟨next, same, behind⟩ := cyclic.next
      rw [linked] at same
      cases same
      exact induction behind

theorem linked (cyclic : Cyclic link first) (chain : Chain link steps first last) :
    ∃ next, link last = some next :=
  (cyclic.onward chain).next.imp fun _ both => both.1

end Cyclic

/-- A way that ends does not come back. -/
theorem Chain.straight (chain : Chain link steps first last) (final : link last = none) :
    ¬ Cyclic link first := by
  intro cyclic
  obtain ⟨next, linked⟩ := cyclic.linked chain
  rw [final] at linked
  cases linked

section Listed

variable {items : List σ} (listed : ∀ item, (link item).isSome → item ∈ items)

include listed

theorem Chain.steps_le (chain : Chain link steps first last) (straight : ¬ Cyclic link first) :
    steps ≤ items.length := by
  obtain ⟨passed, distinct, length, known⟩ := chain.passed straight
  have among : passed ⊆ items := fun item member => listed item (known item member).1
  exact length ▸ (List.subperm_of_subset distinct among).length_le

theorem ends_or_cyclic (first : σ) :
    (∃ steps last, Chain link steps first last ∧ link last = none) ∨ Cyclic link first := by
  by_cases straight : Cyclic link first
  · exact .inr straight
  apply Or.inl
  by_contra endless
  have reaches : ∀ steps, ∃ last, Chain link steps first last := by
    intro steps
    induction steps with
    | zero => exact ⟨first, .here⟩
    | succ steps induction =>
        obtain ⟨last, chain⟩ := induction
        obtain ⟨next, linked⟩ : ∃ next, link last = some next :=
          Option.ne_none_iff_exists'.mp fun final => endless ⟨steps, last, chain, final⟩
        exact ⟨next, chain.append (.step linked .here)⟩
  -- one step more than the list has items
  obtain ⟨last, chain⟩ := reaches (items.length + 1)
  exact absurd (chain.steps_le listed straight) (Nat.not_succ_le_self items.length)

end Listed

end ApiScaffold
