import ApiScaffold.OpenApi.Reference
import ApiScaffold.Proofs.Chains
import ApiScaffold.Proofs.Registry

/-!
Where chains of references lead. A definition is found iff the chain reaches it; nothing is found iff
the chain leaves its table, meets a key that is missing or goes round in a circle. The number of
steps is bounded by the size of the table, which is enough for every chain that ends: the entries
that it passes are distinct, wherever it starts.
-/

namespace ApiScaffold.OpenApi

variable {α : Type} {table : Table (OrRef α)} {place : String} {item : OrRef α} {value : α}

def OrRef.link? (table : Table (OrRef α)) (place : String) : OrRef α → Option (OrRef α)
  | .object _ => none
  | .reference target => lookupReference table place target

theorem lookup_reference_at (table : Table (OrRef α)) (place key : String) :
    lookupReference table place (place ++ key) = table.lookup key := by
  rw [lookupReference, Text.dropStart?_eq_some_iff.mpr rfl, Option.bind_some]

theorem OrRef.link_eq_some_iff {next : OrRef α} : item.link? table place = some next ↔
    ∃ key, item = .reference (place ++ key) ∧ table.lookup key = some next := by
  constructor
  · intro linked
    cases item with
    | object value => cases linked
    | reference target =>
        obtain ⟨key, cut, found⟩ := Option.bind_eq_some_iff.mp linked
        exact ⟨key, congrArg _ (Text.dropStart?_eq_some_iff.mp cut), found⟩
  · rintro ⟨key, rfl, found⟩
    exact (lookup_reference_at table place key).trans found

/-- A chain ends at a definition, outside of the table, or at a missing key. -/
theorem OrRef.link_eq_none_iff : item.link? table place = none ↔
    (∃ value, item = .object value) ∨
      (∃ target, item = .reference target ∧ ∀ key, target ≠ place ++ key) ∨
      ∃ key, item = .reference (place ++ key) ∧ key ∉ table.map (·.1) := by
  constructor
  · intro final
    cases item with
    | object value => exact .inl ⟨value, rfl⟩
    | reference target =>
        apply Or.inr
        by_cases inside : ∃ key, target = place ++ key
        · obtain ⟨key, rfl⟩ := inside
          have missing := (lookup_reference_at table place key).symm.trans final
          exact .inr ⟨key, rfl, (Registry.find?_eq_none_iff table key).mp missing⟩
        · exact .inl ⟨target, rfl, not_exists.mp inside⟩
  · rintro (⟨value, rfl⟩ | ⟨target, rfl, outside⟩ | ⟨key, rfl, missing⟩)
    · rfl
    · apply Option.eq_none_iff_forall_ne_some.mpr
      intro next linked
      obtain ⟨key, same, _⟩ := link_eq_some_iff.mp linked
      exact outside key (OrRef.reference.inj same)
    · exact (lookup_reference_at table place key).trans
        ((Registry.find?_eq_none_iff table key).mpr missing)

def referencesTo (table : Table (OrRef α)) (place : String) : List (OrRef α) :=
  table.map fun entry => .reference (place ++ entry.1)

theorem linked_listed (item : OrRef α) (linked : (item.link? table place).isSome) :
    item ∈ referencesTo table place := by
  obtain ⟨next, found⟩ := Option.isSome_iff_exists.mp linked
  obtain ⟨key, rfl, known⟩ := OrRef.link_eq_some_iff.mp found
  exact List.mem_map.mpr ⟨(key, next), Registry.mem_of_find? known, rfl⟩

theorem follow_within_of_chain {steps bound : Nat}
    (chain : Chain (OrRef.link? table place) steps item (.object value)) (enough : steps ≤ bound) :
    followWithin table place bound item = some value := by
  generalize ended : OrRef.object value = last at chain
  induction chain generalizing bound with
  | here =>
      rw [← ended]
      exact followWithin_object table place bound value
  | @step item next last steps linked rest induction =>
      obtain ⟨bound, rfl⟩ := Nat.exists_eq_add_of_le' (Nat.le_of_add_left_le enough)
      obtain ⟨key, rfl, _⟩ := OrRef.link_eq_some_iff.mp linked
      have found : lookupReference table place (place ++ key) = some next := linked
      rw [followWithin, found]
      exact induction (Nat.le_of_add_le_add_right enough) ended

theorem chain_of_follow_within {bound : Nat}
    (followed : followWithin table place bound item = some value) :
    ∃ steps, Chain (OrRef.link? table place) steps item (.object value) := by
  induction bound generalizing item with
  | zero =>
      cases item with
      | object own =>
          cases followed
          exact ⟨0, .here⟩
      | reference target => cases followed
  | succ bound induction =>
      cases item with
      | object own =>
          cases followed
          exact ⟨0, .here⟩
      | reference target =>
          obtain ⟨next, found, rest⟩ := Option.bind_eq_some_iff.mp followed
          obtain ⟨steps, chain⟩ := induction rest
          exact ⟨steps + 1, .step found chain⟩

/-- A chain that ends has no more steps than the table has entries. -/
theorem steps_within_table {steps : Nat} {last : OrRef α}
    (chain : Chain (OrRef.link? table place) steps item last)
    (final : last.link? table place = none) : steps ≤ table.length := by
  have bound := chain.steps_le linked_listed (chain.straight final)
  rwa [referencesTo, List.length_map] at bound

theorem follow_eq_some_iff : follow table place item = some value ↔
    ∃ steps, Chain (OrRef.link? table place) steps item (.object value) := by
  constructor
  · exact chain_of_follow_within
  · rintro ⟨steps, chain⟩
    exact follow_within_of_chain chain (steps_within_table chain rfl)

/-- The definition that is found is the one which the chain of references reaches. None is found iff
the chain leaves the table, ends at a missing key or is a circle. No chain that ends is longer than
the bound. -/
theorem references_followed (table : Table (OrRef α)) (place : String) (item : OrRef α) :
    (∀ value, follow table place item = some value ↔
      ∃ steps, Chain (OrRef.link? table place) steps item (.object value)) ∧
    (follow table place item = none ↔
      (∃ steps target, Chain (OrRef.link? table place) steps item (.reference target) ∧
        ∀ key, target ≠ place ++ key) ∨
      (∃ steps key, Chain (OrRef.link? table place) steps item (.reference (place ++ key)) ∧
        key ∉ table.map (·.1)) ∨
      Cyclic (OrRef.link? table place) item) ∧
    ∀ steps last, Chain (OrRef.link? table place) steps item last →
      last.link? table place = none → steps ≤ table.length := by
  refine ⟨fun _ => follow_eq_some_iff, ⟨fun unfound => ?_, fun stuck => ?_⟩,
    fun _ _ => steps_within_table⟩
  · rcases ends_or_cyclic linked_listed item with ⟨steps, last, chain, final⟩ | cyclic
    · rcases OrRef.link_eq_none_iff.mp final with
        ⟨value, rfl⟩ | ⟨target, rfl, outside⟩ | ⟨key, rfl, missing⟩
      · cases unfound.symm.trans (follow_eq_some_iff.mpr ⟨steps, chain⟩)
      · exact .inl ⟨steps, target, chain, outside⟩
      · exact .inr (.inl ⟨steps, key, chain, missing⟩)
    · exact .inr (.inr cyclic)
  · apply Option.eq_none_iff_forall_ne_some.mpr
    intro value found
    obtain ⟨many, reached⟩ := follow_eq_some_iff.mp found
    have apart : ∀ steps target, Chain (OrRef.link? table place) steps item (.reference target) →
        (OrRef.reference target).link? table place ≠ none := by
      intro steps target chain final
      cases chain.end_unique final reached rfl
    rcases stuck with ⟨steps, target, chain, outside⟩ | ⟨steps, key, chain, missing⟩ | cyclic
    · exact apart _ _ chain (OrRef.link_eq_none_iff.mpr (.inr (.inl ⟨target, rfl, outside⟩)))
    · exact apart _ _ chain (OrRef.link_eq_none_iff.mpr (.inr (.inr ⟨key, rfl, missing⟩)))
    · exact reached.straight rfl cyclic

def harbour : Table (OrRef Parameter) := [
  ("berth", .reference "#/components/parameters/quay"),
  ("quay", .reference "#/components/parameters/mole"),
  ("mole", .reference "#/components/parameters/pier"),
  ("pier", .object { name := "pier", place := .query })]

def tide : Table (OrRef Parameter) := [
  ("ebb", .reference "#/components/parameters/flow"),
  ("flow", .reference "#/components/parameters/ebb")]

theorem harbour_reaches_pier :
    Chain (OrRef.link? harbour parametersPlace) 4 (.reference "#/components/parameters/berth")
        (.object { name := "pier", place := .query }) ∧
      follow harbour parametersPlace (.reference "#/components/parameters/berth") =
        some { name := "pier", place := .query } ∧
      4 ≤ harbour.length ∧
      follow tide parametersPlace (.reference "#/components/parameters/ebb") = none := by
  have chain : Chain (OrRef.link? harbour parametersPlace) 4
      (.reference "#/components/parameters/berth") (.object { name := "pier", place := .query }) :=
    .step rfl (.step rfl (.step rfl (.step rfl .here)))
  obtain ⟨found, _, bounded⟩ :=
    references_followed harbour parametersPlace (.reference "#/components/parameters/berth")
  obtain ⟨_, stuck, _⟩ :=
    references_followed tide parametersPlace (.reference "#/components/parameters/ebb")
  have circle : Cyclic (OrRef.link? tide parametersPlace)
      (.reference "#/components/parameters/ebb") :=
    ⟨0, 1, _, .here, .step rfl (.step rfl .here)⟩
  exact ⟨chain, (found _).mpr ⟨4, chain⟩, bounded 4 _ chain rfl, stuck.mpr (.inr (.inr circle))⟩

end ApiScaffold.OpenApi
