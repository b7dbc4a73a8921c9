/-!
Tables whose keys are in order and distinct.
-/

namespace ApiScaffold

abbrev Registry (α : Type) := List (String × α)

namespace Registry

variable {α : Type}

def find? (registry : Registry α) (key : String) : Option α := registry.lookup key

/-- Puts an entry at its place; one with the same key is replaced. -/
def insert (key : String) (value : α) : Registry α → Registry α
  | [] => [(key, value)]
  | (known, old) :: rest =>
    if key = known then (key, value) :: rest
    else if key < known then (key, value) :: (known, old) :: rest
    else (known, old) :: insert key value rest

theorem find?_insert_self (key : String) (value : α) (registry : Registry α) :
    (registry.insert key value).find? key = some value := by
  induction registry with
  | nil => simp [insert, find?]
  | cons entry rest induction =>
    obtain ⟨known, old⟩ := entry
    simp only [insert]
    split
    · simp [find?]
    · rename_i differs
      split
      · simp [find?]
      · have other : (key == known) = false := by simpa using differs
        simpa [find?, List.lookup_cons, other] using induction

theorem find?_insert_of_ne {key other : String} (value : α) (registry : Registry α)
    (differs : other ≠ key) : (registry.insert key value).find? other = registry.find? other := by
  have plain : (other == key) = false := by simpa using differs
  induction registry with
  | nil => simp [insert, find?, List.lookup_cons, plain]
  | cons entry rest induction =>
    obtain ⟨known, old⟩ := entry
    simp only [insert]
    split
    · rename_i same
      subst same
      simp [find?, List.lookup_cons, plain]
    · split
      · simp [find?, List.lookup_cons, plain]
      · by_cases here : (other == known) = true
        · simp [find?, List.lookup_cons, here]
        · simp only [find?, List.lookup_cons, here] at induction ⊢
          exact induction

def keys (registry : Registry α) : List String := registry.map (·.1)

def values (registry : Registry α) : List α := registry.map (·.2)

end Registry

end ApiScaffold
