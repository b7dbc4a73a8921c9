import ApiScaffold.Diagnostic.Basic

/-!
The names that a package declares, each with what asked for it. No name is declared twice.
-/

namespace ApiScaffold.Source

/-- Names with their owners, the last one first. -/
abbrev Declared := List (String × String)

namespace Declared

/-- Declares a name, unless it is taken. -/
def add (declared : Declared) (name owner : String) : Except Diagnostic Declared :=
  match declared.lookup name with
  | some first => .error (Diagnostic.nameCollision .emit name first owner)
  | none => .ok ((name, owner) :: declared)

/-- Declares names in order; the first that is taken ends it. -/
def addAll (declared : Declared) (names : List (String × String)) : Except Diagnostic Declared :=
  names.foldlM (fun declared (name, owner) => declared.add name owner) declared

def sorted (declared : Declared) : Declared :=
  declared.mergeSort fun left right => decide (left.1 ≤ right.1)

theorem names_of_addAll {declared result : Declared} {names : List (String × String)}
    (success : declared.addAll names = .ok result) :
    result.map (·.1) = (names.map (·.1)).reverse ++ declared.map (·.1) := by
  induction names generalizing declared with
  | nil =>
    simp only [addAll, List.foldlM_nil] at success
    cases success
    simp
  | cons entry rest induction =>
    obtain ⟨name, owner⟩ := entry
    simp only [addAll, List.foldlM_cons] at success
    unfold add at success
    split at success
    · cases success
    · simpa using induction success

end Declared

end ApiScaffold.Source
