import ApiScaffold.Proofs.PartNames
import ApiScaffold.Proofs.Registry

/-!
References to packages. A file imports what it mentions, so an import is used if what is written
refers to its path as well.
-/

namespace ApiScaffold.Source

def Scope.Remote (scope : Scope) (path : String) : Prop :=
  scope.components.filter (· != scope.package) = some path

def Refers (scope : Scope) (path : String) (fragments : List Fragment) : Prop :=
  ∃ fragment ∈ fragments, fragment.importPath? scope = some path

namespace Refers

variable {scope : Scope} {path : String} {first second rest : List Fragment}

@[simp] theorem nil_iff : Refers scope path [] ↔ False :=
  iff_false_intro fun ⟨_, member, _⟩ => List.not_mem_nil member

theorem cons_iff {fragment : Fragment} :
    Refers scope path (fragment :: rest) ↔
      fragment.importPath? scope = some path ∨ Refers scope path rest := by
  simp only [Refers, List.mem_cons, exists_eq_or_imp]

@[simp] theorem text_iff (content : String) :
    Refers scope path (.text content :: rest) ↔ Refers scope path rest := by
  rw [cons_iff]
  exact or_iff_right (Option.some_ne_none path).symm

@[simp] theorem own_iff (name : String) :
    Refers scope path (.own name :: rest) ↔ Refers scope path rest := by
  rw [cons_iff]
  exact or_iff_right (Option.some_ne_none path).symm

@[simp] theorem component_iff (name : String) :
    Refers scope path (.component name :: rest) ↔ scope.Remote path ∨ Refers scope path rest :=
  cons_iff

@[simp] theorem imported_iff (other name : String) :
    Refers scope path (.imported other name :: rest) ↔ other = path ∨ Refers scope path rest := by
  rw [cons_iff]
  exact or_congr_left Option.some_inj

@[simp] theorem qualified_iff (other name : String) :
    Refers scope path (.qualified other name :: rest) ↔
      other ≠ scope.package ∧ other = path ∨ Refers scope path rest := by
  rw [cons_iff, Fragment.importPath?]
  apply or_congr_left
  split
  · rename_i own
    simp [own]
  · rename_i foreign
    simp [foreign]

@[simp] theorem append_iff :
    Refers scope path (first ++ second) ↔ Refers scope path first ∨ Refers scope path second := by
  simp only [Refers, List.mem_append, or_and_right, exists_or]

@[simp] theorem flat_map_iff {α : Type} (items : List α) (fragments : α → List Fragment) :
    Refers scope path (items.flatMap fragments) ↔
      ∃ item ∈ items, Refers scope path (fragments item) := by
  induction items with
  | nil => simp
  | cons item others induction => simp [induction]

@[simp] theorem names_of_iff (code : Code) :
    Refers scope path (namesOf code) ↔ Refers scope path code := by
  constructor
  · rintro ⟨fragment, member, found⟩
    exact ⟨fragment, (mem_names_of_iff.mp member).1, found⟩
  · rintro ⟨fragment, member, found⟩
    refine ⟨fragment, mem_names_of_iff.mpr ⟨member, ?_⟩, found⟩
    cases fragment with
    | text content => cases found
    | _ => rfl

@[simp] theorem code_iff (pieces : List Code) :
    Refers scope path (code pieces) ↔ ∃ piece ∈ pieces, Refers scope path piece := by
  rw [← names_of_iff, names_of_code, flat_map_iff]
  simp only [names_of_iff]

@[simp] theorem separated_iff (separator : String) (pieces : List Code) :
    Refers scope path (separated separator pieces) ↔ ∃ piece ∈ pieces, Refers scope path piece := by
  rw [← names_of_iff, names_of_separated, flat_map_iff]
  simp only [names_of_iff]

theorem mono (referred : Refers scope path first) (subset : first ⊆ second) :
    Refers scope path second := by
  obtain ⟨fragment, member, found⟩ := referred
  exact ⟨fragment, subset member, found⟩

end Refers

theorem Imports.mem_keys_add {known : List (String × String)} {imports : Imports}
    {path other : String} :
    other ∈ Registry.keys (Imports.add known imports path) ↔
      other = path ∨ other ∈ Registry.keys imports := by
  unfold Imports.add
  split
  · rename_i present
    have here : path ∈ Registry.keys imports := by
      rw [← Registry.find?_is_some_iff, present]
      rfl
    exact ⟨.inr, fun either => either.elim (fun same => same ▸ here) id⟩
  · exact Registry.mem_keys_insert

theorem Imports.mem_keys_collected {known : List (String × String)} {path : String}
    (paths : List String) : ∀ imports : Imports,
      path ∈ Registry.keys (paths.foldl (Imports.add known) imports) ↔
        path ∈ paths ∨ path ∈ Registry.keys imports := by
  induction paths with
  | nil => exact fun imports => (or_iff_right List.not_mem_nil).symm
  | cons next rest induction =>
      intro imports
      rw [List.foldl_cons, induction, Imports.mem_keys_add, List.mem_cons, or_left_comm, or_assoc]

/-- A path is imported exactly if it is referred to among the mentions. -/
theorem mem_imports_iff {known : List (String × String)} {scope : Scope} {path : String}
    {mentions : List Fragment} :
    path ∈ Registry.keys (importsOf known scope mentions) ↔ Refers scope path mentions := by
  rw [importsOf, Imports.mem_keys_collected, List.mem_filterMap]
  exact or_iff_left List.not_mem_nil

end ApiScaffold.Source

namespace ApiScaffold.Go

open Source

/-- Every path that the part mentions is used by it, or elsewhere in the same file. -/
structure Part.Uses (scope : Scope) (elsewhere : String → Prop) (part : Part) : Prop where
  used : ∀ path, Refers scope path part.mentions → elsewhere path ∨ Refers scope path part.names

namespace Part.Uses

variable {scope : Scope} {elsewhere : String → Prop}

theorem empty : Uses scope elsewhere {} :=
  ⟨fun _ mentioned => absurd mentioned (Refers.nil_iff.mp ·)⟩

theorem of_subset {part : Part} (subset : part.mentions ⊆ part.names) :
    part.Uses scope elsewhere :=
  ⟨fun _ mentioned => .inr (mentioned.mono subset)⟩

theorem append {first second : Part} (before : first.Uses scope elsewhere)
    (after : second.Uses scope elsewhere) : (first ++ second).Uses scope elsewhere := by
  constructor
  intro path mentioned
  rw [mentions_append, Refers.append_iff] at mentioned
  rw [names_append, Refers.append_iff]
  rcases mentioned with first' | second'
  · exact (before.used path first').imp_right .inl
  · exact (after.used path second').imp_right .inr

theorem join {parts : List Part} (each : ∀ part ∈ parts, part.Uses scope elsewhere) :
    (Part.join parts).Uses scope elsewhere := by
  induction parts with
  | nil => exact empty
  | cons part rest induction =>
      obtain ⟨first, others⟩ := List.forall_mem_cons.mp each
      exact append first (induction others)

end Part.Uses

end ApiScaffold.Go
