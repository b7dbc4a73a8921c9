import ApiScaffold.Proofs.PartNames
import ApiScaffold.Server.Types

/-!
Names in scope. A fragment that names a component needs a declaration among the components, one
that names something of its own file needs one there; names of other packages need the package.
-/

namespace ApiScaffold.Go.Package

/-- The packages that generated programs may use whatever the document says. -/
@[simp] abbrev runtime : List String := [
  context, driver, json, xml, fmt, io, mime, http, regexp, strconv, strings, chi, validation, uuid,
  country, currency, email]

def Among (packages : String → Prop) (path : String) : Prop := packages path

instance (packages : String → Prop) [allowed : DecidablePred packages] :
    DecidablePred (Among packages) := allowed

/-- Generated programs may use at least the packages that they always may. -/
class Provided (packages : String → Prop) : Prop where
  provides : ∀ path ∈ runtime, packages path

@[simp] theorem among_of_runtime {packages : String → Prop} [provided : Provided packages]
    {path : String} (listed : path ∈ runtime) : Among packages path :=
  provided.provides path listed

instance : Provided (· ∈ runtime) := ⟨fun _ listed => listed⟩

def any : String → Prop := fun _ => True

instance : DecidablePred any := fun _ => inferInstanceAs (Decidable True)

instance : Provided any := ⟨fun _ _ => trivial⟩

@[simp] theorem among_any (path : String) : Among any path := trivial

end ApiScaffold.Go.Package

namespace ApiScaffold.Source

open Go.Package (Among)

def Fragment.DeclaredIn (components own : List String) : Fragment → Prop
  | .component name => name ∈ components
  | .own name => name ∈ own
  | _ => True

def Fragment.PackagedIn (packages : String → Prop) : Fragment → Prop
  | .imported path _ => Among packages path
  | .qualified path _ => Among packages path
  | _ => True

instance (components own : List String) : DecidablePred (Fragment.DeclaredIn components own)
  | .component name => inferInstanceAs (Decidable (name ∈ components))
  | .own name => inferInstanceAs (Decidable (name ∈ own))
  | .text _ => inferInstanceAs (Decidable True)
  | .imported _ _ => inferInstanceAs (Decidable True)
  | .qualified _ _ => inferInstanceAs (Decidable True)

instance (packages : String → Prop) [DecidablePred packages] :
    DecidablePred (Fragment.PackagedIn packages)
  | .imported path _ => inferInstanceAs (Decidable (Among packages path))
  | .qualified path _ => inferInstanceAs (Decidable (Among packages path))
  | .text _ => inferInstanceAs (Decidable True)
  | .own _ => inferInstanceAs (Decidable True)
  | .component _ => inferInstanceAs (Decidable True)

def InScope (components own : List String) (packages : String → Prop) (fragments : List Fragment) :
    Prop :=
  ∀ fragment ∈ fragments, fragment.DeclaredIn components own ∧ fragment.PackagedIn packages

instance (components own : List String) (packages : String → Prop) [DecidablePred packages]
    (fragments : List Fragment) :
    Decidable (InScope components own packages fragments) :=
  inferInstanceAs (Decidable (∀ fragment ∈ fragments,
    fragment.DeclaredIn components own ∧ fragment.PackagedIn packages))

namespace InScope

variable {components own : List String} {packages : String → Prop}
  {first second rest : List Fragment}

@[simp] theorem nil_iff : InScope components own packages [] ↔ True :=
  iff_true_intro fun _ member => absurd member List.not_mem_nil

@[simp] theorem text_iff (content : String) :
    InScope components own packages (.text content :: rest) ↔
      InScope components own packages rest := by
  rw [InScope, List.forall_mem_cons]
  exact and_iff_right ⟨trivial, trivial⟩

@[simp] theorem imported_iff (path name : String) :
    InScope components own packages (.imported path name :: rest) ↔
      Among packages path ∧ InScope components own packages rest := by
  rw [InScope, List.forall_mem_cons]
  exact and_congr_left fun _ => and_iff_right trivial

@[simp] theorem qualified_iff (path name : String) :
    InScope components own packages (.qualified path name :: rest) ↔
      Among packages path ∧ InScope components own packages rest := by
  rw [InScope, List.forall_mem_cons]
  exact and_congr_left fun _ => and_iff_right trivial

@[simp] theorem component_iff (name : String) :
    InScope components own packages (.component name :: rest) ↔
      name ∈ components ∧ InScope components own packages rest := by
  rw [InScope, List.forall_mem_cons]
  exact and_congr_left fun _ => and_iff_left trivial

@[simp] theorem own_iff (name : String) :
    InScope components own packages (.own name :: rest) ↔
      name ∈ own ∧ InScope components own packages rest := by
  rw [InScope, List.forall_mem_cons]
  exact and_congr_left fun _ => and_iff_left trivial

@[simp] theorem append_iff :
    InScope components own packages (first ++ second) ↔
      InScope components own packages first ∧ InScope components own packages second :=
  List.forall_mem_append

@[simp] theorem flat_map_iff {α : Type} (items : List α) (fragments : α → List Fragment) :
    InScope components own packages (items.flatMap fragments) ↔
      ∀ item ∈ items, InScope components own packages (fragments item) :=
  List.forall_mem_flatMap

@[simp] theorem names_of_iff (code : Code) :
    InScope components own packages (namesOf code) ↔ InScope components own packages code := by
  constructor
  · intro declared fragment member
    cases fragment with
    | text content => exact ⟨trivial, trivial⟩
    | _ => exact declared _ (mem_names_of_iff.mpr ⟨member, rfl⟩)
  · intro declared fragment member
    exact declared fragment (mem_names_of_iff.mp member).1

@[simp] theorem code_iff (pieces : List Code) :
    InScope components own packages (code pieces) ↔
      ∀ piece ∈ pieces, InScope components own packages piece := by
  rw [← names_of_iff, names_of_code, flat_map_iff]
  simp only [names_of_iff]

@[simp] theorem separated_iff (separator : String) (pieces : List Code) :
    InScope components own packages (separated separator pieces) ↔
      ∀ piece ∈ pieces, InScope components own packages piece := by
  rw [← names_of_iff, names_of_separated, flat_map_iff]
  simp only [names_of_iff]

theorem mono {moreComponents moreOwn : List String} {morePackages : String → Prop}
    (known : InScope components own packages first)
    (components_subset : components ⊆ moreComponents) (own_subset : own ⊆ moreOwn)
    (packages_subset : ∀ path, packages path → morePackages path) :
    InScope moreComponents moreOwn morePackages first := by
  intro fragment member
  obtain ⟨declared, packaged⟩ := known fragment member
  constructor
  · cases fragment with
    | component name => exact components_subset declared
    | own name => exact own_subset declared
    | _ => trivial
  · cases fragment with
    | imported path name => exact packages_subset path packaged
    | qualified path name => exact packages_subset path packaged
    | _ => trivial

theorem any (known : InScope components own packages first) :
    InScope components own Go.Package.any first :=
  known.mono (List.Subset.refl components) (List.Subset.refl own) fun _ _ => trivial

theorem of_packaged {otherPackages : String → Prop}
    (declared : InScope components own otherPackages first)
    (packaged : ∀ fragment ∈ first, fragment.PackagedIn packages) :
    InScope components own packages first :=
  fun fragment member => ⟨(declared fragment member).1, packaged fragment member⟩

end InScope

end ApiScaffold.Source

namespace ApiScaffold.Go

open Source

/-- What the part mentions and what its declarations refer to is in scope. Packages may be mentioned
without being used. -/
structure Part.InScope (components own : List String) (packages : String → Prop) (part : Part) :
    Prop where
  mentions : Source.InScope components own Package.any part.mentions
  names : Source.InScope components own packages part.names

namespace Part.InScope

variable {components own : List String} {packages : String → Prop}

theorem empty : InScope components own packages {} := by
  constructor
  · exact InScope.nil_iff.mpr trivial
  · exact InScope.nil_iff.mpr trivial

theorem mono {part : Part} {moreComponents moreOwn : List String} {morePackages : String → Prop}
    (known : part.InScope components own packages) (components_subset : components ⊆ moreComponents)
    (own_subset : own ⊆ moreOwn) (packages_subset : ∀ path, packages path → morePackages path) :
    part.InScope moreComponents moreOwn morePackages :=
  ⟨known.mentions.mono components_subset own_subset fun _ known => known,
    known.names.mono components_subset own_subset packages_subset⟩

theorem append {first second : Part} (before : first.InScope components own packages)
    (after : second.InScope components own packages) :
    (first ++ second).InScope components own packages := by
  constructor
  · rw [mentions_append]
    exact InScope.append_iff.mpr ⟨before.mentions, after.mentions⟩
  · rw [names_append]
    exact InScope.append_iff.mpr ⟨before.names, after.names⟩

theorem join {parts : List Part} (each : ∀ part ∈ parts, part.InScope components own packages) :
    (Part.join parts).InScope components own packages := by
  induction parts with
  | nil => exact empty
  | cons part rest induction =>
      obtain ⟨first, others⟩ := List.forall_mem_cons.mp each
      exact append first (induction others)

end Part.InScope

@[simp] theorem reference_in_scope_iff {components own : List String} {packages : String → Prop}
    (name : QualifiedName) (rest : Code) :
    Source.InScope components own packages (Package.reference name :: rest) ↔
      (∀ path ∈ name.package, Package.Among packages path) ∧
        Source.InScope components own packages rest := by
  unfold Package.reference
  split
  · rename_i path present
    simp [present]
  · rename_i none
    simp [none]

end ApiScaffold.Go

namespace ApiScaffold.Server

open Blueprint Go Source

theorem primitive_type_in_scope {components own : List String} {packages : String → Prop}
    [Package.Provided packages] (kind : PrimitiveKind) :
    InScope components own packages (primitiveType kind).code := by
  cases kind <;> simp [primitiveType, TypeExpression.code]

mutual
theorem type_in_scope (own : List String) :
    ∀ shape : Shape, InScope shape.references own Package.any (typeOf shape).code
  | .primitive primitive => by
      rw [typeOf]
      exact primitive_type_in_scope primitive.kind
  | .array element _ _ => by
      rw [typeOf, Shape.references, TypeExpression.code, InScope.text_iff]
      exact type_in_scope own element
  | .object fields _ additional => by
      rw [typeOf, Shape.references]
      exact (map_type_in_scope own fields.isEmpty additional).mono
        (List.subset_append_right _ _) (List.Subset.refl own) (fun _ _ => trivial)
  | .enum enumeration => by
      rw [typeOf]
      exact primitive_type_in_scope enumeration.base
  | .named name => by simp [typeOf, TypeExpression.code, Shape.references]
  | .anyOf _ => by simp [typeOf, TypeExpression.code]
  | .oneOf _ => by simp [typeOf, TypeExpression.code]
  | .allOf _ => by simp [typeOf, TypeExpression.code]
  | .custom type => by
      rw [typeOf, TypeExpression.code, reference_in_scope_iff]
      exact ⟨fun _ _ => trivial, InScope.nil_iff.mpr trivial⟩
termination_by structural shape => shape

theorem map_type_in_scope (own : List String) (empty : Bool) :
    ∀ additional : Additional Shape,
      InScope (Shape.additionalReferences additional) own Package.any
        (mapTypeOf empty additional).code
  | .forbidden => by simp [mapTypeOf, TypeExpression.code]
  | .any => by cases empty <;> simp [mapTypeOf, TypeExpression.code]
  | .typed shape => by
      rw [mapTypeOf, Shape.additionalReferences, TypeExpression.code, InScope.text_iff]
      exact type_in_scope own shape
  | .goMapType expression => by simp [mapTypeOf, TypeExpression.code]
termination_by structural additional => additional
end

end ApiScaffold.Server
