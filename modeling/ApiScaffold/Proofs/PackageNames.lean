import ApiScaffold.Proofs.GoIdentifier
import ApiScaffold.Proofs.ImportNames
import ApiScaffold.Proofs.ShortDocuments

/-!
Names of packages, in package clauses and as aliases of imports. All of them are made of letters,
digits and underscores, and a clause is never empty. So what can be wrong with one is an empty
alias, a digit at the front, a lone underscore or a keyword. A number behind an alias changes nothing
about that for a file as a whole.
-/

namespace ApiScaffold.Go

open Identifier (isPackageChar packageClause packageAlias)
open Source (Imports)

/-- A name that may stand in a package clause, or before the names of an imported package. -/
structure IsPackageName (name : String) : Prop where
  identifier : IsIdentifier name
  given : name ≠ "_"
  free : name ∉ keywords

def Kept (name : String) : Prop := ∀ c ∈ name.toList, isPackageChar c = true

/-- What a text of package characters has to avoid. -/
structure Fit (name : String) : Prop where
  undigited : name.toList.head?.any Text.isAsciiDigit = false
  given : name ≠ "_"
  free : name ∉ keywords

instance (name : String) : Decidable (Fit name) :=
  decidable_of_iff (name.toList.head?.any Text.isAsciiDigit = false ∧ name ≠ "_" ∧ name ∉ keywords)
    ⟨fun all => ⟨all.1, all.2.1, all.2.2⟩, fun fit => ⟨fit.undigited, fit.given, fit.free⟩⟩

theorem package_char {c : Char} (kept : isPackageChar c = true) :
    continuesIdentifier c = true ∧ startsIdentifier c = !Text.isAsciiDigit c ∧
      isPackageChar (Text.asciiLower c) = true := by
  have ascii : c.toNat < 0x80 := by
    simp only [isPackageChar, Text.isAsciiAlphanumeric, Text.isAsciiLetter, Text.isAsciiUpper,
      Text.isAsciiLower, Text.isAsciiDigit, Bool.or_eq_true, Bool.and_eq_true, decide_eq_true_eq,
      Char.le_def, UInt32.le_iff_toNat_le, beq_iff_eq] at kept
    rcases kept with ((⟨_, upper⟩ | ⟨_, lower⟩) | ⟨_, digit⟩) | rfl
    · exact Nat.lt_of_le_of_lt upper (by decide)
    · exact Nat.lt_of_le_of_lt lower (by decide)
    · exact Nat.lt_of_le_of_lt digit (by decide)
    · decide
  have each : ∀ code < 0x80, isPackageChar (Char.ofNat code) = true →
      continuesIdentifier (Char.ofNat code) = true ∧
        startsIdentifier (Char.ofNat code) = !Text.isAsciiDigit (Char.ofNat code) ∧
        isPackageChar (Text.asciiLower (Char.ofNat code)) = true := by decide
  have own := each c.toNat ascii
  rw [Char.ofNat_toNat] at own
  exact own kept

/-- Of such texts, the names of packages are those that are not empty and avoid the rest. -/
theorem is_package_name_iff {name : String} (kept : Kept name) :
    IsPackageName name ↔ name ≠ "" ∧ Fit name := by
  have word : IsWord name := fun c member => (package_char (kept c member)).1
  have starts : name ≠ "" → (name.toList.head?.any startsIdentifier = true ↔
      name.toList.head?.any Text.isAsciiDigit = false) := by
    intro given
    cases chars : name.toList with
    | nil => exact absurd (String.toList_inj.mp chars) given
    | cons first rest =>
        have own := (package_char (kept first (chars ▸ List.mem_cons_self))).2.1
        rw [List.head?_cons, Option.any_some, Option.any_some, own, Bool.not_eq_true']
  constructor
  · intro named
    have given := named.identifier.ne_empty
    exact ⟨given, (starts given).mp named.identifier.starts, named.given, named.free⟩
  · rintro ⟨given, fit⟩
    exact ⟨⟨(starts given).mpr fit.undigited, word⟩, fit.given, fit.free⟩

theorem clause_kept (path : String) : Kept (packageClause path) := by
  unfold packageClause Kept
  dsimp only
  split
  · decide
  · rw [String.toList_ofList, List.forall_mem_map]
    exact fun c member => (package_char (List.of_mem_filter member)).2.2

theorem alias_kept (path : String) : Kept (packageAlias path) := by
  unfold packageAlias Kept
  dsimp only
  rw [String.toList_ofList]
  exact fun c member => List.of_mem_filter member

theorem clause_name_iff (path : String) :
    IsPackageName (packageClause path) ↔ Fit (packageClause path) := by
  rw [is_package_name_iff (clause_kept path)]
  exact and_iff_right (Identifier.packageClause_ne_empty path)

/-- A number behind a name of a package leaves one, as no keyword ends in a digit. -/
theorem candidate_package_name {base : String} (named : IsPackageName base) (count : Nat) :
    IsPackageName (Imports.candidate base count) := by
  cases count with
  | zero => exact named
  | succ count =>
      have undigited : ∀ word ∈ "_" :: keywords,
          word.toList.getLast?.any Text.isAsciiDigit = false := by decide
      have apart : Imports.candidate base (count + 1) ∉ "_" :: keywords := by
        intro listed
        have last := undigited _ listed
        rw [Imports.candidate_ends] at last
        cases last
      rw [List.mem_cons, not_or] at apart
      exact ⟨named.identifier.append (number_plain _).word, apart.1, apart.2⟩

/-- The packages that generated programs use by themselves have such names. -/
theorem generated_names : ∀ path ∈ Package.generated,
    IsPackageName (Imports.baseAlias Package.aliases path) := by
  have fit : ∀ path ∈ Package.generated,
      Kept (Imports.baseAlias Package.aliases path) ∧
        Imports.baseAlias Package.aliases path ≠ "" ∧
        Fit (Imports.baseAlias Package.aliases path) := by
    unfold Kept
    decide
  intro path listed
  obtain ⟨kept, given, fit⟩ := fit path listed
  exact (is_package_name_iff kept).mpr ⟨given, fit⟩

theorem foreign_base {path : String} (foreign : path ∉ Package.generated) :
    Imports.baseAlias Package.aliases path = packageAlias path := by
  have within : [Package.chi, Package.validation] ⊆ Package.generated := by decide
  have own : path ∉ [Package.chi, Package.validation] := fun listed => foreign (within listed)
  simp only [List.mem_cons, List.not_mem_nil, or_false, not_or] at own
  unfold Imports.baseAlias Package.aliases
  simp [List.lookup_cons, beq_eq_false_iff_ne.mpr own.1, beq_eq_false_iff_ne.mpr own.2]

/-- All aliases of a file are names of packages iff the last segments of the paths are, as far as
these do not come from generated programs themselves. -/
theorem aliases_named_iff (scope : Source.Scope) (mentions : List Source.Fragment) :
    (∀ name ∈ Registry.values (Source.importsOf Package.aliases scope mentions),
        IsPackageName name) ↔
      ∀ path ∈ Registry.keys (Source.importsOf Package.aliases scope mentions),
        path ∉ Package.generated → packageAlias path ≠ "" ∧ Fit (packageAlias path) := by
  have named := Source.imports_of_named Package.aliases scope mentions
  constructor
  · intro legal path imported foreign
    have base := legal _ (named.bases path imported)
    rw [foreign_base foreign] at base
    exact (is_package_name_iff (alias_kept path)).mp base
  · intro fit name listed
    obtain ⟨entry, member, rfl⟩ := List.mem_map.mp listed
    obtain ⟨count, candidate⟩ := named.candidates entry member
    rw [candidate]
    apply candidate_package_name
    by_cases own : entry.1 ∈ Package.generated
    · exact generated_names entry.1 own
    · rw [foreign_base own, is_package_name_iff (alias_kept entry.1)]
      exact fit entry.1 (List.mem_map_of_mem member) own

end ApiScaffold.Go

namespace ApiScaffold.Server

open Blueprint Go Source
open Identifier (packageClause packageAlias)

/-- The names of packages in both files of a program: in their clauses, and of their imports. -/
structure PackagesNamed (program : Program) : Prop where
  components : IsPackageName program.config.componentsPackageName
  router : IsPackageName program.config.routerPackageName
  imports : ∀ file ∈ fileParts program,
    ∀ name ∈ Registry.values (importsOf Package.aliases file.1 file.2.mentions), IsPackageName name

/-- The names of packages in both files are right iff the clauses, and what the aliases are made of
for packages that come with the document or the configuration, start with no digit and are neither a
lone underscore nor a keyword, and no such alias is empty. -/
theorem packages_named_iff (program : Program) : PackagesNamed program ↔
    Fit (packageClause program.config.componentsHome) ∧
      Fit (packageClause program.config.package) ∧
      ∀ file ∈ fileParts program,
        ∀ path ∈ Registry.keys (importsOf Package.aliases file.1 file.2.mentions),
          path ∉ Package.generated → packageAlias path ≠ "" ∧ Fit (packageAlias path) := by
  have imports := forall_congr' fun file : Scope × Part => imp_congr_right
    fun _ : file ∈ fileParts program => aliases_named_iff file.1 file.2.mentions
  rw [← clause_name_iff, ← clause_name_iff, ← imports]
  constructor
  · intro named
    exact ⟨named.components, named.router, named.imports⟩
  · rintro ⟨components, router, imports⟩
    exact ⟨components, router, imports⟩

def atlas : OpenApi.Document where
  specification := {
    openapi := "3.0.0"
    components := { schemas := [("place", .object {
      type := some (.single "object")
      properties := [("position", .object {
        type := some (.single "string")
        extensions := [("x-go-type", .string "example.com/3d.Point")] })] })] } }
  raw := .null

theorem atlas_packages_unnamed :
    ∃ program artifacts,
      (compile atlas { package := "example.com/type", path := "" }).1 = .ok program ∧
      Artifact.all program = .ok artifacts ∧ program.config.routerPackageName = "type" ∧
      (importsOf Package.aliases (Artifact.componentsScope program.config)
        (componentsPart program).mentions).localName "example.com/3d" = "3d" ∧
      ¬ PackagesNamed program := by
  have holds : (compileShort atlas { package := "example.com/type", path := "" }).any
      fun program =>
        let imports := importsOf Package.aliases (Artifact.componentsScope program.config)
          (componentsPart program).mentions
        decide (program.config.routerPackageName = "type") &&
          decide (imports.localName "example.com/3d" = "3d") &&
          (Registry.keys imports).contains "example.com/3d" &&
          decide ((componentsPart program).taken ++ (routerPart program).taken).Nodup := by
    decide +kernel
  obtain ⟨program, result, holds⟩ := compiled_of_short holds
  simp only [Bool.and_eq_true, List.contains_iff_mem, decide_eq_true_eq] at holds
  obtain ⟨⟨⟨clause, name⟩, imported⟩, distinct⟩ := holds
  obtain ⟨artifacts, emitted⟩ := Artifact.succeeds_of_distinct distinct
  refine ⟨program, artifacts, result, emitted, clause, name, fun named => ?_⟩
  obtain ⟨_, _, aliases⟩ := (packages_named_iff program).mp named
  have fit := aliases _ List.mem_cons_self "example.com/3d" imported (by decide)
  exact absurd fit.2 (by decide)

end ApiScaffold.Server
