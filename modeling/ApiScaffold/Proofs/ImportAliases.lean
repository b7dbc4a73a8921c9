import ApiScaffold.Proofs.Numerals
import ApiScaffold.Proofs.Reference
import Mathlib.Data.List.Nodup
import Mathlib.Data.List.Perm.Subperm

/-!
Aliases of imports. The names that a path can have are all different, so among more of them than
there are taken names one is free, and the search for it ends. Whatever is asked for, in whatever
order, no two paths share an alias and each path stays with the one that it got first.
-/

namespace ApiScaffold.Source

namespace Imports

/-- Names are compared with the taken ones, from the given candidate on, until one is free. The
second number counts the names that were compared. -/
inductive Search (taken : List String) (base : String) : Nat → Nat → String → Prop where
  | found {count : Nat} (free : candidate base count ∉ taken) :
      Search taken base count 1 (candidate base count)
  | onward {count tried : Nat} {name : String} (occupied : candidate base count ∈ taken)
      (further : Search taken base (count + 1) tried name) :
      Search taken base count (tried + 1) name

section Candidates

variable {taken : List String} {base : String}

theorem Search.free {count tried : Nat} {name : String}
    (search : Search taken base count tried name) : name ∉ taken := by
  induction search with
  | found free => exact free
  | onward _ _ induction => exact induction

/-- All candidates before the first free one are compared. -/
theorem Search.of_first {first : Nat} (free : candidate base first ∉ taken)
    (occupied : ∀ earlier < first, candidate base earlier ∈ taken) (remaining : Nat) :
    ∀ count, count + remaining = first →
      Search taken base count (remaining + 1) (candidate base first) := by
  induction remaining with
  | zero =>
      intro count here
      obtain rfl : count = first := here
      exact .found free
  | succ remaining induction =>
      intro count there
      exact .onward (occupied count (by omega)) (induction (count + 1) (by omega))

theorem candidate_ends (base : String) (count : Nat) :
    (candidate base (count + 1)).toList.getLast?.any Text.isAsciiDigit = true := by
  have digits : (toString (count + 2)).toList ≠ [] := by
    simp [Nat.toDigits_ne_nil]
  rw [candidate, String.toList_append, List.getLast?_append_of_ne_nil _ digits,
    List.getLast?_eq_some_getLast digits, Option.any_some]
  exact Identifier.number_digits (List.getLast_mem digits)

theorem candidate_injective (base : String) : Function.Injective (candidate base) := by
  have numbered (count : Nat) : base ≠ base ++ toString (count + 2) := by
    intro same
    have lengths := congrArg String.length same
    have digits : 0 < (toString (count + 2)).length := by
      rw [← String.length_toList, List.length_pos_iff]
      simp [Nat.toDigits_ne_nil]
    rw [String.length_append] at lengths
    omega
  intro count other same
  cases count with
  | zero =>
      cases other with
      | zero => rfl
      | succ other => exact absurd same (numbered other)
  | succ count =>
      cases other with
      | zero => exact absurd same.symm (numbered count)
      | succ other =>
          have digits := (String.append_right_inj base).mp same
          have numbers := nat_repr_injective digits
          omega

/-- Distinct candidates that are taken are no more than the taken names. -/
theorem occupied_few {bound : Nat} (occupied : ∀ count < bound, candidate base count ∈ taken) :
    bound ≤ taken.length := by
  have distinct : ((List.range bound).map (candidate base)).Nodup :=
    List.nodup_range.map (candidate_injective base)
  have within : (List.range bound).map (candidate base) ⊆ taken := by
    intro name member
    obtain ⟨count, listed, rfl⟩ := List.mem_map.mp member
    exact occupied count (List.mem_range.mp listed)
  have fewer := (distinct.subperm within).length_le
  rwa [List.length_map, List.length_range] at fewer

/-- What is chosen is what the search comes to, and it compares at most one name more than are
taken. -/
theorem free_alias_searched (taken : List String) (base : String) :
    ∃ tried ≤ taken.length + 1, Search taken base 0 tried (freeAlias taken base) := by
  rw [freeAlias, List.find?_map]
  cases found : (List.range (taken.length + 1)).find? ((!taken.contains ·) ∘ candidate base) with
  | none =>
      have occupied : ∀ count < taken.length + 1, candidate base count ∈ taken := by
        intro count below
        simpa using List.find?_eq_none.mp found count (List.mem_range.mpr below)
      have few := occupied_few occupied
      omega
  | some first =>
      obtain ⟨free, listed, earlier⟩ := List.find?_range_eq_some.mp found
      have occupied : ∀ count < first, candidate base count ∈ taken := by
        intro count below
        simpa using earlier count below
      have bound := List.mem_range.mp listed
      have unused : candidate base first ∉ taken := by simpa using free
      exact ⟨first + 1, bound, .of_first unused occupied first 0 (Nat.zero_add first)⟩

/-- A search ends at the name that it begins with, or it passes it as taken. -/
theorem Search.cases {count tried : Nat} {name : String}
    (search : Search taken base count tried name) :
    name = candidate base count ∨ candidate base count ∈ taken := by
  cases search with
  | found _ => exact .inl rfl
  | onward occupied _ => exact .inr occupied

theorem Search.candidate {count tried : Nat} {name : String}
    (search : Search taken base count tried name) : ∃ later, name = candidate base later := by
  induction search with
  | @found count _ => exact ⟨count, rfl⟩
  | onward _ _ induction => exact induction

theorem free_alias_free (taken : List String) (base : String) : freeAlias taken base ∉ taken := by
  obtain ⟨_, _, search⟩ := free_alias_searched taken base
  exact search.free

end Candidates

def Query.imported? (home : Option String) : Query → Option String
  | .package path => some path
  | .name path _ => if home = some path then none else some path

section Queries

variable (known : List (String × String)) (home : Option String)

theorem answer_imports (imports : Imports) (query : Query) :
    (answer known home imports query).1 =
      (query.imported? home).elim imports (add known imports) := by
  cases query with
  | package path => rfl
  | name path name =>
      rw [answer, Query.imported?]
      split <;> rfl

theorem after_eq_foldl (queries : List Query) : ∀ imports, after known home imports queries =
    (queries.filterMap (Query.imported? home)).foldl (add known) imports := by
  induction queries with
  | nil => exact fun _ => rfl
  | cons query rest induction =>
      intro imports
      have step : after known home imports (query :: rest) =
          after known home (answer known home imports query).1 rest := rfl
      rw [step, induction, answer_imports, List.filterMap_cons]
      cases query.imported? home <;> rfl

theorem after_append (imports : Imports) (queries more : List Query) :
    after known home imports (queries ++ more) =
      after known home (after known home imports queries) more :=
  List.foldl_append

/-- What is kept whenever a path is imported is kept by all queries. -/
theorem after_keeps (holds : Imports → Prop)
    (step : ∀ imports path, holds imports → holds (add known imports path))
    {imports : Imports} (start : holds imports) (queries : List Query) :
    holds (after known home imports queries) := by
  rw [after_eq_foldl]
  exact List.foldlRecOn _ _ start fun imports kept path _ => step imports path kept

theorem values_nodup_add {imports : Imports} (path : String)
    (distinct : (Registry.values imports).Nodup) :
    (Registry.values (add known imports path)).Nodup := by
  unfold add
  split
  case h_1 => exact distinct
  case h_2 unknown =>
    have free := free_alias_free (Registry.values imports) (baseAlias known path)
    have entries := Registry.insert_perm
      (freeAlias (Registry.values imports) (baseAlias known path))
      ((Registry.find?_eq_none_iff imports path).mp unknown)
    have values := entries.map Prod.snd
    exact values.nodup_iff.mpr (List.nodup_cons.mpr ⟨free, distinct⟩)

/-- A path that is imported stays so, under its alias. -/
theorem find?_after {imports : Imports} {path name : String}
    (present : imports.find? path = some name) (queries : List Query) :
    Registry.find? (after known home imports queries) path = some name := by
  refine after_keeps known home (fun imports => imports.find? path = some name)
    (fun imports next present => ?_) present queries
  by_cases same : path = next
  · rw [← same, add_of_find? present]
    exact present
  · rw [find?_add_of_ne known imports same]
    exact present

theorem find?_add_self (imports : Imports) (path : String) :
    Registry.find? (add known imports path) path =
      some ((add known imports path).localName path) := by
  have listed : path ∈ Registry.keys (add known imports path) := mem_keys_add.mpr (.inl rfl)
  obtain ⟨name, found⟩ := Option.isSome_iff_exists.mp ((Registry.find?_is_some_iff _ _).mpr listed)
  rw [localName, found]
  rfl

/-- The package that is written is imported only if its own alias is asked for. -/
theorem home_asked {path : String} (local' : home = some path) {queries : List Query}
    (listed : path ∈ Registry.keys (after known home [] queries)) : .package path ∈ queries := by
  rw [after_eq_foldl, mem_keys_collected] at listed
  obtain ⟨query, asked, imported⟩ :=
    List.mem_filterMap.mp (listed.resolve_right List.not_mem_nil)
  cases query with
  | package other =>
      obtain rfl : other = path := Option.some.inj imported
      exact asked
  | name other name =>
      rw [Query.imported?] at imported
      split at imported
      case isTrue => cases imported
      case isFalse foreign =>
        obtain rfl : other = path := Option.some.inj imported
        exact absurd local' foreign

/-- What aliases have to do with paths: each is a name that its path can have, and the name that a
path would have if it were free is an alias in any case. -/
structure Named (imports : Imports) : Prop where
  candidates : ∀ entry ∈ imports, ∃ count, entry.2 = candidate (baseAlias known entry.1) count
  bases : ∀ path ∈ Registry.keys imports, baseAlias known path ∈ Registry.values imports

theorem Named.add {imports : Imports} (named : Named known imports) (path : String) :
    Named known (add known imports path) := by
  cases present : imports.find? path with
  | some name =>
      rw [add_of_find? present]
      exact named
  | none =>
      obtain ⟨_, _, search⟩ :=
        free_alias_searched (Registry.values imports) (baseAlias known path)
      have entries := Registry.insert_perm
        (freeAlias (Registry.values imports) (baseAlias known path))
        ((Registry.find?_eq_none_iff imports path).mp present)
      have values := entries.map Prod.snd
      have added : Imports.add known imports path = Registry.insert path
          (freeAlias (Registry.values imports) (baseAlias known path)) imports := by
        rw [Imports.add, present]
      rw [added]
      constructor
      · intro entry listed
        rcases Registry.mem_insert listed with rfl | earlier
        · exact search.candidate
        · exact named.candidates entry earlier
      · intro other listed
        apply values.mem_iff.mpr
        rcases Registry.mem_keys_insert.mp listed with rfl | earlier
        · rcases search.cases with same | occupied
          · exact same ▸ List.mem_cons_self
          · exact List.mem_cons_of_mem _ occupied
        · exact List.mem_cons_of_mem _ (named.bases other earlier)

theorem qualified_ne (front name : String) : front ++ "." ++ name ≠ name := by
  intro same
  have lengths := congrArg String.length same
  rw [String.length_append, String.length_append] at lengths
  have point : ".".length = 1 := by decide
  omega

end Queries

/-- What is true of the imports after queries in a fresh text. -/
structure Unambiguous (known : List (String × String)) (home : Option String)
    (queries : List Query) : Prop where
  /-- No two paths share an alias. -/
  distinct : (Registry.values (after known home [] queries)).Nodup
  /-- Asked for the alias of a package, the answer is the alias that stays in the table. -/
  told : ∀ path more,
    Registry.find? (after known home [] (queries ++ .package path :: more)) path =
      some (answer known home (after known home [] queries) (.package path)).2
  /-- A path keeps its alias, whatever else is asked for. -/
  kept : ∀ path name, Registry.find? (after known home [] queries) path = some name →
    ∀ more, Registry.find? (after known home [] (queries ++ more)) path = some name
  /-- The search for the alias of another path ends after at most one comparison more than there are
  imports. -/
  ends : ∀ path ∉ Registry.keys (after known home [] queries),
    ∃ tried ≤ (after known home [] queries).length + 1,
      Search (Registry.values (after known home [] queries)) (baseAlias known path) 0 tried
        (answer known home (after known home [] queries) (.package path)).2
  /-- A name is bare exactly in its own package. -/
  bare : ∀ path name,
    (answer known home (after known home [] queries) (.name path name)).2 = name ↔ home = some path
  /-- A name of the package itself imports nothing. -/
  unasked : ∀ path name, home = some path →
    (answer known home (after known home [] queries) (.name path name)).1 =
      after known home [] queries
  /-- The package itself is among the imports only if its alias is asked for. -/
  foreign : ∀ path, home = some path → path ∈ Registry.keys (after known home [] queries) →
    .package path ∈ queries

/-- Imports are unambiguous after any queries, with any table of known aliases and inside of any
package. -/
theorem aliases_unambiguous (known : List (String × String)) (home : Option String)
    (queries : List Query) : Unambiguous known home queries where
  distinct := by
    have none : (Registry.values ([] : Imports)).Nodup := List.nodup_nil
    exact after_keeps known home (fun imports => (Registry.values imports).Nodup)
      (fun _ path => values_nodup_add known path) none queries
  told path more := by
    rw [after_append]
    exact find?_after known home (find?_add_self known _ path) more
  kept path name found more := by
    rw [after_append]
    exact find?_after known home found more
  ends path unknown := by
    have missing := (Registry.find?_eq_none_iff _ path).mpr unknown
    obtain ⟨tried, few, search⟩ := free_alias_searched
      (Registry.values (after known home [] queries)) (baseAlias known path)
    refine ⟨tried, ?_, ?_⟩
    · rwa [Registry.values, List.length_map] at few
    · rw [answer]
      dsimp only
      rwa [localName, add, missing, Registry.find?_insert_self, Option.getD_some]
  bare path name := by
    rw [answer]
    split
    case isTrue local' => exact ⟨fun _ => local', fun _ => rfl⟩
    case isFalse foreign => exact ⟨fun same => absurd same (qualified_ne _ name),
      fun local' => absurd local' foreign⟩
  unasked path name local' := by rw [answer, if_pos local']
  foreign path local' listed := home_asked known home local' listed

/-- A path whose last segment is the alias that another path got with a number behind it. -/
example : Registry.values (after [] none [] [.package "a.org/chi", .package "b.org/chi",
    .package "c.org/chi2", .name "b.org/chi" "Router"]) = ["chi", "chi2", "chi22"] := by
  decide +kernel

end Imports

theorem imports_of_named (known : List (String × String)) (scope : Scope)
    (mentions : List Fragment) : Imports.Named known (importsOf known scope mentions) := by
  have none : Imports.Named known [] :=
    ⟨List.forall_mem_nil _, fun _ listed => absurd listed List.not_mem_nil⟩
  exact List.foldlRecOn _ _ none fun _ named path _ => named.add known path

/-- The alias of an imported path is one of the names that the path can have. -/
theorem local_name_candidate {known : List (String × String)} {scope : Scope} {path : String}
    {mentions : List Fragment} (imported : path ∈ Registry.keys (importsOf known scope mentions)) :
    ∃ count, (importsOf known scope mentions).localName path =
      Imports.candidate (Imports.baseAlias known path) count := by
  obtain ⟨name, found⟩ :=
    Option.isSome_iff_exists.mp ((Registry.find?_is_some_iff _ _).mpr imported)
  rw [Imports.localName, found, Option.getD_some]
  exact (imports_of_named known scope mentions).candidates _ (Registry.mem_of_find? found)

def Fragment.query? (scope : Scope) : Fragment → Option Imports.Query
  | text _ => none
  | own _ => none
  | component name => scope.components.map (.name · name)
  | imported path _ => some (.package path)
  | qualified path name => some (.name path name)

namespace Fragment

variable (known : List (String × String)) (scope : Scope)

theorem import_path_eq (fragment : Fragment) : fragment.importPath? scope =
    (fragment.query? scope).bind (Imports.Query.imported? scope.package) := by
  cases fragment with
  | text => rfl
  | own => rfl
  | imported path name => rfl
  | component name =>
      rw [importPath?, query?]
      cases scope.components with
      | none => rfl
      | some path =>
          simp only [Option.filter_some, Option.map_some, Option.bind_some,
            Imports.Query.imported?, bne_iff_ne, Option.some_inj]
          split <;> split <;> simp_all
  | qualified path name =>
      simp only [importPath?, query?, Option.bind_some, Imports.Query.imported?, Option.some_inj,
        eq_comm (a := path)]

/-- The imports of a file are those after all that its code asks for. -/
theorem imports_of_eq_after (mentions : List Fragment) : importsOf known scope mentions =
    Imports.after known scope.package [] (mentions.filterMap (query? scope)) := by
  rw [importsOf, Imports.after_eq_foldl, List.filterMap_filterMap]
  congr
  funext fragment
  exact import_path_eq scope fragment

def written (answer : String) : Fragment → String
  | imported _ name => answer ++ "." ++ name
  | _ => answer

theorem local_name_after (home : Option String) (imports : Imports) (path : String)
    (queries : List Imports.Query) :
    (Imports.after known home (Imports.add known imports path) queries).localName path =
      (Imports.add known imports path).localName path := by
  have kept := Imports.find?_after known home (Imports.find?_add_self known imports path) queries
  rw [Imports.localName, kept, Option.getD_some]

theorem spelled_name {fragment : Fragment} {path name : String}
    (asks : fragment.query? scope = some (.name path name)) (bare : fragment.bare = name)
    (imports : Imports) (queries : List Imports.Query) :
    fragment.spelled scope (Imports.after known scope.package
        (Imports.answer known scope.package imports (.name path name)).1 queries) =
      (Imports.answer known scope.package imports (.name path name)).2 := by
  rw [spelled, import_path_eq, asks, bare, Option.bind_some, Imports.Query.imported?,
    Imports.answer]
  by_cases local' : some scope.package = some path
  · rw [if_pos local', if_pos local']
  · rw [if_neg local', if_neg local']
    dsimp only
    rw [local_name_after]

/-- Code that is written once all imports are known is what it would be if each alias were asked for
just where it is written. -/
theorem spelled_answered {fragment : Fragment} {query : Imports.Query}
    (asks : fragment.query? scope = some query) (before rest : List Fragment) :
    fragment.spelled scope (importsOf known scope (before ++ fragment :: rest)) =
      fragment.written
        (Imports.answer known scope.package (importsOf known scope before) query).2 := by
  have whole : importsOf known scope (before ++ fragment :: rest) =
      Imports.after known scope.package
        (Imports.answer known scope.package (importsOf known scope before) query).1
        (rest.filterMap (query? scope)) := by
    rw [imports_of_eq_after, imports_of_eq_after, List.filterMap_append,
      List.filterMap_cons_some asks, Imports.after_append]
    rfl
  rw [whole]
  cases fragment with
  | text => cases asks
  | own => cases asks
  | imported path name =>
      obtain rfl := Option.some.inj asks
      exact congrArg (· ++ "." ++ name) (local_name_after known _ _ path _)
  | component name =>
      obtain ⟨path, _, rfl⟩ := Option.map_eq_some_iff.mp asks
      exact spelled_name known scope asks rfl _ _
  | qualified path name =>
      obtain rfl := Option.some.inj asks
      exact spelled_name known scope rfl rfl _ _

end Fragment

end ApiScaffold.Source
