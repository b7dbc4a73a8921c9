import ApiScaffold.Registry
import ApiScaffold.Identifier.Package

/-!
The packages that a file imports, each under an alias of its own. A path keeps the alias that it got
first; an alias that is taken gets a number behind it.
-/

namespace ApiScaffold.Source

/-- The alias of every imported path, in the order of the paths. -/
abbrev Imports := Registry String

namespace Imports

/-- The names that a path can have: the base alone, then with 2, 3 and so on. -/
def candidate (base : String) : Nat → String
  | 0 => base
  | count + 1 => base ++ toString (count + 2)

/-- The first candidate that is not taken. There is one, as there are more candidates than taken
names. -/
def freeAlias (taken : List String) (base : String) : String :=
  (((List.range (taken.length + 1)).map (candidate base)).find? (!taken.contains ·)).getD base

/-- The alias that a path would have if it were free. -/
def baseAlias (known : List (String × String)) (path : String) : String :=
  (known.lookup path).getD (Identifier.packageAlias path)

/-- Imports a path; `known` are packages whose names do not follow from their paths. -/
def add (known : List (String × String)) (imports : Imports) (path : String) : Imports :=
  match imports.find? path with
  | some _ => imports
  | none => imports.insert path (freeAlias imports.values (baseAlias known path))

def localName (imports : Imports) (path : String) : String := (imports.find? path).getD ""

inductive Query where
  /-- The alias of a package. -/
  | package (path : String)
  /-- A name of a package. -/
  | name (path name : String)
deriving DecidableEq, Repr

/-- Answers a query in a text of the package `home`, whose own names are bare. -/
def answer (known : List (String × String)) (home : Option String) (imports : Imports) :
    Query → Imports × String
  | .package path =>
    let imports := add known imports path
    (imports, imports.localName path)
  | .name path name =>
    if home = some path then (imports, name)
    else
      let imports := add known imports path
      (imports, imports.localName path ++ "." ++ name)

/-- The imports after queries, asked one after another. -/
def after (known : List (String × String)) (home : Option String) (imports : Imports)
    (queries : List Query) : Imports :=
  queries.foldl (fun imports query => (answer known home imports query).1) imports

theorem add_of_find? {known : List (String × String)} {imports : Imports} {path localName : String}
    (present : imports.find? path = some localName) : add known imports path = imports := by
  simp [add, present]

theorem find?_add_of_ne (known : List (String × String)) (imports : Imports) {path other : String}
    (differs : other ≠ path) : (add known imports path).find? other = imports.find? other := by
  unfold add
  split
  · rfl
  · exact Registry.find?_insert_of_ne _ imports differs

end Imports

end ApiScaffold.Source
