import ApiScaffold.Source.Imports

/-!
Code whose names are still apart from its text. Only where a file is written does a name of another
package get the alias of that package, so what a piece of code refers to can be told from it.
-/

namespace ApiScaffold.Source

inductive Fragment where
  | text (content : String)
  /-- A name that the same file declares. -/
  | own (name : String)
  /-- A name among the components. -/
  | component (name : String)
  /-- A name of another package, always behind an alias. -/
  | imported (path name : String)
  /-- A name of a package, bare inside of that package. -/
  | qualified (path name : String)
deriving DecidableEq, Repr

abbrev Code := List Fragment

instance : Coe String Fragment := ⟨Fragment.text⟩

instance : Coe String Code := ⟨fun content => [Fragment.text content]⟩

instance : Coe Fragment Code := ⟨fun fragment => [fragment]⟩

def code (pieces : List Code) : Code := pieces.flatten

/-- Pieces of code with `separator` between them. -/
def separated (separator : String) (pieces : List Code) : Code :=
  (pieces.intersperse [Fragment.text separator]).flatten

/-- Where code stands: the path of its package, and the path of the components unless they are in
the same package. -/
structure Scope where
  package : String
  components : Option String := none
deriving DecidableEq, Repr

namespace Fragment

def importPath? (scope : Scope) : Fragment → Option String
  | text _ => none
  | own _ => none
  | component _ => scope.components.filter (· != scope.package)
  | imported path _ => some path
  | qualified path _ => if path = scope.package then none else some path

/-- The fragment without what stands before a name. -/
def bare : Fragment → String
  | text content => content
  | own name => name
  | component name => name
  | imported _ name => name
  | qualified _ name => name

def spelled (scope : Scope) (imports : Imports) (fragment : Fragment) : String :=
  match fragment.importPath? scope with
  | some path => imports.localName path ++ "." ++ fragment.bare
  | none => fragment.bare

end Fragment

namespace Code

def spelled (scope : Scope) (imports : Imports) (code : Code) : String :=
  String.join (code.map (Fragment.spelled scope imports))

end Code

/-- The imports for what is mentioned, in the order of the mentions. -/
def importsOf (known : List (String × String)) (scope : Scope) (mentions : List Fragment) :
    Imports :=
  (mentions.filterMap (Fragment.importPath? scope)).foldl (Imports.add known) []

end ApiScaffold.Source
