import ApiScaffold.Go.Declaration
import ApiScaffold.Go.Literal
import ApiScaffold.Go.Package
import ApiScaffold.Source.Declared

/-!
Files: declarations with the names that they take and the packages that they mention. A file is
made of parts; their order decides which of two owners of one name is first, and which of two
packages gets the plain alias.
-/

namespace ApiScaffold.Go

open Source

structure Part where
  /-- Names that are taken, each with its owner. -/
  declares : List (String × String) := []
  /-- What is mentioned, in the order in which packages get their aliases. -/
  mentions : List Fragment := []
  declarations : List Declaration := []
deriving Repr

namespace Part

def append (first second : Part) : Part :=
  { declares := first.declares ++ second.declares
    mentions := first.mentions ++ second.mentions
    declarations := first.declarations ++ second.declarations }

instance : Append Part := ⟨append⟩

def join (parts : List Part) : Part := parts.foldr append {}

def introduces (part : Part) : List String :=
  part.declarations.flatMap (·.form.introduces)

def layouts (part : Part) : List Layout := part.declarations.flatMap Declaration.layout

theorem declares_append (first second : Part) :
    (first ++ second).declares = first.declares ++ second.declares := rfl

theorem introduces_append (first second : Part) :
    (first ++ second).introduces = first.introduces ++ second.introduces :=
  List.flatMap_append

end Part

namespace File

def header : String := "// Code generated by oas3-servergen. DO NOT EDIT."

def indentation : String := "\t"

/-- The line that imports a path; the alias is left out where the path ends in it. -/
def importLine (path localName : String) : String :=
  if Text.lastSegment '/' path = localName then s!"\t{quote path}\n"
  else s!"\t{localName} {quote path}\n"

def importGroup (imports : List (String × String)) : String :=
  String.join (imports.map fun (path, localName) => importLine path localName)

/-- The imports, those of the language's own packages first. -/
def importClause (imports : Imports) : String :=
  let groups := [
    importGroup (imports.filter fun (path, _) => Package.isStandard path),
    importGroup (imports.filter fun (path, _) => !Package.isStandard path)]
  match groups.filter (!·.isEmpty) with
  | [] => ""
  | filled => "\nimport (\n" ++ String.intercalate "\n" filled ++ ")\n"

/-- A whole file: header, package clause, imports and declarations. -/
def write (package : String) (scope : Scope) (part : Part) : String :=
  let imports := importsOf Package.aliases scope part.mentions
  let body := Layout.writeAll (Code.spelled scope imports) part.layouts { unit := indentation }
  s!"{header}\n\npackage {package}\n{importClause imports}\n{body.body}"

end File

end ApiScaffold.Go
