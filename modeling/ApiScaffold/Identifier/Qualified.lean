import ApiScaffold.Text.Blank
import ApiScaffold.Text.Pieces

/-!
Names of types and functions, bare or with the import path of their package. The written form puts
one dot between the package and the name, in the last segment of the path.
-/

namespace ApiScaffold

structure QualifiedName where
  package : Option String
  name : String
deriving DecidableEq, Repr

namespace QualifiedName

def ofChars (package : Option (List Char)) (name : List Char) : QualifiedName :=
  ⟨package.map String.ofList, String.ofList name⟩

/-- Reads the last segment of a written name, where `directory` is all before it. -/
def parseTail? (directory tail : List Char) : Option QualifiedName :=
  let package := Text.firstPiece (· == '.') tail
  match tail.drop package.length with
  | [] =>
    if directory.isEmpty && !tail.isEmpty then some (ofChars none tail) else none
  | _ :: name =>
    if package.isEmpty || name.isEmpty || name.contains '.' then none
    else some (ofChars (some (directory ++ package)) name)

/-- Reads a written name; blanks around it do not count. -/
def parse? (text : String) : Option QualifiedName :=
  let cut := Text.cutAfterLast '/' (Text.trimChars text.toList)
  parseTail? cut.1 cut.2

def display (name : QualifiedName) : String :=
  match name.package with
  | some package => package ++ "." ++ name.name
  | none => name.name

end QualifiedName

end ApiScaffold
