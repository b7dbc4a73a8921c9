import ApiScaffold.Text.Blank
import ApiScaffold.Text.Case
import ApiScaffold.Text.Pieces

/-!
Names of packages, cut from their import paths: the name in a package clause, and the alias under
which a package is imported.
-/

namespace ApiScaffold.Identifier

def isPackageChar (c : Char) : Bool := Text.isAsciiAlphanumeric c || c == '_'

/-- The name of a package in its clause: the last segment of its path in lower case. -/
def packageClause (path : String) : String :=
  let segment := Text.lastPiece (· == '/') (Text.dropWhileEnd (· == '/') path.toList)
  let name := (segment.filter isPackageChar).map Text.asciiLower
  if name.isEmpty then "generated" else String.ofList name

theorem packageClause_ne_empty (path : String) : packageClause path ≠ "" := by
  simp only [packageClause]
  split
  · decide
  · rename_i filled
    intro empty
    apply filled
    have := congrArg String.toList empty
    simpa using this

/-- A segment such as `v5`. -/
def isMajorVersion : List Char → Bool
  | 'v' :: digit :: digits => (digit :: digits).all Text.isAsciiDigit
  | _ => false

/-- The alias of a package: the last segment of its path that is not a major version. -/
def packageAlias (path : String) : String :=
  let segments := (Text.splitWhere (· == '/') path.toList).reverse
  let chosen :=
    match segments with
    | last :: before :: _ => if isMajorVersion last then before else last
    | segments => segments.flatten
  String.ofList (chosen.filter isPackageChar)

example : packageAlias "github.com/go-chi/chi/v5" = "chi" := by decide

end ApiScaffold.Identifier
