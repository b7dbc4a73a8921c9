import ApiScaffold.Text.Blank
import ApiScaffold.Text.Pieces

/-!
Comments on declarations. The first line starts with the name of what is declared.
-/

namespace ApiScaffold.Go

def commentLine (line : String) : String := if line.isEmpty then "//" else "// " ++ line

/-- The lines of a comment on `name`; a blank text is no comment. -/
def commentOn (name : String) (text : Option String) : List String :=
  match text with
  | some text =>
    match Text.lines (Text.trim text) with
    | [] => []
    | first :: others => (name ++ " " ++ Text.trim first) :: others.map Text.trim
  | none => []

end ApiScaffold.Go
