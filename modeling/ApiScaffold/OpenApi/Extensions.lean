import ApiScaffold.Diagnostic.Problem
import ApiScaffold.Identifier.Qualified
import ApiScaffold.Json.Basic
import ApiScaffold.Pattern.Reader
import ApiScaffold.Text.Blank

/-!
The vendor extensions that steer what is generated. Each takes exactly one shape of value; anything
else stops the run, and extensions of other names are left alone.
-/

namespace ApiScaffold.OpenApi

structure Extensions where
  goType : Option QualifiedName := none
  mapType : Option String := none
  stringParse : Option QualifiedName := none
  pointer : Bool := false
  regex : Option String := none
  trimmable : Bool := false
  omitEmpty : Bool := false
  skipValidation : Bool := false
  skipSecurityCheck : Bool := false
deriving DecidableEq, Repr

def checkPattern (pattern location : String) : Except Diagnostic Unit :=
  if Pattern.isValid pattern then .ok () else .error ((Problem.invalidPattern pattern).report location)

namespace Extensions

def flag (location key : String) : Json → Except Diagnostic Bool
  | .bool value => .ok value
  | other => .error ((ExtensionProblem.notFlag other.kind).report location key)

def text (location key : String) : Json → Except Diagnostic String
  | .string value =>
    if (Text.trimChars value.toList).isEmpty then .error (ExtensionProblem.blank.report location key)
    else .ok value
  | other => .error ((ExtensionProblem.notText other.kind).report location key)

def qualified (location key : String) (value : Json) : Except Diagnostic QualifiedName := do
  let written ← text location key value
  match QualifiedName.parse? written with
  | some name => return name
  | none => throw ((ExtensionProblem.notQualified written).report location key)

def readMember (location : String) (extensions : Extensions) (key : String) (value : Json) :
    Except Diagnostic Extensions :=
  match key with
  | "x-go-type" => do
    return { extensions with goType := some (← qualified location key value) }
  | "x-go-map-type" => do
    return { extensions with mapType := some (← text location key value) }
  | "x-go-type-string-parse" => do
    return { extensions with stringParse := some (← qualified location key value) }
  | "x-go-pointer" => do
    return { extensions with pointer := ← flag location key value }
  | "x-go-regex" => do
    let pattern ← text location key value
    checkPattern pattern s!"{location}/{key}"
    return { extensions with regex := some pattern }
  | "x-go-string-trimmable" => do
    return { extensions with trimmable := ← flag location key value }
  | "x-go-omitempty" => do
    return { extensions with omitEmpty := ← flag location key value }
  | "x-go-skip-validation" => do
    return { extensions with skipValidation := ← flag location key value }
  | "x-go-skip-security-check" => do
    return { extensions with skipSecurityCheck := ← flag location key value }
  | _ => .ok extensions

def read (members : List (String × Json)) (location : String) : Except Diagnostic Extensions :=
  members.foldlM (fun extensions member => readMember location extensions member.1 member.2) {}

theorem read_nil (location : String) : read [] location = .ok {} := rfl

end Extensions

end ApiScaffold.OpenApi
