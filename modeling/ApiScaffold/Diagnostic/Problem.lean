import ApiScaffold.Diagnostic.Basic

/-!
What can be wrong with a document, as causes, and the one place where each is put into words.
-/

namespace ApiScaffold

inductive Referable where
  | parameter
  | requestBody
  | response
  | header
  | securityScheme
deriving DecidableEq, Repr

namespace Referable

def noun : Referable → String
  | parameter => "parameter"
  | requestBody => "request body"
  | response => "response"
  | header => "header"
  | securityScheme => "security scheme"

end Referable

inductive Nameable where
  | schema
  | property
  | parameter
deriving DecidableEq, Repr

namespace Nameable

def noun : Nameable → String
  | schema => "schema"
  | property => "property"
  | parameter => "parameter"

end Nameable

inductive Problem where
  | nameless (what : Nameable)
  | missingSchema (reference : String)
  | foreignReference (reference expected : String)
  | unresolved (what : Referable)
  | parserWithoutType
  | unsupportedType (found : String)
  | unsupportedEnumType (found : String)
  /-- A member of an enumeration that is of another kind than the others. -/
  | foreignEnumMember (found : String) (textual : Bool)
  | emptyEnum
  | limitWithoutBound (keyword : String)
  | unexpectedLimit (keyword found : String)
  | invalidPattern (pattern : String)
  /-- A rule for texts on something else. -/
  | notText
  | notScalar (name : String) (listsAllowed custom : Bool)
  | notBinary
  | invalidStatus (found : String)
  | unsupportedHttpScheme (found : String)
  | undeclaredScheme (name : String)
  | unregistered (name : String)
deriving DecidableEq, Repr

namespace Problem

def message : Problem → String
  | nameless what => s!"{what.noun} name has no identifier characters"
  | missingSchema reference => s!"reference `{reference}` points to a missing schema"
  | foreignReference reference _ => s!"reference `{reference}` is not a local schema reference"
  | unresolved what => s!"{what.noun} reference does not resolve"
  | parserWithoutType => "`x-go-type-string-parse` requires `x-go-type`"
  | unsupportedType _ => "unsupported schema type"
  | unsupportedEnumType _ => "unsupported enum type"
  | foreignEnumMember _ _ => "enum member does not share the enum base type"
  | emptyEnum => "enum has no members"
  | limitWithoutBound keyword => s!"`{keyword}: true` has no bound to apply to"
  | unexpectedLimit keyword _ => s!"`{keyword}` has an unexpected value"
  | invalidPattern pattern => s!"invalid regular expression `{pattern}`"
  | notText => "`x-go-regex` and `x-go-string-trimmable` apply to string values only"
  | notScalar name _ _ => s!"`{name}` must be a scalar value read from a string"
  | notBinary => "octet-stream content must be a binary string"
  | invalidStatus _ => "invalid response status"
  | unsupportedHttpScheme _ => "unsupported HTTP authentication scheme"
  | undeclaredScheme name => s!"security scheme `{name}` is not declared"
  | unregistered name => s!"reference `{name}` does not resolve to a registered component"

def received : Problem → Option String
  | unsupportedType found => some found
  | unsupportedEnumType found => some found
  | foreignEnumMember found _ => some found
  | unexpectedLimit _ found => some found
  | invalidStatus found => some found
  | unsupportedHttpScheme found => some found
  | _ => none

def expected : Problem → Option String
  | foreignReference _ expected => some expected
  | unsupportedType _ => some "boolean, integer, number, string, array or object"
  | unsupportedEnumType _ => some "string or integer"
  | foreignEnumMember _ textual => some (if textual then "string" else "integer")
  | emptyEnum => some "at least one non-null member"
  | unexpectedLimit _ _ => some "boolean or number"
  | notText => some "string"
  | notScalar _ listsAllowed _ =>
    some (if listsAllowed then
      "primitive, enum, custom type with a parse function, or an array of those"
    else
      "primitive, enum or custom type with a parse function")
  | notBinary => some "type: string, format: binary"
  | invalidStatus _ => some "an HTTP status code, `1XX`..`5XX` or `default`"
  | unsupportedHttpScheme _ => some "bearer or basic"
  | _ => none

def hints : Problem → List String
  | foreignReference _ _ => ["bundle external documents into `components` first"]
  | parserWithoutType => ["declare the target type with `x-go-type`"]
  | notScalar _ _ custom =>
    if custom then ["add `x-go-type-string-parse` to convert the raw string"] else []
  | undeclaredScheme _ => ["declare it under `components/securitySchemes`"]
  | _ => []

def cause : Problem → Option Cause
  | invalidPattern _ => some .pattern
  | _ => none

/-- A dangling reference is noticed when the program is closed, everything else before. -/
def phase : Problem → Phase
  | unregistered _ => .emit
  | _ => .lower

def report (location : String) (problem : Problem) : Diagnostic :=
  { kind := .schemaInvalid
    phase := problem.phase
    message := problem.message
    location := some location
    received := problem.received
    expected := problem.expected
    hints := problem.hints
    source := problem.cause }

theorem kind_report (location : String) (problem : Problem) :
    (problem.report location).kind = .schemaInvalid := rfl

end Problem

inductive ExtensionProblem where
  | notFlag (found : String)
  | notText (found : String)
  | blank
  | notQualified (text : String)
deriving DecidableEq, Repr

namespace ExtensionProblem

def received : ExtensionProblem → String
  | notFlag found => found
  | notText found => found
  | blank => "empty string"
  | notQualified text => s!"string `{text}`"

def expected : ExtensionProblem → String
  | notFlag _ => "boolean"
  | notText _ => "string"
  | blank => "non-empty string"
  | notQualified _ => "qualified name `import/path.Name`"

def hints : ExtensionProblem → List String
  | notQualified _ => ["for example `github.com/google/uuid.UUID`"]
  | _ => []

/-- The diagnostic of a problem with the extension `key`. -/
def report (location key : String) (problem : ExtensionProblem) : Diagnostic :=
  { Diagnostic.extensionMismatch location key problem.received problem.expected with
    hints := problem.hints }

end ExtensionProblem

end ApiScaffold
