import ApiScaffold.Diagnostic.Basic
import ApiScaffold.OpenApi.Decode.Specification
import ApiScaffold.Yaml.Value

/-!
Documents: a value together with the specification that was read from it. Every document says which
version of the format it follows; the third one is read.
-/

namespace ApiScaffold.OpenApi

structure Document where
  specification : Specification
  raw : Json

namespace Document

/-- A version that was written as a number becomes a text. -/
def normaliseVersion : Json → Json
  | .object members =>
    match members.lookup "openapi" with
    | some (.number version) => .object (Json.setMember "openapi" (.string version.write) members)
    | _ => .object members
  | other => other

def missingVersion (raw : Json) (source : String) : Diagnostic :=
  let diagnostic :=
    (Diagnostic.loadFailed source "document has no `openapi` version field").withExpected "3.x"
  if (raw.member? "swagger").isSome then
    (diagnostic.withReceived "swagger 2.0").withHint "convert the document to OpenAPI 3 first"
  else
    diagnostic

/-- The document of a value that was found at `source`. -/
def ofValue (value : Json) (source : String) : Except Diagnostic Document :=
  let raw := normaliseVersion value
  match (raw.member? "openapi").bind Json.string? with
  | none => .error (missingVersion raw source)
  | some version =>
    if Text.startsWith "3." version then
      match Decode.specification raw with
      | .ok specification => .ok { specification, raw }
      | .error reason =>
        .error ((Diagnostic.loadFailed source
          "document does not match the OpenAPI 3 structure").withSource (.mismatch reason))
    else
      .error ((Diagnostic.loadFailed source
        s!"unsupported OpenAPI version `{version}`").withExpected "3.x")

/-- The document of a text, which is YAML, of which JSON is a part. -/
def ofText (text source : String) : Except Diagnostic Document :=
  match Yaml.read? text with
  | some value => ofValue value source
  | none =>
    .error ((Diagnostic.loadFailed source
      "document is neither valid YAML nor JSON").withSource .document)

def canonicalText (document : Document) : String := document.raw.canonical.compact

end Document

end ApiScaffold.OpenApi
