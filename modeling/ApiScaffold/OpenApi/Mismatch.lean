import ApiScaffold.Json.Printer

/-!
The ways in which a value does not fit the model of a document, each with the message that tells
the author.
-/

namespace ApiScaffold.OpenApi

inductive Expected where
  | text
  | flag
  | list
  | map
  | unsigned
  | decimal
  | unit
  | choice
  | variantName
  | singleKey
  | record (name : String)
  | tagged (name : String)
  | elements (owner : String) (count : Nat)
  | fewerElements
  | elementsInSequence (count : Nat)
deriving DecidableEq, Repr

namespace Expected

def counted (count : Nat) : String :=
  toString count ++ if count = 1 then " element" else " elements"

def message : Expected → String
  | text => "a string"
  | flag => "a boolean"
  | list => "a sequence"
  | map => "a map"
  | unsigned => "u64"
  | decimal => "f64"
  | unit => "unit"
  | choice => "string or map"
  | variantName => "variant identifier"
  | singleKey => "map with a single key"
  | record name => s!"struct {name}"
  | tagged name => s!"internally tagged enum {name}"
  | elements owner count => s!"{owner} with {counted count}"
  | fewerElements => "fewer elements in array"
  | elementsInSequence count => s!"{counted count} in sequence"

end Expected

inductive Mismatch where
  | missingField (name : String)
  | wrongType (found : Json) (expected : Expected)
  | wrongValue (found : Json) (expected : Expected)
  | wrongLength (length : Nat) (expected : Expected)
  | unknownVariant (found : String) (known : List String)
  | noVariant (type : String)
  | invalidReference (found : Json)
  | pathsNotObject (found : Json)
  | responsesNotObject
  | inPath (key : String) (reason : Mismatch)
  | inResponse (key : String) (reason : Mismatch)
deriving Repr

namespace Mismatch

def describe : Json → String
  | .null => "null"
  | .bool true => "boolean `true`"
  | .bool false => "boolean `false`"
  | .number (.integer value) => s!"integer `{value}`"
  | .number (.double value) => s!"floating point `{value.write Binary64.documentForm}`"
  | .string value => s!"string {Text.Quoted.quote value}"
  | .array _ => "sequence"
  | .object _ => "map"

def message : Mismatch → String
  | missingField name => s!"missing field `{name}`"
  | wrongType found expected => s!"invalid type: {describe found}, expected {expected.message}"
  | wrongValue found expected => s!"invalid value: {describe found}, expected {expected.message}"
  | wrongLength length expected => s!"invalid length {length}, expected {expected.message}"
  | unknownVariant found known =>
    let names := ", ".intercalate (known.map fun name => s!"`{name}`")
    s!"unknown variant `{found}`, expected one of {names}"
  | noVariant type => s!"data did not match any variant of untagged enum {type}"
  | invalidReference found => s!"invalid reference `Some({found.annotated})`"
  | pathsNotObject found => s!"invalid object for paths `{found.annotated}`"
  | responsesNotObject => "invalid type for responses object"
  | inPath key reason => s!"path `{key}`: {message reason}"
  | inResponse key reason => s!"response `{key}`: {message reason}"

end Mismatch

end ApiScaffold.OpenApi
