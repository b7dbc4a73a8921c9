import ApiScaffold.Server.Optional

/-!
What every generated program declares about failures: the errors of fields and enumerations, and the
outcome of processing a request.
-/

namespace ApiScaffold.Server

open Go Source

def errorType (name comment : String) (members : List Entry) (message : Code) :
    List Declaration := [
  { comment := [comment], form := .struct name "" [{ members }] },
  { form := .method { name := "e", type := name } "Error" "() string" [
      .give [code [Fragment.imported Package.fmt "Sprintf", "(", message, ")"]]] }]

namespace Outcome

def errors : List Declaration :=
  errorType "RequiredFieldMissingError"
    "RequiredFieldMissingError reports a required field absent from the payload."
    [⟨"Field", ["string"]⟩] "\"required field %q is missing\", e.Field" ++
  errorType "RequiredFieldNullError"
    "RequiredFieldNullError reports a required field set to null."
    [⟨"Field", ["string"]⟩] "\"required field %q must not be null\", e.Field" ++
  errorType "InvalidEnumValueError"
    "InvalidEnumValueError reports a value outside of an enumeration."
    [⟨"Type", ["string"]⟩, ⟨"Value", ["interface\x7b\x7d"]⟩]
    "\"invalid %s value %v\", e.Type, e.Value" ++
  errorType "PatternMismatchError"
    "PatternMismatchError reports a value rejected by a regular expression."
    [⟨"Field", ["string"]⟩, ⟨"Pattern", ["string"]⟩]
    "\"%s does not match %s\", e.Field, e.Pattern"

def kinds : List String := [
  "ParseSucceed", "BodyUnmarshalFailed", "BodyValidationFailed", "HeaderParseFailed",
  "HeaderValidationFailed", "QueryParseFailed", "QueryValidationFailed", "PathParseFailed",
  "PathValidationFailed", "SecurityParseFailed", "SecurityCheckFailed"]

def kindType : Declaration :=
  { comment := ["RequestProcessingResultType classifies a RequestProcessingResult."]
    form := .type "RequestProcessingResultType" "uint8" }

def kindConstants : List Entry :=
  match kinds with
  | [] => []
  | first :: others =>
    ⟨first, ["RequestProcessingResultType = iota"]⟩ :: others.map fun kind => ⟨kind, []⟩

def kindText : Declaration :=
  { form := .method { name := "t", type := "RequestProcessingResultType" } "String" "() string" [
      .cases "t" (kinds.map fun (kind : String) => ((kind : Code), [.give [quote kind]]))
        (some [.give [[.imported Package.fmt "Sprintf",
          "(\"RequestProcessingResultType(%d)\", uint8(t))"]]])] }

def receiver : Receiver := { name := "r", type := "RequestProcessingResult" }

def type : Declaration :=
  { comment := [
      "RequestProcessingResult is the outcome of parsing and validating a request."]
    form := .struct "RequestProcessingResult" "" [
      { members := [⟨"err", ["error"]⟩, ⟨"kind", ["RequestProcessingResultType"]⟩] }] }

def make : Declaration :=
  { form := .function "NewRequestProcessingResult"
      "(kind RequestProcessingResultType, err error) RequestProcessingResult" [
      .give ["RequestProcessingResult\x7berr: err, kind: kind\x7d"]] }

def kindOf : Declaration :=
  { form := .method receiver "Type" "() RequestProcessingResultType" [.give ["r.kind"]] }

def errorOf : Declaration :=
  { form := .method receiver "Err" "() error" [.give ["r.err"]] }

def declarations : List Declaration :=
  errors ++
    [kindType, { form := .constants kindConstants }, kindText, type, make, kindOf, errorOf]

def names : List String := [
  "Optional", "NewOptional", "RequiredFieldMissingError", "RequiredFieldNullError",
  "InvalidEnumValueError", "PatternMismatchError", "RequestProcessingResultType",
  "RequestProcessingResult", "NewRequestProcessingResult"] ++ kinds

/-- The part of the components that does not depend on the document. -/
def part : Part :=
  { declares := names.map (·, "runtime")
    mentions := [
      .imported Package.driver "Value", .imported Package.json "Unmarshal",
      .imported Package.fmt "Sprintf", .imported Package.validation "Validatable"]
    declarations := Optional.declarations ++ declarations }

end Outcome

end ApiScaffold.Server
