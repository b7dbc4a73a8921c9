import ApiScaffold.Identifier.Exported
import ApiScaffold.Server.Hooks
import ApiScaffold.Server.Types

/-!
Security: the constants of the schemes, functions that read their credentials from a request, and
the check that an operation's requirements are met.
-/

namespace ApiScaffold.Server.Security

open Blueprint Go Source

def scheme (name : String) : String := "SecurityScheme" ++ Identifier.exported name

def constant (scheme : SecurityScheme) : String := Security.scheme scheme.name

def checkMethod (scheme : SecurityScheme) : String :=
  "SecurityCheck" ++ Identifier.exported scheme.name

def extractor (scheme : SecurityScheme) : String :=
  variableName s!"Extract{Identifier.exported scheme.name}Security"

/-- Whether the credential is read by generated code. -/
def isExtractable (scheme : SecurityScheme) : Bool := scheme.kind != .oauth2

def request : Code := ["r *", Reply.http "Request"]

def types : List Declaration := [
  { comment := ["SecurityScheme names a security scheme declared by the document."]
    form := .type "SecurityScheme" "string" },
  { comment := ["SecurityExtractor reads the credential of a scheme from a request."]
    form := .type "SecurityExtractor"
      (code ["func(", request, ") (name string, value string, found bool)"]) },
  { comment := ["SecurityHandler accepts or rejects an extracted credential."]
    form := .type "SecurityHandler"
      (code ["func(", request, ", scheme SecurityScheme, name string, value string) error"]) },
  { form := .struct "securityProcessor" "" [
      { members := [
          ⟨"scheme", ["SecurityScheme"]⟩, ⟨"extract", ["SecurityExtractor"]⟩,
          ⟨"handle", ["SecurityHandler"]⟩] }] },
  { comment := [
      "NewSecurityProcessor pairs a scheme with its extractor and handler. Processors",
      "passed to a router take precedence over the generated ones."]
    form := .function "NewSecurityProcessor" ("(scheme SecurityScheme, extract " ++
        "SecurityExtractor, handle SecurityHandler) securityProcessor" : String) [
      .give ["securityProcessor\x7bscheme: scheme, extract: extract, handle: handle\x7d"]] }] ++
  errorType "SecurityValueMissingError"
    "SecurityValueMissingError reports a request without the credential of a scheme."
    [⟨"Scheme", ["SecurityScheme"]⟩, ⟨"Name", ["string"]⟩]
    "\"%s: credential %q is missing\", e.Scheme, e.Name"

def constantEntry (scheme : SecurityScheme) : Entry :=
  ⟨constant scheme, ["SecurityScheme", "=", quote scheme.name]⟩

def schemas (schemes : List SecurityScheme) : Declaration :=
  { comment := [
      "SecuritySchemas checks the credentials of every scheme with a generated extractor."]
    form := .interface "SecuritySchemas" [
      { methods := schemes.map fun scheme =>
          code [checkMethod scheme, "(", request,
            ", scheme SecurityScheme, name string, value string) error"] }] }

def processorRow (scheme : SecurityScheme) : List Code := [
  ["NewSecurityProcessor(", .own (constant scheme), ", ", .own (extractor scheme),
    s!", schemas.{checkMethod scheme}),"]]

def processors (schemes : List SecurityScheme) : Declaration :=
  { form := .function "securityProcessors" "(schemas SecuritySchemas) []securityProcessor" [
      .when "schemas == nil" [.give ["nil"]],
      if schemes.isEmpty then .give ["nil"]
      else
        .listing "return []securityProcessor\x7b" (schemes.map processorRow) "\x7d"] }

/-- Reads what follows a word at the start of the authorization header. -/
def authorization (word : String) : List Statement :=
  let start := quote word
  [.define ["value"] "r.Header.Get(\"Authorization\")",
    .when [s!"len(value) < len({start}) || !", .imported Package.strings "EqualFold",
      s!"(value[:len({start})], {start})"] [.give ["\"Authorization\"", "\"\"", "false"]],
    .give ["\"Authorization\"",
      [.imported Package.strings "TrimSpace", s!"(value[len({start}):])"], "true"]]

/-- Reads a text by its key; an empty one counts as missing. -/
def keyedValue (key : String) (source : Code) : List Statement := [
  .define ["value"] source, .give [key, "value", "value != \"\""]]

def cookieValue (key : String) : List Statement := [
  .define ["cookie", "err"] s!"r.Cookie({key})",
  .when "err != nil" [.give [key, "\"\"", "false"]],
  .give [key, "cookie.Value", "cookie.Value != \"\""]]

def extraction : SchemeKind → List Statement
  | .httpBearer => authorization "Bearer "
  | .httpBasic => authorization "Basic "
  | .apiKey .header name => keyedValue (quote name) s!"r.Header.Get({quote name})"
  | .apiKey .query name => keyedValue (quote name) s!"r.URL.Query().Get({quote name})"
  | .apiKey .cookie name => cookieValue (quote name)
  | .oauth2 => []

def extractorFunction (scheme : SecurityScheme) : Declaration :=
  { form := .function (extractor scheme) (code ["(", request, ") (string, string, bool)"])
      (extraction scheme.kind) }

def outcome (kind : String) (error : Code) : Code :=
  code [Fragment.component "NewRequestProcessingResult", "(", Fragment.component kind, ", ",
    error, ")"]

def checkParameters (last : Code) : Code :=
  code ["(", request, ", hooks *Hooks, processors []securityProcessor, operation string, ", last,
    ")"]

def checkSecurity : Declaration :=
  { comment := [
      "checkSecurity passes when every scheme of at least one alternative passes.",
      "The failure hook fires once, with the last failure."]
    form := .function "checkSecurity"
      (code [checkParameters "alternatives [][]SecurityScheme", " (", Hooks.result, ", bool)"]) [
      .listing "var (" [["failed", Hooks.result], ["failedWith", "SecurityScheme"]] ")",
      .each ["_", "alternative"] "alternatives" [
        .define ["result", "scheme", "ok"]
          "checkSecurityAlternative(r, hooks, processors, operation, alternative)",
        .when "ok" [
          Reply.callHook "RequestSecurityCheckCompleted" ["r", "operation"],
          .give ["result", "true"]],
        .assign "failed, failedWith" "result, scheme"],
      .chooseFirst ["failed.Type() == ", .component "SecurityParseFailed"] [
          Reply.callHook "RequestSecurityParseFailed"
            ["r", "operation", "string(failedWith)", "failed"]]
        "hooks.RequestSecurityCheckFailed != nil" [
          .plain
            "hooks.RequestSecurityCheckFailed(r, operation, string(failedWith), failed)"],
      .give ["failed", "false"]] }

def checkAlternative : Declaration :=
  { form := .function "checkSecurityAlternative"
      (code [checkParameters "schemes []SecurityScheme", " (", Hooks.result,
        ", SecurityScheme, bool)"]) [
      .each ["_", "scheme"] "schemes" [
        .when ("result, ok := runSecurityProcessor(r, hooks, processors, operation, scheme); !ok")
          [.give ["result", "scheme", "false"]]],
      .give [outcome "ParseSucceed" "nil", "\"\"", "true"]] }

def runProcessor : Declaration :=
  { form := .function "runSecurityProcessor"
      (code [checkParameters "scheme SecurityScheme", " (", Hooks.result, ", bool)"]) [
      .each ["_", "processor"] "processors" [
        .when "processor.scheme != scheme" [.plain "continue"],
        .define ["name", "value", "found"] "processor.extract(r)",
        .when "!found" [
          .give [outcome "SecurityParseFailed"
            "SecurityValueMissingError\x7bScheme: scheme, Name: name\x7d", "false"]],
        Reply.callHook "RequestSecurityParseCompleted" ["r", "operation"],
        .when "err := processor.handle(r, scheme, name, value); err != nil" [
          .give [outcome "SecurityCheckFailed" "err", "false"]],
        .give [outcome "ParseSucceed" "nil", "true"]],
      .give [outcome "SecurityCheckFailed" [.imported Package.fmt "Errorf",
        "(\"no processor for security scheme %q\", scheme)"], "false"]] }

def names : List String := [
  "SecurityScheme", "SecurityExtractor", "SecurityHandler", "securityProcessor",
  "NewSecurityProcessor", "SecurityValueMissingError", "SecuritySchemas", "securityProcessors",
  "checkSecurity", "checkSecurityAlternative", "runSecurityProcessor"]

def owner (scheme : SecurityScheme) : String := s!"security scheme {scheme.name}"

def part (schemes : List SecurityScheme) : Part :=
  let extracted := schemes.filter isExtractable
  { declares :=
      names.map (·, "security runtime") ++
      (schemes.map fun scheme => (constant scheme, owner scheme)) ++
      extracted.map fun scheme => (extractor scheme, owner scheme)
    mentions := [Reply.http "Request", .imported Package.fmt "Sprintf", Hooks.result]
    declarations :=
      types ++
      (if schemes.isEmpty then [] else [{ form := .constants (schemes.map constantEntry) }]) ++
      [schemas extracted, processors extracted] ++ extracted.map extractorFunction ++
      [checkSecurity, checkAlternative, runProcessor] }

end ApiScaffold.Server.Security
