import ApiScaffold.Server.Outcome

/-!
What every generated router declares about responses: built responses, the encoding of their bodies,
and how they are written.
-/

namespace ApiScaffold.Server.Reply

open Go Source

def http (name : String) : Fragment := .imported Package.http name

def writerAndRequest : Code := ["w ", http "ResponseWriter", ", r *", http "Request"]

def missingParameter : List Declaration :=
  errorType "RequiredParameterMissingError"
    "RequiredParameterMissingError reports an empty required parameter."
    [⟨"Parameter", ["string"]⟩] "\"required parameter %q is missing\", e.Parameter"

def interface : Declaration :=
  { comment := ["Response is a built response ready to be written."]
    form := .interface "Response" [
      { methods := [
          "StatusCode() int", "Headers() map[string]string", "Body() interface\x7b\x7d",
          "ContentType() string",
          ["WriteTo(w ", http "ResponseWriter", ") error"]] }] }

def receiver : Receiver := { name := "r", type := "response" }

def type : Declaration :=
  { form := .struct "response" "" [
      { members := [
          ⟨"statusCode", ["int"]⟩, ⟨"headers", ["map[string]string"]⟩,
          ⟨"body", ["interface\x7b\x7d"]⟩, ⟨"contentType", ["string"]⟩] }] }

def reader (name result member : String) : Declaration :=
  { form := .method receiver name s!"() {result}" [.give [s!"r.{member}"]] }

def readers : List Declaration := [
  reader "StatusCode" "int" "statusCode", reader "Headers" "map[string]string" "headers",
  reader "Body" "interface\x7b\x7d" "body", reader "ContentType" "string" "contentType"]

def writeTo : Declaration :=
  { comment := [
      "WriteTo writes headers, content type and status code, then the encoded body."]
    form := .method receiver "WriteTo" ["(w ", http "ResponseWriter", ") error"] [
      .define ["body", "err"] "marshalBody(r.contentType, r.body)",
      .when "err != nil" giveError,
      .give ["writeBody(w, r, body)"]] }

/-- The media types whose bodies are written as XML; all others are written as JSON. -/
def xmlMedia : List String := ["application/xml", "text/xml"]

def marshalBody : Declaration :=
  { form := .function "marshalBody" "(contentType string, body interface\x7b\x7d) ([]byte, error)" [
      .cases "value := body.(type)" [
        ("nil", [.give ["nil", "nil"]]),
        ("[]byte", [.give ["value", "nil"]]),
        ("string", [.give ["[]byte(value)", "nil"]])] none,
      .define ["mediaType", "_", "_"] [.imported Package.mime "ParseMediaType", "(contentType)"],
      .cases "mediaType" [
        (separated ", " (xmlMedia.map fun media => (quote media : Code)),
          [.give [[.imported Package.xml "Marshal", "(body)"]]])]
        (some [.give [[.imported Package.json "Marshal", "(body)"]]])] }

def writeBody : Declaration :=
  { form := .function "writeBody"
      ["(w ", http "ResponseWriter", ", resp Response, body []byte) error"] [
      .each ["name", "value"] "resp.Headers()" [.plain "w.Header().Set(name, value)"],
      .when "contentType := resp.ContentType(); contentType != \"\"" [
        .plain "w.Header().Set(\"Content-Type\", contentType)"],
      .plain "w.WriteHeader(resp.StatusCode())",
      .when "len(body) == 0" [.give ["nil"]],
      .define ["_", "err"] "w.Write(body)",
      .give ["err"]] }

def callHook (hook : String) (arguments : List Code) : Statement :=
  .when s!"hooks.{hook} != nil" [
    .plain (code [s!"hooks.{hook}(", separated ", " arguments, ")"])]

def internalError : List Statement := [
  .plain ["w.WriteHeader(", http "StatusInternalServerError", ")"], .give []]

def writeResponse : Declaration :=
  { form := .function "writeResponse"
      (code ["(", writerAndRequest, ", hooks *Hooks, operation string, resp Response)"]) [
      .when "resp == nil" internalError,
      .define ["body", "err"] "marshalBody(resp.ContentType(), resp.Body())",
      .when "err != nil"
        (.when "hooks.ResponseBodyMarshalFailed != nil" [
          .plain "hooks.ResponseBodyMarshalFailed(w, r, operation, err)", .give []] ::
        internalError),
      callHook "ResponseBodyMarshalCompleted" ["r", "operation"],
      .when "err := writeBody(w, resp, body); err != nil" [
        callHook "ResponseBodyWriteFailed" ["r", "operation", "resp.StatusCode()", "err"],
        .give []],
      callHook "ResponseBodyWriteCompleted" ["r", "operation", "resp.StatusCode()"]] }

def redirectHandler : Declaration :=
  { form := .function "redirectHandler"
      ["(hooks *Hooks, operation string) ", http "HandlerFunc"] [
      .block (code ["return func(", writerAndRequest, ")"]) [
        .define ["target"] [.imported Package.strings "TrimSuffix", "(r.URL.Path, \"/\")"],
        .when "r.URL.RawQuery != \"\"" [.plain "target += \"?\" + r.URL.RawQuery"],
        callHook "RequestRedirectStarted" ["r", "operation", "target"],
        .plain [http "Redirect", "(w, r, target, ", http "StatusPermanentRedirect", ")"]]] }

def declarations : List Declaration :=
  missingParameter ++ [interface, type] ++ readers ++
    [writeTo, marshalBody, writeBody, writeResponse, redirectHandler]

def names : List String := [
  "RequiredParameterMissingError", "Response", "response", "marshalBody", "writeBody",
  "writeResponse", "redirectHandler"]

/-- The part of a router that does not depend on the document. -/
def part : Part :=
  { declares := names.map (·, "runtime")
    mentions := [
      .imported Package.json "Marshal", .imported Package.xml "Marshal",
      .imported Package.fmt "Sprintf", .imported Package.mime "ParseMediaType",
      http "ResponseWriter", .imported Package.strings "TrimSuffix"]
    declarations }

end ApiScaffold.Server.Reply
