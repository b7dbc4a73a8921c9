import ApiScaffold.Server.Reply

/-!
Hooks: functions that observe how a request is processed.
-/

namespace ApiScaffold.Server

open Go Source

namespace Hooks

def result : Fragment := .component "RequestProcessingResult"

/-- The type of a hook on a request, with further parameters. -/
def observer (parameters : Code) : Code :=
  code ["func(r *", Reply.http "Request", ", operation string", parameters, ")"]

def progress : Code := observer []

def failure : Code := observer [", result ", result]

def failureOf (subject : String) : Code := observer [s!", {subject} string, result ", result]

def placeHooks (title : String) : List Entry := [
  ⟨s!"Request{title}ParseFailed", [failureOf "param"]⟩,
  ⟨s!"Request{title}ParseCompleted", [progress]⟩,
  ⟨s!"Request{title}ValidationFailed", [failure]⟩]

def entries : List Entry := [
  ⟨"RequestSecurityParseFailed", [failureOf "scheme"]⟩,
  ⟨"RequestSecurityParseCompleted", [progress]⟩,
  ⟨"RequestSecurityCheckFailed", [failureOf "scheme"]⟩,
  ⟨"RequestSecurityCheckCompleted", [progress]⟩] ++
  placeHooks "Path" ++ placeHooks "Query" ++ placeHooks "Header" ++ [
  ⟨"RequestBodyUnmarshalFailed", [failure]⟩,
  ⟨"RequestBodyUnmarshalCompleted", [progress]⟩,
  ⟨"RequestBodyValidationFailed", [failure]⟩,
  ⟨"RequestParseCompleted", [progress]⟩,
  ⟨"RequestRedirectStarted", [observer ", target string"]⟩,
  ⟨"ServiceCompleted", [progress]⟩,
  ⟨"ResponseBodyMarshalCompleted", [progress]⟩,
  ⟨"ResponseBodyMarshalFailed",
    [code ["func(", Reply.writerAndRequest, ", operation string, err error)"]]⟩,
  ⟨"ResponseBodyWriteCompleted", [observer ", status int"]⟩,
  ⟨"ResponseBodyWriteFailed", [observer ", status int, err error"]⟩,
  ⟨"RequestProcessingCompleted", [progress]⟩]

def part : Part :=
  { declares := [("Hooks", "hooks")]
    mentions := [result]
    declarations := [
      { comment := ["Hooks observe request processing. Nil hooks are skipped."]
        form := .struct "Hooks" "" [{ members := entries }] }] }

end Hooks

end ApiScaffold.Server
