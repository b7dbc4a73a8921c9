import ApiScaffold.Identifier.Exported
import ApiScaffold.Server.Conversion
import ApiScaffold.Server.Hooks

/-!
Builders of responses. A response is built in stages: status, headers, content type, body. Every
stage is a type of its own that has only the methods which are possible next, so an operation can
give no response that the document does not declare.
-/

namespace ApiScaffold.Server.Builder

open Blueprint Go Source

def owner (operation : Operation) : String := s!"responses of operation {operation.name}"

def interface (operation : Operation) : String := s!"{operation.name}Response"

def marker (operation : Operation) : String := s!"is{interface operation}"

def wrapper (operation : Operation) : String := variableName (interface operation)

def constructor (operation : Operation) : String := s!"{interface operation}Builder"

def start (operation : Operation) : String := variableName (constructor operation)

def statusStage (operation : Operation) (status : Status) : String :=
  variableName s!"{operation.name}{status.label}ResponseBuilder"

def headersStruct (operation : Operation) (status : Status) : String :=
  s!"{operation.name}{status.label}Headers"

def headersStage (operation : Operation) (status : Status) : String :=
  variableName s!"{operation.name}{status.label}HeadersResponseBuilder"

def bodyStage (operation : Operation) (status : Status) (content : BodyContent) : String :=
  variableName s!"{operation.name}{status.label}{content.tag}ResponseBuilder"

def finalStage (operation : Operation) (status : Status) (content : BodyContent) : String :=
  variableName s!"{operation.name}{status.label}{content.tag}BodyResponseBuilder"

def receiver (stage : String) : Receiver := { name := "b", type := stage, pointer := true }

/-- A stage holds the response as far as it is built. -/
def stageType (stage : String) : Declaration :=
  { form := .struct stage "" [{ members := [⟨"response", []⟩] }] }

def handOn (stage : String) : Statement := .give [["&", .own stage, "\x7bresponse: b.response\x7d"]]

/-- A method that sets a part of the response and leads to another stage. -/
def step (stage method : String) (parameters : Code) (next : String) (body : List Statement) :
    Declaration :=
  { form := .method (receiver stage) method (code ["(", parameters, ") *", Fragment.own next])
      (body ++ [handOn next]) }

/-- The last method of a stage after which nothing is missing. -/
def build (operation : Operation) (stage : String) : Declaration :=
  { form := .method (receiver stage) "Build" ["() ", .own (interface operation)] [
      .give [[.own (wrapper operation), "\x7bresponse: b.response\x7d"]]] }

def startPart (operation : Operation) : Part :=
  let names := [interface operation, wrapper operation, constructor operation, start operation]
  { declares := names.map (·, owner operation)
    declarations := [
      { comment := commentOn (interface operation) s!"is the response of {operation.name}."
        form := .interface (interface operation) [
          { methods := ["Response", s!"{marker operation}()"] }] },
      stageType (wrapper operation),
      { form := .marker (wrapper operation) (marker operation) },
      { form := .function (constructor operation) ["() *", .own (start operation)] [
          .give [["new(", .own (start operation), ")"]]] },
      stageType (start operation)] }

/-- The parameter of a status method, and the status code that it sets. -/
def statusCode : Status → String × String
  | .code value => ("", toString value)
  | .range _ => ("code int", "code")
  | .default => ("code int", "code")

def statusPart (operation : Operation) (response : Response) : Part :=
  let stage := statusStage operation response.status
  let method := s!"StatusCode{response.status.label}"
  let first := statusCode response.status
  { declares := [(stage, owner operation)]
    declarations := [
      { step (start operation) method first.1 stage
          [.assign "b.response.statusCode" first.2] with
        comment := commentOn method response.description },
      stageType stage] }

def headerMember (header : ResponseHeader) : String := Identifier.exported header.name

def headerType (program : Program) (header : ResponseHeader) : TypeExpression :=
  scalarFieldType (program.resolve header.field.shape) header.field

def headerText (program : Program) (header : ResponseHeader) : Code :=
  let member := s!"headers.{headerMember header}"
  let value := if header.field.isRequired then member else s!"{member}.Get()"
  textOf (program.resolve header.field.shape) value

/-- Sets a header; an optional one is left out if there is no text for it. -/
def headerStatement (program : Program) (header : ResponseHeader) : Statement :=
  let target : Code := s!"b.response.headers[{quote header.name}]"
  let text := headerText program header
  if header.field.isRequired then .assign target text
  else
    .when (code ["value := ", text, s!"; headers.{headerMember header}.IsSet() && value != \"\""])
      [.assign target "value"]

def headersPart (program : Program) (operation : Operation) (response : Response) : Part :=
  let status := response.status
  let struct := headersStruct operation status
  let next := headersStage operation status
  { declares := [(struct, owner operation), (next, owner operation)]
    mentions := response.headers.flatMap fun header =>
      (headerType program header).code ++ headerText program header
    declarations := [
      { form := .struct struct "" [
          { members := response.headers.map fun header =>
              ⟨headerMember header, [(headerType program header).code]⟩ }] },
      step (statusStage operation status) "Headers" ["headers ", .own struct] next
        (.assign "b.response.headers" "make(map[string]string)" ::
          response.headers.map (headerStatement program)),
      stageType next] }

def contentPart (operation : Operation) (status : Status) (stage : String)
    (content : BodyContent) : Part :=
  let bodyStage := bodyStage operation status content
  let finalStage := finalStage operation status content
  let type := (typeOf content.shape).code
  { declares := [(bodyStage, owner operation), (finalStage, owner operation)]
    mentions := type
    declarations := [
      step stage content.tag [] bodyStage
        [.assign "b.response.contentType" (quote content.contentType)],
      stageType bodyStage,
      step bodyStage "Body" ("body " :: type) finalStage [.assign "b.response.body" "body"],
      stageType finalStage,
      build operation finalStage] }

def responsePart (program : Program) (operation : Operation) (response : Response) : Part :=
  let status := response.status
  let hasHeaders := !response.headers.isEmpty
  let stage := if hasHeaders then headersStage operation status else statusStage operation status
  statusPart operation response ++
    (if hasHeaders then headersPart program operation response else {}) ++
    if response.contents.isEmpty then { declarations := [build operation stage] }
    else Part.join (response.contents.map (contentPart operation status stage))

def part (program : Program) (operation : Operation) : Part :=
  startPart operation ++ Part.join (operation.responses.map (responsePart program operation))

end ApiScaffold.Server.Builder
