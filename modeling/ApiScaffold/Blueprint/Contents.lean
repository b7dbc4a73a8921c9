import ApiScaffold.Blueprint.Parameters

/-!
Bodies of requests and responses. Every content that is not a reference becomes a component, so that
its type has a name.
-/

namespace ApiScaffold.Blueprint

open OpenApi (OrRef Extensions Specification Table MediaType)

/-- Whether a content type stands for bytes. Parameters and letter case do not count. -/
def isOctetStream (contentType : String) : Bool :=
  Text.eqIgnoringAsciiCase (Text.trimChars (Text.firstPiece (· == ';') contentType.toList))
    "application/octet-stream".toList

/-- The shape of a content under a name that its component may take. -/
def contentShape (specification : Specification) (component contentType location : String)
    (mediaType : MediaType) : Drafting Shape := do
  match mediaType.schema with
  | some (.reference target) => liftExcept (referenceShape specification target location)
  | some (.object schema) =>
    let shape ← shapeOf specification .declared component location schema
    let extensions ← liftExcept (Extensions.read schema.extensions location)
    Drafting.register {
      name := component
      shape
      description := schema.description
      origin := .inside location
      skipValidation := extensions.skipValidation }
    return .named component
  | none =>
    Drafting.register {
      name := component
      shape := if isOctetStream contentType then .ofKind .bytes else .anything
      description := none
      origin := .inside location
      skipValidation := true }
    return .named component

/-- Collects contents; `known` holds those so far, whose tags must differ. -/
def collectContents (specification : Specification) (componentName : String → String)
    (location : String) (known : List BodyContent) :
    Table MediaType → Drafting (List BodyContent)
  | [] => return known
  | (contentType, mediaType) :: rest => do
    let tag := Identifier.ofContentType contentType
    let contentLocation := s!"{location}/content/{contentType}"
    match known.find? (·.tag == tag) with
    | some existing =>
      throw ((Diagnostic.nameCollision .lower tag existing.contentType contentType).located location)
    | none =>
      let shape ←
        contentShape specification (componentName tag) contentType contentLocation mediaType
      if isOctetStream contentType && (← Drafting.resolve shape).kind? != some .bytes then
        Drafting.fail .notBinary contentLocation
      collectContents specification componentName location
        (known ++ [{ contentType, tag, shape }]) rest

def contentsOf (specification : Specification) (content : Table MediaType)
    (componentName : String → String) (location : String) : Drafting (List BodyContent) :=
  collectContents specification componentName location [] (sortByKey content)

/-- The body of a request; one without content is none. -/
def requestBodyOf (specification : Specification) (name : String) (operation : OpenApi.Operation)
    (location : String) : Drafting (Option RequestBody) := do
  match operation.requestBody with
  | none => return none
  | some item =>
    let bodyLocation := s!"{location}/requestBody"
    match specification.requestBody? item with
    | none => Drafting.fail (.unresolved .requestBody) bodyLocation
    | some body =>
      let contents ← contentsOf specification body.content
        (fun tag => s!"{name}{tag}RequestBody") bodyLocation
      return if contents.isEmpty then none else some { required := body.required, contents }

def headersOf (specification : Specification) (hint location : String) :
    Table (OrRef OpenApi.Header) → Drafting (List ResponseHeader)
  | [] => return []
  | (name, item) :: rest => do
    let headerLocation := s!"{location}/headers/{name}"
    match specification.header? item with
    | none => Drafting.fail (.unresolved .header) headerLocation
    | some header =>
      let field ← scalarField specification name header.schema header.required
        s!"{hint}Header{Identifier.exported name}" headerLocation false
      let described := { field with description := field.description.or header.description }
      return { name, field := described } :: (← headersOf specification hint location rest)

def responseAt (specification : Specification) (name location : String) (status : Status)
    (response : OpenApi.Response) : Drafting Response := do
  let label := status.label
  let contents ← contentsOf specification response.content
    (fun tag => s!"{name}{label}{tag}ResponseBody") location
  let headers ← headersOf specification s!"{name}{label}" location response.headers
  return { status, description := response.description, contents, headers }

/-- Collects responses; `known` holds those so far, whose statuses must differ. -/
def collectResponses (specification : Specification) (name location : String)
    (known : List Response) : Table (OrRef OpenApi.Response) → Drafting (List Response)
  | [] => return known
  | (key, item) :: rest => do
    let responseLocation := s!"{location}/responses/{key}"
    match Status.parse? key with
    | none => Drafting.fail (.invalidStatus key) responseLocation
    | some status =>
      if known.any (·.status == status) then
        throw ((Diagnostic.nameCollision .lower s!"{name}{status.label}" status.label key).located
          responseLocation)
      match specification.response? item with
      | none => Drafting.fail (.unresolved .response) responseLocation
      | some response =>
        let lowered ← responseAt specification name responseLocation status response
        collectResponses specification name location (known ++ [lowered]) rest

def responsesOf (specification : Specification) (name : String) (operation : OpenApi.Operation)
    (location : String) : Drafting (List Response) := do
  let responses ← collectResponses specification name location [] operation.responses
  return responses.mergeSort fun left right => left.status.precedes right.status

end ApiScaffold.Blueprint
