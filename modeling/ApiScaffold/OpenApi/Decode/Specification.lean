import ApiScaffold.OpenApi.Decode.Schema
import ApiScaffold.Text.Pieces

/-!
Reading everything around the schemas of a document, up to the whole specification.
-/

namespace ApiScaffold.OpenApi.Decode

/-- A required member always replaces what stands here. -/
def parameterStart : Parameter := { name := "", place := .path }

def parameterPlace : Reader ParameterPlace := choice ParameterPlace.name ParameterPlace.all isNull

def parameter : Reader Parameter :=
  openRecord "Parameter" [
    .storing "name" .required text fun value record => { record with name := value },
    .storing "in" .required parameterPlace fun value record => { record with place := value },
    .storing "description" .optional (optional text) fun value record =>
      { record with description := value },
    .storing "required" .defaulted flag fun value record => { record with required := value },
    .storing "schema" .optional (optional schemaOrRef) fun value record =>
      { record with schema := value }]
    (fun key value record => { record with extensions := record.extensions ++ [(key, value)] })
    parameterStart

def mediaType : Reader MediaType :=
  closedRecord "MediaType"
    [.storing "schema" .optional (optional schemaOrRef) fun value record =>
      { record with schema := value }] {}

def requestBody : Reader RequestBody :=
  closedRecord "RequestBody" [
    .storing "description" .optional (optional text) fun value record =>
      { record with description := value },
    .storing "content" .defaulted (table mediaType) fun value record =>
      { record with content := value },
    .storing "required" .defaulted flag fun value record => { record with required := value }] {}

def header : Reader Header :=
  openRecord "Header" [
    .storing "description" .optional (optional text) fun value record =>
      { record with description := value },
    .storing "required" .defaulted flag fun value record => { record with required := value },
    .storing "schema" .optional (optional schemaOrRef) fun value record =>
      { record with schema := value }]
    (fun key value record => { record with extensions := record.extensions ++ [(key, value)] }) {}

def response : Reader Response :=
  closedRecord "Response" [
    .storing "description" .optional (optional text) fun value record =>
      { record with description := value },
    .storing "headers" .defaulted (table (orRef header)) fun value record =>
      { record with headers := value },
    .storing "content" .defaulted (table mediaType) fun value record =>
      { record with content := value }] {}

/-- Keys that belong to extensions, not to a table of paths or responses. -/
def isExtensionKey (key : String) : Bool := Text.startsWith "x-" key

def responses : Reader (Table (OrRef Response))
  | .object members =>
    (members.filter fun member => !isExtensionKey member.1).mapM fun (key, value) =>
      match orRef response value with
      | .ok item => .ok (key, item)
      | .error reason => .error (.inResponse key reason)
  | _ => .error .responsesNotObject

def securityRequirements : Reader (List SecurityRequirement) := list (table (list text))

def apiKeyPlace : Reader ApiKeyPlace := choice ApiKeyPlace.name ApiKeyPlace.all isNullOrEmpty

/-- The members of a security scheme, each kind of which takes some of them. -/
structure SchemeMembers where
  scheme : String := ""
  bearerFormat : Option String := none
  name : String := ""
  place : ApiKeyPlace := .header
  url : Option String := none
  description : Option String := none

namespace SchemeMembers

def describing : Member SchemeMembers :=
  .storing "description" .optional (optional text) fun value record =>
    { record with description := value }

end SchemeMembers

inductive SchemeKind where
  | http
  | apiKey
  | oauth2
  | openIdConnect
deriving DecidableEq, Repr

namespace SchemeKind

def all : List SchemeKind := [http, apiKey, oauth2, openIdConnect]

def name : SchemeKind → String
  | http => "http"
  | apiKey => "apiKey"
  | oauth2 => "oauth2"
  | openIdConnect => "openIdConnect"

def variantName : SchemeKind → String
  | http => "Http"
  | apiKey => "ApiKey"
  | oauth2 => "OAuth2"
  | openIdConnect => "OpenIdConnect"

def members : SchemeKind → List (Member SchemeMembers)
  | http => [
    .storing "scheme" .required text fun value record => { record with scheme := value },
    .storing "bearerFormat" .optional (optional text) fun value record =>
      { record with bearerFormat := value },
    SchemeMembers.describing]
  | apiKey => [
    .storing "name" .required text fun value record => { record with name := value },
    .storing "in" .required apiKeyPlace fun value record => { record with place := value },
    SchemeMembers.describing]
  | oauth2 => [SchemeMembers.describing]
  | openIdConnect => [
    .storing "openIdConnectUrl" .optional (optional text) fun value record =>
      { record with url := value },
    SchemeMembers.describing]

def build (kind : SchemeKind) (members : SchemeMembers) : SecurityScheme :=
  match kind with
  | http => .http members.scheme members.bearerFormat members.description
  | apiKey => .apiKey members.name members.place members.description
  | oauth2 => .oauth2 members.description
  | openIdConnect => .openIdConnect members.url members.description

end SchemeKind

/-- The value of the member `type` names the kind of a security scheme. -/
def schemeKind : Reader SchemeKind
  | .string word =>
    match SchemeKind.all.find? (·.name == word) with
    | some kind => .ok kind
    | none => .error (.unknownVariant word (SchemeKind.all.map SchemeKind.name))
  | other => .error (.wrongType other .variantName)

def securityScheme : Reader SecurityScheme
  | .object members =>
    match members.lookup "type" with
    | none => .error (.missingField "type")
    | some tag => do
      let kind ← schemeKind tag
      let others := members.filter (·.1 != "type")
      let record ← readMembers kind.members (fun _ _ record => record) others {}
      checkRequired kind.members others
      return kind.build record
  | .array [] => .error (.missingField "type")
  | .array (tag :: items) => do
    let kind ← schemeKind tag
    let count := kind.members.length
    let short := Expected.elements s!"struct variant SecurityScheme::{kind.variantName}" count
    let (record, rest) ← readElements short 0 kind.members items {}
    if rest.isEmpty then return kind.build record
    else throw (.wrongLength items.length (.elementsInSequence count))
  | other => .error (.wrongType other (.tagged "SecurityScheme"))

def operation : Reader Operation :=
  openRecord "Operation" [
    .storing "tags" .defaulted (list text) fun value record => { record with tags := value },
    .storing "summary" .optional (optional text) fun value record => { record with summary := value },
    .storing "description" .optional (optional text) fun value record =>
      { record with description := value },
    .storing "operationId" .optional (optional text) fun value record =>
      { record with operationId := value },
    .storing "parameters" .defaulted (list (orRef parameter)) fun value record =>
      { record with parameters := value },
    .storing "requestBody" .optional (optional (orRef requestBody)) fun value record =>
      { record with requestBody := value },
    .storing "responses" .defaulted responses fun value record => { record with responses := value },
    .storing "security" .optional (optional securityRequirements) fun value record =>
      { record with security := value },
    .storing "deprecated" .defaulted flag fun value record => { record with deprecated := value }]
    (fun key value record => { record with extensions := record.extensions ++ [(key, value)] }) {}

def methodMember (method : Method) : Member PathItem :=
  .storing method.name .optional (optional operation) fun value record =>
    match value with
    | some operation => { record with declared := record.declared ++ [(method, operation)] }
    | none => record

def pathItem : Reader PathItem :=
  closedRecord "PathItem" ([
    .storing "$ref" .optional (optional text) fun value record => { record with reference := value },
    .storing "summary" .optional (optional text) fun value record => { record with summary := value },
    .storing "description" .optional (optional text) fun value record =>
      { record with description := value }] ++
    Method.all.map methodMember ++
    [.storing "parameters" .defaulted (list (orRef parameter)) fun value record =>
      { record with parameters := value }]) {}

def paths : Reader (Table PathItem)
  | .object members =>
    (members.filter fun member => !isExtensionKey member.1).mapM fun (key, value) =>
      match pathItem value with
      | .ok item => .ok (key, item)
      | .error reason => .error (.inPath key reason)
  | other => .error (.pathsNotObject other)

def info : Reader Info :=
  closedRecord "Info" [
    .storing "title" .defaulted text fun value record => { record with title := value },
    .storing "version" .defaulted text fun value record => { record with version := value },
    .storing "description" .optional (optional text) fun value record =>
      { record with description := value }] {}

def components : Reader Components :=
  closedRecord "Components" [
    .storing "schemas" .defaulted (table schemaOrRef) fun value record =>
      { record with schemas := value },
    .storing "parameters" .defaulted (table (orRef parameter)) fun value record =>
      { record with parameters := value },
    .storing "requestBodies" .defaulted (table (orRef requestBody)) fun value record =>
      { record with requestBodies := value },
    .storing "responses" .defaulted (table (orRef response)) fun value record =>
      { record with responses := value },
    .storing "headers" .defaulted (table (orRef header)) fun value record =>
      { record with headers := value },
    .storing "securitySchemes" .defaulted (table (orRef securityScheme)) fun value record =>
      { record with securitySchemes := value }] {}

def specification : Reader Specification :=
  closedRecord "OpenApi" [
    .storing "openapi" .required text fun value record => { record with openapi := value },
    .storing "info" .defaulted info fun value record => { record with info := value },
    .storing "paths" .defaulted paths fun value record => { record with paths := value },
    .storing "components" .defaulted components fun value record =>
      { record with components := value },
    .storing "security" .optional (optional securityRequirements) fun value record =>
      { record with security := value }] { openapi := "" }

end ApiScaffold.OpenApi.Decode
