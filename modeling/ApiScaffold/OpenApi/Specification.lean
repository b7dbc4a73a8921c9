import ApiScaffold.OpenApi.Schema

/-!
The definitions of a document around its schemas: parameters, bodies, responses, security schemes,
operations and the paths they stand on. Tables keep the order of the document.
-/

namespace ApiScaffold.OpenApi

/-- Definitions under their names, in the order of the document. -/
abbrev Table (α : Type) := List (String × α)

inductive ParameterPlace where
  | path
  | query
  | header
  | cookie
deriving DecidableEq, Repr

namespace ParameterPlace

def all : List ParameterPlace := [path, query, header, cookie]

def name : ParameterPlace → String
  | path => "path"
  | query => "query"
  | header => "header"
  | cookie => "cookie"

end ParameterPlace

structure Parameter where
  name : String
  place : ParameterPlace
  description : Option String := none
  required : Bool := false
  schema : Option (OrRef Schema) := none
  extensions : Table Json := []

structure MediaType where
  schema : Option (OrRef Schema) := none

structure RequestBody where
  description : Option String := none
  content : Table MediaType := []
  required : Bool := false

structure Header where
  description : Option String := none
  required : Bool := false
  schema : Option (OrRef Schema) := none
  extensions : Table Json := []

structure Response where
  description : Option String := none
  headers : Table (OrRef Header) := []
  content : Table MediaType := []

inductive ApiKeyPlace where
  | header
  | query
  | cookie
deriving DecidableEq, Repr

namespace ApiKeyPlace

def all : List ApiKeyPlace := [header, query, cookie]

def name : ApiKeyPlace → String
  | header => "header"
  | query => "query"
  | cookie => "cookie"

end ApiKeyPlace

inductive SecurityScheme where
  | http (scheme : String) (bearerFormat description : Option String)
  | apiKey (name : String) (place : ApiKeyPlace) (description : Option String)
  | oauth2 (description : Option String)
  | openIdConnect (url description : Option String)
deriving DecidableEq, Repr

abbrev SecurityRequirement := Table (List String)

structure Operation where
  tags : List String := []
  summary : Option String := none
  description : Option String := none
  operationId : Option String := none
  parameters : List (OrRef Parameter) := []
  requestBody : Option (OrRef RequestBody) := none
  responses : Table (OrRef Response) := []
  security : Option (List SecurityRequirement) := none
  deprecated : Bool := false
  extensions : Table Json := []

inductive Method where
  | get
  | put
  | post
  | delete
  | options
  | head
  | patch
  | trace
deriving DecidableEq, Repr

namespace Method

def all : List Method := [get, put, post, delete, options, head, patch, trace]

def name : Method → String
  | get => "get"
  | put => "put"
  | post => "post"
  | delete => "delete"
  | options => "options"
  | head => "head"
  | patch => "patch"
  | trace => "trace"

end Method

structure PathItem where
  reference : Option String := none
  summary : Option String := none
  description : Option String := none
  /-- The operations as they were read. -/
  declared : List (Method × Operation) := []
  parameters : List (OrRef Parameter) := []

namespace PathItem

def operation? (item : PathItem) (method : Method) : Option Operation := item.declared.lookup method

def operations (item : PathItem) : List (Method × Operation) :=
  Method.all.filterMap fun method => (item.operation? method).map (method, ·)

end PathItem

structure Info where
  title : String := ""
  version : String := ""
  description : Option String := none
deriving DecidableEq, Repr

structure Components where
  schemas : Table (OrRef Schema) := []
  parameters : Table (OrRef Parameter) := []
  requestBodies : Table (OrRef RequestBody) := []
  responses : Table (OrRef Response) := []
  headers : Table (OrRef Header) := []
  securitySchemes : Table (OrRef SecurityScheme) := []

structure Specification where
  openapi : String
  info : Info := {}
  paths : Table PathItem := []
  components : Components := {}
  security : Option (List SecurityRequirement) := none

end ApiScaffold.OpenApi
