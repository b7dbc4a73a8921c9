import ApiScaffold.Registry
import ApiScaffold.Blueprint.Shape
import ApiScaffold.Blueprint.Status
import ApiScaffold.Config
import ApiScaffold.Diagnostic.Problem
import ApiScaffold.OpenApi.Reference

/-!
The program that is generated from a document: its components, its operations and its security
schemes. It is closed, as every name in it is that of a component.
-/

namespace ApiScaffold.Blueprint

/-- Where a component comes from. -/
inductive Origin where
  /-- A schema under its key. -/
  | declared (key : String)
  /-- A schema without a name of its own, at a place of the document. -/
  | inside (location : String)
deriving DecidableEq, Repr

namespace Origin

def display : Origin → String
  | declared key => OpenApi.schemasPlace ++ key
  | inside location => location

end Origin

structure Component where
  name : String
  shape : Shape
  description : Option String
  origin : Origin
  skipValidation : Bool
deriving Repr

inductive Place where
  | path
  | query
  | header
deriving DecidableEq, Repr

namespace Place

def all : List Place := [path, query, header]

def title : Place → String
  | path => "Path"
  | query => "Query"
  | header => "Header"

end Place

structure Parameter where
  name : String
  place : Place
  field : Field Shape
deriving Repr

structure BodyContent where
  contentType : String
  tag : String
  shape : Shape
deriving Repr

structure RequestBody where
  required : Bool
  contents : List BodyContent
deriving Repr

structure ResponseHeader where
  name : String
  field : Field Shape
deriving Repr

structure Response where
  status : Status
  description : Option String
  contents : List BodyContent
  headers : List ResponseHeader
deriving Repr

inductive SchemeKind where
  | httpBearer
  | httpBasic
  | apiKey (place : OpenApi.ApiKeyPlace) (name : String)
  /-- What identifies a caller is left to the user. -/
  | oauth2
deriving DecidableEq, Repr

structure SecurityScheme where
  name : String
  kind : SchemeKind
deriving DecidableEq, Repr

structure Operation where
  name : String
  method : OpenApi.Method
  path : String
  tag : String
  summary : Option String
  description : Option String
  parameters : List Parameter
  requestBody : Option RequestBody
  responses : List Response
  /-- The names of schemes that must all pass, in alternatives; without one nothing is checked. -/
  security : List (List String)
  skipSecurityCheck : Bool
deriving Repr

namespace Operation

def parametersIn (operation : Operation) (place : Place) : List Parameter :=
  operation.parameters.filter (·.place == place)

def hasSecurity (operation : Operation) : Bool :=
  !operation.skipSecurityCheck && !operation.security.isEmpty

def bodyContents (operation : Operation) : List BodyContent :=
  match operation.requestBody with
  | some body => body.contents
  | none => []

end Operation

/-- Follows at most `steps` names to what they stand for. -/
def resolveWithin (components : Registry Component) : Nat → Shape → Shape
  | steps + 1, .named name =>
    match components.find? name with
    | some component => resolveWithin components steps component.shape
    | none => .named name
  | _, shape => shape

/-- The shape that a chain of names ends at; a chain with more steps than there are components
never ends. -/
def resolveIn (components : Registry Component) (shape : Shape) : Shape :=
  resolveWithin components (components.length + 1) shape

structure Program where
  title : String
  components : Registry Component
  operations : List Operation
  securitySchemes : List SecurityScheme
  /-- The text of the document, which the generated program shows. -/
  document : String
  config : Config
deriving Repr

namespace Program

def component? (program : Program) (name : String) : Option Component := program.components.find? name

def securityScheme? (program : Program) (name : String) : Option SecurityScheme :=
  program.securitySchemes.find? (·.name == name)

def resolve (program : Program) (shape : Shape) : Shape := resolveIn program.components shape

/-- The operations of each tag, tags in order. -/
def tags (program : Program) : Registry (List Operation) :=
  program.operations.foldl
    (fun tags operation =>
      tags.insert operation.tag ((tags.find? operation.tag).getD [] ++ [operation])) []

/-- Every shape that a program holds, with what it belongs to. -/
def rootsOfOperation (operation : Operation) : List (String × Shape) :=
  let owner := s!"operation {operation.name}"
  (operation.parameters.map fun parameter =>
    (s!"{owner} parameter {parameter.name}", parameter.field.shape)) ++
  (operation.bodyContents.map fun content =>
    (s!"{owner} body {content.contentType}", content.shape)) ++
  operation.responses.flatMap fun response =>
    (response.contents.map fun content =>
      (s!"{owner} response {response.status.label}", content.shape)) ++
    response.headers.map fun header => (s!"{owner} header {header.name}", header.field.shape)

def roots (program : Program) : List (String × Shape) :=
  (program.components.values.map fun component =>
    (s!"component {component.name}", component.shape)) ++
  program.operations.flatMap rootsOfOperation

/-- The first name without a component, and what it belongs to. -/
def danglingReference? (program : Program) : Option (String × String) :=
  program.roots.findSome? fun (owner, shape) =>
    (shape.references.find? fun name => (program.component? name).isNone).map (owner, ·)

/-- A program in which a name has no component cannot be generated. -/
def checkClosure (program : Program) : Except Diagnostic Unit :=
  match program.danglingReference? with
  | some (owner, missing) => .error ((Problem.unregistered missing).report owner)
  | none => .ok ()

end Program

end ApiScaffold.Blueprint
