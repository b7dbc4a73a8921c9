import ApiScaffold.Server.Components
import ApiScaffold.Server.Service

/-!
The two files of a program: its components, and its router. Both can be of one package; then no name
of the one may be declared in the other.
-/

namespace ApiScaffold.Server

open Blueprint Go Source

structure Artifact where
  path : String
  contents : String
deriving DecidableEq, Repr

/-- The document itself, as a text. -/
def documentPart (program : Program) : Part :=
  { declares := [("OpenAPISpec", "document")]
    declarations := [
      { comment := ["OpenAPISpec is the source document, keys sorted, as JSON."]
        form := .global "OpenAPISpec" s!"[]byte({quote program.document})" }] }

def operationPart (outline : Outline) (operation : Operation) : Part :=
  Request.part outline operation ++ Builder.part outline.program operation

def routerPart (program : Program) : Part :=
  let outline := Outline.ofProgram program
  Reply.part ++ Hooks.part ++ Security.part program.securitySchemes ++
    Part.join (program.operations.map (operationPart outline)) ++
    Part.join (program.tags.map fun (tag, operations) => Service.part tag operations) ++
    documentPart program

namespace Artifact

def componentsScope (config : Config) : Scope := { package := config.componentsHome }

def routerScope (config : Config) : Scope :=
  { package := config.package, components := config.componentsImportPath }

/-- The names of the components that the router's package has already. -/
def sharedNames (config : Config) (declared : Declared) : Declared :=
  if config.componentsImportPath.isNone then declared.sorted else []

/-- The file of components, and the names that a router in the same package cannot declare. -/
def components (program : Program) : Except Diagnostic (Artifact × Declared) := do
  let part := componentsPart program
  let declared ← Declared.addAll [] part.declares
  let config := program.config
  let contents := File.write config.componentsPackageName (componentsScope config) part
  return ({ path := config.componentsFile, contents }, sharedNames config declared)

/-- The file of the router, in a package where `shared` are declared. -/
def router (program : Program) (shared : Declared) : Except Diagnostic Artifact := do
  let part := routerPart program
  let _ ← Declared.addAll [] (shared ++ part.declares)
  let config := program.config
  let contents := File.write config.routerPackageName (routerScope config) part
  return { path := config.routerFile, contents }

def all (program : Program) : Except Diagnostic (Artifact × Artifact) := do
  let (components, shared) ← components program
  let router ← router program shared
  return (components, router)

end Artifact

end ApiScaffold.Server
