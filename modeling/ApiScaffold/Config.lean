import ApiScaffold.Identifier.Package

/-!
What a run is asked for: the document, and the packages and directories of the two files. Components
go into a package of their own only if one is named.
-/

namespace ApiScaffold

structure Config where
  swaggerAddress : String := "swagger.yaml"
  package : String
  path : String
  componentsPackage : Option String := none
  componentsPath : Option String := none
deriving DecidableEq, Repr

namespace Config

def routerFileName : String := "router.go"

def componentsFileName : String := "components.go"

/-- A name inside of a directory; the empty path is where the run takes place. -/
def joinPath (directory name : String) : String :=
  if directory.isEmpty then name
  else if directory.toList.getLast? = some '/' then directory ++ name
  else directory ++ "/" ++ name

def routerPackageName (config : Config) : String := Identifier.packageClause config.package

/-- The import path of the package that holds the components. -/
def componentsHome (config : Config) : String := config.componentsPackage.getD config.package

def componentsPackageName (config : Config) : String := Identifier.packageClause config.componentsHome

/-- The import path of the components, if they are in another package than the router. -/
def componentsImportPath (config : Config) : Option String :=
  config.componentsPackage.filter (· != config.package)

def routerFile (config : Config) : String := joinPath config.path routerFileName

def componentsFile (config : Config) : String :=
  joinPath (config.componentsPath.getD config.path) componentsFileName

end Config

end ApiScaffold
