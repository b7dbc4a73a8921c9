import ApiScaffold.Blueprint.Assembly
import ApiScaffold.Server.Artifact
import ApiScaffold.Storage.Basic

/-!
A run: a document is loaded and compiled, and both files are written. Nothing is written before both
files are complete.
-/

namespace ApiScaffold

variable {m : Type → Type} [Monad m]

def isWebAddress (address : String) : Bool :=
  Text.startsWith "http://" address || Text.startsWith "https://" address

def loadText (storage : Storage m) (address : String) : ExceptT Diagnostic m String := do
  let web := isWebAddress address
  let result ← if web then storage.fetch address else storage.read address
  match result with
  | .ok text => return text
  | .error cause =>
    let what := if web then "failed to fetch document" else "failed to read document"
    throw ((Diagnostic.loadFailed address what).withSource cause)

def writeArtifact (storage : Storage m) (artifact : Server.Artifact) :
    ExceptT Diagnostic m String := do
  match ← storage.write artifact.path artifact.contents with
  | .ok _ => return artifact.path
  | .error cause => throw (Diagnostic.writeFailed artifact.path cause)

def artifactsOf (config : Config) (text : String) :
    Except Diagnostic (Server.Artifact × Server.Artifact) := do
  let document ← OpenApi.Document.ofText text config.swaggerAddress
  Server.Artifact.all (← (Blueprint.compile document config).1)

def generate (storage : Storage m) (config : Config) : ExceptT Diagnostic m (List String) := do
  let text ← loadText storage config.swaggerAddress
  let (components, router) ← ExceptT.mk (pure (artifactsOf config text))
  [components, router].mapM (writeArtifact storage)

end ApiScaffold
