import ApiScaffold.Server.Builder
import ApiScaffold.Server.Parser

/-!
Services: for every tag an interface with its operations, and a router that leads each request to
its parser, to the service, and back. A path without a slash at its end also takes requests with one,
which are sent on.
-/

namespace ApiScaffold.Server.Service

open Blueprint Go Source

def service (tag : String) : String := s!"{tag}Service"

def router (tag : String) : String := s!"{tag}Router"

def constructor (tag : String) : String := s!"New{tag}Router"

def handler (operation : Operation) : String := variableName s!"Handle{operation.name}"

def registration (method : OpenApi.Method) : String :=
  String.ofList (Text.capitalise (Text.lowerChars method.name.toList))

structure Route where
  method : String
  pattern : String
  action : Code
deriving Repr

namespace Route

def ofOperation (operation : Operation) : List Route :=
  let method := registration operation.method
  let route : Route :=
    { method, pattern := operation.path, action := s!"router.{handler operation}" }
  if Text.endsWith "/" operation.path then [route]
  else [route,
    { method
      pattern := operation.path ++ "/"
      action := s!"redirectHandler(router.hooks, {quote operation.name})" }]

def statement (route : Route) : Statement :=
  .plain (code [s!"router.router.{route.method}({quote route.pattern}, ", route.action, ")"])

end Route

def serviceMethod (operation : Operation) (variant : RequestVariant) : Code := [
  s!"{variant.method}(ctx ", .qualified Package.context "Context", ", request ",
  .own variant.typeName, ") ", .own (Builder.interface operation)]

def interface (tag : String) (operations : List Operation) : Declaration :=
  { comment := commentOn (service tag) s!"handles the operations tagged {tag}."
    form := .interface (service tag) (operations.map fun operation =>
      { comment := commentOn operation.name operation.summary
        methods := (RequestVariant.ofOperation operation).map (serviceMethod operation) }) }

def routerType (tag : String) : Declaration :=
  { form := .struct (router tag) "" [
      { members := [
          ⟨"router", [["*", .qualified Package.chi "Mux"]]⟩, ⟨"service", [service tag]⟩,
          ⟨"hooks", ["*Hooks"]⟩, ⟨"processors", ["[]securityProcessor"]⟩] }] }

def routerConstructor (tag : String) : Declaration :=
  { comment := [
      s!"{constructor tag} mounts the {tag} operations on mux, or on a new router when mux is nil."]
    form := .function (constructor tag)
      ["(mux *", .qualified Package.chi "Mux", s!", service {service tag}",
        ", hooks *Hooks, schemas SecuritySchemas, processors ...securityProcessor) ",
        Reply.http "Handler"] [
      .when "mux == nil" [.assign "mux" [.qualified Package.chi "NewRouter", "()"]],
      .when "hooks == nil" [.assign "hooks" "&Hooks\x7b\x7d"],
      .listing s!"router := &{router tag}\x7b" [
        ["router:", "mux,"], ["service:", "service,"], ["hooks:", "hooks,"],
        ["processors:", ("append(append([]securityProcessor\x7b\x7d, processors...), " ++
          "securityProcessors(schemas)...)," : String)]] "\x7d",
      .plain "router.mount()",
      .give ["router"]] }

def receiver (tag : String) : Receiver := { name := "router", type := router tag, pointer := true }

def handlerSignature : Code := code ["(", Reply.writerAndRequest, ")"]

def serveMethod (tag : String) : Declaration :=
  { form := .method (receiver tag) "ServeHTTP" handlerSignature [
      .plain "router.router.ServeHTTP(w, r)"] }

def mountMethod (tag : String) (operations : List Operation) : Declaration :=
  { form := .method (receiver tag) "mount" "()"
      ((operations.flatMap Route.ofOperation).map Route.statement) }

def parserCall (variant : RequestVariant) : Code := [
  .own variant.parser, "(r, router.hooks, router.processors)"]

def mediaLabel (variant : RequestVariant) : String :=
  ((variant.content.map (·.contentType)).map BodyDecoding.mediaType).getD ""

def variantBranch (variant : RequestVariant) : Code × List Statement :=
  (quote (mediaLabel variant), [
    .assign "response" (code [s!"router.service.{variant.method}(r.Context(), ",
      parserCall variant, ")"])])

def responseStatements (operation : Operation) : List Statement :=
  match RequestVariant.ofOperation operation with
  | [variant] => [
    .define ["request"] (parserCall variant),
    .define ["response"] s!"router.service.{variant.method}(r.Context(), request)"]
  | variants => [
    .define ["mediaType", "_", "_"] [
      .qualified Package.mime "ParseMediaType", "(r.Header.Get(\"Content-Type\"))"],
    .zeroed "response" (Fragment.own (Builder.interface operation)),
    .cases "mediaType" (variants.map variantBranch) (some [
      .plain ["w.WriteHeader(", Reply.http "StatusUnsupportedMediaType", ")"], .give []])]

def callRouterHook (hook : String) (operation : Operation) : Statement :=
  .when s!"router.hooks.{hook} != nil" [.plain s!"router.hooks.{hook}(r, {quote operation.name})"]

def handlerMethod (tag : String) (operation : Operation) : Declaration :=
  { form := .method (receiver tag) (handler operation) handlerSignature
      (responseStatements operation ++ [
        callRouterHook "ServiceCompleted" operation,
        .plain s!"writeResponse(w, r, router.hooks, {quote operation.name}, response)",
        callRouterHook "RequestProcessingCompleted" operation]) }

def handlerPart (tag : String) (operation : Operation) : Part :=
  { declares := [(s!"{router tag}.{handler operation}", Request.owner operation)]
    mentions :=
      if (RequestVariant.ofOperation operation).length > 1 then
        [.qualified Package.mime "ParseMediaType"] else []
    declarations := [handlerMethod tag operation] }

def part (tag : String) (operations : List Operation) : Part :=
  let names := [service tag, router tag, constructor tag]
  let main : Part :=
    { declares := names.map (·, s!"tag {tag}")
      mentions := [
        .qualified Package.context "Context", .qualified Package.chi "Mux",
        .qualified Package.chi "NewRouter"]
      declarations := [
        interface tag operations, routerType tag, routerConstructor tag, serveMethod tag,
        mountMethod tag operations] }
  main ++ Part.join (operations.map (handlerPart tag))

end ApiScaffold.Server.Service
