import ApiScaffold.Server.ParameterReading

/-!
Parsers: functions that make a request type of a request. The requirements of security are checked
first, then come the parameters place by place, then the body.
-/

namespace ApiScaffold.Server

open Blueprint Go Source

inductive BodyDecoding where
  | json
  | xml
  /-- All of it, as a text or as bytes. -/
  | raw (text : Bool)
deriving DecidableEq, Repr

namespace BodyDecoding

/-- The media type alone: without parameters, in lower case. -/
def mediaType (contentType : String) : String :=
  Text.lower (Text.trim (Text.firstSegment ';' contentType))

/-- XML has a media type of its own, or another one with its ending. -/
def ofMediaType (media : String) : BodyDecoding :=
  if Text.endsWith "/xml" media || Text.endsWith "+xml" media then xml else json

/-- The decoding of a content, whose shape stands for `resolved`. -/
def ofContent (resolved : Shape) (content : BodyContent) : BodyDecoding :=
  let media := mediaType content.contentType
  match resolved.kind? with
  | some .bytes => raw false
  | some .string => if Text.startsWith "text/" media then raw true else ofMediaType media
  | _ => ofMediaType media

def decoderCall (path : String) : Code := [
  .qualified path "NewDecoder", "(r.Body).Decode(&request.Body)"]

def code : BodyDecoding → Code
  | json => decoderCall Package.json
  | xml => decoderCall Package.xml
  | raw _ => [.qualified Package.io "ReadAll", "(r.Body)"]

end BodyDecoding

structure BodyReading where
  operationKey : String
  decoding : BodyDecoding
  required : Bool
  validates : Bool
deriving DecidableEq, Repr

namespace BodyReading

def ofContent (outline : Outline) (operation : Operation) (content : BodyContent) : BodyReading :=
  { operationKey := quote operation.name
    decoding := BodyDecoding.ofContent (outline.resolve content.shape) content
    required := operation.requestBody.any (·.required)
    validates := outline.nestedValidates content.shape }

def refuse (reading : BodyReading) (error : Code) : List Statement :=
  fail "BodyUnmarshalFailed" error "RequestBodyUnmarshalFailed" [reading.operationKey]

/-- Reads the body; an optional one may be empty. -/
def decodingStatements (reading : BodyReading) : List Statement :=
  match reading.decoding with
  | .raw text => [
    .define ["body", "err"] reading.decoding.code,
    .when "err != nil" (reading.refuse "err"),
    .assign "request.Body" (if text then "string(body)" else "body")]
  | decoding =>
    if reading.required then
      [.when (code ["err := ", decoding.code, "; err != nil"]) (reading.refuse "err")]
    else [
      .define ["decodeErr"] decoding.code,
      .when ["decodeErr != nil && !", .qualified Package.errors "Is", "(decodeErr, ",
        .qualified Package.io "EOF", ")"] (reading.refuse "decodeErr")]

/-- Whether there may be no body after all. -/
def mayBeEmpty (reading : BodyReading) : Bool :=
  match reading.decoding with
  | .raw _ => false
  | _ => !reading.required

def validation (reading : BodyReading) : List Statement :=
  let check : Statement :=
    .when ["err := ", .qualified Package.validation "Validate", "(request.Body); err != nil"]
      (fail "BodyValidationFailed" "err" "RequestBodyValidationFailed" [reading.operationKey])
  if !reading.validates then []
  else if reading.mayBeEmpty then [.when "decodeErr == nil" [check]]
  else [check]

def statements (reading : BodyReading) : List Statement :=
  .gap :: reading.decodingStatements ++
    [Reply.callHook "RequestBodyUnmarshalCompleted" ["r", reading.operationKey]] ++
    reading.validation

def mentions (reading : BodyReading) : List Fragment :=
  reading.decoding.code ++
    (if reading.required then []
      else [.qualified Package.errors "Is", .qualified Package.io "EOF"]) ++
    if reading.validates then [.qualified Package.validation "Validate"] else []

end BodyReading

namespace Parser

/-- The requirements of an operation: alternatives of schemes. -/
def alternatives (operation : Operation) : Code :=
  let names (schemes : List String) : Code :=
    separated ", " (schemes.map fun scheme => [Fragment.own (Security.scheme scheme)])
  let groups := operation.security.map fun schemes => code ["\x7b", names schemes, "\x7d"]
  code ["[][]SecurityScheme\x7b", separated ", " groups, "\x7d"]

def securityStatements (operation : Operation) : List Statement :=
  if operation.hasSecurity then
    [.when (code [s!"result, ok := checkSecurity(r, hooks, processors, {quote operation.name}, ",
        alternatives operation, "); !ok"]) [
      .assign "request.ProcessingResult" "result", .give []]]
  else []

def placeStatements (outline : Outline) (operation : Operation) (place : Place) :
    List Statement :=
  let title := place.title
  let key : Code := quote operation.name
  let readings :=
    (operation.parametersIn place).map (ParameterReading.ofParameter outline operation)
  .gap :: readings.flatMap ParameterReading.statements ++
    [Reply.callHook s!"Request{title}ParseCompleted" ["r", key]] ++
    if Request.validatesPlace outline operation place then
      [.when s!"err := request.{title}.Validate(); err != nil"
        (fail (title ++ "ValidationFailed") "err" s!"Request{title}ValidationFailed" [key])]
    else []

def bodyReading (outline : Outline) (operation : Operation) (variant : RequestVariant) :
    Option BodyReading :=
  variant.content.map (BodyReading.ofContent outline operation)

def statements (outline : Outline) (operation : Operation) (variant : RequestVariant) :
    List Statement :=
  [.assign "request.ProcessingResult" (Security.outcome "ParseSucceed" "nil")] ++
    securityStatements operation ++
    (Request.places operation).flatMap (placeStatements outline operation) ++
    (bodyReading outline operation variant).toList.flatMap BodyReading.statements ++
    [.gap, Reply.callHook "RequestParseCompleted" ["r", quote operation.name], .give []]

def function (outline : Outline) (operation : Operation) (variant : RequestVariant) :
    Declaration :=
  { form := .function variant.parser
      ["(r *", .qualified Package.http "Request",
        ", hooks *Hooks, processors []securityProcessor) (request ", .own variant.typeName, ")"]
      (statements outline operation variant) }

def placeMentions (outline : Outline) (operation : Operation) (place : Place) : List Fragment :=
  (operation.parametersIn place).flatMap fun parameter =>
    (ParameterReading.ofParameter outline operation parameter).mentions

def mentions (outline : Outline) (operation : Operation) (variant : RequestVariant) :
    List Fragment :=
  [.qualified Package.http "Request"] ++
    (Request.places operation).flatMap (placeMentions outline operation) ++
    (bodyReading outline operation variant).toList.flatMap BodyReading.mentions

end Parser

namespace Request

def variantPart (outline : Outline) (operation : Operation) (variant : RequestVariant) : Part :=
  { declares := [(variant.typeName, owner operation), (variant.parser, owner operation)]
    mentions :=
      (variant.content.toList.flatMap fun content => (typeOf content.shape).code) ++
        Parser.mentions outline operation variant
    declarations := [
      { form := .struct variant.typeName "" [{ members := members operation variant }] },
      Parser.function outline operation variant] }

def part (outline : Outline) (operation : Operation) : Part :=
  Part.join (Place.all.map (placePart outline operation)) ++ patternPart outline operation ++
    { mentions := [Hooks.result] } ++
    Part.join ((RequestVariant.ofOperation operation).map (variantPart outline operation))

end Request

end ApiScaffold.Server
