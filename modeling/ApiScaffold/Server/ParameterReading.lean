import ApiScaffold.Server.Request

/-!
Reading parameters: a text is taken from the request, trimmed, matched and converted. A missing
required parameter and a text that is refused end the parsing.
-/

namespace ApiScaffold.Server

open Blueprint Go Source

/-- Records an outcome, calls its hook and returns. -/
def fail (kind : String) (error : Code) (hook : String) (arguments : List Code) :
    List Statement := [
  .assign "request.ProcessingResult" (Security.outcome kind error),
  Reply.callHook hook (("r" : Code) :: arguments ++ [("request.ProcessingResult" : Code)]),
  .give []]

structure ParameterReading where
  operation : Operation
  parameter : Parameter
  /-- All texts under the key are read. -/
  repeated : Bool
  conversion : Conversion
deriving Repr

namespace ParameterReading

def rawName (parameter : Parameter) : String := Request.localName parameter "Raw"

def ofParameter (outline : Outline) (operation : Operation) (parameter : Parameter) :
    ParameterReading :=
  let shape := parameter.field.shape
  let resolved := outline.resolve shape
  let element :=
    match resolved with
    | .array element _ _ => element
    | _ => shape
  { operation
    parameter
    repeated := isArray resolved
    conversion := conversionOf element (outline.resolve element) (rawName parameter) }

def raw (reading : ParameterReading) : String := rawName reading.parameter

def value (reading : ParameterReading) : String := Request.localName reading.parameter "Value"

def key (reading : ParameterReading) : String := quote reading.parameter.name

/-- Where the text comes from; a list comes from all texts under its key. -/
def source (reading : ParameterReading) : Code :=
  match reading.parameter.place with
  | .path => [.qualified Package.chi "URLParam", s!"(r, {reading.key})"]
  | .query =>
    if reading.repeated then s!"r.URL.Query()[{reading.key}]"
    else s!"r.URL.Query().Get({reading.key})"
  | .header => s!"r.Header.Get({reading.key})"

def target (reading : ParameterReading) : String :=
  s!"request.{reading.parameter.place.title}.{Request.memberName reading.parameter}"

def refuse (reading : ParameterReading) (error : Code) : List Statement :=
  let title := reading.parameter.place.title
  fail (title ++ "ParseFailed") error s!"Request{title}ParseFailed"
    [quote reading.operation.name, reading.key]

def missing (reading : ParameterReading) : Code := [
  .own "RequiredParameterMissingError", s!"\x7bParameter: {reading.key}\x7d"]

def trimming (reading : ParameterReading) : List Statement :=
  if reading.parameter.field.trimmable then
    [.assign reading.raw [.qualified Package.strings "TrimSpace", s!"({reading.raw})"]]
  else []

def matching (reading : ParameterReading) : List Statement :=
  if reading.parameter.field.regex.isSome then
    let regex := Fragment.own (Request.patternName reading.operation reading.parameter "Regex")
    [.when ["!", regex, s!".MatchString({reading.raw})"]
      (reading.refuse [.component "PatternMismatchError", s!"\x7bField: {reading.key}, Pattern: ",
        regex, ".String()\x7d"])]
  else []

def selfCheck (reading : ParameterReading) (method : String) : Statement :=
  .when s!"err := {reading.value}.{method}(); err != nil" (reading.refuse "err")

def orRefuse (reading : ParameterReading) : Statement :=
  .when "err != nil" (reading.refuse "err")

def numberName (reading : ParameterReading) : String := reading.value ++ "Int"

def converting (reading : ParameterReading) : List Statement :=
  let value := reading.value
  match reading.conversion with
  | .direct expression => [.define [value] expression]
  | .fallible call => [.define [value, "err"] call, reading.orRefuse]
  | .member expression => [.define [value] expression, reading.selfCheck "Check"]
  | .validated expression => [.define [value] expression, reading.selfCheck "Validate"]
  | .intMember type => [
    .define [reading.numberName, "err"] [.qualified Package.strconv "Atoi", s!"({reading.raw})"],
    reading.orRefuse,
    .define [value] (call type reading.numberName),
    reading.selfCheck "Check"]

def arrayStatements (reading : ParameterReading) : List Statement :=
  (if reading.parameter.field.isRequired then
    [.when (code ["len(", reading.source, ") == 0"]) (reading.refuse reading.missing)] else []) ++
  [.each ["_", reading.raw] reading.source
    (reading.trimming ++ reading.matching ++ reading.converting ++
      [.assign reading.target s!"append({reading.target}, {reading.value})"])]

def singleStatements (reading : ParameterReading) : List Statement :=
  let converted := reading.matching ++ reading.converting
  .define [reading.raw] reading.source :: reading.trimming ++
    if reading.parameter.field.isRequired then
      .when s!"{reading.raw} == \"\"" (reading.refuse reading.missing) :: converted ++
        [.assign reading.target reading.value]
    else
      [.when s!"{reading.raw} != \"\""
        (converted ++ [.plain s!"{reading.target}.Set({reading.value})"])]

def statements (reading : ParameterReading) : List Statement :=
  if reading.repeated then reading.arrayStatements else reading.singleStatements

def conversionMentions : Conversion → List Fragment
  | .direct value => value
  | .fallible call => call
  | .member value => value
  | .intMember type => type ++ [.qualified Package.strconv "Atoi"]
  | .validated value => value

def mentions (reading : ParameterReading) : List Fragment :=
  reading.source ++ conversionMentions reading.conversion ++
    if reading.parameter.field.trimmable then [.qualified Package.strings "TrimSpace"] else []

end ParameterReading

end ApiScaffold.Server
