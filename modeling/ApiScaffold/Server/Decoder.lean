import ApiScaffold.Identifier.Exported
import ApiScaffold.Server.Optional
import ApiScaffold.Server.Validator

/-!
Decoders: methods that read a struct from a document. All fields are first read into a shadow, then
each is checked for presence, trimmed, matched and parsed, and assigned.
-/

namespace ApiScaffold.Server

open Blueprint Go Source

structure FieldReading where
  field : Blueprint.Field Shape
  /-- Absence and null are errors. -/
  checked : Bool
  /-- The function that makes a value of the text. -/
  parser : Option QualifiedName
deriving Repr

/-- The function that parses texts into values of a shape, which stands for `resolved`. -/
def parserOf (resolved : Shape) : Option QualifiedName :=
  match resolved with
  | .custom type => type.parser
  | _ => none

namespace FieldReading

def ofField (outline : Outline) (required : List String) (field : Blueprint.Field Shape) :
    FieldReading :=
  { field
    checked := field.isRequired || required.contains field.jsonName
    parser := parserOf (outline.resolve field.shape) }

def member (reading : FieldReading) : String := Identifier.exported reading.field.jsonName

def key (reading : FieldReading) : String := quote reading.field.jsonName

def shadow (reading : FieldReading) : String := "shadow." ++ reading.member

/-- Whether more happens to the value than that it is assigned. -/
def isTransformed (reading : FieldReading) : Bool :=
  reading.field.trimmable || reading.field.regex.isSome || reading.parser.isSome

/-- Whether the struct needs a decoder for this field. -/
def needsDecoder (reading : FieldReading) : Bool := reading.checked || reading.isTransformed

def shadowType (reading : FieldReading) : TypeExpression :=
  let base := if reading.parser.isSome then .string else typeOf reading.field.shape
  match reading.field.optionality with
  | .required => optional base
  | .optionalNullable => optional base
  | .optional => base
  | .pointer => if reading.checked then optional base else .pointer base

def shadowRow (reading : FieldReading) : List Code := [
  reading.member, reading.shadowType.code, s!"`json:\"{reading.field.jsonName}\"`"]

def failure (reading : FieldReading) (error : String) : Code := [
  .component error, s!"\x7bField: {reading.key}\x7d"]

def presenceGuards (reading : FieldReading) : List Statement := [
  .when s!"{reading.shadow}.IsNull()" [.give [reading.failure "RequiredFieldNullError"]],
  .when s!"!{reading.shadow}.IsSet()" [.give [reading.failure "RequiredFieldMissingError"]]]

def target (receiver : String) (reading : FieldReading) : Code := s!"{receiver}.{reading.member}"

def valueName (reading : FieldReading) : String := variableName (reading.member ++ "Value")

def parsedName (reading : FieldReading) : String := variableName (reading.member ++ "Parsed")

def plainAssignment (receiver : String) (reading : FieldReading) : List Statement :=
  let target := reading.target receiver
  let held : Code := s!"{reading.shadow}.Get()"
  match reading.field.optionality with
  | .required => [.assign target held]
  | .pointer =>
    if reading.checked then
      [.define [reading.valueName] held, .assign target ("&" ++ reading.valueName)]
    else
      [.assign target reading.shadow]
  | .optional => [.assign target reading.shadow]
  | .optionalNullable => [.assign target reading.shadow]

/-- Where the text of the field comes from, and the condition under which there is one. -/
def source (reading : FieldReading) : Option Code × Code :=
  let held : Code := s!"{reading.shadow}.Get()"
  match reading.field.optionality with
  | .required => (none, held)
  | .optional => (some s!"{reading.shadow} != \"\"", reading.shadow)
  | .optionalNullable => (some s!"{reading.shadow}.IsSet()", held)
  | .pointer =>
    if reading.checked then (none, held)
    else (some s!"{reading.shadow} != nil", s!"*{reading.shadow}")

def trimming (reading : FieldReading) : List Statement :=
  if reading.field.trimmable then
    [.assign reading.valueName [
      .qualified Package.strings "TrimSpace", s!"({reading.valueName})"]]
  else []

def regexName (type : String) (reading : FieldReading) : String :=
  variableName (type ++ reading.member ++ "Regex")

def matching (type : String) (reading : FieldReading) : List Statement :=
  if reading.field.regex.isSome then
    let regex := Fragment.own (reading.regexName type)
    [.when ["!", regex, s!".MatchString({reading.valueName})"] [
      .give [[.component "PatternMismatchError", s!"\x7bField: {reading.key}, Pattern: ", regex,
        ".String()\x7d"]]]]
  else []

def parsing (reading : FieldReading) : List Statement :=
  match reading.parser with
  | some parser => [
    .define [reading.parsedName, "err"] [Package.reference parser, s!"({reading.valueName})"],
    .when "err != nil" [
      .give [[.qualified Package.fmt "Errorf", s!"(\"%s: %w\", {reading.key}, err)"]]]]
  | none => []

def finalAssignment (receiver : String) (reading : FieldReading) : Statement :=
  let value := if reading.parser.isSome then reading.parsedName else reading.valueName
  let target := reading.target receiver
  match reading.field.optionality with
  | .required => .assign target value
  | .optional => .assign target value
  | .pointer => .assign target ("&" ++ value)
  | .optionalNullable => .assign target [.component "NewOptional", s!"({value})"]

/-- Trims, matches and parses the text before it is assigned. -/
def transformation (type receiver : String) (reading : FieldReading) : List Statement :=
  .define [reading.valueName] reading.source.2 ::
    (reading.trimming ++ reading.matching type ++ reading.parsing ++
      [reading.finalAssignment receiver])

/-- The value for a field that is absent or null. -/
def emptyAssignment (receiver : String) (reading : FieldReading) : Statement :=
  .assign (reading.target receiver)
    ((optional (typeOf reading.field.shape)).code ++
      [Fragment.text s!"\x7bisNull: {reading.shadow}.IsNull()\x7d"])

def transformedAssignment (type receiver : String) (reading : FieldReading) : List Statement :=
  let body := reading.transformation type receiver
  match reading.source.1 with
  | none => body
  | some guard =>
    match reading.field.optionality with
    | .optionalNullable => [.choose guard body [reading.emptyAssignment receiver]]
    | _ => [.when guard body]

def statements (type receiver : String) (reading : FieldReading) : List Statement :=
  (if reading.checked then reading.presenceGuards else []) ++
    if reading.isTransformed then reading.transformedAssignment type receiver
    else reading.plainAssignment receiver

def mentions (reading : FieldReading) : List Fragment :=
  (reading.parser.map Package.reference).toList ++
    match reading.field.optionality with
    | .optionalNullable => (optional (typeOf reading.field.shape)).code
    | _ => []

end FieldReading

namespace Decoder

/-- Null leaves everything as it is. -/
def acceptNull : Statement := .when "string(data) == \"null\"" [.give ["nil"]]

def unmarshalInto (target : String) : Statement :=
  .when ["err := ", .qualified Package.json "Unmarshal", s!"(data, &{target}); err != nil"]
    giveError

def signature : Code := "(data []byte) error"

def method (type : String) (readings : List FieldReading) : Declaration :=
  let receiver := receiverName type
  { form := .method { name := receiver, type, pointer := true } "UnmarshalJSON" signature
      ([acceptNull,
        .listing "var shadow struct \x7b" (readings.map FieldReading.shadowRow) "\x7d",
        unmarshalInto "shadow"] ++
      readings.flatMap (FieldReading.statements type receiver) ++
      [.give ["nil"]]) }

def mentions (readings : List FieldReading) : List Fragment :=
  [.qualified Package.json "Unmarshal", .qualified Package.fmt "Errorf"] ++
    (if readings.any (·.field.trimmable) then [.qualified Package.strings "TrimSpace"] else []) ++
    [.component "NewOptional"] ++ (readings.flatMap fun reading => reading.shadowType.code) ++
    readings.flatMap FieldReading.mentions

/-- The decoder of a struct, if one of its fields needs it. -/
def part (type : String) (readings : List FieldReading) : Part :=
  if readings.any FieldReading.needsDecoder then
    { mentions := mentions readings, declarations := [method type readings] }
  else {}

end Decoder

end ApiScaffold.Server
