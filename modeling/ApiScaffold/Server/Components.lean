import ApiScaffold.Server.Decoder
import ApiScaffold.Server.Outcome

/-!
The components of a program as declarations: structs with decoders and validators, enumerations, and
aliases of other types.
-/

namespace ApiScaffold.Server

open Blueprint Go Source

/-- Puts every member with a comment at the head of a group of its own. -/
def memberGroups (members : List (List String × Bool × Entry)) : List MemberGroup :=
  let grouped := members.foldr
    (fun (comment, starts, member) (pending, groups) =>
      if starts then ([], { comment, members := member :: pending } :: groups)
      else (member :: pending, groups)) ([], [])
  { members := grouped.1 } :: grouped.2

namespace Component

/-- The tag of a member: its name in documents, and when it is left out of them. -/
def tag (field : Blueprint.Field Shape) : String :=
  let omitEmpty := if field.omitEmpty then ",omitempty" else ""
  let omitted :=
    if field.omitEmpty && field.optionality == .optionalNullable then ",omitzero" else omitEmpty
  let name := field.jsonName
  s!"`json:\"{name}{omitted}\" xml:\"{name}{omitEmpty}\"`"

def memberOf (field : Blueprint.Field Shape) : List String × Bool × Entry :=
  let name := Identifier.exported field.jsonName
  (commentOn name field.description, field.description.isSome,
    ⟨name, [(fieldType field).code, tag field]⟩)

def regexVariable (type : String) (field : Blueprint.Field Shape) : Option PatternVariable :=
  field.regex.map fun pattern =>
    ⟨variableName (type ++ Identifier.exported field.jsonName ++ "Regex"), pattern⟩

def patternName (type : String) (field : Blueprint.Field Shape) : String :=
  variableName (type ++ Identifier.exported field.jsonName ++ "Pattern")

def patternVariable (outline : Outline) (type : String) (field : Blueprint.Field Shape) :
    Option PatternVariable :=
  if (outline.rules field).contains .pattern then
    field.constraints.pattern.map fun pattern => ⟨patternName type field, pattern⟩
  else none

def patternVariables (outline : Outline) (type : String) (validated : Bool)
    (fields : List (Blueprint.Field Shape)) : List PatternVariable :=
  fields.flatMap fun field =>
    (regexVariable type field).toList ++
      if validated then (patternVariable outline type field).toList else []

/-- Absent texts of a kind that checks itself are not checked. -/
def skipsWhenEmpty (outline : Outline) (field : Blueprint.Field Shape) : Bool :=
  field.optionality == .optional && (outline.resolve field.shape).kind?.any checksItself

def fieldCheck (outline : Outline) (type : String) (field : Blueprint.Field Shape) : Code :=
  let receiver := receiverName type
  let member := Identifier.exported field.jsonName
  Validator.check receiver member
    ((if skipsWhenEmpty outline field then [Validator.skipWhenEmpty receiver member] else []) ++
      (outline.rules field).map (Rule.code (patternName type field)))

def validatorPart (outline : Outline) (type : String) (fields : List (Blueprint.Field Shape)) :
    Part :=
  { mentions := Validator.mentions
    declarations := [Validator.method type
      ((fields.filter outline.fieldValidates).map (fieldCheck outline type))] }

def structPart (outline : Outline) (component : Component) (comment : List String)
    (fields : List (Blueprint.Field Shape)) (required : List String) : Part :=
  let type := component.name
  let validated := !component.skipValidation && outline.hasValidator type
  let struct : Part :=
    { mentions := fields.flatMap fun field => (fieldType field).code
      declarations := [
        { comment, form := .struct type "" (memberGroups (fields.map memberOf)) }] }
  struct ++
    PatternVariable.part s!"pattern of {type}" (patternVariables outline type validated fields) ++
    Decoder.part type (fields.map (FieldReading.ofField outline required)) ++
    if validated then validatorPart outline type fields else {}

def constantName (type : String) (member : EnumMember) : String := type ++ member.tag

def literalCode : EnumLiteral → String
  | .string value => quote value
  | .int value => toString value

def constantEntry (type : String) (member : EnumMember) : Entry :=
  ⟨constantName type member, [type, "=", literalCode member.literal]⟩

def memberCheck (type : String) (members : List EnumMember) : Declaration :=
  let receiver := receiverName type
  let constants := members.map fun member => ([.own (constantName type member)] : Code)
  { form := .method { name := receiver, type } "Check" "() error" [
      .cases receiver [(separated ", " constants, [.give ["nil"]])]
        (some [.give [[.component "InvalidEnumValueError",
          s!"\x7bType: {quote type}, Value: {receiver}\x7d"]]])] }

def memberDecoder (type : String) (base : PrimitiveKind) : Declaration :=
  let receiver := receiverName type
  { form := .method { name := receiver, type, pointer := true } "UnmarshalJSON" Decoder.signature [
      Decoder.acceptNull,
      .zeroed "value" (primitiveType base).code,
      Decoder.unmarshalInto "value",
      .define ["result"] s!"{type}(value)",
      .when "err := result.Check(); err != nil" giveError,
      .assign ("*" ++ receiver) "result",
      .give ["nil"]] }

def enumPart (type : String) (comment : List String) (enumeration : Enumeration) : Part :=
  let members := enumeration.members
  { declares := members.map fun member => (constantName type member, s!"member of {type}")
    mentions := (primitiveType enumeration.base).code ++ [.qualified Package.json "Unmarshal"]
    declarations := [
      { comment, form := .type type (primitiveType enumeration.base).code },
      { form := .constants (members.map (constantEntry type)) },
      memberCheck type members,
      memberDecoder type enumeration.base] }

def aliasPart (type : String) (comment : List String) (shape : Shape) : Part :=
  { mentions := (typeOf shape).code
    declarations := [{ comment, form := .synonym type (typeOf shape).code }] }

def shapePart (outline : Outline) (component : Component) (comment : List String) : Part :=
  match component.shape with
  | .object [] _ .forbidden =>
    { declarations := [{ comment, form := .type component.name "struct\x7b\x7d" }] }
  | .object (field :: fields) required _ =>
    structPart outline component comment ((field :: fields).map (·.2)) required
  | .enum enumeration => enumPart component.name comment enumeration
  | shape => aliasPart component.name comment shape

def part (outline : Outline) (component : Component) : Part :=
  let name : Part := { declares := [(component.name, component.origin.display)] }
  name ++ shapePart outline component (commentOn component.name component.description)

end Component

def componentsPart (program : Program) : Part :=
  let outline := Outline.ofProgram program
  Outcome.part ++ Part.join (program.components.values.map (Component.part outline))

end ApiScaffold.Server
