import ApiScaffold.Server.Types

/-!
Conversions between texts and values: of parameters, which arrive as texts, and of response headers,
which leave as texts.
-/

namespace ApiScaffold.Server

open Blueprint Go Source

inductive Conversion where
  /-- An expression that cannot fail. -/
  | direct (value : Code)
  /-- An expression for a value and an error. -/
  | fallible (call : Code)
  /-- A member of an enumeration of texts, to be checked. -/
  | member (value : Code)
  /-- A member of an enumeration of integers, of a type, to be checked. -/
  | intMember (type : Code)
  /-- A value that checks itself. -/
  | validated (value : Code)
deriving Repr

/-- The call of `function` on `argument`. -/
def call (function : Code) (argument : Code) : Code := code [function, "(", argument, ")"]

def primitiveConversion (kind : PrimitiveKind) (raw : Code) : Conversion :=
  match kind with
  | .string => .direct raw
  | .time => .direct raw
  | .int => .fallible (call (Fragment.qualified Package.strconv "Atoi") raw)
  | .float =>
    .fallible (call (Fragment.qualified Package.strconv "ParseFloat") (code [raw, ", 64"]))
  | .bool => .fallible (call (Fragment.qualified Package.strconv "ParseBool") raw)
  | .uuid => .fallible (call (Fragment.qualified Package.uuid "Parse") raw)
  | kind =>
    let value := call (primitiveType kind).code raw
    if checksItself kind then .validated value else .direct value

/-- The conversion of the text `raw` into a value of `shape`, which stands for `resolved`. -/
def conversionOf (shape resolved : Shape) (raw : Code) : Conversion :=
  match resolved with
  | .enum enumeration =>
    if enumeration.base == .int then .intMember (typeOf shape).code
    else .member (call (typeOf shape).code raw)
  | .custom type =>
    match type.parser with
    | some parser => .fallible (call (Package.reference parser) raw)
    | none => .direct (call (typeOf shape).code raw)
  | .primitive primitive => primitiveConversion primitive.kind raw
  | _ => .direct raw

def primitiveText (kind : PrimitiveKind) (value : Code) : Code :=
  match kind with
  | .string => value
  | .time => value
  | .int => call (Fragment.qualified Package.strconv "Itoa") value
  | .float =>
    call (Fragment.qualified Package.strconv "FormatFloat") (code [value, ", 'f', -1, 64"])
  | .bool => call (Fragment.qualified Package.strconv "FormatBool") value
  | .uuid => code [value, ".String()"]
  | _ => call "string" value

/-- The text of `value`, whose shape stands for `resolved`. -/
def textOf (resolved : Shape) (value : Code) : Code :=
  match resolved with
  | .enum enumeration =>
    if enumeration.base == .int then
      call (Fragment.qualified Package.strconv "Itoa") (call "int" value)
    else call "string" value
  | .primitive primitive => primitiveText primitive.kind value
  | _ => call (Fragment.qualified Package.fmt "Sprint") value

end ApiScaffold.Server
