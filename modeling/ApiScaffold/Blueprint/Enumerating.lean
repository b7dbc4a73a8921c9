import ApiScaffold.Blueprint.Shape
import ApiScaffold.Diagnostic.Problem
import ApiScaffold.Identifier.Exported
import ApiScaffold.OpenApi.Schema

/-!
Enumerations of texts or integers. Null members are skipped; every other member has a tag, from which
a constant gets its name, and no two members share one.
-/

namespace ApiScaffold.Blueprint

def EnumLiteral.tag : EnumLiteral → String
  | .string value =>
    let tag := Identifier.normalise value
    if tag.isEmpty then "Empty" else tag
  | .int value => if value < 0 then s!"Minus{value.natAbs}" else toString value

def isTextOrNull : Json → Bool
  | .string _ => true
  | .null => true
  | _ => false

/-- The kind of the members: the declared type decides, and without one the members. -/
def enumBase (schema : OpenApi.Schema) (location : String) : Except Diagnostic PrimitiveKind :=
  match schema.primaryType with
  | some "string" => .ok .string
  | some "integer" => .ok .int
  | some other => .error ((Problem.unsupportedEnumType other).report location)
  | none => .ok (if schema.enum.all isTextOrNull then .string else .int)

def literalOf? (base : PrimitiveKind) : Json → Option EnumLiteral
  | .string value => if base = .string then some (.string value) else none
  | .number value => if base = .int then value.toSigned?.map .int else none
  | _ => none

/-- Collects the members of a list whose first one has the given index. -/
def enumMembers (base : PrimitiveKind) (location : String) (known : List EnumMember) :
    Nat → List Json → Except Diagnostic (List EnumMember)
  | _, [] => .ok known
  | index, .null :: rest => enumMembers base location known (index + 1) rest
  | index, value :: rest =>
    match literalOf? base value with
    | none =>
      .error ((Problem.foreignEnumMember value.kind (base == .string)).report
        s!"{location}/enum/{index}")
    | some literal =>
      match known.find? (·.tag == literal.tag) with
      | some first =>
        .error ((Diagnostic.nameCollision .lower literal.tag s!"`{first.literal.display}`"
          s!"`{literal.display}`").located location)
      | none =>
        enumMembers base location (known ++ [⟨literal.tag, literal⟩]) (index + 1) rest

def enumerationOf (schema : OpenApi.Schema) (location : String) : Except Diagnostic Enumeration := do
  let base ← enumBase schema location
  let members ← enumMembers base location [] 0 schema.enum
  if members.isEmpty then throw (Problem.emptyEnum.report location)
  return { base, members }

end ApiScaffold.Blueprint
