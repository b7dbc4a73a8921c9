import ApiScaffold.Blueprint.Program
import ApiScaffold.Go.Package
import ApiScaffold.Go.TypeExpression

/-!
The types that shapes have in a generated program. Shapes without a type of their own are values of
any type.
-/

namespace ApiScaffold.Server

open Blueprint Go Source

def primitiveType : PrimitiveKind → TypeExpression
  | .bool => .bool
  | .int => .int
  | .float => .float64
  | .string => .string
  | .time => .string
  | .bytes => .bytes
  | .uuid => .named (.qualified Package.uuid "UUID")
  | .email => .named (.qualified Package.email "Email")
  | .rawJson => .named (.qualified Package.json "RawMessage")
  | .countryA2 => .named (.qualified Package.country "Alpha2Code")
  | .countryA3 => .named (.qualified Package.country "Alpha3Code")
  | .currencyCode => .named (.qualified Package.currency "Code")

/-- Kinds whose values check themselves. -/
def checksItself : PrimitiveKind → Bool
  | .email => true
  | .countryA2 => true
  | .countryA3 => true
  | .currencyCode => true
  | _ => false

mutual
def typeOf : Shape → TypeExpression
  | .primitive primitive => primitiveType primitive.kind
  | .array element _ _ => .slice (typeOf element)
  | .object fields _ additional => mapTypeOf fields.isEmpty additional
  | .enum enumeration => primitiveType enumeration.base
  | .named name => .named (.component name)
  | .anyOf _ => .anything
  | .oneOf _ => .anything
  | .allOf _ => .anything
  | .custom type => .named (Package.reference type.target)
termination_by structural shape => shape

/-- The type of an object without a name; `empty` tells that it declares no fields. -/
def mapTypeOf (empty : Bool) : Additional Shape → TypeExpression
  | .forbidden => .anything
  | .any => if empty then .map .anything else .anything
  | .typed shape => .map (typeOf shape)
  | .goMapType expression => .verbatim expression
termination_by structural additional => additional
end

def optional (type : TypeExpression) : TypeExpression := .applied (.component "Optional") type

def fieldType (field : Blueprint.Field Shape) : TypeExpression :=
  match field.optionality with
  | .required => typeOf field.shape
  | .optional => typeOf field.shape
  | .optionalNullable => optional (typeOf field.shape)
  | .pointer => .pointer (typeOf field.shape)

def isArray : Shape → Bool
  | .array _ _ _ => true
  | _ => false

/-- The type of a parameter or of a response header; `resolved` is what its shape stands for. -/
def scalarFieldType (resolved : Shape) (field : Blueprint.Field Shape) : TypeExpression :=
  if field.isRequired || isArray resolved then typeOf field.shape
  else optional (typeOf field.shape)

theorem typeOf_anything : typeOf Shape.anything = .anything := rfl

end ApiScaffold.Server
