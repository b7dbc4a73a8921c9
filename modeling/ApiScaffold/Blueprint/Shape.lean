import ApiScaffold.Identifier.Qualified
import ApiScaffold.Number.Written

/-!
Shapes: what schemas come down to. A shape says which values there are and how they are written;
a named one stands for a component, and no shape refers to anything outside of its program.
-/

namespace ApiScaffold.Blueprint

inductive PrimitiveKind where
  | bool
  | int
  | float
  | string
  | bytes
  | time
  | uuid
  | email
  | rawJson
  | countryA2
  | countryA3
  | currencyCode
deriving DecidableEq, Repr

namespace PrimitiveKind

/-- Kinds whose values are texts when a program runs. -/
def isTextual : PrimitiveKind → Bool
  | string => true
  | time => true
  | email => true
  | countryA2 => true
  | countryA3 => true
  | currencyCode => true
  | _ => false

def isNumeric : PrimitiveKind → Bool
  | int => true
  | float => true
  | _ => false

end PrimitiveKind

structure Primitive where
  kind : PrimitiveKind
  format : Option String := none
deriving DecidableEq, Repr

inductive EnumLiteral where
  | string (value : String)
  | int (value : Int)
deriving DecidableEq, Repr

namespace EnumLiteral

def display : EnumLiteral → String
  | string value => value
  | int value => toString value

end EnumLiteral

structure EnumMember where
  tag : String
  literal : EnumLiteral
deriving DecidableEq, Repr

structure Enumeration where
  base : PrimitiveKind
  members : List EnumMember
deriving DecidableEq, Repr

structure CustomType where
  target : QualifiedName
  parser : Option QualifiedName
  validate : Bool
deriving DecidableEq, Repr

inductive Optionality where
  /-- Present and not null. -/
  | required
  /-- Absence counts as the zero value. -/
  | optional
  /-- Absence, null and a value are told apart. -/
  | optionalNullable
  /-- Absence and null count as no pointer. -/
  | pointer
deriving DecidableEq, Repr

structure Bound where
  value : Binary64
  exclusive : Bool
deriving DecidableEq, Repr

structure Constraints where
  minLength : Option Nat := none
  maxLength : Option Nat := none
  minimum : Option Bound := none
  maximum : Option Bound := none
  pattern : Option String := none
deriving DecidableEq, Repr

namespace Constraints

def isEmpty (constraints : Constraints) : Bool := constraints == {}

end Constraints

/-- A value under a name, with the rules for reading and checking it. -/
structure Field (σ : Type) where
  jsonName : String
  shape : σ
  optionality : Optionality
  omitEmpty : Bool := false
  /-- An expression that holds while the value is read. -/
  regex : Option String := none
  constraints : Constraints := {}
  trimmable : Bool := false
  skipValidation : Bool := false
  description : Option String := none
deriving Repr

namespace Field

def isRequired {σ : Type} (field : Field σ) : Bool := field.optionality == .required

end Field

/-- What stands beside the declared fields of an object. -/
inductive Additional (σ : Type) where
  | forbidden
  | any
  | typed (shape : σ)
  | goMapType (name : String)
deriving Repr

inductive Shape where
  | primitive (primitive : Primitive)
  | array (element : Shape) (minItems maxItems : Option Nat)
  | object (fields : List (String × Field Shape)) (required : List String)
      (additional : Additional Shape)
  | enum (enumeration : Enumeration)
  | named (name : String)
  | anyOf (members : List Shape)
  | oneOf (members : List Shape)
  | allOf (members : List Shape)
  | custom (type : CustomType)
deriving Repr

namespace Shape

def ofKind (kind : PrimitiveKind) : Shape := primitive { kind }

/-- An object without fields, which stands for any value. -/
def anything : Shape := object [] [] .forbidden

def kind? : Shape → Option PrimitiveKind
  | primitive value => some value.kind
  | _ => none

def isComposition : Shape → Bool
  | anyOf _ => true
  | oneOf _ => true
  | allOf _ => true
  | _ => false

mutual
/-- The names of components inside of a shape, in order. -/
def references : Shape → List String
  | .primitive _ => []
  | .array element _ _ => references element
  | .object fields _ additional => fieldReferences fields ++ additionalReferences additional
  | .enum _ => []
  | .named name => [name]
  | .anyOf members => memberReferences members
  | .oneOf members => memberReferences members
  | .allOf members => memberReferences members
  | .custom _ => []
termination_by structural shape => shape

def fieldReferences : List (String × Field Shape) → List String
  | [] => []
  | (_, { shape, .. }) :: rest => references shape ++ fieldReferences rest
termination_by structural fields => fields

def additionalReferences : Additional Shape → List String
  | .forbidden => []
  | .any => []
  | .typed shape => references shape
  | .goMapType _ => []
termination_by structural additional => additional

def memberReferences : List Shape → List String
  | [] => []
  | member :: rest => references member ++ memberReferences rest
termination_by structural members => members
end

end Shape

end ApiScaffold.Blueprint
