import ApiScaffold.Json.Basic

/-!
Schemas as a document writes them. Wherever a document may refer to a shared definition instead of
spelling one out, the model has an `OrRef`.
-/

namespace ApiScaffold.OpenApi

/-- A definition, or the target of a reference to one. -/
inductive OrRef (α : Type) where
  | reference (target : String)
  | object (value : α)
deriving Repr

namespace OrRef

variable {α : Type}

def object? : OrRef α → Option α
  | object value => some value
  | reference _ => none

end OrRef

/-- The declared type: one name, or a list of names. -/
inductive SchemaType where
  | single (name : String)
  | multiple (names : List String)
deriving DecidableEq, Repr

namespace SchemaType

/-- The first name other than `null`; a single name counts as it is. -/
def primary : SchemaType → Option String
  | single name => some name
  | multiple names => names.find? (· != "null")

/-- Whether the list of names has `null`. -/
def allowsNull : SchemaType → Bool
  | single _ => false
  | multiple names => names.contains "null"

end SchemaType

inductive AdditionalProperties (α : Type) where
  | allowed (flag : Bool)
  | schema (item : OrRef α)
deriving Repr

structure Schema where
  type : Option SchemaType := none
  format : Option String := none
  title : Option String := none
  description : Option String := none
  required : List String := []
  properties : List (String × OrRef Schema) := []
  items : Option (OrRef Schema) := none
  additionalProperties : Option (AdditionalProperties Schema) := none
  enum : List Json := []
  allOf : List (OrRef Schema) := []
  oneOf : List (OrRef Schema) := []
  anyOf : List (OrRef Schema) := []
  nullable : Bool := false
  minLength : Option Nat := none
  maxLength : Option Nat := none
  minimum : Option Binary64 := none
  maximum : Option Binary64 := none
  exclusiveMinimum : Option Json := none
  exclusiveMaximum : Option Json := none
  pattern : Option String := none
  minItems : Option Nat := none
  maxItems : Option Nat := none
  /-- Every other member, in the order of the document. -/
  extensions : List (String × Json) := []

namespace Schema

def primaryType (schema : Schema) : Option String := schema.type.bind SchemaType.primary

/-- Properties without a declared type make an object. -/
def isObject (schema : Schema) : Bool :=
  schema.primaryType == some "object" || (schema.type.isNone && !schema.properties.isEmpty)

def isArray (schema : Schema) : Bool := schema.primaryType == some "array"

def isEnum (schema : Schema) : Bool := !schema.enum.isEmpty

def isNullable (schema : Schema) : Bool :=
  schema.nullable || schema.type.any SchemaType.allowsNull

def isComposition (schema : Schema) : Bool :=
  !schema.allOf.isEmpty || !schema.oneOf.isEmpty || !schema.anyOf.isEmpty

end Schema

end ApiScaffold.OpenApi
