import ApiScaffold.OpenApi.Specification
import ApiScaffold.Text.Pieces

/-!
Following references from table to table. A chain of references ends at a definition, at a key that
is missing, or never; a chain with more steps than the table has entries is one of the last kind.
-/

namespace ApiScaffold.OpenApi

def schemasPlace : String := "#/components/schemas/"

def parametersPlace : String := "#/components/parameters/"

def requestBodiesPlace : String := "#/components/requestBodies/"

def responsesPlace : String := "#/components/responses/"

def headersPlace : String := "#/components/headers/"

def securitySchemesPlace : String := "#/components/securitySchemes/"

variable {α : Type}

def lookupReference (table : Table (OrRef α)) (place target : String) : Option (OrRef α) :=
  (Text.dropStart? place target).bind fun key => table.lookup key

/-- Follows at most `steps` references. -/
def followWithin (table : Table (OrRef α)) (place : String) : Nat → OrRef α → Option α
  | _, .object value => some value
  | 0, .reference _ => none
  | steps + 1, .reference target =>
    (lookupReference table place target).bind (followWithin table place steps)

theorem followWithin_object (table : Table (OrRef α)) (place : String) (steps : Nat) (value : α) :
    followWithin table place steps (.object value) = some value := by
  cases steps <;> rfl

def follow (table : Table (OrRef α)) (place : String) (item : OrRef α) : Option α :=
  followWithin table place table.length item

theorem follow_object (table : Table (OrRef α)) (place : String) (value : α) :
    follow table place (.object value) = some value :=
  followWithin_object table place table.length value

namespace Specification

/-- The schema that a reference names, which may be a reference itself. -/
def schema? (specification : Specification) (target : String) : Option (OrRef Schema) :=
  lookupReference specification.components.schemas schemasPlace target

def parameter? (specification : Specification) (item : OrRef Parameter) : Option Parameter :=
  follow specification.components.parameters parametersPlace item

def requestBody? (specification : Specification) (item : OrRef RequestBody) : Option RequestBody :=
  follow specification.components.requestBodies requestBodiesPlace item

def response? (specification : Specification) (item : OrRef Response) : Option Response :=
  follow specification.components.responses responsesPlace item

def header? (specification : Specification) (item : OrRef Header) : Option Header :=
  follow specification.components.headers headersPlace item

def securityScheme? (specification : Specification) (item : OrRef SecurityScheme) :
    Option SecurityScheme :=
  follow specification.components.securitySchemes securitySchemesPlace item

end Specification

end ApiScaffold.OpenApi
