import ApiScaffold.Server.Types

/-!
Validation: the rules of a field, and which components have a validator. A component has one if a
field of it has a rule or holds a value with a validator of its own, so the components are collected
round by round until none is added.
-/

namespace ApiScaffold.Server

open Blueprint Go Source

/-- A rule for the value of a field. A greatest length of zero is no limit. -/
inductive Rule where
  | required
  | runeLength (least greatest : Nat)
  | length (least greatest : Nat)
  | atLeast (bound : String) (exclusive : Bool)
  | atMost (bound : String) (exclusive : Bool)
  | pattern
deriving DecidableEq, Repr

namespace Rule

def ruleName (name : String) : Fragment := .imported Package.validation name

def boundCode (name bound : String) (exclusive : Bool) : Code :=
  code [ruleName name, "(", bound, if exclusive then ").Exclusive()" else ")"]

def lengthCode (name : String) (least greatest : Nat) : Code :=
  code [ruleName name, "(", toString least, ", ", toString greatest, ")"]

/-- The rule as it is written; `variable` holds the pattern of the field. -/
def code (expression : String) : Rule → Code
  | required => [ruleName "Required"]
  | runeLength least greatest => lengthCode "RuneLength" least greatest
  | length least greatest => lengthCode "Length" least greatest
  | atLeast bound exclusive => boundCode "Min" bound exclusive
  | atMost bound exclusive => boundCode "Max" bound exclusive
  | pattern => Source.code [ruleName "Match", "(", Fragment.own expression, ")"]

end Rule

def greatestInt64 : Int := 9223372036854775807

def leastInt64 : Int := -9223372036854775808

def clampInt64 (value : Int) : Int := max leastInt64 (min greatestInt64 value)

/-- The bound that a limit is for integers: a limit between two integers admits the inner one. -/
def integerBound (bound : Bound) (lower : Bool) : Int × Bool :=
  if bound.value.isIntegral then (clampInt64 bound.value.floor, bound.exclusive)
  else if lower then (clampInt64 bound.value.ceil, false)
  else (clampInt64 bound.value.floor, false)

/-- A bound as it is written, and whether it is exclusive. -/
def boundLiteral (bound : Bound) (integer lower : Bool) : String × Bool :=
  if integer then
    let whole := integerBound bound lower
    (toString whole.1, whole.2)
  else
    (bound.value.write Binary64.programForm, bound.exclusive)

def textRules (field : Blueprint.Field Shape) : List Rule :=
  let limits := field.constraints
  (if field.isRequired && limits.minLength.any (0 < ·) then [.required] else []) ++
  (if limits.minLength.isSome || limits.maxLength.isSome then
    [.runeLength (limits.minLength.getD 0) (limits.maxLength.getD 0)] else []) ++
  (if limits.pattern.isSome then [.pattern] else [])

def numberRules (field : Blueprint.Field Shape) (integer : Bool) : List Rule :=
  let least := field.constraints.minimum.map (boundLiteral · integer true)
  let greatest := field.constraints.maximum.map (boundLiteral · integer false)
  (least.toList.map fun (bound, exclusive) => .atLeast bound exclusive) ++
    greatest.toList.map fun (bound, exclusive) => .atMost bound exclusive

def arrayRules (field : Blueprint.Field Shape) (minItems maxItems : Option Nat) : List Rule :=
  (if field.isRequired && minItems.any (0 < ·) then [.required] else []) ++
  (if minItems.isSome || maxItems.isSome then
    [.length (minItems.getD 0) (maxItems.getD 0)] else [])

/-- The rules of a field whose shape stands for `resolved`. -/
def rulesOf (resolved : Shape) (field : Blueprint.Field Shape) : List Rule :=
  if field.skipValidation then []
  else
    match resolved with
    | .primitive primitive =>
      if primitive.kind.isTextual then textRules field
      else if primitive.kind.isNumeric then numberRules field (primitive.kind == .int)
      else []
    | .array _ minItems maxItems => arrayRules field minItems maxItems
    | _ => []

/-- A program, and the names of the components with a validator. -/
structure Outline where
  program : Program
  validated : List String := []

namespace Outline

def resolve (outline : Outline) (shape : Shape) : Shape := outline.program.resolve shape

def hasValidator (outline : Outline) (name : String) : Bool := outline.validated.contains name

def rules (outline : Outline) (field : Blueprint.Field Shape) : List Rule :=
  rulesOf (outline.resolve field.shape) field

/-- Whether the values have a validator, as components or as lists of them. -/
def validates (outline : Outline) : Shape → Bool
  | .named name => outline.hasValidator name
  | .array element _ _ => outline.validates element
  | _ => false

def listDepth : Shape → Nat
  | .array element _ _ => listDepth element + 1
  | _ => 0

/-- Whether the values check themselves, looking into at most `levels` lists. -/
def checksWithin (outline : Outline) : Nat → Shape → Bool
  | 0, _ => false
  | levels + 1, shape =>
    outline.validates shape ||
      match outline.resolve shape with
      | .custom type => type.validate
      | .primitive primitive => checksItself primitive.kind
      | .array element _ _ => outline.checksWithin levels element
      | _ => false

/-- More lists than a value without end can be nested in. -/
def levels (outline : Outline) (shape : Shape) : Nat :=
  outline.program.components.values.foldl
    (fun total component => total + listDepth component.shape) 0 + listDepth shape + 1

/-- Whether values of a shape are validated by something of their own. The bound on the look decides
nothing but this: values of a component that is a list of itself have no end to look for, and the
answer is no. A look without a bound has no answer there, so no file would be written for a program
with fields or bodies of such a component, and what is said of the files of all programs does not
count for these. -/
def nestedValidates (outline : Outline) (shape : Shape) : Bool :=
  outline.checksWithin (outline.levels shape) shape

def fieldValidates (outline : Outline) (field : Blueprint.Field Shape) : Bool :=
  !field.skipValidation &&
    (!(outline.rules field).isEmpty || outline.nestedValidates field.shape)

def componentValidates (outline : Outline) (component : Component) : Bool :=
  !component.skipValidation &&
    match component.shape with
    | .object fields _ _ => fields.any fun (_, field) => outline.fieldValidates field
    | .custom type => type.validate
    | .named name => outline.hasValidator name
    | .array element _ _ => outline.validates element
    | _ => false

/-- The components that validate but are not yet known to. -/
def unnoticed (outline : Outline) : List String :=
  (outline.program.components.values.filter fun component =>
    !outline.hasValidator component.name && outline.componentValidates component).map (·.name)

/-- Collects validating components for at most `rounds` rounds. -/
def collect : Nat → Outline → Outline
  | 0, outline => outline
  | rounds + 1, outline =>
    match outline.unnoticed with
    | [] => outline
    | found => collect rounds { outline with validated := outline.validated ++ found }

/-- A program with its validating components. Each round adds one, so there are no more rounds than
components. -/
def ofProgram (program : Program) : Outline :=
  collect (program.components.length + 1) { program }

end Outline

end ApiScaffold.Server
