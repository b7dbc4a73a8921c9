import ApiScaffold.Blueprint.Shape
import ApiScaffold.OpenApi.Extensions
import ApiScaffold.OpenApi.Schema

/-!
The limits that a schema puts on values. An exclusive limit is either a flag beside a bound or a
bound of its own.
-/

namespace ApiScaffold.Blueprint

/-- The bound that a limit and its exclusive form make together. -/
def boundOf (limit : Option Binary64) (exclusive : Option Json) (keyword location : String) :
    Except Diagnostic (Option Bound) :=
  match exclusive with
  | none => .ok (limit.map fun value => ⟨value, false⟩)
  | some (.bool false) => .ok (limit.map fun value => ⟨value, false⟩)
  | some (.bool true) =>
    match limit with
    | some value => .ok (some ⟨value, true⟩)
    | none => .error ((Problem.limitWithoutBound keyword).report s!"{location}/{keyword}")
  | some (.number value) => .ok (some ⟨value.toBinary64, true⟩)
  | some other =>
    .error ((Problem.unexpectedLimit keyword other.kind).report s!"{location}/{keyword}")

def constraintsOf (schema : OpenApi.Schema) (location : String) : Except Diagnostic Constraints := do
  if let some pattern := schema.pattern then
    OpenApi.checkPattern pattern s!"{location}/pattern"
  let minimum ← boundOf schema.minimum schema.exclusiveMinimum "exclusiveMinimum" location
  let maximum ← boundOf schema.maximum schema.exclusiveMaximum "exclusiveMaximum" location
  return {
    minLength := schema.minLength
    maxLength := schema.maxLength
    minimum, maximum
    pattern := schema.pattern }

end ApiScaffold.Blueprint
