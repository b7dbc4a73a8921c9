import ApiScaffold.OpenApi.Decode.Record

/-!
Reading schemas. The members that hold no other schema are read through a list of known members; the
ones that do follow the nesting of the document.
-/

namespace ApiScaffold.OpenApi.Decode

def schemaType : Reader SchemaType
  | .string name => .ok (.single name)
  | .array names =>
    match names.mapM Json.string? with
    | some names => .ok (.multiple names)
    | none => .error (.noVariant "SchemaType")
  | _ => .error (.noVariant "SchemaType")

def plainSchemaMembers : List (Member Schema) := [
  .storing "type" .optional (optional schemaType) fun value schema => { schema with type := value },
  .storing "format" .optional (optional text) fun value schema => { schema with format := value },
  .storing "title" .optional (optional text) fun value schema => { schema with title := value },
  .storing "description" .optional (optional text) fun value schema =>
    { schema with description := value },
  .storing "required" .defaulted (list text) fun value schema => { schema with required := value },
  .storing "enum" .defaulted (list anything) fun value schema => { schema with enum := value },
  .storing "nullable" .defaulted flag fun value schema => { schema with nullable := value },
  .storing "minLength" .optional (optional unsigned) fun value schema =>
    { schema with minLength := value },
  .storing "maxLength" .optional (optional unsigned) fun value schema =>
    { schema with maxLength := value },
  .storing "minimum" .optional (optional decimal) fun value schema => { schema with minimum := value },
  .storing "maximum" .optional (optional decimal) fun value schema => { schema with maximum := value },
  .storing "exclusiveMinimum" .optional (optional anything) fun value schema =>
    { schema with exclusiveMinimum := value },
  .storing "exclusiveMaximum" .optional (optional anything) fun value schema =>
    { schema with exclusiveMaximum := value },
  .storing "pattern" .optional (optional text) fun value schema => { schema with pattern := value },
  .storing "minItems" .optional (optional unsigned) fun value schema =>
    { schema with minItems := value },
  .storing "maxItems" .optional (optional unsigned) fun value schema =>
    { schema with maxItems := value }]

def plainSchemaMember (key : String) (value : Json) (schema : Schema) : Except Mismatch Schema :=
  match plainSchemaMembers.find? (·.name == key) with
  | some member => member.read value schema
  | none => .ok { schema with extensions := schema.extensions ++ [(key, value)] }

mutual
def schemaOrRef : Json → Except Mismatch (OrRef Schema)
  | .object members =>
    match members.lookup "$ref" with
    | some (.string target) => .ok (.reference target)
    | some other => .error (.invalidReference other)
    | none => .object <$> schemaMembers members {}
  | other => .error (.wrongType other (.record "Schema"))
termination_by structural value => value

def schemaList : List Json → Except Mismatch (List (OrRef Schema))
  | [] => .ok []
  | item :: rest => do return (← schemaOrRef item) :: (← schemaList rest)
termination_by structural items => items

def schemaTable : List (String × Json) → Except Mismatch (Table (OrRef Schema))
  | [] => .ok []
  | (key, item) :: rest => do return (key, ← schemaOrRef item) :: (← schemaTable rest)
termination_by structural members => members

def schemaMembers : List (String × Json) → Schema → Except Mismatch Schema
  | [], schema => .ok schema
  | (key, value) :: rest, schema => do
    let extended ←
      match key with
      | "properties" =>
        match value with
        | .object members => do pure { schema with properties := ← schemaTable members }
        | other => throw (.wrongType other .map)
      | "items" =>
        match value with
        | .null => pure { schema with items := none }
        | other => do pure { schema with items := some (← schemaOrRef other) }
      | "additionalProperties" =>
        match value with
        | .null => pure { schema with additionalProperties := none }
        | .bool flag => pure { schema with additionalProperties := some (.allowed flag) }
        | other =>
          match schemaOrRef other with
          | .ok item => pure { schema with additionalProperties := some (.schema item) }
          | .error _ => throw (.noVariant "AdditionalProperties")
      | "allOf" =>
        match value with
        | .array items => do pure { schema with allOf := ← schemaList items }
        | other => throw (.wrongType other .list)
      | "oneOf" =>
        match value with
        | .array items => do pure { schema with oneOf := ← schemaList items }
        | other => throw (.wrongType other .list)
      | "anyOf" =>
        match value with
        | .array items => do pure { schema with anyOf := ← schemaList items }
        | other => throw (.wrongType other .list)
      | key => plainSchemaMember key value schema
    schemaMembers rest extended
termination_by structural members => members
end

end ApiScaffold.OpenApi.Decode
