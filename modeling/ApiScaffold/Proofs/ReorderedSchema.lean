import ApiScaffold.OpenApi.Decode.Schema
import ApiScaffold.Proofs.ReorderedReading

/-!
Schemas whose members are written in another order. A schema is read like any record that keeps its
unknown members, so what is shown of records holds of it; schemas inside of it are smaller values.
-/

namespace ApiScaffold.OpenApi

def Schema.fill (plain inner : Schema) : Schema :=
  { plain with
    properties := inner.properties, items := inner.items
    additionalProperties := inner.additionalProperties, enum := inner.enum, allOf := inner.allOf
    oneOf := inner.oneOf, anyOf := inner.anyOf, exclusiveMinimum := inner.exclusiveMinimum
    exclusiveMaximum := inner.exclusiveMaximum, extensions := inner.extensions }

theorem Schema.Similar.store_outline {α : Type} {store : α → Schema → Schema}
    (outlined : ∀ value schema, store value schema = (store value schema.outline).fill schema)
    {schema other : Schema} {value value' : α} (same : value = value')
    (similar : schema.Similar other) : (store value schema).Similar (store value' other) := by
  subst same
  have parts := Schema.similar_iff.mp similar
  rw [outlined value schema, outlined value other, Schema.similar_iff]
  have outline : ((store value schema.outline).fill schema).outline =
      ((store value other.outline).fill other).outline := by
    rw [parts.outline]
    rfl
  exact { parts with outline }

namespace Decode

def additionalProperties : Reader (AdditionalProperties Schema)
  | .bool flag => .ok (.allowed flag)
  | other => .schema <$> schemaOrRef other

def nestedSchemaMembers : List (Member Schema) := [
  .storing "properties" .defaulted (table schemaOrRef) fun value schema =>
    { schema with properties := value },
  .storing "items" .optional (optional schemaOrRef) fun value schema =>
    { schema with items := value },
  .storing "additionalProperties" .optional (optional additionalProperties) fun value schema =>
    { schema with additionalProperties := value },
  .storing "allOf" .defaulted (list schemaOrRef) fun value schema => { schema with allOf := value },
  .storing "oneOf" .defaulted (list schemaOrRef) fun value schema => { schema with oneOf := value },
  .storing "anyOf" .defaulted (list schemaOrRef) fun value schema => { schema with anyOf := value }]

def allSchemaMembers : List (Member Schema) := nestedSchemaMembers ++ plainSchemaMembers

def keepExtension (key : String) (value : Json) (schema : Schema) : Schema :=
  { schema with extensions := schema.extensions ++ [(key, value)] }

theorem schema_list_eq (items : List Json) : schemaList items = items.mapM schemaOrRef := by
  induction items with
  | nil => rfl
  | cons item rest induction => rw [schemaList, List.mapM_cons, induction]

theorem schema_table_eq (members : List (String × Json)) :
    (schemaTable members).toOption = (table schemaOrRef (.object members)).toOption := by
  rw [table]
  induction members with
  | nil => rfl
  | cons member rest induction =>
      obtain ⟨key, value⟩ := member
      rw [schemaTable, List.mapM_cons]
      dsimp only
      cases schemaOrRef value with
      | error _ => rfl
      | ok item =>
          generalize schemaTable rest = first, (rest.mapM _ : Except Mismatch _) = second
            at induction ⊢
          cases first <;> cases second <;> cases induction <;> rfl

def schemaStep (key : String) (value : Json) (schema : Schema) : Except Mismatch Schema :=
  match allSchemaMembers.find? (·.name == key) with
  | some member => member.read value schema
  | none => .ok (keepExtension key value schema)

def StepsFirst (key : String) : Prop :=
  ∀ (value : Json) (rest : List (String × Json)) (schema : Schema),
    (schemaMembers ((key, value) :: rest) schema).toOption =
      (schemaStep key value schema).toOption.bind fun next => (schemaMembers rest next).toOption

theorem properties_steps : StepsFirst "properties" := by
  intro value rest schema
  have own : schemaStep "properties" value schema =
      ((fun table => { schema with properties := table }) <$> table schemaOrRef value) := rfl
  rw [own, to_option_map]
  cases value with
  | object members =>
      rw [← schema_table_eq, schemaMembers]
      cases schemaTable members <;> rfl
  | _ => rfl

theorem items_steps : StepsFirst "items" := by
  intro value rest schema
  have own : schemaStep "items" value schema =
      ((fun item => { schema with items := item }) <$> optional schemaOrRef value) := rfl
  rw [own]
  by_cases absent : value = .null
  · subst absent
    rfl
  · rw [optional, schemaMembers]
    · cases schemaOrRef value <;> rfl
    · exact absent
    · exact absent

theorem additional_properties_steps : StepsFirst "additionalProperties" := by
  intro value rest schema
  have own : schemaStep "additionalProperties" value schema =
      ((fun item => { schema with additionalProperties := item }) <$>
        optional additionalProperties value) := rfl
  rw [own]
  by_cases absent : value = .null
  · subst absent
    rfl
  · by_cases flagged : ∃ flag, value = .bool flag
    · obtain ⟨flag, rfl⟩ := flagged
      rfl
    · have other : ∀ flag, value = .bool flag → False := fun flag same => flagged ⟨flag, same⟩
      rw [optional, additionalProperties, schemaMembers]
      · cases schemaOrRef value <;> rfl
      all_goals assumption

/-- The members of a composition are a list of schemas, whichever composition it is. -/
theorem composition_steps {key : String}
    (composition : key = "allOf" ∨ key = "oneOf" ∨ key = "anyOf") : StepsFirst key := by
  intro value rest schema
  rcases composition with rfl | rfl | rfl
  all_goals
    change _ = Option.bind (_ <$> list schemaOrRef value).toOption _
    cases value with
    | array items =>
        rw [list, ← schema_list_eq, schemaMembers]
        cases schemaList items <;> rfl
    | _ => rfl

theorem plain_steps {key : String} (plain : ∀ member ∈ nestedSchemaMembers, member.name ≠ key) :
    StepsFirst key := by
  intro value rest schema
  have own : schemaStep key value schema = plainSchemaMember key value schema := by
    have none : nestedSchemaMembers.find? (·.name == key) = none := by
      apply List.find?_eq_none.mpr
      intro member listed named
      exact plain member listed (eq_of_beq named)
    rw [schemaStep, allSchemaMembers, List.find?_append, none, Option.none_or]
    rfl
  simp only [nestedSchemaMembers, List.forall_mem_cons, Member.storing] at plain
  obtain ⟨properties, items, additional, allOf, oneOf, anyOf, _⟩ := plain
  rw [own, schemaMembers, to_option_bind]
  all_goals intro same; subst same; contradiction

theorem schema_steps (key : String) : StepsFirst key := by
  by_cases plain : ∀ member ∈ nestedSchemaMembers, member.name ≠ key
  · exact plain_steps plain
  · simp only [not_forall, not_not] at plain
    obtain ⟨member, listed, rfl⟩ := plain
    simp only [nestedSchemaMembers, List.mem_cons, List.not_mem_nil, or_false] at listed
    rcases listed with rfl | rfl | rfl | rfl | rfl | rfl
    · exact properties_steps
    · exact items_steps
    · exact additional_properties_steps
    · exact composition_steps (.inl rfl)
    · exact composition_steps (.inr (.inl rfl))
    · exact composition_steps (.inr (.inr rfl))

/-- Schemas are read as a record that keeps its unknown members. -/
theorem schema_members_eq (members : List (String × Json)) (schema : Schema) :
    (schemaMembers members schema).toOption =
      (readMembers allSchemaMembers keepExtension members schema).toOption := by
  induction members generalizing schema with
  | nil => rfl
  | cons member rest induction =>
      obtain ⟨key, value⟩ := member
      rw [schema_steps key value rest schema, readMembers, schemaStep]
      cases allSchemaMembers.find? (·.name == key) with
      | none => exact induction _
      | some own =>
          dsimp only
          rw [to_option_bind]
          congr 1
          funext next
          exact induction next

def schemaRecord : Reader Schema := openRecord "Schema" allSchemaMembers keepExtension {}

theorem schema_requires_nothing (members : List (String × Json)) :
    checkRequired allSchemaMembers members = .ok () := by
  have optional : ∀ member ∈ allSchemaMembers, member.presence ≠ .required := by
    simp only [allSchemaMembers, nestedSchemaMembers, plainSchemaMembers, Member.storing,
      List.cons_append, List.nil_append, List.forall_mem_cons]
    and_intros <;> exact nofun
  rw [checkRequired, List.find?_eq_none.mpr]
  intro member listed missed
  rw [Bool.and_eq_true, decide_eq_true_iff] at missed
  exact optional member listed missed.1

theorem schema_or_ref_eq (value : Json) :
    (schemaOrRef value).toOption = (orRef schemaRecord value).toOption := by
  cases value with
  | object members =>
      rw [schemaOrRef, orRef]
      cases members.lookup "$ref" with
      | some target => cases target <;> rfl
      | none =>
          dsimp only
          rw [schemaRecord, openRecord, schema_requires_nothing, to_option_map, to_option_map,
            schema_members_eq, to_option_bind]
          cases (readMembers allSchemaMembers keepExtension members {}).toOption <;> rfl
  | _ => rfl

section Alike

variable {value : Json}

theorem schema_type_alike : ReadsAlike Eq schemaType value := by
  intro other _ reordered
  cases reordered with
  | string name => exact .some rfl
  | @array items others pairs =>
      have names : Option.Rel (List.Forall₂ Eq) (items.mapM Json.string?)
          (others.mapM Json.string?) := by
        apply rel_mapM pairs
        intro item _ item' known
        cases known <;> first | exact .none | exact .some rfl
      rw [List.forall₂_eq_eq_eq] at names
      rw [schemaType, schemaType, eq_of_rel names]
      exact rel_of_eq rfl
  | _ => exact .none

theorem all_schema_members_independent :
    Independent id Schema.Similar allSchemaMembers := by
  apply Independent.of_exchanges
  simp only [allSchemaMembers, nestedSchemaMembers, plainSchemaMembers, List.cons_append,
    List.nil_append, List.pairwise_cons, List.forall_mem_cons, List.not_mem_nil, false_imp_iff,
    implies_true, List.Pairwise.nil, and_true]
  and_intros <;> exact storing_exchanges fun _ _ _ => rfl

theorem outline_member_alike {α : Type} {name : String} {presence : Presence} {read : Reader α}
    {store : α → Schema → Schema} (alike : ReadsAlike Eq read value)
    (outlined : ∀ value schema, store value schema = (store value schema.outline).fill schema) :
    (Member.storing name presence read store).Alike Schema.Similar value :=
  storing_alike alike fun _ _ _ _ same similar => similar.store_outline outlined same

theorem plain_schema_members_alike :
    ∀ member ∈ plainSchemaMembers, member.Alike Schema.Similar value := by
  simp only [plainSchemaMembers, List.forall_mem_cons]
  refine ⟨outline_member_alike (optional_same schema_type_alike) fun _ _ => rfl,
    outline_member_alike (optional_same text_alike) fun _ _ => rfl,
    outline_member_alike (optional_same text_alike) fun _ _ => rfl,
    outline_member_alike (optional_same text_alike) fun _ _ => rfl,
    outline_member_alike (list_same fun _ _ => text_alike) fun _ _ => rfl, ?enum,
    outline_member_alike flag_alike fun _ _ => rfl,
    outline_member_alike (optional_same unsigned_alike) fun _ _ => rfl,
    outline_member_alike (optional_same unsigned_alike) fun _ _ => rfl,
    outline_member_alike (optional_same decimal_alike) fun _ _ => rfl,
    outline_member_alike (optional_same decimal_alike) fun _ _ => rfl, ?least, ?greatest,
    outline_member_alike (optional_same text_alike) fun _ _ => rfl,
    outline_member_alike (optional_same unsigned_alike) fun _ _ => rfl,
    outline_member_alike (optional_same unsigned_alike) fun _ _ => rfl,
    fun _ member => absurd member List.not_mem_nil⟩
  case enum =>
    apply storing_alike (list_alike fun _ _ => anything_alike)
    intro _ _ _ _ enum similar
    exact Schema.similar_iff.mpr { Schema.similar_iff.mp similar with enum }
  case least =>
    apply storing_alike (optional_alike anything_alike)
    intro _ _ _ _ exclusiveMinimum similar
    exact Schema.similar_iff.mpr { Schema.similar_iff.mp similar with exclusiveMinimum }
  case greatest =>
    apply storing_alike (optional_alike anything_alike)
    intro _ _ _ _ exclusiveMaximum similar
    exact Schema.similar_iff.mpr { Schema.similar_iff.mp similar with exclusiveMaximum }

section Nested

variable (reads : ReadsAlike (OrRef.Similar Schema.Similar) schemaOrRef value)
  (inside : ∀ inner, inner.Within value → ReadsAlike (OrRef.Similar Schema.Similar) schemaOrRef inner)

include reads in
theorem additional_properties_alike :
    ReadsAlike (AdditionalProperties.Similar Schema.Similar) additionalProperties value := by
  intro other distinct reordered
  have known : Option.Rel (AdditionalProperties.Similar Schema.Similar)
      (AdditionalProperties.schema <$> schemaOrRef value).toOption
      (AdditionalProperties.schema <$> schemaOrRef other).toOption := by
    rw [to_option_map, to_option_map]
    exact rel_map (reads other distinct reordered) fun _ _ => .schema
  cases reordered with
  | bool flag => exact .some (.allowed flag)
  | _ => exact known

include reads inside in
theorem nested_schema_members_alike :
    ∀ member ∈ nestedSchemaMembers, member.Alike Schema.Similar value := by
  simp only [nestedSchemaMembers, List.forall_mem_cons]
  refine ⟨?properties, ?items, ?additional, ?allOf, ?oneOf, ?anyOf,
    fun _ member => absurd member List.not_mem_nil⟩
  case properties =>
    apply storing_alike (table_alike inside)
    intro _ _ _ _ properties similar
    exact Schema.similar_iff.mpr { Schema.similar_iff.mp similar with properties }
  case items =>
    apply storing_alike (optional_alike reads)
    intro _ _ _ _ items similar
    exact Schema.similar_iff.mpr { Schema.similar_iff.mp similar with items }
  case additional =>
    apply storing_alike (optional_alike (additional_properties_alike reads))
    intro _ _ _ _ additionalProperties similar
    exact Schema.similar_iff.mpr { Schema.similar_iff.mp similar with additionalProperties }
  case allOf =>
    apply storing_alike (list_alike inside)
    intro _ _ _ _ allOf similar
    exact Schema.similar_iff.mpr { Schema.similar_iff.mp similar with allOf }
  case oneOf =>
    apply storing_alike (list_alike inside)
    intro _ _ _ _ oneOf similar
    exact Schema.similar_iff.mpr { Schema.similar_iff.mp similar with oneOf }
  case anyOf =>
    apply storing_alike (list_alike inside)
    intro _ _ _ _ anyOf similar
    exact Schema.similar_iff.mpr { Schema.similar_iff.mp similar with anyOf }

end Nested

theorem empty_schema_similar : ({} : Schema).Similar {} :=
  Schema.similar_iff.mpr ⟨rfl, .nil, .none, .none, .nil, .nil, .nil, .nil, .none, .none, .nil⟩

theorem extensions_kept : Keeps Schema.extensions fun extensions schema =>
    { schema with extensions } where
  get_put _ _ := rfl
  put_put _ _ _ := rfl
  put_get schema := by
    cases schema
    rfl

theorem all_schema_members_apart : ∀ member ∈ allSchemaMembers,
    member.Apart fun extensions schema => { schema with extensions } := by
  simp [allSchemaMembers, nestedSchemaMembers, plainSchemaMembers]

/-- Schemas are read alike, whatever order their members are written in. -/
theorem schema_or_ref_alike (value : Json) :
    ReadsAlike (OrRef.Similar Schema.Similar) schemaOrRef value := by
  induction value using Json.of_smaller with
  | step value smaller =>
      have members : ∀ member ∈ allSchemaMembers, ∀ inner, inner.Within value →
          member.Alike Schema.Similar inner := by
        intro member listed inner within
        rcases List.mem_append.mp listed with nested | plain
        · apply nested_schema_members_alike (smaller inner within.size_lt) _ member nested
          intro innermost further
          exact smaller innermost (further.size_lt.trans within.size_lt)
        · exact plain_schema_members_alike member plain
      have record : ReadsAlike Schema.Similar schemaRecord value := by
        apply open_record_alike extensions_kept all_schema_members_apart (fun _ _ _ => rfl)
          all_schema_members_independent members _ empty_schema_similar rfl
        intro _ _ _ _ similar extensions
        exact Schema.similar_iff.mpr { Schema.similar_iff.mp similar with extensions }
      intro other distinct reordered
      rw [schema_or_ref_eq, schema_or_ref_eq]
      exact or_ref_alike record other distinct reordered

end Alike

end Decode

end ApiScaffold.OpenApi
