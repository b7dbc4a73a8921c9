import ApiScaffold.Proofs.ProgramPlan
import ApiScaffold.Proofs.ShortDocuments

/-!
The components of a program and the schemas they come from. Names of components are made from names
of the document, longer ones by putting something behind shorter ones, so all of them start alike. No
name is given twice: a plan with two components of one name is the plan of no program.
-/

namespace ApiScaffold.Identifier

/-- Characters that may be the whole of an identifier: some, and no digit first. -/
def ProperChars (chars : List Char) : Prop :=
  ∃ first rest, chars = first :: rest ∧ Text.isAsciiDigit first = false

def Proper (name : String) : Prop := ProperChars name.toList

theorem ProperChars.append {chars : List Char} (proper : ProperChars chars) (more : List Char) :
    ProperChars (chars ++ more) := by
  obtain ⟨first, rest, rfl, letter⟩ := proper
  exact ⟨first, rest ++ more, rfl, letter⟩

namespace Proper

variable {name : String}

theorem append (proper : Proper name) (more : String) : Proper (name ++ more) := by
  unfold Proper
  rw [String.toList_append]
  exact ProperChars.append proper more.toList

theorem ne_empty (proper : Proper name) : name ≠ "" := by
  rintro rfl
  obtain ⟨first, rest, same, _⟩ := proper
  cases same

theorem no_digit (proper : Proper name) : startsWithDigit name = false := by
  obtain ⟨first, rest, same, letter⟩ := proper
  rw [startsWithDigit, same]
  exact letter

end Proper

/-- A letter stands before a digit, so what is left to ask for is that there is anything. -/
theorem exported_proper {name : String} (given : exported name ≠ "") : Proper (exported name) := by
  unfold exported at *
  dsimp only at *
  split
  · exact Proper.append ⟨'X', [], rfl, rfl⟩ _
  · rename_i letter
    rw [if_neg letter] at given
    cases chars : (normalise name).toList with
    | nil =>
        have empty : normalise name = "" := String.toList_inj.mp chars
        exact absurd empty given
    | cons first rest =>
        refine ⟨first, rest, chars, ?_⟩
        rw [startsWithDigit, chars] at letter
        exact Bool.eq_false_iff.mpr letter

/-- An ending that takes the place of the whole name starts with a letter as well. -/
theorem capitalise_ending_proper {ending chars : List Char} (letters : ProperChars ending)
    (proper : ProperChars chars) : ProperChars (capitaliseEnding ending chars) := by
  obtain ⟨first, rest, rfl, letter⟩ := proper
  unfold capitaliseEnding
  dsimp only
  split
  · cases (first :: rest).length - ending.length with
    | zero => exact letters
    | succ kept => exact ⟨first, rest.take kept ++ ending, rfl, letter⟩
  · exact ⟨first, rest, rfl, letter⟩

theorem normalise_chars_proper {first : Char} {rest : List Char}
    (inside : isSeparator first = false) (capital : ProperChars (Text.upperChar first)) :
    ProperChars (normaliseChars (first :: rest)) := by
  apply capitalise_ending_proper ⟨'I', ['D'], rfl, rfl⟩
  apply capitalise_ending_proper ⟨'U', ['U', 'I', 'D'], rfl, rfl⟩
  unfold joinSegments
  rw [Text.splitWhere, if_neg (ne_true_of_eq_false inside)]
  cases Text.splitWhere isSeparator rest with
  | nil =>
      dsimp only
      rw [List.flatMap_cons, Text.capitalise, List.append_assoc]
      exact capital.append _
  | cons piece others =>
      rw [List.flatMap_cons, Text.capitalise, List.append_assoc]
      exact capital.append _

def methodLetters : List Char := ['g', 'p', 'd', 'o', 'h', 't']

theorem method_letter (method : OpenApi.Method) :
    ∃ first rest, (Text.lower method.name).toList = first :: rest ∧ first ∈ methodLetters := by
  cases method <;> exact ⟨_, _, rfl, by decide⟩

theorem method_letters_proper : ∀ letter ∈ methodLetters,
    letter ≠ '/' ∧ isSeparator letter = false ∧
      (Text.upperChar letter).head?.any fun first => !Text.isAsciiDigit first := by
  simp only [methodLetters, List.forall_mem_cons, List.not_mem_nil, false_imp_iff, implies_true]
  decide +kernel

theorem proper_of_head {chars : List Char}
    (head : chars.head?.any fun first => !Text.isAsciiDigit first) : ProperChars chars := by
  cases chars with
  | nil => cases head
  | cons first rest => exact ⟨first, rest, rfl, (Bool.not_eq_true' _).mp head⟩

theorem of_operation_proper (path : String) (method : OpenApi.Method) :
    Proper (ofOperation path method.name) := by
  obtain ⟨first, rest, chars, listed⟩ := method_letter method
  obtain ⟨kept, inside, capital⟩ := method_letters_proper first listed
  unfold ofOperation normalise Proper Text.replaceChar
  rw [String.toList_ofList, String.toList_ofList, String.toList_append, chars, List.cons_append,
    List.flatMap_cons, if_neg kept]
  exact normalise_chars_proper inside (proper_of_head capital)

end ApiScaffold.Identifier

namespace ApiScaffold.Blueprint

open OpenApi (Schema OrRef Specification Table Document)

structure Plan.Registers {α : Type} (property : Component → Prop) (plan : Plan α) : Prop where
  holds : ∀ value effects, plan = some (value, effects) → ∀ component ∈ effects.components,
    property component

namespace Plan.Registers

variable {α β : Type} {property : Component → Prop} {plan : Plan α}

theorem silent {value : α} {effects : Effects} (none : effects.components = []) :
    Plan.Registers property (some (value, effects)) := by
  constructor
  rintro _ _ ⟨⟩ component member
  rw [none] at member
  cases member

theorem pure {value : α} : Plan.Registers property (pure value) := silent rfl

theorem fails : Plan.Registers property (Plan.fails : Plan α) := ⟨nofun⟩

theorem given {outcome : Except Diagnostic α} : Plan.Registers property (Plan.given outcome) := by
  cases outcome with
  | error diagnostic => exact fails
  | ok value => exact pure

theorem register {component : Component} (holds : property component) :
    Plan.Registers property (Plan.register component) := by
  constructor
  rintro _ _ ⟨⟩ other member
  exact List.mem_singleton.mp member ▸ holds

theorem bind {next : α → Plan β} (first : plan.Registers property)
    (second : ∀ value, (next value).Registers property) : (plan >>= next).Registers property := by
  constructor
  intro result effects planned component member
  obtain ⟨value, here, there, own, rest, rfl⟩ := Plan.bind_eq_some.mp planned
  rcases List.mem_append.mp member with inside | inside
  · exact first.holds value here own component inside
  · exact (second value).holds result there rest component inside

theorem collect {ι : Type} {step : ι → Plan α} {items : List ι}
    (each : ∀ item ∈ items, (step item).Registers property) :
    (Plan.collect step items).Registers property := by
  induction items with
  | nil => exact pure
  | cons item rest induction =>
      obtain ⟨first, others⟩ := List.forall_mem_cons.mp each
      exact bind first fun value => bind (induction others) fun values => pure

end Plan.Registers

/-- A component of a schema without a name of its own. -/
structure Component.Synthesised (component : Component) : Prop where
  origin : ∃ location, component.origin = .inside location
  name : Identifier.Proper component.name

section Shapes

variable {specification : Specification}

theorem place_registers {placement : Placement} {hint location : String} {schema : Schema}
    {shape : Shape} (proper : Identifier.Proper hint) :
    (placePlan placement hint location schema shape).Registers Component.Synthesised := by
  cases placement with
  | declared => exact .pure
  | nested => exact .bind .given fun _ => .bind (.register ⟨⟨location, rfl⟩, proper⟩) fun _ => .pure

theorem field_registers {property : Component → Prop} (jsonName : String) (item : OrRef Schema)
    (required : Bool) (location : String) (shape : Shape) :
    (fieldPlan specification jsonName item required location shape).Registers property := by
  apply Plan.Registers.bind .given
  intro rules
  dsimp only
  split
  · exact .bind (.silent rfl) fun _ => .pure
  · exact .pure

/-- Under a proper name, a schema gives proper names to what is inside of it. -/
def RegistersSynthesised (specification : Specification) (schema : Schema) : Prop :=
  ∀ placement hint location, Identifier.Proper hint →
    (shapePlan specification placement hint location schema).Registers Component.Synthesised

theorem nested_registers {item : OrRef Schema} {hint location : String}
    (inside : item.Satisfies (RegistersSynthesised specification))
    (proper : Identifier.Proper hint) :
    (nestedPlan specification hint location item).Registers Component.Synthesised := by
  cases item with
  | reference target => exact .given
  | object schema => exact inside .nested hint location proper

theorem member_registers {items : List (OrRef Schema)} {hint location : String} {index : Nat}
    (inside : ∀ item ∈ items, item.Satisfies (RegistersSynthesised specification))
    (proper : Identifier.Proper hint) :
    (memberPlans specification hint location index items).Registers Component.Synthesised := by
  induction items generalizing index with
  | nil => exact .pure
  | cons item rest induction =>
      obtain ⟨first, others⟩ := List.forall_mem_cons.mp inside
      exact .bind (nested_registers first (proper.append _)) fun _ =>
        .bind (induction others) fun _ => .pure

theorem fields_register {properties : Table (OrRef Schema)} {required : List String}
    {hint location : String}
    (inside : ∀ entry ∈ properties, entry.2.Satisfies (RegistersSynthesised specification))
    (proper : Identifier.Proper hint) :
    (fieldPlans specification required hint location properties).Registers
      Component.Synthesised := by
  induction properties with
  | nil => exact .pure
  | cons entry rest induction =>
      obtain ⟨first, others⟩ := List.forall_mem_cons.mp inside
      exact .bind (nested_registers first (proper.append _)) fun _ =>
        .bind (field_registers _ _ _ _ _) fun _ => .bind (induction others) fun _ => .pure

section Inner

variable {schema : Schema} {placement : Placement} {hint location : String}
  (inside : schema.Inside (RegistersSynthesised specification)) (proper : Identifier.Proper hint)

include inside proper

theorem element_registers :
    (innerPlans specification hint location schema).element.Registers Component.Synthesised := by
  unfold innerPlans
  dsimp only
  cases stated : schema.items with
  | none => exact .pure
  | some item => exact nested_registers (inside.items item stated) (proper.append _)

theorem additional_registers :
    (innerPlans specification hint location schema).additional.Registers
      Component.Synthesised := by
  unfold innerPlans
  dsimp only
  match stated : schema.additionalProperties with
  | none => exact .pure
  | some (.allowed flag) => exact .pure
  | some (.schema item) =>
      exact .bind (nested_registers (inside.additional item stated) (proper.append _)) fun _ => .pure

theorem composed_registers :
    ((innerPlans specification hint location schema).composed specification location
      schema).Registers Component.Synthesised := by
  unfold InnerPlans.composed
  split
  · exact .given
  · split
    · exact .bind (member_registers inside.allOf (proper.append _)) fun _ => .pure
    · split
      · exact .bind (member_registers inside.oneOf (proper.append _)) fun _ => .pure
      · exact .bind (member_registers inside.anyOf (proper.append _)) fun _ => .pure

theorem object_registers (mapType : Option String) :
    ((innerPlans specification hint location schema).object placement hint location mapType
      schema).Registers Component.Synthesised := by
  have fields : (innerPlans specification hint location schema).fields.Registers
      Component.Synthesised := by
    unfold innerPlans
    dsimp only
    split
    · exact fields_register inside.properties proper
    · exact .fails
  have beside : ((innerPlans specification hint location schema).beside mapType).Registers
      Component.Synthesised := by
    cases mapType with
    | some name => exact .pure
    | none => exact additional_registers inside proper
  apply Plan.Registers.bind fields
  intro shapes
  apply Plan.Registers.bind beside
  intro additional
  dsimp only
  split
  · exact .pure
  · exact place_registers proper

end Inner

/-- Every schema. A name is handed on to what is inside with something behind it. -/
theorem shape_registers (schema : Schema) : RegistersSynthesised specification schema := by
  induction schema using Schema.of_inside with
  | step schema inside =>
      intro placement hint location proper
      rw [shape_plan_of_schema]
      apply Plan.Registers.bind .given
      intro extensions
      cases extensions.goType with
      | some target => exact .pure
      | none =>
          dsimp only
          unfold InnerPlans.own
          split
          · exact .fails
          split
          · exact composed_registers inside proper
          split
          · exact .bind .given fun _ => place_registers proper
          split
          · exact .bind (element_registers inside proper) fun _ => .pure
          split
          · exact object_registers inside proper extensions.mapType
          · exact .given

end Shapes

section Operations

variable {specification : Specification}

theorem scalar_field_registers {name : String} {schema : Option (OrRef Schema)} {required : Bool}
    {hint location : String} {listsAllowed : Bool} (proper : Identifier.Proper hint) :
    (scalarFieldPlan specification name schema required hint location listsAllowed).Registers
      Component.Synthesised := by
  have given : (givenFieldPlan specification name schema required hint
      s!"{location}/schema").Registers Component.Synthesised := by
    match schema with
    | none => exact .pure
    | some (.reference target) => exact .bind .given fun _ => field_registers _ _ _ _ _
    | some (.object schema) =>
        exact .bind (shape_registers schema .nested _ _ proper) fun _ => field_registers _ _ _ _ _
  exact .bind given fun _ => .bind (.silent rfl) fun _ => .pure

theorem parameter_registers {operation identifier : String} {place : Place}
    {stated : StatedParameter} (proper : Identifier.Proper operation) :
    (parameterPlan specification operation identifier place stated).Registers
      Component.Synthesised := by
  apply Plan.Registers.bind (scalar_field_registers ((proper.append _).append _))
  intro plain
  apply Plan.Registers.bind .given
  intro extensions
  dsimp only
  split
  · exact .bind (.silent rfl) fun _ => .pure
  · exact .pure

theorem contents_register {content : Table OpenApi.MediaType} {componentName : String → String}
    {location : String} (proper : ∀ tag, Identifier.Proper (componentName tag)) :
    (contentsPlan specification content componentName location).Registers
      Component.Synthesised := by
  have shape (component contentType place : String) (mediaType : OpenApi.MediaType)
      (named : Identifier.Proper component) :
      (contentShapePlan specification component contentType place mediaType).Registers
        Component.Synthesised := by
    match mediaType with
    | ⟨some (.reference target)⟩ => exact .given
    | ⟨some (.object schema)⟩ =>
        exact .bind (shape_registers schema .declared _ _ named) fun _ => .bind .given fun _ =>
          .bind (.register ⟨⟨place, rfl⟩, named⟩) fun _ => .pure
    | ⟨none⟩ => exact .bind (.register ⟨⟨place, rfl⟩, named⟩) fun _ => .pure
  unfold contentsPlan
  split
  · apply Plan.Registers.collect
    intro entry _
    apply Plan.Registers.bind (shape _ _ _ _ (proper _))
    intro _
    split
    · exact .bind (.silent rfl) fun _ => .pure
    · exact .pure
  · exact .fails

theorem responses_register {name : String} {operation : OpenApi.Operation} {location : String}
    (proper : Identifier.Proper name) :
    (responsesPlan specification name operation location).Registers Component.Synthesised := by
  have headers (hint place : String) (response : OpenApi.Response)
      (named : Identifier.Proper hint) :
      (Plan.collect (headerPlan specification hint place) response.headers).Registers
        Component.Synthesised := by
    apply Plan.Registers.collect
    intro entry _
    unfold headerPlan
    dsimp only
    split
    · exact .fails
    · exact .bind (scalar_field_registers ((named.append _).append _)) fun _ => .pure
  unfold responsesPlan
  split
  · apply Plan.Registers.bind (.collect _) fun _ => .pure
    intro entry _
    unfold responsePlan
    split
    · exact .fails
    split
    · exact .fails
    · apply Plan.Registers.bind
        (contents_register fun tag => ((proper.append _).append _).append _)
      intro _
      exact .bind (headers _ _ _ (proper.append _)) fun _ => .pure
  · exact .fails

theorem operation_registers (schemes : List SecurityScheme) (stated : StatedOperation) :
    (operationPlan specification schemes stated).Registers Component.Synthesised := by
  have proper : Identifier.Proper stated.name :=
    Identifier.of_operation_proper stated.path stated.method
  have parameters (location : String) :
      (parametersPlan specification stated.name stated.item stated.operation
        (pathLocation stated.path) location).Registers Component.Synthesised := by
    apply Plan.Registers.bind .given
    intro read
    unfold statementsPlan
    split
    · exact .collect fun _ _ => parameter_registers proper
    · exact .fails
  have body (location : String) :
      (requestBodyPlan specification stated.name stated.operation location).Registers
        Component.Synthesised := by
    unfold requestBodyPlan
    split
    · exact .pure
    split
    · exact .fails
    · exact .bind (contents_register fun tag => (proper.append _).append _) fun _ => .pure
  exact .bind .given fun _ => .bind (parameters _) fun _ => .bind (body _) fun _ =>
    .bind (responses_register proper) fun _ => .bind .given fun _ => .pure

theorem operations_register (schemes : List SecurityScheme) (paths : Table OpenApi.PathItem) :
    (operationsPlan specification schemes paths).Registers Component.Synthesised := by
  apply Plan.Registers.bind _ fun _ => .pure
  unfold operationPlans
  split
  · exact .collect fun stated _ => operation_registers schemes stated
  · exact .fails

end Operations

structure Component.Declares (component : Component) (key : String) : Prop where
  origin : component.origin = .declared key
  name : component.name = Identifier.exported key
  proper : Identifier.Proper component.name

section Declared

variable {specification : Specification}

theorem declared_effects {key : String} {item : OrRef Schema} {effects : Effects}
    (planned : declaredPlan specification key item = some ((), effects)) :
    ∃ inside own, effects.components = inside ++ [own] ∧ own.Declares key ∧
      ∀ component ∈ inside, component.Synthesised := by
  have proper (given : Identifier.exported key ≠ "") : Identifier.Proper (Identifier.exported key) :=
    Identifier.exported_proper given
  unfold declaredPlan at planned
  dsimp only at planned
  generalize named : Identifier.exported key = name at planned proper
  split at planned
  · cases planned
  rename_i given
  have proper : Identifier.Proper name := proper fun empty => given (by rw [empty]; rfl)
  have silent {α : Type} (outcome : Except Diagnostic α) :
      (Plan.given outcome).Registers Component.Synthesised := .given
  cases item with
  | reference target =>
      obtain ⟨shape, first, second, referred, registered, rfl⟩ := Plan.bind_eq_some.mp planned
      cases registered
      exact ⟨first.components, _, rfl, ⟨rfl, named.symm, proper⟩, (silent _).holds _ _ referred⟩
  | object schema =>
      obtain ⟨extensions, first, rest, read, following, rfl⟩ := Plan.bind_eq_some.mp planned
      obtain ⟨shape, second, third, shaped, registered, rfl⟩ := Plan.bind_eq_some.mp following
      cases registered
      refine ⟨first.components ++ second.components, _, (List.append_assoc _ _ _).symm,
        ⟨rfl, named.symm, proper⟩, ?_⟩
      exact List.forall_mem_append.mpr ⟨(silent _).holds _ _ read,
        (shape_registers schema .declared _ _ proper).holds _ _ shaped⟩

/-- The components of declared schemas stand in the order of the schemas, others between them. -/
theorem declared_components {schemas : Table (OrRef Schema)} {values : List Unit}
    {effects : Effects}
    (planned : Plan.collect (fun entry => declaredPlan specification entry.1 entry.2) schemas =
      some (values, effects)) :
    (∃ owns : List Component, owns.Sublist effects.components ∧
      List.Forall₂ (fun entry own => own.Declares entry.1) schemas owns) ∧
    ∀ component ∈ effects.components,
      (∃ entry ∈ schemas, component.Declares entry.1) ∨ component.Synthesised := by
  induction schemas generalizing values effects with
  | nil =>
      cases planned
      exact ⟨⟨[], List.nil_sublist _, .nil⟩, fun _ member => absurd member List.not_mem_nil⟩
  | cons entry rest induction =>
      obtain ⟨_, first, second, here, following, rfl⟩ := Plan.bind_eq_some.mp planned
      obtain ⟨_, third, fourth, there, ended, rfl⟩ := Plan.bind_eq_some.mp following
      cases ended
      obtain ⟨inside, own, components, declares, synthesised⟩ := declared_effects here
      obtain ⟨⟨owns, included, pairs⟩, others⟩ := induction there
      rw [Effects.append_empty, Effects.components_append, components]
      refine ⟨⟨own :: owns, ?_, .cons declares pairs⟩, ?_⟩
      · rw [List.append_assoc]
        exact (included.cons_cons own).trans (List.sublist_append_right _ _)
      · intro component member
        simp only [List.mem_append, List.mem_singleton] at member
        rcases member with (early | rfl) | late
        · exact .inr (synthesised component early)
        · exact .inl ⟨entry, List.mem_cons_self, declares⟩
        · refine (others component late).imp_left ?_
          rintro ⟨other, listed, known⟩
          exact ⟨other, List.mem_cons_of_mem _ listed, known⟩

/-- What a plan of a program registers, told by the schemas. -/
theorem planned_components {paths : Table OpenApi.PathItem}
    {outline : List SecurityScheme × List Operation} {effects : Effects}
    (planned : programPlan specification paths = some (outline, effects)) :
    (∃ owns : List Component, owns.Sublist effects.components ∧
      List.Forall₂ (fun entry own => own.Declares entry.1)
        (sortByKey specification.components.schemas) owns) ∧
    ∀ component ∈ effects.components,
      (∃ entry ∈ specification.components.schemas, component.Declares entry.1) ∨
        component.Synthesised := by
  obtain ⟨_, first, second, declared, following, rfl⟩ := Plan.bind_eq_some.mp planned
  obtain ⟨_, third, fourth, collected, ended, rfl⟩ := Plan.bind_eq_some.mp declared
  cases ended
  obtain ⟨⟨owns, included, pairs⟩, known⟩ := declared_components collected
  have others : (Plan.given (securitySchemesOf specification) >>= fun schemes =>
      operationsPlan specification schemes paths >>= fun operations =>
        pure (schemes, operations)).Registers Component.Synthesised :=
    .bind .given fun schemes => .bind (operations_register schemes paths) fun _ => .pure
  rw [Effects.append_empty, Effects.components_append]
  refine ⟨⟨owns, included.trans (List.sublist_append_left _ _), pairs⟩, ?_⟩
  intro component member
  rcases List.mem_append.mp member with early | late
  · refine (known component early).imp_left ?_
    rintro ⟨entry, listed, declares⟩
    exact ⟨entry, List.mem_mergeSort.mp listed, declares⟩
  · exact .inr (others.holds _ _ following component late)

end Declared

def registrations (document : Document) : Option (List Component) :=
  (programPlan document.specification document.specification.paths).map (·.2.components)

/-- What is known of the components of a program, by the schemas of its document. -/
structure Program.KeepsSchemas (program : Program) (schemas : Table (OrRef Schema)) : Prop where
  /-- Every schema has one component. -/
  declared : ∀ entry ∈ schemas, ∃! component,
    component ∈ program.components.values ∧ component.origin = .declared entry.1
  /-- It has the name of the schema; all other components have no schema of their own. -/
  origins : ∀ component ∈ program.components.values,
    (∃ entry ∈ schemas, component.origin = .declared entry.1 ∧
      component.name = Identifier.exported entry.1) ∨
    ∃ location, component.origin = .inside location
  distinct : (componentNames schemas).Nodup
  keyed : ∀ entry ∈ program.components, entry.1 = entry.2.name ∧ entry.1 ≠ "" ∧
    Identifier.startsWithDigit entry.1 = false

section Kept

variable {document : Document} {effects : Effects}
  {outline : List SecurityScheme × List Operation}
  (planned : programPlan document.specification document.specification.paths =
    some (outline, effects))
  (distinct : effects.names.Nodup)

omit planned in
include distinct in
theorem registered_perm : (effects.register []).Perm
    (effects.components.map fun component => (component.name, component)) :=
  Effects.register_perm (Fresh.of_nothing_known.mpr distinct)

include planned distinct

theorem keeps_schemas {program : Program} (own : program.components = effects.register []) :
    program.KeepsSchemas document.specification.components.schemas := by
  obtain ⟨⟨owns, included, pairs⟩, known⟩ := planned_components planned
  have order := registered_perm distinct
  have listed (component : Component) :
      component ∈ program.components.values ↔ component ∈ effects.components := by
    rw [own]
    exact Effects.mem_registered distinct
  have named : ∀ component ∈ effects.components, ∀ key, component.origin = .declared key →
      component.name = Identifier.exported key := by
    intro component member key origin
    rcases known component member with ⟨entry, _, declares⟩ | synthesised
    · have same := Origin.declared.inj (declares.origin.symm.trans origin)
      exact same ▸ declares.name
    · obtain ⟨location, inside⟩ := synthesised.origin
      exact nomatch inside.symm.trans origin
  constructor
  · intro entry member
    obtain ⟨component, among, declares⟩ := partner_of_mem pairs (List.mem_mergeSort.mpr member)
    have registered := included.subset among
    refine ⟨component, ⟨(listed component).mpr registered, declares.origin⟩, ?_⟩
    rintro other ⟨there, origin⟩
    have there := (listed other).mp there
    exact List.inj_on_of_nodup_map distinct there registered
      ((named other there _ origin).trans declares.name.symm)
  · intro component member
    rcases known component ((listed component).mp member) with
      ⟨entry, stated, declares⟩ | synthesised
    · exact .inl ⟨entry, stated, declares.origin, declares.name⟩
    · exact .inr synthesised.origin
  · have names : componentNames (sortByKey document.specification.components.schemas) =
        owns.map (·.name) := by
      unfold componentNames
      exact map_eq_of_pairs pairs fun _ _ declares => declares.name.symm
    have sorted : (componentNames (sortByKey document.specification.components.schemas)).Nodup := by
      rw [names]
      exact distinct.sublist (included.map _)
    exact ((List.mergeSort_perm _ _).map _).nodup_iff.mp sorted
  · intro entry member
    rw [own, order.mem_iff] at member
    obtain ⟨component, registered, rfl⟩ := List.mem_map.mp member
    have proper : Identifier.Proper component.name := by
      rcases known component registered with ⟨_, _, declares⟩ | synthesised
      · exact declares.proper
      · exact synthesised.name
    exact ⟨rfl, proper.ne_empty, proper.no_digit⟩

end Kept

/-- A lowered document has one component for every schema, under the name of the schema, and beside
these only components of schemas without names. Nothing that was registered is lost or replaced, as a
document that gives one name twice is not lowered. -/
theorem schemas_kept (document : Document) (config : Config) :
    (∀ program, (lower document config).1 = .ok program →
      program.KeepsSchemas document.specification.components.schemas ∧
      ∃ registered, registrations document = some registered ∧
        program.components.Perm (registered.map fun component => (component.name, component)) ∧
        (registered.map (·.name)).Nodup) ∧
    ∀ registered, registrations document = some registered →
      ¬ (registered.map (·.name)).Nodup →
      ∃ diagnostic, (lower document config).1 = .error diagnostic := by
  constructor
  · intro program lowered
    obtain ⟨schemes, operations, effects, planned, accepted, rfl⟩ := lowered_iff.mp lowered
    refine ⟨keeps_schemas planned accepted.distinct rfl, effects.components, ?_,
      registered_perm accepted.distinct, accepted.distinct⟩
    rw [registrations, planned]
    rfl
  · intro registered asked repeated
    rcases ended : (lower document config).1 with diagnostic | program
    · exact ⟨diagnostic, rfl⟩
    · obtain ⟨schemes, operations, effects, planned, accepted, rfl⟩ := lowered_iff.mp ended
      rw [registrations, planned] at asked
      cases asked
      exact absurd accepted.distinct repeated

/-- A property without a name of its own gets the name of another schema. -/
def clash : Document where
  specification := {
    openapi := "3.0.0"
    components := { schemas := [
      ("dogTag", .object { type := some (.single "string") }),
      ("dog", .object { properties := [("tag", .object { properties := [
        ("number", .object { type := some (.single "integer") })] })] })] } }
  raw := .null

theorem kennel_kept_and_clash_refused :
    (∃ program, (lower kennel { package := "kennel", path := "" }).1 = .ok program ∧
      program.KeepsSchemas kennel.specification.components.schemas) ∧
    (∃ registered, registrations clash = some registered ∧
      registered.map (·.name) = ["DogTag", "Dog", "DogTag"] ∧
      ∃ diagnostic, (lower clash { package := "kennel", path := "" }).1 = .error diagnostic) := by
  constructor
  · have holds : (lowerShort kennel { package := "kennel", path := "" }).any fun _ => true := by
      decide +kernel
    have kept := (schemas_kept kennel { package := "kennel", path := "" }).1
    obtain ⟨program, result, _⟩ := lowered_of_short holds
    exact ⟨program, result, (kept program result).1⟩
  · have names : (registrations clash).map (·.map (·.name)) = some ["DogTag", "Dog", "DogTag"] := by
      simp only [registrations, programPlan, sortByKey, operationsPlan, securitySchemesOf,
        merge_sort_short]
      decide +kernel
    obtain ⟨registered, asked, given⟩ := Option.map_eq_some_iff.mp names
    refine ⟨registered, asked, given, ?_⟩
    apply (schemas_kept clash { package := "kennel", path := "" }).2 registered asked
    rw [given]
    decide

end ApiScaffold.Blueprint
