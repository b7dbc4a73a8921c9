import ApiScaffold.Proofs.DecoderWays
import ApiScaffold.Proofs.DenotedText
import ApiScaffold.Proofs.MethodClash
import ApiScaffold.Proofs.NormalForm
import ApiScaffold.Proofs.PlacedShapes
import ApiScaffold.Proofs.ShortDocuments

/-!
Presence of properties, from the list of required ones in a schema to the decoder of its struct. The
errors for absent properties are told apart by the property that they name, as a literal gives its
text back; so a decoder that is written at all asks for exactly what the schema requires, whatever
else happens to a value, and sets every member once.
-/

namespace ApiScaffold.Go

def Statement.returned : Statement → List Source.Code
  | .give [value] => [value]
  | _ => []

end ApiScaffold.Go

namespace ApiScaffold.Server

open Blueprint Go Source

def nullError (property : String) : Code :=
  [.component "RequiredFieldNullError", s!"\x7bField: {quote property}\x7d"]

def missingError (property : String) : Code :=
  [.component "RequiredFieldMissingError", s!"\x7bField: {quote property}\x7d"]

def shadowOf (property : String) : String := "shadow." ++ Identifier.exported property

def nullGuard (property : String) : Statement :=
  .when s!"{shadowOf property}.IsNull()" [.give [nullError property]]

def missingGuard (property : String) : Statement :=
  .when s!"!{shadowOf property}.IsSet()" [.give [missingError property]]

namespace FieldReading

variable {reading : FieldReading} {type receiver : String}

theorem guards_listed (checked : reading.checked = true) :
    nullGuard reading.field.jsonName ∈ reading.statements type receiver ∧
      missingGuard reading.field.jsonName ∈ reading.statements type receiver := by
  unfold statements
  rw [if_pos checked]
  exact ⟨List.mem_append_left _ List.mem_cons_self,
    List.mem_append_left _ (List.mem_cons_of_mem _ List.mem_cons_self)⟩

theorem transformation_returns {value : Code} (given : value ∈ Go.Statement.gather
      Statement.returned (reading.transformation type receiver)) :
    value.head? = some (.component "PatternMismatchError") ∨
      value.head? = some (.qualified Package.fmt "Errorf") := by
  have trimmed : Go.Statement.gather Statement.returned reading.trimming = [] := by
    unfold trimming
    split <;> rfl
  have assigned : Go.Statement.gather Statement.returned [reading.finalAssignment receiver] = [] := by
    unfold finalAssignment
    cases reading.field.optionality <;> rfl
  unfold transformation at given
  simp only [Go.Statement.gather_define, Go.Statement.gather_append, trimmed, assigned,
    Statement.returned, List.append_nil, List.nil_append] at given
  rcases List.mem_append.mp given with matched | parsed
  · left
    unfold matching at matched
    split at matched
    · rw [List.mem_singleton.mp matched]
      rfl
    · cases matched
  · right
    unfold parsing at parsed
    split at parsed
    · rw [List.mem_singleton.mp parsed]
      rfl
    · cases parsed

/-- What is returned for a field: the errors of its presence if it is checked, and others. -/
theorem statements_return {value : Code}
    (given : value ∈ Go.Statement.gather Statement.returned (reading.statements type receiver)) :
    (reading.checked = true ∧
      (value = nullError reading.field.jsonName ∨ value = missingError reading.field.jsonName)) ∨
    value.head? = some (.component "PatternMismatchError") ∨
      value.head? = some (.qualified Package.fmt "Errorf") := by
  unfold statements at given
  rw [Go.Statement.gather_append, List.mem_append] at given
  rcases given with presence | changed
  · left
    split at presence
    case isTrue checked =>
      refine ⟨checked, ?_⟩
      have listed : value ∈ [nullError reading.field.jsonName,
        missingError reading.field.jsonName] := presence
      simpa using listed
    case isFalse => cases presence
  · right
    have plain : Go.Statement.gather Statement.returned
        (reading.plainAssignment receiver) = [] := by
      unfold plainAssignment
      cases reading.field.optionality <;> cases reading.checked <;> rfl
    split at changed
    case isFalse =>
      rw [plain] at changed
      cases changed
    case isTrue =>
      apply @transformation_returns reading type receiver
      unfold transformedAssignment source emptyAssignment at changed
      cases kind : reading.field.optionality <;> cases asked : reading.checked <;>
        simp [kind, asked, Statement.returned] at changed <;> exact changed

end FieldReading

/-- A type reads itself from documents by a method with the body. -/
def Decodes (program : Program) (type : String) (body : List Statement) : Prop :=
  ∃ declaration ∈ (componentsPart program).declarations, ∃ receiver signature,
    declaration.form = .method receiver "UnmarshalJSON" signature body ∧ receiver.type = type

section Decoders

variable {program : Program} {component : Component}
  {fields : List (String × Blueprint.Field Shape)} {required : List String}
  {additional : Additional Shape}

theorem struct_part_decoder {outline : Outline} {comment : List String} {declaration : Declaration}
    {fields : List (Blueprint.Field Shape)} {receiver : Receiver} {signature : Code}
    {body : List Statement}
    (listed : declaration ∈
      (Component.structPart outline component comment fields required).declarations)
    (form : declaration.form = .method receiver "UnmarshalJSON" signature body) :
    declaration ∈ (Decoder.part component.name
      (fields.map (FieldReading.ofField outline required))).declarations := by
  unfold Component.structPart at listed
  dsimp only at listed
  simp only [Part.declarations_append, List.mem_append] at listed
  rcases listed with ((struct | patterns) | decoder) | validator
  · rw [List.mem_singleton.mp struct] at form
    cases form
  · unfold PatternVariable.part at patterns
    split at patterns
    · cases patterns
    · rw [List.mem_singleton.mp patterns] at form
      cases form
  · exact decoder
  · split at validator
    · rw [List.mem_singleton.mp validator] at form
      exact absurd (Form.method.inj form).2.1 (by decide)
    · cases validator

theorem component_method_type {outline : Outline} {declaration : Declaration}
    (listed : declaration ∈ (Component.part outline component).declarations)
    {type name : String} (attached : declaration.form.attaches? = some (type, name)) :
    component.name = type := by
  have own : declaration ∈ (Component.shapePart outline component
      (commentOn component.name component.description)).declarations := by
    rcases List.mem_append.mp listed with none | own
    · cases none
    · exact own
  have method : (type, name) ∈ (Component.shapePart outline component
      (commentOn component.name component.description)).methods :=
    List.mem_filterMap.mpr ⟨declaration, own, attached⟩
  obtain ⟨introducing, among, introduces, _⟩ :=
    (shape_part_judged outline component _).judged _ method
  have typed : type ∈ (Component.shapePart outline component
      (commentOn component.name component.description)).types :=
    List.mem_filterMap.mpr ⟨introducing, among, introduces⟩
  exact (List.mem_singleton.mp ((shape_part_types outline component _).subset typed)).symm

theorem runtime_method_types : ∀ method ∈ Outcome.part.methods, method.1 ∈ Outcome.part.types := by
  decide

/-- Names of types being distinct, the methods of a component are declared beside its type. -/
theorem component_method_own {document : OpenApi.Specification} {whole : Effects}
    (given : ProgramGiven document whole program) (types : (componentsPart program).types.Nodup)
    (member : component ∈ program.components.values)
    (introduced : component.name ∈ (Component.part (Outline.ofProgram program) component).types)
    {declaration : Declaration} (listed : declaration ∈ (componentsPart program).declarations)
    {name : String} (attached : declaration.form.attaches? = some (component.name, name)) :
    declaration ∈ (Component.part (Outline.ofProgram program) component).declarations := by
  rcases List.mem_append.mp listed with runtime | joined
  · exfalso
    have method : (component.name, name) ∈ Outcome.part.methods :=
      List.mem_filterMap.mpr ⟨declaration, runtime, attached⟩
    have among := List.mem_map_of_mem (f := Component.part (Outline.ofProgram program)) member
    obtain ⟨declared, own, introduces⟩ := List.mem_filterMap.mp introduced
    have joined : component.name ∈ (Part.join (program.components.values.map
        (Component.part (Outline.ofProgram program)))).types :=
      List.mem_filterMap.mpr ⟨declared, Part.declarations_subset_join among own, introduces⟩
    unfold componentsPart at types
    dsimp only at types
    rw [Part.types_append] at types
    exact (List.nodup_append.mp types).2.2 _ (runtime_method_types _ method) _ joined rfl
  · rw [Part.declarations_join] at joined
    obtain ⟨part, listed, inside⟩ := List.mem_flatMap.mp joined
    obtain ⟨other, here, rfl⟩ := List.mem_map.mp listed
    rw [← given.component_unique here member (component_method_type inside attached)]
    exact inside

/-- Names of types being distinct, a struct of fields is decoded by its own decoder alone. -/
theorem decodes_iff {document : OpenApi.Specification} {whole : Effects}
    (given : ProgramGiven document whole program) (types : (componentsPart program).types.Nodup)
    (member : component ∈ program.components.values)
    (object : component.shape = .object fields required additional) (filled : fields ≠ [])
    {body : List Statement} :
    Decodes program component.name body ↔
      (Component.readings (Outline.ofProgram program) component).any FieldReading.needsDecoder ∧
      body = (Decoder.method component.name
        (Component.readings (Outline.ofProgram program) component)).form.body := by
  have shape := Component.shape_part_of_fields (Outline.ofProgram program) object filled
  have readings := Component.readings_of_object (Outline.ofProgram program) object
  constructor
  · rintro ⟨declaration, listed, receiver, signature, form, typed⟩
    have attached : declaration.form.attaches? = some (component.name, "UnmarshalJSON") := by
      rw [form, ← typed]
      rfl
    have introduced : component.name ∈
        (Component.part (Outline.ofProgram program) component).types := by
      refine List.mem_filterMap.mpr ?_
      unfold Component.part
      dsimp only
      rw [shape]
      exact ⟨_, List.mem_append_right _ List.mem_cons_self, congrArg some String.append_empty⟩
    have own := component_method_own given types member introduced listed attached
    have decoder : declaration ∈ (Decoder.part component.name
        (Component.readings (Outline.ofProgram program) component)).declarations := by
      rcases List.mem_append.mp own with none | inside
      · cases none
      · rw [shape] at inside
        rw [readings]
        exact struct_part_decoder inside form
    unfold Decoder.part at decoder
    split at decoder
    case isTrue needed =>
      rw [List.mem_singleton.mp decoder] at form
      exact ⟨needed, (Form.method.inj form).2.2.2.symm⟩
    case isFalse => cases decoder
  · rintro ⟨needed, rfl⟩
    refine ⟨Decoder.method component.name _, ?_, _, _, rfl, rfl⟩
    have among := List.mem_map_of_mem (f := Component.part (Outline.ofProgram program)) member
    refine List.mem_append_right _ (Part.declarations_subset_join among ?_)
    refine List.mem_append_right _ ?_
    rw [shape]
    refine List.mem_append_left _ (List.mem_append_right _ ?_)
    rw [← readings, Decoder.part, if_pos needed]
    exact List.mem_cons_self

structure ReadsProperties (schema : OpenApi.Schema) (type : String) (readings : List FieldReading)
    (body : List Statement) : Prop where
  guarded : ∀ property ∈ schema.properties, property.1 ∈ schema.required →
    nullGuard property.1 ∈ body ∧ missingGuard property.1 ∈ body
  /-- At no depth is one of the errors returned. -/
  unguarded : ∀ property ∈ schema.properties, property.1 ∉ schema.required →
    ∀ statement ∈ Go.Statement.wholes body,
      statement ≠ .give [nullError property.1] ∧ statement ≠ .give [missingError property.1]
  /-- Once the shadow has been read, members are set on every way to the end, and there is one. -/
  assigned : ∃ before after,
    body = before ++ Decoder.unmarshalInto "shadow" :: (after ++ [.give ["nil"]]) ∧
      (∃ events, Go.Statement.Passes after events) ∧
      ∀ events, Go.Statement.Passes after events →
        ∀ reading ∈ readings, reading.SetOnce (receiverName type) events

theorem errors_apart (property : String) (value : Code)
    (error : value = nullError property ∨ value = missingError property) :
    value.head? ≠ some (.component "PatternMismatchError") ∧
      value.head? ≠ some (.qualified Package.fmt "Errorf") := by
  rcases error with rfl | rfl <;> exact ⟨by simp [nullError, missingError], nofun⟩

/-- An error about the presence of a property comes of the check of that property. -/
theorem presence_error_checked {type receiver : String} {readings : List FieldReading}
    {property : String} {value : Code}
    (error : value = nullError property ∨ value = missingError property)
    (given : value ∈ Go.Statement.gather Statement.returned
      (readings.flatMap (FieldReading.statements type receiver))) :
    ∃ reading ∈ readings, reading.checked = true ∧ reading.field.jsonName = property := by
  rw [Go.Statement.gather_flat_map] at given
  obtain ⟨reading, listed, own⟩ := List.mem_flatMap.mp given
  obtain ⟨matched, parsed⟩ := errors_apart property value error
  rcases FieldReading.statements_return own with ⟨checked, same⟩ | other | other
  · refine ⟨reading, listed, checked, ?_⟩
    have fields {first second : String} (equal : (s!"\x7bField: {quote first}\x7d" : String) =
        s!"\x7bField: {quote second}\x7d") : first = second := by
      have inner := String.append_right_inj _ |>.mp (String.append_left_inj _ |>.mp equal)
      exact quote_injective inner
    rcases error with rfl | rfl <;> rcases same with same | same
    · exact fields (Fragment.text.inj (List.cons.inj (List.cons.inj same).2).1).symm
    · exact absurd (Fragment.component.inj (List.cons.inj same).1) (by decide)
    · exact absurd (Fragment.component.inj (List.cons.inj same).1) (by decide)
    · exact fields (Fragment.text.inj (List.cons.inj (List.cons.inj same).2).1).symm
  · exact absurd other matched
  · exact absurd other parsed

structure ReadingsGiven (schema : OpenApi.Schema) (readings : List FieldReading) : Prop where
  names : readings.map (·.field.jsonName) = schema.properties.map (·.1)
  asked : ∀ reading ∈ readings, reading.checked = true ↔ reading.field.jsonName ∈ schema.required
  distinct : (readings.map FieldReading.member).Nodup

theorem method_reads_properties {schema : OpenApi.Schema} {type : String}
    {readings : List FieldReading} (known : ReadingsGiven schema readings) :
    ReadsProperties schema type readings (Decoder.method type readings).form.body := by
  have body : (Decoder.method type readings).form.body =
      [Decoder.acceptNull, .listing "var shadow struct \x7b" (readings.map FieldReading.shadowRow)
        "\x7d"] ++ Decoder.unmarshalInto "shadow" ::
          (readings.flatMap (FieldReading.statements type (receiverName type)) ++
            [.give ["nil"]]) := by
    simp [Decoder.method, Form.body]
  have returns : Go.Statement.gather Statement.returned (Decoder.method type readings).form.body =
      ([[.text "nil"]] ++ [[.text "err"]]) ++ (Go.Statement.gather Statement.returned
        (readings.flatMap (FieldReading.statements type (receiverName type))) ++
          [[.text "nil"]]) := by
    rw [body, Go.Statement.gather_append, Decoder.unmarshalInto, Go.Statement.gather_when,
      Go.Statement.gather_append]
    rfl
  constructor
  · intro property listed required
    have named : property.1 ∈ readings.map (·.field.jsonName) :=
      known.names ▸ List.mem_map_of_mem listed
    obtain ⟨reading, member, same⟩ := List.mem_map.mp named
    have guards := @FieldReading.guards_listed reading type (receiverName type)
      ((known.asked reading member).mpr (same ▸ required))
    have within : reading.statements type (receiverName type) ⊆
        (Decoder.method type readings).form.body := by
      intro statement inside
      rw [body]
      refine List.mem_append_right _ (List.mem_cons_of_mem _ (List.mem_append_left _ ?_))
      exact List.mem_flatMap.mpr ⟨reading, member, inside⟩
    rw [← same]
    exact ⟨within guards.1, within guards.2⟩
  · intro property listed free statement inside
    have returned {value : Code} (error : value = nullError property.1 ∨
        value = missingError property.1) : statement ≠ .give [value] := by
      rintro rfl
      have given : value ∈ Go.Statement.gather Statement.returned
          (Decoder.method type readings).form.body :=
        List.mem_flatMap.mpr ⟨_, inside, List.mem_singleton_self value⟩
      have plain : value ≠ [.text "nil"] ∧ value ≠ [.text "err"] := by
        rcases error with rfl | rfl <;> simp [nullError, missingError]
      rw [returns] at given
      simp only [List.mem_append, List.mem_singleton, plain.1, plain.2, false_or,
        or_false] at given
      obtain ⟨reading, member, checked, same⟩ := presence_error_checked error given
      exact free (same ▸ (known.asked reading member).mp checked)
    exact ⟨returned (.inl rfl), returned (.inr rfl)⟩
  · refine ⟨_, _, body, ?_, fun events passes reading listed =>
      FieldReading.passes_set_once known.distinct listed passes⟩
    exact FieldReading.passes_exist readings

/-- A field is checked iff its property is required. -/
theorem field_checked_iff {outline : Outline} {schema : OpenApi.Schema}
    (agree : FieldsAgree fields (declaredRequirements schema))
    (keys : fields.map (·.1) = schema.properties.map (·.1))
    {entry : String × Blueprint.Field Shape} (listed : entry ∈ fields) :
    (FieldReading.ofField outline (declaredRequirements schema) entry.2).checked = true ↔
      entry.2.jsonName ∈ schema.required := by
  have stated : entry.1 ∈ schema.properties.map (·.1) := keys ▸ List.mem_map_of_mem listed
  have required : entry.1 ∈ declaredRequirements schema ↔ entry.1 ∈ schema.required := by
    rw [mem_declared_requirements, and_iff_left stated]
  unfold FieldReading.ofField Field.isRequired
  rw [Bool.or_eq_true, beq_iff_eq, agree.present entry listed, List.contains_iff_mem,
    agree.named entry listed, ← required]
  exact or_iff_right_of_imp And.left

theorem readings_given {specification : OpenApi.Specification} {whole : Effects}
    {name location : String} {schema : OpenApi.Schema} {outline : Outline}
    (kept : FieldsGiven specification whole name location schema fields) :
    ReadingsGiven schema (fields.map fun entry =>
      FieldReading.ofField outline (declaredRequirements schema) entry.2) := by
  have agree := kept.object.toFieldsAgree
  have keys : fields.map (·.1) = schema.properties.map (·.1) :=
    (map_eq_of_pairs kept.given fun _ _ entry => entry.key.symm).symm
  have names : (fields.map fun entry => FieldReading.ofField outline
      (declaredRequirements schema) entry.2).map (·.field.jsonName) =
        schema.properties.map (·.1) := by
    rw [List.map_map, ← keys]
    exact List.map_congr_left agree.named
  refine ⟨names, fun reading inside => ?_, ?_⟩
  · obtain ⟨entry, among, rfl⟩ := List.mem_map.mp inside
    exact field_checked_iff agree keys among
  · have members (readings : List FieldReading) : readings.map FieldReading.member =
        (readings.map (·.field.jsonName)).map Identifier.exported := by
      rw [List.map_map, Function.comp_def]
      unfold FieldReading.member
      rfl
    have identifiers : (schema.properties.map (·.1)).map Identifier.exported =
        propertyIdentifiers schema.properties := by
      rw [List.map_map, Function.comp_def, propertyIdentifiers]
    rw [members, names, identifiers]
    exact kept.identifiable.1.distinct

/-- A decoder is needed if a property is required or more happens to a value. -/
theorem ReadingsGiven.decoder_needed {schema : OpenApi.Schema} {readings : List FieldReading}
    (given : ReadingsGiven schema readings)
    (needed : (∃ property ∈ schema.properties, property.1 ∈ schema.required) ∨
      ∃ reading ∈ readings, reading.isTransformed = true) :
    readings.any FieldReading.needsDecoder = true := by
  rw [List.any_eq_true]
  rcases needed with ⟨property, stated, required⟩ | ⟨reading, inside, changed⟩
  · have named : property.1 ∈ readings.map (·.field.jsonName) :=
      given.names ▸ List.mem_map_of_mem stated
    obtain ⟨reading, inside, same⟩ := List.mem_map.mp named
    have checked := (given.asked reading inside).mpr (same ▸ required)
    exact ⟨reading, inside, by rw [FieldReading.needsDecoder, checked, Bool.true_or]⟩
  · exact ⟨reading, inside, by rw [FieldReading.needsDecoder, changed, Bool.or_true]⟩

/-- Presence is asked for by the decoder of a struct exactly as by the schema of the object, and
every member is set once. -/
theorem decoders_read_properties {document : OpenApi.Document} {config : Config}
    {artifacts : Artifact × Artifact} (compiled : (compile document config).1 = .ok program)
    (written : Artifact.all program = .ok artifacts)
    (member : component ∈ program.components.values)
    (object : component.shape = .object fields required additional) :
    let readings := Component.readings (Outline.ofProgram program) component
    (fields ≠ [] → ∃ schema, ObjectStands document.specification component.name schema) ∧
    ∀ schema, ObjectStands document.specification component.name schema →
      readings.map (·.field.jsonName) = schema.properties.map (·.1) ∧
      (∀ reading ∈ readings,
        reading.checked = true ↔ reading.field.jsonName ∈ schema.required) ∧
      ((∃ property ∈ schema.properties, property.1 ∈ schema.required) ∨
          (∃ reading ∈ readings, reading.isTransformed = true) →
        ∃ body, Decodes program component.name body) ∧
      ∀ body, Decodes program component.name body →
        ReadsProperties schema component.name readings body := by
  intro readings
  obtain ⟨whole, given⟩ := lowered_given (compiled_iff.mp compiled)
  obtain ⟨own, _⟩ := Artifact.all_succeeds_iff.mp ⟨artifacts, written⟩
  have types := component_types_distinct (compiled_drafted compiled)
    ((components_part_accounted program).nodup own)
  refine ⟨given.object_stands member object, fun schema stands => ?_⟩
  obtain ⟨other, among, named, location, given', additional', shape, kept⟩ :=
    given.object_placed stands
  cases given.component_unique among member named
  cases object.symm.trans shape
  have listed : readings = fields.map fun entry => FieldReading.ofField (Outline.ofProgram program)
      (declaredRequirements schema) entry.2 := by
    unfold readings Component.readings
    rw [object]
  have decoded {body : List Statement} : Decodes program component.name body ↔
      readings.any FieldReading.needsDecoder ∧
        body = (Decoder.method component.name readings).form.body :=
    decodes_iff given types member object (kept.filled stands.filled)
  have known : ReadingsGiven schema readings := listed ▸ readings_given kept
  refine ⟨known.names, known.asked, fun needed => ?_, fun body decodes => ?_⟩
  · exact ⟨_, decoded.mpr ⟨known.decoder_needed needed, rfl⟩⟩
  · obtain ⟨_, rfl⟩ := decoded.mp decodes
    exact method_reads_properties known

end Decoders

/-- Properties that are pointers, null, trimmed, matched and parsed, some of which are required. -/
def visit : OpenApi.Schema where
  type := some (.single "object")
  required := ["owner", "pet"]
  properties := [
    ("owner", .object {
      type := some (.single "string"), extensions := [("x-go-pointer", .bool true)] }),
    ("pet", .object {
      type := some (.single "string"), nullable := true
      extensions := [("x-go-regex", .string "^a"), ("x-go-string-trimmable", .bool true)] }),
    ("phone", .object {
      type := some (.single "string")
      extensions := [("x-go-pointer", .bool true), ("x-go-string-trimmable", .bool true)] }),
    ("room", .object {
      type := some (.single "string")
      extensions := [("x-go-type", .string "hall.Room"),
        ("x-go-type-string-parse", .string "hall.Parse")] })]

def surgery : OpenApi.Document where
  specification := { openapi := "3.0.0", components := { schemas := [("visit", .object visit)] } }
  raw := .null

theorem surgery_visit_read :
    ∃ program artifacts component fields required additional body,
      (compile surgery { package := "api", path := "" }).1 = .ok program ∧
      Artifact.all program = .ok artifacts ∧ component ∈ program.components.values ∧
      component.shape = .object fields required additional ∧ component.name = "Visit" ∧
      Decodes program "Visit" body ∧
      nullGuard "owner" ∈ body ∧ missingGuard "pet" ∈ body ∧
      ∀ statement ∈ Go.Statement.wholes body, statement ≠ .give [nullError "phone"] := by
  have holds : (compileShort surgery { package := "api", path := "" }).any fun program =>
      (program.components.values.any fun component =>
        component.name == "Visit" && !component.shape.fields.isEmpty) &&
      decide ((componentsPart program).taken ++ (routerPart program).taken).Nodup := by
    decide +kernel
  obtain ⟨program, result, known⟩ := compiled_of_short holds
  simp only [Bool.and_eq_true, List.any_eq_true, beq_iff_eq, decide_eq_true_eq] at known
  obtain ⟨⟨component, member, named, filled⟩, distinct⟩ := known
  obtain ⟨artifacts, emitted⟩ := Artifact.succeeds_of_distinct distinct
  have key : Identifier.exported "visit" = component.name := by
    rw [named]
    decide
  have stands : ObjectStands surgery.specification component.name visit := by
    refine ⟨key ▸ .declared List.mem_cons_self, ?_, List.cons_ne_nil _ _⟩
    decide +kernel
  obtain ⟨fields, required, additional, object⟩ : ∃ fields required additional,
      component.shape = .object fields required additional := by
    cases shape : component.shape with
    | object fields required additional => exact ⟨fields, required, additional, rfl⟩
    | _ =>
        rw [shape] at filled
        cases filled
  obtain ⟨_, reads⟩ := decoders_read_properties result emitted member object
  obtain ⟨_, _, decoded, properties⟩ := reads visit stands
  obtain ⟨body, decodes⟩ := decoded (.inl ⟨_, List.mem_cons_self, List.mem_cons_self⟩)
  have read := properties body decodes
  have owner := read.guarded _ List.mem_cons_self List.mem_cons_self
  have pet := read.guarded _ (List.mem_cons_of_mem _ List.mem_cons_self)
    (List.mem_cons_of_mem _ List.mem_cons_self)
  have phone := read.unguarded _
    (List.mem_cons_of_mem _ (List.mem_cons_of_mem _ List.mem_cons_self)) (by decide)
  exact ⟨program, artifacts, component, fields, required, additional, body, result, emitted, member,
    object, named, named ▸ decodes, owner.1, pet.2, fun statement inside =>
      (phone statement inside).1⟩

end ApiScaffold.Server
