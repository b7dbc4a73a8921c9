import ApiScaffold.Proofs.BlockScopes
import ApiScaffold.Proofs.CleanNames
import ApiScaffold.Proofs.ShortDocuments
import ApiScaffold.Proofs.StructMembers

/-!
The variables of functions. Most blocks hold the variables of one field or of one parameter, which
differ in how they end. Only at the top of a decoder and of a parser do those of several stand
together; they are written in camel case, which does not keep apart all names that differ.
-/

namespace ApiScaffold.Server

open Blueprint Go Source

namespace FieldReading

def isHeld (reading : FieldReading) : Bool :=
  match reading.field.optionality with
  | .required => reading.isTransformed
  | .pointer => reading.checked
  | _ => false

def valueLocals (reading : FieldReading) : List String :=
  reading.valueName :: if reading.parser.isSome then [reading.parsedName, "err"] else []

variable (reading : FieldReading) (type receiver : String)

theorem transformation_introduces :
    Statement.introduced (reading.transformation type receiver) = reading.valueLocals := by
  unfold transformation valueLocals trimming matching parsing finalAssignment
  cases reading.field.trimmable <;> cases reading.field.regex <;> cases reading.parser <;>
    cases reading.field.optionality <;> rfl

theorem statements_introduce :
    Statement.introduced (reading.statements type receiver) =
      if reading.isHeld then reading.valueLocals else [] := by
  have guards :
      Statement.introduced (if reading.checked then reading.presenceGuards else []) = [] := by
    unfold presenceGuards
    split <;> rfl
  have plain (simple : reading.isTransformed = false) :
      Statement.introduced (reading.plainAssignment receiver) =
        if reading.isHeld then reading.valueLocals else [] := by
    have parserless : reading.parser.isSome = false := by
      unfold isTransformed at simple
      simp only [Bool.or_eq_false_iff] at simple
      exact simple.2
    unfold plainAssignment isHeld valueLocals
    rw [simple, parserless]
    cases reading.field.optionality <;> cases reading.checked <;> rfl
  have transformed (changed : reading.isTransformed = true) :
      Statement.introduced (reading.transformedAssignment type receiver) =
        if reading.isHeld then reading.valueLocals else [] := by
    have body := reading.transformation_introduces type receiver
    unfold transformedAssignment isHeld source
    rw [changed]
    cases reading.field.optionality <;> cases reading.checked <;> first | exact body | rfl
  unfold statements
  rw [Statement.introduced_append, guards, List.nil_append]
  cases changed : reading.isTransformed with
  | false => exact plain changed
  | true => exact transformed changed

theorem member_unbroken : Identifier.Unbroken reading.member.toList :=
  (Identifier.exported_clean _).unbroken

theorem value_locals_distinct : Distinct reading.valueLocals := by
  have unbroken := reading.member_unbroken
  have kept : reading.valueName ∉ reusable := local_not_reusable unbroken (by decide)
  have held : reading.parsedName ∉ reusable := local_not_reusable unbroken (by decide)
  have differ : reading.valueName ≠ reading.parsedName :=
    locals_differ unbroken (by decide) unbroken (by decide) (by decide)
  have error : "err" ∈ reusable := by decide
  unfold valueLocals Distinct
  split
  · simp [kept, held, error, differ]
  · simp [kept]

/-- A variable of a value tells which value it is of. -/
theorem value_locals_recognised {first second : FieldReading} {shared : String}
    (here : shared ∈ first.valueLocals) (there : shared ∈ second.valueLocals)
    (kept : shared ∉ reusable) : first.valueName = second.valueName := by
  have cases (reading : FieldReading) (member : shared ∈ reading.valueLocals) :
      shared = reading.valueName ∨ shared = reading.parsedName := by
    unfold valueLocals at member
    split at member
    · simp only [List.mem_cons, List.not_mem_nil, or_false] at member
      rcases member with value | parsed | rfl
      · exact .inl value
      · exact .inr parsed
      · exact absurd (by decide) kept
    · exact .inl (List.mem_singleton.mp member)
  have differ (one other : FieldReading) : one.valueName ≠ other.parsedName :=
    locals_differ one.member_unbroken (by decide) other.member_unbroken (by decide) (by decide)
  rcases cases first here with value | parsed <;> rcases cases second there with value' | parsed'
  · exact value.symm.trans value'
  · exact absurd (value.symm.trans parsed') (differ first second)
  · exact absurd (value'.symm.trans parsed) (differ second first)
  · exact variables_shared first.member_unbroken second.member_unbroken (by decide) (by decide)
      (parsed.symm.trans parsed')

/-- Blocks of a field hold the variables of its value, or none. -/
theorem statements_distinct_inside : DistinctInside (reading.statements type receiver) := by
  have guards : DistinctInside (if reading.checked then reading.presenceGuards else []) := by
    unfold presenceGuards
    split
    · exact .cons (.when distinct_nil .nil) (.when distinct_nil .nil)
    · exact .nil
  have matched : DistinctInside (matching type reading) := by
    unfold matching
    split
    · exact .when distinct_nil .nil
    · exact .nil
  have parsed : DistinctInside reading.parsing := by
    unfold parsing
    split
    · exact .cons (.of_nothing rfl) (.when distinct_nil .nil)
    · exact .nil
  have trimmed : DistinctInside reading.trimming := by
    apply DistinctInside.of_nothing
    unfold trimming
    split <;> rfl
  have final : DistinctInside [reading.finalAssignment receiver] := by
    apply DistinctInside.of_nothing
    unfold finalAssignment
    cases reading.field.optionality <;> rfl
  have body : DistinctInside (reading.transformation type receiver) := by
    refine .cons (.of_nothing rfl) ?_
    exact .append (.append (.append trimmed matched) parsed) final
  have top : Distinct (Statement.introduced (reading.transformation type receiver)) := by
    rw [transformation_introduces]
    exact reading.value_locals_distinct
  have plain : DistinctInside (reading.plainAssignment receiver) := by
    apply DistinctInside.of_nothing
    unfold plainAssignment
    cases reading.field.optionality <;> cases reading.checked <;> rfl
  have transformed : DistinctInside (reading.transformedAssignment type receiver) := by
    unfold transformedAssignment
    dsimp only
    split
    · exact body
    · split
      · exact .choose top body distinct_nil (.of_nothing rfl)
      · exact .when top body
  unfold statements
  refine .append guards ?_
  split
  · exact transformed
  · exact plain

end FieldReading

section Components

theorem flat_map_filter {α : Type} (kept : α → Bool) (names : α → List String) (items : List α) :
    (items.flatMap fun item => if kept item then names item else []) =
      (items.filter kept).flatMap names := by
  induction items with
  | nil => rfl
  | cons item rest induction =>
      rw [List.flatMap_cons, induction, List.filter_cons]
      split
      · rfl
      · rfl

/-- A decoder has no variable twice iff the values that it holds at its top are held by variables of
different names. -/
theorem decoder_scoped_iff (type : String) (readings : List FieldReading) :
    (Decoder.method type readings).form.Scoped ↔
      ((readings.filter FieldReading.isHeld).map FieldReading.valueName).Nodup := by
  have fields : Statement.introduced (Decoder.method type readings).form.body =
      (readings.filter FieldReading.isHeld).flatMap FieldReading.valueLocals := by
    unfold Decoder.method Form.body
    dsimp only
    rw [Statement.introduced_append, Statement.introduced_append, Statement.introduced_flat_map]
    simp only [FieldReading.statements_introduce, flat_map_filter]
    exact List.append_nil _
  have inside : DistinctInside (Decoder.method type readings).form.body := by
    unfold Decoder.method Form.body Decoder.acceptNull Decoder.unmarshalInto giveError
    refine .append (.append ?_ (.flat_map fun reading _ => reading.statements_distinct_inside _ _))
      (.of_nothing rfl)
    refine .cons (.when distinct_nil .nil) ?_
    exact .cons (.of_nothing rfl) (.when distinct_nil .nil)
  have value (reading : FieldReading) : reading.valueName ∉ reusable :=
    local_not_reusable reading.member_unbroken (by decide)
  have distinct : Distinct (Statement.introduced (Decoder.method type readings).form.body) ↔
      ((readings.filter FieldReading.isHeld).map FieldReading.valueName).Nodup := by
    rw [fields]
    exact locals_distinct_iff (fun reading _ => reading.value_locals_distinct)
      (fun reading _ => ⟨List.mem_cons_self, value reading⟩)
      fun _ _ _ _ _ here there kept => FieldReading.value_locals_recognised here there kept
  exact ⟨fun holds => distinct.mp holds.top, fun differ => ⟨distinct.mpr differ, inside⟩⟩

def Component.heldNames (outline : Outline) (component : Component) : List String :=
  ((Component.readings outline component).filter FieldReading.isHeld).map FieldReading.valueName

theorem decoder_part_scoped_iff (type : String) (readings : List FieldReading) :
    (Decoder.part type readings).Every (·.form.Scoped) ↔
      ((readings.filter FieldReading.isHeld).map FieldReading.valueName).Nodup := by
  unfold Decoder.part
  cases needed : readings.any FieldReading.needsDecoder with
  | true => exact List.forall_mem_singleton.trans (decoder_scoped_iff type readings)
  | false =>
      -- no value is held where none is checked or changed
      have none : readings.filter FieldReading.isHeld = [] := by
        rw [List.filter_eq_nil_iff]
        intro reading member held
        have idle := List.any_eq_false.mp needed reading member
        unfold FieldReading.needsDecoder at idle
        simp only [Bool.or_eq_true, not_or] at idle
        unfold FieldReading.isHeld at held
        split at held
        · exact idle.2 held
        · exact idle.1 held
        · cases held
      rw [none]
      exact iff_of_true Part.every_empty List.nodup_nil

theorem patterns_scoped (owner : String) (patterns : List PatternVariable) :
    (PatternVariable.part owner patterns).Every (·.form.Scoped) := by
  unfold PatternVariable.part
  split
  · exact Part.every_empty
  · exact List.forall_mem_singleton.mpr ⟨distinct_nil, .nil⟩

theorem member_check_scoped (type : String) (members : List EnumMember) :
    (Component.memberCheck type members).form.Scoped := by
  refine ⟨distinct_nil, fun scope member => ?_⟩
  have none : scope = [] := by
    simpa [Component.memberCheck, Form.body] using member
  exact none ▸ distinct_nil

theorem member_decoder_scoped (type : String) (base : PrimitiveKind) :
    (Component.memberDecoder type base).form.Scoped := by
  constructor
  · change Distinct ["value", "result"]
    decide
  · intro scope member
    have none : scope = [] := by
      simpa [Component.memberDecoder, Form.body, Decoder.acceptNull, Decoder.unmarshalInto,
        giveError] using member
    exact none ▸ distinct_nil

theorem component_scoped_iff (outline : Outline) (component : Component) :
    (Component.part outline component).Every (·.form.Scoped) ↔
      (Component.heldNames outline component).Nodup := by
  have heldless (fieldless : component.shape.fields = []) :
      (Component.heldNames outline component).Nodup := by
    rw [Component.heldNames, Component.readings_of_fieldless outline fieldless]
    exact List.nodup_nil
  unfold Component.part
  refine (Part.every_append _ _).trans ((and_iff_right Part.every_empty).trans ?_)
  unfold Component.shapePart
  split
  · rename_i object
    refine iff_of_true (List.forall_mem_singleton.mpr ⟨distinct_nil, .nil⟩) (heldless ?_)
    rw [object]
    rfl
  · rename_i field fields required additional object
    have validator (validated : Bool) : (if validated then
        Component.validatorPart outline component.name ((field :: fields).map (·.2))
          else ({} : Part)).Every (·.form.Scoped) := by
      cases validated
      · exact Part.every_empty
      · exact List.forall_mem_singleton.mpr ⟨distinct_nil, .of_nothing rfl⟩
    unfold Component.structPart Component.heldNames
    dsimp only
    rw [Part.every_append, Part.every_append, Part.every_append,
      ← Component.readings_of_object outline object, decoder_part_scoped_iff,
      and_iff_left (validator _), and_iff_right]
    refine ⟨List.forall_mem_singleton.mpr ⟨distinct_nil, .nil⟩, patterns_scoped _ _⟩
  · rename_i enumeration object
    refine iff_of_true ?_ (heldless ?_)
    · unfold Component.enumPart
      simp only [Part.Every, List.forall_mem_cons, List.not_mem_nil, false_imp_iff, implies_true,
        and_true]
      exact ⟨⟨distinct_nil, .nil⟩, ⟨distinct_nil, .nil⟩, member_check_scoped _ _,
        member_decoder_scoped _ _⟩
    · rw [object]
      rfl
  · rename_i empty filled other
    refine iff_of_true (List.forall_mem_singleton.mpr ⟨distinct_nil, .nil⟩) (heldless ?_)
    cases object : component.shape with
    | object fields required additional =>
        cases fields with
        | nil => rfl
        | cons field others => exact absurd object (filled field others required additional)
    | _ => rfl

theorem components_scoped_iff (program : Program) :
    (componentsPart program).Every (·.form.Scoped) ↔
      ∀ component ∈ program.components.values,
        (Component.heldNames (Outline.ofProgram program) component).Nodup := by
  have runtime : Outcome.part.Every (·.form.Scoped) := by
    unfold Part.Every
    decide
  unfold componentsPart
  simp only [Part.every_append, Part.every_join_map, component_scoped_iff]
  exact and_iff_right runtime

end Components

section Failures

variable (kind hook : String) (error : Code) (arguments : List Code)

@[simp] theorem call_hook_locals : (Reply.callHook hook arguments).locals = [] := rfl

theorem call_hook_distinct_inside : DistinctInside [Reply.callHook hook arguments] :=
  .when distinct_nil (.of_nothing rfl)

@[simp] theorem fail_introduces : Statement.introduced (fail kind error hook arguments) = [] := rfl

theorem fail_distinct_inside : DistinctInside (fail kind error hook arguments) := by
  unfold fail
  refine .cons (.of_nothing rfl) ?_
  exact .cons (call_hook_distinct_inside _ _) (.of_nothing rfl)

theorem when_fails_distinct_inside (condition : Code) :
    DistinctInside [.when condition (fail kind error hook arguments)] :=
  .when distinct_nil (fail_distinct_inside _ _ _ _)

end Failures

namespace ParameterReading

variable (reading : ParameterReading)

def valueLocals : List String :=
  match reading.conversion with
  | .fallible _ => [reading.value, "err"]
  | .intMember _ => [reading.numberName, "err", reading.value]
  | _ => [reading.value]

def locals : List String :=
  reading.raw :: if reading.parameter.field.isRequired then reading.valueLocals else []

def stem : String := reading.parameter.place.title ++ Request.memberName reading.parameter

theorem raw_eq : reading.raw = variableName (reading.stem ++ "Raw") := by
  unfold raw rawName Request.localName stem
  rfl

theorem value_eq : reading.value = variableName (reading.stem ++ "Value") := by
  unfold value Request.localName stem
  rfl

theorem stem_unbroken : Identifier.Unbroken reading.stem.toList :=
  ((title_clean _).append (Identifier.exported_clean _)).unbroken

theorem raw_not_reusable : reading.raw ∉ reusable := by
  rw [raw_eq]
  exact local_not_reusable reading.stem_unbroken (by decide)

theorem value_not_reusable : reading.value ∉ reusable := by
  rw [value_eq]
  exact local_not_reusable reading.stem_unbroken (by decide)

theorem number_last : reading.numberName.toList.getLast? = some 't' := by
  unfold numberName
  rw [String.toList_append, List.getLast?_append]
  rfl

theorem number_not_reusable : reading.numberName ∉ reusable := by
  have lasts : ∀ word ∈ reusable, word.toList.getLast? ≠ some 't' := by decide
  exact fun reused => lasts _ reused reading.number_last

variable {first second : ParameterReading}

theorem raw_ne_value : first.raw ≠ second.value := by
  rw [raw_eq, value_eq]
  exact locals_differ first.stem_unbroken (by decide) second.stem_unbroken (by decide) (by decide)

theorem number_ne {ending : String} (listed : ending ∈ localEndings) :
    variableName (first.stem ++ ending) ≠ second.numberName := by
  have lasts : ∀ ending ∈ localEndings, ending.toList.getLast? ≠ some 't' := by decide
  intro same
  apply lasts ending listed
  rw [← variable_name_last first.stem_unbroken listed, ← second.number_last, same]

theorem raw_ne_number : first.raw ≠ second.numberName := by
  rw [raw_eq]
  exact number_ne (by decide)

theorem value_ne_number : first.value ≠ second.numberName := by
  rw [value_eq]
  exact number_ne (by decide)

theorem value_locals_distinct : Distinct reading.valueLocals := by
  have error : "err" ∈ reusable := by decide
  have differ : reading.numberName ≠ reading.value := value_ne_number.symm
  unfold valueLocals Distinct
  split <;> simp [error, reading.value_not_reusable, reading.number_not_reusable, differ]

theorem mem_value_locals {name : String} (kept : name ∉ reusable) :
    name ∈ reading.valueLocals → name = reading.value ∨ name = reading.numberName := by
  intro member
  unfold valueLocals at member
  split at member
  · simp only [List.mem_cons, List.not_mem_nil, or_false] at member
    rcases member with value | rfl
    · exact .inl value
    · exact absurd (by decide) kept
  · simp only [List.mem_cons, List.not_mem_nil, or_false] at member
    rcases member with number | rfl | value
    · exact .inr number
    · exact absurd (by decide) kept
    · exact .inl value
  · exact .inl (List.mem_singleton.mp member)

theorem locals_distinct : Distinct reading.locals := by
  have raw : reading.raw ∉ reading.valueLocals := by
    intro member
    rcases reading.mem_value_locals reading.raw_not_reusable member with value | number
    · exact raw_ne_value value
    · exact raw_ne_number number
  have values := reading.value_locals_distinct
  unfold Distinct at values
  unfold locals Distinct
  split
  · rw [List.filter_cons, if_pos (by simp [reading.raw_not_reusable]), List.nodup_cons]
    exact ⟨fun member => raw (List.mem_filter.mp member).1, values⟩
  · exact distinct_single _

theorem mem_locals {name : String} (member : name ∈ reading.locals) (kept : name ∉ reusable) :
    name = reading.raw ∨ name = reading.value ∨ name = reading.numberName := by
  rcases List.mem_cons.mp member with raw | value
  · exact .inl raw
  · split at value
    · exact .inr (reading.mem_value_locals kept value)
    · cases value

theorem locals_last {name : String} (member : name ∈ reading.locals) (kept : name ∉ reusable) :
    name.toList.getLast? ∈ [some 'w', some 'e', some 't'] := by
  have raw : reading.raw.toList.getLast? = some 'w' := by
    rw [raw_eq, variable_name_last reading.stem_unbroken (by decide)]
    rfl
  have value : reading.value.toList.getLast? = some 'e' := by
    rw [value_eq, variable_name_last reading.stem_unbroken (by decide)]
    rfl
  rcases reading.mem_locals member kept with same | same | same
  · simp [same, raw]
  · simp [same, value]
  · simp [same, reading.number_last]

/-- A variable of a parameter tells by its ending what it holds, and by the rest of which parameter it
is. -/
theorem locals_recognised {shared : String} (here : shared ∈ first.locals)
    (there : shared ∈ second.locals) (kept : shared ∉ reusable) : first.raw = second.raw := by
  have values (same : first.value = second.value) : first.raw = second.raw := by
    rw [value_eq, value_eq] at same
    rw [raw_eq, raw_eq]
    exact variables_shared first.stem_unbroken second.stem_unbroken (by decide) (by decide) same
  rcases first.mem_locals here kept with raw | value | number <;>
    rcases second.mem_locals there kept with raw' | value' | number'
  · exact raw.symm.trans raw'
  · exact absurd (raw.symm.trans value') raw_ne_value
  · exact absurd (raw.symm.trans number') raw_ne_number
  · exact absurd (raw'.symm.trans value) raw_ne_value
  · exact values (value.symm.trans value')
  · exact absurd (value.symm.trans number') value_ne_number
  · exact absurd (raw'.symm.trans number) raw_ne_number
  · exact absurd (value'.symm.trans number) value_ne_number
  · exact values (String.append_left_inj _ |>.mp (number.symm.trans number'))

variable (reading : ParameterReading)

theorem trimming_introduces : Statement.introduced reading.trimming = [] ∧
    DistinctInside reading.trimming := by
  unfold trimming
  split
  · exact ⟨rfl, .of_nothing rfl⟩
  · exact ⟨rfl, .nil⟩

theorem matching_introduces : Statement.introduced reading.matching = [] ∧
    DistinctInside reading.matching := by
  unfold matching
  split
  · exact ⟨rfl, when_fails_distinct_inside _ _ _ _ _⟩
  · exact ⟨rfl, .nil⟩

theorem converting_introduces : Statement.introduced reading.converting = reading.valueLocals ∧
    DistinctInside reading.converting := by
  have check (method : String) : DistinctInside [reading.selfCheck method] :=
    when_fails_distinct_inside _ _ _ _ _
  have refused : DistinctInside [reading.orRefuse] := when_fails_distinct_inside _ _ _ _ _
  unfold converting valueLocals
  cases reading.conversion with
  | direct expression => exact ⟨rfl, .of_nothing rfl⟩
  | fallible call => exact ⟨rfl, .cons (.of_nothing rfl) refused⟩
  | member expression => exact ⟨rfl, .cons (.of_nothing rfl) (check _)⟩
  | validated expression => exact ⟨rfl, .cons (.of_nothing rfl) (check _)⟩
  | intMember type =>
      refine ⟨rfl, .cons (.of_nothing rfl) ?_⟩
      refine .cons refused ?_
      exact .cons (.of_nothing rfl) (check _)

theorem statements_introduce : Statement.introduced reading.statements =
    if reading.repeated then [] else reading.locals := by
  have trimmed := reading.trimming_introduces.1
  have matched := reading.matching_introduces.1
  have converted := reading.converting_introduces.1
  unfold statements
  split
  · unfold arrayStatements
    split <;> rfl
  · unfold singleStatements locals
    split
    · simp [trimmed, matched, converted]
    · simp [trimmed]

/-- Blocks of a parameter hold the variables of its value, or none. -/
theorem statements_distinct_inside : DistinctInside reading.statements := by
  obtain ⟨trims, trimmed⟩ := reading.trimming_introduces
  obtain ⟨matches', matched⟩ := reading.matching_introduces
  obtain ⟨converts, converted⟩ := reading.converting_introduces
  have missing (condition : Code) :
      DistinctInside [.when condition (reading.refuse reading.missing)] :=
    when_fails_distinct_inside _ _ _ _ _
  have values : Distinct (Statement.introduced (reading.matching ++ reading.converting)) := by
    rw [Statement.introduced_append, matches', converts]
    exact reading.value_locals_distinct
  unfold statements
  split
  · unfold arrayStatements
    have texts : Distinct ["_", reading.raw] := by
      have blank : "_" ∈ reusable := by decide
      simp [Distinct, blank, reading.raw_not_reusable]
    refine .append (by split <;> first | exact missing _ | exact .nil) (.each texts ?_ ?_)
    · rw [List.append_assoc, List.append_assoc, Statement.introduced_append, trims,
        ← List.append_assoc, Statement.introduced_append]
      simpa using values
    · exact .append (.append (.append trimmed matched) converted) (.of_nothing rfl)
  · unfold singleStatements
    refine .append (.cons (.of_nothing rfl) trimmed) ?_
    split
    · refine .append (.cons (missing _) ?_) (.of_nothing rfl)
      exact .append matched converted
    · refine .when ?_ (.append (.append matched converted) (.of_nothing rfl))
      rw [Statement.introduced_append]
      simpa using values

end ParameterReading

def placeLetter : Place → Char
  | .path => 'p'
  | .query => 'q'
  | .header => 'h'

namespace ParameterReading

theorem raw_first (reading : ParameterReading) :
    reading.raw.toList.head? = some (placeLetter reading.parameter.place) := by
  have titles : ∀ place : Place, ∃ capital rest, place.title.toList = capital :: rest ∧
      capital ≠ 'Σ' ∧ Text.lowerChar capital = [placeLetter place] := by
    intro place
    cases place
    · exact ⟨'P', _, rfl, by decide, by decide⟩
    · exact ⟨'Q', _, rfl, by decide, by decide⟩
    · exact ⟨'H', _, rfl, by decide, by decide⟩
  obtain ⟨capital, rest, spelt, plain, small⟩ := titles reading.parameter.place
  have ending : Identifier.Unbroken "Raw".toList := by
    unfold Identifier.Unbroken
    decide
  have unbroken := reading.stem_unbroken.append ending
  have whole : (reading.stem ++ "Raw").toList =
      capital :: (rest ++ (Request.memberName reading.parameter).toList ++ "Raw".toList) := by
    unfold stem
    rw [String.toList_append, String.toList_append, spelt]
    rfl
  rw [← String.toList_append, whole] at unbroken
  obtain ⟨tail, camel⟩ := Identifier.camel_case_cons unbroken plain
  rw [← whole, String.ofList_toList, small] at camel
  rw [raw_eq, variableName, avoidKeyword]
  split
  · rw [String.toList_append, camel]
    rfl
  · rw [camel]
    rfl

end ParameterReading

section Parsers

variable (outline : Outline) (operation : Operation)

def singleReadings (place : Place) : List ParameterReading :=
  ((operation.parametersIn place).map (ParameterReading.ofParameter outline operation)).filter
    (!·.repeated)

def Operation.rawNames (place : Place) : List String :=
  (singleReadings outline operation place).map ParameterReading.raw

theorem single_readings_place {place : Place} {reading : ParameterReading}
    (member : reading ∈ singleReadings outline operation place) :
    reading.parameter.place = place := by
  obtain ⟨parameter, listed, rfl⟩ := List.mem_map.mp (List.mem_filter.mp member).1
  exact eq_of_beq (List.mem_filter.mp listed).2

theorem raw_names_distinct_iff :
    (((Request.places operation).flatMap (singleReadings outline operation)).map
        ParameterReading.raw).Nodup ↔
      ∀ place, (Operation.rawNames outline operation place).Nodup := by
  have letters : ∀ first second : Place, placeLetter first = placeLetter second →
      first = second := by
    intro first second
    cases first <;> cases second <;> decide
  have begins (place : Place) : ∀ name ∈ Operation.rawNames outline operation place,
      name.toList.head? = some (placeLetter place) := by
    intro name member
    obtain ⟨reading, listed, rfl⟩ := List.mem_map.mp member
    rw [reading.raw_first, single_readings_place outline operation listed]
  have apart : (Request.places operation).Pairwise
      (Function.onFun List.Disjoint (Operation.rawNames outline operation)) := by
    have places : (Request.places operation).Nodup :=
      (by decide : Place.all.Nodup).sublist List.filter_sublist
    refine places.imp fun {first second} differ name here there => differ (letters _ _ ?_)
    exact Option.some.inj ((begins first name here).symm.trans (begins second name there))
  have elsewhere (place : Place) (absent : place ∉ Request.places operation) :
      Operation.rawNames outline operation place = [] := by
    have listed : place ∈ Place.all := by cases place <;> decide
    have empty : operation.parametersIn place = [] := by
      by_contra filled
      exact absent (List.mem_filter.mpr ⟨listed, by simpa using filled⟩)
    unfold Operation.rawNames singleReadings
    rw [empty]
    rfl
  rw [List.map_flatMap]
  change ((Request.places operation).flatMap (Operation.rawNames outline operation)).Nodup ↔ _
  rw [List.nodup_flatMap, and_iff_left apart]
  refine ⟨fun each place => ?_, fun each place _ => each place⟩
  by_cases present : place ∈ Request.places operation
  · exact each place present
  · rw [elsewhere place present]
    exact List.nodup_nil

theorem place_statements_introduce (place : Place) :
    Statement.introduced (Parser.placeStatements outline operation place) =
      (singleReadings outline operation place).flatMap ParameterReading.locals := by
  have validation : Statement.introduced (if Request.validatesPlace outline operation place then
      [.when s!"err := request.{place.title}.Validate(); err != nil"
        (fail (place.title ++ "ValidationFailed") "err" s!"Request{place.title}ValidationFailed"
          [quote operation.name])] else []) = [] := by
    split <;> rfl
  have readings (readings : List ParameterReading) :
      Statement.introduced (readings.flatMap ParameterReading.statements) =
        (readings.filter (!·.repeated)).flatMap ParameterReading.locals := by
    rw [Statement.introduced_flat_map, ← flat_map_filter]
    apply List.flatMap_congr
    intro reading _
    rw [reading.statements_introduce]
    cases reading.repeated <;> rfl
  unfold Parser.placeStatements singleReadings
  dsimp only
  rw [Statement.introduced_append, Statement.introduced_append, Statement.introduced_cons, readings,
    validation, List.append_nil]
  exact List.append_nil _

theorem place_statements_distinct_inside (place : Place) :
    DistinctInside (Parser.placeStatements outline operation place) := by
  unfold Parser.placeStatements
  dsimp only
  refine .append (.append ?_ (call_hook_distinct_inside _ _)) ?_
  · exact .cons (.of_nothing rfl)
      (.flat_map fun reading _ => reading.statements_distinct_inside)
  · split
    · exact when_fails_distinct_inside _ _ _ _ _
    · exact .nil

end Parsers

/-- The variables of a body, which all parsers call alike. -/
theorem body_introduces (reading : BodyReading) :
    Statement.introduced reading.statements ∈ [["body", "err"], ["decodeErr"], []] ∧
      DistinctInside reading.statements := by
  have refused (condition error : Code) : DistinctInside [.when condition (reading.refuse error)] :=
    when_fails_distinct_inside _ _ _ _ _
  have decoding : Statement.introduced reading.decodingStatements ∈
      [["body", "err"], ["decodeErr"], []] ∧ DistinctInside reading.decodingStatements := by
    unfold BodyReading.decodingStatements
    split
    · refine ⟨by simp, .cons (.of_nothing rfl) ?_⟩
      exact .cons (refused _ _) (.of_nothing rfl)
    · split
      · exact ⟨by simp, refused _ _⟩
      · exact ⟨by simp, .cons (.of_nothing rfl) (refused _ _)⟩
  have validation : Statement.introduced reading.validation = [] ∧
      DistinctInside reading.validation := by
    have check : DistinctInside [.when
        ["err := ", .qualified Package.validation "Validate", "(request.Body); err != nil"]
        (fail "BodyValidationFailed" "err" "RequestBodyValidationFailed" [reading.operationKey])] :=
      when_fails_distinct_inside _ _ _ _ _
    unfold BodyReading.validation
    dsimp only
    split
    · exact ⟨rfl, .nil⟩
    · split
      · exact ⟨rfl, .when distinct_nil check⟩
      · exact ⟨rfl, check⟩
  unfold BodyReading.statements
  constructor
  · rw [Statement.introduced_append, Statement.introduced_append, Statement.introduced_cons,
      validation.1, List.append_nil]
    exact (List.append_nil _).symm ▸ decoding.1
  · refine .append (.append (.cons (.of_nothing rfl) decoding.2) ?_) validation.2
    exact call_hook_distinct_inside _ _

section Router

variable (outline : Outline) (operation : Operation)

/-- The variables at the top of a parser: those of its parameters, then those of the body. -/
theorem parser_introduces (variant : RequestVariant) :
    ∃ body ∈ [["body", "err"], ["decodeErr"], []],
      Statement.introduced (Parser.function outline operation variant).form.body =
        ((Request.places operation).flatMap (singleReadings outline operation)).flatMap
          ParameterReading.locals ++ body := by
  have security : Statement.introduced (Parser.securityStatements operation) = [] := by
    unfold Parser.securityStatements
    split <;> rfl
  have places : Statement.introduced
      ((Request.places operation).flatMap (Parser.placeStatements outline operation)) =
        ((Request.places operation).flatMap (singleReadings outline operation)).flatMap
          ParameterReading.locals := by
    rw [Statement.introduced_flat_map, List.flatMap_assoc]
    simp only [place_statements_introduce]
  have whole (body : List String) (same : Statement.introduced
      ((Parser.bodyReading outline operation variant).toList.flatMap BodyReading.statements) = body) :
      Statement.introduced (Parser.function outline operation variant).form.body =
        ((Request.places operation).flatMap (singleReadings outline operation)).flatMap
          ParameterReading.locals ++ body := by
    unfold Parser.function Form.body Parser.statements
    dsimp only
    rw [Statement.introduced_append, Statement.introduced_append, Statement.introduced_append,
      Statement.introduced_append, security, places, same]
    exact List.append_nil _
  cases reading : Parser.bodyReading outline operation variant with
  | none =>
      refine ⟨[], by decide, whole [] ?_⟩
      rw [reading]
      rfl
  | some body =>
      refine ⟨_, (body_introduces body).1, whole _ ?_⟩
      rw [reading]
      simp

theorem parser_distinct_inside (variant : RequestVariant) :
    DistinctInside (Parser.function outline operation variant).form.body := by
  have security : DistinctInside (Parser.securityStatements operation) := by
    unfold Parser.securityStatements
    split
    · exact .when distinct_nil (.of_nothing rfl)
    · exact .nil
  unfold Parser.function Form.body Parser.statements
  refine .append (.append (.append (.append (.of_nothing rfl) security) ?_) ?_) ?_
  · exact .flat_map fun place _ => place_statements_distinct_inside outline operation place
  · exact .flat_map fun reading _ => (body_introduces reading).2
  · refine .cons (.of_nothing rfl) ?_
    exact .cons (call_hook_distinct_inside _ _) (.of_nothing rfl)

/-- A parser has no variable twice iff the texts that it reads at one place are held by variables of
different names. -/
theorem parser_scoped_iff (variant : RequestVariant) :
    (Parser.function outline operation variant).form.Scoped ↔
      ∀ place, (Operation.rawNames outline operation place).Nodup := by
  obtain ⟨body, listed, top⟩ := parser_introduces outline operation variant
  have parameters : Distinct (((Request.places operation).flatMap
      (singleReadings outline operation)).flatMap ParameterReading.locals) ↔
        ∀ place, (Operation.rawNames outline operation place).Nodup := by
    rw [← raw_names_distinct_iff]
    exact locals_distinct_iff (fun reading _ => reading.locals_distinct)
      (fun reading _ => ⟨List.mem_cons_self, reading.raw_not_reusable⟩)
      fun _ _ _ _ _ here there kept => ParameterReading.locals_recognised here there kept
  have fixed : ∀ body ∈ [["body", "err"], ["decodeErr"], []], Distinct body ∧
      ∀ name ∈ body, name ∈ reusable ∨
        name.toList.getLast? ∉ [some 'w', some 'e', some 't'] := by decide
  have distinct :
      Distinct (Statement.introduced (Parser.function outline operation variant).form.body) ↔
        ∀ place, (Operation.rawNames outline operation place).Nodup := by
    rw [top, distinct_append (fixed body listed).1, parameters]
    intro name here there
    obtain ⟨reading, _, held⟩ := List.mem_flatMap.mp here
    rcases (fixed body listed).2 name there with reused | other
    · exact reused
    · by_contra kept
      exact other (reading.locals_last held kept)
  exact ⟨fun holds => distinct.mp holds.top,
    fun differ => ⟨distinct.mpr differ, parser_distinct_inside outline operation variant⟩⟩

theorem bare_scoped {form : Form} (bare : form.body = []) : form.Scoped := by
  constructor
  · rw [bare]
    exact distinct_nil
  · rw [bare]
    exact .nil

theorem place_part_scoped (place : Place) :
    (Request.placePart outline operation place).Every (·.form.Scoped) := by
  unfold Request.placePart Request.placeValidator
  split
  · exact Part.every_empty
  · rw [Part.every_append]
    refine ⟨List.forall_mem_singleton.mpr (bare_scoped rfl), ?_⟩
    dsimp only
    split
    · exact Part.every_empty
    · exact List.forall_mem_singleton.mpr ⟨distinct_nil, .of_nothing rfl⟩

theorem request_scoped_iff :
    (Request.part outline operation).Every (·.form.Scoped) ↔
      ∀ place, (Operation.rawNames outline operation place).Nodup := by
  have single (variant : RequestVariant) :
      (Request.variantPart outline operation variant).Every (·.form.Scoped) ↔
        ∀ place, (Operation.rawNames outline operation place).Nodup := by
    unfold Request.variantPart Part.Every
    simp only [List.forall_mem_cons, List.not_mem_nil, false_imp_iff, implies_true, and_true]
    exact (and_iff_right (bare_scoped rfl)).trans (parser_scoped_iff outline operation variant)
  have filled : RequestVariant.ofOperation operation ≠ [] := by
    unfold RequestVariant.ofOperation
    split <;> simp
  obtain ⟨variant, listed⟩ := List.exists_mem_of_ne_nil _ filled
  unfold Request.part Request.patternPart
  rw [Part.every_append, Part.every_append, Part.every_append, Part.every_join_map,
    Part.every_join_map]
  constructor
  · exact fun all => (single variant).mp (all.2 variant listed)
  · exact fun differ => ⟨⟨⟨fun place _ => place_part_scoped outline operation place,
      patterns_scoped _ _⟩, Part.every_empty⟩, fun variant _ => (single variant).mpr differ⟩

section Builders

open Builder

variable {operation}

theorem step_scoped (stage method : String) (parameters : Code) (next : String)
    {body : List Statement} (top : Statement.introduced body = []) (inside : DistinctInside body) :
    (step stage method parameters next body).form.Scoped := by
  constructor
  · change Distinct (Statement.introduced (body ++ [handOn next]))
    rw [Statement.introduced_append, top]
    exact distinct_nil
  · exact .append inside (.of_nothing rfl)

theorem headers_scoped (program : Program) (headers : List ResponseHeader) :
    Statement.introduced (headers.map (headerStatement program)) = [] ∧
      DistinctInside (headers.map (headerStatement program)) := by
  have single (header : ResponseHeader) :
      Statement.introduced [headerStatement program header] = [] ∧
        DistinctInside [headerStatement program header] := by
    unfold headerStatement
    dsimp only
    split
    · exact ⟨rfl, .of_nothing rfl⟩
    · exact ⟨rfl, .when distinct_nil (.of_nothing rfl)⟩
  rw [← List.flatMap_pure_eq_map]
  constructor
  · rw [Statement.introduced_flat_map]
    exact List.flatMap_eq_nil_iff.mpr fun header _ => (single header).1
  · exact .flat_map fun header _ => (single header).2

theorem builder_part_scoped (program : Program) :
    (Builder.part program operation).Every (·.form.Scoped) := by
  have set (stage method : String) (parameters : Code) (next : String) (target value : Code) :
      (step stage method parameters next [.assign target value]).form.Scoped :=
    step_scoped _ _ _ _ rfl (.of_nothing rfl)
  have built (stage : String) : (build operation stage).form.Scoped :=
    ⟨distinct_nil, .of_nothing rfl⟩
  unfold Builder.part
  rw [Part.every_append, Part.every_join_map]
  refine ⟨?_, fun response _ => ?_⟩
  · unfold startPart Part.Every
    simp only [List.forall_mem_cons, List.not_mem_nil, false_imp_iff, implies_true, and_true]
    exact ⟨bare_scoped rfl, bare_scoped rfl, bare_scoped rfl, ⟨distinct_nil, .of_nothing rfl⟩,
      bare_scoped rfl⟩
  · unfold responsePart
    dsimp only
    rw [Part.every_append, Part.every_append]
    refine ⟨⟨?_, ?_⟩, ?_⟩
    · unfold statusPart Part.Every
      simp only [List.forall_mem_cons, List.not_mem_nil, false_imp_iff, implies_true, and_true]
      exact ⟨set _ _ _ _ _ _, bare_scoped rfl⟩
    · split
      · obtain ⟨top, inside⟩ := headers_scoped program response.headers
        unfold headersPart Part.Every
        simp only [List.forall_mem_cons, List.not_mem_nil, false_imp_iff, implies_true, and_true]
        refine ⟨bare_scoped rfl, step_scoped _ _ _ _ ?_ ?_, bare_scoped rfl⟩
        · rw [Statement.introduced_cons, top]
          rfl
        · exact .cons (.of_nothing rfl) inside
      · exact Part.every_empty
    · split
      · exact List.forall_mem_singleton.mpr (built _)
      · rw [Part.every_join_map]
        intro content _
        unfold contentPart Part.Every
        simp only [List.forall_mem_cons, List.not_mem_nil, false_imp_iff, implies_true, and_true]
        exact ⟨set _ _ _ _ _ _, bare_scoped rfl, set _ _ _ _ _ _, bare_scoped rfl, built _⟩

end Builders

section Services

open Service

theorem handler_scoped (tag : String) : (handlerMethod tag operation).form.Scoped := by
  have hook (name : String) : DistinctInside [callRouterHook name operation] :=
    .when distinct_nil (.of_nothing rfl)
  have response : Distinct (Statement.introduced (responseStatements operation)) ∧
      DistinctInside (responseStatements operation) := by
    unfold responseStatements
    split
    · refine ⟨?_, .of_nothing rfl⟩
      change Distinct ["request", "response"]
      decide
    · refine ⟨?_, ?_⟩
      · change Distinct ["mediaType", "_", "_", "response"]
        decide
      · intro scope member
        have none : scope = [] := by
          simp [variantBranch, Function.comp_def] at member
          exact member.elim And.right id
        exact none ▸ distinct_nil
  constructor
  · unfold handlerMethod Form.body
    dsimp only
    rw [Statement.introduced_append]
    exact (List.append_nil _).symm ▸ response.1
  · refine .append response.2 (.cons (hook _) ?_)
    exact .cons (.of_nothing rfl) (hook _)

theorem service_part_scoped (tag : String) (operations : List Operation) :
    (Service.part tag operations).Every (·.form.Scoped) := by
  have mounted : (mountMethod tag operations).form.Scoped := by
    unfold mountMethod
    generalize operations.flatMap Route.ofOperation = routes
    have none : Statement.introduced (routes.map Route.statement) = [] ∧
        Statement.gather Statement.scopes (routes.map Route.statement) = [] := by
      induction routes with
      | nil => exact ⟨rfl, rfl⟩
      | cons route rest induction => exact induction
    exact ⟨none.1.symm ▸ distinct_nil, .of_nothing none.2⟩
  have constructed : (routerConstructor tag).form.Scoped := by
    refine ⟨distinct_nil, ?_⟩
    refine .cons (.when distinct_nil (.of_nothing rfl)) ?_
    exact .cons (.when distinct_nil (.of_nothing rfl)) (.of_nothing rfl)
  unfold Service.part
  rw [Part.every_append, Part.every_join_map]
  refine ⟨?_, fun operation _ => List.forall_mem_singleton.mpr (handler_scoped operation tag)⟩
  unfold Part.Every
  simp only [List.forall_mem_cons, List.not_mem_nil, false_imp_iff, implies_true, and_true]
  exact ⟨bare_scoped rfl, bare_scoped rfl, constructed, ⟨distinct_nil, .of_nothing rfl⟩, mounted⟩

end Services

theorem security_part_scoped (schemes : List SecurityScheme) :
    (Security.part schemes).Every (·.form.Scoped) := by
  have types : ∀ declaration ∈ Security.types, declaration.form.Scoped := by decide
  have checks : Security.checkSecurity.form.Scoped ∧ Security.checkAlternative.form.Scoped ∧
      Security.runProcessor.form.Scoped := by decide
  have refused (condition : Code) (values : List Code) {last : Statement}
      (quiet : Statement.gather Statement.scopes [last] = []) :
      DistinctInside [.when condition [.give values], last] :=
    .cons (.when distinct_nil (.of_nothing rfl)) (.of_nothing quiet)
  have extractor (scheme : SecurityScheme) : (Security.extractorFunction scheme).form.Scoped := by
    have value : Distinct ["value"] ∧ Distinct ["cookie", "err"] := by decide
    have authorization (word : String) : DistinctInside (Security.authorization word) :=
      .cons (.of_nothing rfl) (refused _ _ rfl)
    unfold Security.extractorFunction
    rcases scheme.kind with _ | _ | ⟨place, name⟩ | _
    · exact ⟨value.1, authorization _⟩
    · exact ⟨value.1, authorization _⟩
    · cases place with
      | header => exact ⟨value.1, .of_nothing rfl⟩
      | query => exact ⟨value.1, .of_nothing rfl⟩
      | cookie => exact ⟨value.2, .cons (.of_nothing rfl) (refused _ _ rfl)⟩
    · exact bare_scoped rfl
  have processors (extracted : List SecurityScheme) :
      (Security.processors extracted).form.Scoped := by
    unfold Security.processors
    cases extracted <;> exact ⟨distinct_nil, refused _ _ rfl⟩
  unfold Security.part Part.Every
  simp only [List.forall_mem_append, List.forall_mem_cons, List.not_mem_nil, false_imp_iff,
    implies_true, and_true, List.forall_mem_map]
  refine ⟨⟨⟨⟨types, ?_⟩, bare_scoped rfl, processors _⟩, fun scheme _ => extractor scheme⟩, checks⟩
  split
  · exact List.forall_mem_nil _
  · exact List.forall_mem_singleton.mpr (bare_scoped rfl)

theorem router_scoped_iff (program : Program) :
    (routerPart program).Every (·.form.Scoped) ↔
      ∀ operation ∈ program.operations, ∀ place,
        (Operation.rawNames (Outline.ofProgram program) operation place).Nodup := by
  have reply : Reply.part.Every (·.form.Scoped) := by
    unfold Part.Every
    decide
  have hooks : Hooks.part.Every (·.form.Scoped) := List.forall_mem_singleton.mpr (bare_scoped rfl)
  have whole (operation : Operation) :
      (operationPart (Outline.ofProgram program) operation).Every (·.form.Scoped) ↔
        ∀ place, (Operation.rawNames (Outline.ofProgram program) operation place).Nodup := by
    unfold operationPart
    rw [Part.every_append, request_scoped_iff, and_iff_left (builder_part_scoped _)]
  unfold routerPart
  dsimp only
  simp only [Part.every_append, Part.every_join_map, whole]
  constructor
  · exact fun all => all.1.1.2
  · exact fun differ => ⟨⟨⟨⟨⟨reply, hooks⟩, security_part_scoped _⟩, differ⟩,
      fun entry _ => service_part_scoped entry.1 entry.2⟩,
      List.forall_mem_singleton.mpr (bare_scoped rfl)⟩

end Router

/-- All functions introduce their variables once, unless camel case takes two fields or two parameters
for one: the values of fields that a decoder holds without a condition, and the single texts of
parameters at one place. Variables of other fields, of other places and of other use never meet. -/
theorem functions_scoped_iff (program : Program) :
    ((∀ declaration ∈ (componentsPart program).declarations, declaration.form.Scoped) ↔
      ∀ component ∈ program.components.values,
        (Component.heldNames (Outline.ofProgram program) component).Nodup) ∧
    ((∀ declaration ∈ (routerPart program).declarations, declaration.form.Scoped) ↔
      ∀ operation ∈ program.operations, ∀ place,
        (Operation.rawNames (Outline.ofProgram program) operation place).Nodup) :=
  ⟨components_scoped_iff program, router_scoped_iff program⟩

def crossing : OpenApi.Document where
  specification := {
    openapi := "3.0.0"
    components := { schemas := [
      ("pair", .object {
        type := some (.single "object")
        required := ["fooBAR", "fooBar"]
        properties := ["fooBAR", "fooBar"].map fun name => (name, .object {
          type := some (.single "string")
          extensions := [("x-go-string-trimmable", .bool true)] }) })] }
    paths := [("/f", { declared := [(.get, {
      parameters := ["fooBAR", "fooBar"].map fun name => .object {
        name := name
        place := .query
        schema := some (.object { type := some (.single "string") }) }
      responses := [("200", .object {})] })] })] }
  raw := .null

theorem crossing_repeats_locals :
    ∃ program artifacts, (compile crossing { package := "api", path := "" }).1 = .ok program ∧
      Artifact.all program = .ok artifacts ∧
      (∃ component ∈ program.components.values,
        ["fooBarValue", "fooBarValue"] =
          Component.heldNames (Outline.ofProgram program) component) ∧
      (∃ operation ∈ program.operations,
        ["queryFooBarRaw", "queryFooBarRaw"] =
          Operation.rawNames (Outline.ofProgram program) operation .query) ∧
      (¬ ∀ declaration ∈ (componentsPart program).declarations, declaration.form.Scoped) ∧
      ¬ ∀ declaration ∈ (routerPart program).declarations, declaration.form.Scoped := by
  have holds : (compileShort crossing { package := "api", path := "" }).any fun program =>
      (program.components.values.any fun component =>
        ["fooBarValue", "fooBarValue"] ==
          Component.heldNames (Outline.ofProgram program) component) &&
      (program.operations.any fun operation =>
        ["queryFooBarRaw", "queryFooBarRaw"] ==
          Operation.rawNames (Outline.ofProgram program) operation .query) &&
      decide ((componentsPart program).taken ++ (routerPart program).taken).Nodup := by
    decide +kernel
  obtain ⟨program, result, holds⟩ := compiled_of_short holds
  simp only [Bool.and_eq_true, List.any_eq_true, beq_iff_eq, decide_eq_true_eq] at holds
  obtain ⟨⟨⟨component, member, values⟩, operation, listed, texts⟩, distinct⟩ := holds
  obtain ⟨artifacts, emitted⟩ := Artifact.succeeds_of_distinct distinct
  obtain ⟨components, router⟩ := functions_scoped_iff program
  have repeated (name : String) : ¬ [name, name].Nodup := by simp
  refine ⟨program, artifacts, result, emitted, ⟨component, member, values⟩,
    ⟨operation, listed, texts⟩, fun all => ?_, fun all => ?_⟩
  · exact repeated _ (values ▸ components.mp all component member)
  · exact repeated _ (texts ▸ router.mp all operation listed .query)

end ApiScaffold.Server
