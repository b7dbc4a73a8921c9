import ApiScaffold.Proofs.GoIdentifier
import ApiScaffold.Proofs.MethodClash

/-!
The names that declarations write: of types, constants, variables and functions, of members and of
methods. A component puts words of the document behind its own name, and names variables in camel
case, so its declarations are spelt well if the words are and their letters have forms that are
letters. Nothing else is asked for where no variable is named.
-/

namespace ApiScaffold.Go

/-- The name of a method of an interface: what stands before its parameters. -/
def methodName : Source.Code → String
  | .text text :: _ => String.ofList (text.toList.takeWhile (· != '('))
  | _ => ""

/-- Clean names hold no parenthesis, so they are found again. -/
theorem method_name_clean {text name : String} {rest : List Char} {more : Source.Code}
    (clean : Identifier.Clean name) (cut : text.toList = name.toList ++ rest)
    (closed : rest.head?.all (· == '(') = true) : methodName (.text text :: more) = name := by
  have parenthesis : Identifier.isSeparator '(' = true := by decide
  have within : ∀ c ∈ name.toList, (c != '(') = true := by
    intro c member
    rw [bne_iff_ne]
    rintro rfl
    have known := clean _ member
    rw [parenthesis] at known
    cases known
  unfold methodName
  dsimp only
  rw [cut, List.takeWhile_append_of_pos within]
  cases rest with
  | nil => rw [List.takeWhile_nil, List.append_nil, String.ofList_toList]
  | cons c others =>
      rw [List.head?_cons, Option.all_some, beq_iff_eq] at closed
      rw [closed, List.takeWhile_cons_of_neg (by decide), List.append_nil, String.ofList_toList]

def Form.asks : Form → List String
  | .interface _ groups => groups.flatMap fun group => group.methods.map methodName
  | _ => []

/-- The names that a declaration writes: what it introduces, its members, itself as a method, and the
methods that it asks for. -/
def Form.identifiers (form : Form) : List String :=
  form.introduces ++ form.members ++ (form.attaches?.map (·.2)).toList ++ form.asks

def Form.Spelt (form : Form) : Prop := ∀ name ∈ form.identifiers, IsIdentifier name

instance (form : Form) : Decidable form.Spelt := inferInstanceAs (Decidable (∀ name ∈ _, _))

namespace Form

theorem spelt_of_single {form : Form} {name : String} (single : form.identifiers = [name]) :
    form.Spelt ↔ IsIdentifier name := by
  unfold Spelt
  rw [single, List.forall_mem_singleton]

variable (name parameters owner : String) (groups : List MemberGroup) (methods : List MethodGroup)
  (entries : List Entry) (receiver : Receiver) (definition signature : Source.Code)
  (body : List Statement)

@[simp] theorem spelt_struct : (struct name parameters groups).Spelt ↔ IsIdentifier name ∧
    ∀ member ∈ (struct name parameters groups).members, IsIdentifier member := by
  unfold Spelt identifiers
  simp only [introduces, attaches?, asks, Option.map_none, Option.toList_none, List.append_nil]
  rw [List.forall_mem_append, List.forall_mem_singleton]

@[simp] theorem spelt_interface : (interface name methods).Spelt ↔ IsIdentifier name ∧
    ∀ method ∈ (interface name methods).asks, IsIdentifier method := by
  unfold Spelt identifiers
  simp only [introduces, members, attaches?, Option.map_none, Option.toList_none, List.append_nil]
  rw [List.forall_mem_append, List.forall_mem_singleton]

@[simp] theorem spelt_type : (type name definition).Spelt ↔ IsIdentifier name :=
  spelt_of_single rfl

@[simp] theorem spelt_synonym : (synonym name definition).Spelt ↔ IsIdentifier name :=
  spelt_of_single rfl

@[simp] theorem spelt_global : (global name definition).Spelt ↔ IsIdentifier name :=
  spelt_of_single rfl

@[simp] theorem spelt_function : (function name signature body).Spelt ↔ IsIdentifier name :=
  spelt_of_single rfl

@[simp] theorem spelt_method : (method receiver name signature body).Spelt ↔ IsIdentifier name :=
  spelt_of_single rfl

@[simp] theorem spelt_marker : (marker owner name).Spelt ↔ IsIdentifier name := spelt_of_single rfl

@[simp] theorem spelt_constants :
    (constants entries).Spelt ↔ ∀ entry ∈ entries, IsIdentifier entry.name := by
  simp [Spelt, identifiers, introduces, members, attaches?, asks]

@[simp] theorem spelt_globals :
    (globals entries).Spelt ↔ ∀ entry ∈ entries, IsIdentifier entry.name := by
  simp [Spelt, identifiers, introduces, members, attaches?, asks]

end Form

/-- A text that may stand in a name, and in the variable for a name. -/
structure Plain (text : String) : Prop where
  clean : Identifier.Clean text
  steady : Steady text
  word : IsWord text

theorem Plain.append {first second : String} (here : Plain first) (there : Plain second) :
    Plain (first ++ second) :=
  ⟨here.clean.append there.clean, steady_append.mpr ⟨here.steady, there.steady⟩,
    is_word_append.mpr ⟨here.word, there.word⟩⟩

theorem Plain.variable {name : String} (plain : Plain name) (identifier : IsIdentifier name) :
    IsIdentifier (variableName name) :=
  variable_is_identifier plain.steady plain.clean.unbroken identifier

theorem plain_of_ascii {text : String} (ascii : ∀ c ∈ text.toList, c.toNat < 0x80)
    (alphanumeric : ∀ c ∈ text.toList, (Text.isAsciiLetter c || Text.isAsciiDigit c) = true) :
    Plain text := by
  refine ⟨fun c member => ?_, steady_of_ascii ascii, fun c member => ?_⟩
  · rw [Bool.eq_false_iff]
    intro separator
    obtain ⟨_, letter, digit⟩ :=
      Identifier.separators_are_signs c (List.contains_iff_mem.mp separator)
    have either := alphanumeric c member
    rw [letter, digit] at either
    cases either
  · have either := alphanumeric c member
    unfold continuesIdentifier startsIdentifier isLetter isDecimalDigit
    rw [if_pos (ascii c member), if_pos (ascii c member)]
    grind

def nameWords : List String := ["Regex", "Pattern", "Item", "Value", "AllOf", "OneOf", "AnyOf",
  "RequestBody", "ResponseBody", "XX", "Default", "Path", "Query", "Header", "Response", "Builder",
  "ResponseBuilder", "HeadersResponseBuilder", "BodyResponseBuilder", "Handle", "Extract",
  "Security"]

theorem words_plain : ∀ word ∈ nameWords, Plain word := by
  have letters : ∀ word ∈ nameWords, ∀ c ∈ word.toList,
      c.toNat < 0x80 ∧ (Text.isAsciiLetter c || Text.isAsciiDigit c) = true := by
    decide
  exact fun word listed => plain_of_ascii (fun c member => (letters word listed c member).1)
    fun c member => (letters word listed c member).2

theorem number_plain (number : Nat) : Plain (toString number) := by
  have digits (c : Char) (member : c ∈ (toString number).toList) :=
    Identifier.number_digits member
  refine plain_of_ascii (fun c member => ?_) fun c member => ?_
  · have digit := digits c member
    unfold Text.isAsciiDigit at digit
    simp only [Bool.and_eq_true, decide_eq_true_eq, Char.le_def, UInt32.le_iff_toNat_le] at digit
    exact Nat.lt_of_le_of_lt digit.2 (by decide)
  · rw [digits c member, Bool.or_true]

end ApiScaffold.Go

namespace ApiScaffold.Blueprint

open Go (IsIdentifier IsWord Plain)

def Shape.members : Shape → List EnumMember
  | .enum enumeration => enumeration.members
  | _ => []

/-- What the names of a component are made of: identifiers, and words behind its own name. -/
structure Component.Spelt (component : Component) : Prop where
  name : IsIdentifier component.name
  fields : ∀ identifier ∈ fieldIdentifiers component.shape.fields, IsIdentifier identifier
  members : ∀ member ∈ component.shape.members, IsWord member.tag

end ApiScaffold.Blueprint

namespace ApiScaffold.Server

open Blueprint Go Source

theorem patterns_spelt_iff (owner : String) (patterns : List PatternVariable) :
    (PatternVariable.part owner patterns).Every (·.form.Spelt) ↔
      ∀ stored ∈ patterns, IsIdentifier stored.name := by
  unfold PatternVariable.part
  split
  · rename_i empty
    rw [List.isEmpty_iff.mp empty]
    exact iff_of_true Part.every_empty (List.forall_mem_nil _)
  · refine List.forall_mem_singleton.trans ((Form.spelt_globals _).trans ?_)
    rw [List.forall_mem_map]
    rfl

section Components

variable (outline : Outline) (component : Component)

def Component.patterns : List PatternVariable :=
  Component.patternVariables outline component.name
    (!component.skipValidation && outline.hasValidator component.name) component.shape.fields

variable {component}

theorem struct_part_spelt_iff (comment : List String) {fields : List (Blueprint.Field Shape)}
    (required : List String) (same : component.shape.fields = fields) :
    (Component.structPart outline component comment fields required).Every (·.form.Spelt) ↔
      (IsIdentifier component.name ∧
        ∀ identifier ∈ fieldIdentifiers fields, IsIdentifier identifier) ∧
      ∀ stored ∈ Component.patterns outline component, IsIdentifier stored.name := by
  have decoder (readings : List FieldReading) :
      (Decoder.part component.name readings).Every (·.form.Spelt) := by
    unfold Decoder.part
    split
    · exact List.forall_mem_singleton.mpr ((Form.spelt_method _ _ _ _).mpr (by decide))
    · exact Part.every_empty
  have validator (validated : Bool) : (if validated then
      Component.validatorPart outline component.name fields else ({} : Part)).Every
        (·.form.Spelt) := by
    cases validated
    · exact Part.every_empty
    · exact List.forall_mem_singleton.mpr ((Form.spelt_method _ _ _ _).mpr (by decide))
  have struct : Part.Every (fun declaration => declaration.form.Spelt) (({
      mentions := fields.flatMap fun field => (fieldType field).code
      declarations := [{
        comment,
        form := .struct component.name "" (memberGroups (fields.map Component.memberOf)) }] } :
          Part)) ↔ IsIdentifier component.name ∧
        ∀ identifier ∈ fieldIdentifiers fields, IsIdentifier identifier := by
    refine List.forall_mem_singleton.trans ((Form.spelt_struct _ _ _).trans ?_)
    rw [struct_members]
  unfold Component.structPart Component.patterns
  dsimp only
  rw [Part.every_append, Part.every_append, Part.every_append, struct, patterns_spelt_iff,
    and_iff_left (validator _), and_iff_left (decoder _), same]

theorem enum_part_spelt_iff (type : String) (comment : List String) (enumeration : Enumeration) :
    (Component.enumPart type comment enumeration).Every (·.form.Spelt) ↔
      IsIdentifier type ∧ ∀ member ∈ enumeration.members, IsWord member.tag := by
  have checks : IsIdentifier "Check" ∧ IsIdentifier "UnmarshalJSON" := by decide
  have written : (Component.enumPart type comment enumeration).Every (·.form.Spelt) ↔
      IsIdentifier type ∧ ∀ member ∈ enumeration.members, IsIdentifier (type ++ member.tag) := by
    unfold Component.enumPart Component.memberCheck Component.memberDecoder Part.Every
    simp only [List.forall_mem_cons, List.not_mem_nil, false_imp_iff, implies_true, and_true,
      Form.spelt_type, Form.spelt_constants, Form.spelt_method, checks, List.forall_mem_map,
      Component.constantEntry, Component.constantName]
  refine written.trans (and_congr_right fun name => forall₂_congr fun member _ => ?_)
  rw [is_identifier_append name.ne_empty, and_iff_right name]

theorem component_spelt_bare (fieldless : component.shape.fields = [])
    (memberless : component.shape.members = []) :
    component.Spelt ↔ IsIdentifier component.name := by
  refine ⟨fun spelt => spelt.name, fun name => ⟨name, ?_, ?_⟩⟩
  · rw [fieldless]
    exact List.forall_mem_nil _
  · rw [memberless]
    exact List.forall_mem_nil _

theorem component_spelt_iff : (Component.part outline component).Every (·.form.Spelt) ↔
    component.Spelt ∧
      ∀ stored ∈ Component.patterns outline component, IsIdentifier stored.name := by
  have unstored (fieldless : component.shape.fields = []) :
      ∀ stored ∈ Component.patterns outline component, IsIdentifier stored.name := by
    unfold Component.patterns
    rw [fieldless]
    exact List.forall_mem_nil _
  unfold Component.part
  refine (Part.every_append _ _).trans ((and_iff_right Part.every_empty).trans ?_)
  unfold Component.shapePart
  split
  · rename_i object
    have fieldless : component.shape.fields = [] := by rw [object]; rfl
    have memberless : component.shape.members = [] := by rw [object]; rfl
    rw [and_iff_left (unstored fieldless), component_spelt_bare fieldless memberless]
    exact List.forall_mem_singleton.trans (Form.spelt_type _ _)
  · rename_i field fields required additional object
    have same : component.shape.fields = (field :: fields).map (·.2) := by rw [object]; rfl
    have memberless : component.shape.members = [] := by rw [object]; rfl
    rw [struct_part_spelt_iff outline _ _ same, ← same]
    refine and_congr_left fun _ => ⟨fun both => ⟨both.1, both.2, ?_⟩,
      fun spelt => ⟨spelt.name, spelt.fields⟩⟩
    rw [memberless]
    exact List.forall_mem_nil _
  · rename_i enumeration object
    have fieldless : component.shape.fields = [] := by rw [object]; rfl
    have members : component.shape.members = enumeration.members := by rw [object]; rfl
    rw [enum_part_spelt_iff, ← members, and_iff_left (unstored fieldless)]
    refine ⟨fun both => ⟨both.1, ?_, both.2⟩, fun spelt => ⟨spelt.name, spelt.members⟩⟩
    rw [fieldless]
    exact List.forall_mem_nil _
  · rename_i filled enumerated
    have fieldless : component.shape.fields = [] := by
      cases object : component.shape with
      | object fields required additional =>
          cases fields with
          | nil => rfl
          | cons field others => exact absurd object (filled field others required additional)
      | _ => rfl
    have memberless : component.shape.members = [] := by
      cases object : component.shape with
      | enum enumeration => exact absurd object (enumerated enumeration)
      | _ => rfl
    rw [and_iff_left (unstored fieldless), component_spelt_bare fieldless memberless]
    exact List.forall_mem_singleton.trans (Form.spelt_synonym _ _)

/-- The variables of expressions are named after the component and its field. -/
theorem component_patterns_spelt (plain : Plain component.name) (spelt : component.Spelt)
    (fields : ∀ identifier ∈ fieldIdentifiers component.shape.fields, Plain identifier) :
    ∀ stored ∈ Component.patterns outline component, IsIdentifier stored.name := by
  intro stored member
  obtain ⟨field, listed, among⟩ := List.mem_flatMap.mp member
  have identifier : Identifier.exported field.jsonName ∈ fieldIdentifiers component.shape.fields :=
    List.mem_map_of_mem listed
  have named {ending : String} (ends : Plain ending) : IsIdentifier
      (variableName (component.name ++ Identifier.exported field.jsonName ++ ending)) :=
    ((plain.append (fields _ identifier)).append ends).variable
      ((spelt.name.append (fields _ identifier).word).append ends.word)
  rcases List.mem_append.mp among with regex | pattern
  · obtain ⟨text, _, rfl⟩ := Option.map_eq_some_iff.mp (Option.mem_toList.mp regex)
    dsimp only
    exact named (words_plain "Regex" (by decide))
  · split at pattern
    · unfold Component.patternVariable at pattern
      split at pattern
      · obtain ⟨text, _, rfl⟩ := Option.map_eq_some_iff.mp (Option.mem_toList.mp pattern)
        dsimp only [Component.patternName]
        exact named (words_plain "Pattern" (by decide))
      · cases pattern
    · cases pattern

end Components

end ApiScaffold.Server
