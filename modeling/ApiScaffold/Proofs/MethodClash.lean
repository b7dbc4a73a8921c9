import ApiScaffold.Proofs.CleanNames
import ApiScaffold.Proofs.ShortDocuments
import ApiScaffold.Proofs.StructMembers

/-!
Members and methods of one type. Every method belongs to a type of the same file, and no two types
have one name, so what a method can clash with is a member of one struct. Which methods there are is
known for every type: only a struct of fields or of parameters has members that the document names,
and `Validate` and `UnmarshalJSON` are the only methods it can have.
-/

namespace ApiScaffold.Go

open Source

/-- The parameters of a type as receivers repeat them, without what they range over. -/
def receiverParameters (parameters : String) : String :=
  match parameters.toList.takeWhile (· != ' ') with
  | [] => ""
  | first => String.ofList (first ++ [']'])

def Form.receiverType? : Form → Option String
  | .struct name parameters _ => some (name ++ receiverParameters parameters)
  | .type name _ => some name
  | _ => none

def Form.isPlain : Form → Prop
  | .struct _ parameters _ => parameters = ""
  | _ => True

def Form.attaches? : Form → Option (String × String)
  | .method receiver name _ _ => some (receiver.type, name)
  | .marker owner name => some (owner, name)
  | _ => none

namespace Part

def types (part : Part) : List String := part.declarations.filterMap (·.form.receiverType?)

def methods (part : Part) : List (String × String) :=
  part.declarations.filterMap (·.form.attaches?)

/-- A type has a member and a method of one name. -/
def Clashes (part : Part) (type name : String) : Prop :=
  (type, name) ∈ part.methods ∧ ∃ declaration ∈ part.declarations,
    declaration.form.receiverType? = some type ∧ name ∈ declaration.form.members

theorem types_append (first second : Part) :
    (first ++ second).types = first.types ++ second.types := List.filterMap_append

theorem methods_append (first second : Part) :
    (first ++ second).methods = first.methods ++ second.methods := List.filterMap_append

theorem mem_methods_join {parts : List Part} {pair : String × String} :
    pair ∈ (join parts).methods ↔ ∃ part ∈ parts, pair ∈ part.methods := by
  unfold methods
  rw [declarations_join, List.filterMap_flatMap]
  exact List.mem_flatMap

theorem Clashes.mono {part whole : Part} {type name : String}
    (included : part.declarations ⊆ whole.declarations) (clash : part.Clashes type name) :
    whole.Clashes type name := by
  obtain ⟨method, declaration, listed, typed, member⟩ := clash
  exact ⟨List.filterMap_subset _ included method, declaration, included listed, typed, member⟩

theorem types_sublist {part : Part} (plain : part.Every (·.form.isPlain)) :
    part.types.Sublist part.introduces := by
  obtain ⟨_, _, declarations⟩ := part
  unfold types introduces
  dsimp only [Every] at plain ⊢
  induction declarations with
  | nil => exact List.Sublist.refl _
  | cons declaration rest induction =>
      obtain ⟨own, others⟩ := List.forall_mem_cons.mp plain
      have single : declaration.form.receiverType?.toList.Sublist declaration.form.introduces := by
        cases form : declaration.form with
        | struct name parameters groups =>
            rw [form] at own
            rw [show parameters = "" from own]
            change [name ++ ""].Sublist [name]
            rw [String.append_empty]
        | type name definition => exact List.Sublist.refl _
        | _ => exact List.nil_sublist _
      rw [List.filterMap_cons, List.flatMap_cons]
      cases typed : declaration.form.receiverType? with
      | none => exact (induction others).trans (List.sublist_append_right _ _)
      | some type =>
          rw [typed] at single
          exact single.append (induction others)

theorem types_join_sublist {parts : List Part}
    (each : ∀ part ∈ parts, part.types.Sublist part.introduces) :
    (join parts).types.Sublist (join parts).introduces := by
  induction parts with
  | nil => exact List.Sublist.refl _
  | cons part rest induction =>
      obtain ⟨first, others⟩ := List.forall_mem_cons.mp each
      have both : (part ++ join rest).types.Sublist (part ++ join rest).introduces := by
        rw [types_append, introduces_append]
        exact first.append (induction others)
      exact both

/-- A method of a part belongs to a type of the whole, and where it clashes with a member of the
type, a condition holds. -/
structure Judged (clashes : String → String → Prop) (whole : List Declaration) (part : Part) :
    Prop where
  judged : ∀ pair ∈ part.methods, ∃ declaration ∈ whole,
    declaration.form.receiverType? = some pair.1 ∧
      (pair.2 ∈ declaration.form.members → clashes pair.1 pair.2)

namespace Judged

variable {clashes : String → String → Prop} {whole more : List Declaration} {first second : Part}

theorem none (none : first.methods = []) : first.Judged clashes whole := by
  constructor
  rw [none]
  exact List.forall_mem_nil _

theorem append (here : first.Judged clashes whole) (there : second.Judged clashes whole) :
    (first ++ second).Judged clashes whole := by
  constructor
  rw [methods_append]
  exact List.forall_mem_append.mpr ⟨here.judged, there.judged⟩

theorem join {parts : List Part} (each : ∀ part ∈ parts, part.Judged clashes whole) :
    (join parts).Judged clashes whole := by
  constructor
  intro pair member
  obtain ⟨part, among, listed⟩ := mem_methods_join.mp member
  exact (each part among).judged pair listed

theorem mono {other : String → String → Prop} (judged : first.Judged clashes whole)
    (included : whole ⊆ more) (weaker : ∀ type name, clashes type name → other type name) :
    first.Judged other more := by
  constructor
  intro pair member
  obtain ⟨declaration, listed, typed, clashing⟩ := judged.judged pair member
  exact ⟨declaration, included listed, typed, fun inside => weaker _ _ (clashing inside)⟩

end Judged

theorem declaration_unique {declarations : List Declaration} {first second : Declaration}
    {type : String} (distinct : (declarations.filterMap (·.form.receiverType?)).Nodup)
    (here : first ∈ declarations) (there : second ∈ declarations)
    (introduces : first.form.receiverType? = some type)
    (repeats : second.form.receiverType? = some type) : first = second := by
  induction declarations with
  | nil => cases here
  | cons declaration rest induction =>
      have listed (other : Declaration) (member : other ∈ rest)
          (introduces : other.form.receiverType? = some type) :
          type ∈ rest.filterMap (·.form.receiverType?) :=
        List.mem_filterMap.mpr ⟨other, member, introduces⟩
      rcases List.mem_cons.mp here with rfl | early
      · rcases List.mem_cons.mp there with rfl | late
        · rfl
        · rw [List.filterMap_cons_some (f := fun declaration : Declaration =>
            declaration.form.receiverType?) introduces, List.nodup_cons] at distinct
          exact absurd (listed second late repeats) distinct.1
      · rcases List.mem_cons.mp there with rfl | late
        · rw [List.filterMap_cons_some (f := fun declaration : Declaration =>
            declaration.form.receiverType?) repeats, List.nodup_cons] at distinct
          exact absurd (listed first early introduces) distinct.1
        · refine induction (distinct.sublist ?_) early late
          exact (List.sublist_cons_self _ _).filterMap _

/-- Where types are distinct, a method clashes with nothing but a member of the type that it was found
to belong to. -/
theorem clash_judged {clashes : String → String → Prop} {part : Part}
    (distinct : part.types.Nodup) (judged : part.Judged clashes part.declarations)
    {type name : String} (clash : part.Clashes type name) : clashes type name := by
  obtain ⟨method, declaration, listed, typed, member⟩ := clash
  obtain ⟨owner, among, owned, clashing⟩ := judged.judged _ method
  have same := declaration_unique distinct listed among typed owned
  exact clashing (same ▸ member)

end Part

end ApiScaffold.Go

namespace ApiScaffold.Server

open Blueprint Go Source

def Component.structMethods (outline : Outline) (component : Component) : List String :=
  (if (Component.readings outline component).any FieldReading.needsDecoder then ["UnmarshalJSON"]
    else []) ++
  if !component.skipValidation && outline.hasValidator component.name then ["Validate"] else []

section Components

variable {outline : Outline} {component : Component}

theorem patterns_methods (owner : String) (patterns : List PatternVariable) :
    (PatternVariable.part owner patterns).methods = [] := by
  unfold PatternVariable.part
  split <;> rfl

theorem decoder_methods (type : String) (readings : List FieldReading) :
    (Decoder.part type readings).methods =
      if readings.any FieldReading.needsDecoder then [(type, "UnmarshalJSON")] else [] := by
  unfold Decoder.part
  split <;> rfl

theorem struct_part_methods (comment : List String) {field : String × Blueprint.Field Shape}
    {fields : List (String × Blueprint.Field Shape)} {required : List String}
    {additional : Additional Shape}
    (object : component.shape = .object (field :: fields) required additional) :
    (Component.structPart outline component comment ((field :: fields).map (·.2)) required).methods =
      (Component.structMethods outline component).map (component.name, ·) := by
  unfold Component.structPart Component.structMethods
  dsimp only
  rw [Part.methods_append, Part.methods_append, Part.methods_append, patterns_methods,
    decoder_methods, ← Component.readings_of_object outline object, List.append_nil, List.map_append]
  congr 1
  · split <;> rfl
  · split <;> rfl

/-- A field of a component has the name of one of its methods. -/
def Component.Clash (outline : Outline) (component : Component) (type name : String) : Prop :=
  component.name = type ∧ name ∈ fieldIdentifiers component.shape.fields ∧
    name ∈ Component.structMethods outline component

theorem enum_part_judged {clashes : String → String → Prop} (type : String)
    (comment : List String) (enumeration : Enumeration) :
    (Component.enumPart type comment enumeration).Judged clashes
      (Component.enumPart type comment enumeration).declarations := by
  constructor
  intro pair member
  refine ⟨_, List.mem_cons_self, ?_, fun inside => absurd inside List.not_mem_nil⟩
  have listed : pair ∈ [(type, "Check"), (type, "UnmarshalJSON")] := member
  simp only [List.mem_cons, List.not_mem_nil, or_false] at listed
  rcases listed with rfl | rfl <;> rfl

theorem shape_part_judged (outline : Outline) (component : Component) (comment : List String) :
    (Component.shapePart outline component comment).Judged (Component.Clash outline component)
      (Component.shapePart outline component comment).declarations := by
  unfold Component.shapePart
  split
  · exact .none rfl
  · rename_i field fields required additional object
    constructor
    intro pair member
    rw [struct_part_methods comment object] at member
    obtain ⟨name, method, rfl⟩ := List.mem_map.mp member
    refine ⟨_, List.mem_cons_self, congrArg some String.append_empty, fun inside => ?_⟩
    rw [struct_members] at inside
    refine ⟨rfl, ?_, method⟩
    rw [object]
    exact inside
  · exact enum_part_judged _ _ _
  · exact .none rfl

theorem components_judged (program : Program) : (componentsPart program).Judged
    (fun type name => ∃ component ∈ program.components.values,
      Component.Clash (Outline.ofProgram program) component type name)
    (componentsPart program).declarations := by
  have runtime : Outcome.part.Judged (fun _ _ => False) Outcome.part.declarations := by
    constructor
    decide
  refine .append (runtime.mono (List.subset_append_left _ _) fun _ _ => False.elim) (.join ?_)
  intro part among
  obtain ⟨component, member, rfl⟩ := List.mem_map.mp among
  have own := shape_part_judged (Outline.ofProgram program) component
    (commentOn component.name component.description)
  refine .append (.none rfl) (own.mono ?_ fun type name clash => ⟨component, member, clash⟩)
  intro declaration listed
  exact List.mem_append_right _
    (Part.declarations_subset_join among (List.mem_append_right _ listed))

theorem shape_part_types (outline : Outline) (component : Component) (comment : List String) :
    (Component.shapePart outline component comment).types.Sublist [component.name] := by
  unfold Component.shapePart
  split
  · exact List.Sublist.refl _
  · rename_i field fields required additional object
    obtain ⟨others, declared, kinds⟩ := struct_part_declarations outline component comment
      ((field :: fields).map (·.2)) required
    have silent : others.filterMap (·.form.receiverType?) = [] := by
      apply List.filterMap_eq_nil_iff.mpr
      intro declaration listed
      rcases kinds declaration listed with ⟨_, same⟩ | ⟨_, _, _, _, same⟩ <;> rw [same] <;> rfl
    have struct (groups : List MemberGroup) :
        (Form.struct component.name "" groups).receiverType? = some component.name :=
      congrArg some String.append_empty
    rw [Part.types, declared, List.filterMap_cons, silent, struct]
  · exact List.Sublist.refl _
  · exact List.nil_sublist _

/-- The generic type alone is named otherwise than it is introduced. -/
theorem runtime_types : Outcome.part.types.Nodup ∧
    ∀ type ∈ Outcome.part.types, type = "Optional[T]" ∨ type ∈ Outcome.part.introduces := by
  decide

theorem component_types_distinct {program : Program} (drafted : program.Drafted)
    (distinct : (componentsPart program).introduces.Nodup) :
    (componentsPart program).types.Nodup := by
  have generic : ¬ Identifier.Clean "Optional[T]" := by
    unfold Identifier.Clean Identifier.CleanChars
    decide
  unfold componentsPart at distinct ⊢
  dsimp only at distinct ⊢
  rw [Part.introduces_append] at distinct
  rw [Part.types_append]
  obtain ⟨_, others, apart⟩ := List.nodup_append.mp distinct
  have introduced := @Part.types_join_sublist
    (program.components.values.map (Component.part (Outline.ofProgram program)))
    (by
      intro part among
      obtain ⟨component, member, rfl⟩ := List.mem_map.mp among
      refine (shape_part_types _ component _).trans ?_
      unfold Component.part
      dsimp only
      rw [Part.introduces_append, shape_part_introduces]
      exact (List.nil_sublist _).cons_cons _)
  refine List.nodup_append.mpr ⟨runtime_types.1, others.sublist introduced, ?_⟩
  rintro type here _ there rfl
  rcases runtime_types.2 type here with rfl | known
  · apply generic
    obtain ⟨declaration, listed, typed⟩ := List.mem_filterMap.mp there
    rw [Part.declarations_join] at listed
    obtain ⟨part, among, listed⟩ := List.mem_flatMap.mp listed
    obtain ⟨component, member, rfl⟩ := List.mem_map.mp among
    have own := (shape_part_types (Outline.ofProgram program) component
      (commentOn component.name component.description)).subset
      (List.mem_filterMap.mpr ⟨declaration, listed, typed⟩)
    rw [List.mem_singleton.mp own]
    exact drafted.component_clean component member
  · exact apart type known type (introduced.subset there) rfl

end Components

section Router

/-- A parameter has the name of the method of its struct. -/
def Operation.Clash (outline : Outline) (operation : Operation) (type name : String) : Prop :=
  ∃ place, Request.placeStruct operation place = type ∧ name = "Validate" ∧
    Request.validatesPlace outline operation place ∧
    "Validate" ∈ (operation.parametersIn place).map Request.memberName

theorem plain_patterns (owner : String) (patterns : List PatternVariable) :
    (PatternVariable.part owner patterns).Every (·.form.isPlain) := by
  unfold PatternVariable.part
  split
  · exact Part.every_empty
  · exact List.forall_mem_singleton.mpr trivial

variable (outline : Outline) (operation : Operation)

theorem place_validator_methods (place : Place) :
    (Request.placeValidator outline operation place).methods =
      if Request.validatesPlace outline operation place then
        [(Request.placeStruct operation place, "Validate")] else [] := by
  have empty : ((operation.parametersIn place).filter fun parameter =>
      outline.fieldValidates parameter.field).isEmpty =
        !Request.validatesPlace outline operation place := by
    unfold Request.validatesPlace
    rw [Bool.eq_iff_iff, List.isEmpty_iff, List.filter_eq_nil_iff, Bool.not_eq_true',
      List.any_eq_false]
  unfold Request.placeValidator
  dsimp only
  rw [empty]
  cases Request.validatesPlace outline operation place <;> rfl

theorem place_part_judged (place : Place) :
    (Request.placePart outline operation place).Judged (Operation.Clash outline operation)
      (Request.placePart outline operation place).declarations := by
  unfold Request.placePart
  split
  · exact .none rfl
  · rename_i parameters filled
    refine .append (.none rfl) ?_
    constructor
    intro pair member
    rw [place_validator_methods] at member
    split at member
    · rename_i validates
      cases List.mem_singleton.mp member
      refine ⟨_, List.mem_cons_self, congrArg some String.append_empty, fun inside => ?_⟩
      refine ⟨place, rfl, rfl, validates, ?_⟩
      simpa [Form.members, Function.comp_def] using inside
    · cases member

theorem place_part_plain (place : Place) :
    (Request.placePart outline operation place).Every (·.form.isPlain) := by
  unfold Request.placePart Request.placeValidator
  split
  · exact Part.every_empty
  · rw [Part.every_append]
    refine ⟨List.forall_mem_singleton.mpr rfl, ?_⟩
    dsimp only
    split
    · exact Part.every_empty
    · exact List.forall_mem_singleton.mpr trivial

theorem request_part_judged : (Request.part outline operation).Judged
    (Operation.Clash outline operation) (Request.part outline operation).declarations := by
  refine .append (.append (.append ?_ (.none (patterns_methods _ _))) (.none rfl)) (.join ?_)
  · apply Part.Judged.join
    intro part among
    obtain ⟨place, member, rfl⟩ := List.mem_map.mp among
    refine (place_part_judged outline operation place).mono ?_ fun _ _ clash => clash
    intro declaration listed
    exact List.mem_append_left _ (List.mem_append_left _ (List.mem_append_left _
      (Part.declarations_subset_join among listed)))
  · intro part among
    obtain ⟨variant, _, rfl⟩ := List.mem_map.mp among
    exact .none rfl

theorem request_part_plain : (Request.part outline operation).Every (·.form.isPlain) := by
  unfold Request.part Request.patternPart
  rw [Part.every_append, Part.every_append, Part.every_append, Part.every_join_map,
    Part.every_join_map]
  refine ⟨⟨⟨fun place _ => place_part_plain outline operation place, plain_patterns _ _⟩,
    Part.every_empty⟩, fun variant _ => ?_⟩
  unfold Request.variantPart
  simp only [Part.Every, List.forall_mem_cons, List.not_mem_nil, false_imp_iff, implies_true,
    and_true]
  exact ⟨rfl, trivial⟩

section Builders

open Builder

/-- The methods of a part belong to stages. None is called as what a stage holds, or as what mounts
the routes of a router. -/
def Staged (whole : List Declaration) (part : Part) : Prop :=
  ∀ pair ∈ part.methods, stageType pair.1 ∈ whole ∧ pair.2 ∉ ["response", "mount"]

theorem unreserved_of_start {name : String}
    (other : Identifier.Starts (fun c => c ≠ 'r' ∧ c ≠ 'm') name.toList) :
    name ∉ ["response", "mount"] := by
  intro listed
  simp only [List.mem_cons, List.not_mem_nil, or_false] at listed
  rcases listed with rfl | rfl
  · exact (other _ _ rfl).1 rfl
  · exact (other _ _ rfl).2 rfl

variable {operation} {whole : List Declaration}

theorem Staged.append {first second : Part} (here : Staged whole first)
    (there : Staged whole second) : Staged whole (first ++ second) := by
  unfold Staged
  rw [Part.methods_append]
  exact List.forall_mem_append.mpr ⟨here, there⟩

theorem Staged.join {parts : List Part} (each : ∀ part ∈ parts, Staged whole part) :
    Staged whole (Part.join parts) := by
  intro pair member
  obtain ⟨part, among, listed⟩ := Part.mem_methods_join.mp member
  exact each part among pair listed

theorem Staged.judged {part : Part} (staged : Staged whole part) :
    part.Judged (fun _ _ => False) whole := by
  constructor
  intro pair member
  obtain ⟨stage, other⟩ := staged pair member
  exact ⟨_, stage, congrArg some String.append_empty,
    fun inside => other (List.mem_cons.mpr (.inl (List.mem_singleton.mp inside)))⟩

theorem status_part_methods (response : Response) :
    (statusPart operation response).methods =
      [(start operation, s!"StatusCode{response.status.label}")] := by
  unfold statusPart Part.methods step stageType receiver
  simp only [List.filterMap_cons, List.filterMap_nil, Form.attaches?]

theorem headers_part_methods (program : Program) (response : Response) :
    (headersPart program operation response).methods =
      [(statusStage operation response.status, "Headers")] := by
  unfold headersPart Part.methods step stageType receiver
  simp only [List.filterMap_cons, List.filterMap_nil, Form.attaches?]

theorem build_methods (stage : String) :
    ({ declarations := [build operation stage] } : Part).methods = [(stage, "Build")] := by
  unfold Part.methods build receiver
  simp only [List.filterMap_cons, List.filterMap_nil, Form.attaches?]

theorem content_part_methods (status : Status) (stage : String) (content : BodyContent) :
    (contentPart operation status stage content).methods =
      [(stage, content.tag), (bodyStage operation status content, "Body"),
        (finalStage operation status content, "Build")] := by
  unfold contentPart Part.methods step stageType build receiver
  simp only [List.filterMap_cons, List.filterMap_nil, Form.attaches?]

theorem content_part_staged {status : Status} {stage : String} {content : BodyContent}
    (tagged : content.Tagged) (earlier : stageType stage ∈ whole)
    (own : (contentPart operation status stage content).declarations ⊆ whole) :
    Staged whole (contentPart operation status stage content) := by
  have tag : content.tag ∉ ["response", "mount"] := by
    have large := Identifier.of_content_type_starts_large content.contentType
    rw [← show content.tag = Identifier.ofContentType content.contentType from tagged] at large
    refine unreserved_of_start fun first rest same => ?_
    have own := large first rest same
    constructor
    all_goals
      rintro rfl
      exact absurd own (by decide)
  have body : stageType (bodyStage operation status content) ∈ whole := own (by simp [contentPart])
  have final : stageType (finalStage operation status content) ∈ whole := own (by simp [contentPart])
  unfold Staged
  rw [content_part_methods]
  simp only [List.forall_mem_cons, List.not_mem_nil, false_imp_iff, implies_true, and_true]
  exact ⟨⟨earlier, tag⟩, ⟨body, by decide⟩, ⟨final, by decide⟩⟩

theorem response_part_staged {program : Program} {response : Response}
    (tagged : ∀ content ∈ response.contents, content.Tagged)
    (begun : stageType (start operation) ∈ whole)
    (own : (responsePart program operation response).declarations ⊆ whole) :
    Staged whole (responsePart program operation response) := by
  have label : s!"StatusCode{response.status.label}" ∉ ["response", "mount"] := by
    refine unreserved_of_start fun first rest same => ?_
    have letter : 'S' = first := by
      simpa [toString, String.toList_append] using congrArg List.head? same
    rw [← letter]
    decide
  have word : "Headers" ∉ ["response", "mount"] ∧ "Build" ∉ ["response", "mount"] := by decide
  unfold responsePart at own ⊢
  dsimp only at own ⊢
  rw [Part.declarations_append, Part.declarations_append, List.append_subset,
    List.append_subset] at own
  obtain ⟨⟨status, headers⟩, contents⟩ := own
  have answered : stageType (statusStage operation response.status) ∈ whole :=
    status (by simp [statusPart])
  refine .append (.append ?_ ?_) ?_
  · unfold Staged
    rw [status_part_methods, List.forall_mem_singleton]
    dsimp only
    exact ⟨begun, label⟩
  · split
    · unfold Staged
      rw [headers_part_methods, List.forall_mem_singleton]
      dsimp only
      exact ⟨answered, word.1⟩
    · exact List.forall_mem_nil _
  · have stage : stageType (if (!response.headers.isEmpty) = true then
        headersStage operation response.status else statusStage operation response.status) ∈
        whole := by
      split
      · rename_i given
        rw [if_pos given] at headers
        exact headers (by simp [headersPart])
      · exact answered
    split
    · unfold Staged
      rw [build_methods, List.forall_mem_singleton]
      dsimp only
      exact ⟨stage, word.2⟩
    · rename_i given
      rw [if_neg given] at contents
      apply Staged.join
      intro part among
      obtain ⟨content, member, rfl⟩ := List.mem_map.mp among
      apply content_part_staged (tagged content member) stage
      exact List.Subset.trans (Part.declarations_subset_join among) contents

theorem builder_part_staged (program : Program) (drafted : operation.Drafted) :
    Staged (Builder.part program operation).declarations (Builder.part program operation) := by
  have marker : Builder.marker operation ∉ ["response", "mount"] := by
    refine unreserved_of_start fun first rest same => ?_
    have letter : 'i' = first := by
      simpa [Builder.marker, toString, String.toList_append] using congrArg List.head? same
    rw [← letter]
    decide
  refine .append ?_ (.join ?_)
  · intro pair member
    rw [List.mem_singleton.mp member]
    exact ⟨List.mem_append_left _ (by simp [startPart]), marker⟩
  · intro part among
    obtain ⟨response, member, rfl⟩ := List.mem_map.mp among
    apply response_part_staged (drafted.responses response member)
    · exact List.mem_append_left _ (by simp [startPart])
    · exact List.subset_append_of_subset_right _ (Part.declarations_subset_join among)

theorem builder_part_judged {program : Program} (drafted : operation.Drafted) :
    (Builder.part program operation).Judged (fun _ _ => False)
      (Builder.part program operation).declarations :=
  (builder_part_staged program drafted).judged

theorem builder_part_plain (program : Program) :
    (Builder.part program operation).Every (·.form.isPlain) := by
  unfold Builder.part
  rw [Part.every_append, Part.every_join_map]
  refine ⟨?_, fun response _ => ?_⟩
  · unfold startPart
    simp only [Part.Every, List.forall_mem_cons, List.not_mem_nil, false_imp_iff, implies_true,
      and_true]
    exact ⟨trivial, rfl, trivial, trivial, rfl⟩
  · unfold responsePart
    dsimp only
    rw [Part.every_append, Part.every_append]
    refine ⟨⟨?_, ?_⟩, ?_⟩
    · unfold statusPart
      simp only [Part.Every, List.forall_mem_cons, List.not_mem_nil, false_imp_iff, implies_true,
        and_true]
      exact ⟨trivial, rfl⟩
    · split
      · unfold headersPart
        simp only [Part.Every, List.forall_mem_cons, List.not_mem_nil, false_imp_iff,
          implies_true, and_true]
        exact ⟨rfl, trivial, rfl⟩
      · exact Part.every_empty
    · split
      · exact List.forall_mem_singleton.mpr trivial
      · rw [Part.every_join_map]
        intro content _
        unfold contentPart
        simp only [Part.Every, List.forall_mem_cons, List.not_mem_nil, false_imp_iff,
          implies_true, and_true]
        exact ⟨trivial, rfl, trivial, rfl, trivial⟩

end Builders

section Services

open Service

/-- Handlers begin as the word does that they are made with. -/
theorem handler_begins (drafted : operation.Drafted) :
    ∃ rest, (handler operation).toList = 'h' :: 'a' :: rest := by
  have word : Identifier.Clean "Handle" := by
    unfold Identifier.Clean Identifier.CleanChars
    decide
  have spelt : (s!"Handle{operation.name}").toList =
      'H' :: 'a' :: ("ndle".toList ++ operation.name.toList) := by
    simp [toString, String.toList_append]
  have unbroken := (word.append drafted.name_clean).unbroken
  change Identifier.Unbroken (s!"Handle{operation.name}").toList at unbroken
  rw [spelt] at unbroken
  obtain ⟨tail, camel⟩ := Identifier.camel_case_ha unbroken
  rw [← spelt, String.ofList_toList] at camel
  unfold handler variableName avoidKeyword
  split
  · exact ⟨tail ++ ['_'], by rw [String.toList_append, camel]; rfl⟩
  · exact ⟨tail, camel⟩

theorem handler_part_methods (tag : String) :
    (handlerPart tag operation).methods = [(router tag, handler operation)] := by
  unfold handlerPart Part.methods handlerMethod receiver
  simp only [List.filterMap_cons, List.filterMap_nil, Form.attaches?]

theorem service_part_judged (tag : String) {operations : List Operation}
    (drafted : ∀ operation ∈ operations, operation.Drafted) :
    (Service.part tag operations).Judged (fun _ _ => False)
      (Service.part tag operations).declarations := by
  have belongs : ∀ pair ∈ (Service.part tag operations).methods, pair.1 = router tag ∧
      pair.2 ∉ ["router", "service", "hooks", "processors"] := by
    have fixed : ∀ name ∈ ["ServeHTTP", "mount"],
        name ∉ ["router", "service", "hooks", "processors"] := by decide
    have members : ∀ name ∈ ["router", "service", "hooks", "processors"],
        name.toList.take 2 ≠ ['h', 'a'] := by decide
    unfold Service.part
    dsimp only
    rw [Part.methods_append]
    refine List.forall_mem_append.mpr ⟨?_, ?_⟩
    · intro pair member
      have listed : pair ∈ [(router tag, "ServeHTTP"), (router tag, "mount")] := member
      obtain ⟨name, given, rfl⟩ := List.mem_map (f := (router tag, ·)).mp
        (show pair ∈ ["ServeHTTP", "mount"].map (router tag, ·) from listed)
      exact ⟨rfl, fixed name given⟩
    · intro pair member
      obtain ⟨part, among, listed⟩ := Part.mem_methods_join.mp member
      obtain ⟨operation, handled, rfl⟩ := List.mem_map.mp among
      rw [handler_part_methods, List.mem_singleton] at listed
      subst listed
      refine ⟨rfl, fun inside => members _ inside ?_⟩
      obtain ⟨rest, begins⟩ := handler_begins operation (drafted operation handled)
      dsimp only
      rw [begins]
      rfl
  constructor
  intro pair member
  obtain ⟨owner, other⟩ := belongs pair member
  refine ⟨routerType tag, List.mem_append_left _ (by simp), ?_, other⟩
  rw [owner]
  exact congrArg some String.append_empty

theorem service_part_plain (tag : String) (operations : List Operation) :
    (Service.part tag operations).Every (·.form.isPlain) := by
  unfold Service.part
  rw [Part.every_append, Part.every_join_map]
  refine ⟨?_, fun operation _ => List.forall_mem_singleton.mpr trivial⟩
  simp only [Part.Every, List.forall_mem_cons, List.not_mem_nil, false_imp_iff, implies_true,
    and_true]
  exact ⟨trivial, rfl, trivial, trivial, trivial⟩

end Services

theorem security_part_plain (schemes : List SecurityScheme) :
    (Security.part schemes).Every (·.form.isPlain) := by
  have types : ∀ declaration ∈ Security.types, declaration.form.isPlain := by
    simp only [Security.types, errorType, List.forall_mem_append, List.forall_mem_cons,
      List.not_mem_nil, false_imp_iff, implies_true, and_true]
    exact ⟨⟨trivial, trivial, trivial, rfl, trivial⟩, rfl, trivial⟩
  unfold Security.part Part.Every
  simp only [List.forall_mem_append, List.forall_mem_cons, List.not_mem_nil, false_imp_iff,
    implies_true, and_true, List.forall_mem_map]
  refine ⟨⟨⟨⟨types, ?_⟩, trivial, trivial⟩, fun _ _ => trivial⟩, trivial, trivial, trivial⟩
  split
  · exact List.forall_mem_nil _
  · exact List.forall_mem_singleton.mpr trivial

/-- The methods of security are those of its types, whatever schemes there are. -/
theorem security_part_methods (schemes : List SecurityScheme) :
    (Security.part schemes).methods = Security.types.filterMap (·.form.attaches?) := by
  have extractors (extracted : List SecurityScheme) :
      (extracted.map Security.extractorFunction).filterMap (·.form.attaches?) = [] := by
    rw [List.filterMap_eq_nil_iff, List.forall_mem_map]
    exact fun _ _ => rfl
  have constants : (if schemes.isEmpty then [] else
      [({ form := .constants (schemes.map Security.constantEntry) } : Declaration)]).filterMap
        (·.form.attaches?) = [] := by
    split <;> rfl
  simp only [Part.methods, Security.part, List.filterMap_append, extractors, constants]
  simp only [List.append_nil, Security.schemas, Security.processors, Security.checkSecurity,
    Security.checkAlternative, Security.runProcessor, Form.attaches?, List.filterMap_cons,
    List.filterMap_nil]

theorem security_part_judged (schemes : List SecurityScheme) :
    (Security.part schemes).Judged (fun _ _ => False) (Security.part schemes).declarations := by
  have types : ∀ pair ∈ Security.types.filterMap (·.form.attaches?),
      ∃ declaration ∈ Security.types, declaration.form.receiverType? = some pair.1 ∧
        pair.2 ∉ declaration.form.members := by decide
  constructor
  rw [security_part_methods]
  intro pair member
  obtain ⟨declaration, listed, typed, other⟩ := types pair member
  refine ⟨declaration, ?_, typed, other⟩
  unfold Security.part
  simp only [List.mem_append]
  exact .inl (.inl (.inl (.inl listed)))

theorem operation_part_judged {program : Program} {operation : Operation}
    (drafted : operation.Drafted) :
    (operationPart (Outline.ofProgram program) operation).Judged
      (Operation.Clash (Outline.ofProgram program) operation)
      (operationPart (Outline.ofProgram program) operation).declarations :=
  .append
    ((request_part_judged _ operation).mono (List.subset_append_left _ _) fun _ _ clash => clash)
    ((builder_part_judged drafted).mono (List.subset_append_right _ _) fun _ _ => False.elim)

/-- What a method of the router clashes with. -/
theorem router_judged {program : Program} (drafted : program.Drafted) :
    (routerPart program).Judged
      (fun type name => ∃ operation ∈ program.operations,
        Operation.Clash (Outline.ofProgram program) operation type name)
      (routerPart program).declarations := by
  have reply : Reply.part.Judged (fun _ _ => False) Reply.part.declarations := by
    constructor
    decide
  have inside {first second third : List Declaration} (included : first ⊆ second) :
      first ⊆ second ++ third := List.subset_append_of_subset_left _ included
  unfold routerPart
  dsimp only
  simp only [Part.declarations_append]
  refine .append (.append (.append (.append (.append ?_ (.none rfl)) ?_) (.join ?_)) (.join ?_))
    (.none rfl)
  · refine reply.mono ?_ fun _ _ => False.elim
    exact inside (inside (inside (inside (List.subset_append_left _ _))))
  · refine (security_part_judged program.securitySchemes).mono ?_ fun _ _ => False.elim
    exact inside (inside (inside (List.subset_append_right _ _)))
  · intro part among
    obtain ⟨operation, member, rfl⟩ := List.mem_map.mp among
    refine (operation_part_judged (drafted.operations operation member)).mono ?_
      fun type name clash => ⟨operation, member, clash⟩
    refine inside (inside ?_)
    exact List.subset_append_of_subset_right _ (Part.declarations_subset_join among)
  · intro part among
    obtain ⟨⟨tag, operations⟩, member, rfl⟩ := List.mem_map.mp among
    refine (service_part_judged tag fun operation listed => drafted.operations operation
      (Program.tagged_operations _ member operation listed)).mono ?_ fun _ _ => False.elim
    refine inside ?_
    exact List.subset_append_of_subset_right _ (Part.declarations_subset_join among)

theorem router_part_plain (program : Program) : (routerPart program).Every (·.form.isPlain) := by
  have reply : Reply.part.Every (·.form.isPlain) := by
    unfold Part.Every Reply.part Reply.declarations Reply.missingParameter errorType Reply.readers
    simp only [List.cons_append, List.nil_append, List.forall_mem_cons, List.not_mem_nil,
      false_imp_iff, implies_true, and_true]
    exact ⟨rfl, trivial, trivial, rfl, trivial, trivial, trivial, trivial, trivial, trivial,
      trivial, trivial, trivial⟩
  unfold routerPart operationPart
  dsimp only
  simp only [Part.every_append, Part.every_join_map]
  refine ⟨⟨⟨⟨⟨reply, List.forall_mem_singleton.mpr rfl⟩, security_part_plain _⟩,
    fun operation _ => ⟨request_part_plain _ _, builder_part_plain _⟩⟩,
    fun entry _ => service_part_plain entry.1 entry.2⟩, List.forall_mem_singleton.mpr trivial⟩

end Router

section Compiled

variable {program : Program} {type name : String}

theorem component_clashes {component : Component} (member : component ∈ program.components.values)
    (clash : Component.Clash (Outline.ofProgram program) component type name) :
    (componentsPart program).Clashes type name := by
  obtain ⟨rfl, field, method⟩ := clash
  have own : (Component.shapePart (Outline.ofProgram program) component
      (commentOn component.name component.description)).Clashes component.name name := by
    cases object : component.shape with
    | object fields required additional =>
        rw [object] at field
        cases fields with
        | nil => cases field
        | cons first others =>
            have methods := @struct_part_methods (Outline.ofProgram program) component
              (commentOn component.name component.description) _ _ _ _ object
            rw [Component.shape_part_of_fields _ object (List.cons_ne_nil _ _)]
            refine ⟨methods ▸ List.mem_map_of_mem method, _, List.mem_cons_self,
              congrArg some String.append_empty, ?_⟩
            rw [struct_members]
            exact field
    | _ =>
        rw [object] at field
        cases field
  apply own.mono
  refine List.subset_append_of_subset_right _ ?_
  refine List.Subset.trans ?_ (Part.declarations_subset_join (List.mem_map_of_mem member))
  exact List.subset_append_right _ _

/-- What is declared for the parameters at a place is declared in the router. -/
theorem place_part_included {operation : Operation} (member : operation ∈ program.operations)
    (place : Place) : (Request.placePart (Outline.ofProgram program) operation place).declarations ⊆
      (routerPart program).declarations := by
  have among : Request.placePart (Outline.ofProgram program) operation place ∈
      Place.all.map (Request.placePart (Outline.ofProgram program) operation) :=
    List.mem_map_of_mem (by cases place <;> decide)
  have requested : (Request.placePart (Outline.ofProgram program) operation place).declarations ⊆
      (operationPart (Outline.ofProgram program) operation).declarations := by
    refine List.subset_append_of_subset_left _ ?_
    refine List.subset_append_of_subset_left _ ?_
    refine List.subset_append_of_subset_left _ ?_
    exact List.subset_append_of_subset_left _ (Part.declarations_subset_join among)
  refine List.Subset.trans requested ?_
  refine List.Subset.trans (Part.declarations_subset_join (List.mem_map_of_mem member)) ?_
  unfold routerPart
  dsimp only
  simp only [Part.declarations_append]
  exact List.subset_append_of_subset_left _
    (List.subset_append_of_subset_left _ (List.subset_append_right _ _))

theorem operation_clashes {operation : Operation} (member : operation ∈ program.operations)
    (clash : Operation.Clash (Outline.ofProgram program) operation type name) :
    (routerPart program).Clashes type name := by
  obtain ⟨place, rfl, rfl, validates, parameter⟩ := clash
  have own : (Request.placePart (Outline.ofProgram program) operation place).Clashes
      (Request.placeStruct operation place) "Validate" := by
    have method := place_validator_methods (Outline.ofProgram program) operation place
    rw [if_pos validates] at method
    unfold Request.placePart
    cases placed : operation.parametersIn place with
    | nil =>
        rw [placed] at parameter
        cases parameter
    | cons first others =>
        dsimp only
        refine ⟨?_, _, List.mem_cons_self, congrArg some String.append_empty, ?_⟩
        · rw [Part.methods_append, method]
          exact List.mem_append_right _ List.mem_cons_self
        · rw [placed] at parameter
          simpa [Form.members, Function.comp_def] using parameter
  exact own.mono (place_part_included member place)

/-- Fields are not compared with methods. A type of the components has a member and a method of one
name iff it is a struct of fields of which one is called as a method that the struct has; a type of
the router, iff it is a struct of parameters with a validator of which one is called `Validate`. -/
theorem clashing_structs {document : OpenApi.Document} {config : Config}
    {artifacts : Artifact × Artifact} (compiled : (compile document config).1 = .ok program)
    (emitted : Artifact.all program = .ok artifacts) (type name : String) :
    ((componentsPart program).Clashes type name ↔ ∃ component ∈ program.components.values,
      Component.Clash (Outline.ofProgram program) component type name) ∧
    ((routerPart program).Clashes type name ↔ ∃ operation ∈ program.operations,
      Operation.Clash (Outline.ofProgram program) operation type name) := by
  have drafted := compiled_drafted compiled
  obtain ⟨own, both⟩ := Artifact.all_succeeds_iff.mp ⟨artifacts, emitted⟩
  have types := component_types_distinct drafted ((components_part_accounted program).nodup own)
  have introduced := (router_part_accounted program).nodup (List.nodup_append.mp both).2.1
  have others := introduced.sublist (Part.types_sublist (router_part_plain program))
  constructor
  · exact ⟨Part.clash_judged types (components_judged program),
      fun ⟨component, member, clash⟩ => component_clashes member clash⟩
  · exact ⟨Part.clash_judged others (router_judged drafted),
      fun ⟨operation, member, clash⟩ => operation_clashes member clash⟩

end Compiled

/-- A schema with properties, and an operation with a parameter, that are called as the methods which
they ask for. -/
def checkpoint : OpenApi.Document where
  specification := {
    openapi := "3.0.0"
    components := { schemas := [
      ("pass", .object {
        type := some (.single "object")
        required := ["unmarshalJSON"]
        properties := [
          ("unmarshalJSON", .object { type := some (.single "string") }),
          ("validate", .object { type := some (.single "string"), minLength := some 1 })] })] }
    paths := [("/f", { declared := [(.get, {
      parameters := [.object {
        name := "validate"
        place := .query
        schema := some (.object { type := some (.single "string"), minLength := some 1 }) }]
      responses := [("200", .object {})] })] })] }
  raw := .null

theorem checkpoint_clashes :
    ∃ program artifacts, (compile checkpoint { package := "api", path := "" }).1 = .ok program ∧
      Artifact.all program = .ok artifacts ∧
      (componentsPart program).Clashes "Pass" "UnmarshalJSON" ∧
      (componentsPart program).Clashes "Pass" "Validate" ∧
      (routerPart program).Clashes "GetFRequestQuery" "Validate" := by
  have holds : (compileShort checkpoint { package := "api", path := "" }).any fun program =>
      let outline := Outline.ofProgram program
      (program.components.values.any fun component => component.name == "Pass" &&
        ["UnmarshalJSON", "Validate"].all fun name =>
          (fieldIdentifiers component.shape.fields).contains name &&
            (Component.structMethods outline component).contains name) &&
      (program.operations.any fun operation =>
        Request.placeStruct operation .query == "GetFRequestQuery" &&
          Request.validatesPlace outline operation .query &&
            ((operation.parametersIn .query).map Request.memberName).contains "Validate") &&
      decide ((componentsPart program).taken ++ (routerPart program).taken).Nodup := by
    decide +kernel
  obtain ⟨program, result, holds⟩ := compiled_of_short holds
  simp only [Bool.and_eq_true, List.any_eq_true, beq_iff_eq, List.all_cons, List.all_nil,
    List.contains_iff_mem, decide_eq_true_eq] at holds
  obtain ⟨⟨⟨component, member, named, unmarshal, validate, _⟩, operation, listed,
    ⟨typed, validates⟩, parameter⟩, distinct⟩ := holds
  obtain ⟨artifacts, emitted⟩ := Artifact.succeeds_of_distinct distinct
  have clashes (type name : String) := clashing_structs result emitted type name
  exact ⟨program, artifacts, result, emitted,
    (clashes _ _).1.mpr ⟨component, member, named, unmarshal⟩,
    (clashes _ _).1.mpr ⟨component, member, named, validate⟩,
    (clashes _ _).2.mpr ⟨operation, listed, .query, typed, rfl, validates, parameter⟩⟩

end ApiScaffold.Server
