import ApiScaffold.Proofs.DeclaredOnce
import ApiScaffold.Proofs.EmittedNames
import ApiScaffold.Proofs.ImportAliases
import ApiScaffold.Proofs.ShortDocuments

/-!
Aliases of imports and declared names, which share the scope of a package. Aliases are kept apart
from each other only. The packages that generated programs use by themselves have aliases that nothing
is declared as: these start with a small letter, and the few declared names that do so end in another
way. So only a package that comes with the document or with the configuration can clash.
-/

namespace ApiScaffold.Go

open Source
open Identifier (StartsLarge Unbroken Clean IsEnding)

namespace Package

/-- The packages that generated programs use by themselves. -/
def generated : List String := errors :: runtime

/-- No import of a package that generated programs use by themselves can have the name. -/
def Apart (name : String) : Prop :=
  ∀ path ∈ generated, ∀ count, Imports.candidate (Imports.baseAlias aliases path) count ≠ name

def isLarge (name : String) : Bool := name.toList.head?.any fun first => !Text.isAsciiLower first

theorem is_large_append {first : String} (large : isLarge first = true) (second : String) :
    isLarge (first ++ second) = true := by
  unfold isLarge at *
  rw [String.toList_append]
  cases chars : first.toList with
  | nil =>
      rw [chars] at large
      cases large
  | cons c rest =>
      rw [chars] at large
      exact large

theorem is_large_of {name : String} (given : name ≠ "") (large : StartsLarge name.toList) :
    isLarge name = true := by
  unfold isLarge
  cases chars : name.toList with
  | nil => exact absurd (String.toList_inj.mp chars) given
  | cons c rest =>
      rw [List.head?_cons, Option.any_some, large c rest chars]
      rfl

/-- A number is put behind the base, so a candidate starts as its base does. -/
theorem candidate_not_large {base : String} (small : isLarge base = false) (given : base ≠ "")
    (count : Nat) : isLarge (Imports.candidate base count) = false := by
  cases count with
  | zero => exact small
  | succ count =>
      rw [Imports.candidate]
      unfold isLarge at *
      rw [String.toList_append]
      cases chars : base.toList with
      | nil => exact absurd (String.toList_inj.mp chars) given
      | cons c rest =>
          rw [chars] at small
          exact small

theorem bases_small : ∀ path ∈ generated,
    isLarge (Imports.baseAlias aliases path) = false ∧ Imports.baseAlias aliases path ≠ "" := by
  decide

theorem Apart.of_large {name : String} (large : isLarge name = true) : Apart name := by
  rintro path listed count rfl
  obtain ⟨small, given⟩ := bases_small path listed
  rw [candidate_not_large small given] at large
  cases large

/-- A candidate is the base itself, or it ends in a digit. -/
theorem Apart.of_last {name : String}
    (last : name.toList.getLast?.any Text.isAsciiDigit = false)
    (other : ∀ path ∈ generated, Imports.baseAlias aliases path ≠ name) : Apart name := by
  rintro path listed count rfl
  cases count with
  | zero => exact other path listed rfl
  | succ count =>
      rw [Imports.candidate_ends] at last
      cases last

def lastWords : List String :=
  ["Regex", "Pattern", "Response", "Builder", "Security", "Request", "Service", "Router"]

theorem last_words_end : ∀ word ∈ lastWords, IsEnding word.toList ∧ Unbroken word.toList ∧
    ∀ keyword ∈ keywords, ¬ word.toList.drop 1 <:+ keyword.toList := by
  unfold Unbroken
  decide

theorem bases_end_otherwise : ∀ path ∈ generated, ∀ word ∈ lastWords,
    ¬ word.toList.drop 1 <:+ (Imports.baseAlias aliases path).toList := by decide

theorem Apart.of_ending {name word : String} (listed : word ∈ lastWords)
    (ends : word.toList.drop 1 <:+ name.toList) : Apart name := by
  have letters : ∀ word ∈ lastWords, word.toList.drop 1 ≠ [] ∧
      (word.toList.drop 1).getLast?.any Text.isAsciiDigit = false := by decide
  obtain ⟨given, last⟩ := letters word listed
  apply Apart.of_last
  · obtain ⟨front, same⟩ := ends
    rw [← same, List.getLast?_append_of_ne_nil _ given]
    exact last
  · rintro path among rfl
    exact bases_end_otherwise path among word listed ends

theorem Apart.of_word {name word : String} (listed : word ∈ lastWords) : Apart (name ++ word) := by
  apply Apart.of_ending listed
  rw [String.toList_append]
  exact (List.drop_suffix 1 _).trans (List.suffix_append _ _)

/-- The variable for a name that ends in such a word. -/
theorem Apart.of_variable {name word : String} (clean : Clean name) (listed : word ∈ lastWords) :
    Apart (variableName (name ++ word)) := by
  obtain ⟨ends, plain, apart⟩ := last_words_end word listed
  exact .of_ending listed (variable_name_camel clean.unbroken ends plain apart).2

end Package

/-- Nothing that the part declares has the name of such an import. -/
structure Part.Apart (part : Part) : Prop where
  names : ∀ name ∈ part.introduces, Package.Apart name

namespace Part.Apart

variable {first second : Part}

theorem empty : Part.Apart {} := ⟨List.forall_mem_nil _⟩

theorem of_taken {part : Part} (accounted : part.Accounted)
    (names : ∀ name ∈ part.taken, Package.Apart name) : part.Apart :=
  ⟨fun name member => names name (accounted.subperm.subset member)⟩

theorem append (here : first.Apart) (there : second.Apart) : (first ++ second).Apart := by
  constructor
  rw [introduces_append, List.forall_mem_append]
  exact ⟨here.names, there.names⟩

theorem join_map {α : Type} {items : List α} {parts : α → Part}
    (each : ∀ item ∈ items, (parts item).Apart) : (Part.join (items.map parts)).Apart := by
  induction items with
  | nil => exact empty
  | cons item rest induction =>
      obtain ⟨own, others⟩ := List.forall_mem_cons.mp each
      exact append own (induction others)

end Part.Apart

end ApiScaffold.Go

namespace ApiScaffold.Blueprint

open Go.Package (isLarge is_large_append is_large_of)

theorem normalised_large {name : String} (given : Identifier.normalise name ≠ "") :
    isLarge (Identifier.normalise name) = true := by
  refine is_large_of given ?_
  rw [Identifier.normalise, String.toList_ofList]
  exact Identifier.normalise_chars_start_large _

theorem exported_large {name : String} (given : Identifier.exported name ≠ "") :
    isLarge (Identifier.exported name) = true := by
  unfold Identifier.exported at *
  dsimp only at *
  split
  · exact is_large_append (by decide) _
  · rename_i letter
    rw [if_neg letter] at given
    exact normalised_large given

theorem Operation.Drafted.name_large {operation : Operation} (drafted : operation.Drafted) :
    isLarge operation.name = true := by
  have given := drafted.name_ne_empty
  rw [drafted.named] at given ⊢
  exact normalised_large given

/-- Names of components start as the key of a schema or as the name of an operation does. -/
theorem Program.Drafted.component_large {program : Program} (drafted : program.Drafted)
    (given : ∀ component ∈ program.components.values, component.name ≠ "") :
    ∀ component ∈ program.components.values, isLarge component.name = true := by
  refine @Program.Drafted.names_hold _ drafted (fun name => isLarge name = true) (fun _ => True)
    (fun identifiers hint name inside start beneath => ?_) (fun _ _ _ _ => trivial) ?_
  · exact @Beneath.hands_on (fun name => isLarge name = true) (fun _ => True)
      (fun _ second large _ => is_large_append large second) (fun _ _ => trivial)
      (fun _ => trivial) _ _ _ inside start beneath
  · intro hint root
    cases root with
    | declared component member key origin named =>
        have filled := given component member
        rw [named] at filled ⊢
        exact exported_large filled
    | handed operation member hint hands =>
        have large := (drafted.operations operation member).name_large
        cases hands <;> simp only [String.append_assoc] <;> exact is_large_append large _

end ApiScaffold.Blueprint

namespace ApiScaffold.Server

open Blueprint Go Source
open Package (Apart isLarge is_large_append)

theorem patterns_apart {owner : String} {patterns : List PatternVariable}
    (names : ∀ stored ∈ patterns, Apart stored.name) :
    (PatternVariable.part owner patterns).Apart := by
  refine .of_taken (.of_eq (pattern_part_introduces owner patterns)) ?_
  unfold PatternVariable.part
  split
  · exact List.forall_mem_nil _
  · simp only [Part.taken, List.map_map, List.forall_mem_map]
    exact names

section Components

variable (outline : Outline) {component : Component}

theorem component_patterns_apart (clean : Identifier.Clean component.name) :
    ∀ stored ∈ Component.patterns outline component, Apart stored.name := by
  intro stored member
  obtain ⟨field, _, among⟩ := List.mem_flatMap.mp member
  have named (word : String) (listed : word ∈ Package.lastWords) : Apart
      (variableName (component.name ++ Identifier.exported field.jsonName ++ word)) :=
    .of_variable (clean.append (Identifier.exported_clean _)) listed
  rcases List.mem_append.mp among with regex | pattern
  · obtain ⟨text, _, rfl⟩ := Option.map_eq_some_iff.mp (Option.mem_toList.mp regex)
    dsimp only
    exact named "Regex" (by decide)
  · split at pattern
    · unfold Component.patternVariable at pattern
      split at pattern
      · obtain ⟨text, _, rfl⟩ := Option.map_eq_some_iff.mp (Option.mem_toList.mp pattern)
        dsimp only [Component.patternName]
        exact named "Pattern" (by decide)
      · cases pattern
    · cases pattern

theorem struct_part_apart (comment : List String) {fields : List (Blueprint.Field Shape)}
    (required : List String) (same : component.shape.fields = fields)
    (name : Apart component.name) (clean : Identifier.Clean component.name) :
    (Component.structPart outline component comment fields required).Apart := by
  have patterns := component_patterns_apart outline clean
  unfold Component.patterns at patterns
  rw [same] at patterns
  unfold Component.structPart
  refine .append (.append (.append ⟨List.forall_mem_singleton.mpr name⟩
    (patterns_apart patterns)) ⟨?_⟩) ?_
  · rw [decoder_part_introduces]
    exact List.forall_mem_nil _
  · split
    · exact ⟨List.forall_mem_nil _⟩
    · exact .empty

theorem component_part_apart (large : isLarge component.name = true)
    (clean : Identifier.Clean component.name) : (Component.part outline component).Apart := by
  have name : Apart component.name := .of_large large
  refine .append ⟨List.forall_mem_nil _⟩ ?_
  unfold Component.shapePart
  split
  · exact ⟨List.forall_mem_singleton.mpr name⟩
  · rename_i object
    exact struct_part_apart outline _ _ (by rw [object]; rfl) name clean
  · constructor
    rw [enum_part_introduces, List.forall_mem_cons]
    simp only [Part.taken, Component.enumPart, List.map_map, List.forall_mem_map]
    exact ⟨name, fun member _ => .of_large (is_large_append large member.tag)⟩
  · exact ⟨List.forall_mem_singleton.mpr name⟩

end Components

theorem outcome_part_apart : Outcome.part.Apart := by
  have large : ∀ name ∈ Outcome.names, isLarge name = true := by decide
  refine .of_taken outcome_part_accounted ?_
  simp only [Part.taken, Outcome.part, List.map_map, List.forall_mem_map]
  exact fun name listed => .of_large (large name listed)

theorem components_part_apart {program : Program} (drafted : program.Drafted)
    (given : ∀ component ∈ program.components.values, component.name ≠ "") :
    (componentsPart program).Apart :=
  outcome_part_apart.append (.join_map fun component member =>
    component_part_apart _ (drafted.component_large given component member)
      (drafted.component_clean component member))

/-- Fixed names that start with a small letter end in a letter and differ from all bases. -/
theorem fixed_apart {names : List String} (either : ∀ name ∈ names, isLarge name = true ∨
      name.toList.getLast?.any Text.isAsciiDigit = false ∧
        ∀ path ∈ Package.generated, Imports.baseAlias Package.aliases path ≠ name) :
    ∀ name ∈ names, Apart name := by
  intro name listed
  rcases either name listed with large | ⟨last, other⟩
  · exact .of_large large
  · exact .of_last last other

theorem reply_part_apart : Reply.part.Apart := by
  refine .of_taken reply_part_accounted ?_
  simp only [Part.taken, Reply.part, List.map_map, List.forall_mem_map]
  exact fixed_apart (by decide)

theorem security_part_apart (schemes : List SecurityScheme) : (Security.part schemes).Apart := by
  refine .of_taken (security_part_accounted schemes) ?_
  unfold Part.taken
  rw [security_declared]
  simp only [List.forall_mem_append, List.forall_mem_map]
  refine ⟨⟨fixed_apart (by decide), fun scheme _ => ?_⟩, fun scheme _ => ?_⟩
  · exact .of_large (is_large_append (by decide) _)
  · have word : Identifier.Clean "Extract" := by
      unfold Identifier.Clean Identifier.CleanChars
      decide
    exact .of_variable (word.append (Identifier.exported_clean _)) (by decide)

theorem service_part_apart (tag : String) (operations : List Operation) :
    (Service.part tag operations).Apart := by
  refine .append (.of_taken (.of_eq rfl) ?_) (.join_map fun operation _ => ⟨List.forall_mem_nil _⟩)
  have words : ∀ word ∈ ["Service", "Router"], word ∈ Package.lastWords := by decide
  simp only [Part.taken, List.map_cons, List.map_nil, List.forall_mem_cons, List.not_mem_nil,
    false_imp_iff, implies_true, and_true]
  exact ⟨.of_word (words "Service" (by decide)), .of_word (words "Router" (by decide)),
    .of_large (is_large_append (is_large_append (by decide) _) _)⟩

section Operations

variable (outline : Outline) {operation : Operation} (drafted : operation.Drafted)

include drafted

theorem place_part_apart (place : Place) : (Request.placePart outline operation place).Apart := by
  refine .of_taken (place_part_accounted outline operation place) ?_
  have validator : (Request.placeValidator outline operation place).taken = [] := by
    unfold Request.placeValidator
    dsimp only
    split <;> rfl
  unfold Request.placePart
  split
  · exact List.forall_mem_nil _
  · rw [Part.taken_append, validator, List.append_nil]
    exact List.forall_mem_singleton.mpr
      (.of_large (is_large_append (is_large_append drafted.name_large _) _))

theorem request_patterns_apart : (Request.patternPart outline operation).Apart := by
  refine patterns_apart fun stored member => ?_
  obtain ⟨parameter, _, among⟩ := List.mem_flatMap.mp member
  unfold Request.patternVariables at among
  dsimp only at among
  have named (word : String) (listed : word ∈ Package.lastWords) :
      Apart (Request.patternName operation parameter word) :=
    .of_variable ((drafted.name_clean.append (title_clean _)).append
      (Identifier.exported_clean _)) listed
  rcases List.mem_append.mp among with regex | pattern
  · obtain ⟨text, _, rfl⟩ := Option.map_eq_some_iff.mp (Option.mem_toList.mp regex)
    dsimp only
    exact named "Regex" (by decide)
  · split at pattern
    · obtain ⟨text, _, rfl⟩ := Option.map_eq_some_iff.mp (Option.mem_toList.mp pattern)
      dsimp only
      exact named "Pattern" (by decide)
    · cases pattern

/-- A type of requests starts as its operation does and ends in a word of its own. -/
theorem variant_named {variant : RequestVariant}
    (member : variant ∈ RequestVariant.ofOperation operation) :
    isLarge variant.typeName = true ∧ ∃ front, variant.typeName = front ++ "Request" := by
  have large := drafted.name_large
  unfold RequestVariant.ofOperation at member
  split at member
  · obtain ⟨content, _, rfl⟩ := List.mem_map.mp member
    exact ⟨is_large_append (is_large_append large _) _, _, rfl⟩
  · obtain rfl := List.mem_singleton.mp member
    exact ⟨is_large_append large _, _, rfl⟩

theorem variant_part_apart {variant : RequestVariant}
    (member : variant ∈ RequestVariant.ofOperation operation) :
    (Request.variantPart outline operation variant).Apart := by
  obtain ⟨large, front, named⟩ := variant_named drafted member
  have parser : Apart variant.parser := by
    rw [RequestVariant.parser, named, ← String.append_assoc]
    exact .of_word (by decide)
  constructor
  change ∀ name ∈ [variant.typeName, variant.parser], Apart name
  exact List.forall_mem_cons.mpr ⟨.of_large large, List.forall_mem_singleton.mpr parser⟩

theorem request_part_apart : (Request.part outline operation).Apart := by
  unfold Request.part
  refine .append (.append (.append ?_ ?_) ⟨List.forall_mem_nil _⟩) ?_
  · exact .join_map fun place _ => place_part_apart outline drafted place
  · exact request_patterns_apart outline drafted
  · exact .join_map fun variant member => variant_part_apart outline drafted member

omit drafted in
theorem stage_apart (kind : String) {name stage : String} (clean : Identifier.Clean name)
    (listed : kind ∈ ["Response", "HeadersResponse", "BodyResponse"])
    (same : kind ++ "Builder" = stage) : Apart (variableName (name ++ stage)) := by
  have words : ∀ word ∈ ["Response", "HeadersResponse", "BodyResponse"],
      Identifier.Clean word := by
    unfold Identifier.Clean Identifier.CleanChars
    decide
  rw [← same, ← String.append_assoc]
  exact .of_variable (clean.append (words kind listed)) (by decide)

theorem content_part_apart {response : Response} (answers : response ∈ operation.responses)
    {content : BodyContent} (member : content ∈ response.contents) (stage : String) :
    (Builder.contentPart operation response.status stage content).Apart := by
  have tagged := (drafted.name_clean.append (label_clean response.status)).append
    (drafted.response_clean answers member)
  have body : Apart (Builder.bodyStage operation response.status content) :=
    stage_apart "Response" tagged (by decide) (by decide)
  have final : Apart (Builder.finalStage operation response.status content) :=
    stage_apart "BodyResponse" tagged (by decide) (by decide)
  refine .of_taken (content_part_accounted _ _ _ _) ?_
  simp only [Part.taken, Builder.contentPart, List.map_cons, List.map_nil]
  exact List.forall_mem_cons.mpr ⟨body, List.forall_mem_singleton.mpr final⟩

theorem response_part_apart (program : Program) {response : Response}
    (answers : response ∈ operation.responses) :
    (Builder.responsePart program operation response).Apart := by
  have labelled := drafted.name_clean.append (label_clean response.status)
  have status : Apart (Builder.statusStage operation response.status) :=
    stage_apart "Response" labelled (by decide) (by decide)
  have struct : Apart (Builder.headersStruct operation response.status) :=
    .of_large (is_large_append (is_large_append drafted.name_large _) _)
  have headers : Apart (Builder.headersStage operation response.status) :=
    stage_apart "HeadersResponse" labelled (by decide) (by decide)
  unfold Builder.responsePart
  dsimp only
  refine .append (.append (.of_taken (status_part_accounted _ _) ?_) ?_) ?_
  · simp only [Part.taken, Builder.statusPart, List.map_cons, List.map_nil]
    exact List.forall_mem_singleton.mpr status
  · split
    · refine .of_taken (headers_part_accounted _ _ _) ?_
      simp only [Part.taken, Builder.headersPart, List.map_cons, List.map_nil]
      exact List.forall_mem_cons.mpr ⟨struct, List.forall_mem_singleton.mpr headers⟩
    · exact .empty
  · split
    · exact ⟨List.forall_mem_nil _⟩
    · exact .join_map fun content member => content_part_apart drafted answers member _

theorem builder_part_apart (program : Program) : (Builder.part program operation).Apart := by
  have name := drafted.name_clean
  have large := is_large_append drafted.name_large
  refine .append (.of_taken (start_part_accounted operation) ?_)
    (.join_map fun response answers => response_part_apart drafted program answers)
  have word : Identifier.Clean "Response" := by
    unfold Identifier.Clean Identifier.CleanChars
    decide
  have wrapper : Apart (Builder.wrapper operation) := .of_variable name (by decide)
  have start : Apart (Builder.start operation) := .of_variable (name.append word) (by decide)
  have shown : Apart (Builder.interface operation) := .of_large (large _)
  have constructor' : Apart (Builder.constructor operation) :=
    .of_large (is_large_append (large _) _)
  simp only [Part.taken, Builder.startPart, List.map_cons, List.map_nil, List.forall_mem_cons,
    List.not_mem_nil, false_imp_iff, implies_true, and_true]
  exact ⟨shown, wrapper, constructor', start⟩

end Operations

theorem router_part_apart {program : Program} (drafted : program.Drafted) :
    (routerPart program).Apart := by
  unfold routerPart
  dsimp only
  refine .append (.append (.append (.append (.append ?_ ?_) ?_) ?_) ?_) ?_
  · exact reply_part_apart
  · exact ⟨List.forall_mem_singleton.mpr (.of_large (by decide))⟩
  · exact security_part_apart _
  · exact .join_map fun operation member =>
      (request_part_apart _ (drafted.operations operation member)).append
        (builder_part_apart (drafted.operations operation member) _)
  · exact .join_map fun entry _ => service_part_apart entry.1 entry.2
  · exact ⟨List.forall_mem_singleton.mpr (.of_large (by decide))⟩

/-- The names that are declared in the package of a file, in both files if they are of one package. -/
def packageNames (program : Program) (part : Part) : List String :=
  if program.config.componentsImportPath.isNone then
    (componentsPart program).introduces ++ (routerPart program).introduces
  else part.introduces

/-- The alias of an import of a file is declared in its package. -/
def ImportClashes (program : Program) (scope : Scope) (part : Part) (path : String) : Prop :=
  path ∈ Registry.keys (importsOf Package.aliases scope part.mentions) ∧
    (importsOf Package.aliases scope part.mentions).localName path ∈ packageNames program part

def fileParts (program : Program) : List (Scope × Part) := [
  (Artifact.componentsScope program.config, componentsPart program),
  (Artifact.routerScope program.config, routerPart program)]

section Compiled

variable {document : OpenApi.Document} {config : Config} {program : Program}
  (compiled : (compile document config).1 = .ok program)

include compiled

theorem package_names_apart : ∀ file ∈ fileParts program,
    ∀ name ∈ packageNames program file.2, Apart name := by
  have drafted := compiled_drafted compiled
  have given : ∀ component ∈ program.components.values, component.name ≠ "" := by
    intro component member
    obtain ⟨entry, listed, rfl⟩ := List.mem_map.mp member
    obtain ⟨same, filled, _⟩ := (compiled_keeps compiled).keyed entry listed
    exact same ▸ filled
  have components := (components_part_apart drafted given).names
  have router := (router_part_apart drafted).names
  unfold packageNames fileParts
  split
  · exact fun _ _ => List.forall_mem_append.mpr ⟨components, router⟩
  · exact List.forall_mem_cons.mpr ⟨components, List.forall_mem_singleton.mpr router⟩

/-- The packages that generated programs use by themselves clash with no declaration of either file.
So the imports of a file clash with none iff those do not that the document or the configuration
brings along. -/
theorem imports_apart_iff : ∀ file ∈ fileParts program,
    ((∀ path, ¬ ImportClashes program file.1 file.2 path) ↔
      ∀ path ∉ Package.generated, ¬ ImportClashes program file.1 file.2 path) := by
  intro file listed
  refine ⟨fun free path _ => free path, fun free path clashes => ?_⟩
  have foreign : path ∉ Package.generated := by
    intro used
    obtain ⟨imported, declared⟩ := clashes
    obtain ⟨count, named⟩ := local_name_candidate imported
    exact package_names_apart compiled file listed _ declared path used count named.symm
  exact free path foreign clashes

end Compiled

def invoice : OpenApi.Document where
  specification := {
    openapi := "3.0.0"
    components := { schemas := [("invoice", .object {
      type := some (.single "object")
      properties := [("code", .object {
        type := some (.single "string")
        extensions := [("x-go-type", .string "example.com/response.Code")] })] })] } }
  raw := .null

theorem invoice_import_clashes :
    ∃ program artifacts, (compile invoice { package := "api", path := "" }).1 = .ok program ∧
      Artifact.all program = .ok artifacts ∧
      ImportClashes program (Artifact.componentsScope program.config) (componentsPart program)
        "example.com/response" ∧
      ¬ ∀ path ∉ Package.generated, ¬ ImportClashes program
        (Artifact.componentsScope program.config) (componentsPart program) path := by
  have holds : (compileShort invoice { package := "api", path := "" }).any fun program =>
      let imports := importsOf Package.aliases (Artifact.componentsScope program.config)
        (componentsPart program).mentions
      (Registry.keys imports).contains "example.com/response" &&
        (packageNames program (componentsPart program)).contains
          (imports.localName "example.com/response") &&
        decide ((componentsPart program).taken ++ (routerPart program).taken).Nodup := by
    decide +kernel
  obtain ⟨program, result, holds⟩ := compiled_of_short holds
  simp only [Bool.and_eq_true, List.contains_iff_mem, decide_eq_true_eq] at holds
  obtain ⟨⟨imported, declared⟩, distinct⟩ := holds
  obtain ⟨artifacts, emitted⟩ := Artifact.succeeds_of_distinct distinct
  have clashes : ImportClashes program (Artifact.componentsScope program.config)
      (componentsPart program) "example.com/response" := ⟨imported, declared⟩
  have apart := imports_apart_iff result _ List.mem_cons_self
  exact ⟨program, artifacts, result, emitted, clashes,
    fun free => apart.mpr free "example.com/response" clashes⟩

end ApiScaffold.Server
