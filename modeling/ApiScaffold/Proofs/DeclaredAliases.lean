import ApiScaffold.Proofs.ShortDocuments
import ApiScaffold.Proofs.TypesInPlace

/-!
One type for a schema, whether it is spelt out or declared under a key. A schema that stays where it
is spelt out becomes a synonym under its key, of the very type that it has in place, with one
exception. Where a schema says nothing of its values, they are of any type as long as it is spelt
out; but what is declared under the key is a new type, a struct without members.
-/

namespace ApiScaffold

namespace Go

open Source

/-- What is declared of a type without members: another name for a type, or a new type like it. -/
inductive Definition where
  | synonym (type : Code)
  | new (type : Code)

def Form.definition? : Form → Option (String × Definition)
  | .synonym name known => some (name, .synonym known)
  | .type name known => some (name, .new known)
  | _ => none

namespace Part

def definitions (part : Part) : List (String × Definition) :=
  part.declarations.filterMap (·.form.definition?)

theorem definitions_append (first second : Part) :
    (first ++ second).definitions = first.definitions ++ second.definitions :=
  List.filterMap_append

theorem definitions_join (parts : List Part) :
    (join parts).definitions = parts.flatMap definitions := by
  unfold definitions
  rw [declarations_join, List.filterMap_flatMap]

end Part

end Go

namespace Server

open Blueprint Go Source

/-- How the type of a component is declared if it has no members. -/
def definitionOf : Shape → Option Definition
  | .object [] _ .forbidden => some (.new "struct\x7b\x7d")
  | .object (_ :: _) _ _ => none
  | .enum enumeration => some (.new (primitiveType enumeration.base).code)
  | shape => some (.synonym (typeOf shape).code)

theorem definition_in_place {shape : Shape} (stays : shape.isInPlace = true) :
    definitionOf shape = some (if shape.isAnything then .new "struct\x7b\x7d"
      else .synonym (typeOf shape).code) := by
  cases shape with
  | enum => cases stays
  | object fields required additional =>
      cases fields with
      | nil => cases additional <;> rfl
      | cons first rest => cases stays
  | _ => rfl

theorem anything_typed {shape : Shape} (anything : shape.isAnything = true) :
    typeOf shape = .anything := by
  unfold Shape.isAnything at anything
  split at anything
  · rfl
  · cases anything

theorem struct_part_definitions (outline : Outline) (component : Component) (comment : List String)
    (fields : List (Blueprint.Field Shape)) (required : List String) :
    (Component.structPart outline component comment fields required).definitions = [] := by
  obtain ⟨others, declared, kinds⟩ :=
    struct_part_declarations outline component comment fields required
  have silent : others.filterMap (·.form.definition?) = [] := by
    apply List.filterMap_eq_nil_iff.mpr
    intro declaration listed
    rcases kinds declaration listed with ⟨_, same⟩ | ⟨_, _, _, _, same⟩ <;> rw [same] <;> rfl
  rw [Part.definitions, declared]
  exact silent

theorem component_definitions (outline : Outline) (component : Component) :
    (Component.part outline component).definitions =
      (definitionOf component.shape).toList.map (component.name, ·) := by
  have own (comment : List String) : (Component.shapePart outline component comment).definitions =
      (definitionOf component.shape).toList.map (component.name, ·) := by
    unfold Component.shapePart
    split
    case h_1 same =>
      rw [same]
      rfl
    case h_2 same =>
      rw [same, struct_part_definitions]
      rfl
    case h_3 same =>
      rw [same]
      rfl
    case h_4 bare filled listed =>
      have synonym : definitionOf component.shape =
          some (.synonym (typeOf component.shape).code) := by
        unfold definitionOf
        split
        · rename_i same
          exact absurd same (bare _)
        · rename_i same
          exact absurd same (filled _ _ _ _)
        · rename_i same
          exact absurd same (listed _)
        · rfl
      rw [synonym]
      rfl
  unfold Component.part
  dsimp only
  rw [Part.definitions_append, own]
  rfl

/-- In the file of components, types without members are those of components, but for one. -/
theorem components_define_iff {program : Program} {name : String} {definition : Definition} :
    (name, definition) ∈ (componentsPart program).definitions ↔
      (name = "RequestProcessingResultType" ∧ definition = .new "uint8") ∨
        ∃ component ∈ program.components.values, component.name = name ∧
          definitionOf component.shape = some definition := by
  have runtime : Outcome.part.definitions =
    [("RequestProcessingResultType", .new "uint8")] := rfl
  unfold componentsPart
  dsimp only
  rw [Part.definitions_append, runtime, Part.definitions_join, List.flatMap_map, List.mem_append,
    List.mem_singleton, Prod.mk.injEq]
  simp only [component_definitions, List.mem_flatMap, List.mem_map, Option.mem_toList,
    Prod.mk.injEq]
  apply or_congr_right
  constructor
  · rintro ⟨component, member, _, given, named, rfl⟩
    exact ⟨component, member, named, given⟩
  · rintro ⟨component, member, named, given⟩
    exact ⟨component, member, definition, given, named, rfl⟩

section Declared

variable {specification : OpenApi.Specification} {whole : Effects} {program : Program}
  (given : ProgramGiven specification whole program)

include given

theorem declared_component {key : String} {schema : OpenApi.Schema}
    (declared : specification.components.schemas.lookup key = some (.object schema)) :
    ∃ component ∈ program.components.values, component.name = Identifier.exported key ∧
      ∃ location, (shapePlan specification .declared (Identifier.exported key) location
        schema).Gives whole component.shape := by
  obtain ⟨component, registered, named, source⟩ := given.declared _ (mem_of_lookup declared)
  cases source with
  | schema gives =>
      rw [named] at gives
      exact ⟨component, given.mem_values_iff.mpr registered, named, _, gives⟩

theorem component_synonym_iff {component : Component}
    (member : component ∈ program.components.values) {known : Code} :
    (component.name, .synonym known) ∈ (componentsPart program).definitions ↔
      definitionOf component.shape = some (.synonym known) := by
  rw [components_define_iff]
  constructor
  · rintro (⟨_, ⟨⟩⟩ | ⟨other, among, same, stated⟩)
    rwa [given.component_unique among member same] at stated
  · exact fun stated => .inr ⟨component, member, rfl, stated⟩

end Declared

/-- Inline or declared, a schema that stays in place has one type: under its key it is a synonym of
the type that it has where it is spelt out, unless it says nothing of its values. -/
theorem declared_alias_iff {document : OpenApi.Document} {config : Config} {program : Program}
    (compiled : (compile document config).1 = .ok program) {key : String}
    {schema : OpenApi.Schema}
    (declared : document.specification.components.schemas.lookup key = some (.object schema))
    (stays : staysInPlace schema = true) :
    ∃ type, TypedInPlace document.specification (Identifier.exported key) schema type ∧
      (∀ specification name other, TypedInPlace specification name schema other →
        type.Renamed (Identifier.exported key) name other) ∧
      (∀ location, referenceShape document.specification (OpenApi.schemasPlace ++ key) location =
        .ok (.named (Identifier.exported key))) ∧
      (∀ known, (Identifier.exported key, .synonym known) ∈ (componentsPart program).definitions ↔
        saysNothing schema = false ∧ known = type.code) ∧
      (saysNothing schema = true → type = .anything ∧
        (Identifier.exported key, .new "struct\x7b\x7d") ∈ (componentsPart program).definitions) := by
  have lowered := compiled_iff.mp compiled
  obtain ⟨whole, given⟩ := lowered_given lowered
  obtain ⟨component, member, named, location, gives⟩ := declared_component given declared
  have silent := declared_says_nothing gives
  have definition := definition_in_place ((declared_stays gives).trans stays)
  rw [silent] at definition
  have alike (specification : OpenApi.Specification) (name : String) (other : TypeExpression)
      (typed : TypedInPlace specification name schema other) :
      (typeOf component.shape).Renamed (Identifier.exported key) name other := by
    obtain ⟨location, draft, shape, reached, ran, rfl⟩ := typed
    rw [placement_immaterial stays] at ran
    obtain ⟨effects, planned, _⟩ := (shape_plays schema .declared name location).ran trivial ran
    exact typed_alike schema stays gives ⟨effects, planned, .refl effects⟩
  refine ⟨typeOf component.shape, ?_, alike, ?_, ?_, ?_⟩
  · obtain ⟨draft, shape, reached, ran⟩ := declared_shape_ran lowered declared
    rw [← placement_immaterial stays] at ran
    have typed : TypedInPlace document.specification (Identifier.exported key) schema
        (typeOf shape) := ⟨_, draft, shape, reached, ran, rfl⟩
    rwa [(alike _ _ _ typed).eq]
  · intro location
    unfold referenceShape
    rw [Text.dropStart?_eq_some_iff.mpr rfl]
    dsimp only
    rw [declared, Option.isSome_some, if_pos rfl]
  · intro known
    rw [← named, component_synonym_iff given member, definition]
    cases saysNothing schema <;> simp [eq_comm]
  · intro nothing
    rw [nothing, if_pos rfl] at definition
    exact ⟨anything_typed (silent.trans nothing),
      components_define_iff.mpr (.inr ⟨component, member, named, definition⟩)⟩

def parcels : OpenApi.Document where
  specification := {
    openapi := "3.0.0"
    components := { schemas := [
      ("parcel", .object parcel),
      ("note", .object {})] } }
  raw := .null
where
  parcel : OpenApi.Schema := {
    type := some (.single "object")
    properties := [
      ("note", .object {}),
      ("label", .reference "#/components/schemas/note")] }

/-- The note of a parcel is of any type, but notes of their own are structs without members. -/
theorem parcels_tell_notes_apart : ∃ program,
    (compile parcels { package := "api", path := "" }).1 = .ok program ∧
    parcels.specification.components.schemas.lookup "note" = some (.object {}) ∧
    staysInPlace {} = true ∧
    TypedInPlace parcels.specification "ParcelNote" {} .anything ∧
    (∀ known, ("Note", .synonym known) ∉ (componentsPart program).definitions) ∧
    ("Note", .new "struct\x7b\x7d") ∈ (componentsPart program).definitions := by
  have holds : (compileShort parcels { package := "api", path := "" }).any fun _ => true := by
    decide +kernel
  obtain ⟨program, compiled, _⟩ := compiled_of_short holds
  have stays : staysInPlace {} = true := by decide +kernel
  have nothing : saysNothing {} = true := by decide +kernel
  have name : Identifier.exported "note" = "Note" := by decide
  obtain ⟨type, _, _, _, synonym, new⟩ :=
    @declared_alias_iff _ _ _ compiled "note" _ rfl stays
  rw [name] at synonym new
  refine ⟨program, compiled, rfl, stays, ⟨"", {}, .anything, {}, rfl, rfl⟩, ?_, (new nothing).2⟩
  intro known declared
  exact Bool.false_ne_true (((synonym known).mp declared).1.symm.trans nothing)

end Server

end ApiScaffold
