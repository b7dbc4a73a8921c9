import ApiScaffold.Proofs.ShapePlan
import ApiScaffold.Proofs.Folding
import ApiScaffold.Proofs.SimilarSpecification
import Mathlib.Data.List.Pairwise

/-!
What is read off a schema besides the schemas inside of it: its extensions, its limits, its
enumeration and its plain type. None of it depends on the order in which members are written.
-/

namespace ApiScaffold.OpenApi.Extensions

abbrev Slot := Json → Option (Extensions → Extensions)

def Slot.storing {α : Type} (read : Json → Except Diagnostic α)
    (store : α → Extensions → Extensions) : Slot :=
  fun value => (read value).toOption.map store

def slots (location : String) : List (String × Slot) := [
  ("x-go-type", .storing (qualified location "x-go-type") fun name extensions =>
    { extensions with goType := some name }),
  ("x-go-map-type", .storing (text location "x-go-map-type") fun name extensions =>
    { extensions with mapType := some name }),
  ("x-go-type-string-parse", .storing (qualified location "x-go-type-string-parse")
    fun name extensions => { extensions with stringParse := some name }),
  ("x-go-pointer", .storing (flag location "x-go-pointer") fun pointer extensions =>
    { extensions with pointer }),
  ("x-go-regex", .storing (fun value => do
      let pattern ← text location "x-go-regex" value
      checkPattern pattern location
      return pattern) fun pattern extensions => { extensions with regex := some pattern }),
  ("x-go-string-trimmable", .storing (flag location "x-go-string-trimmable")
    fun trimmable extensions => { extensions with trimmable }),
  ("x-go-omitempty", .storing (flag location "x-go-omitempty") fun omitEmpty extensions =>
    { extensions with omitEmpty }),
  ("x-go-skip-validation", .storing (flag location "x-go-skip-validation")
    fun skipValidation extensions => { extensions with skipValidation }),
  ("x-go-skip-security-check", .storing (flag location "x-go-skip-security-check")
    fun skipSecurityCheck extensions => { extensions with skipSecurityCheck })]

def change (location key : String) : Slot :=
  ((slots location).lookup key).getD fun _ => some id

theorem read_member_eq (location : String) (extensions : Extensions) (key : String) (value : Json) :
    (readMember location extensions key value).toOption =
      (change location key value).map fun change => change extensions := by
  unfold readMember
  split
  · change _ = ((qualified location "x-go-type" value).toOption.map _).map _
    cases qualified location "x-go-type" value <;> rfl
  · change _ = ((text location "x-go-map-type" value).toOption.map _).map _
    cases text location "x-go-map-type" value <;> rfl
  · change _ = ((qualified location "x-go-type-string-parse" value).toOption.map _).map _
    cases qualified location "x-go-type-string-parse" value <;> rfl
  · change _ = ((flag location "x-go-pointer" value).toOption.map _).map _
    cases flag location "x-go-pointer" value <;> rfl
  · change _ = (Option.map _ (Except.toOption (text location "x-go-regex" value >>= _))).map _
    cases text location "x-go-regex" value with
    | error _ => rfl
    | ok pattern =>
        -- where an expression stands shows in the message only
        dsimp only [bind, Except.bind]
        rw [checkPattern, checkPattern]
        cases Pattern.isValid pattern <;> rfl
  · change _ = ((flag location "x-go-string-trimmable" value).toOption.map _).map _
    cases flag location "x-go-string-trimmable" value <;> rfl
  · change _ = ((flag location "x-go-omitempty" value).toOption.map _).map _
    cases flag location "x-go-omitempty" value <;> rfl
  · change _ = ((flag location "x-go-skip-validation" value).toOption.map _).map _
    cases flag location "x-go-skip-validation" value <;> rfl
  · change _ = ((flag location "x-go-skip-security-check" value).toOption.map _).map _
    cases flag location "x-go-skip-security-check" value <;> rfl
  · have absent : (slots location).lookup key = none := by
      rw [List.lookup_eq_none_iff]
      simp only [slots, List.forall_mem_cons, bne_iff_ne, ne_eq]
      and_intros <;> first | assumption | exact fun _ member => absurd member List.not_mem_nil
    rw [change, absent]
    rfl

/-- Two changes that may be made in either order. -/
def Commuting (first second : Slot) : Prop :=
  ∀ value value' change change', first value = some change → second value' = some change' →
    ∀ extensions, change' (change extensions) = change (change' extensions)

@[simp] theorem storing_commutes {α β : Type} {read : Json → Except Diagnostic α}
    {read' : Json → Except Diagnostic β} {store : α → Extensions → Extensions}
    {store' : β → Extensions → Extensions}
    (commutes : ∀ first second extensions,
      store' second (store first extensions) = store first (store' second extensions)) :
    Commuting (.storing read store) (.storing read' store') := by
  intro value value' change change' here there extensions
  obtain ⟨first, _, rfl⟩ := Option.map_eq_some_iff.mp here
  obtain ⟨second, _, rfl⟩ := Option.map_eq_some_iff.mp there
  exact commutes first second extensions

theorem slots_commute (location : String) :
    (slots location).Pairwise fun first second => Commuting first.2 second.2 := by
  simp [slots]

theorem changes_commute (location : String) {key key' : String} (differs : key ≠ key') :
    Commuting (change location key) (change location key') := by
  have symmetric : Std.Symm fun first second : String × Slot => Commuting first.2 second.2 :=
    ⟨fun _ _ commuting value value' change change' here there extensions =>
      (commuting value' value change' change there here extensions).symm⟩
  unfold change
  cases here : (slots location).lookup key with
  | none =>
      intro _ _ _ _ same _ _
      cases same
      rfl
  | some slot => cases there : (slots location).lookup key' with
    | none =>
        intro _ _ _ _ _ same _
        cases same
        rfl
    | some slot' =>
        have apart : (key, slot) ≠ (key', slot') := fun same => differs (Prod.mk.inj same).1
        exact (slots_commute location).forall (mem_of_lookup here) (mem_of_lookup there) apart

theorem read_member_alike (location : String) (extensions : Extensions) (key : String)
    {value other : Json} (reordered : value.Reordered other) :
    readMember location extensions key value = readMember location extensions key other := by
  cases reordered with
  | array => unfold readMember; split <;> rfl
  | object => unfold readMember; split <;> rfl
  | _ => rfl

/-- Extensions are read alike, whatever order they are written in. -/
theorem read_alike {members others : Table Json}
    (similar : Table.Similar Json.Reordered members others) (location : String) :
    (read members location).toOption = (read others location).toOption := by
  unfold read
  rw [to_option_foldlM, to_option_foldlM]
  apply eq_of_rel
  have respects (member : String × Json) (state other : Extensions) (same : id state = id other) :
      ((readMember location state member.1 member.2).toOption).map id =
        ((readMember location other member.1 member.2).toOption).map id := by
    rw [id, id] at same
    rw [same]
  refine similar.permuted.foldlM respects ?_ ?_ ?_ rfl
  · intro first here second there apart extensions
    have differs : first.1 ≠ second.1 :=
      fun same => apart (eq_of_same_key similar.distinct here there same)
    have commuting := changes_commute location differs first.2 second.2
    simp only [read_member_eq]
    generalize change location first.1 first.2 = change,
      change location second.1 second.2 = change' at commuting ⊢
    cases change with
    | none => cases change' <;> rfl
    | some change => cases change' with
      | none => rfl
      | some change' =>
          exact congrArg some (commuting change change' rfl rfl extensions)
  · rintro state other state' same rfl
    exact same
  · rintro ⟨key, value⟩ _ ⟨key', value'⟩ keyed state _ rfl
    cases keyed with
    | intro _ reordered => exact rel_of_eq (by rw [read_member_alike location state key reordered])

theorem storing_congr {α : Type} {read other : Json → Except Diagnostic α}
    (store : α → Extensions → Extensions)
    (alike : ∀ value, (read value).toOption = (other value).toOption) :
    Slot.storing read store = Slot.storing other store := by
  funext value
  rw [Slot.storing, Slot.storing, alike]

theorem flag_anywhere (first second key : String) (value : Json) :
    (flag first key value).toOption = (flag second key value).toOption := by
  cases value <;> rfl

theorem text_anywhere (first second key : String) (value : Json) :
    (text first key value).toOption = (text second key value).toOption := by
  cases value with
  | string written =>
      rw [text, text]
      split <;> rfl
  | _ => rfl

theorem qualified_anywhere (first second key : String) (value : Json) :
    (qualified first key value).toOption = (qualified second key value).toOption := by
  rw [qualified, qualified, to_option_bind, to_option_bind, text_anywhere first second]
  congr 1
  funext written
  cases QualifiedName.parse? written <;> rfl

theorem slots_anywhere (first second : String) : slots first = slots second := by
  have pattern {store : String → Extensions → Extensions} :
      Slot.storing (fun value => do
          let pattern ← text first "x-go-regex" value
          checkPattern pattern first
          return pattern) store =
        Slot.storing (fun value => do
          let pattern ← text second "x-go-regex" value
          checkPattern pattern second
          return pattern) store := by
    apply storing_congr
    intro value
    rw [to_option_bind, to_option_bind, text_anywhere first second]
    congr 1
    funext pattern
    rw [checkPattern, checkPattern]
    cases Pattern.isValid pattern <;> rfl
  have name (key : String) {store : QualifiedName → Extensions → Extensions} :=
    storing_congr store (qualified_anywhere first second key)
  have word (key : String) {store : String → Extensions → Extensions} :=
    storing_congr store (text_anywhere first second key)
  have switch (key : String) {store : Bool → Extensions → Extensions} :=
    storing_congr store (flag_anywhere first second key)
  simp only [slots, pattern, name, word, switch]

/-- Extensions are read alike, wherever they stand: the place shows in messages only. -/
theorem read_anywhere (members : Table Json) (first second : String) :
    (read members first).toOption = (read members second).toOption := by
  unfold read
  rw [to_option_foldlM, to_option_foldlM]
  simp only [read_member_eq, change, slots_anywhere first second]

end ApiScaffold.OpenApi.Extensions

namespace ApiScaffold.OpenApi

theorem kind_eq_of_reordered {value other : Json} (reordered : value.Reordered other) :
    value.kind = other.kind := by
  cases reordered <;> rfl

namespace Schema.SimilarParts

variable {schema other : Schema} (parts : schema.SimilarParts other)

include parts

theorem reads {α : Type} (read : Schema → α)
    (plain : ∀ schema : Schema, read schema.outline = read schema) : read schema = read other := by
  rw [← plain schema, ← plain other, parts.outline]

theorem primary_type_eq : schema.primaryType = other.primaryType :=
  parts.reads primaryType fun _ => rfl

theorem is_object_eq : schema.isObject = other.isObject := by
  have types : schema.type = other.type := parts.reads type fun _ => rfl
  rw [isObject, isObject, parts.primary_type_eq, types, parts.properties.permuted.is_empty_eq]

theorem is_array_eq : schema.isArray = other.isArray := parts.reads isArray fun _ => rfl

theorem is_nullable_eq : schema.isNullable = other.isNullable :=
  parts.reads isNullable fun _ => rfl

theorem is_enum_eq : schema.isEnum = other.isEnum := by
  rw [isEnum, isEnum, pairs_is_empty_eq parts.enum]

theorem is_composition_eq : schema.isComposition = other.isComposition := by
  rw [isComposition, isComposition, pairs_is_empty_eq parts.allOf, pairs_is_empty_eq parts.oneOf,
    pairs_is_empty_eq parts.anyOf]

end Schema.SimilarParts

end ApiScaffold.OpenApi

namespace ApiScaffold.Blueprint

open OpenApi (Schema OrRef Extensions Specification Table)

theorem bound_eq {exclusive other : Option Json} (limit : Option Binary64)
    (reordered : Option.Rel Json.Reordered exclusive other) (keyword location : String) :
    boundOf limit exclusive keyword location = boundOf limit other keyword location := by
  cases reordered with
  | none => rfl
  | some known => cases known <;> rfl

theorem literal_eq (base : PrimitiveKind) {value other : Json} (reordered : value.Reordered other) :
    literalOf? base value = literalOf? base other := by
  cases reordered <;> rfl

theorem enum_members_eq (base : PrimitiveKind) (location : String) {values others : List Json}
    (pairs : List.Forall₂ Json.Reordered values others) (known : List EnumMember) (index : Nat) :
    enumMembers base location known index values = enumMembers base location known index others := by
  induction pairs generalizing known index with
  | nil => rfl
  | @cons value other rest rest' reordered _ induction =>
      have literals := literal_eq base reordered
      have kinds := OpenApi.kind_eq_of_reordered reordered
      cases reordered with
      | null => exact induction known (index + 1)
      | _ =>
          simp only [enumMembers, literals, kinds, induction]

section Similar

variable {schema other : Schema} (parts : schema.SimilarParts other)

include parts

theorem plain_shape_eq (location : String) :
    plainShape schema location = plainShape other location :=
  parts.reads (plainShape · location) fun _ => rfl

theorem constraints_eq (location : String) :
    constraintsOf schema location = constraintsOf other location := by
  -- the exclusive limits are the only ones that may be written in another order
  have plain : constraintsOf { schema.outline with
        exclusiveMinimum := other.exclusiveMinimum
        exclusiveMaximum := other.exclusiveMaximum } location = constraintsOf other location := by
    rw [parts.outline]
    rfl
  rw [← plain]
  unfold constraintsOf
  rw [bound_eq _ parts.exclusiveMinimum, bound_eq _ parts.exclusiveMaximum]
  rfl

theorem enum_base_eq (location : String) : enumBase schema location = enumBase other location := by
  have alike : ∀ value other : Json, value.Reordered other →
      isTextOrNull value = isTextOrNull other := by
    intro value other reordered
    cases reordered <;> rfl
  have texts : schema.enum.all isTextOrNull = other.enum.all isTextOrNull :=
    all_pairs_eq parts.enum alike
  rw [enumBase, enumBase, parts.primary_type_eq, texts]

theorem enumeration_eq (location : String) :
    enumerationOf schema location = enumerationOf other location := by
  rw [enumerationOf, enumerationOf, enum_base_eq parts]
  simp only [enum_members_eq _ location parts.enum]

theorem only_reference_eq : onlyReference? schema = onlyReference? other := by
  unfold onlyReference?
  have ofAll := parts.allOf
  have ofOne := parts.oneOf
  have ofAny := parts.anyOf
  generalize schema.allOf = allOf, schema.oneOf = oneOf, schema.anyOf = anyOf,
    other.allOf = allOf', other.oneOf = oneOf', other.anyOf = anyOf' at ofAll ofOne ofAny ⊢
  cases ofAll with
  | nil => rfl
  | cons first rest =>
    cases rest with
    | cons _ _ => cases first <;> rfl
    | nil =>
      cases ofOne with
      | cons _ _ => cases first <;> rfl
      | nil => cases ofAny <;> cases first <;> rfl

/-- Names are required of properties, in whatever order these are written. -/
theorem declared_requirements_eq : declaredRequirements schema = declaredRequirements other := by
  have required : schema.required = other.required := parts.reads Schema.required fun _ => rfl
  unfold declaredRequirements
  rw [required]
  congr 1
  apply List.filter_congr
  intro name _
  exact rel_is_some_eq (parts.properties.lookup name)

end Similar

end ApiScaffold.Blueprint
