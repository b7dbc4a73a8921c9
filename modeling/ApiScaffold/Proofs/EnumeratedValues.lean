import ApiScaffold.Proofs.CleanNames
import ApiScaffold.Proofs.DeclaredOnce
import ApiScaffold.Proofs.DenotedText
import ApiScaffold.Proofs.Registry
import Mathlib.Data.List.Forall2

/-!
Enumerations as schemas list them. A list of values is an enumeration iff its values, null apart, are
all of the kind that the schema declares or that they suggest themselves, and no two of them have one
tag. The members are these values in order. As their tags differ, so do they, and so do the constants
that are declared for them and told apart in a switch.
-/

namespace ApiScaffold

namespace Blueprint

open OpenApi (Schema)
open OpenApi.Decode (isNull)

/-- The kind of the members of an enumeration. A schema declares it, or else it has texts if nothing
but texts and null is listed, and integers otherwise. -/
inductive MemberKind (schema : Schema) : PrimitiveKind → Prop where
  | declaredText : schema.primaryType = some "string" → MemberKind schema .string
  | declaredInteger : schema.primaryType = some "integer" → MemberKind schema .int
  | onlyTexts : schema.primaryType = none →
      (∀ value ∈ schema.enum, value = .null ∨ ∃ text, value = .string text) →
      MemberKind schema .string
  | notOnlyTexts : schema.primaryType = none →
      ¬ (∀ value ∈ schema.enum, value = .null ∨ ∃ text, value = .string text) →
      MemberKind schema .int

/-- Which literal a value lists in an enumeration: a text, or an integer of 64 bits. -/
inductive Lists : PrimitiveKind → Json → EnumLiteral → Prop where
  | text (text : String) : Lists .string (.string text) (.string text)
  | integer {number : Int} : -9223372036854775808 ≤ number → number ≤ 9223372036854775807 →
      Lists .int (.number (.integer number)) (.int number)

/-- The values that count, in order: null is passed over. -/
def present (values : List Json) : List Json := values.filter fun value => !isNull value

theorem is_text_or_null_iff {value : Json} :
    isTextOrNull value = true ↔ value = .null ∨ ∃ text, value = .string text := by
  cases value <;> simp [isTextOrNull]

theorem enum_base_eq_ok_iff {schema : Schema} {location : String} {base : PrimitiveKind} :
    enumBase schema location = .ok base ↔ MemberKind schema base := by
  have texts : schema.enum.all isTextOrNull = true ↔
      ∀ value ∈ schema.enum, value = .null ∨ ∃ text, value = .string text := by
    simp only [List.all_eq_true, is_text_or_null_iff]
  constructor
  · intro read
    unfold enumBase at read
    split at read
    case h_1 declared =>
      cases read
      exact .declaredText declared
    case h_2 declared =>
      cases read
      exact .declaredInteger declared
    case h_3 => cases read
    case h_4 undeclared =>
      cases read
      split
      · rename_i all
        exact .onlyTexts undeclared (texts.mp all)
      · rename_i other
        exact .notOnlyTexts undeclared (mt texts.mpr other)
  · intro kind
    unfold enumBase
    cases kind with
    | declaredText declared =>
        rw [declared]
        rfl
    | declaredInteger declared =>
        rw [declared]
        rfl
    | onlyTexts undeclared all =>
        rw [undeclared]
        exact congrArg Except.ok (if_pos (texts.mpr all))
    | notOnlyTexts undeclared other =>
        rw [undeclared]
        exact congrArg Except.ok (if_neg (mt texts.mp other))

theorem literal_eq_some_iff {base : PrimitiveKind} {value : Json} {literal : EnumLiteral} :
    literalOf? base value = some literal ↔ Lists base value literal := by
  constructor
  · intro read
    unfold literalOf? at read
    split at read
    · split at read
      case isTrue same =>
        cases read
        exact same ▸ .text _
      case isFalse => cases read
    · split at read
      case isTrue same =>
        obtain ⟨number, signed, rfl⟩ := Option.map_eq_some_iff.mp read
        unfold JsonNumber.toSigned? at signed
        split at signed
        · split at signed
          case isTrue bounds =>
            cases signed
            exact same ▸ .integer bounds.1 bounds.2
          case isFalse => cases signed
        · cases signed
      case isFalse => cases read
    · cases read
  · rintro (_ | ⟨least, greatest⟩)
    · rfl
    · rw [literalOf?, if_pos rfl, JsonNumber.toSigned?, if_pos ⟨least, greatest⟩, Option.map_some]

/-- The member of a literal stands under the tag of the literal. -/
def memberOf (literal : EnumLiteral) : EnumMember := ⟨literal.tag, literal⟩

section Members

variable {base : PrimitiveKind} {location : String} {known members : List EnumMember} {index : Nat}
  {rest : List Json}

/-- A value that counts is a member under a tag that is not known yet. -/
theorem enum_members_cons_iff {value : Json} (counts : isNull value = false) :
    enumMembers base location known index (value :: rest) = .ok members ↔
      ∃ literal, Lists base value literal ∧ literal.tag ∉ known.map (·.tag) ∧
        enumMembers base location (known ++ [memberOf literal]) (index + 1) rest =
          .ok members := by
  rw [enumMembers]
  case x_2 =>
    rintro rfl
    cases counts
  simp only [← literal_eq_some_iff]
  cases read : literalOf? base value with
  | none => simp
  | some literal =>
      simp only [Option.some.injEq, exists_eq_left']
      cases found : known.find? (·.tag == literal.tag) with
      | none =>
          have fresh : literal.tag ∉ known.map (·.tag) := find_key_eq_none_iff.mp found
          simp only [fresh, not_false_iff, true_and]
          rfl
      | some first =>
          have taken : literal.tag ∈ known.map (·.tag) := mem_keys_of_find found
          simp [taken]

/-- All values that count become members behind those that are known, if all tags differ. -/
theorem enum_members_eq_ok_iff {values : List Json} (distinct : (known.map (·.tag)).Nodup) :
    enumMembers base location known index values = .ok members ↔
      ∃ literals, List.Forall₂ (Lists base) (present values) literals ∧
        members = known ++ literals.map memberOf ∧ (members.map (·.tag)).Nodup := by
  induction values generalizing known index with
  | nil =>
      rw [enumMembers, present, List.filter_nil]
      constructor
      · rintro ⟨⟩
        exact ⟨[], .nil, (List.append_nil _).symm, distinct⟩
      · rintro ⟨_, ⟨⟩, rfl, _⟩
        rw [List.map_nil, List.append_nil]
  | cons value rest induction =>
      cases null : isNull value with
      | true =>
          have same : value = .null := by
            cases value <;> first | rfl | cases null
          rw [same, enumMembers, induction distinct]
          rfl
      | false =>
          have counted : present (value :: rest) = value :: present rest :=
            List.filter_cons_of_pos (by rw [null]; rfl)
          have grown (literal : EnumLiteral) (others : List EnumLiteral) :
              known ++ (literal :: others).map memberOf =
                (known ++ [memberOf literal]) ++ others.map memberOf := by
            rw [List.map_cons, List.append_assoc, List.singleton_append]
          have fresh_iff (literal : EnumLiteral) :
              ((known ++ [memberOf literal]).map (·.tag)).Nodup ↔
                literal.tag ∉ known.map (·.tag) := by
            rw [List.map_append, List.map_singleton, ← List.concat_eq_append, List.nodup_concat]
            exact and_iff_left distinct
          rw [enum_members_cons_iff null, counted]
          constructor
          · rintro ⟨literal, listed, fresh, ran⟩
            obtain ⟨literals, all, members_eq, tags⟩ :=
              (induction ((fresh_iff literal).mpr fresh)).mp ran
            exact ⟨literal :: literals, .cons listed all, (grown literal literals) ▸ members_eq, tags⟩
          · rintro ⟨_, all, members_eq, tags⟩
            cases all with
            | @cons _ literal _ literals listed others =>
                rw [grown] at members_eq
                have more : ((known ++ [memberOf literal]).map (·.tag)).Nodup := by
                  rw [members_eq, List.map_append] at tags
                  exact tags.sublist (List.sublist_append_left _ _)
                exact ⟨literal, listed, (fresh_iff literal).mp more,
                  (induction more).mpr ⟨literals, others, members_eq, tags⟩⟩

end Members

theorem literal_tag_ne_empty (literal : EnumLiteral) : literal.tag ≠ "" := by
  cases literal with
  | string text =>
      unfold EnumLiteral.tag
      dsimp only
      split
      case isTrue => decide
      case isFalse filled => exact fun empty => filled (String.isEmpty_iff.mpr empty)
  | int number =>
      unfold EnumLiteral.tag
      dsimp only
      split
      case isTrue =>
        intro empty
        have chars := congrArg String.toList empty
        simp at chars
      case isFalse least =>
        rw [Int.toString_eq_repr, Int.repr_eq_if, if_pos (Int.not_lt.mp least)]
        exact Nat.repr_ne_empty

/-- What a schema lists is an enumeration: there is a value that counts, each such value is of the
kind of the members, and no two of them have one tag. -/
structure Enumerable (schema : Schema) (base : PrimitiveKind) : Prop where
  kind : MemberKind schema base
  given : ∃ value ∈ schema.enum, value ≠ .null
  listed : ∀ value ∈ schema.enum, value ≠ .null → ∃ literal, Lists base value literal
  apart : (present schema.enum).Pairwise fun first second =>
    ∀ one other, Lists base first one → Lists base second other → one.tag ≠ other.tag

structure Enumerates (schema : Schema) (enumeration : Enumeration) : Prop where
  kind : MemberKind schema enumeration.base
  ordered : List.Forall₂
    (fun value (member : EnumMember) => Lists enumeration.base value member.literal)
    (present schema.enum) enumeration.members
  given : enumeration.members ≠ []
  tagged : ∀ member ∈ enumeration.members, member.tag = member.literal.tag ∧ member.tag ≠ ""
  tags_apart : (enumeration.members.map (·.tag)).Nodup
  literals_apart : (enumeration.members.map (·.literal)).Nodup

section Lists

variable {base : PrimitiveKind} {values : List Json} {literals : List EnumLiteral}

theorem lists_all_iff :
    List.Forall₂ (Lists base) values literals ↔ values.map (literalOf? base) = literals.map some := by
  rw [← List.forall₂_eq_eq_eq, List.forall₂_map_left_iff, List.forall₂_map_right_iff]
  simp only [literal_eq_some_iff]

theorem exists_lists_all_iff :
    (∃ literals, List.Forall₂ (Lists base) values literals) ↔
      ∀ value ∈ values, ∃ literal, Lists base value literal := by
  induction values with
  | nil => simp
  | cons value rest induction =>
      rw [List.forall_mem_cons, ← induction]
      constructor
      · rintro ⟨_, all⟩
        cases all with
        | cons listed others => exact ⟨⟨_, listed⟩, _, others⟩
      · rintro ⟨⟨literal, listed⟩, literals, others⟩
        exact ⟨literal :: literals, .cons listed others⟩

/-- The tags of literals differ iff those of the values that list them do. -/
theorem tags_nodup_iff (all : List.Forall₂ (Lists base) values literals) :
    (literals.map EnumLiteral.tag).Nodup ↔ values.Pairwise fun first second =>
      ∀ one other, Lists base first one → Lists base second other → one.tag ≠ other.tag := by
  let apart (first second : Option EnumLiteral) : Prop :=
    ∀ one other, first = some one → second = some other → one.tag ≠ other.tag
  calc
    (literals.map EnumLiteral.tag).Nodup ↔ (literals.map some).Pairwise apart := by
      simp [List.Nodup, List.pairwise_map, apart]
    _ ↔ (values.map (literalOf? base)).Pairwise apart := by rw [lists_all_iff.mp all]
    _ ↔ _ := by simp only [List.pairwise_map, apart, literal_eq_some_iff]

end Lists

/-- The values that count become members of their own, if all tags differ. -/
theorem enum_members_start_iff {base : PrimitiveKind} {location : String} {values : List Json}
    {members : List EnumMember} :
    enumMembers base location [] 0 values = .ok members ↔
      ∃ literals, List.Forall₂ (Lists base) (present values) literals ∧
        members = literals.map memberOf ∧ (literals.map EnumLiteral.tag).Nodup := by
  rw [enum_members_eq_ok_iff (by exact List.nodup_nil)]
  apply exists_congr fun literals => and_congr_right fun _ => and_congr_right ?_
  rintro rfl
  rw [List.nil_append, List.map_map]
  rfl

theorem enumeration_of_eq_ok_iff {schema : Schema} {location : String} {enumeration : Enumeration} :
    enumerationOf schema location = .ok enumeration ↔
      enumBase schema location = .ok enumeration.base ∧
        enumMembers enumeration.base location [] 0 schema.enum = .ok enumeration.members ∧
        enumeration.members ≠ [] := by
  obtain ⟨base, members⟩ := enumeration
  unfold enumerationOf
  constructor
  · intro read
    cases based : enumBase schema location with
    | error => simp [based, bind, Except.bind] at read
    | ok own =>
        cases ran : enumMembers own location [] 0 schema.enum with
        | error => simp [based, ran, bind, Except.bind] at read
        | ok found =>
            cases found with
            | nil =>
                simp [based, ran, bind, Except.bind, throw, throwThe, MonadExceptOf.throw] at read
            | cons first others =>
                simp [based, ran, bind, Except.bind, pure, Except.pure] at read
                obtain ⟨rfl, rfl⟩ := read
                exact ⟨rfl, ran, List.cons_ne_nil first others⟩
  · rintro ⟨based, ran, given⟩
    cases members with
    | nil => exact absurd rfl given
    | cons first others => simp [based, ran, bind, Except.bind, pure, Except.pure]

section Enumeration

variable {schema : Schema} {location : String}

theorem enumeration_enumerates {enumeration : Enumeration}
    (read : enumerationOf schema location = .ok enumeration) : Enumerates schema enumeration := by
  obtain ⟨base, members⟩ := enumeration
  obtain ⟨based, ran, given⟩ := enumeration_of_eq_ok_iff.mp read
  obtain ⟨literals, all, rfl, tags⟩ := enum_members_start_iff.mp ran
  have same : (literals.map memberOf).map (·.literal) = literals :=
    List.map_map.trans (List.map_id literals)
  exact {
    kind := enum_base_eq_ok_iff.mp based
    ordered := List.forall₂_map_right_iff.mpr all
    given
    tagged := List.forall_mem_map.mpr fun literal _ => ⟨rfl, literal_tag_ne_empty literal⟩
    tags_apart := (List.map_map (l := literals)).symm ▸ tags
    literals_apart := same.symm ▸ tags.of_map _ }

theorem mem_present_iff {values : List Json} {value : Json} :
    value ∈ present values ↔ value ∈ values ∧ value ≠ .null := by
  have counts : isNull value = false ↔ value ≠ .null := by
    cases value <;> simp [isNull]
  rw [present, List.mem_filter, Bool.not_eq_true', counts]

theorem given_iff {base : PrimitiveKind} {values : List Json} {literals : List EnumLiteral}
    (all : List.Forall₂ (Lists base) (present values) literals) :
    literals.map memberOf ≠ [] ↔ ∃ value ∈ values, value ≠ .null := by
  have lengths : (literals.map memberOf).length = (present values).length := by
    rw [List.length_map, all.length_eq]
  rw [← List.length_pos_iff, lengths, List.length_pos_iff_exists_mem]
  simp only [mem_present_iff]

/-- An enumeration comes of a schema iff its values can be enumerated. -/
theorem enumeration_exists_iff :
    (∃ enumeration, enumerationOf schema location = .ok enumeration) ↔
      ∃ base, Enumerable schema base := by
  constructor
  · rintro ⟨⟨base, members⟩, read⟩
    obtain ⟨based, ran, given⟩ := enumeration_of_eq_ok_iff.mp read
    obtain ⟨literals, all, rfl, tags⟩ := enum_members_start_iff.mp ran
    exact ⟨base, {
      kind := enum_base_eq_ok_iff.mp based
      given := (given_iff all).mp given
      listed := fun value member counts =>
        exists_lists_all_iff.mp ⟨literals, all⟩ value (mem_present_iff.mpr ⟨member, counts⟩)
      apart := (tags_nodup_iff all).mp tags }⟩
  · rintro ⟨base, kind, given, listed, apart⟩
    obtain ⟨literals, all⟩ := exists_lists_all_iff.mpr fun value among =>
      listed value (mem_present_iff.mp among).1 (mem_present_iff.mp among).2
    have ran : enumMembers base location [] 0 schema.enum = .ok (literals.map memberOf) :=
      enum_members_start_iff.mpr ⟨literals, all, rfl, (tags_nodup_iff all).mpr apart⟩
    exact ⟨⟨base, literals.map memberOf⟩, enumeration_of_eq_ok_iff.mpr
      ⟨enum_base_eq_ok_iff.mpr kind, ran, (given_iff all).mpr given⟩⟩

end Enumeration

end Blueprint

namespace Server

open Blueprint Go

theorem literal_code_injective {first second : EnumLiteral}
    (same : Component.literalCode first = Component.literalCode second) : first = second := by
  have apart (text : String) (number : Int) : quote text ≠ toString number := by
    intro equal
    have sign : '"' ∈ (toString number).toList := by
      rw [← equal, quote, String.toList_ofList]
      exact List.mem_cons_self
    rw [Int.toString_eq_repr, Int.repr_eq_if] at sign
    split at sign
    · exact absurd (Identifier.number_digits sign) (by decide)
    · rw [String.toList_append, List.mem_append] at sign
      rcases sign with minus | digit
      · exact absurd minus (by decide)
      · exact absurd (Identifier.number_digits digit) (by decide)
  cases first <;> cases second
  · exact congrArg _ (quote_injective same)
  · exact absurd same (apart _ _)
  · exact absurd same.symm (apart _ _)
  · exact congrArg _ (int_repr_injective same)

/-- The names that are declared for an enumeration differ, so that no case of its switch is stated
twice, and so do the values that they are given. -/
structure Component.Constants (type : String) (comment : List String) (enumeration : Enumeration) :
    Prop where
  introduced : (enumPart type comment enumeration).introduces.Nodup
  cases : (enumeration.members.map (constantName type)).Nodup
  values : (enumeration.members.map fun member => literalCode member.literal).Nodup

theorem Component.constants_apart {schema : OpenApi.Schema} {enumeration : Enumeration}
    (enumerates : Enumerates schema enumeration) (type : String) (comment : List String) :
    Constants type comment enumeration := by
  have cases : (enumeration.members.map (constantName type)).Nodup := by
    have named := enumerates.tags_apart.map fun _ _ => (String.append_right_inj type).mp
    rwa [List.map_map] at named
  have values : (enumeration.members.map fun member => literalCode member.literal).Nodup := by
    have written := enumerates.literals_apart.map fun _ _ => literal_code_injective
    rwa [List.map_map] at written
  refine ⟨?_, cases, values⟩
  have taken : (enumPart type comment enumeration).taken =
      enumeration.members.map (constantName type) := by
    unfold enumPart Part.taken
    simp
  rw [enum_part_introduces, taken, List.nodup_cons]
  refine ⟨?_, cases⟩
  -- A name with a tag behind it is longer than the name.
  intro itself
  obtain ⟨member, listed, same⟩ := List.mem_map.mp itself
  exact (enumerates.tagged member listed).2 (String.append_eq_left_iff.mp same)

end Server

end ApiScaffold
