import ApiScaffold.Json.Printer
import ApiScaffold.Proofs.Permuted

/-!
JSON values whose objects write their members in another order. The canonical form of a value is one
of them, and it is the same for all of them.
-/

namespace ApiScaffold.Json

/-- No object writes a key twice, at any depth. -/
inductive KeysDistinct : Json → Prop where
  | null : KeysDistinct .null
  | bool (value : Bool) : KeysDistinct (.bool value)
  | number (value : JsonNumber) : KeysDistinct (.number value)
  | string (value : String) : KeysDistinct (.string value)
  | array {items : List Json} (inside : ∀ item ∈ items, KeysDistinct item) :
      KeysDistinct (.array items)
  | object {members : List (String × Json)} (distinct : DistinctKeys members)
      (inside : ∀ member ∈ members, KeysDistinct member.2) : KeysDistinct (.object members)

/-- The same value but for the order of the members of objects, at any depth. -/
inductive Reordered : Json → Json → Prop where
  | null : Reordered .null .null
  | bool (value : Bool) : Reordered (.bool value) (.bool value)
  | number (value : JsonNumber) : Reordered (.number value) (.number value)
  | string (value : String) : Reordered (.string value) (.string value)
  | array {items others : List Json} (pairs : List.Forall₂ Reordered items others) :
      Reordered (.array items) (.array others)
  | object {members others : List (String × Json)}
      (permuted : Permuted (Keyed Reordered) members others) :
      Reordered (.object members) (.object others)

inductive Within : Json → Json → Prop where
  | item {items : List Json} {item : Json} (member : item ∈ items) : Within item (.array items)
  | member {members : List (String × Json)} {key : String} {value : Json}
      (member : (key, value) ∈ members) : Within value (.object members)

theorem Within.size_lt {inner value : Json} (within : Within inner value) :
    sizeOf inner < sizeOf value := by
  cases within with
  | item member =>
      have bound := List.sizeOf_lt_of_mem member
      simp only [array.sizeOf_spec]
      omega
  | @member members key value member =>
      have bound := List.sizeOf_lt_of_mem member
      simp only [object.sizeOf_spec, Prod.mk.sizeOf_spec] at bound ⊢
      omega

/-- A property of all values follows if each value has it once all smaller values have it. -/
theorem of_smaller {property : Json → Prop}
    (step : ∀ value, (∀ smaller, sizeOf smaller < sizeOf value → property smaller) →
      property value) (value : Json) : property value :=
  (measure (sizeOf : Json → Nat)).wf.induction value step

theorem of_within {property : Json → Prop}
    (step : ∀ value, (∀ inner, Within inner value → property inner) → property value)
    (value : Json) : property value := by
  induction value using of_smaller with
  | step value induction => exact step value fun inner within => induction inner within.size_lt

theorem KeysDistinct.within {value inner : Json} (distinct : value.KeysDistinct)
    (within : Within inner value) : inner.KeysDistinct := by
  cases within with
  | item member =>
      cases distinct with
      | array inside => exact inside inner member
  | member member =>
      cases distinct with
      | object _ inside => exact inside _ member

theorem KeysDistinct.keys {members : List (String × Json)}
    (distinct : (Json.object members).KeysDistinct) : DistinctKeys members := by
  cases distinct with
  | object keys _ => exact keys

theorem keys_distinct_object_iff {members : List (String × Json)} :
    (object members).KeysDistinct ↔
      DistinctKeys members ∧ ∀ member ∈ members, member.2.KeysDistinct :=
  ⟨fun distinct => ⟨distinct.keys, fun _ member => distinct.within (.member member)⟩,
    fun ⟨keys, inside⟩ => .object keys inside⟩

theorem keys_distinct_array_iff {items : List Json} :
    (array items).KeysDistinct ↔ ∀ item ∈ items, item.KeysDistinct :=
  ⟨fun distinct _ member => distinct.within (.item member), .array⟩

theorem canonical_items_eq_map (items : List Json) :
    canonical.canonicalItems items = items.map canonical := by
  induction items with
  | nil => rfl
  | cons item rest induction => exact congrArg (canonical item :: ·) induction

theorem canonical_members_eq_map (members : List (String × Json)) :
    canonical.canonicalMembers members = members.map fun member => (member.1, canonical member.2) := by
  induction members with
  | nil => rfl
  | cons member rest induction => exact congrArg ((member.1, canonical member.2) :: ·) induction

theorem Reordered.refl (value : Json) : value.Reordered value := by
  induction value using of_within with
  | step value induction =>
      cases value with
      | null => exact .null
      | bool value => exact .bool value
      | number value => exact .number value
      | string value => exact .string value
      | array items =>
          exact .array (List.forall₂_same.mpr fun item member => induction item (.item member))
      | object members =>
          apply Reordered.object (Permuted.of_pairs (List.forall₂_same.mpr _))
          intro member listed
          exact Keyed.of_value rfl (induction member.2 (.member listed))

theorem reordered_canonical (value : Json) : value.Reordered value.canonical := by
  induction value using of_within with
  | step value induction =>
      cases value with
      | null => exact .null
      | bool value => exact .bool value
      | number value => exact .number value
      | string value => exact .string value
      | array items =>
          rw [canonical, canonical_items_eq_map]
          apply Reordered.array
          rw [List.forall₂_map_right_iff]
          exact List.forall₂_same.mpr fun item member => induction item (.item member)
      | object members =>
          rw [canonical]
          apply Reordered.object
          apply Permuted.of_pairs_perm _ (sortMembers_perm _).symm
          rw [canonical_members_eq_map, List.forall₂_map_right_iff]
          apply List.forall₂_same.mpr
          intro member listed
          exact Keyed.of_value rfl (induction member.2 (.member listed))

theorem canonical_eq_of_reordered (value : Json) : ∀ other : Json, value.KeysDistinct →
    value.Reordered other → value.canonical = other.canonical := by
  induction value using of_within with
  | step value induction =>
      intro other distinct reordered
      cases reordered with
      | null => rfl
      | bool value => rfl
      | number value => rfl
      | string value => rfl
      | @array items others pairs =>
          rw [canonical, canonical, canonical_items_eq_map, canonical_items_eq_map]
          congr 1
          apply map_eq_of_pairs (forall_pairs_of_mem pairs)
          intro item item' known
          exact induction item (.item known.2) item' (distinct.within (.item known.2)) known.1
      | @object members others permuted =>
          rw [canonical, canonical, canonical_members_eq_map, canonical_members_eq_map]
          congr 1
          unfold sortMembers
          have order : (members.map fun member => (member.1, canonical member.2)).Perm
              (others.map fun member => (member.1, canonical member.2)) := by
            have known : Permuted (fun member member' =>
                (member.1, canonical member.2) = (member'.1, canonical member'.2)) members others := by
              apply permuted.imp
              intro member listed member' keyed
              have within : Within member.2 (object members) := .member listed
              have inner := induction member.2 within member'.2 (distinct.within within) keyed.value
              rw [keyed.key, inner]
            exact known.map_perm fun _ _ same => same
          apply Sorts.merge_sort_eq _ order
          apply DistinctKeys.sorts
          unfold DistinctKeys
          rw [List.map_map]
          exact distinct.keys

end ApiScaffold.Json
