import ApiScaffold.Registry

/-!
Laws of registries, and of lists that are searched by a key. An entry that is put into a registry is
found in it, and the others stay where they are.
-/

namespace ApiScaffold

section Searching

variable {α κ : Type} [BEq κ] [LawfulBEq κ] {key : α → κ} {items : List α} {wanted : κ}

theorem find_key_eq_none_iff : items.find? (key · == wanted) = none ↔ wanted ∉ items.map key := by
  rw [List.find?_eq_none, List.mem_map]
  simp only [beq_iff_eq, not_exists, not_and]

theorem mem_keys_of_find {item : α} (found : items.find? (key · == wanted) = some item) :
    wanted ∈ items.map key := by
  have same := List.find?_some found
  exact List.mem_map.mpr ⟨item, List.mem_of_find?_eq_some found, eq_of_beq same⟩

end Searching

end ApiScaffold

namespace ApiScaffold.Registry

variable {α : Type}

theorem find?_is_some_iff (registry : Registry α) (key : String) :
    (registry.find? key).isSome ↔ key ∈ registry.keys := by
  rw [find?, List.lookup_isSome_iff, keys, List.mem_map]
  constructor
  · rintro ⟨entry, member, same⟩
    exact ⟨entry, member, (eq_of_beq same).symm⟩
  · rintro ⟨entry, member, same⟩
    exact ⟨entry, member, beq_iff_eq.mpr same.symm⟩

theorem find?_eq_none_iff (registry : Registry α) (key : String) :
    registry.find? key = none ↔ key ∉ registry.keys := by
  rw [← find?_is_some_iff, Option.not_isSome_iff_eq_none]

theorem mem_of_find? {registry : Registry α} {key : String} {value : α}
    (found : registry.find? key = some value) : (key, value) ∈ registry := by
  rw [find?, List.lookup_eq_some_iff] at found
  rcases found with ⟨before, rest, split, -⟩
  rw [split]
  exact List.mem_append_right before List.mem_cons_self

theorem mem_insert {key : String} {value : α} {registry : Registry α} {entry : String × α}
    (member : entry ∈ registry.insert key value) : entry = (key, value) ∨ entry ∈ registry := by
  induction registry with
  | nil => exact .inl (List.mem_singleton.mp member)
  | cons first rest induction =>
      obtain ⟨known, old⟩ := first
      rw [insert] at member
      split at member
      · rcases List.mem_cons.mp member with here | there
        · exact .inl here
        · exact .inr (List.mem_cons_of_mem _ there)
      · split at member
        · exact List.mem_cons.mp member
        · rcases List.mem_cons.mp member with here | there
          · exact .inr (here ▸ List.mem_cons_self)
          · exact (induction there).imp_right (List.mem_cons_of_mem _)

theorem mem_keys_insert {key other : String} {value : α} {registry : Registry α} :
    other ∈ (registry.insert key value).keys ↔ other = key ∨ other ∈ registry.keys := by
  rw [← find?_is_some_iff, ← find?_is_some_iff]
  by_cases same : other = key
  · rw [same, find?_insert_self]
    exact ⟨fun _ => .inl rfl, fun _ => rfl⟩
  · rw [find?_insert_of_ne value registry same]
    exact ⟨.inr, fun either => either.resolve_left same⟩

theorem insert_perm {key : String} (value : α) {registry : Registry α}
    (unknown : key ∉ registry.keys) : (registry.insert key value).Perm ((key, value) :: registry) := by
  induction registry with
  | nil => exact .refl _
  | cons entry rest induction =>
      obtain ⟨known, old⟩ := entry
      have differs : key ≠ known := fun same => unknown (same ▸ List.mem_cons_self)
      rw [insert, if_neg differs]
      split
      · exact .refl _
      · have others := induction fun member => unknown (List.mem_cons_of_mem _ member)
        exact (others.cons (known, old)).trans (List.Perm.swap _ _ rest)

def Ordered (registry : Registry α) : Prop := registry.keys.Pairwise (· < ·)

theorem Ordered.insert {registry : Registry α} (ordered : registry.Ordered) (key : String)
    (value : α) : (registry.insert key value).Ordered := by
  induction registry with
  | nil => exact List.pairwise_singleton _ key
  | cons entry rest induction =>
      obtain ⟨known, old⟩ := entry
      obtain ⟨above, others⟩ := List.pairwise_cons.mp ordered
      rw [Registry.insert]
      split
      case isTrue same => exact same ▸ ordered
      case isFalse differs =>
        split
        case isTrue less =>
          apply List.pairwise_cons.mpr ⟨_, ordered⟩
          intro other member
          rcases List.mem_cons.mp member with rfl | inside
          · exact less
          · exact String.lt_trans less (above other inside)
        case isFalse greater =>
          apply List.pairwise_cons.mpr ⟨_, induction others⟩
          intro other member
          rcases mem_keys_insert.mp member with rfl | inside
          · grind
          · exact above other inside

end ApiScaffold.Registry
