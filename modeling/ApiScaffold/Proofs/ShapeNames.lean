import ApiScaffold.Proofs.ClosedNames
import ApiScaffold.Proofs.Shaping

/-!
The names in the shapes of schemas. Each is that of a declared schema or of a component that was
registered on the way.
-/

namespace ApiScaffold.Blueprint

open OpenApi (Schema OrRef Specification Table)

def componentNames (schemas : Table (OrRef Schema)) : List String :=
  schemas.map fun entry => Identifier.exported entry.1

theorem component_names_cons (key : String) (item : OrRef Schema) (rest : Table (OrRef Schema)) :
    componentNames ((key, item) :: rest) = Identifier.exported key :: componentNames rest := rfl

def declaredNames (specification : Specification) : List String :=
  componentNames specification.components.schemas

section Shapes

variable {specification : Specification} {promised names : List String}

theorem reference_shape_hands {target location : String}
    (declared : declaredNames specification ⊆ names) :
    Hands promised names (liftExcept (referenceShape specification target location))
      Shape.references := by
  apply Hands.lift_except (reference_shape_fails specification target location)
  intro shape result
  unfold referenceShape at result
  split at result
  · rename_i key _
    split at result
    · rename_i present
      cases result
      obtain ⟨entry, member, same⟩ := List.lookup_isSome_iff.mp present
      apply List.cons_subset.mpr
      refine ⟨declared (List.mem_map.mpr ⟨entry, member, ?_⟩), List.nil_subset names⟩
      rw [eq_of_beq same]
    · cases result
  · cases result

theorem plain_shape_hands (schema : Schema) (location : String) :
    Hands promised names (liftExcept (plainShape schema location)) Shape.references := by
  apply Hands.lift_except (plain_shape_fails schema location)
  intro shape result
  have without : shape.references = [] := by
    unfold plainShape at result
    split at result <;> cases result <;> rfl
  rw [without]
  exact List.nil_subset names

theorem place_hands (placement : Placement) (hint location : String) (schema : Schema)
    {shape : Shape} (usable : shape.references ⊆ names) :
    Hands promised names (place placement hint location schema shape) Shape.references := by
  cases placement with
  | declared => exact Hands.pure usable
  | nested =>
      apply Hands.bind (Hands.lift_nameless (read_extensions_fails _ _))
      intro extensions
      apply Hands.bind (Hands.register usable)
      intro _
      apply Hands.pure
      exact List.cons_subset.mpr ⟨List.mem_cons_self, List.nil_subset _⟩

theorem required_names_hands (schema : Schema) (location : String) :
    Hands promised names (requiredNames schema location) fun _ => [] := by
  unfold requiredNames
  apply Hands.bind (Hands.throughout schema.required _)
  · intro _
    exact Hands.pure (List.nil_subset _)
  · intro name
    exact Drafting.Meets.round_if (Drafting.Meets.warn fun _ closed => closed)

theorem field_hands {property : String} {item : OrRef Schema} {required : Bool} {location : String}
    {shape : Shape} (usable : shape.references ⊆ names) :
    Hands promised names (fieldOf specification property item required location shape)
      fun field => field.shape.references := by
  unfold fieldOf
  apply Hands.bind (Hands.lift_nameless (field_rules_fails item location))
  intro rules
  dsimp only
  split
  · apply Hands.bind Hands.check_text_later
    intro _
    exact Hands.pure usable
  · exact Hands.pure usable

def HandsShape (specification : Specification) (schema : Schema) : Prop :=
  ∀ promised names placement hint location, declaredNames specification ⊆ names →
    Hands promised names (shapeOf specification placement hint location schema) Shape.references

theorem nested_shape_hands {item : OrRef Schema}
    (inside : item.Satisfies (HandsShape specification)) (hint location : String)
    (declared : declaredNames specification ⊆ names) :
    Hands promised names (nestedShape specification hint location item) Shape.references := by
  cases item with
  | reference target => exact reference_shape_hands declared
  | object schema => exact inside promised names .nested hint location declared

theorem element_shape_hands {items : Option (OrRef Schema)}
    (inside : ∀ item, items = some item → item.Satisfies (HandsShape specification))
    (hint location : String) (declared : declaredNames specification ⊆ names) :
    Hands promised names (elementShape specification hint location items) Shape.references := by
  cases items with
  | none => exact Hands.pure (List.nil_subset names)
  | some item => exact nested_shape_hands (inside item rfl) hint location declared

theorem additional_shape_hands {additional : Option (OpenApi.AdditionalProperties Schema)}
    (inside : ∀ item, additional = some (.schema item) → item.Satisfies (HandsShape specification))
    (hint location : String) (declared : declaredNames specification ⊆ names) :
    Hands promised names (additionalShape specification hint location additional)
      Shape.additionalReferences := by
  match additional with
  | none => exact Hands.pure (List.nil_subset names)
  | some (.allowed true) => exact Hands.pure (List.nil_subset names)
  | some (.allowed false) => exact Hands.pure (List.nil_subset names)
  | some (.schema item) =>
      apply Hands.bind (nested_shape_hands (inside item rfl) hint location declared)
      intro shape
      exact Hands.pure (List.subset_append_left _ _)

theorem member_shapes_hands {items : List (OrRef Schema)}
    (inside : ∀ item ∈ items, item.Satisfies (HandsShape specification)) (hint location : String)
    (index : Nat) (declared : declaredNames specification ⊆ names) :
    Hands promised names (memberShapes specification hint location index items)
      Shape.memberReferences := by
  induction items generalizing index names with
  | nil => exact Hands.pure (List.nil_subset names)
  | cons item rest induction =>
      obtain ⟨first, others⟩ := List.forall_mem_cons.mp inside
      rw [memberShapes]
      apply Hands.bind (nested_shape_hands first _ _ declared)
      intro shape
      apply Hands.bind
      · exact induction others (index + 1) (List.subset_append_of_subset_right _ declared)
      · intro shapes
        apply Hands.pure
        rw [Shape.memberReferences]
        exact subset_after_last _ _ _

theorem property_fields_hands {properties : Table (OrRef Schema)}
    (inside : ∀ entry ∈ properties, entry.2.Satisfies (HandsShape specification))
    (required : List String) (hint location : String) (known : List (String × String))
    (declared : declaredNames specification ⊆ names) :
    Hands promised names (propertyFields specification required hint location known properties)
      Shape.fieldReferences := by
  induction properties generalizing known names with
  | nil => exact Hands.pure (List.nil_subset names)
  | cons entry rest induction =>
      obtain ⟨property, item⟩ := entry
      obtain ⟨first, others⟩ := List.forall_mem_cons.mp inside
      rw [propertyFields]
      simp only [Drafting.fail_bind]
      split
      · exact Hands.fail rfl
      split
      · exact Hands.throw rfl
      · apply Hands.bind (nested_shape_hands first _ _ declared)
        intro shape
        apply Hands.bind (field_hands (List.subset_append_left _ _))
        intro field
        apply Hands.bind
        · apply induction others
          exact List.subset_append_of_subset_right _
            (List.subset_append_of_subset_right _ declared)
        · intro fields
          apply Hands.pure
          rw [Shape.fieldReferences]
          exact subset_after_last _ _ _

theorem composed_shape_hands {schema : Schema}
    (inside : schema.Inside (HandsShape specification)) (hint location : String)
    (declared : declaredNames specification ⊆ names) :
    Hands promised names (composedShape specification hint location schema) Shape.references := by
  unfold composedShape
  split
  · exact reference_shape_hands declared
  · split
    · apply Hands.bind (member_shapes_hands inside.allOf _ _ 0 declared)
      intro members
      exact Hands.pure (List.subset_append_left _ _)
    · split
      · apply Hands.bind (member_shapes_hands inside.oneOf _ _ 0 declared)
        intro members
        exact Hands.pure (List.subset_append_left _ _)
      · apply Hands.bind (member_shapes_hands inside.anyOf _ _ 0 declared)
        intro members
        exact Hands.pure (List.subset_append_left _ _)

theorem beside_fields_hands {schema : Schema}
    (inside : schema.Inside (HandsShape specification)) (hint location : String)
    (mapType : Option String) (declared : declaredNames specification ⊆ names) :
    Hands promised names (besideFields specification hint location mapType schema)
      Shape.additionalReferences := by
  cases mapType with
  | some name => exact Hands.pure (List.nil_subset names)
  | none => exact additional_shape_hands inside.additional _ _ declared

theorem object_shape_hands {schema : Schema}
    (inside : schema.Inside (HandsShape specification)) (placement : Placement)
    (hint location : String) (mapType : Option String)
    (declared : declaredNames specification ⊆ names) :
    Hands promised names (objectShape specification placement hint location mapType schema)
      Shape.references := by
  apply Hands.bind (property_fields_hands inside.properties _ _ _ _ declared)
  intro fields
  apply Hands.bind (required_names_hands schema location)
  intro required
  apply Hands.bind (beside_fields_hands inside hint location mapType
    (List.subset_append_of_subset_right _ (List.subset_append_of_subset_right _ declared)))
  intro additional
  have usable : (Shape.object fields required additional).references ⊆
      Shape.additionalReferences additional ++ ([] ++ (Shape.fieldReferences fields ++ names)) := by
    intro name member
    simp only [Shape.references, List.nil_append, List.mem_append] at member ⊢
    exact member.elim (fun own => .inr (.inl own)) .inl
  split
  · exact Hands.pure usable
  · exact place_hands placement hint location schema usable

/-- Every schema. The schemas right inside of one have been given their shapes before its own is
put together. -/
theorem shape_hands (schema : Schema) : HandsShape specification schema := by
  induction schema using Schema.of_inside with
  | step schema inside =>
      intro promised names placement hint location declared
      rw [shape_of_schema]
      apply Hands.bind (Hands.lift_nameless (read_extensions_fails _ _))
      intro extensions
      cases extensions.goType with
      | some target => exact Hands.pure (List.nil_subset _)
      | none =>
          dsimp only
          unfold ownShape
          split
          · exact Hands.fail rfl
          split
          · exact composed_shape_hands inside hint location declared
          split
          · apply Hands.bind (Hands.lift_nameless (enumeration_fails schema location))
            intro enumeration
            exact place_hands placement hint location schema (List.nil_subset _)
          split
          · apply Hands.bind (element_shape_hands inside.items _ _ declared)
            intro element
            exact Hands.pure (List.subset_append_left _ _)
          split
          · exact object_shape_hands inside placement hint location _ declared
          · exact plain_shape_hands schema location

end Shapes

end ApiScaffold.Blueprint
