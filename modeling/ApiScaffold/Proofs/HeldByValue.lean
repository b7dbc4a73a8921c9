import ApiScaffold.Proofs.ComponentScope
import ApiScaffold.Proofs.NestedStatements

/-!
What types hold by value. A synonym is the type that it stands for, and a struct holds its members;
pointers, lists and maps only refer to what they are made of. So in the file of components, the
components that a type holds can be read off the shape that it was made for.
-/

namespace ApiScaffold.Go

open Source

def heldBy : Code → Option String
  | [.component name] => some name
  | [.component generic, .text _, .component name, .text _] =>
    if generic = "Optional" then some name else none
  | _ => none

/-- The component that a member of a struct holds. -/
def Entry.held (entry : Entry) : Option String := entry.rest.head?.bind heldBy

def Form.holds : Form → List (String × String)
  | .synonym name definition => (heldBy definition).toList.map (name, ·)
  | .struct name _ groups =>
    ((groups.flatMap (·.members)).filterMap Entry.held).map (name, ·)
  | _ => []

namespace Part

def holds (part : Part) : List (String × String) := part.declarations.flatMap (·.form.holds)

theorem holds_append (first second : Part) :
    (first ++ second).holds = first.holds ++ second.holds := List.flatMap_append

theorem holds_join (parts : List Part) : (join parts).holds = parts.flatMap holds := by
  unfold holds
  rw [declarations_join, List.flatMap_assoc]

end Part

end ApiScaffold.Go

namespace ApiScaffold.Blueprint

/-- The component that a shape stands for. -/
def Shape.name? : Shape → Option String
  | .named name => some name
  | _ => none

theorem shape_of_name {shape : Shape} {name : String} (named : shape.name? = some name) :
    shape = .named name := by
  cases shape with
  | named other => exact congrArg Shape.named (Option.some.inj named)
  | _ => cases named

/-- The component that a field holds, unless it only points to it. -/
def Field.held (field : Field Shape) : Option String :=
  if field.optionality = .pointer then none else field.shape.name?

def Shape.held : Shape → List String
  | .named name => [name]
  | .object fields _ _ => fields.filterMap fun entry => entry.2.held
  | _ => []

end ApiScaffold.Blueprint

namespace ApiScaffold.Server

open Blueprint Go Source

/-- A type is a component if it is that of a name, and so is the type of optional values. -/
theorem types_held (shape : Shape) : heldBy (typeOf shape).code = shape.name? ∧
    heldBy (optional (typeOf shape)).code = shape.name? := by
  cases shape with
  | primitive primitive =>
      obtain ⟨kind, _⟩ := primitive
      cases kind <;> exact ⟨rfl, rfl⟩
  | object fields required additional =>
      cases additional <;> cases fields <;> exact ⟨rfl, rfl⟩
  | enum enumeration =>
      obtain ⟨base, _⟩ := enumeration
      cases base <;> exact ⟨rfl, rfl⟩
  | custom type =>
      obtain ⟨⟨package, _⟩, _, _⟩ := type
      cases package <;> exact ⟨rfl, rfl⟩
  | _ => exact ⟨rfl, rfl⟩

theorem field_held (field : Blueprint.Field Shape) :
    heldBy (fieldType field).code = field.held := by
  obtain ⟨plain, maybe⟩ := types_held field.shape
  unfold fieldType Blueprint.Field.held
  cases field.optionality with
  | pointer => rfl
  | optionalNullable => exact maybe
  | _ => exact plain

theorem outcome_holds : Outcome.part.holds = [] := by decide

theorem struct_part_holds (outline : Outline) (component : Component) (comment : List String)
    (fields : List (Blueprint.Field Shape)) (required : List String) :
    (Component.structPart outline component comment fields required).holds =
      (fields.filterMap Blueprint.Field.held).map (component.name, ·) := by
  have members : (((memberGroups (fields.map Component.memberOf)).flatMap (·.members)).filterMap
      Entry.held) = fields.filterMap Blueprint.Field.held := by
    rw [member_groups_members, List.map_map, List.filterMap_map]
    apply List.filterMap_congr
    intro field _
    exact field_held field
  obtain ⟨others, declared, kinds⟩ :=
    struct_part_declarations outline component comment fields required
  have silent : others.flatMap (·.form.holds) = [] := by
    apply List.flatMap_eq_nil_iff.mpr
    intro declaration listed
    rcases kinds declaration listed with ⟨_, same⟩ | ⟨_, _, _, _, same⟩ <;> rw [same] <;> rfl
  rw [Part.holds, declared, List.flatMap_cons, silent, List.append_nil, ← members]
  rfl

theorem component_holds (outline : Outline) (component : Component) :
    (Component.part outline component).holds = component.shape.held.map (component.name, ·) := by
  have own (comment : List String) : (Component.shapePart outline component comment).holds =
      component.shape.held.map (component.name, ·) := by
    unfold Component.shapePart
    split
    case h_1 same =>
      rw [same]
      rfl
    case h_2 field fields required additional same =>
      rw [struct_part_holds, same, Shape.held]
      congr 1
      exact List.filterMap_map
    case h_3 enumeration same =>
      rw [same]
      rfl
    case h_4 empty filled enumerated =>
      have synonym : (Component.aliasPart component.name comment component.shape).holds =
          (heldBy (typeOf component.shape).code).toList.map (component.name, ·) :=
        List.append_nil _
      rw [synonym, (types_held component.shape).1]
      generalize component.shape = shape at filled
      cases shape with
      | object fields required additional =>
          cases fields with
          | nil => rfl
          | cons entry rest => exact absurd rfl (filled entry rest required additional)
      | _ => rfl
  unfold Component.part
  dsimp only
  rw [Part.holds_append, own]
  rfl

/-- In the file of components, exactly the shapes of components tell which others they hold. -/
theorem components_hold_iff {program : Program} {holder held : String} :
    (holder, held) ∈ (componentsPart program).holds ↔
      ∃ component ∈ program.components.values, component.name = holder ∧
        held ∈ component.shape.held := by
  unfold componentsPart
  dsimp only
  rw [Part.holds_append, outcome_holds, List.nil_append, Part.holds_join, List.flatMap_map]
  simp only [component_holds, List.mem_flatMap, List.mem_map, Prod.mk.injEq]
  constructor
  · intro listed
    obtain ⟨component, member, name, inside, same, rfl⟩ := listed
    exact ⟨component, member, same, inside⟩
  · intro listed
    obtain ⟨component, member, same, inside⟩ := listed
    exact ⟨component, member, held, inside, same, rfl⟩

end ApiScaffold.Server
