import ApiScaffold.Blueprint.Program
import ApiScaffold.Proofs.Registry

/-!
Closed programs. A name may stand anywhere inside of the shapes that a program holds; the program
is closed if every one of them is that of a component, and then the check of a finished program
finds nothing.
-/

namespace ApiScaffold.Blueprint

inductive Occurs (name : String) : Shape → Prop where
  | here : Occurs name (.named name)
  | element {element : Shape} {minItems maxItems : Option Nat} :
      Occurs name element → Occurs name (.array element minItems maxItems)
  | field {fields : List (String × Field Shape)} {required : List String}
      {additional : Additional Shape} {entry : String × Field Shape} :
      entry ∈ fields → Occurs name entry.2.shape → Occurs name (.object fields required additional)
  | additional {fields : List (String × Field Shape)} {required : List String} {shape : Shape} :
      Occurs name shape → Occurs name (.object fields required (.typed shape))
  | anyOf {members : List Shape} {member : Shape} :
      member ∈ members → Occurs name member → Occurs name (.anyOf members)
  | oneOf {members : List Shape} {member : Shape} :
      member ∈ members → Occurs name member → Occurs name (.oneOf members)
  | allOf {members : List Shape} {member : Shape} :
      member ∈ members → Occurs name member → Occurs name (.allOf members)

namespace Shape

theorem mem_field_references {name : String} {fields : List (String × Field Shape)}
    {entry : String × Field Shape} (member : entry ∈ fields)
    (inside : name ∈ entry.2.shape.references) : name ∈ fieldReferences fields := by
  induction fields with
  | nil => cases member
  | cons first rest induction =>
      rw [fieldReferences]
      rcases List.mem_cons.mp member with here | there
      · exact List.mem_append_left _ (here ▸ inside)
      · exact List.mem_append_right _ (induction there)

theorem mem_member_references {name : String} {members : List Shape} {member : Shape}
    (listed : member ∈ members) (inside : name ∈ member.references) :
    name ∈ memberReferences members := by
  induction members with
  | nil => cases listed
  | cons first rest induction =>
      rw [memberReferences]
      rcases List.mem_cons.mp listed with here | there
      · exact List.mem_append_left _ (here ▸ inside)
      · exact List.mem_append_right _ (induction there)

theorem mem_references_of_occurs {name : String} {shape : Shape} (occurs : Occurs name shape) :
    name ∈ shape.references := by
  induction occurs with
  | here => exact List.mem_singleton_self name
  | element _ induction => exact induction
  | field member _ induction =>
      exact List.mem_append_left _ (mem_field_references member induction)
  | additional _ induction => exact List.mem_append_right _ induction
  | anyOf member _ induction => exact mem_member_references member induction
  | oneOf member _ induction => exact mem_member_references member induction
  | allOf member _ induction => exact mem_member_references member induction

end Shape

/-- A shape that a program holds, as that of a component or of a part of an operation. -/
inductive Program.Holds (program : Program) : Shape → Prop where
  | component {entry : String × Component} :
      entry ∈ program.components → Holds program entry.2.shape
  | parameter {operation : Operation} {parameter : Parameter} :
      operation ∈ program.operations → parameter ∈ operation.parameters →
      Holds program parameter.field.shape
  | requestBody {operation : Operation} {body : RequestBody} {content : BodyContent} :
      operation ∈ program.operations → operation.requestBody = some body →
      content ∈ body.contents → Holds program content.shape
  | response {operation : Operation} {response : Response} {content : BodyContent} :
      operation ∈ program.operations → response ∈ operation.responses →
      content ∈ response.contents → Holds program content.shape
  | header {operation : Operation} {response : Response} {header : ResponseHeader} :
      operation ∈ program.operations → response ∈ operation.responses →
      header ∈ response.headers → Holds program header.field.shape

/-- Every name in a shape that the program holds is that of a component. -/
def Program.Closed (program : Program) : Prop :=
  ∀ shape, program.Holds shape → ∀ name, Occurs name shape → name ∈ program.components.keys

theorem Program.holds_of_root {program : Program} {root : String × Shape}
    (member : root ∈ program.roots) : program.Holds root.2 := by
  rcases List.mem_append.mp member with component | operation
  · obtain ⟨component, listed, rfl⟩ := List.mem_map.mp component
    obtain ⟨entry, registered, rfl⟩ := List.mem_map.mp listed
    exact .component registered
  · obtain ⟨operation, listed, inside⟩ := List.mem_flatMap.mp operation
    rcases List.mem_append.mp inside with request | reply
    · rcases List.mem_append.mp request with parameter | content
      · obtain ⟨parameter, own, rfl⟩ := List.mem_map.mp parameter
        exact .parameter listed own
      · obtain ⟨content, own, rfl⟩ := List.mem_map.mp content
        unfold Operation.bodyContents at own
        split at own
        · rename_i body present
          exact .requestBody listed present own
        · cases own
    · obtain ⟨response, own, parts⟩ := List.mem_flatMap.mp reply
      rcases List.mem_append.mp parts with content | header
      · obtain ⟨content, part, rfl⟩ := List.mem_map.mp content
        exact .response listed own part
      · obtain ⟨header, part, rfl⟩ := List.mem_map.mp header
        exact .header listed own part

theorem Program.component_missing_iff {program : Program} {name : String} :
    (program.component? name).isNone = true ↔ name ∉ program.components.keys := by
  rw [component?, Option.isNone_iff_eq_none, Registry.find?_eq_none_iff]

theorem check_closure_of_registered {program : Program}
    (registered : ∀ shape, program.Holds shape → ∀ name ∈ shape.references,
      name ∈ program.components.keys) : program.checkClosure = .ok () := by
  have none : program.danglingReference? = none := by
    apply List.findSome?_eq_none_iff.mpr
    rintro ⟨owner, shape⟩ member
    apply Option.map_eq_none_iff.mpr
    apply List.find?_eq_none.mpr
    intro name inside missing
    exact Program.component_missing_iff.mp missing
      (registered shape (Program.holds_of_root member) name inside)
  unfold Program.checkClosure
  rw [none]

end ApiScaffold.Blueprint
