import ApiScaffold.Proofs.ProgramClosure

/-!
What the check of a finished program finds. It goes through every shape that the program holds, and
the references that it collects are just the names inside of these. So it passes iff the program is
closed, and otherwise it reports a name that has no component.
-/

namespace ApiScaffold.Blueprint

namespace Shape

mutual
theorem occurs_of_mem_references {name : String} :
    ∀ shape : Shape, name ∈ shape.references → Occurs name shape
  | .primitive _, member => absurd member List.not_mem_nil
  | .array element _ _, member => .element (occurs_of_mem_references element member)
  | .object fields _ additional, member => by
      rcases List.mem_append.mp member with inField | beside
      · obtain ⟨entry, listed, occurs⟩ := occurs_of_mem_field_references fields inField
        exact .field listed occurs
      · obtain ⟨shape, rfl, occurs⟩ := occurs_of_mem_additional_references additional beside
        exact .additional occurs
  | .enum _, member => absurd member List.not_mem_nil
  | .named other, member => by
      rw [List.mem_singleton.mp member]
      exact .here
  | .anyOf members, member => by
      obtain ⟨part, listed, occurs⟩ := occurs_of_mem_member_references members member
      exact .anyOf listed occurs
  | .oneOf members, member => by
      obtain ⟨part, listed, occurs⟩ := occurs_of_mem_member_references members member
      exact .oneOf listed occurs
  | .allOf members, member => by
      obtain ⟨part, listed, occurs⟩ := occurs_of_mem_member_references members member
      exact .allOf listed occurs
  | .custom _, member => absurd member List.not_mem_nil
termination_by structural shape => shape

theorem occurs_of_mem_field_references {name : String} :
    ∀ fields : List (String × Field Shape), name ∈ fieldReferences fields →
      ∃ entry ∈ fields, Occurs name entry.2.shape
  | [], member => absurd member List.not_mem_nil
  | (_, { shape, .. }) :: rest, member => by
      rcases List.mem_append.mp member with here | there
      · exact ⟨_, List.mem_cons_self, occurs_of_mem_references shape here⟩
      · obtain ⟨entry, listed, occurs⟩ := occurs_of_mem_field_references rest there
        exact ⟨entry, List.mem_cons_of_mem _ listed, occurs⟩
termination_by structural fields => fields

theorem occurs_of_mem_additional_references {name : String} :
    ∀ additional : Additional Shape, name ∈ additionalReferences additional →
      ∃ shape, additional = .typed shape ∧ Occurs name shape
  | .forbidden, member => absurd member List.not_mem_nil
  | .any, member => absurd member List.not_mem_nil
  | .typed shape, member => ⟨shape, rfl, occurs_of_mem_references shape member⟩
  | .goMapType _, member => absurd member List.not_mem_nil
termination_by structural additional => additional

theorem occurs_of_mem_member_references {name : String} :
    ∀ members : List Shape, name ∈ memberReferences members →
      ∃ part ∈ members, Occurs name part
  | [], member => absurd member List.not_mem_nil
  | shape :: rest, member => by
      rcases List.mem_append.mp member with here | there
      · exact ⟨shape, List.mem_cons_self, occurs_of_mem_references shape here⟩
      · obtain ⟨part, listed, occurs⟩ := occurs_of_mem_member_references rest there
        exact ⟨part, List.mem_cons_of_mem _ listed, occurs⟩
termination_by structural members => members
end

/-- The references of a shape are the names inside of it, at any depth. -/
theorem mem_references_iff {name : String} {shape : Shape} :
    name ∈ shape.references ↔ Occurs name shape :=
  ⟨occurs_of_mem_references shape, mem_references_of_occurs⟩

end Shape

namespace Program

variable {program : Program}

theorem root_of_holds {shape : Shape} (held : program.Holds shape) :
    ∃ owner, (owner, shape) ∈ program.roots := by
  have of_operation {operation : Operation} {owner : String}
      (listed : operation ∈ program.operations)
      (root : (owner, shape) ∈ rootsOfOperation operation) :
      ∃ owner, (owner, shape) ∈ program.roots :=
    ⟨owner, List.mem_append_right _ (List.mem_flatMap.mpr ⟨operation, listed, root⟩)⟩
  cases held with
  | @component entry registered =>
      have value : entry.2 ∈ program.components.values := List.mem_map_of_mem registered
      exact ⟨_, List.mem_append_left _ (List.mem_map.mpr ⟨entry.2, value, rfl⟩)⟩
  | @parameter operation parameter listed own =>
      apply of_operation listed
      exact List.mem_append_left _ (List.mem_append_left _ (List.mem_map.mpr ⟨parameter, own, rfl⟩))
  | @requestBody operation body content listed present own =>
      have among : content ∈ operation.bodyContents := by
        rw [Operation.bodyContents, present]
        exact own
      apply of_operation listed
      exact List.mem_append_left _ (List.mem_append_right _ (List.mem_map.mpr ⟨content, among, rfl⟩))
  | @response operation response content listed answers own =>
      apply of_operation listed
      refine List.mem_append_right _ (List.mem_flatMap.mpr ⟨response, answers, ?_⟩)
      exact List.mem_append_left _ (List.mem_map.mpr ⟨content, own, rfl⟩)
  | @header operation response header listed answers own =>
      apply of_operation listed
      refine List.mem_append_right _ (List.mem_flatMap.mpr ⟨response, answers, ?_⟩)
      exact List.mem_append_right _ (List.mem_map.mpr ⟨header, own, rfl⟩)

/-- A name inside of a shape that the program holds for `owner`, without a component. -/
def Dangles (program : Program) (owner name : String) : Prop :=
  ∃ shape, (owner, shape) ∈ program.roots ∧ program.Holds shape ∧ Occurs name shape ∧
    name ∉ program.components.keys

theorem dangles_of_dangling_reference {owner name : String}
    (found : program.danglingReference? = some (owner, name)) : program.Dangles owner name := by
  obtain ⟨⟨holder, shape⟩, root, first⟩ := List.exists_of_findSome?_eq_some found
  obtain ⟨missing, here, same⟩ := Option.map_eq_some_iff.mp first
  cases same
  have unknown : (program.component? name).isNone = true :=
    @List.find?_some _ (fun name => (program.component? name).isNone) _ _ here
  exact ⟨shape, root, holds_of_root root,
    Shape.mem_references_iff.mp (List.mem_of_find?_eq_some here), component_missing_iff.mp unknown⟩

theorem dangling_reference_eq_none_iff : program.danglingReference? = none ↔ program.Closed := by
  constructor
  · intro none shape held name occurs
    obtain ⟨owner, root⟩ := root_of_holds held
    have clear := Option.map_eq_none_iff.mp (List.findSome?_eq_none_iff.mp none (owner, shape) root)
    have known := List.find?_eq_none.mp clear name (Shape.mem_references_iff.mpr occurs)
    exact Decidable.not_not.mp (mt component_missing_iff.mpr known)
  · intro closed
    apply Option.eq_none_iff_forall_ne_some.mpr
    rintro ⟨owner, name⟩ found
    obtain ⟨shape, _, held, occurs, missing⟩ := dangles_of_dangling_reference found
    exact missing (closed shape held name occurs)

/-- A finished program passes its check iff every name in it, at any depth of any shape that it holds,
is that of a component. Otherwise the report is of the last phase and names one that is missing, and
what holds it. -/
theorem closure_checked (program : Program) :
    (program.checkClosure = .ok () ↔ program.Closed) ∧
    (¬ program.Closed → ∃ diagnostic, program.checkClosure = .error diagnostic ∧
      diagnostic.kind = .schemaInvalid ∧ diagnostic.phase = .emit ∧
      ∃ owner name, program.Dangles owner name ∧ diagnostic.location = some owner ∧
        diagnostic.message = s!"reference `{name}` does not resolve to a registered component") := by
  rw [← dangling_reference_eq_none_iff]
  unfold checkClosure
  cases found : program.danglingReference? with
  | none => exact ⟨⟨fun _ => rfl, fun _ => rfl⟩, fun dangling => absurd rfl dangling⟩
  | some pair =>
      obtain ⟨owner, name⟩ := pair
      refine ⟨⟨nofun, nofun⟩, fun _ => ⟨_, rfl, rfl, rfl, owner, name, ?_, rfl, rfl⟩⟩
      exact dangles_of_dangling_reference found

/-- A program with one component, and with `name` deep inside of a header that it sends. -/
def lighthouse (name : String) : Program where
  title := "lighthouse"
  components := [("Lamp", {
    name := "Lamp", shape := .ofKind .string, description := none, origin := .declared "Lamp"
    skipValidation := false })]
  operations := [{
    name := "GetLight", method := .get, path := "/light", tag := "Default", summary := none
    description := none, parameters := [], requestBody := none, responses := [answer]
    security := [], skipSecurityCheck := false }]
  securitySchemes := []
  document := "{}"
  config := { package := "api", path := "" }
where
  signal : Field Shape := {
    jsonName := "X-Signal"
    shape := .object [] [] (.typed (.allOf [.array (.named name) none none]))
    optionality := .optional }
  answer : Response := {
    status := .code 200, description := none, contents := []
    headers := [{ name := "X-Signal", field := signal }] }

theorem lighthouse_checked : (lighthouse "Lamp").Closed ∧ ¬ (lighthouse "Ghost").Closed ∧
    (lighthouse "Ghost").checkClosure =
      .error ((Problem.unregistered "Ghost").report "operation GetLight header X-Signal") ∧
    ∃ name, (lighthouse "Ghost").Dangles "operation GetLight header X-Signal" name := by
  have dark := closure_checked (lighthouse "Ghost")
  have unlit : ¬ (lighthouse "Ghost").Closed := mt dark.1.mpr nofun
  obtain ⟨_, ⟨⟩, _, _, _, name, dangles, ⟨⟩, _⟩ := dark.2 unlit
  exact ⟨(closure_checked (lighthouse "Lamp")).1.mp rfl, unlit, rfl, name, dangles⟩

end Program

end ApiScaffold.Blueprint
