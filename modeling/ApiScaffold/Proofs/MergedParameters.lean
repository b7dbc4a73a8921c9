import ApiScaffold.Proofs.Folding
import ApiScaffold.Proofs.OperationPlan

/-!
Parameters of a path and of an operation as one list. A parameter is told apart by its name and its
place, through however many references it is stated. It stands where it is stated first and is what
it is stated as last, so that an operation may change a parameter of its path without moving it.
Cookies are left out once the statements are merged.
-/

namespace ApiScaffold.Blueprint

open OpenApi (OrRef Specification)

def StatedParameter.key (stated : StatedParameter) : String × OpenApi.ParameterPlace :=
  (stated.parameter.name, stated.parameter.place)

/-- Statements with one entry for each key. -/
structure Merges (stated merged : List StatedParameter) : Prop where
  distinct : (merged.map (·.key)).Nodup
  /-- The keys stand in the order in which they occur first. -/
  order : merged.map (·.key) = (stated.map (·.key)).eraseDups
  /-- Each entry is the last statement of its key. -/
  latest : ∀ entry ∈ merged, stated.findRev? (·.key = entry.key) = some entry

section Merging

variable {stated merged : List StatedParameter} {next entry : StatedParameter}

theorem restate_cons (known : StatedParameter) (rest : List StatedParameter) :
    restate next (known :: rest) =
      if known.key = next.key then next :: rest else known :: restate next rest := by
  rw [restate]
  simp only [StatedParameter.key, Prod.mk.injEq, Bool.and_eq_true, decide_eq_true_eq]

theorem restate_keys : (restate next merged).map (·.key) =
    if next.key ∈ merged.map (·.key) then merged.map (·.key)
    else merged.map (·.key) ++ [next.key] := by
  induction merged with
  | nil => rfl
  | cons known rest induction =>
      rw [restate_cons, List.map_cons]
      by_cases same : known.key = next.key
      · rw [if_pos same, if_pos (same ▸ List.mem_cons_self), List.map_cons, same]
      · rw [if_neg same, List.map_cons, induction]
        simp only [List.mem_cons, Ne.symm same, false_or]
        split <;> rfl

/-- Of the entries, only the one with the same key is replaced. -/
theorem mem_restate (distinct : (merged.map (·.key)).Nodup) (member : entry ∈ restate next merged) :
    entry = next ∨ entry ∈ merged ∧ entry.key ≠ next.key := by
  induction merged with
  | nil => exact .inl (List.mem_singleton.mp member)
  | cons known rest induction =>
      obtain ⟨apart, others⟩ := List.nodup_cons.mp distinct
      rw [restate_cons] at member
      split at member
      case isTrue same =>
        rcases List.mem_cons.mp member with here | there
        · exact .inl here
        · refine .inr ⟨List.mem_cons_of_mem _ there, fun again => apart ?_⟩
          exact List.mem_map.mpr ⟨entry, there, again.trans same.symm⟩
      case isFalse differs =>
        rcases List.mem_cons.mp member with rfl | there
        · exact .inr ⟨List.mem_cons_self, differs⟩
        · exact (induction others there).imp_right (And.imp_left (List.mem_cons_of_mem _))

theorem Merges.nil : Merges [] [] := ⟨.nil, rfl, List.forall_mem_nil _⟩

/-- One more statement is merged with those before it. -/
theorem Merges.restate (merges : Merges stated merged) (next : StatedParameter) :
    Merges (stated ++ [next]) (Blueprint.restate next merged) := by
  have known : next.key ∈ stated.map (·.key) ↔ next.key ∈ merged.map (·.key) := by
    rw [merges.order, List.mem_eraseDups]
  constructor
  · rw [restate_keys]
    split
    case isTrue => exact merges.distinct
    case isFalse new =>
      rw [List.nodup_append_comm]
      exact List.nodup_cons.mpr ⟨new, merges.distinct⟩
  · rw [restate_keys, List.map_append, List.eraseDups_append, ← merges.order, List.map_singleton,
      List.cons_removeAll, List.nil_removeAll]
    split
    case isTrue old => simp [known.mpr old]
    case isFalse new => simp [mt known.mp new, List.eraseDups_cons]
  · intro entry member
    rw [List.findRev?_eq_find?_reverse, List.reverse_append, List.reverse_singleton,
      List.singleton_append, List.find?_cons]
    rcases mem_restate merges.distinct member with rfl | ⟨kept, differs⟩
    · simp
    · have old := merges.latest entry kept
      rw [List.findRev?_eq_find?_reverse] at old
      simpa [Ne.symm differs] using old

end Merging

/-- An entry of a list of parameters states the parameter that its references lead to. -/
structure States (specification : Specification) (entry : OrRef OpenApi.Parameter × String)
    (stated : StatedParameter) : Prop where
  found : specification.parameter? entry.1 = some stated.parameter
  location : stated.location = entry.2

/-- A parameter is what a statement of it comes down to, read at the location of the statement. -/
structure LoweredFrom (specification : Specification) (operation : String)
    (stated : StatedParameter) (parameter : Parameter) : Prop where
  name : parameter.name = stated.parameter.name
  place : placeOf stated.parameter.place = some parameter.place
  required : parameter.field.optionality = .required ↔
    parameter.place = .path ∨ stated.parameter.required = true
  lowered : ∃ before after, (parameterAt specification operation
    (Identifier.exported stated.parameter.name) parameter.place stated).run.run before =
      (.ok parameter, after)

section Reading

variable {specification : Specification}

/-- All statements are merged, in order. -/
theorem stated_parameters_merged {items : List (OrRef OpenApi.Parameter × String)}
    {earlier known merged : List StatedParameter} (before : Merges earlier known)
    (read : statedParameters specification known items = .ok merged) :
    ∃ stated, List.Forall₂ (States specification) items stated ∧
      Merges (earlier ++ stated) merged := by
  induction items generalizing earlier known with
  | nil =>
      cases read
      exact ⟨[], .nil, (List.append_nil earlier).symm ▸ before⟩
  | cons entry rest induction =>
      obtain ⟨item, location⟩ := entry
      rw [statedParameters] at read
      split at read
      · cases read
      · rename_i parameter found
        obtain ⟨stated, states, merges⟩ := induction (before.restate ⟨parameter, location⟩) read
        rw [List.append_assoc] at merges
        exact ⟨_, .cons ⟨found, rfl⟩ states, merges⟩

theorem scalar_field_optionality {name : String} {schema : Option (OrRef OpenApi.Schema)}
    {required : Bool} {hint location : String} {listsAllowed : Bool} {draft after : Draft}
    {field : Field Shape}
    (ran : (scalarField specification name schema required hint location listsAllowed).run.run draft =
      (.ok field, after)) :
    field.optionality = if required then .required else .optional := by
  rw [scalar_field_of_given, Drafting.run_bind_eq_ok] at ran
  obtain ⟨plain, middle, _, checked⟩ := ran
  rw [scalar_of_run] at checked
  split at checked
  · cases checked
    rfl
  · cases checked

theorem parameter_at_lowered {operation : String} {place : Place} {stated : StatedParameter}
    {draft after : Draft} {parameter : Parameter}
    (kept : placeOf stated.parameter.place = some place)
    (ran : (parameterAt specification operation (Identifier.exported stated.parameter.name) place
      stated).run.run draft = (.ok parameter, after)) :
    LoweredFrom specification operation stated parameter := by
  obtain ⟨plain, middle, scalar, following⟩ := Drafting.run_bind_eq_ok.mp ran
  have optionality := scalar_field_optionality scalar
  obtain ⟨extensions, _, _, ended⟩ := Drafting.run_bind_eq_ok.mp following
  have result : parameter = {
      name := stated.parameter.name
      place
      field := extendField plain stated.parameter extensions } := by
    dsimp only at ended
    split at ended
    · obtain ⟨_, _, _, last⟩ := Drafting.run_bind_eq_ok.mp ended
      cases last
      rfl
    · cases ended
      rfl
  subst result
  refine ⟨rfl, kept, ?_, draft, after, ran⟩
  change plain.optionality = .required ↔ place = .path ∨ _
  rw [optionality]
  cases place <;> cases stated.parameter.required <;> decide

/-- What is read are the parameters of the statements, without cookies. -/
theorem collect_parameters_lowered {operation : String} {known : List (Place × String)}
    {stated : List StatedParameter} {draft after : Draft} {parameters : List Parameter}
    (ran : (collectParameters specification operation known stated).run.run draft =
      (.ok parameters, after)) :
    List.Forall₂ (LoweredFrom specification operation)
      (stated.filter (·.parameter.place ≠ .cookie)) parameters := by
  induction stated generalizing known draft parameters with
  | nil =>
      cases ran
      exact .nil
  | cons first rest induction =>
      rw [collectParameters] at ran
      simp only [Drafting.fail_bind, Drafting.throw_bind] at ran
      split at ran
      case h_1 left =>
        obtain ⟨_, _, _, others⟩ := Drafting.run_bind_eq_ok.mp ran
        have cookie : first.parameter.place = .cookie := by
          cases stands : first.parameter.place <;> rw [stands] at left <;> first | rfl | cases left
        rw [List.filter_cons_of_neg (by simp [cookie])]
        exact induction others
      case h_2 place kept =>
        have read : first.parameter.place ≠ .cookie := by
          intro cookie
          rw [cookie] at kept
          cases kept
        rw [List.filter_cons_of_pos (by simp [read])]
        split at ran
        · cases ran
        split at ran
        · cases ran
        obtain ⟨lowered, _, here, following⟩ := Drafting.run_bind_eq_ok.mp ran
        obtain ⟨others, _, there, ended⟩ := Drafting.run_bind_eq_ok.mp following
        cases ended
        exact .cons (parameter_at_lowered kept here) (induction there)

end Reading

/-- The parameters of an operation are those of its path and then its own, merged, without cookies.
For each name and place there is one, where it is stated first, made of the statement that comes
last. It is required at a path, and elsewhere iff that statement says so. -/
theorem parameters_merged {specification : Specification} {name : String} {item : OpenApi.PathItem}
    {operation : OpenApi.Operation} {pathLocation location : String} {draft after : Draft}
    {parameters : List Parameter}
    (success : (parametersOf specification name item operation pathLocation location).run.run draft =
      (.ok parameters, after)) :
    ∃ stated merged,
      List.Forall₂ (States specification)
        (locate pathLocation item.parameters ++ locate location operation.parameters) stated ∧
      Merges stated merged ∧
      List.Forall₂ (LoweredFrom specification name)
        (merged.filter (·.parameter.place ≠ .cookie)) parameters := by
  obtain ⟨merged, _, read, collected⟩ := Drafting.run_bind_eq_ok.mp success
  rw [Drafting.run_lift_except] at read
  obtain ⟨stated, states, merges⟩ := stated_parameters_merged Merges.nil (Prod.ext_iff.mp read).1
  exact ⟨stated, merged, states, merges, collect_parameters_lowered collected⟩

/-- A lending desk: the page is stated for the path, by reference, and twice for the operation. -/
def lending : Specification where
  openapi := "3.0.0"
  components := { parameters := [
    ("page", .object { name := "page", place := .query }),
    ("limit", .reference "#/components/parameters/page")] }

def lendingPath : OpenApi.PathItem where
  parameters := [
    .object { name := "book", place := .path },
    .reference "#/components/parameters/limit",
    .object { name := "session", place := .cookie }]

def lendingOperation : OpenApi.Operation where
  parameters := [
    .object { name := "page", place := .header },
    .object { name := "page", place := .query },
    .object { name := "page", place := .query, required := true }]

theorem lending_merges_pages :
    ∃ parameters after,
      (parametersOf lending "GetBooks" lendingPath lendingOperation "#/paths/~1books"
        "#/paths/~1books/get").run.run {} = (.ok parameters, after) ∧
      parameters.map (fun parameter => (parameter.name, parameter.place, parameter.field.isRequired)) =
        [("book", .path, true), ("page", .query, true), ("page", .header, false)] ∧
      ∃ stated merged, Merges stated merged ∧
        List.Forall₂ (LoweredFrom lending "GetBooks")
          (merged.filter (·.parameter.place ≠ .cookie)) parameters := by
  let run := (parametersOf lending "GetBooks" lendingPath lendingOperation "#/paths/~1books"
    "#/paths/~1books/get").run.run {}
  have ends : run.1.toOption.any fun parameters =>
      parameters.map (fun parameter =>
        (parameter.name, parameter.place, parameter.field.isRequired)) =
      [("book", .path, true), ("page", .query, true), ("page", .header, false)] := by
    decide +kernel
  obtain ⟨parameters, drawn, known⟩ := exists_ok_of_any ends
  have success : run = (.ok parameters, run.2) := Prod.ext drawn rfl
  obtain ⟨stated, merged, _, merges, lowered⟩ := parameters_merged success
  exact ⟨parameters, run.2, success, of_decide_eq_true known, stated, merged, merges, lowered⟩

end ApiScaffold.Blueprint
