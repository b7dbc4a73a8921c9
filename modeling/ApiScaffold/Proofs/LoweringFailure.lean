import ApiScaffold.Blueprint.Limits
import ApiScaffold.Blueprint.Parameters
import ApiScaffold.Blueprint.Security

/-!
Failures of the parts of lowering that need no draft. Each is a diagnostic of the lowering phase that
names no operation; a part that is given a place of the document blames nothing outside of it. Only
the check of a finished program reports in another phase.
-/

namespace ApiScaffold.Blueprint

open OpenApi (Extensions Schema OrRef Specification Table)

def Under (place location : String) : Prop :=
  ∃ rest, location.toList = place.toList ++ rest ∧ (rest = [] ∨ rest.head? = some '/')

namespace Under

variable {place location tail : String}

theorem refl : Under place place := ⟨[], (List.append_nil _).symm, .inl rfl⟩

theorem trans {inner : String} (outer : Under place inner) (deeper : Under inner location) :
    Under place location := by
  obtain ⟨first, same, start⟩ := outer
  obtain ⟨second, whole, startNext⟩ := deeper
  refine ⟨first ++ second, by rw [whole, same, List.append_assoc], ?_⟩
  cases first with
  | nil => exact startNext
  | cons c first => exact .inr (start.resolve_left (List.cons_ne_nil c first))

theorem step (slash : tail.toList.head? = some '/') : Under place (place ++ tail) :=
  ⟨tail.toList, String.toList_append, .inr slash⟩

theorem named {name : String} (slash : tail.toList.head? = some '/') :
    Under place (place ++ tail ++ name) := by
  rw [String.append_assoc]
  apply step
  rw [String.toList_append, List.head?_append, slash]
  rfl

end Under

/-- A diagnostic of the lowering phase that names no operation. The place that it blames, if it
blames one, is among the given. -/
structure Blames (places : String → Prop) (diagnostic : Diagnostic) : Prop where
  phase : diagnostic.phase = .lower
  unattributed : diagnostic.operation = none
  inside : ∀ location, diagnostic.location = some location → places location

namespace Blames

variable {places : String → Prop} {location : String}

theorem report {problem : Problem} (phase : problem.phase = .lower) (here : places location) :
    Blames places (problem.report location) :=
  ⟨phase, rfl, fun _ same => Option.some.inj same ▸ here⟩

theorem extension {problem : ExtensionProblem} {key : String} (here : places location) :
    Blames places (problem.report location key) :=
  ⟨rfl, rfl, fun _ same => Option.some.inj same ▸ here⟩

theorem collision {name first second : String} :
    Blames places (Diagnostic.nameCollision .lower name first second) := ⟨rfl, rfl, nofun⟩

theorem collision_at {name first second : String} (here : places location) :
    Blames places ((Diagnostic.nameCollision .lower name first second).located location) :=
  ⟨rfl, rfl, fun _ same => Option.some.inj same ▸ here⟩

theorem imp {weaker : String → Prop} {diagnostic : Diagnostic} (blames : Blames places diagnostic)
    (weakens : ∀ location, places location → weaker location) : Blames weaker diagnostic :=
  ⟨blames.phase, blames.unattributed,
    fun location same => weakens location (blames.inside location same)⟩

end Blames

variable {α β : Type} {places : String → Prop} {specification : Specification}
  {hint location : String}

/-- If the outcome is a failure, it is one of the lowering phase. -/
def FailsInLowering (outcome : Except Diagnostic α) : Prop :=
  ∀ diagnostic, outcome = .error diagnostic → diagnostic.phase = .lower

/-- If the outcome is a failure, it blames one of the given places. -/
def FailsAt (places : String → Prop) (outcome : Except Diagnostic α) : Prop :=
  ∀ diagnostic, outcome = .error diagnostic → Blames places diagnostic

namespace FailsAt

theorem ok (value : α) : FailsAt places (.ok value) := fun _ => nofun

theorem error {diagnostic : Diagnostic} (blames : Blames places diagnostic) :
    FailsAt places (.error diagnostic : Except Diagnostic α) :=
  fun _ same => Except.error.inj same ▸ blames

theorem bind {outcome : Except Diagnostic α} {next : α → Except Diagnostic β}
    (first : FailsAt places outcome) (second : ∀ value, FailsAt places (next value)) :
    FailsAt places (outcome >>= next) := by
  cases outcome with
  | error diagnostic => exact error (first diagnostic rfl)
  | ok value => exact second value

theorem imp {weaker : String → Prop} {outcome : Except Diagnostic α}
    (fails : FailsAt places outcome) (weakens : ∀ location, places location → weaker location) :
    FailsAt weaker outcome :=
  fun diagnostic same => (fails diagnostic same).imp weakens

theorem in_lowering {outcome : Except Diagnostic α} (fails : FailsAt places outcome) :
    FailsInLowering outcome :=
  fun diagnostic same => (fails diagnostic same).phase

end FailsAt

section Parts

open FailsAt

theorem flag_fails_at {key : String} {value : Json} :
    FailsAt (Under location) (Extensions.flag location key value) := by
  cases value with
  | bool => exact ok _
  | _ => exact error (.extension .refl)

theorem text_fails_at {key : String} {value : Json} :
    FailsAt (Under location) (Extensions.text location key value) := by
  cases value with
  | string written =>
      simp only [Extensions.text]
      split
      · exact error (.extension .refl)
      · exact ok written
  | _ => exact error (.extension .refl)

theorem qualified_fails_at {key : String} {value : Json} :
    FailsAt (Under location) (Extensions.qualified location key value) := by
  apply bind text_fails_at
  intro written
  split
  · exact ok _
  · exact error (.extension .refl)

theorem check_pattern_fails_at {pattern : String} :
    FailsAt (Under location) (OpenApi.checkPattern pattern location) := by
  unfold OpenApi.checkPattern
  split
  · exact ok ()
  · exact error (.report rfl .refl)

theorem read_member_fails_at {extensions : Extensions} {key : String} {value : Json} :
    FailsAt (Under location) (Extensions.readMember location extensions key value) := by
  unfold Extensions.readMember
  split
  · exact bind qualified_fails_at fun _ => ok _
  · exact bind text_fails_at fun _ => ok _
  · exact bind qualified_fails_at fun _ => ok _
  · exact bind flag_fails_at fun _ => ok _
  · apply bind text_fails_at
    intro pattern
    refine bind (check_pattern_fails_at.imp fun _ => ?_) fun _ => ok _
    exact Under.trans (.named rfl)
  · exact bind flag_fails_at fun _ => ok _
  · exact bind flag_fails_at fun _ => ok _
  · exact bind flag_fails_at fun _ => ok _
  · exact bind flag_fails_at fun _ => ok _
  · exact ok _

theorem read_extensions_fails_at {members : Table Json} :
    FailsAt (Under location) (Extensions.read members location) := by
  unfold Extensions.read
  generalize ({} : Extensions) = before
  induction members generalizing before with
  | nil => exact ok before
  | cons member rest induction =>
      rw [List.foldlM_cons]
      exact bind read_member_fails_at induction

theorem reference_shape_fails_at {target : String} :
    FailsAt (Under location) (referenceShape specification target location) := by
  unfold referenceShape
  split
  · split
    · exact ok _
    · exact error (.report rfl .refl)
  · exact error (.report rfl .refl)

theorem plain_shape_fails_at {schema : Schema} :
    FailsAt (Under location) (plainShape schema location) := by
  unfold plainShape
  split <;> first | exact ok _ | exact error (.report rfl .refl)

theorem enum_members_fails_at {base : PrimitiveKind} {known : List EnumMember} {index : Nat}
    {values : List Json} :
    FailsAt (Under location) (enumMembers base location known index values) := by
  fun_induction enumMembers base location known index values with
  | case1 known index => exact ok known
  | case2 known index rest induction => exact induction
  | case3 => exact error (.report rfl (.named rfl))
  | case4 => exact error (.collision_at .refl)
  | case5 => assumption

theorem enumeration_fails_at {schema : Schema} :
    FailsAt (Under location) (enumerationOf schema location) := by
  have base : FailsAt (Under location) (enumBase schema location) := by
    unfold enumBase
    split <;> first | exact ok _ | exact error (.report rfl .refl)
  refine bind base fun base => bind enum_members_fails_at fun members => ?_
  dsimp only
  split
  · exact error (.report rfl .refl)
  · exact ok _

theorem bound_fails_at {limit : Option Binary64} {exclusive : Option Json} {keyword : String} :
    FailsAt (Under location) (boundOf limit exclusive keyword location) := by
  unfold boundOf
  split
  · exact ok _
  · exact ok _
  · split
    · exact ok _
    · exact error (.report rfl (.named rfl))
  · exact ok _
  · exact error (.report rfl (.named rfl))

theorem constraints_fails_at {schema : Schema} :
    FailsAt (Under location) (constraintsOf schema location) := by
  have bounds : FailsAt (Under location) (do
      let minimum ← boundOf schema.minimum schema.exclusiveMinimum "exclusiveMinimum" location
      let maximum ← boundOf schema.maximum schema.exclusiveMaximum "exclusiveMaximum" location
      return ({
        minLength := schema.minLength, maxLength := schema.maxLength, minimum, maximum
        pattern := schema.pattern } : Constraints)) :=
    bind bound_fails_at fun _ => bind bound_fails_at fun _ => ok _
  unfold constraintsOf
  dsimp only
  split
  · exact bind (check_pattern_fails_at.imp fun _ => Under.trans (.step rfl)) fun _ => bounds
  · exact bounds

theorem field_rules_fails_at {item : OrRef Schema} :
    FailsAt (Under location) (fieldRules item location) := by
  cases item with
  | reference target => exact ok _
  | object schema =>
      exact bind read_extensions_fails_at fun _ => bind constraints_fails_at fun _ => ok _

theorem stated_parameters_fails_at {known : List StatedParameter}
    {items : List (OrRef OpenApi.Parameter × String)} (here : ∀ entry ∈ items, places entry.2) :
    FailsAt places (statedParameters specification known items) := by
  induction items generalizing known with
  | nil => exact ok known
  | cons entry rest induction =>
      obtain ⟨first, others⟩ := List.forall_mem_cons.mp here
      unfold statedParameters
      split
      · exact error (.report rfl first)
      · exact induction others

theorem scheme_kind_fails_at {scheme : OpenApi.SecurityScheme} :
    FailsAt (Under location) (schemeKind scheme location) := by
  cases scheme with
  | http word format description =>
      simp only [schemeKind]
      split
      · exact ok _
      · split
        · exact ok _
        · exact error (.report rfl .refl)
  | _ => exact ok _

def SchemePlace (location : String) : Prop :=
  ∃ name, Under (OpenApi.securitySchemesPlace ++ name) location

theorem collect_schemes_fails_at {known : List SecurityScheme}
    {table : Table (OrRef OpenApi.SecurityScheme)} :
    FailsAt SchemePlace (collectSchemes specification known table) := by
  induction table generalizing known with
  | nil => exact ok known
  | cons entry rest induction =>
      unfold collectSchemes
      dsimp only
      split
      · exact error (.report rfl ⟨entry.1, .refl⟩)
      · split
        · exact error .collision
        · exact bind (scheme_kind_fails_at.imp fun _ under => ⟨entry.1, under⟩) fun _ => induction

theorem security_schemes_fails_at : FailsAt SchemePlace (securitySchemesOf specification) :=
  bind collect_schemes_fails_at fun _ => ok _

theorem requirements_fails_at {schemes : List SecurityScheme} {index : Nat}
    {requirements : List OpenApi.SecurityRequirement} :
    FailsAt (Under location) (collectRequirements schemes location index requirements) := by
  induction requirements generalizing index with
  | nil => exact ok []
  | cons requirement rest induction =>
      unfold collectRequirements
      dsimp only
      split
      · exact error (.report rfl (.named rfl))
      · exact bind induction fun _ => ok _

theorem security_fails_at {schemes : List SecurityScheme} {operation : OpenApi.Operation} :
    FailsAt (Under location) (securityOf specification schemes operation location) := by
  unfold securityOf
  split
  · exact requirements_fails_at
  · exact ok []

end Parts

section Phases

theorem read_extensions_fails (members : List (String × Json)) (location : String) :
    FailsInLowering (Extensions.read members location) := read_extensions_fails_at.in_lowering

theorem reference_shape_fails (specification : Specification) (reference location : String) :
    FailsInLowering (referenceShape specification reference location) :=
  reference_shape_fails_at.in_lowering

theorem plain_shape_fails (schema : Schema) (location : String) :
    FailsInLowering (plainShape schema location) := plain_shape_fails_at.in_lowering

theorem enumeration_fails (schema : Schema) (location : String) :
    FailsInLowering (enumerationOf schema location) := enumeration_fails_at.in_lowering

theorem field_rules_fails (item : OrRef Schema) (location : String) :
    FailsInLowering (fieldRules item location) := field_rules_fails_at.in_lowering

theorem stated_parameters_fails (specification : Specification) (known : List StatedParameter)
    (items : List (OrRef OpenApi.Parameter × String)) :
    FailsInLowering (statedParameters specification known items) := by
  have anywhere : FailsAt (fun _ => True) (statedParameters specification known items) :=
    stated_parameters_fails_at fun _ _ => trivial
  exact anywhere.in_lowering

theorem security_schemes_fails (specification : Specification) :
    FailsInLowering (securitySchemesOf specification) := security_schemes_fails_at.in_lowering

theorem security_fails (specification : Specification) (schemes : List SecurityScheme)
    (operation : OpenApi.Operation) (location : String) :
    FailsInLowering (securityOf specification schemes operation location) :=
  security_fails_at.in_lowering

end Phases

end ApiScaffold.Blueprint
