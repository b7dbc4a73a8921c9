import ApiScaffold.Proofs.RecursiveTypes
import ApiScaffold.Proofs.SkippedValidation

/-!
The validators of a program as a least fixed point. Knowing more validators never makes a value
validate less, so whatever is noticed still validates in the end, and every set that is closed under
validation has all that was noticed. In which order components are visited makes no difference, and
none of this needs the components to be free of circles; only the look into lists does, which ends
because no component is made of lists of itself.
-/

namespace ApiScaffold.Blueprint

open Relation (TransGen ReflTransGen)

def Shape.core? : Shape → Option String
  | .named name => some name
  | .array element _ _ => core? element
  | _ => none

namespace Program

/-- A component is another one, or lists of it. -/
def IsMadeOf (program : Program) (outer inner : String) : Prop :=
  ∃ component, program.component? outer = some component ∧ component.shape.core? = some inner

structure Registered (program : Program) : Prop where
  distinct : DistinctKeys program.components
  named : ∀ entry ∈ program.components, entry.2.name = entry.1

end Program

end ApiScaffold.Blueprint

namespace ApiScaffold.Server

open Blueprint Go Source
open Relation (TransGen ReflTransGen)

theorem registered_well_named {program : Program} (registered : program.Registered) :
    WellNamed program := by
  intro name component
  constructor
  · intro found
    have listed := Registry.mem_of_find? found
    exact ⟨List.mem_map_of_mem listed, registered.named _ listed⟩
  · rintro ⟨member, rfl⟩
    obtain ⟨⟨key, known⟩, listed, rfl⟩ := List.mem_map.mp member
    have same : known.name = key := registered.named _ listed
    rw [same]
    exact registered.distinct.lookup_of_mem listed

namespace Outline

section Lists

variable {outline : Outline}

def LooksInto (outline : Outline) (inner outer : Shape) : Prop :=
  outline.element? outer = some inner

/-- The look into lists ends, if it does for the name at the bottom of them. -/
theorem looks_end_of_core (shape : Shape)
    (core : ∀ name, shape.core? = some name → Acc outline.LooksInto (.named name)) :
    Acc outline.LooksInto shape := by
  fun_induction Shape.core? shape with
  | case1 name => exact core name rfl
  | case2 element minItems maxItems induction =>
      constructor
      intro inner looks
      cases looks
      exact induction core
  | case3 shape unnamed bare =>
      constructor
      intro inner looks
      have plain : outline.resolve shape = shape := (Reaches.here unnamed).resolve
      unfold LooksInto element? at looks
      rw [plain] at looks
      split at looks
      case h_1 element minItems maxItems => exact absurd rfl (bare element minItems maxItems)
      case h_2 => cases looks

/-- Behind a name stands what some component is that the name is made of. -/
theorem made_of_reached {steps : Nat} {name : String} {target : Shape}
    (reaches : Reaches outline.program.components steps (.named name) target) :
    ∃ other component, ReflTransGen outline.program.IsMadeOf name other ∧
      outline.program.component? other = some component ∧ component.shape = target := by
  generalize start : Shape.named name = shape at reaches
  induction reaches generalizing name with
  | here plain => exact absurd start.symm (plain name)
  | @step known component target steps found rest induction =>
      obtain rfl := Shape.named.inj start
      cases shape : component.shape with
      | named next =>
          obtain ⟨other, last, leads, known, same⟩ := induction shape.symm
          exact ⟨other, last, .head ⟨component, found, by rw [shape]; rfl⟩ leads, known, same⟩
      | _ =>
          rw [shape] at rest
          cases rest
          exact ⟨name, component, .refl, found, shape⟩

/-- By induction on what a name is made of: the elements behind a name have a name at their bottom
that the first one is made of. -/
theorem looks_end (acyclic : ∀ name, ¬ TransGen outline.program.IsMadeOf name name) :
    WellFounded outline.LooksInto := by
  have unknown {name : String} (missing : name ∉ outline.program.components.keys) :
      Acc outline.LooksInto (.named name) := by
    constructor
    intro inner looks
    have left : outline.resolve (.named name) = .named name := by
      rw [resolve, Program.resolve, resolveIn, resolveWithin,
        (Registry.find?_eq_none_iff _ _).mpr missing]
    unfold LooksInto element? at looks
    rw [left] at looks
    cases looks
  have apart (name : String) : ¬ TransGen (TransGen outline.program.IsMadeOf) name name := by
    rw [Relation.transGen_eq_self]
    exact acyclic name
  have list {inner : Shape} {name : String} (looks : outline.LooksInto inner (.named name)) :
      ∃ minItems maxItems, outline.resolve (.named name) = .array inner minItems maxItems := by
    unfold LooksInto element? at looks
    split at looks
    case h_1 element minItems maxItems list =>
      cases looks
      exact ⟨minItems, maxItems, list⟩
    case h_2 => cases looks
  have known : ∀ name ∈ outline.program.components.keys, Acc outline.LooksInto (.named name) := by
    refine acyclic_induction apart ?_
    intro name _ smaller
    constructor
    intro inner looks
    obtain ⟨minItems, maxItems, list⟩ := list looks
    have plain : (outline.resolve (.named name)).Plain := by
      rw [list]
      intro name same
      cases same
    obtain ⟨steps, reaches⟩ := Reaches.of_resolve_within plain
    obtain ⟨other, component, leads, found, same⟩ := made_of_reached reaches
    apply looks_end_of_core
    intro core bottom
    by_cases registered : core ∈ outline.program.components.keys
    · refine smaller core registered (.tail' leads ⟨component, found, ?_⟩)
      rw [same]
      exact (congrArg Shape.core? list).trans bottom
    · exact unknown registered
  constructor
  intro shape
  apply looks_end_of_core
  intro name _
  by_cases registered : name ∈ outline.program.components.keys
  · exact known name registered
  · exact unknown registered

theorem answered (acyclic : ∀ name, ¬ TransGen outline.program.IsMadeOf name name) (shape : Shape) :
    outline.Answers shape (outline.nestedValidates shape) := by
  have answer : ∃ answer, outline.Answers shape answer := by
    induction shape using (looks_end acyclic).induction with
    | h shape induction =>
        cases known : outline.validates shape with
        | true => exact ⟨_, .here (.inl known)⟩
        | false =>
            cases inside : outline.element? shape with
            | none => exact ⟨_, .here (.inr inside)⟩
            | some element =>
                obtain ⟨answer, answers⟩ := induction element inside
                exact ⟨answer, .into known inside answers⟩
  obtain ⟨answer, answers⟩ := answer
  rwa [answers.nested_validates]

end Lists

namespace Below

variable {fewer more : Outline} (below : fewer.Below more)

include below

theorem resolve (shape : Shape) : fewer.resolve shape = more.resolve shape := by
  rw [Outline.resolve, Outline.resolve, below.program]

theorem checks_here {shape : Shape} (checks : fewer.checksHere shape = true) :
    more.checksHere shape = true := by
  unfold checksHere at checks ⊢
  rw [← below.resolve]
  rcases Bool.or_eq_true_iff.mp checks with known | own
  · rw [below.validates known, Bool.true_or]
  · rw [own, Bool.or_true]

theorem descends {shape : Shape} {path : List Shape} (descends : fewer.Descends shape path) :
    more.Descends shape path := by
  induction descends with
  | here checks => exact .here (below.checks_here checks)
  | into inside _ induction =>
      refine .into ?_ induction
      unfold element? at inside ⊢
      rwa [← below.resolve]

theorem nested_validates {shape : Shape} (validates : fewer.nestedValidates shape = true) :
    more.nestedValidates shape = true := by
  obtain ⟨path, descends⟩ := nested_validates_iff.mp validates
  exact nested_validates_iff.mpr ⟨path, below.descends descends⟩

theorem field_validates {field : Blueprint.Field Shape}
    (validates : fewer.fieldValidates field = true) : more.fieldValidates field = true := by
  have same : fewer.rules field = more.rules field := by
    unfold rules
    rw [below.resolve]
  unfold fieldValidates at validates ⊢
  rw [← same]
  obtain ⟨checked, either⟩ := Bool.and_eq_true_iff.mp validates
  rcases Bool.or_eq_true_iff.mp either with ruled | nested
  · rw [checked, ruled, Bool.true_or, Bool.and_self]
  · rw [checked, below.nested_validates nested, Bool.or_true, Bool.and_self]

theorem component_validates {component : Component}
    (validates : fewer.componentValidates component = true) :
    more.componentValidates component = true := by
  unfold componentValidates at validates ⊢
  obtain ⟨kept, own⟩ := Bool.and_eq_true_iff.mp validates
  rw [kept, Bool.true_and]
  cases shape : component.shape with
  | object fields required additional =>
      rw [shape] at own
      obtain ⟨entry, listed, valid⟩ := List.any_eq_true.mp own
      exact List.any_eq_true.mpr ⟨entry, listed, below.field_validates valid⟩
  | array element minItems maxItems =>
      rw [shape] at own
      exact below.validates own
  | named name =>
      rw [shape] at own
      exact below.known name own
  | _ =>
      rw [shape] at own
      exact own

end Below

section Visits

variable {program : Program} {outline : Outline}

/-- All components that validate are known to. -/
def Closed (outline : Outline) : Prop :=
  ∀ component ∈ outline.program.components.values,
    outline.componentValidates component = true → outline.hasValidator component.name = true

/-- What components are noticed when they are visited in any order, alone or together. -/
inductive Visited (program : Program) : Outline → Prop where
  | start : Visited program { program }
  | visit {outline : Outline} {found : List String} (before : Visited program outline)
    (validate : ∀ name ∈ found, ∃ component ∈ program.components.values,
      component.name = name ∧ outline.componentValidates component = true) :
    Visited program (outline.noticing found)

theorem Visited.program_eq (visited : Visited program outline) : outline.program = program := by
  induction visited with
  | start => rfl
  | visit _ _ induction => exact induction

/-- Whatever is noticed validates, and still does when more is known. -/
theorem Visited.validates (visited : Visited program outline) :
    ∀ name, outline.hasValidator name = true → ∃ component ∈ program.components.values,
      component.name = name ∧ outline.componentValidates component = true := by
  induction visited with
  | start => exact fun _ none => absurd none Bool.false_ne_true
  | @visit outline found before validate induction =>
      intro name marked
      have earlier : ∃ component ∈ program.components.values,
          component.name = name ∧ outline.componentValidates component = true := by
        rcases List.mem_append.mp (List.contains_iff_mem.mp marked) with known | now
        · exact induction name (List.contains_iff_mem.mpr known)
        · exact validate name now
      obtain ⟨component, member, same, valid⟩ := earlier
      exact ⟨component, member, same, (below_noticing outline found).component_validates valid⟩

/-- Nothing is noticed that a closed set does not have. -/
theorem Visited.below_closed (visited : Visited program outline) {other : Outline}
    (same : other.program = program) (closed : other.Closed) : outline.Below other := by
  induction visited with
  | start => exact ⟨same.symm, fun _ none => absurd none Bool.false_ne_true⟩
  | @visit outline found before validate induction =>
      refine ⟨induction.program, fun name marked => ?_⟩
      rcases List.mem_append.mp (List.contains_iff_mem.mp marked) with known | now
      · exact induction.known name (List.contains_iff_mem.mpr known)
      · obtain ⟨component, member, rfl, valid⟩ := validate name now
        exact closed component (same ▸ member) (induction.component_validates valid)

theorem visited_of_program (program : Program) : Visited program (ofProgram program) := by
  refine rounds_keep (Visited program) .start fun outline visited => visited.visit ?_
  intro name among
  obtain ⟨component, listed, rfl⟩ := List.mem_map.mp among
  obtain ⟨member, unknown⟩ := List.mem_filter.mp listed
  rw [visited.program_eq] at member
  exact ⟨component, member, rfl, (Bool.and_eq_true_iff.mp unknown).2⟩

theorem closed_of_program (program : Program) : (ofProgram program).Closed := by
  intro component member validates
  rw [outline_program] at member
  exact validator_of_validates member validates

theorem has_validator_iff (named : WellNamed program) {component : Component}
    (member : component ∈ program.components.values) :
    (ofProgram program).hasValidator component.name = true ↔
      (ofProgram program).componentValidates component = true := by
  constructor
  · intro marked
    obtain ⟨other, known, same, validates⟩ := (visited_of_program program).validates _ marked
    rwa [← named.unique known member same]
  · exact validator_of_validates member

end Visits

end Outline

section Methods

variable {program : Program} {component : Component}

/-- A struct has a validator iff its component is known to validate. -/
theorem validator_emitted_iff (named : WellNamed program)
    (member : component ∈ program.components.values) (filled : component.shape.fields ≠ []) :
    (∃ rows, Validates (componentsPart program) component.name rows) ↔
      (Outline.ofProgram program).hasValidator component.name = true := by
  constructor
  · rintro ⟨rows, declared⟩
    exact (validator_rows named member declared).2.1
  · intro marked
    have validates := (Outline.has_validator_iff named member).mp marked
    have kept : component.skipValidation = false := by
      simpa using (Bool.and_eq_true_iff.mp validates).1
    exact validator_emitted member kept filled marked

theorem some_field_validates (named : WellNamed program)
    (member : component ∈ program.components.values) (filled : component.shape.fields ≠ [])
    (marked : (Outline.ofProgram program).hasValidator component.name = true) :
    component.shape.fields.filter (Outline.ofProgram program).fieldValidates ≠ [] := by
  have validates := (Outline.has_validator_iff named member).mp marked
  have own := (Bool.and_eq_true_iff.mp validates).2
  cases shape : component.shape with
  | object fields required additional =>
      rw [shape] at own
      obtain ⟨entry, listed, valid⟩ := List.any_eq_true.mp own
      have among : entry.2 ∈ fields.map (·.2) := List.mem_map_of_mem listed
      exact List.ne_nil_of_mem (List.mem_filter.mpr ⟨among, valid⟩)
  | _ =>
      rw [shape] at filled
      exact absurd rfl filled

end Methods

/-- What the rounds over the components come to. -/
structure LeastValidators (program : Program) : Prop where
  /-- No more rounds than there are components find something, and the next one finds nothing. -/
  rounds : ∃ count ≤ program.components.length,
    Outline.ofProgram program = Outline.round^[count] { program } ∧
      (Outline.round^[count] { program }).unnoticed = [] ∧
      ∀ earlier < count, (Outline.round^[earlier] { program }).unnoticed ≠ []
  /-- In no round the look into lists goes on for ever, with or without a bound. -/
  looks : ∀ outline : Outline, outline.program = program → WellFounded outline.LooksInto ∧
    ∀ shape, outline.Answers shape (outline.nestedValidates shape) ∧
      outline.nestedValidates shape =
        (outline.checksHere shape || (outline.element? shape).any outline.nestedValidates)
  fixed : ∀ component ∈ program.components.values,
    (Outline.ofProgram program).hasValidator component.name = true ↔
      (Outline.ofProgram program).componentValidates component = true
  least : ∀ outline : Outline, outline.program = program → outline.Closed →
    ∀ name, (Outline.ofProgram program).hasValidator name = true → outline.hasValidator name = true
  /-- Any other order of visits ends with the same components. -/
  ordered : ∀ outline, Outline.Visited program outline → outline.Closed →
    ∀ name, outline.hasValidator name = (Outline.ofProgram program).hasValidator name
  /-- The structs among them have a method `Validate` with one row for each field that validates, of
  which there is at least one. -/
  methods : ∀ component ∈ program.components.values, component.shape.fields ≠ [] →
    ((∃ rows, Validates (componentsPart program) component.name rows) ↔
      (Outline.ofProgram program).hasValidator component.name = true) ∧
    ∀ rows, Validates (componentsPart program) component.name rows →
      component.shape.fields.filter (Outline.ofProgram program).fieldValidates ≠ [] ∧
        ListsFields (Outline.ofProgram program) component rows

/-- The components with a validator are the least set that is closed under validation, and the
structs among them are those with a method that validates. -/
theorem validators_least {program : Program} (registered : program.Registered)
    (acyclic : ∀ name, ¬ TransGen program.IsMadeOf name name) : LeastValidators program := by
  have named := registered_well_named registered
  have few := Outline.unmarked_few program
  have visited := Outline.visited_of_program program
  constructor
  case rounds =>
    obtain ⟨count, bound, reached, ended, before⟩ :=
      Outline.collect_rounds (Nat.lt_succ_of_le few)
    exact ⟨count, Nat.le_trans bound few, reached, ended, before⟩
  case looks =>
    rintro outline rfl
    exact ⟨Outline.looks_end acyclic, fun shape =>
      ⟨Outline.answered acyclic shape, Outline.nested_validates_step shape⟩⟩
  case fixed => exact fun component member => Outline.has_validator_iff named member
  case least =>
    exact fun outline same closed => (visited.below_closed same closed).known
  case ordered =>
    intro outline other closed name
    rw [Bool.eq_iff_iff]
    have here := other.below_closed (outline_program program) (Outline.closed_of_program program)
    have there := visited.below_closed other.program_eq closed
    exact ⟨here.known name, there.known name⟩
  case methods =>
    refine fun component member filled => ⟨validator_emitted_iff named member filled, ?_⟩
    intro rows declared
    obtain ⟨_, marked, lists⟩ := validator_rows named member declared
    exact ⟨some_field_validates named member filled marked, lists⟩

/-- Trees with a label have branches that are trees, and a grove has trees. -/
def grove : Program where
  title := "grove"
  components := [
    ("Grove", {
      name := "Grove"
      shape := .object [("trees", {
        jsonName := "trees", shape := .named "Trees", optionality := .optional })] [] .forbidden
      description := none
      origin := .declared "grove"
      skipValidation := false }),
    ("Tree", {
      name := "Tree"
      shape := .object [
        ("label", {
          jsonName := "label"
          shape := .ofKind .string
          optionality := .optional
          constraints := { minLength := some 1 } }),
        ("branches", {
          jsonName := "branches", shape := .named "Trees", optionality := .optional })] [] .forbidden
      description := none
      origin := .declared "tree"
      skipValidation := false }),
    ("Trees", {
      name := "Trees"
      shape := .array (.named "Tree") none none
      description := none
      origin := .declared "trees"
      skipValidation := false })]
  operations := []
  securitySchemes := []
  document := ""
  config := { package := "api", path := "" }

theorem grove_validators_least :
    grove.Registered ∧ (∀ name, ¬ TransGen grove.IsMadeOf name name) ∧ LeastValidators grove ∧
      ChecksMember (componentsPart grove) "Grove" "Trees" := by
  have registered : grove.Registered := ⟨by unfold DistinctKeys; decide, by decide⟩
  have lists (outer inner : String) (made : grove.IsMadeOf outer inner) :
      outer = "Trees" ∧ inner = "Tree" := by
    obtain ⟨component, found, bottom⟩ := made
    have listed := Registry.mem_of_find? found
    simp only [grove, List.mem_cons, Prod.mk.injEq, List.not_mem_nil, or_false] at listed
    rcases listed with ⟨rfl, rfl⟩ | ⟨rfl, rfl⟩ | ⟨rfl, rfl⟩ <;> cases bottom
    exact ⟨rfl, rfl⟩
  have acyclic (name : String) : ¬ TransGen grove.IsMadeOf name name := by
    intro circle
    obtain ⟨_, first, _⟩ := TransGen.head'_iff.mp circle
    obtain ⟨_, _, last⟩ := TransGen.tail'_iff.mp circle
    exact absurd ((lists _ _ first).1.symm.trans (lists _ _ last).2) (by decide)
  have least := validators_least registered acyclic
  have known : (Outline.ofProgram grove).hasValidator "Grove" = true := by decide +kernel
  obtain ⟨emitted, listed⟩ := least.methods _ List.mem_cons_self (List.cons_ne_nil _ _)
  obtain ⟨rows, validates⟩ := emitted.mpr known
  obtain ⟨filled, lists⟩ := listed rows validates
  obtain ⟨field, among⟩ := List.exists_mem_of_ne_nil _ filled
  obtain ⟨row, inside, own⟩ := ListsEach.row lists among
  -- There is one field alone.
  cases List.mem_singleton.mp (List.mem_of_mem_filter among)
  have trees : Identifier.exported "trees" = "Trees" := by decide
  rw [trees] at own
  exact ⟨registered, acyclic, least, rows, validates, row, inside, own⟩

end ApiScaffold.Server
