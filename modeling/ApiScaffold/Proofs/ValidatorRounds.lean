import ApiScaffold.Proofs.PlacedShapes
import ApiScaffold.Proofs.RequestScope

/-!
Which components have a validator, and which values check themselves. Each round but the last
notices another component, so the rounds end when none is left over. Values in lists are looked for
from one list to the next; a way that is free of repetitions is no longer than all lists together, so
the levels are never too few. A look without levels gives the same answer wherever it gives one.
-/

namespace ApiScaffold.Server

open Blueprint

/-- Components are registered under their own names. -/
def WellNamed (program : Program) : Prop := ∀ name component,
  program.component? name = some component ↔
    component ∈ program.components.values ∧ component.name = name

theorem given_well_named {specification : OpenApi.Specification} {whole : Effects}
    {program : Program} (given : ProgramGiven specification whole program) : WellNamed program := by
  intro name component
  rw [Program.component?, given.find?_iff, given.mem_values_iff]

theorem WellNamed.unique {program : Program} (named : WellNamed program) {first second : Component}
    (here : first ∈ program.components.values) (there : second ∈ program.components.values)
    (same : first.name = second.name) : first = second := by
  have found := (named second.name first).mpr ⟨here, same⟩
  exact Option.some.inj (found.symm.trans ((named second.name second).mpr ⟨there, rfl⟩))

namespace Outline

section Rounds

variable {outline : Outline}

def noticing (outline : Outline) (found : List String) : Outline :=
  { outline with validated := outline.validated ++ found }

def unmarked (outline : Outline) : List Component :=
  outline.program.components.values.filter fun component => !outline.hasValidator component.name

theorem noticing_unmarked (found : List String) :
    (outline.noticing found).unmarked =
      outline.unmarked.filter fun component => !found.contains component.name := by
  unfold unmarked noticing hasValidator
  rw [List.filter_filter]
  apply List.filter_congr
  intro component _
  simp [Bool.and_comm]

theorem unmarked_shrinks (found : outline.unnoticed ≠ []) :
    (outline.noticing outline.unnoticed).unmarked.length < outline.unmarked.length := by
  rw [noticing_unmarked, List.length_filter_lt_length_iff_exists]
  obtain ⟨name, among⟩ := List.exists_mem_of_ne_nil _ found
  obtain ⟨component, listed, rfl⟩ := List.mem_map.mp among
  obtain ⟨member, unknown⟩ := List.mem_filter.mp listed
  refine ⟨component, List.mem_filter.mpr ⟨member, (Bool.and_eq_true_iff.mp unknown).1⟩, ?_⟩
  simpa using among

/-- What holds at first and is kept by each round, holds in the end. -/
theorem rounds_keep {program : Program} (holds : Outline → Prop) (start : holds { program })
    (round : ∀ outline, holds outline → holds (outline.noticing outline.unnoticed)) :
    holds (ofProgram program) := by
  have kept : ∀ (rounds : Nat) (outline : Outline), holds outline →
      holds (collect rounds outline) := by
    intro rounds
    induction rounds with
    | zero => exact fun _ own => own
    | succ rounds induction =>
        intro outline own
        unfold collect
        split
        case h_1 none => exact own
        case h_2 found => exact induction _ (round outline own)
  exact kept _ _ start

def round (outline : Outline) : Outline := outline.noticing outline.unnoticed

/-- Every round but the last finds something, so there are no more such rounds than unmarked
components. -/
theorem collect_rounds {rounds : Nat} (enough : outline.unmarked.length < rounds) :
    ∃ count ≤ outline.unmarked.length, collect rounds outline = round^[count] outline ∧
      (round^[count] outline).unnoticed = [] ∧
      ∀ earlier < count, (round^[earlier] outline).unnoticed ≠ [] := by
  induction rounds generalizing outline with
  | zero => exact absurd enough (Nat.not_lt_zero _)
  | succ rounds induction =>
      unfold collect
      split
      case h_1 none => exact ⟨0, Nat.zero_le _, rfl, none, nofun⟩
      case h_2 found =>
        have shrinks := unmarked_shrinks found
        obtain ⟨count, bound, reached, ended, before⟩ :=
          induction (Nat.lt_of_lt_of_le shrinks (Nat.le_of_lt_succ enough))
        refine ⟨count + 1, Nat.lt_of_le_of_lt bound shrinks, reached, ended, ?_⟩
        intro earlier less
        cases earlier with
        | zero => exact found
        | succ earlier => exact before earlier (Nat.lt_of_succ_lt_succ less)

theorem unmarked_few (program : Program) :
    ({ program } : Outline).unmarked.length ≤ program.components.length := by
  refine Nat.le_trans (List.length_filter_le _ _) ?_
  rw [Registry.values, List.length_map]

theorem unnoticed_of_program (program : Program) : (ofProgram program).unnoticed = [] := by
  obtain ⟨count, _, reached, ended, _⟩ := collect_rounds (Nat.lt_succ_of_le (unmarked_few program))
  rw [ofProgram, reached]
  exact ended

/-- Nothing that validates is left over. -/
theorem validator_of_validates {program : Program} {component : Component}
    (member : component ∈ program.components.values)
    (validates : (ofProgram program).componentValidates component = true) :
    (ofProgram program).hasValidator component.name = true := by
  by_contra unknown
  have left : component.name ∈ (ofProgram program).unnoticed := by
    refine List.mem_map_of_mem (List.mem_filter.mpr ⟨?_, ?_⟩)
    · rw [outline_program]
      exact member
    · rw [validates, Bool.eq_false_iff.mpr unknown]
      rfl
  rw [unnoticed_of_program] at left
  cases left

end Rounds

/-- Outlines of one program, of which the second has all validators of the first. -/
structure Below (fewer more : Outline) : Prop where
  program : fewer.program = more.program
  known : ∀ name, fewer.hasValidator name = true → more.hasValidator name = true

section Growth

variable {fewer more : Outline}

theorem below_noticing (outline : Outline) (found : List String) :
    outline.Below (outline.noticing found) :=
  ⟨rfl, fun _ marked =>
    List.contains_iff_mem.mpr (List.mem_append_left _ (List.contains_iff_mem.mp marked))⟩

theorem Below.validates (below : fewer.Below more) {shape : Shape}
    (checked : fewer.validates shape = true) : more.validates shape = true := by
  fun_induction fewer.validates shape with
  | case1 name => exact below.known name checked
  | case2 element _ _ induction => exact induction checked
  | case3 => cases checked

end Growth

section Elements

variable {outline : Outline}

/-- Values check themselves without a look at what they hold. -/
def checksHere (outline : Outline) (shape : Shape) : Bool :=
  outline.validates shape ||
    match outline.resolve shape with
    | .custom type => type.validate
    | .primitive primitive => checksItself primitive.kind
    | _ => false

/-- The shape of the elements, if values are lists behind all names. -/
def element? (outline : Outline) (shape : Shape) : Option Shape :=
  match outline.resolve shape with
  | .array element _ _ => some element
  | _ => none

theorem checks_within_succ (levels : Nat) (shape : Shape) :
    outline.checksWithin (levels + 1) shape =
      (outline.checksHere shape || (outline.element? shape).any (outline.checksWithin levels)) := by
  unfold checksWithin checksHere element?
  rw [Bool.or_assoc]
  congr 1
  cases outline.resolve shape <;> simp

/-- Elements of elements lead to values that check themselves. -/
inductive Descends (outline : Outline) : Shape → List Shape → Prop where
  | here {shape : Shape} (checks : outline.checksHere shape = true) : Descends outline shape []
  | into {shape element : Shape} {path : List Shape}
    (inside : outline.element? shape = some element) (rest : Descends outline element path) :
    Descends outline shape (element :: path)

theorem checks_within_iff {levels : Nat} {shape : Shape} :
    outline.checksWithin levels shape = true ↔
      ∃ path, outline.Descends shape path ∧ path.length < levels := by
  induction levels generalizing shape with
  | zero => exact ⟨nofun, fun ⟨_, _, short⟩ => absurd short (Nat.not_lt_zero _)⟩
  | succ levels induction =>
      rw [checks_within_succ, Bool.or_eq_true, Option.any_eq_true]
      constructor
      · rintro (checks | ⟨element, inside, further⟩)
        · exact ⟨[], .here checks, Nat.succ_pos _⟩
        · obtain ⟨path, rest, short⟩ := induction.mp further
          exact ⟨element :: path, .into inside rest, Nat.succ_lt_succ short⟩
      · rintro ⟨_, descends, short⟩
        cases descends with
        | here checks => exact .inl checks
        | into inside rest =>
            exact .inr ⟨_, inside, induction.mpr ⟨_, rest, Nat.lt_of_succ_lt_succ short⟩⟩

namespace Descends

variable {shape : Shape} {path : List Shape}

theorem drop {before after : List Shape} {between : Shape}
    (descends : outline.Descends shape (before ++ between :: after)) :
    outline.Descends between after := by
  induction before generalizing shape with
  | nil =>
      cases descends with
      | into _ rest => exact rest
  | cons first before induction =>
      cases descends with
      | into _ rest => exact induction rest

/-- What lies between two visits of one element can be left out. -/
theorem shorten (descends : outline.Descends shape path) :
    ∃ shorter, outline.Descends shape shorter ∧ shorter.Nodup := by
  induction descends with
  | here checks => exact ⟨[], .here checks, List.nodup_nil⟩
  | @into _ element _ inside _ induction =>
      obtain ⟨path, rest, distinct⟩ := induction
      by_cases again : element ∈ path
      · obtain ⟨before, after, rfl⟩ := List.append_of_mem again
        exact ⟨element :: after, .into inside rest.drop, (List.nodup_append.mp distinct).2.1⟩
      · exact ⟨element :: path, .into inside rest, List.nodup_cons.mpr ⟨again, distinct⟩⟩

end Descends

/-- The elements of a list, of its elements if they are lists, and so on. -/
def layers : Shape → List Shape
  | .array element _ _ => element :: layers element
  | _ => []

theorem length_layers (shape : Shape) : (layers shape).length = listDepth shape := by
  fun_induction listDepth shape with
  | case1 element _ _ induction => exact congrArg (· + 1) induction
  | case2 shape other =>
      cases shape with
      | array element minItems maxItems => exact absurd rfl (other element minItems maxItems)
      | _ => rfl

def allLayers (outline : Outline) (shape : Shape) : List Shape :=
  layers shape ++ outline.program.components.values.flatMap fun component => layers component.shape

theorem length_all_layers (shape : Shape) :
    (outline.allLayers shape).length + 1 = outline.levels shape := by
  unfold allLayers levels
  rw [List.length_append, List.length_flatMap, List.sum_eq_foldl, List.foldl_map, length_layers,
    Nat.add_comm (listDepth shape)]
  simp only [length_layers]

/-- Behind its names, a shape is what it was or what some component is. -/
theorem resolved_stands {shape : Shape} (plain : (outline.resolve shape).Plain) :
    outline.resolve shape = shape ∨
      ∃ component ∈ outline.program.components.values, outline.resolve shape = component.shape := by
  obtain ⟨steps, reaches⟩ := Reaches.of_resolve_within plain
  change Reaches _ _ _ (outline.resolve shape) at reaches
  generalize outline.resolve shape = target at plain reaches
  clear plain
  induction reaches with
  | here => exact .inl rfl
  | @step _ component _ _ found _ induction =>
      right
      rcases induction with rfl | known
      · exact ⟨component, List.mem_map_of_mem (Registry.mem_of_find? found), rfl⟩
      · exact known

theorem element_layers {shape element : Shape} (inside : outline.element? shape = some element) :
    element :: layers element ⊆ outline.allLayers shape := by
  unfold element? at inside
  split at inside
  case h_2 => cases inside
  case h_1 _ minItems maxItems list =>
    cases inside
    have plain : (outline.resolve shape).Plain := by
      rw [list]
      nofun
    rcases resolved_stands plain with same | ⟨component, member, same⟩
    · rw [list] at same
      subst same
      exact List.subset_append_left _ _
    · rw [list] at same
      refine List.subset_append_of_subset_right _ fun layer listed => ?_
      rw [List.mem_flatMap]
      refine ⟨component, member, ?_⟩
      rw [← same]
      exact listed

theorem Descends.path_subset {shape : Shape} {path : List Shape}
    (descends : outline.Descends shape path) : path ⊆ outline.allLayers shape := by
  induction descends with
  | here => exact List.nil_subset _
  | @into shape element path inside rest induction =>
      have known := element_layers inside
      refine List.cons_subset.mpr ⟨known List.mem_cons_self, fun layer listed => ?_⟩
      rcases List.mem_append.mp (induction listed) with own | other
      · exact known (List.mem_cons_of_mem _ own)
      · exact List.mem_append_right _ other

/-- There are always levels enough. -/
theorem nested_validates_iff {shape : Shape} :
    outline.nestedValidates shape = true ↔ ∃ path, outline.Descends shape path := by
  unfold nestedValidates
  rw [checks_within_iff]
  constructor
  · rintro ⟨path, descends, _⟩
    exact ⟨path, descends⟩
  · rintro ⟨_, descends⟩
    obtain ⟨path, shorter, distinct⟩ := descends.shorten
    have bound := (List.subperm_of_subset distinct shorter.path_subset).length_le
    exact ⟨path, shorter, length_all_layers shape ▸ Nat.lt_succ_of_le bound⟩

/-- Values validate by themselves, or as lists of values that do. -/
theorem nested_validates_step (shape : Shape) : outline.nestedValidates shape =
    (outline.checksHere shape || (outline.element? shape).any outline.nestedValidates) := by
  rw [Bool.eq_iff_iff, nested_validates_iff, Bool.or_eq_true, Option.any_eq_true]
  constructor
  · rintro ⟨path, descends⟩
    cases descends with
    | here checks => exact .inl checks
    | into inside rest => exact .inr ⟨_, inside, nested_validates_iff.mpr ⟨_, rest⟩⟩
  · rintro (checks | ⟨element, inside, validates⟩)
    · exact ⟨[], .here checks⟩
    · obtain ⟨path, rest⟩ := nested_validates_iff.mp validates
      exact ⟨element :: path, .into inside rest⟩

/-- The answer of a look without a bound: a list that is not known to validate is answered for by its
elements. There is none where this goes on for ever. -/
inductive Answers (outline : Outline) : Shape → Bool → Prop where
  | here {shape : Shape} (ends : outline.validates shape = true ∨ outline.element? shape = none) :
    Answers outline shape (outline.checksHere shape)
  | into {shape element : Shape} {answer : Bool} (unknown : outline.validates shape = false)
    (inside : outline.element? shape = some element) (rest : Answers outline element answer) :
    Answers outline shape answer

theorem checks_here_of_element {shape element : Shape}
    (inside : outline.element? shape = some element) :
    outline.checksHere shape = outline.validates shape := by
  unfold element? at inside
  unfold checksHere
  cases target : outline.resolve shape with
  | array _ _ _ => exact Bool.or_false _
  | _ =>
      rw [target] at inside
      cases inside

/-- Wherever there is an answer, the look with a bound finds it. -/
theorem Answers.nested_validates {shape : Shape} {answer : Bool}
    (answers : outline.Answers shape answer) : outline.nestedValidates shape = answer := by
  induction answers with
  | @here shape ends =>
      rw [nested_validates_step]
      rcases ends with known | bottom
      · unfold checksHere
        rw [known, Bool.true_or, Bool.true_or]
      · rw [bottom, Option.any_none, Bool.or_false]
  | into unknown inside _ induction =>
      rw [nested_validates_step, checks_here_of_element inside, unknown, inside, Option.any_some,
        Bool.false_or, induction]

/-- Without an answer values do not count as validating. -/
theorem nested_validates_iff_answers {shape : Shape} :
    outline.nestedValidates shape = true ↔ outline.Answers shape true := by
  refine ⟨fun validates => ?_, Answers.nested_validates⟩
  obtain ⟨path, descends⟩ := nested_validates_iff.mp validates
  induction descends with
  | @here shape checks =>
      cases inside : outline.element? shape with
      | none => exact checks ▸ .here (.inr inside)
      | some element =>
          rw [checks_here_of_element inside] at checks
          have answer : outline.Answers shape _ := .here (.inl checks)
          rwa [checks_here_of_element inside, checks] at answer
  | @into shape element path inside rest induction =>
      have further := induction (nested_validates_iff.mpr ⟨path, rest⟩)
      cases known : outline.validates shape with
      | false => exact .into known inside further
      | true =>
          have answer : outline.Answers shape _ := .here (.inl known)
          rwa [checks_here_of_element inside, known] at answer

end Elements

end Outline

end ApiScaffold.Server
