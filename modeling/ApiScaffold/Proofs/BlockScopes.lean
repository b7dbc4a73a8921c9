import ApiScaffold.Proofs.CamelCase
import ApiScaffold.Proofs.NestedStatements
import Mathlib.Data.List.Nodup

/-!
Blocks as scopes. Each block of a function introduces variables of its own, and may introduce none of
them twice, unless it may be used again. Variables that belong to one item of many, and are told by
their endings, meet in one block as the names of the items do.
-/

namespace ApiScaffold.Go

open Source

namespace Statement

@[simp] def locals : Statement → List String
  | define names _ => names
  | zeroed name _ => [name]
  | _ => []

def introduced (block : List Statement) : List String := block.flatMap locals

@[simp] theorem introduced_nil : introduced [] = [] := rfl

@[simp] theorem introduced_cons (statement : Statement) (rest : List Statement) :
    introduced (statement :: rest) = statement.locals ++ introduced rest := rfl

@[simp] theorem introduced_append (first second : List Statement) :
    introduced (first ++ second) = introduced first ++ introduced second := List.flatMap_append

theorem introduced_flat_map {α : Type} (items : List α) (block : α → List Statement) :
    introduced (items.flatMap block) = items.flatMap fun item => introduced (block item) :=
  List.flatMap_assoc

/-- The scopes that a statement opens: its blocks, and before that of a loop the one of what it
ranges over. -/
@[simp] def scopes : Statement → List (List String)
  | when _ body => [introduced body]
  | choose _ body otherwise => [introduced body, introduced otherwise]
  | chooseFirst _ body _ secondBody => [introduced body, introduced secondBody]
  | each names _ body => [names, introduced body]
  | block _ body => [introduced body]
  | cases _ branches otherwise =>
    (branches.map fun branch => introduced branch.2) ++ otherwise.toList.map introduced
  | _ => []

end Statement

/-- Names that may stand for something else a second time: that of the latest error, and the blank
one. -/
def reusable : List String := ["err", "_"]

/-- A scope that introduces no other name twice. -/
def Distinct (scope : List String) : Prop := (scope.filter (!reusable.contains ·)).Nodup

instance (scope : List String) : Decidable (Distinct scope) :=
  inferInstanceAs (Decidable (List.Nodup _))

def DistinctInside (block : List Statement) : Prop :=
  ∀ scope ∈ Statement.gather Statement.scopes block, Distinct scope

instance (block : List Statement) : Decidable (DistinctInside block) :=
  inferInstanceAs (Decidable (∀ scope ∈ _, _))

/-- A function with a block, and with blocks inside of it, that are distinct. -/
structure Form.Scoped (form : Form) : Prop where
  top : Distinct (Statement.introduced form.body)
  inside : DistinctInside form.body

instance (form : Form) : Decidable form.Scoped :=
  decidable_of_iff (Distinct (Statement.introduced form.body) ∧ DistinctInside form.body)
    ⟨fun both => ⟨both.1, both.2⟩, fun holds => ⟨holds.top, holds.inside⟩⟩

@[simp] theorem distinct_nil : Distinct [] := List.nodup_nil

@[simp] theorem distinct_single (name : String) : Distinct [name] :=
  (List.nodup_singleton name).sublist List.filter_sublist

namespace DistinctInside

variable {first second : List Statement}

theorem nil : DistinctInside [] := List.forall_mem_nil _

theorem append_iff : DistinctInside (first ++ second) ↔
    DistinctInside first ∧ DistinctInside second := by
  unfold DistinctInside
  rw [Statement.gather_append, List.forall_mem_append]

theorem append (here : DistinctInside first) (there : DistinctInside second) :
    DistinctInside (first ++ second) := append_iff.mpr ⟨here, there⟩

theorem cons {statement : Statement} (own : DistinctInside [statement])
    (others : DistinctInside first) : DistinctInside (statement :: first) := append own others

theorem flat_map {α : Type} {items : List α} {block : α → List Statement}
    (each : ∀ item ∈ items, DistinctInside (block item)) :
    DistinctInside (items.flatMap block) := by
  intro scope member
  rw [Statement.gather_flat_map] at member
  obtain ⟨item, listed, inside⟩ := List.mem_flatMap.mp member
  exact each item listed scope inside

theorem of_nothing (nothing : Statement.gather Statement.scopes first = []) :
    DistinctInside first := by
  unfold DistinctInside
  rw [nothing]
  exact List.forall_mem_nil _

theorem when {condition : Code} (own : Distinct (Statement.introduced first))
    (inside : DistinctInside first) : DistinctInside [.when condition first] := by
  unfold DistinctInside
  rw [Statement.gather_when, Statement.gather_nil, List.append_nil]
  exact List.forall_mem_append.mpr ⟨List.forall_mem_singleton.mpr own, inside⟩

theorem each {names : List String} {source : Code} (ranged : Distinct names)
    (own : Distinct (Statement.introduced first)) (inside : DistinctInside first) :
    DistinctInside [.each names source first] := by
  unfold DistinctInside
  rw [Statement.gather_each, Statement.gather_nil, List.append_nil]
  refine List.forall_mem_append.mpr ⟨?_, inside⟩
  exact List.forall_mem_cons.mpr ⟨ranged, List.forall_mem_singleton.mpr own⟩

theorem choose {condition : Code} (own : Distinct (Statement.introduced first))
    (inside : DistinctInside first) (other : Distinct (Statement.introduced second))
    (otherwise : DistinctInside second) : DistinctInside [.choose condition first second] := by
  unfold DistinctInside
  rw [Statement.gather_choose, Statement.gather_nil, List.append_nil]
  refine List.forall_mem_append.mpr ⟨?_, append inside otherwise⟩
  exact List.forall_mem_cons.mpr ⟨own, List.forall_mem_singleton.mpr other⟩

end DistinctInside

/-- Names that can be told from those before them, or may be used again. -/
theorem distinct_append {first second : List String} (own : Distinct second)
    (apart : ∀ name ∈ first, name ∈ second → name ∈ reusable) :
    Distinct (first ++ second) ↔ Distinct first := by
  unfold Distinct at own ⊢
  rw [List.filter_append, List.nodup_append, and_iff_right own, and_iff_left]
  rintro name here _ there rfl
  obtain ⟨inside, kept⟩ := List.mem_filter.mp here
  rw [Bool.not_eq_true', ← Bool.not_eq_true, List.contains_iff_mem] at kept
  exact kept (apart name inside (List.mem_filter.mp there).1)

/-- Blocks whose locals belong to items are distinct as one block iff the items have distinct names, if
every item is recognised by any of its locals. -/
theorem locals_distinct_iff {α : Type} {items : List α} {locals : α → List String}
    {name : α → String} (own : ∀ item ∈ items, Distinct (locals item))
    (named : ∀ item ∈ items, name item ∈ locals item ∧ name item ∉ reusable)
    (recognised : ∀ first ∈ items, ∀ second ∈ items, ∀ shared ∈ locals first,
      shared ∈ locals second → shared ∉ reusable → name first = name second) :
    Distinct (items.flatMap locals) ↔ (items.map name).Nodup := by
  have listed (item : α) (shared : String) :
      shared ∈ (locals item).filter (!reusable.contains ·) ↔
        shared ∈ locals item ∧ shared ∉ reusable := by
    rw [List.mem_filter, Bool.not_eq_true', ← Bool.not_eq_true, List.contains_iff_mem]
  unfold Distinct at own ⊢
  rw [List.filter_flatMap, List.nodup_flatMap, and_iff_right own, List.Nodup, List.pairwise_map]
  constructor
  · intro apart
    refine apart.imp_of_mem fun {first second} here there disjoint same => ?_
    refine disjoint ((listed _ _).mpr (named first here)) ((listed _ _).mpr ?_)
    rw [same]
    exact named second there
  · intro apart
    refine apart.imp_of_mem fun {first second} here there differ shared inside outside => ?_
    obtain ⟨within, kept⟩ := (listed _ _).mp inside
    exact differ (recognised first here second there shared within ((listed _ _).mp outside).1 kept)

section Endings

open Identifier (Unbroken)

variable {name other first second : String} (unbroken : Unbroken name.toList)
  (here : first ∈ localEndings)

include unbroken here

theorem local_not_reusable : variableName (name ++ first) ∉ reusable := by
  have differ : ∀ ending ∈ localEndings, ∀ word ∈ reusable,
      ending.toList.getLast? ≠ word.toList.getLast? := by decide
  intro reused
  exact differ first here _ reused (variable_name_last unbroken here).symm

theorem locals_differ (others : Unbroken other.toList) (there : second ∈ localEndings)
    (apart : first ≠ second) : variableName (name ++ first) ≠ variableName (other ++ second) := by
  have differ : ∀ first ∈ localEndings, ∀ second ∈ localEndings, first ≠ second →
      first.toList.getLast? ≠ second.toList.getLast? := by decide
  intro same
  have lasts := congrArg (·.toList.getLast?) same
  rw [variable_name_last unbroken here, variable_name_last others there] at lasts
  exact differ first here second there apart lasts

end Endings

end ApiScaffold.Go
