import ApiScaffold.Go.Statement
import Mathlib.Data.List.Forall2

/-!
What happens on the ways through a body. A way is told by its events: which conditions hold, which
fail, and what is assigned. Only ways that come to the end of a body are spoken of; one that returns
goes no further, so a check that returns is one that fails on every way past it.
-/

namespace ApiScaffold.Go

open Source

inductive Event where
  | holds (condition : Code)
  | fails (condition : Code)
  | assigns (target : Code)
deriving DecidableEq

namespace Statement

mutual
def Runs : Statement → List Event → Prop
  | plain _, events => events = []
  | assign target _, events => events = [.assigns target]
  | define _ _, events => events = []
  | zeroed _ _, events => events = []
  | give _, _ => False
  | when condition body, events =>
    (∃ inside, Passes body inside ∧ events = .holds condition :: inside) ∨
      events = [.fails condition]
  | choose condition body otherwise, events =>
    (∃ inside, Passes body inside ∧ events = .holds condition :: inside) ∨
      ∃ inside, Passes otherwise inside ∧ events = .fails condition :: inside
  | chooseFirst first body second secondBody, events =>
    (∃ inside, Passes body inside ∧ events = .holds first :: inside) ∨
      (∃ inside, Passes secondBody inside ∧ events = .fails first :: .holds second :: inside) ∨
      events = [.fails first, .fails second]
  | each _ _ body, events =>
    ∃ rounds : List (List Event), (∀ inside ∈ rounds, Passes body inside) ∧ events = rounds.flatten
  | block _ _, _ => False
  | cases _ branches otherwise, events => PassesBranch branches events ∨ PassesOther otherwise events
  | listing _ _ _, events => events = []
  | gap, events => events = []
termination_by structural statement => statement

def Passes : List Statement → List Event → Prop
  | [], events => events = []
  | statement :: rest, events =>
    ∃ here after, Runs statement here ∧ Passes rest after ∧ events = here ++ after
termination_by structural statements => statements

def PassesBranch : List (Code × List Statement) → List Event → Prop
  | [], _ => False
  | (_, body) :: rest, events => Passes body events ∨ PassesBranch rest events
termination_by structural branches => branches

def PassesOther : Option (List Statement) → List Event → Prop
  | none, events => events = []
  | some body, events => Passes body events
termination_by structural otherwise => otherwise
end

section

variable {condition target value : Code} {names : List String} {values : List Code}
  {body otherwise rest : List Statement} {events : List Event}

@[simp] theorem passes_nil : Passes [] events ↔ events = [] := .rfl

@[simp] theorem passes_assign : Passes (.assign target value :: rest) events ↔
    ∃ after, Passes rest after ∧ events = .assigns target :: after := by
  constructor
  · rintro ⟨here, after, rfl, passes, rfl⟩
    exact ⟨after, passes, rfl⟩
  · rintro ⟨after, passes, rfl⟩
    exact ⟨_, after, rfl, passes, rfl⟩

@[simp] theorem passes_define :
    Passes (.define names value :: rest) events ↔ Passes rest events := by
  constructor
  · rintro ⟨here, after, rfl, passes, rfl⟩
    exact passes
  · intro passes
    exact ⟨[], events, rfl, passes, rfl⟩

@[simp] theorem passes_give : ¬ Passes (.give values :: rest) events := by
  rintro ⟨here, after, returned, _⟩
  exact returned

theorem passes_when : Passes (.when condition body :: rest) events ↔
    (∃ inside after, Passes body inside ∧ Passes rest after ∧
      events = .holds condition :: (inside ++ after)) ∨
    ∃ after, Passes rest after ∧ events = .fails condition :: after := by
  constructor
  · rintro ⟨here, after, ⟨inside, within, rfl⟩ | rfl, passes, rfl⟩
    · exact .inl ⟨inside, after, within, passes, rfl⟩
    · exact .inr ⟨after, passes, rfl⟩
  · rintro (⟨inside, after, within, passes, rfl⟩ | ⟨after, passes, rfl⟩)
    · exact ⟨_, after, .inl ⟨inside, within, rfl⟩, passes, rfl⟩
    · exact ⟨_, after, .inr rfl, passes, rfl⟩

@[simp] theorem passes_check : Passes (.when condition [.give values] :: rest) events ↔
    ∃ after, Passes rest after ∧ events = .fails condition :: after := by
  rw [passes_when]
  exact or_iff_right fun ⟨_, _, returned, _⟩ => passes_give returned

theorem passes_choose : Passes (.choose condition body otherwise :: rest) events ↔
    (∃ inside after, Passes body inside ∧ Passes rest after ∧
      events = .holds condition :: (inside ++ after)) ∨
    ∃ inside after, Passes otherwise inside ∧ Passes rest after ∧
      events = .fails condition :: (inside ++ after) := by
  constructor
  · rintro ⟨here, after, ⟨inside, within, rfl⟩ | ⟨inside, within, rfl⟩, passes, rfl⟩
    · exact .inl ⟨inside, after, within, passes, rfl⟩
    · exact .inr ⟨inside, after, within, passes, rfl⟩
  · rintro (⟨inside, after, within, passes, rfl⟩ | ⟨inside, after, within, passes, rfl⟩)
    · exact ⟨_, after, .inl ⟨inside, within, rfl⟩, passes, rfl⟩
    · exact ⟨_, after, .inr ⟨inside, within, rfl⟩, passes, rfl⟩

theorem passes_append : Passes (body ++ rest) events ↔
    ∃ first second, Passes body first ∧ Passes rest second ∧ events = first ++ second := by
  induction body generalizing events with
  | nil =>
      constructor
      · intro passes
        exact ⟨[], events, rfl, passes, rfl⟩
      · rintro ⟨_, second, rfl, passes, rfl⟩
        exact passes
  | cons statement others induction =>
      constructor
      · rintro ⟨here, after, runs, passes, rfl⟩
        obtain ⟨first, second, inside, following, rfl⟩ := induction.mp passes
        exact ⟨here ++ first, second, ⟨here, first, runs, inside, rfl⟩, following,
          (List.append_assoc _ _ _).symm⟩
      · rintro ⟨_, second, ⟨here, first, runs, inside, rfl⟩, following, rfl⟩
        exact ⟨here, first ++ second, runs, induction.mpr ⟨first, second, inside, following, rfl⟩,
          List.append_assoc _ _ _⟩

theorem passes_flat_map {α : Type} {items : List α} {bodies : α → List Statement} :
    Passes (items.flatMap bodies) events ↔
      ∃ traces, List.Forall₂ (fun item trace => Passes (bodies item) trace) items traces ∧
        events = traces.flatten := by
  induction items generalizing events with
  | nil =>
      constructor
      · rintro rfl
        exact ⟨[], .nil, rfl⟩
      · rintro ⟨_, ⟨⟩, rfl⟩
        rfl
  | cons item others induction =>
      rw [List.flatMap_cons, passes_append]
      constructor
      · rintro ⟨first, second, here, following, rfl⟩
        obtain ⟨traces, each, rfl⟩ := induction.mp following
        exact ⟨first :: traces, .cons here each, rfl⟩
      · rintro ⟨_, pairs, rfl⟩
        cases pairs with
        | cons here each => exact ⟨_, _, here, induction.mpr ⟨_, each, rfl⟩, rfl⟩

end

end Statement

end ApiScaffold.Go
