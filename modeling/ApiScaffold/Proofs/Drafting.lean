import ApiScaffold.Blueprint.Draft
import ApiScaffold.Proofs.LoweringFailure

/-!
Assertions about the steps of drawing up a program. A step that is run on a draft with the first
assertion either ends in the second one or fails with a diagnostic of the lowering phase. The rules
follow the ways in which steps are put together.
-/

namespace ApiScaffold.Blueprint.Drafting

variable {α β : Type}

theorem run_bind (step : Drafting α) (next : α → Drafting β) (draft : Draft) :
    (step >>= next).run.run draft =
      match step.run.run draft with
      | (.ok value, middle) => (next value).run.run middle
      | (.error diagnostic, middle) => (.error diagnostic, middle) := by
  unfold ExceptT.run StateT.run
  simp only [bind, ExceptT.bind, ExceptT.mk, StateT.bind, ExceptT.bindCont]
  rcases step draft with ⟨diagnostic | value, middle⟩ <;> rfl

theorem run_bind_eq_ok {step : Drafting α} {next : α → Drafting β} {draft after : Draft}
    {result : β} : (step >>= next).run.run draft = (.ok result, after) ↔
      ∃ value middle, step.run.run draft = (.ok value, middle) ∧
        (next value).run.run middle = (.ok result, after) := by
  rw [run_bind]
  rcases step.run.run draft with ⟨diagnostic | value, middle⟩
  · constructor
    · nofun
    · rintro ⟨_, _, ⟨⟩, _⟩
  · constructor
    · exact fun ran => ⟨value, middle, rfl, ran⟩
    · rintro ⟨_, _, ⟨⟩, ran⟩
      exact ran

/-- If a loop whose rounds never break off ends, each item has had its round. -/
theorem run_each_eq_ok {ι : Type} {round : ι → PUnit → Drafting (ForInStep PUnit)}
    (goes : ∀ item draft next after,
      (round item PUnit.unit).run.run draft = (.ok next, after) → next = .yield PUnit.unit)
    {items : List ι} {draft after : Draft} {last : PUnit}
    (ran : (forIn items PUnit.unit round).run.run draft = (.ok last, after)) :
    ∀ item ∈ items, ∃ before next between,
      (round item PUnit.unit).run.run before = (.ok next, between) := by
  induction items generalizing draft with
  | nil => exact List.forall_mem_nil _
  | cons first rest induction =>
      rw [List.forIn_cons, run_bind_eq_ok] at ran
      obtain ⟨next, middle, here, there⟩ := ran
      cases goes _ _ _ _ here
      exact List.forall_mem_cons.mpr ⟨⟨draft, _, middle, here⟩, induction there⟩

theorem throw_bind (diagnostic : Diagnostic) (next : α → Drafting β) :
    throw diagnostic >>= next = throw diagnostic := rfl

theorem fail_bind (problem : Problem) (location : String) (next : α → Drafting β) :
    fail problem location >>= next = fail problem location := rfl

theorem run_lift_except (outcome : Except Diagnostic α) (draft : Draft) :
    (liftExcept outcome : Drafting α).run.run draft = (outcome, draft) := by
  cases outcome <;> rfl

theorem run_attributing (operation : String) (step : Drafting α) (draft : Draft) :
    (attributing operation step).run.run draft =
      match step.run.run draft with
      | (.ok value, after) => (.ok value, after)
      | (.error diagnostic, after) => (.error (diagnostic.attributeTo operation), after) := by
  unfold attributing ExceptT.run StateT.run
  simp only [tryCatch, tryCatchThe, MonadExceptOf.tryCatch, ExceptT.tryCatch, ExceptT.mk, bind,
    StateT.bind]
  rcases step draft with ⟨diagnostic | value, after⟩ <;> rfl

theorem run_register (component : Component) (draft : Draft) :
    (register component).run.run draft =
      match draft.components.find? component.name with
      | some existing =>
        (.error (Diagnostic.nameCollision .lower component.name existing.origin.display
          component.origin.display), draft)
      | none =>
        (.ok (), { draft with components := draft.components.insert component.name component }) := by
  unfold register
  rw [run_bind]
  change (match draft.components.find? component.name with
    | some existing => throw (Diagnostic.nameCollision .lower component.name
        existing.origin.display component.origin.display)
    | none => modify fun draft =>
        { draft with components := draft.components.insert component.name component } :
      Drafting Unit).run.run draft = _
  cases draft.components.find? component.name <;> rfl

def Ends (after : α → Draft → Prop) : Except Diagnostic α × Draft → Prop
  | (.ok value, draft) => after value draft
  | (.error diagnostic, _) => diagnostic.phase = .lower

/-- Run on a draft with the first assertion, the step ends in the second one or fails. -/
structure Meets (before : Draft → Prop) (step : Drafting α) (after : α → Draft → Prop) : Prop where
  ends : ∀ draft, before draft → Ends after (step.run.run draft)

namespace Meets

variable {before : Draft → Prop} {after : α → Draft → Prop} {step : Drafting α}

theorem pure {value : α} (holds : ∀ draft, before draft → after value draft) :
    Meets before (pure value) after := ⟨holds⟩

theorem bind {middle : α → Draft → Prop} {last : β → Draft → Prop} {next : α → Drafting β}
    (first : Meets before step middle) (second : ∀ value, Meets (middle value) (next value) last) :
    Meets before (step >>= next) last := by
  constructor
  intro draft holds
  have ends := first.ends draft holds
  rw [run_bind]
  generalize step.run.run draft = result at ends
  rcases result with ⟨diagnostic | value, reached⟩
  · exact ends
  · exact (second value).ends reached ends

theorem weaken {stronger : Draft → Prop} {weaker : α → Draft → Prop}
    (meets : Meets before step after) (required : ∀ draft, stronger draft → before draft)
    (ensured : ∀ value draft, after value draft → weaker value draft) :
    Meets stronger step weaker := by
  constructor
  intro draft holds
  have ends := meets.ends draft (required draft holds)
  generalize step.run.run draft = result at ends
  rcases result with ⟨diagnostic | value, reached⟩
  · exact ends
  · exact ensured value reached ends

theorem throw {diagnostic : Diagnostic} (phase : diagnostic.phase = .lower) :
    Meets before (throw diagnostic) after := ⟨fun _ _ => phase⟩

theorem fail {problem : Problem} {location : String} (phase : problem.phase = .lower) :
    Meets before (fail problem location) after := ⟨fun _ _ => phase⟩

theorem lift_except {outcome : Except Diagnostic α} (fails : FailsInLowering outcome) :
    Meets before (liftExcept outcome) fun value draft => outcome = .ok value ∧ before draft := by
  constructor
  intro draft holds
  rw [run_lift_except]
  cases outcome with
  | error diagnostic => exact fails diagnostic rfl
  | ok value => exact ⟨rfl, holds⟩

theorem warn {message : String} {after : Draft → Prop}
    (kept : ∀ draft, before draft → after { draft with warnings := draft.warnings ++ [message] }) :
    Meets before (warn message) fun _ => after := ⟨kept⟩

theorem check_text_later {shape : Shape} {location : String} {after : Draft → Prop}
    (kept : ∀ draft, before draft →
      after { draft with textChecks := draft.textChecks ++ [(shape, location)] }) :
    Meets before (checkTextLater shape location) fun _ => after := ⟨kept⟩

theorem get : Meets before (get : Drafting Draft) fun _ => before :=
  ⟨fun _ holds => holds⟩

theorem resolve {shape : Shape} :
    Meets before (resolve shape) fun resolved draft =>
      resolved = resolveIn draft.components shape ∧ before draft :=
  ⟨fun _ holds => ⟨rfl, holds⟩⟩

theorem register {component : Component} {after : Draft → Prop}
    (fresh : ∀ draft, before draft → draft.components.find? component.name = none →
      after { draft with components := draft.components.insert component.name component }) :
    Meets before (register component) fun _ => after := by
  constructor
  intro draft holds
  rw [run_register]
  cases found : draft.components.find? component.name with
  | some existing => rfl
  | none => exact fresh draft holds found

theorem attributing {operation : String} (meets : Meets before step after) :
    Meets before (attributing operation step) after := by
  constructor
  intro draft holds
  have ends := meets.ends draft holds
  rw [run_attributing]
  generalize step.run.run draft = result at ends
  rcases result with ⟨diagnostic | value, reached⟩
  · have kept : (diagnostic.attributeTo operation).phase = diagnostic.phase := by
      unfold Diagnostic.attributeTo
      split <;> rfl
    exact kept.trans ends
  · exact ends

/-- An assertion about the items that are left, which every round of a loop brings one further. -/
theorem each {ι : Type} {body : ι → PUnit → Drafting (ForInStep PUnit)}
    (kept : List ι → Draft → Prop) (items : List ι)
    (round : ∀ item rest, Meets (kept (item :: rest)) (body item PUnit.unit)
      fun result draft => result = .yield PUnit.unit ∧ kept rest draft) :
    Meets (kept items) (forIn items PUnit.unit body) fun _ => kept [] := by
  induction items with
  | nil => exact pure fun _ holds => holds
  | cons item rest induction =>
      rw [List.forIn_cons]
      apply bind (round item rest)
      intro result
      constructor
      intro draft ⟨yielded, holds⟩
      rw [yielded]
      exact induction.ends draft holds

/-- An assertion that every round of a loop keeps. -/
theorem throughout {ι : Type} {body : ι → PUnit → Drafting (ForInStep PUnit)}
    {kept : Draft → Prop} (items : List ι)
    (round : ∀ item, Meets kept (body item PUnit.unit)
      fun result draft => result = .yield PUnit.unit ∧ kept draft) :
    Meets kept (forIn items PUnit.unit body) fun _ => kept :=
  each (fun _ => kept) items fun item _ => round item

theorem round_if {condition : Bool} {act : Drafting PUnit} {kept : Draft → Prop}
    (keeps : Meets kept act fun _ => kept) :
    Meets kept
      (if condition then do act; Pure.pure (ForInStep.yield PUnit.unit)
        else Pure.pure (ForInStep.yield PUnit.unit))
      fun result draft => result = .yield PUnit.unit ∧ kept draft := by
  cases condition with
  | false => exact pure fun _ holds => ⟨rfl, holds⟩
  | true => exact bind keeps fun _ => pure fun _ holds => ⟨rfl, holds⟩

theorem check_texts {kept : Draft → Prop} : Meets kept checkTexts fun _ => kept := by
  unfold checkTexts
  apply bind get
  intro draft
  apply bind
  · apply throughout draft.textChecks
    rintro ⟨shape, location⟩
    apply bind resolve
    intro resolved
    exact (round_if (fail rfl)).weaken (fun _ holds => holds.2) fun _ _ holds => holds
  · intro _
    exact pure fun _ holds => holds

end Meets

end ApiScaffold.Blueprint.Drafting
