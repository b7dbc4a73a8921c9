import ApiScaffold.Blueprint.Parameters
import ApiScaffold.Proofs.Drafting
import ApiScaffold.Proofs.Registry
import Mathlib.Data.List.Nodup

/-!
What a step of drawing up a program does, told without a draft: its value, the components that it
registers, the texts that it puts off, and what it demands of the components. A step that plays a
plan fails on every draft if the plan fails, if a component of the plan has a name that is taken, or
if a demand is not met. Otherwise it ends with the value of the plan, and nothing else is done to the
draft. Demands are met by the components at hand iff they are met by all that follow.
-/

namespace ApiScaffold

/-- Names that are given once each, and that differ from the known ones. -/
structure Fresh {α : Type} (known names : List α) : Prop where
  distinct : names.Nodup
  unknown : ∀ name ∈ names, name ∉ known

namespace Fresh

variable {α : Type} {known names first second : List α} {name : α}

instance [DecidableEq α] : Decidable (Fresh known names) :=
  decidable_of_iff (names.Nodup ∧ ∀ name ∈ names, name ∉ known)
    ⟨fun both => ⟨both.1, both.2⟩, fun fresh => ⟨fresh.distinct, fresh.unknown⟩⟩

theorem nil : Fresh known [] := ⟨List.nodup_nil, fun _ member => absurd member List.not_mem_nil⟩

theorem append_iff :
    Fresh known (first ++ second) ↔ Fresh known first ∧ Fresh (first ++ known) second := by
  constructor
  · intro fresh
    obtain ⟨left, right, apart⟩ := List.nodup_append.mp fresh.distinct
    refine ⟨⟨left, fun name member => fresh.unknown name (List.mem_append_left _ member)⟩, right, ?_⟩
    intro name member known
    rcases List.mem_append.mp known with own | old
    · exact apart name own name member rfl
    · exact fresh.unknown name (List.mem_append_right _ member) old
  · rintro ⟨left, right⟩
    refine ⟨List.nodup_append.mpr ⟨left.distinct, right.distinct, ?_⟩, ?_⟩
    · rintro name own _ member rfl
      exact right.unknown name member (List.mem_append_left _ own)
    · intro name member
      rcases List.mem_append.mp member with own | other
      · exact left.unknown name own
      · exact fun old => right.unknown name other (List.mem_append_right _ old)

theorem singleton_iff : Fresh known [name] ↔ name ∉ known :=
  ⟨fun fresh => fresh.unknown name List.mem_cons_self, fun unknown =>
    ⟨List.nodup_singleton name, fun _ member => List.mem_singleton.mp member ▸ unknown⟩⟩

theorem cons_iff : Fresh known (name :: names) ↔ name ∉ known ∧ Fresh (name :: known) names := by
  rw [← List.singleton_append, append_iff, singleton_iff]
  rfl

theorem of_nothing_known : Fresh [] names ↔ names.Nodup :=
  ⟨Fresh.distinct, fun distinct => ⟨distinct, fun _ _ => List.not_mem_nil⟩⟩

theorem congr {other : List α} (same : ∀ name, name ∈ known ↔ name ∈ other) :
    Fresh known names ↔ Fresh other names :=
  ⟨fun fresh => ⟨fresh.distinct, fun name member old =>
      fresh.unknown name member ((same name).mpr old)⟩,
    fun fresh => ⟨fresh.distinct, fun name member old =>
      fresh.unknown name member ((same name).mp old)⟩⟩

theorem append_singleton_iff : Fresh (known ++ [name]) names ↔ Fresh (name :: known) names :=
  congr fun _ => List.mem_append.trans (by rw [List.mem_singleton, List.mem_cons, or_comm])

theorem perm (order : first.Perm second) : Fresh known first ↔ Fresh known second :=
  ⟨fun fresh => ⟨order.nodup_iff.mp fresh.distinct, fun name member =>
      fresh.unknown name (order.mem_iff.mpr member)⟩,
    fun fresh => ⟨order.nodup_iff.mpr fresh.distinct, fun name member =>
      fresh.unknown name (order.mem_iff.mp member)⟩⟩

end Fresh

theorem unknown_iff {α : Type} {known : List (String × α)} {name : String} :
    known.lookup name = none ↔ name ∉ known.map (·.1) :=
  Registry.find?_eq_none_iff known name

theorem known_of_lookup {α : Type} {known : List (String × α)} {name : String} {value : α}
    (found : known.lookup name = some value) : name ∈ known.map (·.1) :=
  List.mem_map.mpr ⟨_, Registry.mem_of_find? found, rfl⟩

namespace Registry

variable {α : Type}

def Within (registry other : Registry α) : Prop :=
  ∀ key value, registry.find? key = some value → other.find? key = some value

theorem Within.refl (registry : Registry α) : registry.Within registry := fun _ _ found => found

theorem Within.trans {first second third : Registry α} (here : first.Within second)
    (there : second.Within third) : first.Within third :=
  fun key value found => there key value (here key value found)

theorem Within.insert {registry : Registry α} {key : String} (value : α)
    (unknown : key ∉ registry.keys) : registry.Within (registry.insert key value) := by
  intro other known found
  rw [find?_insert_of_ne value registry]
  · exact found
  · rintro rfl
    rw [(find?_eq_none_iff registry other).mpr unknown] at found
    cases found

end Registry

end ApiScaffold

namespace ApiScaffold.Blueprint

/-- A shape that may be read from a text, where the components are known. -/
def readableIn (components : Registry Component) (listsAllowed : Bool) : Shape → Bool
  | .array element _ _ => listsAllowed && isScalar (resolveIn components element)
  | other => isScalar other

/-- What is asked of the components. -/
inductive Demand where
  /-- A shape comes down to one that is read from a text. -/
  | readable (listsAllowed : Bool) (shape : Shape)
  /-- A shape comes down to bytes. -/
  | binary (shape : Shape)

def Demand.holds (components : Registry Component) : Demand → Bool
  | readable listsAllowed shape => readableIn components listsAllowed (resolveIn components shape)
  | binary shape => (resolveIn components shape).kind? == some .bytes

structure Effects where
  components : List Component := []
  /-- Shapes that must come down to texts, and where they stand. -/
  texts : List (Shape × String) := []
  demands : List Demand := []

namespace Effects

def append (first second : Effects) : Effects where
  components := first.components ++ second.components
  texts := first.texts ++ second.texts
  demands := first.demands ++ second.demands

instance : Append Effects := ⟨append⟩

def names (effects : Effects) : List String := effects.components.map (·.name)

@[simp] theorem components_append (first second : Effects) :
    (first ++ second).components = first.components ++ second.components := rfl

@[simp] theorem texts_append (first second : Effects) :
    (first ++ second).texts = first.texts ++ second.texts := rfl

@[simp] theorem demands_append (first second : Effects) :
    (first ++ second).demands = first.demands ++ second.demands := rfl

@[simp] theorem names_append (first second : Effects) :
    (first ++ second).names = first.names ++ second.names := List.map_append

theorem empty_append (effects : Effects) : ({} : Effects) ++ effects = effects := rfl

theorem append_empty (effects : Effects) : effects ++ ({} : Effects) = effects := by
  change append effects {} = effects
  simp only [append, List.append_nil]

theorem append_assoc (first second third : Effects) :
    first ++ second ++ third = first ++ (second ++ third) := by
  change append (append first second) third = append first (append second third)
  simp only [append, List.append_assoc]

def Met (effects : Effects) (components : Registry Component) : Prop :=
  ∀ demand ∈ effects.demands, demand.holds components

theorem met_append {first second : Effects} {components : Registry Component} :
    (first ++ second).Met components ↔ first.Met components ∧ second.Met components := by
  unfold Met
  rw [demands_append, List.forall_mem_append]

def register (effects : Effects) (components : Registry Component) : Registry Component :=
  effects.components.foldl (fun known component => known.insert component.name component) components

theorem register_append (first second : Effects) (components : Registry Component) :
    (first ++ second).register components = second.register (first.register components) :=
  List.foldl_append

theorem mem_keys_register (effects : Effects) (components : Registry Component) (name : String) :
    name ∈ (effects.register components).keys ↔ name ∈ effects.names ++ components.keys := by
  obtain ⟨registered, texts, demands⟩ := effects
  unfold register names
  dsimp only
  induction registered generalizing components with
  | nil => rfl
  | cons component rest induction =>
      rw [List.foldl_cons, induction]
      simp only [List.map_cons, List.cons_append, List.mem_cons, List.mem_append,
        Registry.mem_keys_insert]
      tauto

theorem fresh_insert {names : List String} (component : Component)
    {components : Registry Component} :
    Fresh (component.name :: components.keys) names ↔
      Fresh (components.insert component.name component).keys names :=
  Fresh.congr fun _ => List.mem_cons.trans Registry.mem_keys_insert.symm

theorem register_within {effects : Effects} {components : Registry Component}
    (fresh : Fresh components.keys effects.names) :
    components.Within (effects.register components) := by
  obtain ⟨registered, texts, demands⟩ := effects
  unfold register names at *
  dsimp only at *
  induction registered generalizing components with
  | nil => exact .refl components
  | cons component rest induction =>
      rw [List.map_cons, Fresh.cons_iff] at fresh
      rw [List.foldl_cons]
      apply (Registry.Within.insert component fresh.1).trans
      exact induction ((fresh_insert component).mp fresh.2)

theorem find?_register {effects : Effects} {components : Registry Component}
    (fresh : Fresh components.keys effects.names) {component : Component}
    (registered : component ∈ effects.components) :
    (effects.register components).find? component.name = some component := by
  obtain ⟨added, texts, demands⟩ := effects
  unfold register names at *
  dsimp only at *
  induction added generalizing components with
  | nil => cases registered
  | cons first rest induction =>
      rw [List.map_cons, Fresh.cons_iff] at fresh
      rw [List.foldl_cons]
      have others := (fresh_insert first).mp fresh.2
      rcases List.mem_cons.mp registered with rfl | member
      · -- what comes after it does not take its place
        have stays := @register_within { components := rest } _ others
        exact stays _ _ (Registry.find?_insert_self _ component components)
      · exact induction others member

/-- No component takes the place of another one. -/
theorem register_perm {effects : Effects} {components : Registry Component}
    (fresh : Fresh components.keys effects.names) : (effects.register components).Perm
      (components ++ effects.components.map fun component => (component.name, component)) := by
  obtain ⟨registered, texts, demands⟩ := effects
  unfold register names at *
  dsimp only at *
  induction registered generalizing components with
  | nil => rw [List.map_nil, List.append_nil]; exact .refl _
  | cons component rest induction =>
      rw [List.map_cons, Fresh.cons_iff] at fresh
      rw [List.foldl_cons, List.map_cons]
      have order := Registry.insert_perm component fresh.1
      have others := induction ((fresh_insert component).mp fresh.2)
      exact others.trans ((order.append_right _).trans List.perm_middle.symm)

theorem mem_registered {effects : Effects} (distinct : effects.names.Nodup)
    {component : Component} :
    component ∈ (effects.register []).values ↔ component ∈ effects.components := by
  have order := @register_perm effects [] (Fresh.of_nothing_known.mpr distinct)
  unfold Registry.values
  rw [(order.map Prod.snd).mem_iff, List.nil_append, List.map_map]
  exact iff_of_eq (congrArg (component ∈ ·) (List.map_id _))

def onto (effects : Effects) (draft : Draft) : Draft :=
  { draft with
    components := effects.register draft.components
    textChecks := draft.textChecks ++ effects.texts }

theorem fresh_append {first second : Effects} {components : Registry Component} :
    Fresh components.keys (first ++ second).names ↔
      Fresh components.keys first.names ∧ Fresh (first.register components).keys second.names := by
  rw [names_append, Fresh.append_iff,
    Fresh.congr fun name => (mem_keys_register first components name).symm]

end Effects

abbrev Plan (α : Type) : Type := Option (α × Effects)

namespace Plan

variable {α β : Type}

def fails : Plan α := none

def bind (plan : Plan α) (next : α → Plan β) : Plan β :=
  Option.bind plan fun (value, effects) =>
    Option.map (fun (result, more) => (result, effects ++ more)) (next value)

instance : Monad Plan where
  pure value := some (value, {})
  bind := bind

def given (outcome : Except Diagnostic α) : Plan α :=
  match outcome with
  | .ok value => pure value
  | .error _ => fails

def register (component : Component) : Plan Unit := some ((), { components := [component] })

def checkText (shape : Shape) (location : String) : Plan Unit :=
  some ((), { texts := [(shape, location)] })

def demand (demand : Demand) : Plan Unit := some ((), { demands := [demand] })

def collect {ι : Type} (step : ι → Plan α) : List ι → Plan (List α)
  | [] => pure []
  | item :: rest => do
    let value ← step item
    let values ← collect step rest
    return value :: values

theorem bind_fails (plan : Plan α) : (plan >>= fun _ => (fails : Plan β)) = fails := by
  rcases plan with _ | ⟨value, effects⟩ <;> rfl

/-- A condition on all items may be checked where the remaining ones are planned. -/
theorem collect_guarded {ι : Type} {condition : Prop} [Decidable condition] (step : ι → Plan α)
    (item : ι) (rest : List ι) :
    (if condition then collect step (item :: rest) else fails) =
      (step item >>= fun value => (if condition then collect step rest else fails) >>= fun values =>
        pure (value :: values)) := by
  split
  · rfl
  · exact (bind_fails (step item)).symm

theorem pure_bind (value : α) (next : α → Plan β) : (pure value >>= next) = next value := by
  change Option.map (fun result : β × Effects => (result.1, {} ++ result.2)) (next value) = _
  simp only [Effects.empty_append]
  exact Option.map_id'

theorem bind_assoc {γ : Type} (plan : Plan α) (next : α → Plan β) (last : β → Plan γ) :
    (plan >>= next >>= last) = (plan >>= fun value => next value >>= last) := by
  rcases plan with _ | ⟨value, first⟩
  · rfl
  change Option.bind (Option.map _ (next value)) _ = Option.map _ (Option.bind (next value) _)
  rcases next value with _ | ⟨middle, second⟩
  · rfl
  change Option.map _ (last middle) = Option.map _ (Option.map _ (last middle))
  rcases last middle with _ | ⟨result, third⟩
  · rfl
  · exact congrArg (fun effects => some (result, effects)) (first.append_assoc second third)

theorem bind_pure (plan : Plan α) : (plan >>= pure) = plan := by
  rcases plan with _ | ⟨value, effects⟩
  · rfl
  · exact congrArg (fun effects => some (value, effects)) effects.append_empty

/-- The same where values are put behind those that are known. -/
theorem collect_behind {ι : Type} {condition : Prop} [Decidable condition] (step : ι → Plan α)
    (known : List α) (item : ι) (rest : List ι) :
    ((if condition then collect step (item :: rest) else fails) >>= fun more =>
        pure (known ++ more)) =
      (step item >>= fun value => (if condition then collect step rest else fails) >>= fun more =>
        pure (known ++ [value] ++ more)) := by
  rw [collect_guarded, bind_assoc]
  congr 1
  funext value
  rw [bind_assoc]
  congr 1
  funext more
  rw [pure_bind, List.append_assoc]
  rfl

theorem collect_append {ι : Type} (step : ι → Plan α) (first second : List ι) :
    collect step (first ++ second) =
      (collect step first >>= fun values => collect step second >>= fun more =>
        pure (values ++ more)) := by
  induction first with
  | nil =>
      rw [List.nil_append, collect, pure_bind]
      exact (bind_pure _).symm
  | cons item rest induction =>
      rw [List.cons_append, collect, collect, induction, bind_assoc]
      congr 1
      funext value
      rw [bind_assoc, bind_assoc]
      congr 1
      funext values
      rw [bind_assoc, pure_bind]
      congr 1

/-- What a bound plan does is what its two parts do. -/
theorem bind_eq_some {plan : Plan α} {next : α → Plan β} {result : β} {effects : Effects} :
    (plan >>= next) = some (result, effects) ↔ ∃ value first second,
      plan = some (value, first) ∧ next value = some (result, second) ∧
        effects = first ++ second := by
  change Option.bind plan _ = _ ↔ _
  rw [Option.bind_eq_some_iff]
  constructor
  · rintro ⟨⟨value, first⟩, here, there⟩
    obtain ⟨⟨known, second⟩, follows, same⟩ := Option.map_eq_some_iff.mp there
    cases same
    exact ⟨value, first, second, here, follows, rfl⟩
  · rintro ⟨value, first, second, here, there, rfl⟩
    exact ⟨(value, first), here, Option.map_eq_some_iff.mpr ⟨(result, second), there, rfl⟩⟩

theorem collect_steps {ι : Type} {step : ι → Plan α} {items : List ι} {values : List α}
    {effects : Effects} (planned : collect step items = some (values, effects)) :
    List.Forall₂ (fun item value => ∃ own, step item = some (value, own)) items values := by
  induction items generalizing values effects with
  | nil =>
      cases planned
      exact .nil
  | cons item rest induction =>
      obtain ⟨value, first, others, here, following, rfl⟩ := bind_eq_some.mp planned
      obtain ⟨more, second, third, there, ended, rfl⟩ := bind_eq_some.mp following
      cases ended
      exact .cons ⟨first, here⟩ (induction there)

end Plan

section Playing

variable {α β : Type}

def Fails (result : Except Diagnostic α × Draft) : Prop :=
  ∃ diagnostic, result.1 = .error diagnostic

/-- The step ends with a value, on a draft that has the effects; warnings do not count. -/
def Succeeds (value : α) (draft : Draft) (result : Except Diagnostic α × Draft) : Prop :=
  ∃ warnings, result = (.ok value, { draft with warnings })

structure Follows (draft : Draft) (value : α) (effects : Effects)
    (result : Except Diagnostic α × Draft) : Prop where
  collides : ¬ Fresh draft.components.keys effects.names → Fails result
  refused : ∀ whole, (effects.register draft.components).Within whole → ¬ effects.Met whole →
    Fails result
  succeeds : Fresh draft.components.keys effects.names → ∀ whole,
    (effects.register draft.components).Within whole → effects.Met whole →
    Succeeds value (effects.onto draft) result

def FollowsPlan (draft : Draft) (result : Except Diagnostic α × Draft) : Plan α → Prop
  | none => Fails result
  | some (value, effects) => Follows draft value effects result

/-- On every draft with the assertion, the step ends as the plan says. -/
structure Plays (before : Draft → Prop) (step : Drafting α) (plan : Plan α) : Prop where
  follows : ∀ draft, before draft → FollowsPlan draft (step.run.run draft) plan

namespace Plays

open Drafting

variable {before : Draft → Prop} {step : Drafting α} {plan : Plan α}

/-- A step that ends with a value and changes nothing but warnings. -/
theorem silent {value : α}
    (ends : ∀ draft, before draft → Succeeds value draft (step.run.run draft)) :
    Plays before step (pure value) := by
  constructor
  intro draft holds
  refine ⟨fun stale => absurd Fresh.nil stale, ?_, ?_⟩
  · intro whole _ unmet
    exact absurd (fun _ member => absurd member List.not_mem_nil) unmet
  · intro _ whole _ _
    change Succeeds value { draft with textChecks := draft.textChecks ++ [] } _
    rw [List.append_nil]
    exact ends draft holds

theorem pure {value : α} : Plays before (pure value) (pure value) :=
  silent fun draft _ => ⟨draft.warnings, rfl⟩

theorem fail {problem : Problem} {location : String} :
    Plays before (fail problem location : Drafting α) Plan.fails := ⟨fun _ _ => ⟨_, rfl⟩⟩

theorem throw {diagnostic : Diagnostic} :
    Plays before (throw diagnostic : Drafting α) Plan.fails := ⟨fun _ _ => ⟨_, rfl⟩⟩

theorem warn {message : String} : Plays before (warn message) (Pure.pure ()) :=
  silent fun draft _ => ⟨draft.warnings ++ [message], rfl⟩

theorem lift_except {outcome : Except Diagnostic α} :
    Plays before (liftExcept outcome) (Plan.given outcome) := by
  cases outcome with
  | error diagnostic => exact throw
  | ok value => exact pure

theorem check_text_later {shape : Shape} {location : String} :
    Plays before (checkTextLater shape location) (Plan.checkText shape location) := by
  constructor
  intro draft _
  refine ⟨fun stale => absurd Fresh.nil stale, ?_, ?_⟩
  · intro whole _ unmet
    exact absurd (fun _ member => absurd member List.not_mem_nil) unmet
  · intro _ whole _ _
    exact ⟨draft.warnings, rfl⟩

theorem register {component : Component} :
    Plays before (register component) (Plan.register component) := by
  constructor
  intro draft _
  rw [run_register]
  have known := Registry.find?_eq_none_iff draft.components component.name
  have fresh : Fresh draft.components.keys [component.name] ↔ _ := Fresh.singleton_iff
  cases found : draft.components.find? component.name with
  | some existing =>
      have taken : ¬ Fresh draft.components.keys [component.name] := by
        rw [fresh, ← known, found]
        exact nofun
      exact ⟨fun _ => ⟨_, rfl⟩, fun _ _ _ => ⟨_, rfl⟩, fun stated => absurd stated taken⟩
  | none =>
      refine ⟨fun stale => absurd (fresh.mpr (known.mp found)) stale, ?_, ?_⟩
      · intro whole _ unmet
        exact absurd (fun _ member => absurd member List.not_mem_nil) unmet
      · intro _ whole _ _
        refine ⟨draft.warnings, ?_⟩
        change _ = (Except.ok (), { draft with
          components := draft.components.insert component.name component
          textChecks := draft.textChecks ++ [] })
        rw [List.append_nil]

theorem weaken {stronger : Draft → Prop} (plays : Plays before step plan)
    (required : ∀ draft, stronger draft → before draft) : Plays stronger step plan :=
  ⟨fun draft holds => plays.follows draft (required draft holds)⟩

/-- Steps that end alike on every draft play the same plans. -/
theorem of_run {other : Drafting α} (plays : Plays before other plan)
    (same : ∀ draft, step.run.run draft = other.run.run draft) : Plays before step plan :=
  ⟨fun draft holds => same draft ▸ plays.follows draft holds⟩

theorem attributing {operation : String} (plays : Plays before step plan) :
    Plays before (attributing operation step) plan := by
  constructor
  intro draft holds
  have follows := plays.follows draft holds
  have fails : Fails (step.run.run draft) →
      Fails ((Drafting.attributing operation step).run.run draft) := by
    rw [run_attributing]
    rintro ⟨diagnostic, failed⟩
    generalize step.run.run draft = result at failed
    obtain ⟨outcome, reached⟩ := result
    cases failed
    exact ⟨_, rfl⟩
  cases plan with
  | none => exact fails follows
  | some planned =>
      obtain ⟨value, effects⟩ := planned
      refine ⟨fun stale => fails (follows.collides stale),
        fun whole within unmet => fails (follows.refused whole within unmet), ?_⟩
      intro fresh whole within met
      obtain ⟨warnings, result⟩ := follows.succeeds fresh whole within met
      refine ⟨warnings, ?_⟩
      rw [run_attributing, result]

/-- The step fails, or it succeeds and everything is as it should be for that. -/
theorem ends {value : α} {effects : Effects} (plays : Plays before step (some (value, effects)))
    {draft : Draft} (holds : before draft) :
    Fails (step.run.run draft) ∨ Fresh draft.components.keys effects.names ∧
      Succeeds value (effects.onto draft) (step.run.run draft) := by
  have follows : Follows draft value effects (step.run.run draft) := plays.follows draft holds
  by_cases fresh : Fresh draft.components.keys effects.names
  · by_cases met : effects.Met (effects.register draft.components)
    · exact .inr ⟨fresh, follows.succeeds fresh _ (.refl _) met⟩
    · exact .inl (follows.refused _ (.refl _) met)
  · exact .inl (follows.collides fresh)

/-- A step that ended with a value was planned so. -/
theorem ran {value : α} (plays : Plays before step plan) {draft reached : Draft}
    (holds : before draft) (ended : step.run.run draft = (.ok value, reached)) :
    ∃ effects, plan = some (value, effects) ∧ Fresh draft.components.keys effects.names ∧
      reached.components = effects.register draft.components := by
  cases plan with
  | none =>
      obtain ⟨_, failed⟩ := plays.follows draft holds
      rw [ended] at failed
      cases failed
  | some planned =>
      obtain ⟨result, effects⟩ := planned
      rcases plays.ends holds with ⟨_, failed⟩ | ⟨fresh, _, success⟩
      · rw [ended] at failed
        cases failed
      · rw [ended] at success
        cases success
        exact ⟨effects, rfl, fresh, rfl⟩

theorem fails_bind {next : α → Drafting β} {draft : Draft} (fails : Fails (step.run.run draft)) :
    Fails ((step >>= next).run.run draft) := by
  rw [run_bind]
  obtain ⟨diagnostic, failed⟩ := fails
  generalize step.run.run draft = result at failed
  obtain ⟨outcome, reached⟩ := result
  cases failed
  exact ⟨diagnostic, rfl⟩

section Binding

variable {value : α} {result : β} {effects more : Effects} {middle : α → Draft → Prop}
  {next : α → Drafting β} {draft : Draft} (first : Plays before step (some (value, effects)))
  (reaches : ∀ draft value after, before draft → step.run.run draft = (.ok value, after) →
    middle value after)
  (holds : before draft)

include first reaches holds

/-- The first of two steps fails, or the second one goes on where it ended. -/
theorem goes_on : Fails ((step >>= next).run.run draft) ∨
    Fresh draft.components.keys effects.names ∧ ∃ reached, middle value reached ∧
      reached.components = effects.register draft.components ∧
        (step >>= next).run.run draft = (next value).run.run reached := by
  rcases first.ends holds with fails | ⟨fresh, warnings, ended⟩
  · exact .inl (fails_bind fails)
  · refine .inr ⟨fresh, _, reaches draft value _ holds ended, rfl, ?_⟩
    rw [run_bind, ended]

theorem bind_fails_next (second : Plays (middle value) (next value) Plan.fails) :
    Fails ((step >>= next).run.run draft) := by
  rcases first.goes_on reaches holds with fails | ⟨_, reached, between, _, same⟩
  · exact fails
  · rw [same]
    exact second.follows reached between

variable (second : Plays (middle value) (next value) (some (result, more)))

include second

theorem bind_collides (taken : ¬ Fresh draft.components.keys (effects ++ more).names) :
    Fails ((step >>= next).run.run draft) := by
  rcases first.goes_on reaches holds with fails | ⟨fresh, reached, between, components, same⟩
  · exact fails
  · have follows : Follows reached result more _ := second.follows reached between
    rw [same]
    apply follows.collides
    rw [components]
    exact fun rest => taken (Effects.fresh_append.mpr ⟨fresh, rest⟩)

/-- An unmet demand is one of the first step or one of the second. -/
theorem bind_refused {whole : Registry Component}
    (within : ((effects ++ more).register draft.components).Within whole)
    (unmet : ¬ (effects ++ more).Met whole) : Fails ((step >>= next).run.run draft) := by
  rcases first.goes_on reaches holds with fails | ⟨fresh, reached, between, components, same⟩
  · exact fails
  have here : Follows draft value effects _ := first.follows draft holds
  have follows : Follows reached result more _ := second.follows reached between
  rw [Effects.register_append, ← components] at within
  by_cases rest : Fresh reached.components.keys more.names
  · by_cases met : more.Met whole
    · have grown := (Effects.register_within rest).trans within
      rw [components] at grown
      exact fails_bind (here.refused whole grown
        fun known => unmet (Effects.met_append.mpr ⟨known, met⟩))
    · rw [same]
      exact follows.refused whole within met
  · rw [same]
    exact follows.collides rest

theorem bind_succeeds {whole : Registry Component}
    (fresh : Fresh draft.components.keys (effects ++ more).names)
    (within : ((effects ++ more).register draft.components).Within whole)
    (met : (effects ++ more).Met whole) :
    Succeeds result ((effects ++ more).onto draft) ((step >>= next).run.run draft) := by
  have here : Follows draft value effects _ := first.follows draft holds
  obtain ⟨freshHere, freshThere⟩ := Effects.fresh_append.mp fresh
  obtain ⟨metHere, metThere⟩ := Effects.met_append.mp met
  rw [Effects.register_append] at within
  have grown := (Effects.register_within freshThere).trans within
  obtain ⟨warnings, success⟩ := here.succeeds freshHere whole grown metHere
  have follows : Follows _ result more _ := second.follows _ (reaches draft value _ holds success)
  obtain ⟨final, ended⟩ := follows.succeeds freshThere whole within metThere
  refine ⟨final, ?_⟩
  rw [run_bind, success]
  dsimp only
  rw [ended]
  simp only [Effects.onto, Effects.register_append, Effects.texts_append, List.append_assoc]

end Binding

/-- Whatever the first step reaches, the second one plays its plan there. -/
theorem bind {middle : α → Draft → Prop} {next : α → Drafting β} {following : α → Plan β}
    (first : Plays before step plan)
    (reaches : ∀ draft value after, before draft → step.run.run draft = (.ok value, after) →
      middle value after)
    (second : ∀ value effects, plan = some (value, effects) →
      Plays (middle value) (next value) (following value)) :
    Plays before (step >>= next) (plan >>= following) := by
  constructor
  intro draft holds
  rcases plan with _ | ⟨value, effects⟩
  · exact fails_bind (first.follows draft holds)
  have second := second value effects rfl
  change FollowsPlan draft _ (Option.map _ (following value))
  rcases planned : following value with _ | ⟨result, more⟩
  · rw [planned] at second
    exact first.bind_fails_next reaches holds second
  · rw [planned] at second
    exact ⟨first.bind_collides reaches holds second,
      fun _ => first.bind_refused reaches holds second,
      fun fresh _ => first.bind_succeeds reaches holds second fresh⟩

/-- Nothing has to be known of what the first step reaches. -/
theorem followed_by {next : α → Drafting β} {following : α → Plan β}
    (first : Plays before step plan)
    (second : ∀ value, Plays (fun _ => True) (next value) (following value)) :
    Plays before (step >>= next) (plan >>= following) :=
  bind first (fun _ _ _ _ _ => trivial) fun value _ _ => second value

theorem fails_first {next : α → Drafting β} (first : Plays before step Plan.fails) :
    Plays before (step >>= next) Plan.fails :=
  ⟨fun draft holds => fails_bind (first.follows draft holds)⟩

theorem bind_fails {next : α → Drafting β} (first : Plays before step plan)
    (second : ∀ value, Plays (fun _ => True) (next value) Plan.fails) :
    Plays before (step >>= next) Plan.fails :=
  Plan.bind_fails plan ▸ first.followed_by second

theorem after_silent {value : β} {first : Drafting β} {next : β → Drafting α}
    (silent : Plays before first (Pure.pure value))
    (second : Plays (fun _ => True) (next value) plan) :
    Plays before (first >>= next) plan := by
  have known : ∀ draft result after, before draft → first.run.run draft = (.ok result, after) →
      result = value := by
    intro draft result after holds same
    rcases silent.ends holds with ⟨diagnostic, failed⟩ | ⟨_, warnings, success⟩
    · rw [same] at failed
      cases failed
    · rw [same] at success
      cases success
      rfl
  rw [← Plan.pure_bind value fun _ => plan]
  apply silent.bind known
  intro result _ _
  constructor
  rintro draft rfl
  exact second.follows draft trivial

theorem each_silent {ι : Type} {body : ι → PUnit → Drafting (ForInStep PUnit)} (items : List ι)
    (round : ∀ item, Plays (fun _ => True) (body item PUnit.unit)
      (Pure.pure (ForInStep.yield PUnit.unit))) :
    Plays before (forIn items PUnit.unit body) (Pure.pure PUnit.unit) := by
  induction items generalizing before with
  | nil => exact pure
  | cons item rest induction =>
      rw [List.forIn_cons]
      exact ((round item).weaken fun _ _ => trivial).after_silent induction

theorem each {ι : Type} {body : ι → PUnit → Drafting (ForInStep PUnit)} (plans : ι → Plan Unit)
    (items : List ι)
    (round : ∀ item, Plays (fun _ => True) (body item PUnit.unit)
      (plans item >>= fun _ => Pure.pure (ForInStep.yield PUnit.unit))) :
    Plays before (forIn items PUnit.unit body)
      (Plan.collect plans items >>= fun _ => Pure.pure PUnit.unit) := by
  induction items generalizing before with
  | nil => exact pure
  | cons item rest induction =>
      rw [List.forIn_cons]
      have planned : (Plan.collect plans (item :: rest) >>= fun _ => Pure.pure PUnit.unit) =
          ((plans item >>= fun _ => Pure.pure (ForInStep.yield PUnit.unit)) >>= fun _ =>
            Plan.collect plans rest >>= fun _ => Pure.pure PUnit.unit) := by
        rw [Plan.collect, Plan.bind_assoc, Plan.bind_assoc]
        congr 1
        funext value
        rw [Plan.bind_assoc, Plan.pure_bind]
        congr 1
      rw [planned]
      apply ((round item).weaken fun _ _ => trivial).bind (fun _ _ _ _ _ => trivial)
      intro result effects ended
      obtain ⟨_, _, _, _, yielded, _⟩ := Plan.bind_eq_some.mp ended
      cases yielded
      exact induction

end Plays

end Playing

end ApiScaffold.Blueprint
