import ApiScaffold.Proofs.DeclaredOnce
import ApiScaffold.Proofs.HeldByValue
import ApiScaffold.Proofs.ProgramParts
import ApiScaffold.Proofs.ReorderedRules
import ApiScaffold.Proofs.ShortDocuments
import Mathlib.Logic.Relation
import Mathlib.Order.WellFoundedSet

/-!
Types that hold themselves. Lowering follows references without asking where they lead, and only a
pointer, a list or a map keeps a value out of what refers to it. So the components of a program hold
each other in a circle exactly if the schemas of the document do, and a chain of names has no end
exactly if some schemas do nothing but refer to each other in a circle. Go types that a document
states as text count as leading nowhere.
-/

namespace ApiScaffold.Blueprint

open OpenApi (Schema OrRef Extensions Specification Document)
open Relation (TransGen ReflTransGen)

def asksPointer : OrRef Schema → Bool
  | .reference _ => false
  | .object schema => (statedExtensions schema).any (·.pointer)

inductive StandsFor : OrRef Schema → String → Prop where
  | reference {key : String} : StandsFor (.reference (OpenApi.schemasPlace ++ key)) key
  | sole {schema : Schema} {extensions : Extensions} {key : String}
    (stated : statedExtensions schema = some extensions)
    (form : SchemaForm.of extensions schema = .composition)
    (sole : onlyReference? schema = some (OpenApi.schemasPlace ++ key)) :
    StandsFor (.object schema) key

/-- The values of a schema have values of a declared one in them, other than in a list, in a map or
behind a pointer. -/
inductive Embeds : OrRef Schema → String → Prop where
  | same {item : OrRef Schema} {key : String} (stands : StandsFor item key) : Embeds item key
  | property {schema : Schema} {extensions : Extensions} {property : String × OrRef Schema}
    {key : String} (stated : statedExtensions schema = some extensions)
    (form : SchemaForm.of extensions schema = .object) (listed : property ∈ schema.properties)
    (direct : asksPointer property.2 = false) (inside : Embeds property.2 key) :
    Embeds (.object schema) key

def Refers (specification : Specification) (key other : String) : Prop :=
  ∃ item, (key, item) ∈ specification.components.schemas ∧ StandsFor item other

def Encloses (specification : Specification) (key other : String) : Prop :=
  ∃ item, (key, item) ∈ specification.components.schemas ∧ Embeds item other

def Effects.Leads (whole : Effects) (follows : Shape → String → Prop) (name other : String) : Prop :=
  ∃ component ∈ whole.components, component.name = name ∧ follows component.shape other

abbrev Shape.HoldsName (shape : Shape) (name : String) : Prop := name ∈ shape.held

abbrev Shape.IsName (shape : Shape) (name : String) : Prop := shape = .named name

section Forms

variable {specification : Specification} {whole : Effects} {hint location : String}
  {extensions : Extensions} {schema : Schema} {shape : Shape}

theorem Outlined.of_sole {target : String}
    (outlined : Outlined specification whole hint location extensions schema shape)
    (form : SchemaForm.of extensions schema = .composition)
    (sole : onlyReference? schema = some target) :
    referenceShape specification target s!"{location}/allOf/0" = .ok shape := by
  cases outlined with
  | custom stated => simp [SchemaForm.of, stated] at form
  | reference _ stated referred =>
      rw [sole] at stated
      cases stated
      exact referred
  | allOf _ several => cases sole.symm.trans several
  | oneOf _ several => cases sole.symm.trans several
  | anyOf _ several => cases sole.symm.trans several
  | enumeration other => cases form.symm.trans other
  | array other => cases form.symm.trans other
  | object other => cases form.symm.trans other
  | plain other => cases form.symm.trans other

theorem Outlined.of_object
    (outlined : Outlined specification whole hint location extensions schema shape)
    (form : SchemaForm.of extensions schema = .object) :
    ∃ fields required additional, shape = .object fields required additional ∧
      (innerPlans specification hint location schema).fields.Gives whole fields := by
  cases outlined with
  | custom stated => simp [SchemaForm.of, stated] at form
  | reference other => cases form.symm.trans other
  | allOf other => cases form.symm.trans other
  | oneOf other => cases form.symm.trans other
  | anyOf other => cases form.symm.trans other
  | enumeration other => cases form.symm.trans other
  | array other => cases form.symm.trans other
  | object _ planned => exact ⟨_, _, _, rfl, planned⟩
  | plain other => cases form.symm.trans other

theorem pointer_of_rules {item : OrRef Schema} {rules : FieldRules}
    (read : fieldRules item location = .ok rules) :
    rules.extensions.pointer = asksPointer item := by
  cases item with
  | reference target =>
      cases read
      rfl
  | object schema =>
      rw [fieldRules] at read
      rcases stated : Extensions.read schema.extensions location with diagnostic | extensions
      · rw [stated] at read
        cases read
      rcases limits : constraintsOf schema location with diagnostic | constraints
      · rw [stated, limits] at read
        cases read
      rw [stated, limits] at read
      cases read
      rw [asksPointer, stated_of_read stated]
      rfl

/-- The field of a property is a pointer if the property asks for one. -/
theorem FieldGiven.pointer_iff {jsonName : String} {item : OrRef Schema} {required : Bool}
    {field : Field Shape}
    (given : FieldGiven specification whole jsonName item required location shape field) :
    field.optionality = .pointer ↔ asksPointer item = true := by
  obtain ⟨rules, read, optionality⟩ := given.optionality
  rw [optionality, optionalityOf, pointer_of_rules read]
  cases asksPointer item <;> cases required <;> cases isNullable specification item <;> decide

end Forms

section Leading

variable {specification : Specification} {whole : Effects} {hint location : String}

def Effects.LeadsFrom (whole : Effects) (names : List String) (key : String) : Prop :=
  ∃ name ∈ names, ReflTransGen (whole.Leads Shape.HoldsName) name (Identifier.exported key)

theorem nested_leads {item : OrRef Schema} {key : String} {shape : Shape}
    (inner : ∀ schema, item = .object schema → ∀ hint location shape,
      (shapePlan specification .declared hint location schema).Gives whole shape →
        whole.LeadsFrom shape.held key)
    (embeds : Embeds item key) (nested : Nested specification whole hint location item shape) :
    whole.LeadsFrom shape.name?.toList key := by
  cases nested with
  | @reference other declared =>
      generalize written : OpenApi.schemasPlace ++ other = target at embeds
      cases embeds with
      | same stands =>
          cases stands with
          | reference =>
              rw [(String.append_right_inj _).mp written]
              exact ⟨_, List.mem_singleton_self _, .refl⟩
  | inPlace declared stays =>
      obtain ⟨name, held, leads⟩ := inner _ rfl _ _ _ declared
      refine ⟨name, ?_, leads⟩
      cases shape with
      | named other => exact held
      | object fields required additional =>
          cases fields with
          | nil => cases held
          | cons first rest => cases stays
      | _ => cases held
  | @component schema component declared named registered =>
      obtain ⟨name, held, leads⟩ := inner _ rfl _ _ _ declared
      refine ⟨hint, List.mem_singleton_self _, ?_⟩
      exact .head ⟨component, registered, named, held⟩ leads

theorem shape_of_sole {schema : Schema} {key : String} {shape : Shape}
    (stands : StandsFor (.object schema) key)
    (gives : (shapePlan specification .declared hint location schema).Gives whole shape) :
    shape = .named (Identifier.exported key) := by
  cases stands with
  | sole stated form sole =>
      obtain ⟨extensions, read, outlined⟩ := declared_outlined gives
      cases stated.symm.trans (stated_of_read read)
      obtain ⟨other, written, named, _⟩ := reference_named (outlined.of_sole form sole)
      rw [named, (String.append_right_inj _).mp written]

/-- By induction on how the schema is embedded: each step goes into a property, whose field is either
the name itself or that of a component made for the property. -/
theorem declared_leads {item : OrRef Schema} {key : String} (embeds : Embeds item key) :
    ∀ schema, item = .object schema → ∀ hint location shape,
      (shapePlan specification .declared hint location schema).Gives whole shape →
        whole.LeadsFrom shape.held key := by
  induction embeds with
  | @same item key stands =>
      intro schema same hint location shape gives
      subst same
      rw [shape_of_sole stands gives]
      exact ⟨_, List.mem_singleton_self _, .refl⟩
  | @property schema extensions property key stated form listed direct inside induction =>
      intro schema same hint location shape gives
      cases same
      obtain ⟨extensions, read, outlined⟩ := declared_outlined gives
      -- where extensions stand does not count, so they are the ones that give the form
      cases stated.symm.trans (stated_of_read read)
      obtain ⟨fields, required, additional, rfl, planned⟩ := outlined.of_object form
      obtain ⟨entry, member, given⟩ := partner_of_mem (fields_give planned).given listed
      obtain ⟨name, held, leads⟩ := nested_leads induction inside given.nested
      refine ⟨name, List.mem_filterMap.mpr ⟨entry, member, ?_⟩, leads⟩
      rw [Field.held, if_neg (mt given.field.pointer_iff.mp (by simp [direct]))]
      exact Option.mem_toList.mp held

theorem Declared.of_stands {component : Component} {item : OrRef Schema} {key : String}
    (declared : Declared specification whole component item) (stands : StandsFor item key) :
    component.shape = .named (Identifier.exported key) := by
  cases declared with
  | @reference target shape known =>
      generalize written : OpenApi.schemasPlace ++ target = place at stands
      cases stands with
      | reference => rw [shape, (String.append_right_inj _).mp written]
  | schema declared => exact shape_of_sole stands declared

variable {program : Program} (given : ProgramGiven specification whole program)

include given

theorem ProgramGiven.renames {key other : String} (refers : Refers specification key other) :
    whole.Leads Shape.IsName (Identifier.exported key) (Identifier.exported other) := by
  obtain ⟨item, stated, stands⟩ := refers
  obtain ⟨component, registered, named, declared⟩ := given.declared _ stated
  exact ⟨component, registered, named, declared.of_stands stands⟩

theorem ProgramGiven.holds {key other : String} (encloses : Encloses specification key other) :
    TransGen (whole.Leads Shape.HoldsName) (Identifier.exported key) (Identifier.exported other) := by
  obtain ⟨item, stated, embeds⟩ := encloses
  obtain ⟨component, registered, named, declared⟩ := given.declared _ stated
  cases item with
  | reference target =>
      cases embeds with
      | same stands =>
          refine .single ⟨component, registered, named, ?_⟩
          rw [declared.of_stands stands]
          exact List.mem_singleton_self _
  | object schema =>
      cases declared with
      | schema gives =>
          obtain ⟨name, held, leads⟩ := declared_leads embeds _ rfl _ _ _ gives
          exact .head' ⟨component, registered, named, held⟩ leads

end Leading

section Ending

/-- Without circles, what follows from all that an item is related to holds of all items. -/
theorem acyclic_induction {α : Type} {related : α → α → Prop}
    (acyclic : ∀ item, ¬ TransGen related item item) {items : List α} {property : α → Prop}
    (step : ∀ item ∈ items, (∀ other ∈ items, related item other → property other) →
      property item) : ∀ item ∈ items, property item := by
  have order : IsStrictOrder α fun first second => TransGen related second first :=
    { irrefl := acyclic, trans := fun _ _ _ here there => there.trans here }
  have founded := items.finite_toSet.wellFoundedOn (r := fun first second =>
    TransGen related second first)
  intro item member
  apply founded.induction member
  intro item member smaller
  exact step item member fun other among relates => smaller other among (.single relates)

theorem not_cyclic_of_acc {α : Type} {related : α → α → Prop} {item : α}
    (ends : Acc (Function.swap related) item) : ¬ TransGen related item item := by
  induction ends with
  | intro item _ induction =>
      intro circle
      obtain ⟨next, step, back⟩ := TransGen.head'_iff.mp circle
      exact induction next step (.tail' back step)

def Effects.Ends (whole : Effects) (follows : Shape → String → Prop) (name : String) : Prop :=
  Acc (Function.swap (whole.Leads follows)) name

theorem Effects.Ends.of_followed {whole : Effects} (distinct : whole.names.Nodup)
    {follows : Shape → String → Prop} {component : Component}
    (registered : component ∈ whole.components)
    (next : ∀ name, follows component.shape name → whole.Ends follows name) :
    whole.Ends follows component.name := by
  constructor
  intro name leads
  obtain ⟨other, among, named, followed⟩ := leads
  rw [List.inj_on_of_nodup_map distinct among registered named] at followed
  exact next name followed

variable {specification : Specification} {whole : Effects}

/-- Whatever the values of a schema hold ends, if the schemas that it encloses do. -/
def EndsWithKeys (specification : Specification) (whole : Effects) (schema : Schema) : Prop :=
  ∀ hint location shape,
    (shapePlan specification .declared hint location schema).Gives whole shape →
    (∀ key, (specification.components.schemas.lookup key).isSome → Embeds (.object schema) key →
      whole.Ends Shape.HoldsName (Identifier.exported key)) →
    ∀ name ∈ shape.held, whole.Ends Shape.HoldsName name

theorem nested_ends (distinct : whole.names.Nodup) {hint location : String}
    {item : OrRef Schema} {shape : Shape}
    (inside : item.Satisfies (EndsWithKeys specification whole))
    (nested : Nested specification whole hint location item shape)
    (keys : ∀ key, (specification.components.schemas.lookup key).isSome → Embeds item key →
      whole.Ends Shape.HoldsName (Identifier.exported key)) :
    ∀ name ∈ shape.name?, whole.Ends Shape.HoldsName name := by
  intro name named
  cases nested with
  | reference declared =>
      rw [← Option.some.inj named]
      exact keys _ declared (.same .reference)
  | inPlace declared stays =>
      apply inside _ _ _ declared keys
      cases shape with
      | named other => exact Option.mem_toList.mpr named
      | _ => cases named
  | component declared same registered =>
      cases named
      rw [← same]
      exact .of_followed distinct registered (inside _ _ _ declared keys)

theorem declared_ends (distinct : whole.names.Nodup) (schema : Schema) :
    EndsWithKeys specification whole schema := by
  induction schema using Schema.of_inside with
  | step schema inside =>
      intro hint location shape gives keys name held
      obtain ⟨extensions, read, outlined⟩ := declared_outlined gives
      have stated := stated_of_read read
      cases outlined with
      | reference form sole referred =>
          obtain ⟨key, rfl, rfl, declared⟩ := reference_named referred
          rw [List.mem_singleton.mp held]
          exact keys key declared (.same (.sole stated form sole))
      | object form planned beside =>
          obtain ⟨entry, member, held⟩ := List.mem_filterMap.mp held
          obtain ⟨property, listed, given⟩ :=
            partner_of_mem (fields_give planned).given.flip member
          have direct : ¬ entry.2.optionality = .pointer := by
            intro pointer
            rw [Field.held, if_pos pointer] at held
            cases held
          rw [Field.held, if_neg direct] at held
          rw [given.field.pointer_iff, Bool.not_eq_true] at direct
          apply nested_ends distinct (inside.properties property listed) given.nested _ name held
          intro key declared embeds
          exact keys key declared (.property stated form listed direct embeds)
      | plain form given =>
          rcases plain_primitive given with rfl | ⟨primitive, rfl⟩ <;> cases held
      | _ => cases held

/-- A shape that is a name comes of a schema that is nothing but a reference. -/
theorem stands_of_named {hint location : String} {schema : Schema} {name : String}
    (gives : (shapePlan specification .declared hint location schema).Gives whole (.named name)) :
    ∃ key, StandsFor (.object schema) key ∧ name = Identifier.exported key ∧
      (specification.components.schemas.lookup key).isSome := by
  obtain ⟨extensions, read, outlined⟩ := declared_outlined gives
  cases outlined with
  | reference form sole referred =>
      obtain ⟨key, rfl, named, declared⟩ := reference_named referred
      exact ⟨key, .sole (stated_of_read read) form sole, Shape.named.inj named, declared⟩
  | plain form given =>
      rcases plain_primitive given with same | ⟨primitive, same⟩ <;> cases same

end Ending

section Circles

variable {specification : Specification} {whole : Effects} {program : Program}
  (given : ProgramGiven specification whole program)

include given

/-- Components of declared schemas end if those do that their schemas are related to, as there are
finitely many keys in no circle. Which ways are meant, and which schemas are related by them, is left
open. -/
theorem ProgramGiven.keys_end (follows : Shape → String → Prop)
    {related : String → String → Prop}
    (acyclic : ∀ key, ¬ TransGen related key key)
    (declared : ∀ key item, (key, item) ∈ specification.components.schemas →
      ∀ component, Declared specification whole component item →
      (∀ other, (specification.components.schemas.lookup other).isSome → related key other →
        whole.Ends follows (Identifier.exported other)) →
      ∀ name, follows component.shape name → whole.Ends follows name)
    (key : String) (stated : (specification.components.schemas.lookup key).isSome) :
    whole.Ends follows (Identifier.exported key) := by
  have known {key : String} : (specification.components.schemas.lookup key).isSome ↔
      key ∈ specification.components.schemas.map (·.1) :=
    Registry.find?_is_some_iff specification.components.schemas key
  apply acyclic_induction acyclic _ key (known.mp stated)
  intro key member smaller
  obtain ⟨⟨_, item⟩, listed, rfl⟩ := List.mem_map.mp member
  obtain ⟨component, registered, named, comes⟩ := given.declared _ listed
  rw [← named]
  apply Effects.Ends.of_followed given.accepted.distinct registered
  apply declared _ item listed component comes
  intro other stated relates
  exact smaller other (known.mp stated) relates

theorem ProgramGiven.held_end
    (acyclic : ∀ key, ¬ TransGen (Encloses specification) key key)
    {component : Component} (registered : component ∈ whole.components) :
    whole.Ends Shape.HoldsName component.name := by
  have keys := given.keys_end Shape.HoldsName acyclic (by
    intro key item listed component declared smaller name held
    cases declared with
    | reference shape known =>
        rw [shape] at held
        rw [List.mem_singleton.mp held]
        exact smaller _ known ⟨_, listed, .same .reference⟩
    | schema gives =>
        apply declared_ends given.accepted.distinct _ _ _ _ gives _ name held
        intro key known embeds
        exact smaller key known ⟨_, listed, embeds⟩)
  -- all other components come of schemas inside of others, or of contents
  apply Effects.Ends.of_followed given.accepted.distinct registered
  intro name held
  cases given.sourced component registered with
  | reference stated named shape declared =>
      rw [shape] at held
      rw [List.mem_singleton.mp held]
      exact keys _ declared
  | schema source =>
      obtain ⟨location, schema, _, gives⟩ := source
      exact declared_ends given.accepted.distinct schema _ _ _ gives (fun key known _ =>
        keys key known) name held
  | content shape =>
      rcases shape with bytes | any
      · rw [bytes] at held
        cases held
      · rw [any] at held
        cases held

/-- A component that is another name has the name of a declared schema for it. -/
theorem ProgramGiven.key_of_name {component : Component}
    (registered : component ∈ whole.components) {name : String}
    (named : component.shape = .named name) :
    ∃ key, name = Identifier.exported key ∧
      (specification.components.schemas.lookup key).isSome := by
  cases given.sourced component registered with
  | reference stated _ shape declared =>
      exact ⟨_, Shape.named.inj (named.symm.trans shape), declared⟩
  | schema source =>
      obtain ⟨location, schema, _, gives⟩ := source
      rw [named] at gives
      obtain ⟨key, _, same, declared⟩ := stands_of_named gives
      exact ⟨key, same, declared⟩
  | content shape => rcases shape with bytes | any <;> cases named.symm.trans ‹_›

theorem ProgramGiven.names_end
    (acyclic : ∀ key, ¬ TransGen (Refers specification) key key)
    {component : Component} (registered : component ∈ whole.components) :
    whole.Ends Shape.IsName component.name := by
  have keys := given.keys_end Shape.IsName acyclic (by
    intro key item listed component declared smaller name named
    cases declared with
    | reference shape known =>
        rw [Shape.named.inj (named.symm.trans shape)]
        exact smaller _ known ⟨_, listed, .reference⟩
    | schema gives =>
        rw [named] at gives
        obtain ⟨key, stands, same, known⟩ := stands_of_named gives
        rw [same]
        exact smaller key known ⟨_, listed, stands⟩)
  apply Effects.Ends.of_followed given.accepted.distinct registered
  intro name named
  obtain ⟨key, same, known⟩ := given.key_of_name registered named
  rw [same]
  exact keys key known

end Circles

section Chains

variable {specification : Specification} {whole : Effects} {program : Program}
  (given : ProgramGiven specification whole program)

include given

theorem ProgramGiven.find?_iff {name : String} {component : Component} :
    program.components.find? name = some component ↔
      component ∈ whole.components ∧ component.name = name := by
  have order := @Effects.register_perm whole [] (Fresh.of_nothing_known.mpr given.accepted.distinct)
  rw [List.nil_append] at order
  have keys : DistinctKeys program.components := by
    rw [given.registered, DistinctKeys, (order.map Prod.fst).nodup_iff, List.map_map]
    exact given.accepted.distinct
  have listed : (name, component) ∈ program.components ↔
      component ∈ whole.components ∧ component.name = name := by
    rw [given.registered, order.mem_iff, List.mem_map]
    constructor
    · intro entry
      obtain ⟨other, registered, same⟩ := entry
      cases same
      exact ⟨registered, rfl⟩
    · intro entry
      exact ⟨component, entry.1, congrArg (·, component) entry.2⟩
  rw [← listed]
  exact ⟨Registry.mem_of_find?, keys.lookup_of_mem⟩

theorem ProgramGiven.mem_keys_iff {name : String} :
    name ∈ program.components.keys ↔ ∃ component ∈ whole.components, component.name = name := by
  rw [← Registry.find?_is_some_iff, Option.isSome_iff_exists]
  simp only [given.find?_iff]

/-- From a name in a circle, any number of steps leads to another one. -/
theorem ProgramGiven.resolve_in_circle (bound : Nat) {name : String}
    (circle : TransGen (whole.Leads Shape.IsName) name name) :
    ∃ other, TransGen (whole.Leads Shape.IsName) other other ∧
      resolveWithin program.components bound (.named name) = .named other := by
  induction bound generalizing name with
  | zero => exact ⟨name, circle, rfl⟩
  | succ bound induction =>
      obtain ⟨next, step, back⟩ := TransGen.head'_iff.mp circle
      obtain ⟨component, registered, named, shape⟩ := step
      rw [resolveWithin, given.find?_iff.mpr ⟨registered, named⟩]
      dsimp only
      rw [shape]
      exact induction (.tail' back ⟨component, registered, named, shape⟩)

/-- A chain of names that ends reaches a shape that is no name. -/
theorem ProgramGiven.reaches_of_ends {name : String}
    (ends : whole.Ends Shape.IsName name) (known : name ∈ program.components.keys) :
    ∃ steps target, target.Plain ∧ Reaches program.components steps (.named name) target := by
  induction ends with
  | intro name _ induction =>
      obtain ⟨component, registered, named⟩ := given.mem_keys_iff.mp known
      have found := given.find?_iff.mpr ⟨registered, named⟩
      by_cases plain : component.shape.Plain
      · exact ⟨1, component.shape, plain, .step found (.here plain)⟩
      · obtain ⟨other, shape⟩ := named_of_not_plain plain
        obtain ⟨key, same, stated⟩ := given.key_of_name registered shape
        obtain ⟨item, listed⟩ := Option.isSome_iff_exists.mp stated
        obtain ⟨next, among, called, _⟩ := given.declared _ (mem_of_lookup listed)
        have usable := given.mem_keys_iff.mpr ⟨next, among, called.trans same.symm⟩
        obtain ⟨steps, target, ended, rest⟩ :=
          induction other ⟨component, registered, named, shape⟩ usable
        refine ⟨steps + 1, target, ended, .step found ?_⟩
        rw [shape]
        exact rest

/-- A registered name is left over by resolution exactly if names go round in a circle. -/
theorem ProgramGiven.unresolved_iff :
    (∃ shape name, name ∈ program.components.keys ∧ program.resolve shape = .named name) ↔
      ∃ key, TransGen (Refers specification) key key := by
  constructor
  · intro unresolved
    obtain ⟨shape, name, known, left⟩ := unresolved
    by_contra acyclic
    have ends {name : String} (known : name ∈ program.components.keys) :
        ∃ steps target, target.Plain ∧ Reaches program.components steps (.named name) target := by
      obtain ⟨component, registered, named⟩ := given.mem_keys_iff.mp known
      have chain := given.names_end (not_exists.mp acyclic) registered
      exact given.reaches_of_ends (named ▸ chain) known
    by_cases plain : shape.Plain
    · rw [Program.resolve, (Reaches.here plain).resolve] at left
      exact plain name left
    · obtain ⟨start, rfl⟩ := named_of_not_plain plain
      by_cases usable : start ∈ program.components.keys
      · obtain ⟨steps, target, ended, reaches⟩ := ends usable
        rw [Program.resolve, reaches.resolve] at left
        exact ended name left
      · rw [Program.resolve, resolveIn, resolveWithin,
          (Registry.find?_eq_none_iff _ _).mpr usable] at left
        cases left
        exact usable known
  · intro circle
    obtain ⟨key, circle⟩ := circle
    have names := TransGen.lift Identifier.exported (fun _ _ => given.renames) _ _ circle
    obtain ⟨other, round, resolved⟩ := given.resolve_in_circle (program.components.length + 1) names
    obtain ⟨next, ⟨component, registered, named, _⟩, _⟩ := TransGen.head'_iff.mp round
    have known := given.mem_keys_iff.mpr ⟨component, registered, named⟩
    refine ⟨.named (Identifier.exported key), other, known, ?_⟩
    rw [Program.resolve, resolveIn, resolved]

theorem ProgramGiven.circle_iff :
    (∃ name, TransGen (whole.Leads Shape.HoldsName) name name) ↔
      ∃ key, TransGen (Encloses specification) key key := by
  constructor
  · intro circle
    obtain ⟨name, circle⟩ := circle
    by_contra acyclic
    obtain ⟨next, ⟨component, registered, named, _⟩, _⟩ := TransGen.head'_iff.mp circle
    have ends := given.held_end (not_exists.mp acyclic) registered
    exact not_cyclic_of_acc ends (named ▸ circle)
  · intro circle
    obtain ⟨key, circle⟩ := circle
    exact ⟨_, TransGen.lift' Identifier.exported (fun _ _ => given.holds) _ _ circle⟩

end Chains

end ApiScaffold.Blueprint

namespace ApiScaffold.Server

open Blueprint Go Source
open Relation (TransGen)

/-- In the emitted file, the type of one component holds another one by value. -/
def HoldsByValue (program : Program) (holder held : String) : Prop :=
  (holder, held) ∈ (componentsPart program).holds

/-- Types that hold themselves are emitted exactly for schemas that enclose themselves, and a
registered name is left over by resolution exactly if schemas only refer to each other in a circle.
Nothing keeps such documents from being compiled. -/
theorem recursive_types_iff {document : OpenApi.Document} {config : Config} {program : Program}
    (compiled : (compile document config).1 = .ok program) :
    ((∃ name, TransGen (HoldsByValue program) name name) ↔
      ∃ key, TransGen (Encloses document.specification) key key) ∧
    ((∃ shape name, name ∈ program.components.keys ∧ program.resolve shape = .named name) ↔
      ∃ key, TransGen (Refers document.specification) key key) := by
  obtain ⟨whole, given⟩ := lowered_given (compiled_iff.mp compiled)
  have same : HoldsByValue program = whole.Leads Shape.HoldsName := by
    funext holder held
    rw [HoldsByValue, components_hold_iff, Effects.Leads, given.registered]
    simp only [Effects.mem_registered given.accepted.distinct]
  rw [same]
  exact ⟨given.circle_iff, given.unresolved_iff⟩

/-- A schema with a property of its own kind, and one that is a reference to itself. -/
def mirrors : OpenApi.Document where
  specification := {
    openapi := "3.0.0"
    components := { schemas := [
      ("echo", .reference "#/components/schemas/echo"),
      ("node", .object {
        type := some (.single "object")
        required := ["next"]
        properties := [("next", .reference "#/components/schemas/node")] })] } }
  raw := .null

theorem mirrors_recursive :
    ∃ program artifacts, (compile mirrors { package := "api", path := "" }).1 = .ok program ∧
      Artifact.all program = .ok artifacts ∧
      (∃ name, TransGen (HoldsByValue program) name name) ∧
      ∃ shape name, name ∈ program.components.keys ∧ program.resolve shape = .named name := by
  have distinct : (compileShort mirrors { package := "api", path := "" }).any fun program =>
      decide ((componentsPart program).taken ++ (routerPart program).taken).Nodup := by
    decide +kernel
  obtain ⟨program, result, apart⟩ := compiled_of_short distinct
  obtain ⟨artifacts, emitted⟩ := Artifact.succeeds_of_distinct (of_decide_eq_true apart)
  obtain ⟨held, left⟩ := recursive_types_iff result
  have node : "#/components/schemas/node" = OpenApi.schemasPlace ++ "node" := by decide
  have echo : "#/components/schemas/echo" = OpenApi.schemasPlace ++ "echo" := by decide
  have encloses : Encloses mirrors.specification "node" "node" :=
    ⟨_, List.mem_cons_of_mem _ List.mem_cons_self,
      .property rfl rfl List.mem_cons_self rfl (.same (node ▸ .reference))⟩
  have refers : Refers mirrors.specification "echo" "echo" :=
    ⟨_, List.mem_cons_self, echo ▸ .reference⟩
  exact ⟨program, artifacts, result, emitted, held.mpr ⟨"node", .single encloses⟩,
    left.mpr ⟨"echo", .single refers⟩⟩

end ApiScaffold.Server
