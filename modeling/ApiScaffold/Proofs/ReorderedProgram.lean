import ApiScaffold.Proofs.ComponentNames
import ApiScaffold.Proofs.ReorderedDocument
import ApiScaffold.Proofs.ShortDocuments
import ApiScaffold.Proofs.SimilarOperation

/-!
Documents that write the members of their objects in another order. Plans of similar specifications
are similar; similar effects register similar components under the same names, which meet the same
demands. So either both documents are compiled or none is, and the programs agree up to the order of
fields, of headers, and of schemes that must pass together.
-/

namespace ApiScaffold.Blueprint

open OpenApi (Specification Document)

/-- Programs that are equal up to the order of the fields of objects, of the headers of a response,
and of the schemes that must pass together. -/
structure Program.Similar (program other : Program) : Prop where
  components : List.Forall₂ (Keyed Component.Similar) program.components other.components
  operations : List.Forall₂ Operation.Similar program.operations other.operations
  rest : other = { program with components := other.components, operations := other.operations }

section Resolving

variable {components components' : Registry Component}
  (pairs : List.Forall₂ (Keyed Component.Similar) components components')

include pairs

theorem resolve_within_similar (steps : Nat) {shape shape' : Shape} (known : shape.Similar shape') :
    (resolveWithin components steps shape).Similar (resolveWithin components' steps shape') := by
  induction steps generalizing shape shape' with
  | zero => cases known <;> (constructor <;> assumption)
  | succ steps induction =>
      cases known with
      | named name =>
          have found : Option.Rel Component.Similar (components.find? name)
              (components'.find? name) := lookup_pairs pairs name
          rw [resolveWithin, resolveWithin]
          generalize components.find? name = component, components'.find? name = component'
            at found ⊢
          cases found with
          | none => exact .named name
          | some same => exact induction same.shape
      | _ => constructor <;> assumption

theorem resolve_similar {shape shape' : Shape} (known : shape.Similar shape') :
    (resolveIn components shape).Similar (resolveIn components' shape') := by
  unfold resolveIn
  rw [pairs.length_eq]
  exact resolve_within_similar pairs _ known

omit pairs in
theorem scalar_eq {shape shape' : Shape} (known : shape.Similar shape') :
    isScalar shape = isScalar shape' := by
  cases known <;> rfl

theorem readable_eq (listsAllowed : Bool) {shape shape' : Shape} (known : shape.Similar shape') :
    readableIn components listsAllowed shape = readableIn components' listsAllowed shape' := by
  cases known with
  | array inner minItems maxItems =>
      rw [readableIn, readableIn, scalar_eq (resolve_similar pairs inner)]
  | _ => rfl

theorem holds_eq {demand demand' : Demand} (known : demand.Similar demand') :
    demand.holds components = demand'.holds components' := by
  cases known with
  | readable listsAllowed shapes =>
      exact readable_eq pairs listsAllowed (resolve_similar pairs shapes)
  | binary shapes => rw [Demand.holds, Demand.holds, (resolve_similar pairs shapes).kind_eq]

end Resolving

section Effects

variable {effects effects' : Effects}

theorem register_ordered (effects : Effects) {components : Registry Component}
    (ordered : components.Ordered) : (effects.register components).Ordered := by
  unfold Effects.register
  induction effects.components generalizing components with
  | nil => exact ordered
  | cons component rest induction => exact induction (ordered.insert component.name component)

theorem Effects.Similar.names_perm (similar : effects.Similar effects') :
    effects.names.Perm effects'.names :=
  similar.components.map_perm fun _ _ known => known.name_eq

/-- What is registered at first is sorted by its names. -/
theorem registered_eq (distinct : effects.names.Nodup) : effects.register [] =
    sortByKey (effects.components.map fun component => (component.name, component)) := by
  have ordered : (effects.register []).Ordered := register_ordered effects List.Pairwise.nil
  have keys : DistinctKeys (effects.register []) := ordered.imp fun less => String.ne_of_lt less
  rw [sortByKey, ← keys.sorts.merge_sort_eq (registered_perm distinct)]
  apply Eq.symm
  apply List.mergeSort_of_pairwise
  apply (List.pairwise_map.mp ordered).imp
  intro first second less
  exact decide_eq_true (String.not_lt.mp (String.lt_asymm less))

theorem registered_similar (similar : effects.Similar effects') (distinct : effects.names.Nodup) :
    List.Forall₂ (Keyed Component.Similar) (effects.register []) (effects'.register []) := by
  rw [registered_eq distinct, registered_eq (similar.names_perm.nodup_iff.mp distinct)]
  apply sort_by_key_similar
  constructor
  · unfold DistinctKeys
    rw [List.map_map]
    exact distinct
  · apply similar.components.map
    intro component component' known
    exact Keyed.of_value known.name_eq known

/-- Similar effects are accepted both or not at all. -/
theorem accepted_iff (similar : effects.Similar effects') : effects.Accepted ↔ effects'.Accepted := by
  have names := similar.names_perm.nodup_iff
  have same (distinct : effects.names.Nodup) :
      (effects.Met (effects.register []) ↔ effects'.Met (effects'.register [])) ∧
      (TextsHold (effects.register []) effects.texts ↔
        TextsHold (effects'.register []) effects'.texts) := by
    have pairs := registered_similar similar distinct
    constructor
    · apply similar.demands.forall_iff
      intro demand demand' known
      rw [holds_eq pairs known]
    · apply similar.texts.forall_iff
      intro text text' known
      rw [(resolve_similar pairs known.shape).kind_eq]
  constructor
  · rintro ⟨distinct, met, texts⟩
    exact ⟨names.mp distinct, (same distinct).1.mp met, (same distinct).2.mp texts⟩
  · rintro ⟨distinct, met, texts⟩
    have distinct := names.mpr distinct
    exact ⟨distinct, (same distinct).1.mpr met, (same distinct).2.mpr texts⟩

end Effects

theorem program_plan_similar {specification specification' : Specification}
    (similar : specification.Similar specification') :
    Plan.Similar (fun outline outline' => outline.1 = outline'.1 ∧
        List.Forall₂ Operation.Similar outline.2 outline'.2)
      (programPlan specification specification.paths)
      (programPlan specification' specification'.paths) := by
  apply (declared_plans_similar similar).bind
  intro _ _ _
  apply Plan.Similar.bind (.given (rel_of_eq (security_schemes_eq similar)))
  rintro schemes _ rfl
  apply (operations_plan_similar similar schemes similar.paths).bind
  intro operations operations' pairs
  exact .pure ⟨rfl, pairs⟩

theorem compiled_some_iff {document : Document} {config : Config} {program : Program} :
    (compile document config).1.toOption = some program ↔ ∃ schemes operations effects,
      programPlan document.specification document.specification.paths =
        some ((schemes, operations), effects) ∧ effects.Accepted ∧
        program = plannedProgram document config schemes operations effects :=
  to_option_eq_some.trans (compiled_iff.trans lowered_iff)

/-- Similar documents are compiled to similar programs, or both are refused. -/
theorem compiled_similar {document document' : Document} (similar : document.Similar document')
    (config : Config) :
    Option.Rel Program.Similar (compile document config).1.toOption
      (compile document' config).1.toOption := by
  have plans := program_plan_similar similar.specification
  generalize planned : programPlan document.specification document.specification.paths = plan,
    planned' : programPlan document'.specification document'.specification.paths = plan' at plans
  apply rel_of_some
  · intro program compiled
    obtain ⟨schemes, operations, effects, own, accepted, rfl⟩ := compiled_some_iff.mp compiled
    rw [planned] at own
    subst own
    cases plans with
    | @some _ result known =>
      obtain ⟨⟨_, operations'⟩, effects'⟩ := result
      obtain ⟨⟨rfl, pairs⟩, alike⟩ := known
      refine ⟨plannedProgram document' config schemes operations' effects', ?_,
        registered_similar alike accepted.distinct, pairs, ?_⟩
      · exact compiled_some_iff.mpr ⟨_, _, _, planned', (accepted_iff alike).mp accepted, rfl⟩
      · unfold plannedProgram
        rw [similar.text, similar.specification.info]
  · intro program compiled
    obtain ⟨schemes, operations, effects, own, accepted, rfl⟩ := compiled_some_iff.mp compiled
    rw [planned'] at own
    subst own
    cases plans with
    | @some result _ known =>
      obtain ⟨⟨schemes', operations'⟩, effects'⟩ := result
      have accepted' := (accepted_iff known.2).mpr accepted
      exact ⟨_, compiled_some_iff.mpr ⟨schemes', operations', effects', planned, accepted', rfl⟩⟩

def compileValue (value : Json) (source : String) (config : Config) : Option Program :=
  (Document.ofValue value source).toOption.bind fun document => (compile document config).1.toOption

theorem compile_value_similar {value other : Json} (distinct : value.KeysDistinct)
    (reordered : value.Reordered other) (source : String) (config : Config) :
    Option.Rel Program.Similar (compileValue value source config)
      (compileValue other source config) :=
  rel_bind (Document.of_value_alike source distinct reordered)
    fun _ _ _ similar => compiled_similar similar config

theorem normalise_version_idem (value : Json) :
    Document.normaliseVersion (Document.normaliseVersion value) =
      Document.normaliseVersion value := by
  cases value with
  | object members =>
      cases found : members.lookup "openapi" with
      | none => rw [Document.normaliseVersion, found, Document.normaliseVersion, found]
      | some version => cases version with
        | number version =>
            rw [Document.normaliseVersion, found, Document.normaliseVersion, Json.lookup_setMember]
        | _ => rw [Document.normaliseVersion, found, Document.normaliseVersion, found]
  | _ => rfl

/-- What a document keeps is the value that it was read from, but for the form of its version. -/
theorem of_value_raw {value : Json} {source : String} {document : Document}
    (read : Document.ofValue value source = .ok document) :
    document.raw = Document.normaliseVersion value := by
  unfold Document.ofValue at read
  dsimp only at read
  split at read
  · cases read
  · split at read
    · split at read
      · cases read
        rfl
      · cases read
    · cases read

/-- Where members of objects are put into another order, at any depth, a document is compiled iff it
was before, and to the same program up to the order of fields, of headers and of schemes that must
pass together. So it is for the canonical form, and for the document that a program shows. -/
theorem reordered_programs_similar (value : Json) (distinct : value.KeysDistinct) (source : String)
    (config : Config) :
    (∀ other, value.Reordered other → Option.Rel Program.Similar
      (compileValue value source config) (compileValue other source config)) ∧
    Option.Rel Program.Similar (compileValue value source config)
      (compileValue value.canonical source config) ∧
    ∀ document, Document.ofValue value source = .ok document → Option.Rel Program.Similar
      (compileValue value source config) (compileValue document.raw.canonical source config) := by
  refine ⟨fun other reordered => compile_value_similar distinct reordered source config,
    compile_value_similar distinct (Json.reordered_canonical value) source config, ?_⟩
  intro document read
  have normalised : compileValue value source config =
      compileValue (Document.normaliseVersion value) source config := by
    unfold compileValue Document.ofValue
    rw [normalise_version_idem]
  have plain := (Document.normalise_version_alike distinct (.refl value)).1
  rw [of_value_raw read, normalised]
  exact compile_value_similar plain (Json.reordered_canonical _) source config

def writtenKennel : Json := .object [
  ("openapi", .string "3.0.0"),
  ("components", .object [("schemas", .object [("dog", .object [("properties", .object [
    ("name", .object [("type", .string "string")]),
    ("age", .object [("type", .string "integer")])])])])]),
  ("paths", .object [])]

def reversedKennel : Json := .object [
  ("paths", .object []),
  ("components", .object [("schemas", .object [("dog", .object [("properties", .object [
    ("age", .object [("type", .string "integer")]),
    ("name", .object [("type", .string "string")])])])])]),
  ("openapi", .string "3.0.0")]

theorem kennel_reversed : writtenKennel.Reordered reversedKennel := by
  have schema (type : String) : (Json.object [("type", .string type)]).Reordered
      (.object [("type", .string type)]) := .refl _
  have single {key : String} {value other : Json} (known : value.Reordered other) :
      (Json.object [(key, value)]).Reordered (.object [(key, other)]) :=
    .object (.of_pairs (.cons (.intro key known) .nil))
  have properties : (Json.object [("name", .object [("type", .string "string")]),
        ("age", .object [("type", .string "integer")])]).Reordered
      (.object [("age", .object [("type", .string "integer")]),
        ("name", .object [("type", .string "string")])]) :=
    .object (.of_order (List.Perm.swap _ _ _)
      (.cons (.intro "age" (schema _)) (.cons (.intro "name" (schema _)) .nil)))
  exact .object (.of_order (List.reverse_perm _).symm (.cons (.intro "paths" (.refl _))
    (.cons (.intro "components" (single (single (single properties))))
      (.cons (.intro "openapi" (.refl _)) .nil))))

def Program.fieldNames (program : Program) : List (List String) :=
  program.components.map fun entry =>
    match entry.2.shape with
    | .object fields _ _ => fields.map (·.1)
    | _ => []

theorem kennel_programs_similar :
    writtenKennel.KeysDistinct ∧ writtenKennel.Reordered reversedKennel ∧ ∃ program other,
      compileValue writtenKennel "kennel.json" { package := "kennel", path := "" } = some program ∧
      compileValue reversedKennel "kennel.json" { package := "kennel", path := "" } = some other ∧
      program.fieldNames = [["name", "age"]] ∧ other.fieldNames = [["age", "name"]] ∧
      program.Similar other := by
  have distinct : writtenKennel.KeysDistinct := by
    simp [writtenKennel, Json.keys_distinct_object_iff, DistinctKeys, Json.KeysDistinct.string]
  have first : (compileValue writtenKennel "kennel.json" { package := "kennel", path := "" }).map
      Program.fieldNames = some [["name", "age"]] := by
    simp only [compileValue, compile_short]
    decide +kernel
  have second : (compileValue reversedKennel "kennel.json" { package := "kennel", path := "" }).map
      Program.fieldNames = some [["age", "name"]] := by
    simp only [compileValue, compile_short]
    decide +kernel
  obtain ⟨program, compiled, here⟩ := Option.map_eq_some_iff.mp first
  obtain ⟨other, recompiled, there⟩ := Option.map_eq_some_iff.mp second
  have similar := (reordered_programs_similar writtenKennel distinct "kennel.json"
    { package := "kennel", path := "" }).1 reversedKennel kennel_reversed
  rw [compiled, recompiled] at similar
  cases similar with
  | some similar =>
      exact ⟨distinct, kennel_reversed, program, other, compiled, recompiled, here, there, similar⟩

end ApiScaffold.Blueprint
