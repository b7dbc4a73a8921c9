import ApiScaffold.Proofs.DeclaredAliases
import ApiScaffold.Proofs.KeptChecks
import ApiScaffold.Proofs.ShortDocuments

/-!
Texts of parameters whose types are named by the document. If no function parses them, they are
converted to the type itself, which must have no package then. So it is predeclared or of the
package that is written, and among the predeclared types there are some that no text converts to.
Nothing keeps a document from naming one of these, neither in place nor behind references and
synonyms.
-/

namespace ApiScaffold

namespace Go

open Source

/-- Predeclared types that no text converts to. -/
def textless : List String := [
  "bool", "int", "int8", "int16", "int32", "int64", "uint", "uint8", "uint16", "uint32", "uint64",
  "uintptr", "byte", "rune", "float32", "float64", "complex64", "complex128"]

/-- The code stands for a predeclared type that no text converts to, as it is or by way of synonyms.
The flag tells whether it is written in the package of the definitions, where synonyms may be bare;
what they are defined as is. -/
inductive Textless (definitions : List (String × Definition)) : Bool → Code → Prop where
  | predeclared {home : Bool} {name : String} (listed : name ∈ textless) :
      Textless definitions home [.text name]
  | component {home : Bool} {name : String} {known : Code}
      (defined : (name, .synonym known) ∈ definitions) (meant : Textless definitions true known) :
      Textless definitions home [.component name]
  | bare {name : String} {known : Code} (defined : (name, .synonym known) ∈ definitions)
      (meant : Textless definitions true known) : Textless definitions true [.text name]

section Synonyms

variable {definitions : List (String × Definition)} {home : Bool} {name : String}

theorem component_textless_iff : Textless definitions home [.component name] ↔
    ∃ known, (name, .synonym known) ∈ definitions ∧ Textless definitions true known := by
  constructor
  · intro textless
    cases textless with
    | component defined meant => exact ⟨_, defined, meant⟩
  · rintro ⟨known, defined, meant⟩
    exact .component defined meant

theorem text_textless_iff : Textless definitions home [.text name] ↔
    name ∈ textless ∨ home = true ∧
      ∃ known, (name, .synonym known) ∈ definitions ∧ Textless definitions true known := by
  constructor
  · intro textless
    cases textless with
    | predeclared listed => exact .inl listed
    | bare defined meant => exact .inr ⟨rfl, _, defined, meant⟩
  · rintro (listed | ⟨rfl, known, defined, meant⟩)
    · exact .predeclared listed
    · exact .bare defined meant

end Synonyms

end Go

namespace Server

open Blueprint Go Source

def namedType : Shape → Option CustomType
  | .custom type => some type
  | _ => none

theorem named_type_iff {shape : Shape} {type : CustomType} :
    namedType shape = some type ↔ shape = .custom type := by
  cases shape <;> simp [namedType]

/-- The shape that a text of the parameter is converted to comes down to a type that the document
names, without a function that parses texts. -/
structure Unparsed (program : Program) (parameter : Parameter) (type : CustomType) : Prop where
  resolved : program.resolve
    (ParameterReading.converted (Outline.ofProgram program) parameter) = .custom type
  unparsed : type.parser = none

instance (program : Program) (parameter : Parameter) (type : CustomType) :
    Decidable (Unparsed program parameter type) :=
  decidable_of_iff
    (namedType (program.resolve
        (ParameterReading.converted (Outline.ofProgram program) parameter)) = some type ∧
      type.parser = none)
    ⟨fun ⟨named, unparsed⟩ => ⟨named_type_iff.mp named, unparsed⟩,
      fun ⟨resolved, unparsed⟩ => ⟨named_type_iff.mpr resolved, unparsed⟩⟩

theorem Unparsed.reached {program : Program} {parameter : Parameter} {type : CustomType}
    (unparsed : Unparsed program parameter type) :
    ∃ steps, Reaches program.components steps
      (ParameterReading.converted (Outline.ofProgram program) parameter) (.custom type) := by
  have resolved := unparsed.resolved
  unfold Program.resolve resolveIn at resolved
  rw [← resolved]
  apply Reaches.of_resolve_within
  rw [resolved]
  exact fun _ => Shape.noConfusion

/-- A chain has steps iff it begins with a name. -/
theorem chain_iff_named {components : Registry Component} {steps : Nat} {shape target : Shape}
    (reaches : Reaches components steps shape target) :
    0 < steps ↔ ∃ name, shape = .named name := by
  cases reaches with
  | here plain => exact ⟨fun positive => absurd positive (Nat.lt_irrefl 0),
      fun ⟨name, same⟩ => absurd same (plain name)⟩
  | step _ _ => exact ⟨fun _ => ⟨_, rfl⟩, fun _ => Nat.succ_pos _⟩

section Reached

variable {specification : OpenApi.Specification} {whole : Effects} {program : Program}
  {type : CustomType}

/-- What a chain of names goes through on the way to a named type is all declared as synonyms. -/
theorem reached_definition {components : Registry Component} {steps : Nat} {shape : Shape}
    (reaches : Reaches components steps shape (.custom type)) :
    definitionOf shape = some (.synonym (typeOf shape).code) := by
  cases reaches with
  | here _ => rfl
  | step _ _ => rfl

theorem synonym_iff_of_reaches (given : ProgramGiven specification whole program) {name : String}
    {component : Component} (found : program.components.find? name = some component) {steps : Nat}
    (reaches : Reaches program.components steps component.shape (.custom type)) {known : Code} :
    (name, .synonym known) ∈ (componentsPart program).definitions ↔
      known = (typeOf component.shape).code := by
  obtain ⟨among, rfl⟩ := given.find?_iff.mp found
  rw [component_synonym_iff given (given.mem_values_iff.mpr among), reached_definition reaches,
    Option.some_inj, Definition.synonym.injEq, eq_comm]

/-- A chain of names takes texts just as the type at its end does, which is in the package of the
components if there is a name before it. -/
theorem reached_textless_iff (given : ProgramGiven specification whole program) {steps : Nat}
    {shape : Shape} (reaches : Reaches program.components steps shape (.custom type))
    (local' : type.target.package = none) (home : Bool) :
    Textless (componentsPart program).definitions home (typeOf shape).code ↔
      Textless (componentsPart program).definitions (home || 0 < steps)
        [.text type.target.name] := by
  generalize ended : Shape.custom type = last at reaches
  induction reaches generalizing home with
  | here _ =>
      subst ended
      have written : (typeOf (.custom type)).code = [.text type.target.name] := by
        simp [typeOf, TypeExpression.code, Package.reference, local']
      rw [written]
      simp
  | @step name component target steps found rest induction =>
      subst ended
      have written : (typeOf (.named name)).code = [.component name] := by
        simp [typeOf, TypeExpression.code]
      have defined (known : Code) : (name, .synonym known) ∈ (componentsPart program).definitions ↔
          known = (typeOf component.shape).code := synonym_iff_of_reaches given found rest
      rw [written, component_textless_iff]
      simp only [defined, exists_eq_left, induction true rfl]
      simp

end Reached

/-- The name is that of a component which is a synonym of a type that takes no texts. -/
def NamesTextless (program : Program) (name : String) : Prop :=
  ∃ component ∈ program.components.values, component.name = name ∧
    ∃ known, definitionOf component.shape = some (.synonym known) ∧
      Textless (componentsPart program).definitions true known

theorem text_named_iff {program : Program} {home : Bool} {name : String} :
    Textless (componentsPart program).definitions home [.text name] ↔
      name ∈ textless ∨ home = true ∧ NamesTextless program name := by
  have defined (known : Code) :
      (name, Definition.synonym known) ∈ (componentsPart program).definitions ↔
        ∃ component ∈ program.components.values, component.name = name ∧
          definitionOf component.shape = some (.synonym known) := by
    rw [components_define_iff]
    simp
  rw [text_textless_iff]
  refine or_congr_right (and_congr_right fun _ => ?_)
  constructor
  · rintro ⟨known, declared, meant⟩
    obtain ⟨component, member, named, stated⟩ := (defined known).mp declared
    exact ⟨component, member, named, known, stated, meant⟩
  · rintro ⟨component, member, named, known, stated, meant⟩
    exact ⟨known, (defined known).mpr ⟨component, member, named, stated⟩, meant⟩

/-- A parameter that no function parses has a type without a package, and its texts are converted to
the type that is written for its shape. So they are converted to one that takes no texts iff the
document names such a predeclared type, or a component that is a synonym of one. -/
theorem unparsed_textless_iff {document : OpenApi.Document} {config : Config} {program : Program}
    (compiled : (compile document config).1 = .ok program) {operation : Operation}
    (among : operation ∈ program.operations) {parameter : Parameter}
    (member : parameter ∈ operation.parameters) {type : CustomType}
    (unparsed : Unparsed program parameter type) :
    let outline := Outline.ofProgram program
    let shape := ParameterReading.converted outline parameter
    type.target.package = none ∧
      (ParameterReading.ofParameter outline operation parameter).conversion =
        .direct (call (typeOf shape).code (ParameterReading.rawName parameter)) ∧
      (Textless (componentsPart program).definitions program.config.componentsImportPath.isNone
          (typeOf shape).code ↔
        type.target.name ∈ textless ∨
          (program.config.componentsImportPath = none ∨ ∃ name, shape = .named name) ∧
            NamesTextless program type.target.name) := by
  obtain ⟨whole, given⟩ := lowered_given (compiled_iff.mp compiled)
  intro outline shape
  have resolved : outline.resolve shape = .custom type := by
    rw [Outline.resolve, outline_program]
    exact unparsed.resolved
  have bare : type.target.package = none := by
    have scalar := converted_scalar (given.checked.parameters operation among parameter member)
    rw [unparsed.resolved, isScalar, unparsed.unparsed] at scalar
    exact Option.isNone_iff_eq_none.mp scalar
  obtain ⟨steps, reaches⟩ := unparsed.reached
  refine ⟨bare, ?_, ?_⟩
  · rw [conversion_of_parameter, resolved, conversionOf, unparsed.unparsed]
  · rw [reached_textless_iff given reaches bare, text_named_iff, Bool.or_eq_true,
      Option.isNone_iff_eq_none, decide_eq_true_eq, chain_iff_named reaches]

/-- Numbers that are given as types: in place, and as elements of a list behind two references. -/
def tally : OpenApi.Document where
  specification := {
    openapi := "3.0.0"
    components := { schemas := [
      ("mark", .reference "#/components/schemas/count"),
      ("count", .object {
        type := some (.single "integer")
        extensions := [("x-go-type", .string "int")] })] }
    paths := [("/tally", { declared := [(.get, {
      parameters := [
        .object { name := "limit", place := .query, schema := some (.object {
          type := some (.single "integer")
          extensions := [("x-go-type", .string "int")] }) },
        .object { name := "marks", place := .query, schema := some (.object {
          type := some (.single "array")
          items := some (.reference "#/components/schemas/mark") }) }]
      responses := [] })] })] }
  raw := .null

theorem tally_converts_to_numbers : ∃ program artifacts operation,
    (compile tally { package := "api", path := "" }).1 = .ok program ∧
      Artifact.all program = .ok artifacts ∧ operation ∈ program.operations ∧
      operation.parameters.map (·.name) = ["limit", "marks"] ∧
      ∀ parameter ∈ operation.parameters,
        let shape := ParameterReading.converted (Outline.ofProgram program) parameter
        Unparsed program parameter ⟨⟨none, "int"⟩, none, true⟩ ∧
          (ParameterReading.ofParameter (Outline.ofProgram program) operation
              parameter).conversion =
            .direct (call (typeOf shape).code (ParameterReading.rawName parameter)) ∧
          Textless (componentsPart program).definitions program.config.componentsImportPath.isNone
            (typeOf shape).code := by
  have holds : (compileShort tally { package := "api", path := "" }).any fun program =>
      decide ((componentsPart program).taken ++ (routerPart program).taken).Nodup &&
        program.operations.any fun operation =>
          decide (operation.parameters.map (·.name) = ["limit", "marks"]) &&
            operation.parameters.all fun parameter =>
              decide (Unparsed program parameter ⟨⟨none, "int"⟩, none, true⟩) := by decide +kernel
  obtain ⟨program, compiled, listed⟩ := compiled_of_short holds
  simp only [Bool.and_eq_true, decide_eq_true_eq, List.any_eq_true, List.all_eq_true] at listed
  obtain ⟨distinct, operation, among, names, each⟩ := listed
  obtain ⟨artifacts, emitted⟩ := Artifact.succeeds_of_distinct distinct
  refine ⟨program, artifacts, operation, compiled, emitted, among, names, ?_⟩
  intro parameter member
  have unparsed := each parameter member
  obtain ⟨_, converted, numbers⟩ := unparsed_textless_iff compiled among member unparsed
  exact ⟨unparsed, converted, numbers.mpr (.inl (by decide))⟩

end Server

end ApiScaffold
