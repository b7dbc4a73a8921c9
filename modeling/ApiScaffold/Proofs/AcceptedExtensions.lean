import ApiScaffold.Proofs.PlacedShapes
import ApiScaffold.Proofs.QualifiedNames

/-!
The extensions that are accepted. Each known name takes values of one form. Members are read one by
one, and what has been read before does not matter, so the extensions of a definition are read iff
every single member is accepted. In a program that is lowered this holds of all operations, of the
parameters that they read, and of every schema that lowering comes to.
-/

namespace ApiScaffold.OpenApi.Extensions

def Filled (written : String) : Prop := Text.trimChars written.toList ≠ []

def IsFlag (value : Json) : Prop := ∃ stated, value = .bool stated

def IsText (value : Json) : Prop := ∃ written, value = .string written ∧ Filled written

/-- A qualified name, with or without blanks around it. -/
def IsName (value : Json) : Prop :=
  ∃ written, value = .string written ∧ ∃ name : QualifiedName, name.Spells (Text.trim written)

def IsPattern (value : Json) : Prop :=
  ∃ written, value = .string written ∧ Filled written ∧ Pattern.isValid written = true

def forms : List (String × (Json → Prop)) := [
  ("x-go-type", IsName),
  ("x-go-map-type", IsText),
  ("x-go-type-string-parse", IsName),
  ("x-go-pointer", IsFlag),
  ("x-go-regex", IsPattern),
  ("x-go-string-trimmable", IsFlag),
  ("x-go-omitempty", IsFlag),
  ("x-go-skip-validation", IsFlag),
  ("x-go-skip-security-check", IsFlag)]

/-- A member is accepted if its value has the form that its name asks for, if it asks for any. -/
def Accepted (member : String × Json) : Prop :=
  ∀ form, forms.lookup member.1 = some form → form member.2

theorem accepted_iff {key : String} {value : Json} {form : Json → Prop}
    (known : forms.lookup key = some form) : Accepted (key, value) ↔ form value := by
  unfold Accepted
  rw [known]
  exact ⟨fun accepted => accepted form rfl, fun fits _ same => Option.some.inj same ▸ fits⟩

section Readers

variable {α β : Type} {location key : String} {value : Json}

theorem bind_reads_iff {outcome : Except Diagnostic α} {next : α → Except Diagnostic β}
    {read : β} :
    (outcome >>= next) = .ok read ↔ ∃ value, outcome = .ok value ∧ next value = .ok read := by
  cases outcome with
  | error diagnostic => exact ⟨nofun, fun ⟨_, absent, _⟩ => nomatch absent⟩
  | ok value =>
      refine ⟨fun read => ⟨value, rfl, read⟩, ?_⟩
      rintro ⟨_, ⟨⟩, read⟩
      exact read

theorem flag_reads_iff {read : Bool} : flag location key value = .ok read ↔ value = .bool read := by
  cases value with
  | bool stated => rw [flag, Except.ok.injEq, Json.bool.injEq]
  | _ =>
      constructor
      · intro success
        cases success
      · intro same
        cases same

theorem text_reads_iff {read : String} :
    text location key value = .ok read ↔ value = .string read ∧ Filled read := by
  cases value with
  | string written =>
      rw [text, Json.string.injEq]
      split
      case isTrue blank =>
        constructor
        · intro success
          cases success
        · rintro ⟨rfl, filled⟩
          exact absurd (List.isEmpty_iff.mp blank) filled
      case isFalse filled =>
        rw [Except.ok.injEq]
        refine ⟨?_, And.left⟩
        rintro rfl
        exact ⟨rfl, mt List.isEmpty_iff.mpr filled⟩
  | _ =>
      constructor
      · intro success
        cases success
      · intro fits
        cases fits.1

theorem filled_of_spells {written : String} {name : QualifiedName}
    (spelt : name.Spells (Text.trim written)) : Filled written := by
  intro blank
  have empty : Text.trim written = "" := by rw [Text.trim, blank, String.ofList_nil]
  rw [empty] at spelt
  generalize same : "" = text at spelt
  cases spelt with
  | bare filled => exact filled same.symm
  | inPackage =>
      have ends := congrArg (".".toList ⊆ ·.toList) same
      simp at ends

theorem qualified_reads_iff {read : QualifiedName} :
    qualified location key value = .ok read ↔
      ∃ written, value = .string written ∧ read.Spells (Text.trim written) := by
  rw [qualified, bind_reads_iff]
  apply exists_congr
  intro written
  rw [text_reads_iff, ← QualifiedName.parse_eq_some_iff]
  cases parsed : QualifiedName.parse? written with
  | none => constructor <;> rintro ⟨_, ⟨⟩⟩
  | some name =>
      constructor
      · rintro ⟨⟨stated, _⟩, same⟩
        cases same
        exact ⟨stated, rfl⟩
      · rintro ⟨stated, same⟩
        cases same
        exact ⟨⟨stated, filled_of_spells (QualifiedName.parse_eq_some_iff.mp parsed)⟩, rfl⟩

theorem check_pattern_passes_iff {pattern : String} :
    checkPattern pattern location = .ok () ↔ Pattern.isValid pattern = true := by
  unfold checkPattern
  split
  case isTrue valid => exact ⟨fun _ => valid, fun _ => rfl⟩
  case isFalse invalid => exact ⟨nofun, fun valid => absurd valid invalid⟩

end Readers

/-- A member is read iff it is accepted, whatever was read before it. -/
theorem member_reads_iff {location key : String} {value : Json} {before : Extensions} :
    (∃ after, readMember location before key value = .ok after) ↔ Accepted (key, value) := by
  have flags {key : String} {store : Bool → Extensions} :
      (∃ after, (do return store (← flag location key value)) = Except.ok after) ↔ IsFlag value := by
    simp only [bind_reads_iff, flag_reads_iff]
    exact ⟨fun ⟨_, stated, same, _⟩ => ⟨stated, same⟩,
      fun ⟨stated, same⟩ => ⟨_, stated, same, rfl⟩⟩
  have names {key : String} {store : QualifiedName → Extensions} :
      (∃ after, (do return store (← qualified location key value)) = Except.ok after) ↔
        IsName value := by
    simp only [bind_reads_iff, qualified_reads_iff]
    constructor
    · rintro ⟨_, name, ⟨written, same, spelt⟩, _⟩
      exact ⟨written, same, name, spelt⟩
    · rintro ⟨written, same, name, spelt⟩
      exact ⟨_, name, ⟨written, same, spelt⟩, rfl⟩
  unfold readMember
  split
  · exact names.trans (accepted_iff rfl).symm
  · have known : forms.lookup "x-go-map-type" = some IsText := rfl
    rw [accepted_iff known]
    simp only [bind_reads_iff, text_reads_iff]
    exact ⟨fun ⟨_, written, fits, _⟩ => ⟨written, fits⟩,
      fun ⟨written, fits⟩ => ⟨_, written, fits, rfl⟩⟩
  · exact names.trans (accepted_iff rfl).symm
  · exact flags.trans (accepted_iff rfl).symm
  · have known : forms.lookup "x-go-regex" = some IsPattern := rfl
    rw [accepted_iff known]
    simp only [bind_reads_iff, text_reads_iff]
    constructor
    · rintro ⟨_, written, ⟨same, filled⟩, _, passes, _⟩
      exact ⟨written, same, filled, check_pattern_passes_iff.mp passes⟩
    · rintro ⟨written, same, filled, valid⟩
      exact ⟨_, written, ⟨same, filled⟩, (), check_pattern_passes_iff.mpr valid, rfl⟩
  · exact flags.trans (accepted_iff rfl).symm
  · exact flags.trans (accepted_iff rfl).symm
  · exact flags.trans (accepted_iff rfl).symm
  · exact flags.trans (accepted_iff rfl).symm
  · have unknown : forms.lookup key = none := by
      rw [List.lookup_eq_none_iff]
      simp only [forms, List.forall_mem_cons, bne_iff_ne, ne_eq]
      and_intros <;> first | assumption | exact fun _ member => absurd member List.not_mem_nil
    refine ⟨fun _ form known => ?_, fun _ => ⟨before, rfl⟩⟩
    rw [unknown] at known
    cases known

/-- Extensions are read iff all of their members are accepted. -/
theorem reads_iff {members : Table Json} {location : String} :
    (∃ extensions, read members location = .ok extensions) ↔
      ∀ member ∈ members, Accepted member := by
  unfold read
  generalize ({} : Extensions) = before
  induction members generalizing before with
  | nil => exact ⟨fun _ => List.forall_mem_nil _, fun _ => ⟨before, rfl⟩⟩
  | cons member rest induction =>
      rw [List.forall_mem_cons, List.foldlM_cons]
      simp only [bind_reads_iff]
      constructor
      · rintro ⟨after, middle, here, there⟩
        exact ⟨member_reads_iff.mp ⟨middle, here⟩, (induction middle).mp ⟨after, there⟩⟩
      · rintro ⟨first, others⟩
        obtain ⟨middle, here⟩ := member_reads_iff.mpr first
        obtain ⟨after, there⟩ := (induction middle).mpr others
        exact ⟨after, middle, here, there⟩

end ApiScaffold.OpenApi.Extensions

namespace ApiScaffold.Blueprint

open OpenApi (Specification Extensions Table Schema)

/-- The extensions of the definitions that lowering reads extensions of. -/
inductive Heeded (specification : Specification) : Table Json → Prop where
  | operation {stated : StatedOperation} (used : stated ∈ statedOperations specification.paths) :
    Heeded specification stated.operation.extensions
  | parameter {stated : StatedOperation} {place : Place} {statement : StatedParameter}
    (used : stated ∈ statedOperations specification.paths)
    (listed : (place, statement) ∈ stated.parameters specification) :
    Heeded specification statement.parameter.extensions
  | schema {name : String} {schema : Schema} (stands : Stands specification name (.object schema)) :
    Heeded specification schema.extensions

theorem ProgramGiven.heeded_accepted {specification : Specification} {whole : Effects}
    {program : Program} (given : ProgramGiven specification whole program) {members : Table Json}
    (heeded : Heeded specification members) : ∀ member ∈ members, Extensions.Accepted member := by
  cases heeded with
  | operation used =>
      obtain ⟨_, planned⟩ := given.operation_planned used
      obtain ⟨extensions, read, _⟩ := Plan.Gives.bind_iff.mp planned
      exact Extensions.reads_iff.mp ⟨extensions, read.of_given⟩
  | parameter used listed =>
      obtain ⟨_, planned⟩ := given.parameter_planned used listed
      obtain ⟨_, _, following⟩ := Plan.Gives.bind_iff.mp planned
      obtain ⟨extensions, read, _⟩ := Plan.Gives.bind_iff.mp following
      exact Extensions.reads_iff.mp ⟨extensions, read.of_given⟩
  | schema stands =>
      cases given.shaped stands with
      | schema declared =>
          obtain ⟨extensions, read, _⟩ := declared_outlined declared
          exact Extensions.reads_iff.mp ⟨extensions, read⟩

end ApiScaffold.Blueprint
