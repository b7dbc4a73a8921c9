import ApiScaffold.Proofs.ReferredFields
import ApiScaffold.Proofs.ShortDocuments
import Mathlib.Data.Rat.Lemmas

/-!
What the rules of a field accept, against the limits that its schema states. The rules are checked
by a package that takes a limit of zero for no limit and that passes every empty value but to
`Required`: so a stated limit of zero, and every limit that the empty value breaks, needs a rule
beside it.
-/

namespace ApiScaffold

def Binary64.toRat (number : Binary64) : ℚ :=
  (if number.negative then -1 else 1) * (number.ratio.1 / number.ratio.2)

namespace Blueprint

def Bound.IsBelow (bound : Bound) (amount : ℚ) : Prop :=
  if bound.exclusive then bound.value.toRat < amount else bound.value.toRat ≤ amount

def Bound.IsAbove (bound : Bound) (amount : ℚ) : Prop :=
  if bound.exclusive then amount < bound.value.toRat else amount ≤ bound.value.toRat

instance (bound : Bound) (amount : ℚ) : Decidable (bound.IsBelow amount) :=
  inferInstanceAs <| Decidable <|
    if bound.exclusive then bound.value.toRat < amount else bound.value.toRat ≤ amount

def Within (least greatest : Option Nat) (size : Nat) : Prop :=
  (∀ bound ∈ least, bound ≤ size) ∧ ∀ bound ∈ greatest, size ≤ bound

/-- The limits of length of a field whose shape stands for `resolved`. -/
def lengthLimits? (resolved : Shape) (limits : Constraints) : Option (Option Nat × Option Nat) :=
  match resolved with
  | .primitive primitive =>
    if primitive.kind.isTextual then some (limits.minLength, limits.maxLength) else none
  | .array _ minItems maxItems => some (minItems, maxItems)
  | _ => none

end Blueprint

namespace Server

open Blueprint

inductive Value where
  | text (content : String)
  | number (amount : ℚ)
  | list (size : Nat)

namespace Value

def IsEmpty : Value → Prop
  | text content => content = ""
  | number amount => amount = 0
  | list size => size = 0

def size? : Value → Option Nat
  | text content => some content.length
  | number _ => none
  | list size => some size

end Value

/-- The values of fields whose shape stands for texts, for numbers or for lists. -/
inductive Inhabits : Shape → Value → Prop where
  | text {primitive : Primitive} {content : String} (textual : primitive.kind.isTextual = true) :
    Inhabits (.primitive primitive) (.text content)
  | number {primitive : Primitive} {amount : ℚ} (numeric : primitive.kind.isNumeric = true) :
    Inhabits (.primitive primitive) (.number amount)
  | list {element : Shape} {minItems maxItems : Option Nat} {size : Nat} :
    Inhabits (.array element minItems maxItems) (.list size)

/-- The value meets what the schema of a field states; `fits` tells whether a text fits a
pattern. -/
def Meets (fits : String → String → Prop) (resolved : Shape) (limits : Constraints) :
    Value → Prop
  | .text content =>
    Within limits.minLength limits.maxLength content.length ∧
      ∀ pattern ∈ limits.pattern, fits pattern content
  | .number amount =>
    (∀ bound ∈ limits.minimum, bound.IsBelow amount) ∧
      ∀ bound ∈ limits.maximum, bound.IsAbove amount
  | .list size =>
    ∀ least greatest, lengthLimits? resolved limits = some (least, greatest) →
      Within least greatest size

/-- How a rule of length reads its two numbers. -/
def Admits (least greatest size : Nat) : Prop :=
  (least = 0 ∨ least ≤ size) ∧ (greatest = 0 ∨ size ≤ greatest) ∧ ¬ (least = 0 ∧ greatest = 0)

/-- The package checks the length of values that are not empty. -/
structure ChecksLengths (accepts : Rule → Value → Prop) : Prop where
  text {content : String} (least greatest : Nat) (filled : content ≠ "") :
    accepts (.runeLength least greatest) (.text content) ↔ Admits least greatest content.length
  list {size : Nat} (least greatest : Nat) (filled : size ≠ 0) :
    accepts (.length least greatest) (.list size) ↔ Admits least greatest size

/-- The package passes empty values, but not where one is required. -/
structure PassesEmpty (accepts : Rule → Value → Prop) : Prop where
  passes {rule : Rule} {value : Value} (empty : value.IsEmpty) (other : rule ≠ .required) :
    accepts rule value
  demands {value : Value} (empty : value.IsEmpty) : ¬ accepts .required value

namespace Rule

def isLength : Rule → Bool
  | runeLength _ _ => true
  | length _ _ => true
  | _ => false

end Rule

/-- A limit of zero and an absent one are the same number in a rule, which is right but for a least
length of zero alone and a greatest length of zero below the least one. -/
theorem admits_iff_within_iff {least greatest : Option Nat} {size : Nat}
    (given : least.isSome ∨ greatest.isSome) (filled : size ≠ 0) :
    (Admits (least.getD 0) (greatest.getD 0) size ↔ Within least greatest size) ↔
      ¬ (least = some 0 ∧ greatest = none) ∧
      ¬ (greatest = some 0 ∧ 0 < least.getD 0 ∧ least.getD 0 ≤ size) := by
  unfold Admits Within
  cases least with
  | none =>
      cases greatest with
      | none => simp at given
      | some greatest => simp; omega
  | some least =>
      cases greatest with
      | none => simp; omega
      | some greatest => simp; omega

theorem not_textual {kind : PrimitiveKind} (numeric : kind.isNumeric = true) :
    kind.isTextual = false := by
  cases kind <;> first | rfl | cases numeric

section Rules

variable {field : Blueprint.Field Shape} (checked : field.skipValidation = false)

include checked

theorem rules_of_text {primitive : Primitive} (textual : primitive.kind.isTextual = true) :
    rulesOf (.primitive primitive) field = textRules field := by
  unfold rulesOf
  rw [checked, if_neg Bool.false_ne_true]
  exact if_pos textual

theorem rules_of_number {primitive : Primitive} (numeric : primitive.kind.isNumeric = true) :
    rulesOf (.primitive primitive) field = numberRules field (primitive.kind == .int) := by
  unfold rulesOf
  rw [checked, if_neg Bool.false_ne_true]
  dsimp only
  rw [not_textual numeric, if_neg Bool.false_ne_true, if_pos numeric]

theorem rules_of_list {element : Shape} {minItems maxItems : Option Nat} :
    rulesOf (.array element minItems maxItems) field = arrayRules field minItems maxItems := by
  unfold rulesOf
  rw [checked, if_neg Bool.false_ne_true]

end Rules

theorem length_limits_cases {resolved : Shape} {limits : Constraints} {least greatest : Option Nat}
    (limited : lengthLimits? resolved limits = some (least, greatest)) :
    (∃ primitive, resolved = .primitive primitive ∧ primitive.kind.isTextual = true ∧
      limits.minLength = least ∧ limits.maxLength = greatest) ∨
    ∃ element, resolved = .array element least greatest := by
  unfold lengthLimits? at limited
  split at limited
  case h_1 primitive =>
    split at limited
    case isTrue textual =>
      cases limited
      exact .inl ⟨primitive, rfl, textual, rfl, rfl⟩
    case isFalse => cases limited
  case h_2 element _ _ =>
    cases limited
    exact .inr ⟨element, rfl⟩
  case h_3 => cases limited

/-- A field with a limit of length has one rule for it, in which absent limits are zeros. -/
theorem length_rule {resolved : Shape} {field : Blueprint.Field Shape} {least greatest : Option Nat}
    (checked : field.skipValidation = false)
    (limited : lengthLimits? resolved field.constraints = some (least, greatest))
    (given : least.isSome ∨ greatest.isSome) :
    ∃ rule, (rulesOf resolved field).filter Rule.isLength = [rule] ∧
      ∀ {accepts : Rule → Value → Prop}, ChecksLengths accepts →
        ∀ {value : Value} {size : Nat}, Inhabits resolved value → value.size? = some size →
          size ≠ 0 → (accepts rule value ↔ Admits (least.getD 0) (greatest.getD 0) size) := by
  rw [← Bool.or_eq_true] at given
  obtain ⟨primitive, rfl, textual, rfl, rfl⟩ | ⟨element, rfl⟩ := length_limits_cases limited
  · refine ⟨.runeLength (field.constraints.minLength.getD 0) (field.constraints.maxLength.getD 0),
      ?_, fun {accepts} checks {value size} inhabits sized filled => ?_⟩
    · rw [rules_of_text checked textual, textRules, if_pos given]
      split <;> split <;> rfl
    · cases inhabits with
      | text _ =>
          cases sized
          exact checks.text _ _ fun blank => filled (by rw [blank]; rfl)
      | number _ => cases sized
  · refine ⟨.length (least.getD 0) (greatest.getD 0), ?_,
      fun {accepts} checks {value size} inhabits sized filled => ?_⟩
    · rw [rules_of_list checked, arrayRules, if_pos given]
      split <;> rfl
    · cases inhabits with
      | list =>
          cases sized
          exact checks.list _ _ filled

/-- The one rule of length of a field accepts a value that is not empty iff its length is within the
stated limits, unless the least length is stated to be zero without a greatest one, or the greatest
one is stated to be zero and the value is long enough for a least one. -/
theorem length_rule_faithful_iff {outline : Outline} {field : Blueprint.Field Shape}
    {least greatest : Option Nat} {accepts : Rule → Value → Prop}
    (checked : field.skipValidation = false)
    (limited : lengthLimits? (outline.resolve field.shape) field.constraints =
      some (least, greatest))
    (given : least.isSome ∨ greatest.isSome) (checks : ChecksLengths accepts) :
    ∃ rule, (outline.rules field).filter Rule.isLength = [rule] ∧
      ∀ value size, Inhabits (outline.resolve field.shape) value → value.size? = some size →
        size ≠ 0 →
          ((accepts rule value ↔ Within least greatest size) ↔
            ¬ (least = some 0 ∧ greatest = none) ∧
            ¬ (greatest = some 0 ∧ 0 < least.getD 0 ∧ least.getD 0 ≤ size)) := by
  obtain ⟨rule, only, admits⟩ := length_rule checked limited given
  refine ⟨rule, only, fun value size inhabits sized filled => ?_⟩
  rw [admits checks inhabits sized filled]
  exact admits_iff_within_iff given filled

theorem kind_eq_some {shape : Shape} {kind : PrimitiveKind} (given : shape.kind? = some kind) :
    ∃ primitive, shape = .primitive primitive ∧ primitive.kind = kind := by
  cases shape with
  | primitive primitive => exact ⟨primitive, rfl, Option.some_inj.mp given⟩
  | _ => cases given

/-- A package with the documented checks, in which patterns are not looked at. -/
def documented : Rule → Value → Prop
  | .required, value => ¬ value.IsEmpty
  | .runeLength least greatest, .text content =>
    content = "" ∨ Admits least greatest content.length
  | .length least greatest, .list size => size = 0 ∨ Admits least greatest size
  | .atLeast bound exclusive, .number amount =>
    amount = 0 ∨ ∀ least ∈ bound.toInt?, if exclusive then least < amount else least ≤ amount
  | .atMost bound exclusive, .number amount =>
    amount = 0 ∨ ∀ greatest ∈ bound.toInt?,
      if exclusive then amount < greatest else amount ≤ greatest
  | _, _ => True

theorem documented_checks_lengths : ChecksLengths documented where
  text _ _ filled := or_iff_right filled
  list _ _ filled := or_iff_right filled

theorem documented_passes_empty : PassesEmpty documented where
  passes {rule value} empty other := by
    cases rule <;> cases value <;> first | trivial | exact .inl empty
  demands empty := not_not_intro empty

def crate : OpenApi.Document where
  specification := {
    openapi := "3.0.0"
    components := { schemas := [("crate", .object {
      type := some (.single "object")
      required := ["weight"]
      properties := [
        ("label", .object { type := some (.single "string"), minLength := some 0 }),
        ("weight", .object {
          type := some (.single "integer"), minimum := some (Binary64.ofInt 1) })] })] } }
  raw := .null

theorem crate_refuses_labels :
    ∃ program field rule, (compile crate { package := "api", path := "" }).1 = .ok program ∧
      program.field? "Crate" "label" = some field ∧ field.skipValidation = false ∧
      lengthLimits? ((Outline.ofProgram program).resolve field.shape) field.constraints =
        some (some 0, none) ∧
      ((Outline.ofProgram program).rules field).filter Rule.isLength = [rule] ∧
      ¬ documented rule (.text "fragile") := by
  have holds : (compileShort crate { package := "api", path := "" }).any fun program =>
      (program.field? "Crate" "label").any fun field =>
        !field.skipValidation && (field.constraints == { minLength := some 0 }) &&
          (program.resolve field.shape).kind? == some .string := by decide +kernel
  obtain ⟨program, result, holds⟩ := compiled_of_short holds
  simp only [Option.any_eq_true, Bool.and_eq_true, Bool.not_eq_true', beq_iff_eq] at holds
  obtain ⟨field, found, ⟨checked, limits⟩, kind⟩ := holds
  obtain ⟨primitive, resolved, kind⟩ := kind_eq_some kind
  have resolves : (Outline.ofProgram program).resolve field.shape = .primitive primitive := by
    rw [Outline.resolve, outline_program, resolved]
  have limited : lengthLimits? ((Outline.ofProgram program).resolve field.shape)
      field.constraints = some (some 0, none) := by
    rw [resolves, limits, lengthLimits?, kind]
    rfl
  obtain ⟨rule, only, faithful⟩ :=
    length_rule_faithful_iff checked limited (.inl rfl) documented_checks_lengths
  have inhabits : Inhabits ((Outline.ofProgram program).resolve field.shape) (.text "fragile") := by
    rw [resolves]
    exact .text (by rw [kind]; rfl)
  have within : Within (some 0) none 7 := by simp [Within]
  have differs := (faithful (.text "fragile") 7 inhabits rfl (by decide)).not.mpr (by simp)
  exact ⟨program, field, rule, result, found, checked, limited, only,
    fun accepted => differs (iff_of_true accepted within)⟩

/-- The empty value breaks a limit that has no rule for empty values beside it. -/
inductive Overlooks (fits : String → String → Prop) : Shape → Constraints → Prop where
  | pattern {primitive : Primitive} {limits : Constraints} {pattern : String}
    (textual : primitive.kind.isTextual = true) (stated : limits.pattern = some pattern)
    (unfit : ¬ fits pattern "") (unlimited : limits.minLength.getD 0 = 0) :
    Overlooks fits (.primitive primitive) limits
  | minimum {primitive : Primitive} {limits : Constraints} {bound : Bound}
    (numeric : primitive.kind.isNumeric = true) (stated : limits.minimum = some bound)
    (outside : ¬ bound.IsBelow 0) : Overlooks fits (.primitive primitive) limits
  | maximum {primitive : Primitive} {limits : Constraints} {bound : Bound}
    (numeric : primitive.kind.isNumeric = true) (stated : limits.maximum = some bound)
    (outside : ¬ bound.IsAbove 0) : Overlooks fits (.primitive primitive) limits

/-- Of an empty value only `Required` takes notice. -/
theorem PassesEmpty.rejects_iff {accepts : Rule → Value → Prop} (passes : PassesEmpty accepts)
    {rules : List Rule} {value : Value} (empty : value.IsEmpty) :
    (∃ rule ∈ rules, ¬ accepts rule value) ↔ .required ∈ rules := by
  constructor
  · rintro ⟨rule, among, rejected⟩
    by_cases same : rule = .required
    · exact same ▸ among
    · exact absurd (passes.passes empty same) rejected
  · intro among
    exact ⟨.required, among, passes.demands empty⟩

/-- A least length above zero is stated. -/
def AsksForSome (resolved : Shape) (limits : Constraints) : Prop :=
  ∃ least greatest, lengthLimits? resolved limits = some (least, greatest) ∧ 0 < least.getD 0

theorem asks_for_some_text {primitive : Primitive} {limits : Constraints}
    (textual : primitive.kind.isTextual = true) :
    AsksForSome (.primitive primitive) limits ↔ 0 < limits.minLength.getD 0 := by
  simp [AsksForSome, lengthLimits?, textual]

theorem not_asks_for_some_number {primitive : Primitive} {limits : Constraints}
    (numeric : primitive.kind.isNumeric = true) : ¬ AsksForSome (.primitive primitive) limits := by
  simp [AsksForSome, lengthLimits?, not_textual numeric]

theorem asks_for_some_list {element : Shape} {minItems maxItems : Option Nat}
    {limits : Constraints} :
    AsksForSome (.array element minItems maxItems) limits ↔ 0 < minItems.getD 0 := by
  simp [AsksForSome, lengthLimits?]

theorem any_positive_iff {limit : Option Nat} : limit.any (0 < ·) = true ↔ 0 < limit.getD 0 := by
  cases limit <;> simp

/-- A required field asks for a value that is not empty iff a least length above zero is stated. -/
theorem required_mem_rules_iff {resolved : Shape} {field : Blueprint.Field Shape} {value : Value}
    (checked : field.skipValidation = false) (required : field.isRequired = true)
    (inhabits : Inhabits resolved value) :
    .required ∈ rulesOf resolved field ↔ AsksForSome resolved field.constraints := by
  cases inhabits with
  | text textual =>
      rw [rules_of_text checked textual, asks_for_some_text textual, ← any_positive_iff]
      simp [textRules, required]
  | number numeric =>
      rw [rules_of_number checked numeric]
      simp [numberRules, not_asks_for_some_number numeric]
  | list =>
      rw [rules_of_list checked, asks_for_some_list, ← any_positive_iff]
      simp [arrayRules, required]

theorem within_zero_iff {least greatest : Option Nat} :
    Within least greatest 0 ↔ least.getD 0 = 0 := by
  unfold Within
  cases least <;> simp

/-- What an empty value is overlooked for are the limits that it breaks while no length is asked
for. -/
theorem overlooks_iff {fits : String → String → Prop} {resolved : Shape} {limits : Constraints}
    {value : Value} (inhabits : Inhabits resolved value) (empty : value.IsEmpty) :
    Overlooks fits resolved limits ↔
      ¬ Meets fits resolved limits value ∧ ¬ AsksForSome resolved limits := by
  cases inhabits with
  | text textual =>
      cases empty
      rw [asks_for_some_text textual, Nat.pos_iff_ne_zero, not_not]
      constructor
      · intro overlooks
        cases overlooks with
        | pattern _ stated unfit unlimited =>
            exact ⟨fun meets => unfit (meets.2 _ stated), unlimited⟩
        | minimum numeric => exact absurd textual (by rw [not_textual numeric]; decide)
        | maximum numeric => exact absurd textual (by rw [not_textual numeric]; decide)
      · rintro ⟨broken, unlimited⟩
        by_contra noticed
        refine broken ⟨within_zero_iff.mpr unlimited, fun pattern stated => ?_⟩
        by_contra unfit
        exact noticed (.pattern textual stated unfit unlimited)
  | number numeric =>
      cases empty
      rw [iff_true_intro (not_asks_for_some_number numeric), and_true]
      constructor
      · rintro overlooks meets
        cases overlooks with
        | pattern textual => exact absurd textual (by rw [not_textual numeric]; decide)
        | minimum _ stated outside => exact outside (meets.1 _ stated)
        | maximum _ stated outside => exact outside (meets.2 _ stated)
      · intro broken
        by_contra noticed
        refine broken ⟨fun bound stated => ?_, fun bound stated => ?_⟩
        · by_contra outside
          exact noticed (.minimum numeric stated outside)
        · by_contra outside
          exact noticed (.maximum numeric stated outside)
  | @list element minItems maxItems =>
      cases empty
      rw [asks_for_some_list, Nat.pos_iff_ne_zero, not_not]
      constructor
      · intro overlooks
        cases overlooks
      · rintro ⟨broken, unlimited⟩
        refine absurd (fun least greatest limited => ?_) broken
        cases limited
        exact within_zero_iff.mpr unlimited

/-- The empty value of a required field is rejected whenever it breaks a limit, unless that limit is
a pattern or a bound without a least length beside it. -/
theorem empty_value_rejected_iff {outline : Outline} {field : Blueprint.Field Shape}
    {accepts : Rule → Value → Prop} {fits : String → String → Prop} {value : Value}
    (checked : field.skipValidation = false) (required : field.isRequired = true)
    (inhabits : Inhabits (outline.resolve field.shape) value) (empty : value.IsEmpty)
    (passes : PassesEmpty accepts) :
    (¬ Meets fits (outline.resolve field.shape) field.constraints value →
        ∃ rule ∈ outline.rules field, ¬ accepts rule value) ↔
      ¬ Overlooks fits (outline.resolve field.shape) field.constraints := by
  rw [passes.rejects_iff empty, Outline.rules, required_mem_rules_iff checked required inhabits,
    overlooks_iff inhabits empty]
  tauto

theorem crate_passes_no_weight :
    ∃ program field, (compile crate { package := "api", path := "" }).1 = .ok program ∧
      program.field? "Crate" "weight" = some field ∧ field.skipValidation = false ∧
      field.isRequired = true ∧
      ¬ Meets (fun _ _ => True) ((Outline.ofProgram program).resolve field.shape)
        field.constraints (.number 0) ∧
      ∀ rule ∈ (Outline.ofProgram program).rules field, documented rule (.number 0) := by
  have holds : (compileShort crate { package := "api", path := "" }).any fun program =>
      (program.field? "Crate" "weight").any fun field =>
        !field.skipValidation && field.isRequired &&
          (field.constraints == { minimum := some ⟨Binary64.ofInt 1, false⟩ }) &&
          (program.resolve field.shape).kind? == some .int := by decide +kernel
  obtain ⟨program, result, holds⟩ := compiled_of_short holds
  simp only [Option.any_eq_true, Bool.and_eq_true, Bool.not_eq_true', beq_iff_eq] at holds
  obtain ⟨field, found, ⟨⟨checked, required⟩, limits⟩, kind⟩ := holds
  obtain ⟨primitive, resolved, kind⟩ := kind_eq_some kind
  have resolves : (Outline.ofProgram program).resolve field.shape = .primitive primitive := by
    rw [Outline.resolve, outline_program, resolved]
  have numeric : primitive.kind.isNumeric = true := by rw [kind]; rfl
  have inhabits : Inhabits ((Outline.ofProgram program).resolve field.shape) (.number 0) := by
    rw [resolves]
    exact .number numeric
  have outside : ¬ Bound.IsBelow ⟨Binary64.ofInt 1, false⟩ 0 := by decide +kernel
  have overlooks : Overlooks (fun _ _ => True) ((Outline.ofProgram program).resolve field.shape)
      field.constraints := by
    rw [resolves, limits]
    exact .minimum numeric rfl outside
  have unnoticed := (empty_value_rejected_iff checked required inhabits rfl
    documented_passes_empty).not.mpr (not_not_intro overlooks)
  obtain ⟨broken, passed⟩ := Classical.not_imp.mp unnoticed
  push Not at passed
  exact ⟨program, field, result, found, checked, required, broken, passed⟩

end Server

end ApiScaffold
