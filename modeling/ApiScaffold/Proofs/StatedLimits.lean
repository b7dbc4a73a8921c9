import ApiScaffold.Proofs.IntegerBounds
import ApiScaffold.Proofs.ShortDocuments
import Mathlib.Order.OrderDual

/-!
What a schema states about the size of numbers, against the bounds that are made of it. A flag makes
the limit beside it exclusive, and nothing is lost. An exclusive limit that is a number of its own
takes the place of the limit beside it, in 53 binary digits: so all numbers are judged as stated
exactly if it has no more digits and is at least as tight as the other limit.
-/

namespace ApiScaffold

def JsonNumber.toRat : JsonNumber → ℚ
  | integer value => value
  | double value => value.toRat

namespace Blueprint

def isFlagged : Option Json → Bool
  | some (.bool flag) => flag
  | _ => false

def ownLimit? : Option Json → Option JsonNumber
  | some (.number number) => some number
  | _ => none

/-- The amount is admitted by the limit and by the exclusive keyword of one side. -/
def MeetsStated (lower : Bool) (limit : Option Binary64) (exclusive : Option Json) (amount : ℚ) :
    Prop :=
  (∀ value ∈ limit, Admitted lower (isFlagged exclusive) value.toRat amount) ∧
    ∀ number ∈ ownLimit? exclusive, Admitted lower true number.toRat amount

/-- Where the exclusive keyword is a limit itself, it can be written and no amount that it admits is
refused by the limit beside it. -/
def Tightens (lower : Bool) (limit : Option Binary64) (exclusive : Option Json) : Prop :=
  ∀ number ∈ ownLimit? exclusive, number.toBinary64.toRat = number.toRat ∧
    ∀ value ∈ limit, Admitted lower false value.toRat number.toRat

/-- Of two limits in a dense order, the exclusive one alone is left exactly if it is not above the
other. -/
theorem exclusive_alone_iff {α ι : Type} [LinearOrder α] [DenselyOrdered α] {made own : α}
    {limit : Option ι} {value : ι → α} :
    (∀ amount, made < amount ↔ (∀ other ∈ limit, value other ≤ amount) ∧ own < amount) ↔
      made = own ∧ ∀ other ∈ limit, value other ≤ own := by
  constructor
  · intro alike
    have reached : ∀ other ∈ limit, value other ≤ made := by
      intro other stated
      by_contra above
      obtain ⟨amount, beyond, below⟩ := exists_between (not_le.mp above)
      exact absurd (((alike amount).mp beyond).1 other stated) (not_le.mpr below)
    have same : made = own := by
      rcases lt_trichotomy made own with less | equal | greater
      · exact absurd ((alike own).mp less).2 (lt_irrefl own)
      · exact equal
      · exact absurd ((alike made).mpr ⟨reached, greater⟩) (lt_irrefl made)
    exact ⟨same, same ▸ reached⟩
  · rintro ⟨rfl, reached⟩ amount
    exact ⟨fun beyond => ⟨fun other stated => (reached other stated).trans beyond.le, beyond⟩,
      And.right⟩

/-- On one side, amounts meet what is made of the keywords as they meet the keywords, exactly if an
exclusive limit of its own tightens the one beside it. -/
theorem bound_kept_iff {limit : Option Binary64} {exclusive : Option Json}
    {keyword location : String} {made : Option Bound} (lower : Bool)
    (accepted : boundOf limit exclusive keyword location = .ok made) :
    (∀ amount, (∀ bound ∈ made, Admitted lower bound.exclusive bound.value.toRat amount) ↔
      MeetsStated lower limit exclusive amount) ↔ Tightens lower limit exclusive := by
  unfold boundOf at accepted
  split at accepted
  case h_1 =>
    cases accepted
    cases limit <;> simp [MeetsStated, Tightens, isFlagged, ownLimit?]
  case h_2 =>
    cases accepted
    cases limit <;> simp [MeetsStated, Tightens, isFlagged, ownLimit?]
  case h_3 =>
    split at accepted <;> cases accepted
    simp [MeetsStated, Tightens, isFlagged, ownLimit?]
  case h_4 number =>
    cases accepted
    simp only [MeetsStated, Tightens, isFlagged, ownLimit?, Option.mem_def, Option.some.injEq,
      forall_eq']
    cases lower with
    | true => exact exclusive_alone_iff
    | false => exact @exclusive_alone_iff ℚᵒᵈ _ _ _ _ _ _ _
  case h_5 => cases accepted

/-- The bounds that are made of a schema admit, on each side, the amounts that its keywords admit
exactly if an exclusive limit that is a number of its own tightens the one beside it. -/
theorem stated_limits_kept_iff {schema : OpenApi.Schema} {location : String} {limits : Constraints}
    (accepted : constraintsOf schema location = .ok limits) :
    ((∀ amount, (∀ bound ∈ limits.minimum, bound.IsBelow amount) ↔
        MeetsStated true schema.minimum schema.exclusiveMinimum amount) ↔
      Tightens true schema.minimum schema.exclusiveMinimum) ∧
    ((∀ amount, (∀ bound ∈ limits.maximum, bound.IsAbove amount) ↔
        MeetsStated false schema.maximum schema.exclusiveMaximum amount) ↔
      Tightens false schema.maximum schema.exclusiveMaximum) := by
  obtain ⟨least, greatest, made, above, rfl⟩ := constraints_of_eq_ok accepted
  simp only [Bound.is_below_iff, Bound.is_above_iff]
  exact ⟨bound_kept_iff true made, bound_kept_iff false above⟩

def doseAmount : OpenApi.Schema where
  type := some (.single "number")
  minimum := some (Binary64.ofInt 5)
  exclusiveMinimum := some (.number (.integer 1))

def dose : OpenApi.Document where
  specification := {
    openapi := "3.0.0"
    components := { schemas := [("dose", .object {
      type := some (.single "object")
      properties := [("amount", .object doseAmount)] })] } }
  raw := .null

theorem dose_loses_minimum :
    ∃ program field limits, (compile dose { package := "api", path := "" }).1 = .ok program ∧
      program.field? "Dose" "amount" = some field ∧ field.constraints = limits ∧
      constraintsOf doseAmount "#/components/schemas/dose/properties/amount" = .ok limits ∧
      ∃ amount, ¬ ((∀ bound ∈ limits.minimum, bound.IsBelow amount) ↔
        MeetsStated true doseAmount.minimum doseAmount.exclusiveMinimum amount) := by
  let limits : Constraints := { minimum := some ⟨Binary64.ofInt 1, true⟩ }
  have holds : (compileShort dose { package := "api", path := "" }).any fun program =>
      (program.field? "Dose" "amount").any fun field => field.constraints == limits := by
    decide +kernel
  obtain ⟨program, drawn, known⟩ := compiled_of_short holds
  simp only [Option.any_eq_true, beq_iff_eq] at known
  obtain ⟨field, found, kept⟩ := known
  have accepted : constraintsOf doseAmount "#/components/schemas/dose/properties/amount" =
      .ok limits := rfl
  have loose : ¬ Tightens true doseAmount.minimum doseAmount.exclusiveMinimum := by
    intro tightens
    have above : (Binary64.ofInt 5).toRat ≤ 1 := (tightens (.integer 1) rfl).2 _ rfl
    exact absurd above (by decide +kernel)
  have differs := not_forall.mp ((stated_limits_kept_iff accepted).1.not.mpr loose)
  exact ⟨program, field, limits, drawn, found, kept, accepted, differs⟩

end Blueprint

end ApiScaffold
